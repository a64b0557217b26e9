import LoadBalance.Library.Transition
import Mathlib.Data.List.Basic

/-!
# Outboxes

What is posted to a loop is handed on by it later, one piece in a turn, to whoever hears it at that
time.  An `Outbox` keeps everything that was ever posted, the place up to which it was handed on,
and what each of the receivers has got.  Along a run a receiver gets, in their order and without
repetition, some of the pieces that are handed on (`exists_got`), and all of them iff it hears each
of them (`got_eq_handed_iff`); as many turns as there are pieces waiting hand on all of them
(`min_le_cursor_run`). -/

namespace LoadBalance

/-- The pieces that were posted, how many of them have been handed on, and who got what. -/
structure Outbox (ι α : Type) where
  posted : List α
  cursor : ℕ
  cursor_le : cursor ≤ posted.length
  received : ι → List α

namespace Outbox

variable {ι α : Type}

/-- What happens to an outbox. -/
inductive Turn (ι α : Type) where
  | post (pieces : List α)
  /-- The next piece, if there is one, is handed on to those who hear it. -/
  | handOn (hears : ι → Bool)

/-- More pieces wait. -/
def post (o : Outbox ι α) (pieces : List α) : Outbox ι α where
  posted := o.posted ++ pieces
  cursor := o.cursor
  cursor_le := by
    rw [List.length_append]
    exact Nat.le_add_right_of_le o.cursor_le
  received := o.received

/-- The piece at the cursor is handed on. -/
def handOn (o : Outbox ι α) (hears : ι → Bool) (h : o.cursor < o.posted.length) : Outbox ι α where
  posted := o.posted
  cursor := o.cursor + 1
  cursor_le := h
  received i := if hears i then o.received i ++ [o.posted.get ⟨o.cursor, h⟩] else o.received i

/-- The outbox after a turn. -/
def turn (o : Outbox ι α) : Turn ι α → Outbox ι α
  | .post pieces => o.post pieces
  | .handOn hears => if h : o.cursor < o.posted.length then o.handOn hears h else o

theorem turn_of_lt {o : Outbox ι α} {hears : ι → Bool} (h : o.cursor < o.posted.length) :
    o.turn (.handOn hears) = o.handOn hears h := dif_pos h

theorem turn_of_le {o : Outbox ι α} {hears : ι → Bool} (h : o.posted.length ≤ o.cursor) :
    o.turn (.handOn hears) = o := dif_neg (not_lt.mpr h)

/-- If the turn hands on a piece, the receiver hears it. -/
def Hears (i : ι) (o : Outbox ι α) : Turn ι α → Prop
  | .post _ => True
  | .handOn hears => o.cursor < o.posted.length → hears i = true

/-- The turn is one that hands on. -/
def Turn.handsOn : Turn ι α → Bool
  | .post _ => false
  | .handOn _ => true

/-- The pieces that were handed on since the cursor was at `n`. -/
def handedSince (o : Outbox ι α) (n : ℕ) : List α := (o.posted.take o.cursor).drop n

/-! ### Later outboxes -/

/-- More was posted, and more handed on. -/
structure Later (o o' : Outbox ι α) : Prop where
  posted : o.posted <+: o'.posted
  cursor : o.cursor ≤ o'.cursor

theorem Later.refl (o : Outbox ι α) : Later o o := ⟨List.prefix_rfl, le_rfl⟩

theorem Later.trans {o o' o'' : Outbox ι α} (h : Later o o') (h' : Later o' o'') : Later o o'' :=
  ⟨h.posted.trans h'.posted, h.cursor.trans h'.cursor⟩

theorem later_turn (o : Outbox ι α) (t : Turn ι α) : Later o (o.turn t) := by
  cases t with
  | post pieces => exact ⟨List.prefix_append _ _, le_rfl⟩
  | handOn hears =>
    rcases lt_or_ge o.cursor o.posted.length with h | h
    · rw [turn_of_lt h]
      exact ⟨List.prefix_rfl, Nat.le_succ _⟩
    · rw [turn_of_le h]
      exact Later.refl o

theorem later_run (o : Outbox ι α) (ts : List (Turn ι α)) : Later o (run turn o ts) :=
  run_invariant' (fun s t h => h.trans (later_turn s t)) ts (Later.refl o)

@[simp] theorem handedSince_cursor (o : Outbox ι α) : o.handedSince o.cursor = [] :=
  List.drop_eq_nil_of_le (List.length_take_le _ _)

/-- What was handed on up to a time, and from then on. -/
theorem handedSince_eq_append {o o' : Outbox ι α} (h : Later o o') {n : ℕ} (hn : n ≤ o.cursor) :
    o'.handedSince n = o.handedSince n ++ o'.handedSince o.cursor := by
  have htake : o.posted.take o.cursor = (o'.posted.take o'.cursor).take o.cursor := by
    rw [List.take_take, min_eq_left h.cursor]
    obtain ⟨more, hmore⟩ := h.posted
    rw [← hmore, List.take_append_of_le_length o.cursor_le]
  unfold handedSince
  rw [htake]
  generalize o'.posted.take o'.cursor = l
  calc l.drop n
      = (l.take o.cursor ++ l.drop o.cursor).drop n := by rw [List.take_append_drop]
    _ = (l.take o.cursor).drop n ++ l.drop o.cursor := by
      rw [List.drop_append]
      by_cases hlen : o.cursor ≤ l.length
      · rw [List.length_take_of_le hlen, Nat.sub_eq_zero_of_le hn, List.drop_zero]
      · rw [List.drop_eq_nil_of_le (le_of_not_ge hlen), List.drop_nil]

/-! ### What a receiver gets -/

/-- In one turn a receiver gets nothing, or the piece that is handed on; that it gets all of it
means that it hears it. -/
theorem exists_got_turn (o : Outbox ι α) (t : Turn ι α) (i : ι) :
    ∃ got, (o.turn t).received i = o.received i ++ got ∧
      got.Sublist ((o.turn t).handedSince o.cursor) ∧
      (got = (o.turn t).handedSince o.cursor ↔ Hears i o t) := by
  cases t with
  | post pieces =>
    have hnone : (o.post pieces).handedSince o.cursor = [] := handedSince_cursor (o.post pieces)
    exact ⟨[], (List.append_nil _).symm, List.nil_sublist _, iff_of_true hnone.symm trivial⟩
  | handOn hears =>
    unfold Hears
    rcases lt_or_ge o.cursor o.posted.length with h | h
    · rw [turn_of_lt h]
      have hone : (o.handOn hears h).handedSince o.cursor = [o.posted.get ⟨o.cursor, h⟩] := by
        show (o.posted.take (o.cursor + 1)).drop o.cursor = _
        rw [List.drop_take, Nat.add_sub_cancel_left, List.drop_eq_getElem_cons h]
        rfl
      rw [hone]
      by_cases hi : hears i = true
      · exact ⟨_, if_pos hi, List.Sublist.refl _, iff_of_true rfl fun _ => hi⟩
      · refine ⟨[], (if_neg hi).trans (List.append_nil _).symm, List.nil_sublist _, ?_⟩
        exact iff_of_false (List.cons_ne_nil _ _).symm fun hhears => hi (hhears h)
    · rw [turn_of_le h]
      exact ⟨[], (List.append_nil _).symm, List.nil_sublist _,
        iff_of_true (handedSince_cursor o).symm fun h' => absurd h' (not_lt.mpr h)⟩

/-- Two sublists make up the two lists together iff each is its list. -/
theorem append_eq_append_iff_of_sublist {l₁ l₂ m₁ m₂ : List α} (h₁ : l₁.Sublist m₁)
    (h₂ : l₂.Sublist m₂) : l₁ ++ l₂ = m₁ ++ m₂ ↔ l₁ = m₁ ∧ l₂ = m₂ := by
  constructor
  · intro h
    have hlen := congrArg List.length h
    rw [List.length_append, List.length_append] at hlen
    have hle₁ := h₁.length_le
    have hle₂ := h₂.length_le
    exact ⟨h₁.eq_of_length (by omega), h₂.eq_of_length (by omega)⟩
  · rintro ⟨rfl, rfl⟩
    rfl

/-- Along a run a receiver gets some of what is handed on, in its order, and all of it iff it hears
every piece. -/
theorem exists_got (o : Outbox ι α) (ts : List (Turn ι α)) (i : ι) :
    ∃ got, (run turn o ts).received i = o.received i ++ got ∧
      got.Sublist ((run turn o ts).handedSince o.cursor) ∧
      (got = (run turn o ts).handedSince o.cursor ↔ Meets turn (Hears i) o ts) := by
  induction ts generalizing o with
  | nil =>
    exact ⟨[], (List.append_nil _).symm, List.nil_sublist _,
      iff_of_true (handedSince_cursor o).symm trivial⟩
  | cons t ts ih =>
    obtain ⟨got, hgot, hsub, hall⟩ := exists_got_turn o t i
    obtain ⟨got', hgot', hsub', hall'⟩ := ih (o.turn t)
    have hhanded := handedSince_eq_append (later_run (o.turn t) ts) (later_turn o t).cursor
    refine ⟨got ++ got', ?_, ?_, ?_⟩
    · rw [run_cons, hgot', hgot, List.append_assoc]
    · rw [run_cons, hhanded]
      exact hsub.append hsub'
    · rw [run_cons, hhanded, append_eq_append_iff_of_sublist hsub hsub', hall, hall', meets_cons]

/-! ### How far the cursor comes -/

/-- Each turn that hands on brings the cursor further, up to the end of what had been posted. -/
theorem min_le_cursor_run (o : Outbox ι α) (ts : List (Turn ι α)) :
    min (o.cursor + ts.countP Turn.handsOn) o.posted.length ≤ (run turn o ts).cursor := by
  induction ts generalizing o with
  | nil => exact Nat.min_le_left _ _
  | cons t ts ih =>
    have hlength := (later_turn o t).posted.length_le
    have hnext : min (o.cursor + (if t.handsOn then 1 else 0)) o.posted.length ≤
        (o.turn t).cursor := by
      cases t with
      | post pieces => exact Nat.min_le_left _ _
      | handOn hears =>
        rcases lt_or_ge o.cursor o.posted.length with h | h
        · rw [turn_of_lt h]
          exact Nat.min_le_left _ _
        · rw [turn_of_le h]
          exact (Nat.min_le_right _ _).trans h
    have hrest := ih (o.turn t)
    rw [List.countP_cons, run_cons]
    omega

end Outbox

end LoadBalance
