import Mathlib.Data.List.Induction
import Mathlib.Data.List.TakeWhile
import Mathlib.Logic.Function.Basic
import Mathlib.Tactic.Common

/-!
# Texts of assignments

A text whose lines are assignments, a key and a value with a separator between them: the lines as
`getline` gives them (`getLines`), and the split at the first separator (`splitAtFirst`).  What is
assigned goes into a table one entry after another.  Whether a table replaces a value that it has
(`insertInto`) decides which of the values of a key is in force in the end, and nothing else does
(`foldl_insertInto`): entries of other keys do not matter, nor does their order.
-/

namespace LoadBalance

/-! ### Lines -/

/-- The lines that `getline` gives when `line` is read already: the last one counts without a
newline too, unless it is empty. -/
def linesFrom (line : List Char) : List Char → List (List Char)
  | [] => if line = [] then [] else [line]
  | c :: s => if c = '\n' then line :: linesFrom [] s else linesFrom (line ++ [c]) s

/-- The lines of a text. -/
def getLines (text : List Char) : List (List Char) := linesFrom [] text

/-- The text of lines. -/
def ofLines (lines : List (List Char)) : List Char := lines.flatMap fun line => line ++ ['\n']

/-- A line up to its newline is read as a whole. -/
theorem linesFrom_append {line : List Char} (hline : '\n' ∉ line) (start s : List Char) :
    linesFrom start (line ++ '\n' :: s) = (start ++ line) :: getLines s := by
  induction line generalizing start with
  | nil =>
    rw [List.nil_append, linesFrom, if_pos rfl, List.append_nil]
    rfl
  | cons c line ih =>
    have hc : c ≠ '\n' := fun h => hline (h ▸ List.mem_cons_self)
    rw [List.cons_append, linesFrom, if_neg hc, ih fun h => hline (List.mem_cons_of_mem _ h),
      List.append_assoc]
    rfl

/-- Reading gives back what was written. -/
theorem getLines_ofLines {lines : List (List Char)} (h : ∀ line ∈ lines, '\n' ∉ line) :
    getLines (ofLines lines) = lines := by
  induction lines with
  | nil => rfl
  | cons line lines ih =>
    obtain ⟨hline, hlines⟩ := List.forall_mem_cons.mp h
    have htext : ofLines (line :: lines) = line ++ '\n' :: ofLines lines := by
      unfold ofLines
      rw [List.flatMap_cons, List.append_assoc]
      rfl
    rw [htext, getLines, linesFrom_append hline, List.nil_append, ih hlines]

/-! ### Assignments -/

section

variable {α : Type*} [DecidableEq α]

/-- What stands before the first separator and what stands after it; all of it and nothing when
there is none. -/
def splitAtFirst (sep : α) (l : List α) : List α × List α :=
  (l.takeWhile (· ≠ sep), (l.dropWhile (· ≠ sep)).tail)

theorem splitAtFirst_append {sep : α} {key : List α} (hkey : sep ∉ key) (value : List α) :
    splitAtFirst sep (key ++ sep :: value) = (key, value) := by
  have hall : ∀ a ∈ key, decide (a ≠ sep) = true := by
    intro a ha
    exact decide_eq_true fun h => hkey (h ▸ ha)
  unfold splitAtFirst
  rw [List.takeWhile_append_of_pos hall, List.dropWhile_append_of_pos hall]
  simp

end

/-! ### Tables -/

section

variable {κ υ : Type*} [DecidableEq κ] (replaces : Bool)

/-- A value comes into a table, which may replace a value that it has for the key. -/
def insertInto (table : κ → Option υ) (key : κ) (value : υ) : κ → Option υ :=
  if replaces || (table key).isNone then Function.update table key (some value) else table

/-- Of values that come into a table with one key, the one that stays. -/
def inForce (values : List υ) : Option υ := if replaces then values.getLast? else values.head?

/-- The values that the entries have for a key. -/
def valuesFor (entries : List (κ × υ)) (key : κ) : List υ :=
  (entries.filter fun e => e.1 = key).map Prod.snd

theorem valuesFor_append (entries entries' : List (κ × υ)) (key : κ) :
    valuesFor (entries ++ entries') key = valuesFor entries key ++ valuesFor entries' key := by
  unfold valuesFor
  rw [List.filter_append, List.map_append]

theorem valuesFor_singleton (e : κ × υ) (key : κ) :
    valuesFor [e] key = if e.1 = key then [e.2] else [] := by
  unfold valuesFor
  split_ifs with h <;> simp [h]

@[simp] theorem inForce_nil : inForce replaces ([] : List υ) = none := by
  unfold inForce
  split_ifs <;> rfl

@[simp] theorem inForce_singleton (value : υ) : inForce replaces [value] = some value := by
  unfold inForce
  split_ifs <;> rfl

theorem inForce_eq_none_iff {values : List υ} : inForce replaces values = none ↔ values = [] := by
  unfold inForce
  split_ifs
  · exact List.getLast?_eq_none_iff
  · exact List.head?_eq_none_iff

theorem inForce_concat (values : List υ) (value : υ) :
    inForce replaces (values ++ [value]) =
      if replaces || (inForce replaces values).isNone then some value
        else inForce replaces values := by
  unfold inForce
  cases replaces with
  | true => simp
  | false => cases values <;> rfl

theorem inForce_map {ω : Type*} (f : υ → ω) (values : List υ) :
    inForce replaces (values.map f) = (inForce replaces values).map f := by
  unfold inForce
  split_ifs <;> simp

/-- What is in a table in the end is in force among the values of the key. -/
theorem foldl_insertInto (entries : List (κ × υ)) (key : κ) :
    entries.foldl (fun table e => insertInto replaces table e.1 e.2) (fun _ => none) key =
      inForce replaces (valuesFor entries key) := by
  induction entries using List.reverseRecOn with
  | nil => exact (inForce_nil replaces).symm
  | append_singleton entries e ih =>
    rw [List.foldl_append, List.foldl_cons, List.foldl_nil, valuesFor_append, valuesFor_singleton]
    generalize entries.foldl (fun table e => insertInto replaces table e.1 e.2) (fun _ => none) =
      table at ih ⊢
    unfold insertInto
    by_cases hkey : e.1 = key
    · subst hkey
      rw [if_pos rfl, inForce_concat, ← ih]
      split_ifs
      · exact Function.update_self ..
      · rfl
    · rw [if_neg hkey, List.append_nil, ← ih]
      split_ifs
      · exact Function.update_of_ne (Ne.symm hkey) ..
      · rfl

end

end LoadBalance
