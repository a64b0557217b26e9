import Mathlib.Data.List.Forall2
import Mathlib.Tactic.Common

/-!
# Lists and options that are related

`List.Forall₂ R` and `Option.Rel R` relate lists and options element by element.  A relation of two
states of a store that is stated with them can be carried through searches and composed along a
run.
-/

namespace LoadBalance

variable {α β γ : Type*}

theorem forall₂_refl {R : α → α → Prop} (hR : ∀ a, R a a) (l : List α) : List.Forall₂ R l l :=
  List.forall₂_same.mpr fun a _ => hR a

theorem forall₂_trans {R : α → β → Prop} {S : β → γ → Prop} {T : α → γ → Prop}
    (hRST : ∀ a b c, R a b → S b c → T a c) {as : List α} {bs : List β} {cs : List γ}
    (h : List.Forall₂ R as bs) (h' : List.Forall₂ S bs cs) : List.Forall₂ T as cs := by
  induction h generalizing cs with
  | nil =>
    cases h'
    exact .nil
  | cons hab _ ih =>
    cases h' with
    | cons hbc h' => exact .cons (hRST _ _ _ hab hbc) (ih h')

/-- The partner of an element. -/
theorem exists_of_forall₂_left {R : α → β → Prop} {as : List α} {bs : List β}
    (h : List.Forall₂ R as bs) {a : α} (ha : a ∈ as) : ∃ b ∈ bs, R a b := by
  induction h with
  | nil => cases ha
  | cons hab _ ih =>
    rcases List.mem_cons.mp ha with rfl | htail
    · exact ⟨_, List.mem_cons_self, hab⟩
    · obtain ⟨b, hb, h⟩ := ih htail
      exact ⟨b, List.mem_cons_of_mem _ hb, h⟩

theorem exists_of_forall₂_right {R : α → β → Prop} {as : List α} {bs : List β}
    (h : List.Forall₂ R as bs) {b : β} (hb : b ∈ bs) : ∃ a ∈ as, R a b :=
  exists_of_forall₂_left (R := fun b a => R a b) h.flip hb

/-- A search finds elements that correspond to each other, when it does not tell them apart. -/
theorem rel_find? {R : α → β → Prop} {p : α → Bool} {q : β → Bool} {as : List α} {bs : List β}
    (h : List.Forall₂ R as bs) (hpq : ∀ a b, R a b → q b = p a) :
    Option.Rel R (as.find? p) (bs.find? q) := by
  induction h with
  | nil => exact .none
  | @cons a b _ _ hab _ ih =>
    rw [List.find?_cons, List.find?_cons, hpq a b hab]
    cases p a with
    | true => exact .some hab
    | false => exact ih

theorem optionRel_refl {R : α → α → Prop} (hR : ∀ a, R a a) (x : Option α) : Option.Rel R x x := by
  cases x with
  | none => exact .none
  | some a => exact .some (hR a)

theorem optionRel_trans {R : α → β → Prop} {S : β → γ → Prop} {T : α → γ → Prop}
    (hRST : ∀ a b c, R a b → S b c → T a c) {x : Option α} {y : Option β} {z : Option γ}
    (h : Option.Rel R x y) (h' : Option.Rel S y z) : Option.Rel T x z := by
  cases h with
  | none =>
    cases h'
    exact .none
  | some hab =>
    cases h' with
    | some hbc => exact .some (hRST _ _ _ hab hbc)

theorem optionRel_bind {δ : Type*} {R : α → β → Prop} {S : γ → δ → Prop} {x : Option α}
    {y : Option β} {f : α → Option γ} {g : β → Option δ} (h : Option.Rel R x y)
    (hfg : ∀ a b, R a b → Option.Rel S (f a) (g b)) : Option.Rel S (x.bind f) (y.bind g) := by
  cases h with
  | none => exact .none
  | some hab => exact hfg _ _ hab

/-- What is known of the elements beside their relation. -/
theorem optionRel_and {R : α → β → Prop} {p : α → Prop} {q : β → Prop} {x : Option α}
    {y : Option β} (h : Option.Rel R x y) (hp : ∀ a, x = some a → p a)
    (hq : ∀ b, y = some b → q b) : Option.Rel (fun a b => p a ∧ q b ∧ R a b) x y := by
  cases h with
  | none => exact .none
  | some hab => exact .some ⟨hp _ rfl, hq _ rfl, hab⟩

end LoadBalance
