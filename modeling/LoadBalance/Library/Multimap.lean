import Mathlib.Data.List.AList
import Mathlib.Data.List.Count
import Mathlib.Tactic.Common

/-!
# Maps from keys to lists of values

`Multimap α β` is what C++ writes `unordered_map<K, vector<V>>`.  Only two updates are used on
it: `push` appends a value under a key and creates the key when needed, `eraseFirst` removes one
occurrence of a value under a key and drops the key when its list becomes empty.  Both are
described by what they do to the list at each key (`at_push`, `at_eraseFirst`), and from these by
what they do to the number of occurrences.
-/

namespace LoadBalance

/-- A replaced value is read at its key, and at no other. -/
theorem lookup_replace {α β : Type} [DecidableEq α] (m : AList fun _ : α => β) (k k' : α) (v : β) :
    (m.replace k v).lookup k' = if k' = k then (m.lookup k).map fun _ => v else m.lookup k' := by
  show (m.entries.kreplace k v).dlookup k' =
    if k' = k then (m.entries.dlookup k).map fun _ => v else m.entries.dlookup k'
  induction m.entries with
  | nil => split_ifs <;> rfl
  | cons e l ih =>
    obtain ⟨k₀, v₀⟩ := e
    unfold List.kreplace at ih ⊢
    rw [List.lookmap_cons]
    by_cases h : k = k₀
    · subst h
      rw [if_pos rfl]
      split_ifs with hk
      · subst hk
        rw [List.dlookup_cons_eq, List.dlookup_cons_eq]
        rfl
      · rw [List.dlookup_cons_ne _ _ hk, List.dlookup_cons_ne _ _ hk]
    · rw [if_neg h, List.dlookup_cons_ne l ⟨k₀, v₀⟩ h]
      dsimp only
      by_cases h' : k' = k₀
      · subst h'
        rw [List.dlookup_cons_eq, if_neg (Ne.symm h), List.dlookup_cons_eq]
      · rw [List.dlookup_cons_ne _ _ h', List.dlookup_cons_ne _ _ h', ih]
/-- A map from keys to lists of values, each key at most once. -/
abbrev Multimap (α β : Type) := AList fun _ : α => List β

namespace Multimap

variable {α β : Type} [DecidableEq α] [DecidableEq β]

/-- The list at a key, empty for a key that is not there. -/
def at' (m : Multimap α β) (k : α) : List β := (m.lookup k).getD []

/-- Append a value at a key. -/
def push (m : Multimap α β) (k : α) (v : β) : Multimap α β := m.insert k (m.at' k ++ [v])

/-- Remove the first occurrence of a value at a key; the key goes with its last value. -/
def eraseFirst (m : Multimap α β) (k : α) (v : β) : Multimap α β :=
  match m.lookup k with
  | none => m
  | some l => if (l.erase v).isEmpty then m.erase k else m.insert k (l.erase v)

/-- No key is kept for an empty list. -/
def NoEmpty (m : Multimap α β) : Prop := ∀ k, m.lookup k ≠ some []

omit [DecidableEq β] in
@[simp] theorem at_empty (k : α) : at' (∅ : Multimap α β) k = [] := rfl

omit [DecidableEq β] in
theorem at_push (m : Multimap α β) (k k' : α) (v : β) :
    (m.push k v).at' k' = if k' = k then m.at' k ++ [v] else m.at' k' := by
  unfold push
  split_ifs with h
  · subst h; simp [at']
  · simp [at', AList.lookup_insert_ne h]

theorem at_eraseFirst (m : Multimap α β) (k k' : α) (v : β) :
    (m.eraseFirst k v).at' k' = if k' = k then (m.at' k).erase v else m.at' k' := by
  unfold eraseFirst
  cases hl : m.lookup k with
  | none =>
    split_ifs with h
    · subst h; simp [at', hl]
    · rfl
  | some l =>
    dsimp only
    split_ifs with he h h
    · subst h; simpa [at', hl, AList.lookup_erase] using (List.isEmpty_iff.mp he).symm
    · simp [at', AList.lookup_erase_ne h]
    · subst h; simp [at', hl]
    · simp [at', AList.lookup_insert_ne h]

theorem count_at_push (m : Multimap α β) (k k' : α) (v v' : β) :
    ((m.push k v).at' k').count v' =
      (m.at' k').count v' + if k' = k ∧ v' = v then 1 else 0 := by
  rw [at_push]
  by_cases hk : k' = k
  · subst hk
    by_cases hv : v' = v
    · subst hv; simp
    · simp [hv, Ne.symm hv]
  · simp [hk]

theorem count_at_eraseFirst (m : Multimap α β) (k k' : α) (v v' : β) :
    ((m.eraseFirst k v).at' k').count v' =
      (m.at' k').count v' - if k' = k ∧ v' = v then 1 else 0 := by
  rw [at_eraseFirst]
  by_cases hk : k' = k
  · subst hk
    by_cases hv : v' = v
    · subst hv; simp
    · simp [hv, List.count_erase_of_ne hv]
  · simp [hk]

omit [DecidableEq β] in
theorem noEmpty_empty : NoEmpty (∅ : Multimap α β) := fun k => by simp

omit [DecidableEq β] in
theorem NoEmpty.push {m : Multimap α β} (hm : m.NoEmpty) (k : α) (v : β) :
    (m.push k v).NoEmpty := by
  intro k'
  unfold Multimap.push
  by_cases h : k' = k
  · subst h; simp
  · rw [AList.lookup_insert_ne h]; exact hm k'

theorem NoEmpty.eraseFirst {m : Multimap α β} (hm : m.NoEmpty) (k : α) (v : β) :
    (m.eraseFirst k v).NoEmpty := by
  intro k'
  unfold Multimap.eraseFirst
  cases hl : m.lookup k with
  | none => exact hm k'
  | some l =>
    dsimp only
    by_cases h : k' = k
    · subst h
      split_ifs with he
      · simp [AList.lookup_erase]
      · rw [AList.lookup_insert]
        exact fun h => he (List.isEmpty_iff.mpr (Option.some.inj h))
    · split_ifs with he
      · rw [AList.lookup_erase_ne h]; exact hm k'
      · rw [AList.lookup_insert_ne h]; exact hm k'

end Multimap

end LoadBalance
