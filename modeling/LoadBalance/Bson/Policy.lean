import LoadBalance.Bson.Collection
import Mathlib.Logic.Relation

/-!
# What updates may do to documents

A `Rule` says how the value of a field may come to be another one, as a preorder; a `Policy` gives a
rule for each field.  A collection keeps to a policy (`Policy.Keeps`) when its documents stay, in
their order and with their ids, change by the rules, and new ones come to the end.  An update keeps
to a policy as soon as its operator follows the rule of its field (`keeps_update`). -/

namespace LoadBalance

/-- How the value of a field may change, in any number of steps. -/
structure Rule where
  rel : Option Bson → Option Bson → Prop
  refl : ∀ w, rel w w
  trans : ∀ u v w, rel u v → rel v w → rel u w

namespace Rule

/-- The value stays as it is. -/
def same : Rule where
  rel w w' := w' = w
  refl _ := rfl
  trans _ _ _ h h' := h'.trans h

/-- Nothing is promised. -/
def anything : Rule where
  rel _ _ := True
  refl _ := trivial
  trans _ _ _ _ _ := trivial

/-- An operator is applied any number of times. -/
def repeated (op : Option Bson → Option Bson) : Rule where
  rel := Relation.ReflTransGen fun w w' => ∃ v, op w = some v ∧ w' = some v
  refl _ := Relation.ReflTransGen.refl
  trans _ _ _ := Relation.ReflTransGen.trans

/-- Elements come to the end of an array, which is new if there was none. -/
def grows : Rule where
  rel w w' := w' = w ∨
    ∃ a b, (w = none ∧ a = [] ∨ w = some (.array a)) ∧ w' = some (.array (a ++ b))
  refl _ := Or.inl rfl
  trans u v w := by
    rintro (rfl | ⟨a, b, hu, rfl⟩) h'
    · exact h'
    rcases h' with rfl | ⟨a', b', hv, rfl⟩
    · exact Or.inr ⟨a, b, hu, rfl⟩
    · obtain rfl : a' = a ++ b := by
        rcases hv with ⟨hnone, -⟩ | heq
        · cases hnone
        · exact (Bson.array.inj (Option.some.inj heq)).symm
      exact Or.inr ⟨a, b ++ b', hu, by rw [List.append_assoc]⟩

/-- The elements of an array change, each in its place. -/
def elementwise (R : Bson → Bson → Prop)
    (htrans : ∀ e e' e'', R e e' → R e' e'' → R e e'') : Rule where
  rel w w' := w' = w ∨ ∃ a a', w = some (.array a) ∧ w' = some (.array a') ∧ List.Forall₂ R a a'
  refl _ := Or.inl rfl
  trans u v w := by
    rintro (rfl | ⟨a, a', rfl, rfl, h⟩) h'
    · exact h'
    rcases h' with rfl | ⟨b, b', hv, rfl, h'⟩
    · exact Or.inr ⟨a, a', rfl, rfl, h⟩
    · obtain rfl := Bson.array.inj (Option.some.inj hv)
      exact Or.inr ⟨a, b', rfl, rfl, forall₂_trans htrans h h'⟩

/-! ### The operators -/

theorem repeated_of_op {op : Option Bson → Option Bson} {w : Option Bson} {v : Bson}
    (h : op w = some v) : (repeated op).rel w (some v) :=
  Relation.ReflTransGen.single ⟨v, h, rfl⟩

/-- A push is to the end. -/
theorem grows_pushOp {x v : Bson} {w : Option Bson} (h : pushOp x w = some v) :
    grows.rel w (some v) := by
  unfold pushOp at h
  split at h
  · obtain rfl := Option.some.inj h
    exact Or.inr ⟨[], [x], Or.inl ⟨rfl, rfl⟩, rfl⟩
  · obtain rfl := Option.some.inj h
    exact Or.inr ⟨_, [x], Or.inr rfl, rfl⟩
  · cases h

/-- An element of which a field is set: what holds of this change, holds of the array. -/
theorem elementwise_setElementOp {R : Bson → Bson → Prop}
    (htrans : ∀ e e' e'', R e e' → R e' e'' → R e e'') {k field : String} {o : Oid} {value v : Bson}
    {w : Option Bson} (hrefl : ∀ e, R e e)
    (hset : ∀ d : Doc, R (.document d) (.document (d.set field value)))
    (h : setElementOp k o field value w = some v) :
    (elementwise R htrans).rel w (some v) := by
  unfold setElementOp at h
  split at h
  · obtain ⟨a', ha', rfl⟩ := Option.map_eq_some_iff.mp h
    refine Or.inr ⟨_, a', rfl, rfl, ?_⟩
    rcases modifyFirst_cases ha' with ⟨-, rfl⟩ | ⟨as, x, y, bs, rfl, -, -, hxy, rfl⟩
    · exact forall₂_refl hrefl _
    · refine List.rel_append (forall₂_refl hrefl as) (.cons ?_ (forall₂_refl hrefl bs))
      split at hxy
      · obtain rfl := Option.some.inj hxy
        exact hset _
      · cases hxy
  · cases h

end Rule

/-- A rule for each field. -/
abbrev Policy := String → Rule

namespace Policy

variable {p : Policy}

/-- The document changed by the rules. -/
def Follows (p : Policy) (d d' : StoredDoc) : Prop :=
  d'.id = d.id ∧ ∀ k, (p k).rel (d.fields.get? k) (d'.fields.get? k)

theorem Follows.refl (d : StoredDoc) : p.Follows d d := ⟨rfl, fun k => (p k).refl _⟩

theorem follows_trans (d d' d'' : StoredDoc) (h : p.Follows d d') (h' : p.Follows d' d'') :
    p.Follows d d'' :=
  ⟨h'.1.trans h.1, fun k => (p k).trans _ _ _ (h.2 k) (h'.2 k)⟩

/-- A field is set by its rule. -/
theorem follows_set {d d' : StoredDoc} {k : String} {v : Bson} (hid : d'.id = d.id)
    (hfields : d'.fields = d.fields.set k v) (hv : (p k).rel (d.fields.get? k) (some v)) :
    p.Follows d d' := by
  refine ⟨hid, fun k' => ?_⟩
  rw [hfields]
  by_cases hk : k' = k
  · subst hk
    rw [Doc.get?_set_self]
    exact hv
  · rw [Doc.get?_set_ne _ _ hk]
    exact (p k').refl _

/-- The documents are the same ones, changed by the rules. -/
def Changes (p : Policy) (c c' : Collection) : Prop := List.Forall₂ p.Follows c.docs c'.docs

/-- Besides, new ones came to the end. -/
def Keeps (p : Policy) (c c' : Collection) : Prop :=
  ∃ kept new, c'.docs = kept ++ new ∧ List.Forall₂ p.Follows c.docs kept

theorem Changes.refl (c : Collection) : p.Changes c c := forall₂_refl Follows.refl _

theorem Changes.trans {c c' c'' : Collection} (h : p.Changes c c') (h' : p.Changes c' c'') :
    p.Changes c c'' := forall₂_trans follows_trans h h'

theorem Changes.keeps {c c' : Collection} (h : p.Changes c c') : p.Keeps c c' :=
  ⟨c'.docs, [], (List.append_nil _).symm, h⟩

theorem Keeps.refl (c : Collection) : p.Keeps c c := (Changes.refl c).keeps

theorem Keeps.trans {c c' c'' : Collection} (h : p.Keeps c c') (h' : p.Keeps c' c'') :
    p.Keeps c c'' := by
  obtain ⟨kept, new, hdocs, hkept⟩ := h
  obtain ⟨kept', new', hdocs', hkept'⟩ := h'
  rw [hdocs] at hkept'
  -- Of the documents kept in the second step, the first ones were there before.
  obtain ⟨old, added, rfl, hold⟩ : ∃ old added, kept' = old ++ added ∧
      List.Forall₂ p.Follows kept old := by
    refine ⟨kept'.take kept.length, kept'.drop kept.length, (List.take_append_drop _ _).symm, ?_⟩
    have htake := List.forall₂_take kept.length hkept'
    rwa [List.take_left] at htake
  exact ⟨old, added ++ new', by rw [hdocs', List.append_assoc],
    forall₂_trans follows_trans hkept hold⟩

theorem changes_update {c c' : Collection} {q : StoredDoc → Bool} {k : String} {hk : k ≠ idField}
    {g : Option Bson → Option Bson} (h : c.update q k hk g = some c')
    (hg : ∀ w v, g w = some v → (p k).rel w (some v)) : p.Changes c c' :=
  Collection.forall₂_update Follows.refl h fun _ _ _ _ _ hv hid hfields =>
    follows_set hid hfields (hg _ _ hv)

theorem keeps_insert {c c' : Collection} {o : Oid} {fields : Doc} {hf : idField ∉ fields.keys}
    (h : c.insert o fields hf = some c') : p.Keeps c c' :=
  ⟨c.docs, _, (Collection.insert_cases h).2.1, forall₂_refl Follows.refl _⟩

/-- A document that was there is there, changed by the rules. -/
theorem Keeps.findId? {c c' : Collection} (h : p.Keeps c c') {o : Oid} {d : StoredDoc}
    (hd : c.findId? o = some d) : ∃ d', c'.findId? o = some d' ∧ p.Follows d d' := by
  obtain ⟨kept, new, hdocs, hkept⟩ := h
  obtain ⟨d', hd', hfollows⟩ := exists_of_forall₂_left hkept (Collection.mem_of_find? hd)
  refine ⟨d', Collection.findId?_of_mem ?_ ?_, hfollows⟩
  · rw [hdocs]
    exact List.mem_append_left _ hd'
  · exact hfollows.1.trans (Collection.id_of_findId? hd)

end Policy

end LoadBalance
