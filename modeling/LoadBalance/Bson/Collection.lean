import LoadBalance.Bson.Basic
import LoadBalance.Library.Related
import Mathlib.Data.List.Nodup

/-!
# Collections and updates

A MongoDB collection is a list of stored documents with pairwise different `_id`s.  The server
keeps exactly one `_id` in a stored document, as its first field, and no update operator used
here touches it, so it is kept apart from the other fields.

A query is a predicate on documents; `find?` gives the first match and `update` changes one
top-level field of it.  The operators are functions from the old value of that field (nothing
when it is absent) to the new one, or to nothing when the server refuses the update.
-/

namespace LoadBalance

/-! ### Lists -/

/-- Apply `f` to the first element satisfying `p`; nothing when `f` refuses it. -/
def modifyFirst {α : Type} (p : α → Bool) (f : α → Option α) : List α → Option (List α)
  | [] => some []
  | x :: xs => if p x then (f x).map (· :: xs) else (modifyFirst p f xs).map (x :: ·)

section modifyFirst

variable {α β : Type} {p : α → Bool} {f : α → Option α} {l l' : List α}

/-- What `f` keeps of an element, `modifyFirst` keeps of the list. -/
theorem map_modifyFirst (g : α → β) (hf : ∀ x y, f x = some y → g y = g x)
    (h : modifyFirst p f l = some l') : l'.map g = l.map g := by
  induction l generalizing l' with
  | nil => simp only [modifyFirst, Option.some.injEq] at h; simp [← h]
  | cons x xs ih =>
    unfold modifyFirst at h
    split_ifs at h with hp
    · obtain ⟨y, hy, rfl⟩ := Option.map_eq_some_iff.mp h
      simp [hf x y hy]
    · obtain ⟨ys, hys, rfl⟩ := Option.map_eq_some_iff.mp h
      simp [ih hys]

/-- Either nothing matched and nothing changed, or one element was replaced. -/
theorem modifyFirst_cases (h : modifyFirst p f l = some l') :
    ((∀ x ∈ l, p x = false) ∧ l' = l) ∨
      ∃ as x y bs, l = as ++ x :: bs ∧ (∀ a ∈ as, p a = false) ∧ p x = true ∧ f x = some y ∧
        l' = as ++ y :: bs := by
  induction l generalizing l' with
  | nil => simp only [modifyFirst, Option.some.injEq] at h; simp [← h]
  | cons x xs ih =>
    unfold modifyFirst at h
    split_ifs at h with hp
    · obtain ⟨y, hy, rfl⟩ := Option.map_eq_some_iff.mp h
      exact Or.inr ⟨[], x, y, xs, rfl, by simp, hp, hy, rfl⟩
    · obtain ⟨ys, hys, rfl⟩ := Option.map_eq_some_iff.mp h
      have hpx : p x = false := by simpa using hp
      rcases ih hys with ⟨hno, rfl⟩ | ⟨as, a, b, bs, rfl, has, ha, hab, rfl⟩
      · exact Or.inl ⟨by simpa [hpx] using hno, rfl⟩
      · exact Or.inr ⟨x :: as, a, b, bs, rfl, by simpa [hpx] using has, ha, hab, rfl⟩

/-- The same by the place of the element. -/
theorem modifyFirst_eq_set (h : modifyFirst p f l = some l') :
    (l.findIdx? p = none ∧ l' = l) ∨
      ∃ i x y, l.findIdx? p = some i ∧ l[i]? = some x ∧ f x = some y ∧ l' = l.set i y := by
  rcases modifyFirst_cases h with ⟨hno, rfl⟩ | ⟨as, x, y, bs, rfl, has, hx, hy, rfl⟩
  · exact Or.inl ⟨List.findIdx?_eq_none_iff.mpr hno, rfl⟩
  · refine Or.inr ⟨as.length, x, y, ?_, by simp, hy, by simp⟩
    rw [List.findIdx?_append, List.findIdx?_eq_none_iff.mpr has, List.findIdx?_cons, if_pos hx]
    simp

/-- Elements that `f` leaves as they are. -/
theorem modifyFirst_of_fixed (h : ∀ x ∈ l, p x = true → f x = some x) :
    modifyFirst p f l = some l := by
  induction l with
  | nil => rfl
  | cons x xs ih =>
    obtain ⟨hx, hxs⟩ := List.forall_mem_cons.mp h
    unfold modifyFirst
    split_ifs with hpx
    · rw [hx hpx]
      rfl
    · rw [ih hxs]
      rfl

theorem modifyFirst_append_cons {as bs : List α} {x : α} (has : ∀ a ∈ as, p a = false)
    (hx : p x = true) :
    modifyFirst p f (as ++ x :: bs) = (f x).map fun y => as ++ y :: bs := by
  induction as with
  | nil => simp [modifyFirst, hx]
  | cons a as ih =>
    simp only [List.mem_cons, forall_eq_or_imp] at has
    simp [modifyFirst, has.1, ih has.2, Function.comp_def]

/-- A list in which the change is not refused. -/
theorem isSome_modifyFirst (h : ∀ x ∈ l, p x = true → (f x).isSome) :
    (modifyFirst p f l).isSome := by
  induction l with
  | nil => rfl
  | cons x xs ih =>
    obtain ⟨hx, hxs⟩ := List.forall_mem_cons.mp h
    unfold modifyFirst
    split_ifs with hpx
    · rw [Option.isSome_map]
      exact hx hpx
    · rw [Option.isSome_map]
      exact ih hxs

end modifyFirst

/-! ### Fields -/

namespace Doc

/-- Set a field: in its place when it is there, at the end otherwise. -/
def set (d : Doc) (k : String) (v : Bson) : Doc :=
  match d with
  | [] => [(k, v)]
  | (k', v') :: rest => if k' = k then (k, v) :: rest else (k', v') :: set rest k v

@[simp] theorem get?_set_self (d : Doc) (k : String) (v : Bson) : (d.set k v).get? k = some v := by
  induction d with
  | nil => simp [set]
  | cons f d ih =>
    obtain ⟨k', v'⟩ := f
    unfold set
    split_ifs with h
    · simp
    · rw [get?_cons]; simp [Ne.symm h, ih]

theorem get?_set_ne (d : Doc) {k k' : String} (v : Bson) (h : k' ≠ k) :
    (d.set k v).get? k' = d.get? k' := by
  induction d with
  | nil => simp [set, get?_cons, h]
  | cons f d ih =>
    obtain ⟨k₁, v₁⟩ := f
    unfold set
    split_ifs with hk
    · subst hk; simp [get?_cons, h]
    · simp [get?_cons, ih]

theorem set_set (d : Doc) (k : String) (v w : Bson) : (d.set k v).set k w = d.set k w := by
  induction d with
  | nil => simp [set]
  | cons f d ih =>
    obtain ⟨k', v'⟩ := f
    by_cases h : k' = k <;> simp [set, h, ih]

/-- The value that a field has already. -/
theorem set_of_get? {d : Doc} {k : String} {v : Bson} (h : d.get? k = some v) : d.set k v = d := by
  induction d with
  | nil => cases h
  | cons f d ih =>
    obtain ⟨k', v'⟩ := f
    rw [get?_cons] at h
    unfold set
    split_ifs with hk
    · rw [if_pos hk.symm, Option.some.injEq] at h
      rw [← hk, ← h]
    · rw [if_neg (Ne.symm hk)] at h
      rw [ih h]

/-- A field that is there is replaced in its place. -/
theorem forall₂_set {R : String × Bson → String × Bson → Prop} (hR : ∀ f, R f f) {d : Doc}
    {k : String} {v w : Bson} (hget : d.get? k = some w) (hw : R (k, w) (k, v)) :
    List.Forall₂ R d (d.set k v) := by
  induction d with
  | nil => cases hget
  | cons f d ih =>
    obtain ⟨k', v'⟩ := f
    rw [Doc.get?_cons] at hget
    unfold Doc.set
    split_ifs with hk
    · subst hk
      rw [if_pos rfl] at hget
      obtain rfl := Option.some.inj hget
      exact .cons hw (List.forall₂_same.mpr fun f _ => hR f)
    · rw [if_neg (Ne.symm hk)] at hget
      exact .cons (hR _) (ih hget)

/-- A field that is not there comes to the end. -/
theorem set_of_get?_none {d : Doc} {k : String} {v : Bson} (h : d.get? k = none) :
    d.set k v = d ++ [(k, v)] := by
  induction d with
  | nil => rfl
  | cons f d ih =>
    obtain ⟨k', v'⟩ := f
    rw [Doc.get?_cons] at h
    unfold Doc.set
    split_ifs at h ⊢ with hk hk'
    · exact absurd hk.symm hk'
    · rw [ih h]
      rfl

theorem set_cons (f : String × Bson) (d : Doc) (k : String) (v : Bson) :
    Doc.set (f :: d) k v = if f.1 = k then (k, v) :: d else f :: Doc.set d k v := by
  obtain ⟨k', v'⟩ := f
  rw [set]

/-- Behind a field the iterator sees another field that is set, or does not get to it. -/
theorem behind_set_ne (d : Doc) {k k' : String} (v : Bson) (h : k ≠ k') :
    behind [k] (d.set k' v) = behind [k] d ∨ behind [k] (d.set k' v) = (behind [k] d).set k' v := by
  induction d with
  | nil =>
    left
    show (iterFind k [(k', v)]).2 = []
    rw [iterFind_cons, if_neg (Ne.symm h)]
    rfl
  | cons f d ih =>
    simp only [behind_cons, behind_nil] at ih ⊢
    rw [set_cons]
    split_ifs with hk
    · have hne : f.1 ≠ k := fun hf => h (hf.symm.trans hk)
      left
      rw [iterFind_cons, iterFind_cons, if_neg (Ne.symm h), if_neg hne]
    · rw [iterFind_cons, iterFind_cons]
      split_ifs
      · exact Or.inr rfl
      · exact ih

/-- Behind the field itself nothing changes. -/
theorem behind_set_self (d : Doc) (k : String) (v : Bson) :
    behind [k] (d.set k v) = behind [k] d := by
  induction d with
  | nil =>
    show (iterFind k [(k, v)]).2 = []
    rw [iterFind_cons, if_pos rfl]
  | cons f d ih =>
    simp only [behind_cons, behind_nil] at ih ⊢
    rw [set_cons]
    split_ifs with hk
    · rw [iterFind_cons, iterFind_cons, if_pos rfl, if_pos hk]
    · rw [iterFind_cons, iterFind_cons, if_neg hk, if_neg hk]
      exact ih

/-- Nothing but the new field comes in. -/
theorem mem_of_mem_set {d : Doc} {k : String} {v : Bson} {f : String × Bson}
    (h : f ∈ d.set k v) : f = (k, v) ∨ f ∈ d := by
  induction d with
  | nil => exact Or.inl (List.mem_singleton.mp h)
  | cons g d ih =>
    obtain ⟨k', v'⟩ := g
    unfold set at h
    split_ifs at h with hk
    · rcases List.mem_cons.mp h with rfl | h
      · exact Or.inl rfl
      · exact Or.inr (List.mem_cons_of_mem _ h)
    · rcases List.mem_cons.mp h with rfl | h
      · exact Or.inr List.mem_cons_self
      · exact (ih h).imp_right (List.mem_cons_of_mem _)

/-- Only the first field of the name goes. -/
theorem mem_set_of_mem {d : Doc} {k : String} {v : Bson} {f : String × Bson} (h : f ∈ d) :
    f ∈ d.set k v ∨ f.1 = k ∧ d.get? k = some f.2 := by
  induction d with
  | nil => cases h
  | cons g d ih =>
    obtain ⟨k', v'⟩ := g
    unfold set
    rcases List.mem_cons.mp h with rfl | h
    · split_ifs with hk
      · exact Or.inr ⟨hk, by rw [← hk, get?_cons_self]⟩
      · exact Or.inl List.mem_cons_self
    · split_ifs with hk
      · exact Or.inl (List.mem_cons_of_mem _ h)
      · rw [get?_cons, if_neg (Ne.symm hk)]
        exact (ih h).imp_left (List.mem_cons_of_mem _)

theorem mem_set_self (d : Doc) (k : String) (v : Bson) : (k, v) ∈ d.set k v :=
  mem_of_get? (get?_set_self d k v)

theorem keys_set (d : Doc) (k : String) (v : Bson) :
    (d.set k v).keys = if k ∈ d.keys then d.keys else d.keys ++ [k] := by
  induction d with
  | nil => simp [set, keys]
  | cons f d ih =>
    obtain ⟨k', v'⟩ := f
    unfold set
    simp only [keys] at ih ⊢
    by_cases h : k' = k
    · simp [h]
    · by_cases hm : k ∈ List.map Prod.fst d
      · simp [h, Ne.symm h, ih, hm]
      · simp [h, Ne.symm h, ih, hm]

theorem mem_keys_set {d : Doc} {k k' : String} {v : Bson} :
    k' ∈ (d.set k v).keys ↔ k' = k ∨ k' ∈ d.keys := by
  rw [keys_set]
  split_ifs with h
  · exact ⟨Or.inr, by rintro (rfl | h') <;> assumption⟩
  · simp [or_comm]

end Doc

/-! ### Stored documents -/

/-- The field that identifies a stored document. -/
def idField : String := "_id"

/-- A document of a collection: its `_id` and its other fields. -/
structure StoredDoc where
  id : Bson
  fields : Doc
  no_id : idField ∉ fields.keys

namespace StoredDoc

/-- The document as it is read: `_id` first. -/
def toDoc (d : StoredDoc) : Doc := (idField, d.id) :: d.fields

@[simp] theorem get?_toDoc_id (d : StoredDoc) : d.toDoc.get? idField = some d.id := by
  simp [toDoc]

theorem get?_toDoc {d : StoredDoc} {k : String} (h : k ≠ idField) :
    d.toDoc.get? k = d.fields.get? k := by
  simp [toDoc, Doc.get?_cons, h]

/-- The document is the one with this object id. -/
def hasId (o : Oid) (d : StoredDoc) : Bool :=
  match d.id with
  | .oid o' => o' = o
  | _ => false

theorem hasId_iff {o : Oid} {d : StoredDoc} : d.hasId o = true ↔ d.id = .oid o := by
  unfold hasId
  split <;> simp_all

/-- Change one top-level field other than `_id` by an update operator. -/
def updateField (k : String) (hk : k ≠ idField) (g : Option Bson → Option Bson) (d : StoredDoc) :
    Option StoredDoc :=
  (g (d.fields.get? k)).map fun v =>
    ⟨d.id, d.fields.set k v, by rw [Doc.mem_keys_set, not_or]; exact ⟨Ne.symm hk, d.no_id⟩⟩

theorem updateField_eq_some {k : String} {hk : k ≠ idField} {g : Option Bson → Option Bson}
    {d d' : StoredDoc} :
    d.updateField k hk g = some d' ↔
      ∃ v, g (d.fields.get? k) = some v ∧ d'.id = d.id ∧ d'.fields = d.fields.set k v := by
  unfold updateField
  rw [Option.map_eq_some_iff]
  constructor
  · rintro ⟨v, hv, rfl⟩; exact ⟨v, hv, rfl, rfl⟩
  · rintro ⟨v, hv, hid, hf⟩
    refine ⟨v, hv, ?_⟩
    cases d'; cases hid; cases hf; rfl

theorem id_updateField {k : String} {hk : k ≠ idField} {g : Option Bson → Option Bson}
    {d d' : StoredDoc} (h : d.updateField k hk g = some d') : d'.id = d.id := by
  obtain ⟨v, -, hid, -⟩ := updateField_eq_some.mp h
  exact hid

end StoredDoc

/-! ### Queries on values -/

/-- Equality with an object id as a query tests it: of the value, or of an element of an array. -/
def Bson.matchesOid (o : Oid) : Bson → Bool
  | .oid o' => o' = o
  | .array a => a.any fun | .oid o' => o' = o | _ => false
  | _ => false

/-- Equality with a string as a query tests it. -/
def Bson.matchesUtf8 (s : String) : Bson → Bool
  | .utf8 s' => s' = s
  | .array a => a.any fun | .utf8 s' => s' = s | _ => false
  | _ => false

/-- `{k: v}` on a document, `v` given by its test. -/
def Doc.fieldMatches (d : Doc) (k : String) (p : Bson → Bool) : Bool :=
  match d.get? k with
  | some v => p v
  | none => false

/-- An embedded document whose field `k` equals `o`. -/
def Bson.subMatches (k : String) (o : Oid) : Bson → Bool
  | .document d => Doc.fieldMatches d k (Bson.matchesOid o)
  | _ => false

/-- `{f.k: o}` on the value of `f`: an embedded document with that field, or an array of which
some element is one. -/
def Bson.pathMatches (k : String) (o : Oid) : Bson → Bool
  | .array a => a.any (Bson.subMatches k o)
  | v => v.subMatches k o

/-- `{$elemMatch: {$eq: o}}`: an array with the object id among its elements. -/
def Bson.hasElement (o : Oid) : Bson → Bool
  | .array a => a.any fun | .oid o' => o' = o | _ => false
  | _ => false

/-! ### Update operators -/

/-- `$push`: appends to the array, creates it when the field is absent. -/
def pushOp (v : Bson) : Option Bson → Option Bson
  | none => some (.array [v])
  | some (.array a) => some (.array (a ++ [v]))
  | some _ => none

/-- `$pull` of the embedded documents whose field `k` equals `o`.  A document without the field is
left alone by the server; such a document is not to be matched. -/
def pullOp (k : String) (o : Oid) : Option Bson → Option Bson
  | some (.array a) => some (.array (a.filter fun e => !e.subMatches k o))
  | _ => none

/-- `$set` of a field of the array element that the query `{f.k: o}` matched. -/
def setElementOp (k : String) (o : Oid) (field : String) (v : Bson) : Option Bson → Option Bson
  | some (.array a) =>
    (modifyFirst (Bson.subMatches k o)
      (fun | .document d => some (.document (Doc.set d field v)) | _ => none) a).map .array
  | _ => none

/-- `$inc` by one: an int32 that would overflow becomes an int64. -/
def incOp : Option Bson → Option Bson
  | none => some (.int32 1)
  | some (.int32 i) => some (if i = Int32.maxValue then .int64 (i.toInt64 + 1) else .int32 (i + 1))
  | some (.int64 i) => if i = Int64.maxValue then none else some (.int64 (i + 1))
  | some (.double bits) => some (.double (Float.ofBits bits + 1).toBits)
  | some (.decimal128 d) => some (.decimal128 d.addOne)
  | some _ => none

/-- An increment creates the field, or stays within int32, or gives a value of another type. -/
theorem incOp_cases {w : Option Bson} {v : Bson} (h : incOp w = some v) :
    (w = none ∧ v = .int32 1) ∨
      (∃ i, w = some (.int32 i) ∧ i ≠ Int32.maxValue ∧ v = .int32 (i + 1)) ∨
      (w ≠ none ∧ ∀ j, v ≠ .int32 j) := by
  cases w with
  | none =>
    obtain rfl := Option.some.inj h
    exact Or.inl ⟨rfl, rfl⟩
  | some w =>
    right
    cases w with
    | int32 i =>
      obtain rfl := Option.some.inj h
      split_ifs with hmax
      · exact Or.inr ⟨by simp, by simp⟩
      · exact Or.inl ⟨i, rfl, hmax, rfl⟩
    | int64 i =>
      simp only [incOp] at h
      split_ifs at h
      obtain rfl := Option.some.inj h
      exact Or.inr ⟨by simp, by simp⟩
    | double bits =>
      obtain rfl := Option.some.inj h
      exact Or.inr ⟨by simp, by simp⟩
    | decimal128 d =>
      obtain rfl := Option.some.inj h
      exact Or.inr ⟨by simp, by simp⟩
    | _ => cases h

/-! ### Collections -/

/-- A collection: stored documents with pairwise different `_id`s. -/
structure Collection where
  docs : List StoredDoc
  ids_nodup : (docs.map StoredDoc.id).Nodup

namespace Collection

instance : EmptyCollection Collection := ⟨⟨[], List.nodup_nil⟩⟩

@[ext] theorem ext {c c' : Collection} (h : c.docs = c'.docs) : c = c' := by
  cases c; cases c'; cases h; rfl

/-- The first document that satisfies a query. -/
def find? (c : Collection) (q : StoredDoc → Bool) : Option StoredDoc := c.docs.find? q

/-- The document with this `_id`. -/
def findId? (c : Collection) (o : Oid) : Option StoredDoc := c.find? (StoredDoc.hasId o)

/-- Insert a document with a new object id; refused when the id is already there. -/
def insert (c : Collection) (o : Oid) (fields : Doc) (h : idField ∉ fields.keys) :
    Option Collection :=
  if hd : ∀ d ∈ c.docs, d.hasId o = false then
    some ⟨c.docs ++ [⟨.oid o, fields, h⟩], by
      rw [List.map_append]
      refine List.Nodup.append c.ids_nodup (List.nodup_singleton _) ?_
      intro i hi hi'
      obtain ⟨d, hdm, hdi⟩ := List.mem_map.mp hi
      rw [List.map_singleton, List.mem_singleton] at hi'
      have := StoredDoc.hasId_iff.mpr (hdi.trans hi')
      rw [hd d hdm] at this
      exact Bool.false_ne_true this⟩
  else none

/-- Change one field of the first document that satisfies a query.  Nothing when the server
refuses the operator on that document; unchanged when no document matches. -/
def update (c : Collection) (q : StoredDoc → Bool) (k : String) (hk : k ≠ idField)
    (g : Option Bson → Option Bson) : Option Collection :=
  match h : modifyFirst q (StoredDoc.updateField k hk g) c.docs with
  | none => none
  | some ds => some ⟨ds, by
      rw [map_modifyFirst StoredDoc.id (fun _ _ => StoredDoc.id_updateField) h]
      exact c.ids_nodup⟩

theorem update_eq_some {c c' : Collection} {q : StoredDoc → Bool} {k : String} {hk : k ≠ idField}
    {g : Option Bson → Option Bson} :
    c.update q k hk g = some c' ↔
      modifyFirst q (StoredDoc.updateField k hk g) c.docs = some c'.docs := by
  unfold update
  split
  · simp_all
  · next ds h => simp [h, Collection.ext_iff]

/-- An update that gives the field the value it has, in every document that the query matches. -/
theorem update_of_fixed {c : Collection} {q : StoredDoc → Bool} {k : String} {hk : k ≠ idField}
    {g : Option Bson → Option Bson}
    (h : ∀ d ∈ c.docs, q d = true → ∃ v, d.fields.get? k = some v ∧ g (some v) = some v) :
    c.update q k hk g = some c := by
  refine update_eq_some.mpr (modifyFirst_of_fixed fun d hd hq => ?_)
  obtain ⟨v, hv, hg⟩ := h d hd hq
  refine StoredDoc.updateField_eq_some.mpr ⟨v, by rw [hv, hg], rfl, ?_⟩
  rw [Doc.set_of_get? hv]

theorem find?_eq_some_iff {c : Collection} {q : StoredDoc → Bool} {d : StoredDoc} :
    c.find? q = some d ↔
      q d = true ∧ ∃ as bs, c.docs = as ++ d :: bs ∧ ∀ a ∈ as, q a = false := by
  simp [find?, List.find?_eq_some_iff_append]

theorem mem_of_find? {c : Collection} {q : StoredDoc → Bool} {d : StoredDoc}
    (h : c.find? q = some d) : d ∈ c.docs := List.mem_of_find?_eq_some h

theorem id_of_findId? {c : Collection} {o : Oid} {d : StoredDoc} (h : c.findId? o = some d) :
    d.id = .oid o := StoredDoc.hasId_iff.mp (List.find?_some h)

/-- There is at most one document with an id. -/
theorem eq_of_id_eq (c : Collection) {d d' : StoredDoc} (hd : d ∈ c.docs) (hd' : d' ∈ c.docs)
    (h : d.id = d'.id) : d = d' :=
  List.inj_on_of_nodup_map c.ids_nodup hd hd' h

theorem findId?_of_mem {c : Collection} {o : Oid} {d : StoredDoc} (hd : d ∈ c.docs)
    (h : d.id = .oid o) : c.findId? o = some d := by
  cases hf : c.findId? o with
  | none =>
    have := List.find?_eq_none.mp hf d hd
    exact absurd (StoredDoc.hasId_iff.mpr h) this
  | some d' =>
    rw [c.eq_of_id_eq (mem_of_find? hf) hd ((id_of_findId? hf).trans h.symm)]

theorem findId?_eq_some_iff {c : Collection} {o : Oid} {d : StoredDoc} :
    c.findId? o = some d ↔ d ∈ c.docs ∧ d.id = .oid o :=
  ⟨fun h => ⟨mem_of_find? h, id_of_findId? h⟩, fun h => findId?_of_mem h.1 h.2⟩

theorem findId?_congr {c c' : Collection} {o : Oid}
    (h : ∀ d, d.id = .oid o → (d ∈ c.docs ↔ d ∈ c'.docs)) : c.findId? o = c'.findId? o := by
  refine Option.ext fun d => ?_
  rw [findId?_eq_some_iff, findId?_eq_some_iff]
  exact ⟨fun hd => ⟨(h d hd.2).mp hd.1, hd.2⟩, fun hd => ⟨(h d hd.2).mpr hd.1, hd.2⟩⟩

/-- An insert adds the document, whose id was not there, and leaves the others alone. -/
theorem insert_cases {c c' : Collection} {o : Oid} {fields : Doc} {hf : idField ∉ fields.keys}
    (h : c.insert o fields hf = some c') :
    c.findId? o = none ∧ c'.docs = c.docs ++ [⟨.oid o, fields, hf⟩] ∧
      c'.findId? o = some ⟨.oid o, fields, hf⟩ ∧ ∀ o', o' ≠ o → c'.findId? o' = c.findId? o' := by
  unfold insert at h
  split_ifs at h with hno
  rw [Option.some.injEq] at h
  subst h
  refine ⟨List.find?_eq_none.mpr fun d hd => by simp [hno d hd], rfl, ?_, fun o' ho' => ?_⟩
  · exact findId?_of_mem (by simp) rfl
  · refine findId?_congr fun d hd => ?_
    simp only [List.mem_append, List.mem_singleton, or_iff_left_iff_imp]
    rintro rfl
    rw [Bson.oid.injEq] at hd
    exact absurd hd.symm ho'

/-- A document of the updated collection is one that was there, or the changed one. -/
theorem mem_of_mem_update {c c' : Collection} {q : StoredDoc → Bool} {k : String}
    {hk : k ≠ idField} {g : Option Bson → Option Bson} (h : c.update q k hk g = some c')
    {d' : StoredDoc} (hd' : d' ∈ c'.docs) :
    d' ∈ c.docs ∨
      ∃ d ∈ c.docs, ∃ v, g (d.fields.get? k) = some v ∧ d'.fields = d.fields.set k v := by
  rw [update_eq_some] at h
  rcases modifyFirst_cases h with ⟨-, hdocs⟩ | ⟨as, d, e, bs, hc, -, -, hupd, hc'⟩
  · rw [hdocs] at hd'
    exact Or.inl hd'
  · obtain ⟨v, hv, -, hfields⟩ := StoredDoc.updateField_eq_some.mp hupd
    rw [hc', List.mem_append, List.mem_cons] at hd'
    rcases hd' with hd' | rfl | hd'
    · exact Or.inl (by simp [hc, hd'])
    · exact Or.inr ⟨d, by simp [hc], v, hv, hfields⟩
    · exact Or.inl (by simp [hc, hd'])

/-- A document that was there is still there, or is the one that was changed. -/
theorem mem_update_of_mem {c c' : Collection} {q : StoredDoc → Bool} {k : String}
    {hk : k ≠ idField} {g : Option Bson → Option Bson} (h : c.update q k hk g = some c')
    {d : StoredDoc} (hd : d ∈ c.docs) :
    d ∈ c'.docs ∨ ∃ d' ∈ c'.docs, ∃ v, g (d.fields.get? k) = some v ∧ d'.id = d.id ∧
      d'.fields = d.fields.set k v := by
  rw [update_eq_some] at h
  rcases modifyFirst_cases h with ⟨-, hdocs⟩ | ⟨as, e, d', bs, hc, -, -, hupd, hc'⟩
  · rw [hdocs]
    exact Or.inl hd
  · obtain ⟨v, hv, hid, hfields⟩ := StoredDoc.updateField_eq_some.mp hupd
    rw [hc, List.mem_append, List.mem_cons] at hd
    rcases hd with hd | rfl | hd
    · exact Or.inl (by simp [hc', hd])
    · exact Or.inr ⟨d', by simp [hc'], v, hv, hid, hfields⟩
    · exact Or.inl (by simp [hc', hd])

/-- The documents before and after an update, one by one. -/
theorem forall₂_update {R : StoredDoc → StoredDoc → Prop} (hR : ∀ d, R d d) {c c' : Collection}
    {q : StoredDoc → Bool} {k : String} {hk : k ≠ idField} {g : Option Bson → Option Bson}
    (h : c.update q k hk g = some c')
    (hg : ∀ d d' v, d ∈ c.docs → q d = true → g (d.fields.get? k) = some v → d'.id = d.id →
      d'.fields = d.fields.set k v → R d d') : List.Forall₂ R c.docs c'.docs := by
  rw [update_eq_some] at h
  rcases modifyFirst_cases h with ⟨-, hdocs⟩ | ⟨as, d, d', bs, hc, -, hqd, hupd, hc'⟩
  · rw [hdocs]
    exact forall₂_refl hR _
  · obtain ⟨v, hv, hid, hfields⟩ := StoredDoc.updateField_eq_some.mp hupd
    rw [hc, hc']
    refine List.rel_append (forall₂_refl hR as) (.cons ?_ (forall₂_refl hR bs))
    exact hg d d' v (by simp [hc]) hqd hv hid hfields

/-- An update leaves the number of documents as it is. -/
theorem length_update {c c' : Collection} {q : StoredDoc → Bool} {k : String} {hk : k ≠ idField}
    {g : Option Bson → Option Bson} (h : c.update q k hk g = some c') :
    c'.docs.length = c.docs.length := by
  rw [update_eq_some] at h
  have hids := map_modifyFirst StoredDoc.id (fun _ _ => StoredDoc.id_updateField) h
  have hlength := congrArg List.length hids
  rwa [List.length_map, List.length_map] at hlength

/-- What an update does to the document with an id: nothing, or it is the one that is changed. -/
theorem findId?_update {c c' : Collection} {q : StoredDoc → Bool} {k : String} {hk : k ≠ idField}
    {g : Option Bson → Option Bson} (h : c.update q k hk g = some c') (o : Oid) :
    c'.findId? o = c.findId? o ∨ ∃ d d' v, c.findId? o = some d ∧ q d = true ∧
      g (d.fields.get? k) = some v ∧ d'.fields = d.fields.set k v ∧ c'.findId? o = some d' := by
  rw [update_eq_some] at h
  rcases modifyFirst_cases h with ⟨-, hdocs⟩ | ⟨as, d, d', bs, hc, -, hqd, hupd, hc'⟩
  · exact Or.inl (congrArg (findId? · o) (Collection.ext hdocs))
  · obtain ⟨v, hv, hid, hfields⟩ := StoredDoc.updateField_eq_some.mp hupd
    by_cases ho : d.id = .oid o
    · refine Or.inr ⟨d, d', v, ?_, hqd, hv, hfields, ?_⟩
      · exact findId?_of_mem (by simp [hc]) ho
      · exact findId?_of_mem (by simp [hc']) (hid.trans ho)
    · refine Or.inl (findId?_congr fun x hx => ?_)
      have hne : ∀ y : StoredDoc, y.id = d.id → x ≠ y := by
        rintro y hy rfl
        exact ho (hy.symm.trans hx)
      simp [hc, hc', hne d rfl, hne d' hid]

/-- An update by a query for an id changes the document with this id or, when that does not satisfy
the query, nothing. -/
theorem update_cases {c c' : Collection} {q : StoredDoc → Bool} {k : String} {hk : k ≠ idField}
    {g : Option Bson → Option Bson} {o : Oid} (hq : ∀ d, q d = true → d.id = .oid o)
    (h : c.update q k hk g = some c') :
    ((∀ d, c.findId? o = some d → q d = false) ∧ c' = c) ∨
      ∃ d d' v, c.findId? o = some d ∧ q d = true ∧ g (d.fields.get? k) = some v ∧
        d'.id = d.id ∧ d'.fields = d.fields.set k v ∧ c'.findId? o = some d' ∧
        ∀ o', o' ≠ o → c'.findId? o' = c.findId? o' := by
  rw [update_eq_some] at h
  rcases modifyFirst_cases h with ⟨hno, hdocs⟩ | ⟨as, d, d', bs, hc, -, hqd, hupd, hc'⟩
  · exact Or.inl ⟨fun d hd => hno d (mem_of_find? hd), Collection.ext hdocs⟩
  · obtain ⟨v, hv, hid, hfields⟩ := StoredDoc.updateField_eq_some.mp hupd
    have hdid := hq d hqd
    refine Or.inr ⟨d, d', v, ?_, hqd, hv, hid, hfields, ?_, ?_⟩
    · exact findId?_of_mem (by simp [hc]) hdid
    · exact findId?_of_mem (by simp [hc']) (hid.trans hdid)
    · intro o' ho'
      refine findId?_congr fun x hx => ?_
      -- neither the old nor the new document has another id
      have hne : ∀ y : StoredDoc, y.id = .oid o → x ≠ y := by
        rintro y hy rfl
        rw [hx, Bson.oid.injEq] at hy
        exact ho' hy
      simp [hc, hc', hne d hdid, hne d' (hid.trans hdid)]

/-- An update by a query for an id is refused only by the operator. -/
theorem update_isSome {c : Collection} {q : StoredDoc → Bool} {k : String} {hk : k ≠ idField}
    {g : Option Bson → Option Bson} (h : ∀ d ∈ c.docs, q d = true → (g (d.fields.get? k)).isSome) :
    ∃ c', c.update q k hk g = some c' := by
  have hds : (modifyFirst q (StoredDoc.updateField k hk g) c.docs).isSome := by
    refine isSome_modifyFirst fun x hx hqx => ?_
    unfold StoredDoc.updateField
    rw [Option.isSome_map]
    exact h x hx hqx
  obtain ⟨ds, hds⟩ := Option.isSome_iff_exists.mp hds
  have hnodup : (ds.map StoredDoc.id).Nodup := by
    rw [map_modifyFirst StoredDoc.id (fun _ _ => StoredDoc.id_updateField) hds]
    exact c.ids_nodup
  exact ⟨⟨ds, hnodup⟩, update_eq_some.mpr hds⟩

end Collection

end LoadBalance
