import LoadBalance.Bson.Decoder
import Mathlib.Data.Finset.Dedup
import Mathlib.Data.List.Nodup
import Mathlib.Logic.Function.Basic

/-!
# Decoders and the tables of their fields

A decoder counts the recognised fields that it passes.  On a document without repeated keys the
count tells how many fields of the decoder's table are missing (`scanDoc_of_checks`), and the locals
at the end are what looking every field up by its name gives (`scanDoc_byName`).
-/

namespace LoadBalance

/-! ### Types -/

/-- The types that a decoder asks for. -/
inductive BsonType where
  | oid
  | utf8
  | int32
  | bool
  | dateTime
  | double
  | array
deriving DecidableEq, Repr

/-- `BSON_ITER_HOLDS_…`. -/
def Bson.hasType (v : Bson) (type : BsonType) : Bool :=
  match type, v with
  | .oid, .oid _ => true
  | .utf8, .utf8 _ => true
  | .int32, .int32 _ => true
  | .bool, .bool _ => true
  | .dateTime, .dateTime _ => true
  | .double, .double _ => true
  | .array, .array _ => true
  | _, _ => false

section hasType

variable {v : Bson}

theorem Bson.hasType_oid : v.hasType .oid = true ↔ ∃ o, v = .oid o := by
  cases v <;> simp [hasType]

theorem Bson.hasType_utf8 : v.hasType .utf8 = true ↔ ∃ x, v = .utf8 x := by
  cases v <;> simp [hasType]

theorem Bson.hasType_int32 : v.hasType .int32 = true ↔ ∃ i, v = .int32 i := by
  cases v <;> simp [hasType]

theorem Bson.hasType_bool : v.hasType .bool = true ↔ ∃ b, v = .bool b := by
  cases v <;> simp [hasType]

theorem Bson.hasType_dateTime : v.hasType .dateTime = true ↔ ∃ t, v = .dateTime t := by
  cases v <;> simp [hasType]

theorem Bson.hasType_array : v.hasType .array = true ↔ ∃ a, v = .array a := by
  cases v <;> simp [hasType]

end hasType

/-- What a decoder asks of one field. -/
structure FieldRow where
  key : String
  counted : Bool
  type : BsonType
deriving DecidableEq, Repr

/-- Every field of the table that the document has is of its type. -/
def WellTyped (rows : List FieldRow) (d : Doc) : Prop :=
  ∀ r ∈ rows, ∀ v, (r.key, v) ∈ d → v.hasType r.type = true

/-- The counted fields that the document does not have. -/
def missing (rows : List FieldRow) (d : Doc) : List String :=
  (rows.filter fun r => r.counted && (d.get? r.key).isNone).map FieldRow.key

theorem mem_missing {rows : List FieldRow} {d : Doc} {k : String} :
    k ∈ missing rows d ↔ (∃ r ∈ rows, r.counted = true ∧ r.key = k) ∧ d.get? k = none := by
  unfold missing
  rw [List.mem_map]
  constructor
  · rintro ⟨r, hr, rfl⟩
    rw [List.mem_filter, Bool.and_eq_true, Option.isNone_iff_eq_none] at hr
    exact ⟨⟨r, hr.1, hr.2.1, rfl⟩, hr.2.2⟩
  · rintro ⟨⟨r, hr, hcounted, rfl⟩, hnone⟩
    refine ⟨r, List.mem_filter.mpr ⟨hr, ?_⟩, rfl⟩
    rw [hcounted, hnone]
    rfl

theorem missing_eq_nil {rows : List FieldRow} {d : Doc} :
    missing rows d = [] ↔ ∀ r ∈ rows, r.counted = true → (d.get? r.key).isSome = true := by
  rw [List.eq_nil_iff_forall_not_mem]
  constructor
  · intro h r hr hcounted
    by_contra hnone
    rw [Bool.not_eq_true, Option.isSome_eq_false_iff, Option.isNone_iff_eq_none] at hnone
    exact h r.key (mem_missing.mpr ⟨⟨r, hr, hcounted, rfl⟩, hnone⟩)
  · intro h k hk
    obtain ⟨⟨r, hr, hcounted, rfl⟩, hnone⟩ := mem_missing.mp hk
    have hsome := h r hr hcounted
    rw [hnone] at hsome
    cases hsome

/-- A field that is not missing has a value of its type. -/
theorem exists_value {rows : List FieldRow} {d : Doc} {r : FieldRow}
    (hnot : r.key ∉ missing rows d) (htyped : WellTyped rows d) (hr : r ∈ rows)
    (hcounted : r.counted = true) : ∃ v, d.get? r.key = some v ∧ v.hasType r.type = true := by
  cases hget : d.get? r.key with
  | none => exact absurd (mem_missing.mpr ⟨⟨r, hr, hcounted, rfl⟩, hget⟩) hnot
  | some v => exact ⟨v, rfl, htyped r hr v (Doc.mem_of_get? hget)⟩

section values

variable {rows : List FieldRow} {d : Doc} {k : String} (hnot : k ∉ missing rows d)
  (htyped : WellTyped rows d)

include hnot htyped

theorem exists_oid (hr : ⟨k, true, .oid⟩ ∈ rows) : ∃ o, d.get? k = some (.oid o) := by
  obtain ⟨v, hv, htype⟩ := exists_value hnot htyped hr rfl
  obtain ⟨o, rfl⟩ := Bson.hasType_oid.mp htype
  exact ⟨o, hv⟩

theorem exists_utf8 (hr : ⟨k, true, .utf8⟩ ∈ rows) : ∃ x, d.get? k = some (.utf8 x) := by
  obtain ⟨v, hv, htype⟩ := exists_value hnot htyped hr rfl
  obtain ⟨x, rfl⟩ := Bson.hasType_utf8.mp htype
  exact ⟨x, hv⟩

theorem exists_int32 (hr : ⟨k, true, .int32⟩ ∈ rows) : ∃ i, d.get? k = some (.int32 i) := by
  obtain ⟨v, hv, htype⟩ := exists_value hnot htyped hr rfl
  obtain ⟨i, rfl⟩ := Bson.hasType_int32.mp htype
  exact ⟨i, hv⟩

theorem exists_bool (hr : ⟨k, true, .bool⟩ ∈ rows) : ∃ b, d.get? k = some (.bool b) := by
  obtain ⟨v, hv, htype⟩ := exists_value hnot htyped hr rfl
  obtain ⟨b, rfl⟩ := Bson.hasType_bool.mp htype
  exact ⟨b, hv⟩

theorem exists_dateTime (hr : ⟨k, true, .dateTime⟩ ∈ rows) :
    ∃ t, d.get? k = some (.dateTime t) := by
  obtain ⟨v, hv, htype⟩ := exists_value hnot htyped hr rfl
  obtain ⟨t, rfl⟩ := Bson.hasType_dateTime.mp htype
  exact ⟨t, hv⟩

theorem exists_array (hr : ⟨k, true, .array⟩ ∈ rows) : ∃ a, d.get? k = some (.array a) := by
  obtain ⟨v, hv, htype⟩ := exists_value hnot htyped hr rfl
  obtain ⟨a, rfl⟩ := Bson.hasType_array.mp htype
  exact ⟨a, hv⟩

end values

/-! ### Branches that follow a row -/

section

variable {σ : Type} {fs : List (Field σ)} {rows : List FieldRow} {d : Doc}

/-- On the values of the document the branch asks for the type of the row and nothing else. -/
structure Field.Checks (fd : Field σ) (r : FieldRow) (d : Doc) : Prop where
  key : fd.key = r.key
  counted : fd.counted = r.counted
  read : ∀ v, (r.key, v) ∈ d → ∀ t,
    (fd.read t v).void = if v.hasType r.type then .ok () else .error ()

namespace Field

variable {key : String} {counted : Bool}

theorem checks_onOid {f : σ → Oid → σ} :
    Checks ⟨key, counted, onOid f⟩ ⟨key, counted, .oid⟩ d :=
  ⟨rfl, rfl, fun v _ _ => by cases v <;> rfl⟩

theorem checks_onUtf8 {f : σ → String → σ} :
    Checks ⟨key, counted, onUtf8 f⟩ ⟨key, counted, .utf8⟩ d :=
  ⟨rfl, rfl, fun v _ _ => by cases v <;> rfl⟩

theorem checks_onInt32 {f : σ → Int32 → σ} :
    Checks ⟨key, counted, onInt32 f⟩ ⟨key, counted, .int32⟩ d :=
  ⟨rfl, rfl, fun v _ _ => by cases v <;> rfl⟩

theorem checks_onBool {f : σ → Bool → σ} :
    Checks ⟨key, counted, onBool f⟩ ⟨key, counted, .bool⟩ d :=
  ⟨rfl, rfl, fun v _ _ => by cases v <;> rfl⟩

theorem checks_onDateTime {f : σ → Int64 → σ} :
    Checks ⟨key, counted, onDateTime f⟩ ⟨key, counted, .dateTime⟩ d :=
  ⟨rfl, rfl, fun v _ _ => by cases v <;> rfl⟩

theorem checks_onDouble {f : σ → UInt64 → σ} :
    Checks ⟨key, counted, onDouble f⟩ ⟨key, counted, .double⟩ d :=
  ⟨rfl, rfl, fun v _ _ => by cases v <;> rfl⟩

/-- A branch that reads every array of the document to its end. -/
theorem checks_onArray {f : σ → List Bson → Outcome Unit σ}
    (h : ∀ a, (key, .array a) ∈ d → ∀ t, ∃ t', f t a = .ok t') :
    Checks ⟨key, counted, onArray f⟩ ⟨key, counted, .array⟩ d := by
  refine ⟨rfl, rfl, fun v hv t => ?_⟩
  cases v with
  | array a =>
    obtain ⟨t', ht'⟩ := h a hv t
    exact Outcome.void_eq_ok.mpr ⟨t', ht'⟩
  | _ => rfl

/-- A branch that takes every array. -/
theorem checks_onArray_ok {f : σ → List Bson → σ} :
    Checks ⟨key, counted, onArray fun s a => .ok (f s a)⟩ ⟨key, counted, .array⟩ d :=
  checks_onArray fun a _ t => ⟨f t a, rfl⟩

end Field

/-- The row of a key. -/
def rowOf (rows : List FieldRow) (k : String) : Option FieldRow := rows.find? (·.key = k)

/-- The value of a field is of the type that its row asks for. -/
def isTyped (rows : List FieldRow) (f : String × Bson) : Bool :=
  (rowOf rows f.1).all fun r => f.2.hasType r.type

/-- The field is counted. -/
def isCounted (rows : List FieldRow) (k : String) : Bool := (rowOf rows k).any (·.counted)

theorem rowOf_eq_some (hrows : (rows.map FieldRow.key).Nodup) {k : String} {r : FieldRow} :
    rowOf rows k = some r ↔ r ∈ rows ∧ r.key = k := by
  constructor
  · intro h
    exact ⟨List.mem_of_find?_eq_some h, by simpa using List.find?_some h⟩
  · rintro ⟨hr, rfl⟩
    cases hfind : rowOf rows r.key with
    | none => exact absurd (List.find?_eq_none.mp hfind r hr) (by simp)
    | some r' =>
      have hkey : r'.key = r.key := by simpa using List.find?_some hfind
      rw [List.inj_on_of_nodup_map hrows (List.mem_of_find?_eq_some hfind) hr hkey]

theorem wellTyped_iff (hrows : (rows.map FieldRow.key).Nodup) :
    WellTyped rows d ↔ ∀ f ∈ d, isTyped rows f = true := by
  unfold WellTyped isTyped
  constructor
  · rintro h ⟨k, v⟩ hf
    rw [Option.all_eq_true]
    intro r hr
    obtain ⟨hmem, rfl⟩ := (rowOf_eq_some hrows).mp hr
    exact h r hmem v hf
  · intro h r hr v hv
    have hall := h (r.key, v) hv
    rw [(rowOf_eq_some hrows).mpr ⟨hr, rfl⟩] at hall
    exact hall

/-- The branch that the decoder takes for a key follows the row of the key. -/
theorem find?_of_checks (h : List.Forall₂ (fun fd r => Field.Checks fd r d) fs rows) (k : String) :
    (fs.find? (·.key = k) = none ∧ rowOf rows k = none) ∨
      ∃ fd r, fs.find? (·.key = k) = some fd ∧ rowOf rows k = some r ∧ fd.Checks r d := by
  induction h with
  | nil => exact Or.inl ⟨rfl, rfl⟩
  | @cons fd r fs rows hfd _ ih =>
    unfold rowOf at ih ⊢
    by_cases hk : r.key = k
    · refine Or.inr ⟨fd, r, ?_, ?_, hfd⟩
      · rw [List.find?_cons_of_pos (by simp [hfd.key, hk])]
      · rw [List.find?_cons_of_pos (by simp [hk])]
    · rw [List.find?_cons_of_neg (by simp [hfd.key, hk]), List.find?_cons_of_neg (by simp [hk])]
      exact ih

/-- One field of the document: refused, or passed and counted where its row says so. -/
theorem scanField_of_checks (h : List.Forall₂ (fun fd r => Field.Checks fd r d) fs rows)
    {f : String × Bson} (hf : f ∈ d) (s : σ × ℕ) :
    (isTyped rows f = true ∧ ∃ t, scanField fs s f =
        .ok (t, s.2 + if isCounted rows f.1 then 1 else 0)) ∨
      (isTyped rows f = false ∧ scanField fs s f = .error ()) := by
  unfold scanField isTyped isCounted
  rcases find?_of_checks h f.1 with ⟨hfs, hrow⟩ | ⟨fd, r, hfs, hrow, hchecks⟩
  · rw [hfs, hrow]
    exact Or.inl ⟨rfl, s.1, rfl⟩
  · rw [hfs, hrow]
    dsimp only
    have hkey : r.key = f.1 := by simpa using List.find?_some hrow
    have hvoid := hchecks.read f.2 (by rw [hkey]; exact hf) s.1
    cases htype : f.2.hasType r.type with
    | true =>
      rw [htype, if_pos rfl] at hvoid
      obtain ⟨t, ht⟩ := Outcome.void_eq_ok.mp hvoid
      refine Or.inl ⟨htype, t, ?_⟩
      rw [ht, hchecks.counted]
      cases hc : r.counted <;> simp [hc]
    | false =>
      rw [htype, if_neg Bool.false_ne_true] at hvoid
      refine Or.inr ⟨htype, ?_⟩
      rw [Outcome.void_eq_error.mp hvoid]
      rfl

/-! ### The whole document -/

/-- The walk over a part of the document. -/
theorem foldlM_of_checks (h : List.Forall₂ (fun fd r => Field.Checks fd r d) fs rows) {l : Doc}
    (hl : l ⊆ d) (s : σ × ℕ) :
    ((∀ f ∈ l, isTyped rows f = true) ∧ ∃ t, l.foldlM (scanField fs) s =
        .ok (t, s.2 + (l.filter fun f => isCounted rows f.1).length)) ∨
      ((¬∀ f ∈ l, isTyped rows f = true) ∧ l.foldlM (scanField fs) s = .error ()) := by
  induction l generalizing s with
  | nil => exact Or.inl ⟨by simp, s.1, rfl⟩
  | cons f l ih =>
    rw [List.foldlM_cons, List.forall_mem_cons]
    obtain ⟨hf, hl⟩ := List.cons_subset.mp hl
    rcases scanField_of_checks h hf s with ⟨htype, t, ht⟩ | ⟨htype, herr⟩
    · rw [ht, Outcome.ok_bind, and_iff_right htype]
      rcases ih hl (t, s.2 + if isCounted rows f.1 then 1 else 0) with
        ⟨hall, t', ht'⟩ | ⟨hno, herr⟩
      · refine Or.inl ⟨hall, t', ht'.trans ?_⟩
        congr 2
        cases hc : isCounted rows f.1 with
        | true =>
          rw [List.filter_cons_of_pos (by simp [hc]), List.length_cons]
          dsimp only
          rw [if_pos rfl]
          omega
        | false =>
          rw [List.filter_cons_of_neg (by simp [hc])]
          rfl
      · exact Or.inr ⟨hno, herr⟩
    · refine Or.inr ⟨fun hall => ?_, by rw [herr]; rfl⟩
      rw [hall.1] at htype
      cases htype

/-- Without repeated keys, the counted fields of the document are the counted rows that it has. -/
theorem length_counted_add_missing (hrows : (rows.map FieldRow.key).Nodup) (hd : d.keys.Nodup) :
    (d.filter fun f => isCounted rows f.1).length + (missing rows d).length =
      (rows.filter (·.counted)).length := by
  have hperm : ((d.filter fun f => isCounted rows f.1).map Prod.fst).Perm
      ((rows.filter fun r => r.counted && (d.get? r.key).isSome).map FieldRow.key) := by
    have hleft : ((d.filter fun f => isCounted rows f.1).map Prod.fst).Nodup :=
      hd.sublist (List.filter_sublist.map _)
    have hright : ((rows.filter fun r => r.counted && (d.get? r.key).isSome).map
        FieldRow.key).Nodup := hrows.sublist (List.filter_sublist.map _)
    refine (List.perm_ext_iff_of_nodup hleft hright).mpr fun k => ?_
    simp only [List.mem_map, List.mem_filter, Bool.and_eq_true]
    constructor
    · rintro ⟨f, ⟨hf, hcounted⟩, rfl⟩
      unfold isCounted at hcounted
      obtain ⟨r, hr, hrc⟩ := (Option.any_eq_true _ _).mp hcounted
      obtain ⟨hmem, hkey⟩ := (rowOf_eq_some hrows).mp hr
      refine ⟨r, ⟨hmem, hrc, ?_⟩, hkey⟩
      rw [hkey, Doc.get?_of_mem hd (v := f.2) hf]
      rfl
    · rintro ⟨r, ⟨hmem, hrc, hsome⟩, rfl⟩
      obtain ⟨v, hv⟩ := Option.isSome_iff_exists.mp hsome
      refine ⟨(r.key, v), ⟨Doc.mem_of_get? hv, ?_⟩, rfl⟩
      unfold isCounted
      rw [(rowOf_eq_some hrows).mpr ⟨hmem, rfl⟩]
      exact hrc
  have hlength := hperm.length_eq
  rw [List.length_map, List.length_map] at hlength
  have hsplit := List.length_eq_length_filter_add (l := rows.filter (·.counted))
    (fun r => (d.get? r.key).isSome)
  rw [List.filter_filter, List.filter_filter] at hsplit
  unfold missing
  rw [List.length_map, hlength, hsplit]
  congr 2
  · exact List.filter_congr fun r _ => Bool.and_comm _ _
  · refine List.filter_congr fun r _ => ?_
    rw [Bool.and_comm]
    cases d.get? r.key <;> rfl

/-- A document without repeated keys is refused when a field is not of its type.  Otherwise the
count and the number of the missing fields make up the number of the counted ones. -/
theorem scanDoc_of_checks (h : List.Forall₂ (fun fd r => Field.Checks fd r d) fs rows)
    (hrows : (rows.map FieldRow.key).Nodup) (hd : d.keys.Nodup) (s : σ) :
    (WellTyped rows d ∧ ∃ t n, scanDoc fs s d = .ok (t, n) ∧
        n + (missing rows d).length = (rows.filter (·.counted)).length) ∨
      (¬WellTyped rows d ∧ scanDoc fs s d = .error ()) := by
  rw [wellTyped_iff hrows]
  rcases foldlM_of_checks h (List.Subset.refl d) (s, 0) with ⟨htyped, t, ht⟩ | ⟨hno, herr⟩
  · refine Or.inl ⟨htyped, t, _, ht, ?_⟩
    rw [Nat.zero_add]
    exact length_counted_add_missing hrows hd
  · exact Or.inr ⟨hno, herr⟩

/-! ### Looking up by name -/

/-- Reading a field that was not read before is adding it to what can be looked up: `build g` are
the locals in which the fields that `g` has were read. -/
def Field.Builds (fd : Field σ) (build : (String → Option Bson) → σ) : Prop :=
  ∀ g v t, g fd.key = none → fd.read (build g) v = .ok t →
    t = build (Function.update g fd.key (some v))

/-- The branches put together what looking up by name gives. -/
structure ReadsByName (fs : List (Field σ)) (build : (String → Option Bson) → σ) : Prop where
  known : ∀ fd ∈ fs, fd.Builds build
  congr : ∀ g g', (∀ fd ∈ fs, g fd.key = g' fd.key) → build g = build g'

namespace Field

variable {key : String} {counted : Bool} {build : (String → Option Bson) → σ}

theorem builds_onOid {f : σ → Oid → σ}
    (h : ∀ g o, g key = none → f (build g) o = build (Function.update g key (some (.oid o)))) :
    Builds ⟨key, counted, onOid f⟩ build := by
  intro g v t hg hread
  cases v <;> simp only [onOid, Outcome.ok.injEq, reduceCtorEq] at hread
  exact hread.symm.trans (h g _ hg)

theorem builds_onUtf8 {f : σ → String → σ}
    (h : ∀ g x, g key = none →
      f (build g) (cstr x) = build (Function.update g key (some (.utf8 x)))) :
    Builds ⟨key, counted, onUtf8 f⟩ build := by
  intro g v t hg hread
  cases v <;> simp only [onUtf8, Outcome.ok.injEq, reduceCtorEq] at hread
  exact hread.symm.trans (h g _ hg)

theorem builds_onInt32 {f : σ → Int32 → σ}
    (h : ∀ g i, g key = none → f (build g) i = build (Function.update g key (some (.int32 i)))) :
    Builds ⟨key, counted, onInt32 f⟩ build := by
  intro g v t hg hread
  cases v <;> simp only [onInt32, Outcome.ok.injEq, reduceCtorEq] at hread
  exact hread.symm.trans (h g _ hg)

theorem builds_onBool {f : σ → Bool → σ}
    (h : ∀ g b, g key = none → f (build g) b = build (Function.update g key (some (.bool b)))) :
    Builds ⟨key, counted, onBool f⟩ build := by
  intro g v t hg hread
  cases v <;> simp only [onBool, Outcome.ok.injEq, reduceCtorEq] at hread
  exact hread.symm.trans (h g _ hg)

theorem builds_onDateTime {f : σ → Int64 → σ}
    (h : ∀ g x, g key = none →
      f (build g) x = build (Function.update g key (some (.dateTime x)))) :
    Builds ⟨key, counted, onDateTime f⟩ build := by
  intro g v t hg hread
  cases v <;> simp only [onDateTime, Outcome.ok.injEq, reduceCtorEq] at hread
  exact hread.symm.trans (h g _ hg)

theorem builds_onDouble {f : σ → UInt64 → σ}
    (h : ∀ g x, g key = none → f (build g) x = build (Function.update g key (some (.double x)))) :
    Builds ⟨key, counted, onDouble f⟩ build := by
  intro g v t hg hread
  cases v <;> simp only [onDouble, Outcome.ok.injEq, reduceCtorEq] at hread
  exact hread.symm.trans (h g _ hg)

theorem builds_onArray {f : σ → List Bson → Outcome Unit σ}
    (h : ∀ g a t, g key = none → f (build g) a = .ok t →
      t = build (Function.update g key (some (.array a)))) :
    Builds ⟨key, counted, onArray f⟩ build := by
  intro g v t hg hread
  cases v <;> simp only [onArray, reduceCtorEq] at hread
  exact h g _ t hg hread

end Field

/-- Without repeated keys the order of the fields makes no difference to the locals. -/
theorem scanDoc_byName {build : (String → Option Bson) → σ} (h : ReadsByName fs build)
    (hd : d.keys.Nodup) {t : σ} {n : ℕ} (hscan : scanDoc fs (build fun _ => none) d = .ok (t, n)) :
    t = build d.get? := by
  have hwalk : ∀ (l : Doc) (g : String → Option Bson) (m : ℕ), l.keys.Nodup →
      (∀ k ∈ l.keys, g k = none) → l.foldlM (scanField fs) (build g, m) = .ok (t, n) →
      t = build fun k => (g k).or (l.get? k) := by
    intro l
    induction l with
    | nil =>
      intro g m _ _ hwalk
      rw [List.foldlM_nil, Outcome.pure_eq_ok, Outcome.ok.injEq, Prod.mk.injEq] at hwalk
      simp [← hwalk.1]
    | cons f l ih =>
      intro g m hl hg hwalk
      rw [List.foldlM_cons] at hwalk
      obtain ⟨⟨t', m'⟩, hf, hrest⟩ := Outcome.bind_eq_ok.mp hwalk
      obtain ⟨hfl, hl⟩ := List.nodup_cons.mp hl
      have hgf : g f.1 = none := hg f.1 List.mem_cons_self
      have hread : t' = build (Function.update g f.1 (some f.2)) := by
        rcases scanField_cases hf with ⟨hnone, heq⟩ | ⟨fd, hfd, hread⟩
        · -- No branch looks at the field.
          rw [Prod.mk.injEq] at heq
          rw [heq.1]
          refine h.congr _ _ fun fd hfd => ?_
          have hne : fd.key ≠ f.1 := by simpa using List.find?_eq_none.mp hnone fd hfd
          rw [Function.update_of_ne hne]
        · have hkey : fd.key = f.1 := by simpa using List.find?_some hfd
          have hknown := h.known fd (List.mem_of_find?_eq_some hfd) g f.2 t' (hkey ▸ hgf) hread
          rwa [hkey] at hknown
      rw [hread] at hrest
      have hnone : ∀ k ∈ Doc.keys l, Function.update g f.1 (some f.2) k = none := by
        intro k hk
        have hne : k ≠ f.1 := fun hkf => hfl (hkf ▸ hk)
        rw [Function.update_of_ne hne]
        exact hg k (List.mem_cons_of_mem _ hk)
      rw [ih _ m' hl hnone hrest]
      congr 1
      funext k
      rw [Doc.get?_cons]
      by_cases hk : k = f.1
      · rw [hk, Function.update_self, if_pos rfl, hgf]
        rfl
      · rw [Function.update_of_ne hk, if_neg hk]
  have hget := hwalk d (fun _ => none) 0 hd (by simp) hscan
  simpa using hget

/-! ### Exact decoders -/

variable {β : Type} {build : (String → Option Bson) → σ} {info : σ → β}
  {decode : Doc → Outcome Unit β}

/-- A decoder that wants all counted fields: the walk, the check of the count, and the
constructor. -/
def DecodesAll (decode : Doc → Outcome Unit β) (fs : List (Field σ))
    (build : (String → Option Bson) → σ) (info : σ → β) (total : ℕ) : Prop :=
  ∀ d, decode d = scanDoc fs (build fun _ => none) d >>= fun s =>
    if s.2 = total then .ok (info s.1) else .error ()

/-- Such a decoder accepts a document without repeated keys when no counted field is missing and
every field is of its type.  The result is made of what the names are looked up to. -/
theorem decode_of_checks (h : List.Forall₂ (fun fd r => Field.Checks fd r d) fs rows)
    (hrows : (rows.map FieldRow.key).Nodup) (hread : ReadsByName fs build)
    (hdecode : DecodesAll decode fs build info (rows.filter (·.counted)).length)
    (hd : d.keys.Nodup) :
    (missing rows d = [] ∧ WellTyped rows d ∧ decode d = .ok (info (build d.get?))) ∨
      (¬(missing rows d = [] ∧ WellTyped rows d) ∧ decode d = .error ()) := by
  rw [hdecode]
  rcases scanDoc_of_checks h hrows hd (build fun _ => none) with
    ⟨htyped, t, n, hscan, hcount⟩ | ⟨htyped, herr⟩
  · rw [hscan, Outcome.ok_bind, scanDoc_byName hread hd hscan]
    dsimp only
    by_cases hnone : missing rows d = []
    · rw [hnone, List.length_nil, Nat.add_zero] at hcount
      exact Or.inl ⟨hnone, htyped, if_pos hcount⟩
    · have hpos : 0 < (missing rows d).length := List.length_pos_iff.mpr hnone
      exact Or.inr ⟨fun h => hnone h.1, if_neg (by omega)⟩
  · rw [herr]
    exact Or.inr ⟨fun h => htyped h.2, rfl⟩

/-- Another order of the fields makes no difference. -/
theorem decode_of_perm (h : List.Forall₂ (fun fd r => Field.Checks fd r d) fs rows)
    (hrows : (rows.map FieldRow.key).Nodup) (hread : ReadsByName fs build)
    (hdecode : DecodesAll decode fs build info (rows.filter (·.counted)).length)
    (hd : d.keys.Nodup) {d' : Doc} (hperm : d'.Perm d) : decode d' = decode d := by
  have hd' : d'.keys.Nodup := ((hperm.map Prod.fst).nodup_iff).mpr hd
  have hget : d'.get? = d.get? := funext fun k => Doc.get?_of_perm hd hperm k
  have h' : List.Forall₂ (fun fd r => Field.Checks fd r d') fs rows :=
    h.imp fun fd r hfd => ⟨hfd.key, hfd.counted, fun v hv => hfd.read v (hperm.mem_iff.mp hv)⟩
  have hmissing : missing rows d' = missing rows d := by
    unfold missing
    rw [hget]
  have htyped : WellTyped rows d' ↔ WellTyped rows d := by
    unfold WellTyped
    simp only [hperm.mem_iff]
  have hleft := decode_of_checks h' hrows hread hdecode hd'
  have hright := decode_of_checks h hrows hread hdecode hd
  rw [hmissing, htyped, hget] at hleft
  rcases hright with ⟨hnone, ht, hok⟩ | ⟨hno, herr⟩
  · rcases hleft with ⟨-, -, hok'⟩ | ⟨hno, -⟩
    · rw [hok, hok']
    · exact absurd ⟨hnone, ht⟩ hno
  · rcases hleft with ⟨hnone, ht, -⟩ | ⟨-, herr'⟩
    · exact absurd ⟨hnone, ht⟩ hno
    · rw [herr, herr']

/-- What the output parameter of a decoder holds after the call: it is written at the end only. -/
def outputAfter {α : Type} (out : β → α) (before : α) : Outcome Unit β → α
  | .ok r => out r
  | _ => before

/-- The decoder accepts the document exactly when no counted field is missing and every field of the
table is of its type; then the output is what the names are looked up to, whatever the order of the
fields, and otherwise it is left alone. -/
structure ExactDecode {α : Type} (decode : Doc → Outcome Unit β) (out : β → α)
    (rows : List FieldRow) (byName : α → Prop) (d : Doc) : Prop where
  success : (∃ r, decode d = .ok r) ↔
    (∀ r ∈ rows, r.counted = true → (d.get? r.key).isSome = true) ∧ WellTyped rows d
  byName : ∀ r, decode d = .ok r → byName (out r)
  order : ∀ d', d'.Perm d → decode d' = decode d
  unchanged : ∀ before, (¬∃ r, decode d = .ok r) → outputAfter out before (decode d) = before

theorem exactDecode_of_checks {α : Type} {out : β → α} {byName : α → Prop}
    (h : List.Forall₂ (fun fd r => Field.Checks fd r d) fs rows)
    (hrows : (rows.map FieldRow.key).Nodup) (hread : ReadsByName fs build)
    (hdecode : DecodesAll decode fs build info (rows.filter (·.counted)).length)
    (hd : d.keys.Nodup)
    (hout : missing rows d = [] → WellTyped rows d → byName (out (info (build d.get?)))) :
    ExactDecode decode out rows byName d := by
  have hperm := fun (d' : Doc) (hp : d'.Perm d) => decode_of_perm h hrows hread hdecode hd hp
  rcases decode_of_checks h hrows hread hdecode hd with ⟨hnone, htyped, hok⟩ | ⟨hno, herr⟩
  · refine ⟨?_, ?_, hperm, ?_⟩
    · exact iff_of_true ⟨_, hok⟩ ⟨missing_eq_nil.mp hnone, htyped⟩
    · intro r hr
      obtain rfl := Outcome.ok.inj (hok.symm.trans hr)
      exact hout hnone htyped
    · exact fun before hfail => absurd ⟨_, hok⟩ hfail
  · refine ⟨?_, ?_, hperm, ?_⟩
    · rw [← missing_eq_nil]
      exact iff_of_false (by simp [herr]) hno
    · intro r hr
      cases herr.symm.trans hr
    · intro before _
      rw [herr]
      rfl

end

end LoadBalance
