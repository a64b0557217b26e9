import LoadBalance.Mongo.Equiv.Catchup

/-!
# Outputs of a stream, written and read

`createOutputUrl` writes a list of outputs as an array of documents, `getOutputUrlData` reads an
array of whatever elements.  What the one writes the other reads back (`getOutputUrlData_create`),
and what is read of any array is one output for each element that describes one, in their order
(`describes_outputs`, `output_urls_round_trip`).
-/

namespace LoadBalance

section

variable [Fastotv]

/-! ### Round trip -/

/-- The output that is read where this one was written: its texts are parsed again. -/
def OutputUri.reread (out : OutputUri) : OutputUri where
  id := out.id
  url := Fastotv.gurl (cstr (cstr out.url.spec))
  httpRoot := out.httpRoot.map fun dir => Fastotv.directory (cstr (cstr dir.path))
  hlsType := out.hlsType

/-- One output is read again, with the optional fields that it has. -/
theorem outputUri?_element (out : OutputUri) :
    outputUri? (.document (outputElement out)) = some out.reread := by
  obtain ⟨id, url, httpRoot, hlsType⟩ := out
  have hid : id.toInt32.toUInt32 = id := UInt32.toUInt32_toInt32 id
  cases httpRoot with
  | none =>
    cases hlsType with
    | none =>
      show some (OutputUri.mk id.toInt32.toUInt32 (Fastotv.gurl (cstr (cstr url.spec))) none none) = _
      rw [hid]
      rfl
    | some t =>
      show some (OutputUri.mk id.toInt32.toUInt32 (Fastotv.gurl (cstr (cstr url.spec))) none
        (some t)) = _
      rw [hid]
      rfl
  | some dir =>
    cases hlsType with
    | none =>
      show some (OutputUri.mk id.toInt32.toUInt32 (Fastotv.gurl (cstr (cstr url.spec)))
        (some (Fastotv.directory (cstr (cstr dir.path)))) none) = _
      rw [hid]
      rfl
    | some t =>
      show some (OutputUri.mk id.toInt32.toUInt32 (Fastotv.gurl (cstr (cstr url.spec)))
        (some (Fastotv.directory (cstr (cstr dir.path)))) (some t)) = _
      rw [hid]
      rfl

theorem getOutputUrlData_written (urls : List OutputUri) :
    getOutputUrlData (createOutputUrl urls) = some (urls.map OutputUri.reread) := by
  have hread : (urls.map fun out => Bson.document (outputElement out)).filterMap outputUri? =
      urls.map OutputUri.reread := by
    rw [List.filterMap_map]
    refine List.filterMap_eq_map_iff_forall_eq_some.mpr fun out _ => outputUri?_element out
  exact congrArg some hread

/-- The libraries give the values of an output back from their texts. -/
structure OutputUri.TextsParse (out : OutputUri) : Prop where
  url : Fastotv.gurl (cstr out.url.spec) = out.url
  httpRoot : ∀ dir, out.httpRoot = some dir → Fastotv.directory (cstr dir.path) = dir

theorem OutputUri.TextsParse.reread {out : OutputUri} (h : out.TextsParse) : out.reread = out := by
  obtain ⟨id, url, httpRoot, hlsType⟩ := out
  have hurl : Fastotv.gurl (cstr (cstr url.spec)) = url := by
    rw [cstr_cstr]
    exact h.url
  have hroot : (httpRoot.map fun dir => Fastotv.directory (cstr (cstr dir.path))) = httpRoot := by
    cases httpRoot with
    | none => rfl
    | some dir =>
      rw [Option.map_some, cstr_cstr]
      exact congrArg some (h.httpRoot dir rfl)
  unfold OutputUri.reread
  dsimp only
  rw [hurl, hroot]

/-- A list of outputs is read back. -/
theorem getOutputUrlData_create {urls : List OutputUri} (h : ∀ out ∈ urls, out.TextsParse) :
    getOutputUrlData (createOutputUrl urls) = some urls := by
  have hsame : urls.map OutputUri.reread = urls := by
    rw [List.map_congr_left fun out hout => (h out hout).reread, List.map_id']
  rw [getOutputUrlData_written, hsame]

/-! ### Any array -/

omit [Fastotv] in
/-- The element is a document with an int32 id and a string uri. -/
def describesOutput : Bson → Bool
  | .document d => match Doc.get? d streamOutputUrlsIdField, Doc.get? d streamOutputUrlsUriField with
    | some (.int32 _), some (.utf8 _) => true
    | _, _ => false
  | _ => false

/-- The components of an output are what the names are looked up to in the document; the optional
ones are there when their field is of its type. -/
structure DescribedBy (d : Doc) (out : OutputUri) : Prop where
  id : ∃ i, d.get? streamOutputUrlsIdField = some (.int32 i) ∧ out.id = i.toUInt32
  url : ∃ x, d.get? streamOutputUrlsUriField = some (.utf8 x) ∧ out.url = Fastotv.gurl (cstr x)
  httpRoot : ∀ dir, out.httpRoot = some dir ↔ ∃ x,
    d.get? streamOutputUrlsHttpRootField = some (.utf8 x) ∧ Fastotv.directory (cstr x) = dir
  hlsType : ∀ t, out.hlsType = some t ↔ d.get? streamOutputUrlsHlsTypeField = some (.int32 t)

/-- The element is a document that describes the output. -/
def Describes (e : Bson) (out : OutputUri) : Prop := ∃ d, e = .document d ∧ DescribedBy d out

/-- What is made of the two optional fields. -/
theorem httpRoot_eq_some (v : Option Bson) (dir : Directory) :
    (match v with
      | some (.utf8 data) => some (Fastotv.directory (cstr data))
      | _ => none) = some dir ↔ ∃ x, v = some (.utf8 x) ∧ Fastotv.directory (cstr x) = dir := by
  cases v with
  | none => simp
  | some v => cases v <;> simp

omit [Fastotv] in
theorem hlsType_eq_some (v : Option Bson) (t : Int32) :
    (match v with
      | some (.int32 t) => some t
      | _ => none) = some t ↔ v = some (.int32 t) := by
  cases v with
  | none => simp
  | some v => cases v <;> simp

/-- An element that describes an output is read as that one, and any other one is passed over. -/
theorem outputUri?_cases (e : Bson) :
    (describesOutput e = true ∧ ∃ out, outputUri? e = some out ∧ Describes e out) ∨
      (describesOutput e = false ∧ outputUri? e = none) := by
  cases e with
  | document d =>
    dsimp only [describesOutput, outputUri?]
    cases hid : Doc.get? d streamOutputUrlsIdField with
    | none => exact Or.inr ⟨rfl, rfl⟩
    | some v =>
      cases v with
      | int32 i =>
        cases huri : Doc.get? d streamOutputUrlsUriField with
        | none => exact Or.inr ⟨rfl, rfl⟩
        | some v =>
          cases v with
          | utf8 x =>
            refine Or.inl ⟨rfl, _, rfl, d, rfl, ⟨⟨i, hid, rfl⟩, ⟨x, huri, rfl⟩, ?_, ?_⟩⟩
            · exact fun dir => httpRoot_eq_some _ dir
            · exact fun t => hlsType_eq_some _ t
          | _ => exact Or.inr ⟨rfl, rfl⟩
      | _ => exact Or.inr ⟨rfl, rfl⟩
  | _ => exact Or.inr ⟨rfl, rfl⟩

/-- Exactly one output is read for each element that describes one, in their order. -/
theorem describes_outputs (a : List Bson) :
    List.Forall₂ Describes (a.filter describesOutput) (a.filterMap outputUri?) := by
  induction a with
  | nil => exact .nil
  | cons e a ih =>
    rcases outputUri?_cases e with ⟨hdescribes, out, hout, hby⟩ | ⟨hno, hnone⟩
    · rw [List.filter_cons_of_pos hdescribes, List.filterMap_cons, hout]
      exact .cons hby ih
    · have hskip : ¬describesOutput e = true := by
        rw [hno]
        exact Bool.false_ne_true
      rw [List.filter_cons_of_neg hskip, List.filterMap_cons, hnone]
      exact ih

/-! ### The order of the keys -/

omit [Fastotv] in
/-- The same element, up to the order of the fields of a document without repeated keys. -/
inductive Reordered : Bson → Bson → Prop where
  | same (e : Bson) : Reordered e e
  | document {d d' : Doc} (hd : d.keys.Nodup) (hperm : d'.Perm d) :
      Reordered (.document d') (.document d)

theorem outputUri?_reordered {e e' : Bson} (h : Reordered e e') : outputUri? e = outputUri? e' := by
  cases h with
  | same => rfl
  | document hd hperm =>
    unfold outputUri?
    simp only [Doc.get?_of_perm hd hperm]

theorem outputs_reordered {a a' : List Bson} (h : List.Forall₂ Reordered a a') :
    getOutputUrlData (.array a) = getOutputUrlData (.array a') := by
  have hread : a.filterMap outputUri? = a'.filterMap outputUri? := by
    induction h with
    | nil => rfl
    | cons he _ ih => rw [List.filterMap_cons, List.filterMap_cons, outputUri?_reordered he, ih]
  exact congrArg some hread

/-- Outputs whose texts parse are read back as they were written; and of every array exactly one
output is read for each element that describes one, whatever the order of its keys. -/
theorem output_urls_round_trip :
    (∀ urls : List OutputUri, (∀ out ∈ urls, out.TextsParse) →
      getOutputUrlData (createOutputUrl urls) = some urls) ∧
    ∀ a : List Bson,
      (∃ outs, getOutputUrlData (.array a) = some outs ∧
        List.Forall₂ Describes (a.filter describesOutput) outs) ∧
      ∀ a', List.Forall₂ Reordered a' a →
        getOutputUrlData (.array a') = getOutputUrlData (.array a) :=
  ⟨fun _ h => getOutputUrlData_create h,
    fun a => ⟨⟨_, rfl, describes_outputs a⟩, fun _ h => outputs_reordered h⟩⟩

end

/-! Two outputs, one with both optional fields. -/

namespace Sample

def twoOutputs : List OutputUri :=
  [⟨1, ⟨"http://host/1/master.m3u8", true⟩, some ⟨""⟩, some 0⟩,
    ⟨2, ⟨"http://host/2/master.m3u8", true⟩, none, none⟩]

end Sample

open Sample in
theorem output_urls_round_trip_sample :
    getOutputUrlData (createOutputUrl twoOutputs) = some twoOutputs :=
  output_urls_round_trip.1 twoOutputs fun out hout => by
    simp only [twoOutputs, List.mem_cons, List.not_mem_nil, or_false] at hout
    rcases hout with rfl | rfl
    · exact ⟨by decide, fun dir hdir => by obtain rfl := Option.some.inj hdir; decide⟩
    · exact ⟨by decide, fun dir hdir => by cases hdir⟩

end LoadBalance
