import LoadBalance.Mongo.Equiv.Parts

/-!
# Streams that decode alike

A view that is counted changes the counter of a stream, and a catchup that is created is pushed to
the parts of its channel.  Everything else of what a decoder makes of the document stays
(`AlikeStream.accepted`), whichever of the decoders it is: the counter and the parts are components
of the locals that no other branch reads (`respects_streamFields`).
-/

namespace LoadBalance

/-! ### Branches that keep locals alike -/

namespace Field

variable {σ : Type} {S : σ → σ → Prop} {key : String} {counted : Bool}

/-- The branch takes related locals to related ones. -/
def Respects (S : σ → σ → Prop) (fd : Field σ) : Prop :=
  ∀ s t v, S s t → Outcome.Rel S (fd.read s v) (fd.read t v)

theorem respects_onOid {f : σ → Oid → σ} (hf : ∀ s t x, S s t → S (f s x) (f t x)) :
    Respects S ⟨key, counted, onOid f⟩ := by
  intro s t v h
  cases v <;> first | exact .error () | exact .ok (hf s t _ h)

theorem respects_onUtf8 {f : σ → String → σ} (hf : ∀ s t x, S s t → S (f s x) (f t x)) :
    Respects S ⟨key, counted, onUtf8 f⟩ := by
  intro s t v h
  cases v <;> first | exact .error () | exact .ok (hf s t _ h)

theorem respects_onInt32 {f : σ → Int32 → σ} (hf : ∀ s t x, S s t → S (f s x) (f t x)) :
    Respects S ⟨key, counted, onInt32 f⟩ := by
  intro s t v h
  cases v <;> first | exact .error () | exact .ok (hf s t _ h)

theorem respects_onBool {f : σ → Bool → σ} (hf : ∀ s t x, S s t → S (f s x) (f t x)) :
    Respects S ⟨key, counted, onBool f⟩ := by
  intro s t v h
  cases v <;> first | exact .error () | exact .ok (hf s t _ h)

theorem respects_onDateTime {f : σ → Int64 → σ} (hf : ∀ s t x, S s t → S (f s x) (f t x)) :
    Respects S ⟨key, counted, onDateTime f⟩ := by
  intro s t v h
  cases v <;> first | exact .error () | exact .ok (hf s t _ h)

theorem respects_onDouble {f : σ → UInt64 → σ} (hf : ∀ s t x, S s t → S (f s x) (f t x)) :
    Respects S ⟨key, counted, onDouble f⟩ := by
  intro s t v h
  cases v <;> first | exact .error () | exact .ok (hf s t _ h)

theorem respects_onArray {f : σ → List Bson → Outcome Unit σ}
    (hf : ∀ s t a, S s t → Outcome.Rel S (f s a) (f t a)) :
    Respects S ⟨key, counted, onArray f⟩ := by
  intro s t v h
  cases v <;> first | exact .error () | exact hf s t _ h

theorem respects_array {f : σ → List Bson → σ} (hf : ∀ s t a, S s t → S (f s a) (f t a)) :
    Respects S ⟨key, counted, onArray fun s a => .ok (f s a)⟩ :=
  respects_onArray fun s t a h => .ok (hf s t a h)

end Field

/-! ### The locals -/

/-- The locals differ at most in the counter and, where `g` or `u` allows it, in the parts or in the
times, of which `u` says that they started out differently. -/
def StreamScan.Alike (g u : Prop) (s t : StreamScan) : Prop :=
  ∃ views parts start stop,
    t = { s with viewCount := views, parts := parts, start := start, stop := stop } ∧
      (¬g → parts = s.parts) ∧ (¬u → start = s.start ∧ stop = s.stop)

theorem StreamScan.Alike.refl {g u : Prop} (s : StreamScan) : s.Alike g u s :=
  ⟨s.viewCount, s.parts, s.start, s.stop, rfl, fun _ => rfl, fun _ => ⟨rfl, rfl⟩⟩

theorem StreamScan.Alike.trans {g u : Prop} {s t r : StreamScan} (h : s.Alike g u t)
    (h' : t.Alike g u r) : s.Alike g u r := by
  obtain ⟨views, parts, start, stop, rfl, hparts, htimes⟩ := h
  obtain ⟨views', parts', start', stop', rfl, hparts', htimes'⟩ := h'
  refine ⟨views', parts', start', stop', rfl, fun hg => (hparts' hg).trans (hparts hg),
    fun hu => ⟨?_, ?_⟩⟩
  · exact (htimes' hu).1.trans (htimes hu).1
  · exact (htimes' hu).2.trans (htimes hu).2

/-- What the walks start with. -/
theorem alike_init [Fastotv] {g u : Prop} {uninit uninit' : Uninit} (h : ¬u → uninit' = uninit) :
    (StreamScan.init uninit).Alike g u (StreamScan.init uninit') := by
  refine ⟨0, [], uninit'.start, uninit'.stop, rfl, fun _ => rfl, fun hu => ?_⟩
  rw [h hu]
  exact ⟨rfl, rfl⟩

section

variable [Fastotv] {g u : Prop}

open LoadBalance.Field StreamField

/-- No branch reads the counter or, but for its own, the parts. -/
theorem respects_streamFields : ∀ fd ∈ streamFields, fd.Respects (StreamScan.Alike g u) := by
  have hepg : epgOutput.Respects (StreamScan.Alike g u) := by
    intro s t v h
    simp only [epgOutput]
    obtain ⟨views, parts, start, stop, rfl, hparts, htimes⟩ := h
    cases getOutputUrlData v with
    | none => exact .error ()
    | some urls => exact .ok ⟨views, parts, start, stop, rfl, hparts, htimes⟩
  have hmovie : movieOutput.Respects (StreamScan.Alike g u) := by
    intro s t v h
    simp only [movieOutput]
    obtain ⟨views, parts, start, stop, rfl, hparts, htimes⟩ := h
    cases getOutputUrlData v with
    | none => exact .error ()
    | some urls => exact .ok ⟨views, parts, start, stop, rfl, hparts, htimes⟩
  have hparts : StreamField.parts.Respects (StreamScan.Alike g u) := by
    refine respects_onArray fun s t a h => ?_
    obtain ⟨views, parts, start, stop, rfl, hparts, htimes⟩ := h
    cases oidTexts a with
    | ok ps => exact .ok ⟨views, parts ++ ps, start, stop, rfl, fun hg => by rw [hparts hg], htimes⟩
    | error e => exact .error e
    | abort => exact .abort
  simp only [streamFields, valueFields, List.forall_mem_cons]
  refine ⟨respects_onOid ?_, respects_onBool ?_, respects_array ?_, respects_onInt32 ?_,
    respects_onInt32 ?_, respects_onUtf8 ?_, respects_onUtf8 ?_, respects_onBool ?_, hparts,
    respects_array ?_, respects_onBool ?_, respects_onDateTime ?_, respects_onDateTime ?_,
    respects_onUtf8 ?_, hepg, respects_onUtf8 ?_, respects_onUtf8 ?_, respects_onUtf8 ?_, hmovie,
    respects_onUtf8 ?_, respects_onDouble ?_, respects_onDateTime ?_, respects_onUtf8 ?_,
    respects_onInt32 ?_, respects_onInt32 ?_, by simp⟩
  all_goals
    rintro s t x ⟨views, parts, start, stop, rfl, hparts, htimes⟩
    first
      | exact ⟨views, parts, start, stop, rfl, hparts, htimes⟩
      | exact ⟨_, parts, start, stop, rfl, hparts, htimes⟩
      | exact ⟨views, parts, _, stop, rfl, hparts, fun hu => ⟨rfl, (htimes hu).2⟩⟩
      | exact ⟨views, parts, start, _, rfl, hparts, fun hu => ⟨(htimes hu).1, rfl⟩⟩

theorem keys_streamFields : streamFields.map Field.key =
    streamIdField :: streamVisibleField :: valueFields.map Field.key := rfl

theorem eq_viewCount_of_mem {fd : Field StreamScan} (hfd : fd ∈ streamFields)
    (hkey : fd.key = streamViewCountField) : fd = StreamField.viewCount := by
  refine Field.eq_of_key_eq ?_ hfd (by simp [streamFields, valueFields]) hkey rfl
  rw [keys_streamFields, keys_valueFields]
  decide

theorem eq_parts_of_mem {fd : Field StreamScan} (hfd : fd ∈ streamFields)
    (hkey : fd.key = streamPartsField) : fd = StreamField.parts := by
  refine Field.eq_of_key_eq ?_ hfd (by simp [streamFields, valueFields]) hkey rfl
  rw [keys_streamFields, keys_valueFields]
  decide

/-! ### The documents -/

/-- The documents are of one type, and every decoder makes the same of them but for the counter and,
when `g` allows it, the parts. -/
structure AlikeStream (g : Prop) (d d' : StoredDoc) : Prop where
  type : streamType? d'.toDoc = streamType? d.toDoc
  scan : ∀ fields, fields ⊆ streamFields → ∀ u s t n, s.Alike g u t →
    Outcome.Rel (fun x y => x.1.Alike g u y.1 ∧ x.2 = y.2)
      (d.toDoc.foldlM (scanField fields) (s, n)) (d'.toDoc.foldlM (scanField fields) (t, n))

theorem alikeField_refl {fields : List (Field StreamScan)} (hfields : fields ⊆ streamFields)
    (f : String × Bson) : AlikeField fields (StreamScan.Alike g u) f f :=
  ⟨rfl, fun fd hfd _ s t h => respects_streamFields fd (hfields hfd) s t f.2 h⟩

theorem AlikeStream.refl (d : StoredDoc) : AlikeStream g d d := by
  refine ⟨rfl, fun fields hfields u s t n h => rel_foldlM_scanField ?_ h⟩
  exact List.forall₂_same.mpr fun f _ => alikeField_refl hfields f

theorem AlikeStream.trans {d d' d'' : StoredDoc} (h : AlikeStream g d d')
    (h' : AlikeStream g d' d'') : AlikeStream g d d'' := by
  refine ⟨h'.type.trans h.type, fun fields hfields u s t n hst => ?_⟩
  refine (h.scan fields hfields u s t n hst).trans (fun x y z hxy hyz => ?_)
    (h'.scan fields hfields u t t n (.refl t))
  exact ⟨hxy.1.trans hyz.1, hxy.2.trans hyz.2⟩

/-- Two counters. -/
theorem alikeField_viewCount {fields : List (Field StreamScan)} (hfields : fields ⊆ streamFields)
    {i j : Int32} : AlikeField fields (StreamScan.Alike g u) (streamViewCountField, .int32 i)
      (streamViewCountField, .int32 j) := by
  refine ⟨rfl, fun fd hfd hkey s t h => ?_⟩
  obtain rfl := eq_viewCount_of_mem (hfields hfd) hkey
  obtain ⟨views, parts, start, stop, rfl, hparts, htimes⟩ := h
  exact .ok ⟨_, parts, start, stop, rfl, hparts, htimes⟩

/-- A view that is counted, in a counter with room for it. -/
theorem AlikeStream.of_views {d d' : StoredDoc} {i j : Int32} (hid : d'.id = d.id)
    (hget : d.fields.get? streamViewCountField = some (.int32 i))
    (hfields : d'.fields = d.fields.set streamViewCountField (.int32 j)) : AlikeStream g d d' := by
  have hcls := Doc.get?_set_ne d.fields (.int32 j)
    (by decide : streamClsField ≠ streamViewCountField)
  refine ⟨streamType?_of_fields (hfields ▸ hcls), fun fields hsub u s t n h =>
    rel_foldlM_scanField ?_ h⟩
  unfold StoredDoc.toDoc
  rw [hfields, hid]
  refine .cons (alikeField_refl hsub _)
    (Doc.forall₂_set (alikeField_refl hsub) hget (alikeField_viewCount hsub))

/-- A part that is pushed. -/
theorem AlikeStream.of_push {d d' : StoredDoc} {x : Oid} {v : Bson} (hg : g) (hid : d'.id = d.id)
    (hpush : pushOp (.oid x) (d.fields.get? streamPartsField) = some v)
    (hfields : d'.fields = d.fields.set streamPartsField v) : AlikeStream g d d' := by
  have hcls := Doc.get?_set_ne d.fields v (by decide : streamClsField ≠ streamPartsField)
  refine ⟨streamType?_of_fields (hfields ▸ hcls), fun fields hsub u s t n h => ?_⟩
  unfold StoredDoc.toDoc
  rw [hfields, hid]
  cases hget : d.fields.get? streamPartsField with
  | none =>
    rw [hget] at hpush
    obtain rfl := Option.some.inj hpush
    -- The array is new: it is read last.
    rw [Doc.set_of_get?_none hget, ← List.cons_append, List.foldlM_append]
    have hwalk := rel_foldlM_scanField (n := n)
      (List.forall₂_same.mpr fun f (_ : f ∈ (idField, d.id) :: d.fields) =>
        alikeField_refl hsub f) h
    rw [← bind_pure (((idField, d.id) :: d.fields).foldlM (scanField fields) (s, n))]
    refine hwalk.bind fun a b hab => ?_
    rw [List.foldlM_cons]
    unfold scanField
    dsimp only
    cases hfd : fields.find? (·.key = streamPartsField) with
    | none => exact .ok hab
    | some fd =>
      have hkey : fd.key = streamPartsField := by simpa using List.find?_some hfd
      obtain rfl := eq_parts_of_mem (hsub (List.mem_of_find?_eq_some hfd)) hkey
      obtain ⟨⟨views, parts, start, stop, hb, -, htimes⟩, hcount⟩ := hab
      refine .ok ⟨⟨views, b.1.parts ++ [x.text], start, stop, ?_, fun hng => absurd hg hng,
        htimes⟩, hcount⟩
      rw [hb]
      rfl
  | some w =>
    rw [hget] at hpush
    cases w with
    | array a =>
      obtain rfl := Option.some.inj hpush
      have hparts : AlikeField fields (StreamScan.Alike g u) (streamPartsField, .array a)
          (streamPartsField, .array (a ++ [.oid x])) := by
        refine ⟨rfl, fun fd hfd hkey s t h => ?_⟩
        obtain rfl := eq_parts_of_mem (hsub hfd) hkey
        obtain ⟨views, parts, start, stop, rfl, -, htimes⟩ := h
        -- The new element is an object id.
        show Outcome.Rel _ (oidTexts a >>= _) (oidTexts (a ++ [.oid x]) >>= _)
        unfold oidTexts
        rw [List.mapM_append, bind_assoc]
        refine (Outcome.Rel.refl (R := Eq) (fun _ => rfl) _).bind fun ps ps' hps => ?_
        exact .ok ⟨views, parts ++ (ps' ++ [x.text]), start, stop, rfl, fun hng => absurd hg hng,
          htimes⟩
      exact rel_foldlM_scanField (.cons (alikeField_refl hsub _)
        (Doc.forall₂_set (alikeField_refl hsub) hget hparts)) h
    | _ => cases hpush

/-- What a decoder does with the two documents ends alike. -/
theorem AlikeStream.accepted {d d' : StoredDoc} (h : AlikeStream g d d') {α : Type}
    (D : StreamDecoder α) {uninit uninit' : Uninit} (hu : ¬u → uninit' = uninit)
    (st : StreamType) :
    Outcome.Rel (StreamScan.Alike g u) (D.accepted uninit d.toDoc st)
      (D.accepted uninit' d'.toDoc st) := by
  unfold StreamDecoder.accepted scanDoc
  refine (h.scan D.fields D.fields_subset u _ _ 0 (alike_init hu)).bind ?_
  rintro ⟨s, n⟩ ⟨t, m⟩ ⟨hst, rfl⟩
  dsimp only
  split_ifs
  · exact .ok hst
  · exact .error ()

/-! ### What is listed -/

/-- The info differs at most in the counter and, for streams that `G` names, in the parts. -/
def ChannelInfo.Alike (G : StreamId → Prop) (i j : ChannelInfo) : Prop :=
  ∃ views parts, j = { i with viewCount := views, parts := parts } ∧
    (¬G i.streamId → parts = i.parts)

@[inherit_doc ChannelInfo.Alike]
def VodInfo.Alike (G : StreamId → Prop) (i j : VodInfo) : Prop :=
  ∃ views parts, j = { i with viewCount := views, parts := parts } ∧
    (¬G i.streamId → parts = i.parts)

@[inherit_doc ChannelInfo.Alike]
def CatchupInfo.Alike (G : StreamId → Prop) (i j : CatchupInfo) : Prop :=
  ∃ views parts, j = { i with viewCount := views, parts := parts } ∧
    (¬G i.streamId → parts = i.parts)

/-- The info differs at most in the number of views, which is that of its episodes. -/
def SerialInfo.Alike (i j : SerialInfo) : Prop := ∃ views, j = { i with viewCount := views }

/-- The lists have the same infos in the same order, up to the counters and, for streams that `G`
names, the parts. -/
structure Catalogue.Alike (G : StreamId → Prop) (r r' : Catalogue) : Prop where
  chans : List.Forall₂ (ChannelInfo.Alike G) r.chans r'.chans
  vods : List.Forall₂ (VodInfo.Alike G) r.vods r'.vods
  pchans : List.Forall₂ (ChannelInfo.Alike G) r.pchans r'.pchans
  pvods : List.Forall₂ (VodInfo.Alike G) r.pvods r'.pvods
  catchups : List.Forall₂ (CatchupInfo.Alike G) r.catchups r'.catchups
  series : List.Forall₂ SerialInfo.Alike r.series r'.series
  contentRequests : r'.contentRequests = r.contentRequests

end

end LoadBalance
