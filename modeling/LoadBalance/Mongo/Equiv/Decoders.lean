import LoadBalance.Mongo.Mongo2Info
import LoadBalance.Bson.Collection

/-!
# What the stream decoders make of a document

The three stream decoders are one walk with different branches, and every branch writes one
component of the locals.  So the id of the info is the id of the document (`sidStr_of_scanDoc`),
a document that is hidden decodes as not visible (`visible_of_scanDoc`), and the subscriber's part
of the info is a matter of its own (`decode_eq_ok`): whether a document is accepted, and
everything else of the info, does not depend on it.  A `StreamDecoder` is what the three have in
common, and the facts about it hold of each.
-/

namespace LoadBalance

/-! ### Branches that leave a component alone -/

namespace Field

variable {σ τ : Type}

/-- The branch does not write the component `proj`. -/
def Frames (proj : σ → τ) (fd : Field σ) : Prop :=
  ∀ t v t', fd.read t v = .ok t' → proj t' = proj t

variable {proj : σ → τ} {key : String} {counted : Bool}

theorem frames_onOid {f : σ → Oid → σ} (h : ∀ s x, proj (f s x) = proj s) :
    Frames proj ⟨key, counted, onOid f⟩ := by
  intro t v t' hr
  cases v <;> simp only [onOid, Outcome.ok.injEq, reduceCtorEq] at hr
  rw [← hr, h]

theorem frames_onUtf8 {f : σ → String → σ} (h : ∀ s x, proj (f s x) = proj s) :
    Frames proj ⟨key, counted, onUtf8 f⟩ := by
  intro t v t' hr
  cases v <;> simp only [onUtf8, Outcome.ok.injEq, reduceCtorEq] at hr
  rw [← hr, h]

theorem frames_onInt32 {f : σ → Int32 → σ} (h : ∀ s x, proj (f s x) = proj s) :
    Frames proj ⟨key, counted, onInt32 f⟩ := by
  intro t v t' hr
  cases v <;> simp only [onInt32, Outcome.ok.injEq, reduceCtorEq] at hr
  rw [← hr, h]

theorem frames_onBool {f : σ → Bool → σ} (h : ∀ s x, proj (f s x) = proj s) :
    Frames proj ⟨key, counted, onBool f⟩ := by
  intro t v t' hr
  cases v <;> simp only [onBool, Outcome.ok.injEq, reduceCtorEq] at hr
  rw [← hr, h]

theorem frames_onDateTime {f : σ → Int64 → σ} (h : ∀ s x, proj (f s x) = proj s) :
    Frames proj ⟨key, counted, onDateTime f⟩ := by
  intro t v t' hr
  cases v <;> simp only [onDateTime, Outcome.ok.injEq, reduceCtorEq] at hr
  rw [← hr, h]

theorem frames_onDouble {f : σ → UInt64 → σ} (h : ∀ s x, proj (f s x) = proj s) :
    Frames proj ⟨key, counted, onDouble f⟩ := by
  intro t v t' hr
  cases v <;> simp only [onDouble, Outcome.ok.injEq, reduceCtorEq] at hr
  rw [← hr, h]

theorem frames_onArray {f : σ → List Bson → Outcome Unit σ}
    (h : ∀ s a s', f s a = .ok s' → proj s' = proj s) :
    Frames proj ⟨key, counted, onArray f⟩ := by
  intro t v t' hr
  cases v <;> simp only [onArray, reduceCtorEq] at hr
  exact h _ _ _ hr

end Field

section

variable [Fastotv]

open LoadBalance.Field StreamField

/-! ### The branches of the stream decoders -/

/-- The branches of the three stream decoders other than those of `_id` and `visible`. -/
def valueFields : List (Field StreamScan) :=
  [groups, iarc, viewCount, tvgId, displayName, haveAudio, StreamField.parts, metaUrlsField,
    haveVideo, start, stop, iconUrl, epgOutput, movieName, description, previewIcon, movieOutput,
    trailerUrl, userScore, primeDate, country, duration, vodType]

/-- All branches of the three stream decoders. -/
def streamFields : List (Field StreamScan) := StreamField.id :: visible :: valueFields

theorem vodFields_subset : vodFields ⊆ streamFields := by
  simp only [vodFields, streamFields, valueFields, List.cons_subset, List.nil_subset, and_true]
  repeat' first | apply And.intro | with_reducible exact List.mem_cons_self | apply List.mem_cons_of_mem
theorem catchupFields_subset : catchupFields ⊆ streamFields := by
  simp only [catchupFields, streamFields, valueFields, List.cons_subset, List.nil_subset, and_true]
  repeat' first | apply And.intro | with_reducible exact List.mem_cons_self | apply List.mem_cons_of_mem
theorem channelFields_subset : channelFields ⊆ streamFields := by
  simp only [channelFields, streamFields, valueFields, List.cons_subset, List.nil_subset, and_true]
  repeat' first | apply And.intro | with_reducible exact List.mem_cons_self | apply List.mem_cons_of_mem

omit [Fastotv] in
theorem frames_parts {τ : Type} {proj : StreamScan → τ}
    (h : ∀ s ps, proj { s with parts := ps } = proj s) : Frames proj StreamField.parts := by
  refine frames_onArray fun s a s' hr => ?_
  obtain ⟨ps, -, hs⟩ := Outcome.bind_eq_ok.mp hr
  rw [Outcome.ok.injEq] at hs
  rw [← hs, h]

theorem frames_epgOutput {τ : Type} {proj : StreamScan → τ}
    (h : ∀ s epg, proj { s with epg := epg } = proj s) : Frames proj epgOutput := by
  intro t v t' hr
  simp only [epgOutput] at hr
  split at hr
  · rw [Outcome.ok.injEq] at hr
    rw [← hr, h]
  · cases hr

theorem frames_movieOutput {τ : Type} {proj : StreamScan → τ}
    (h : ∀ s mov, proj { s with mov := mov } = proj s) : Frames proj movieOutput := by
  intro t v t' hr
  simp only [movieOutput] at hr
  split at hr
  · rw [Outcome.ok.injEq] at hr
    rw [← hr, h]
  · cases hr

omit [Fastotv] in
theorem frames_array {τ : Type} {proj : StreamScan → τ} {key : String} {counted : Bool}
    {f : StreamScan → List Bson → StreamScan} (h : ∀ s a, proj (f s a) = proj s) :
    Frames proj ⟨key, counted, Field.onArray fun s a => .ok (f s a)⟩ := by
  refine frames_onArray fun s a s' hr => ?_
  rw [Outcome.ok.injEq] at hr
  rw [← hr, h]

/-- None of them writes the id or the visibility. -/
theorem frames_valueFields :
    ∀ fd ∈ valueFields, Frames (fun s : StreamScan => (s.sidStr, s.visible)) fd := by
  simp only [valueFields, List.forall_mem_cons]
  refine ⟨frames_array ?_, frames_onInt32 ?_, frames_onInt32 ?_, frames_onUtf8 ?_,
    frames_onUtf8 ?_, frames_onBool ?_, frames_parts ?_, frames_array ?_, frames_onBool ?_,
    frames_onDateTime ?_, frames_onDateTime ?_, frames_onUtf8 ?_, frames_epgOutput ?_,
    frames_onUtf8 ?_, frames_onUtf8 ?_, frames_onUtf8 ?_, frames_movieOutput ?_,
    frames_onUtf8 ?_, frames_onDouble ?_, frames_onDateTime ?_, frames_onUtf8 ?_,
    frames_onInt32 ?_, frames_onInt32 ?_, by simp⟩
  all_goals exact fun _ _ => rfl

theorem frames_sidStr {fd : Field StreamScan} (hfd : fd ∈ streamFields)
    (hkey : fd.key ≠ streamIdField) : Frames StreamScan.sidStr fd := by
  rcases List.mem_cons.mp hfd with rfl | hfd
  · exact absurd rfl hkey
  rcases List.mem_cons.mp hfd with rfl | hfd
  · exact frames_onBool fun _ _ => rfl
  · exact fun t v t' hr => congrArg Prod.fst (frames_valueFields fd hfd t v t' hr)

theorem frames_visible {fd : Field StreamScan} (hfd : fd ∈ streamFields)
    (hkey : fd.key ≠ streamVisibleField) : Frames StreamScan.visible fd := by
  rcases List.mem_cons.mp hfd with rfl | hfd
  · exact frames_onOid fun _ _ => rfl
  rcases List.mem_cons.mp hfd with rfl | hfd
  · exact absurd rfl hkey
  · exact fun t v t' hr => congrArg Prod.snd (frames_valueFields fd hfd t v t' hr)

theorem keys_valueFields : valueFields.map Field.key =
    [streamGroupsField, streamIarcField, streamViewCountField, channelTvgIdField,
      streamNameField, streamHaveAudioField, streamPartsField, streamMetaUrlsField,
      streamHaveVideoField, catchupStartField, catchupStopField, channelTvgLogoField,
      streamOutputField, streamNameField, vodDescriptionField, vodPrviewIconField,
      streamOutputField, vodTrailerUrlField, vodUserScoreField, vodPrimeDateField,
      vodCountryField, vodDurationField, vodTypeField] := rfl

theorem eq_id_of_mem {fd : Field StreamScan} (hfd : fd ∈ streamFields)
    (hkey : fd.key = streamIdField) : fd = StreamField.id := by
  rcases List.mem_cons.mp hfd with rfl | hfd
  · rfl
  rcases List.mem_cons.mp hfd with rfl | hfd
  · exact absurd hkey (by decide)
  · have hmem := List.mem_map_of_mem (f := Field.key) hfd
    rw [keys_valueFields, hkey] at hmem
    exact absurd hmem (by decide)

theorem eq_visible_of_mem {fd : Field StreamScan} (hfd : fd ∈ streamFields)
    (hkey : fd.key = streamVisibleField) : fd = StreamField.visible := by
  rcases List.mem_cons.mp hfd with rfl | hfd
  · exact absurd hkey (by decide)
  rcases List.mem_cons.mp hfd with rfl | hfd
  · rfl
  · have hmem := List.mem_map_of_mem (f := Field.key) hfd
    rw [keys_valueFields, hkey] at hmem
    exact absurd hmem (by decide)

/-! ### The walk -/

variable {fields : List (Field StreamScan)} {uninit : Uninit} {n : ℕ} {s : StreamScan}

/-- The decoded id is the id of the stored document. -/
theorem sidStr_of_scanDoc (hfields : fields ⊆ streamFields) (hid : StreamField.id ∈ fields)
    {d : StoredDoc} (h : scanDoc fields (StreamScan.init uninit) d.toDoc = .ok (s, n)) :
    ∃ o, d.id = .oid o ∧ s.sidStr = o.text := by
  unfold scanDoc StoredDoc.toDoc at h
  rw [List.foldlM_cons] at h
  obtain ⟨t, ht, hrest⟩ := Outcome.bind_eq_ok.mp h
  have hframe := foldlM_scanField_frame StreamScan.sidStr streamIdField
    (fun fd hfd hk => frames_sidStr (hfields hfd) hk) d.no_id hrest
  rcases scanField_cases ht with ⟨hnone, -⟩ | ⟨fd, hfd, hread⟩
  · have hne : StreamField.id.key ≠ idField := by
      simpa using List.find?_eq_none.mp hnone _ hid
    exact absurd rfl hne
  · -- the first field is `_id`
    have hkey : fd.key = idField := by simpa using List.find?_some hfd
    obtain rfl := eq_id_of_mem (hfields (List.mem_of_find?_eq_some hfd)) hkey
    cases hv : d.id <;>
      simp only [hv, StreamField.id, onOid, Outcome.ok.injEq, reduceCtorEq] at hread
    case oid o =>
      refine ⟨o, rfl, ?_⟩
      rw [hframe, ← hread]

/-- Every field `visible` of the document says no. -/
def Hidden (d : Doc) : Prop :=
  streamVisibleField ∈ Doc.keys d ∧ ∀ f ∈ d, f.1 = streamVisibleField → f.2 = .bool false

/-- A hidden document is not visible after the walk. -/
theorem visible_of_scanDoc (hfields : fields ⊆ streamFields) {d : Doc} (hd : Hidden d)
    (h : scanDoc fields (StreamScan.init uninit) d = .ok (s, n)) : s.visible = false := by
  refine foldlM_scanField_invariant (fun s => s.visible = false) ?_ h rfl
  intro f hf fd hfd hkey t t' ht hread
  by_cases hk : fd.key = streamVisibleField
  · obtain rfl := eq_visible_of_mem (hfields hfd) hk
    rw [hd.2 f hf (hkey ▸ hk)] at hread
    simp only [StreamField.visible, onBool, Outcome.ok.injEq] at hread
    rw [← hread]
  · rw [frames_visible (hfields hfd) hk t f.2 t' hread]
    exact ht

/-! ### The decoders -/

/-- A stream decoder: its branches, the counts it accepts, and its constructor, of which the
subscriber's part goes into the base only. -/
structure StreamDecoder (α : Type) where
  fields : List (Field StreamScan)
  accepts : StreamType → ℕ → Bool
  info : StreamScan → UserStreamInfo → α
  base : α → StreamBaseInfo
  fields_subset : fields ⊆ streamFields
  id_mem : StreamField.id ∈ fields
  base_info : ∀ s u, base (info s u) = s.base u
  info_congr : ∀ s u u', s.base u = s.base u' → info s u = info s u'

def channelDecoder : StreamDecoder ChannelInfo where
  fields := channelFields
  accepts st n := n = checkSumChannel || (st = .proxy && n = checkSumChannel - 2)
  info s u := { toStreamBaseInfo := s.base u, epg := s.epg }
  base := ChannelInfo.toStreamBaseInfo
  fields_subset := channelFields_subset
  id_mem := by simp [channelFields]
  base_info _ _ := rfl
  info_congr s u u' h := by simp [h]

def vodDecoder : StreamDecoder VodInfo where
  fields := vodFields
  accepts st n := n = checkSumVod || (st = .vodProxy && n = checkSumVod - 2)
  info s u := { toStreamBaseInfo := s.base u, movie := s.mov }
  base := VodInfo.toStreamBaseInfo
  fields_subset := vodFields_subset
  id_mem := by simp [vodFields]
  base_info _ _ := rfl
  info_congr s u u' h := by simp [h]

def catchupDecoder : StreamDecoder CatchupInfo where
  fields := catchupFields
  accepts _ n := n = checkSumCatchup
  info s u := { toStreamBaseInfo := s.base u, epg := s.epg, start := s.start, stop := s.stop }
  base := fun info => info.toStreamBaseInfo
  fields_subset := catchupFields_subset
  id_mem := by simp [catchupFields]
  base_info _ _ := rfl
  info_congr s u u' h := by simp [h]

/-- The part of a subscriber's entry that an info shows; the rest of it is the `private` flag. -/
def UserStreamInfo.SameFlags (u u' : UserStreamInfo) : Prop :=
  u.favorite = u'.favorite ∧ u.locked = u'.locked ∧ u.recent = u'.recent ∧
    u.interruptionTime = u'.interruptionTime

omit [Fastotv] in
theorem UserStreamInfo.eq_iff {u u' : UserStreamInfo} :
    u = u' ↔ u.priv = u'.priv ∧ u.SameFlags u' := by
  cases u; cases u'
  simp only [UserStreamInfo.mk.injEq, SameFlags]
  tauto

/-- The bases made from one walk are equal when the entries show the same. -/
theorem base_inj {u u' : UserStreamInfo} : s.base u = s.base u' ↔ u.SameFlags u' := by
  simp only [StreamScan.base, streamBaseInfo, StreamBaseInfo.mk.injEq, UserStreamInfo.SameFlags]
  tauto

namespace StreamDecoder

variable {α : Type} (D : StreamDecoder α)

def decode (uninit : Uninit) (sdoc : Doc) (st : StreamType) (u : UserStreamInfo) :
    Outcome Unit (α × Bool) :=
  decodeStream D.fields (D.accepts st) D.info uninit sdoc u

/-- The locals after the walk over a document that is accepted. -/
def accepted (uninit : Uninit) (sdoc : Doc) (st : StreamType) : Outcome Unit StreamScan := do
  let (s, n) ← scanDoc D.fields (StreamScan.init uninit) sdoc
  if D.accepts st n then .ok s else .error ()

variable {D} {sdoc : Doc} {st : StreamType} {u u' : UserStreamInfo} {a : α} {vis : Bool}

/-- Acceptance is a matter of the document alone. -/
theorem decode_eq : D.decode uninit sdoc st u = (do
    let s ← D.accepted uninit sdoc st
    pure (D.info s u, s.visible)) := by
  unfold decode decodeStream accepted
  rw [bind_assoc]
  refine congrArg _ (funext fun ⟨s, n⟩ => ?_)
  dsimp only
  split_ifs <;> rfl

theorem decode_eq_ok : D.decode uninit sdoc st u = .ok (a, vis) ↔
    ∃ s, D.accepted uninit sdoc st = .ok s ∧ D.info s u = a ∧ s.visible = vis := by
  rw [decode_eq, Outcome.bind_eq_ok]
  simp only [Outcome.pure_eq_ok, Outcome.ok.injEq, Prod.mk.injEq]

theorem decode_eq_abort : D.decode uninit sdoc st u = .abort ↔
    D.accepted uninit sdoc st = .abort := by
  rw [decode_eq, Outcome.bind_eq_abort]
  simp

theorem scan_of_accepted (h : D.accepted uninit sdoc st = .ok s) :
    ∃ n, scanDoc D.fields (StreamScan.init uninit) sdoc = .ok (s, n) := by
  unfold accepted at h
  obtain ⟨⟨s', n⟩, hs, h⟩ := Outcome.bind_eq_ok.mp h
  dsimp only at h
  split_ifs at h
  rw [Outcome.ok.injEq] at h
  exact ⟨n, h ▸ hs⟩

/-- The id in the info is the id of the document. -/
theorem streamId_of_accepted {d : StoredDoc} (h : D.accepted uninit d.toDoc st = .ok s) :
    ∃ o, d.id = .oid o ∧ (D.base (D.info s u)).streamId = o.text := by
  obtain ⟨n, hs⟩ := scan_of_accepted h
  obtain ⟨o, hid, hsid⟩ := sidStr_of_scanDoc D.fields_subset D.id_mem hs
  refine ⟨o, hid, ?_⟩
  rw [D.base_info]
  exact hsid

theorem visible_of_hidden (hd : Hidden sdoc) (h : D.accepted uninit sdoc st = .ok s) :
    s.visible = false := by
  obtain ⟨n, hs⟩ := scan_of_accepted h
  exact visible_of_scanDoc D.fields_subset hd hs

theorem info_inj : D.info s u = D.info s u' ↔ u.SameFlags u' := by
  rw [← base_inj (s := s)]
  constructor
  · intro h
    rw [← D.base_info, ← D.base_info, h]
  · exact D.info_congr s u u'

end StreamDecoder

theorem decode_channelDecoder : channelDecoder.decode = makeChannelInfo := rfl
theorem decode_vodDecoder : vodDecoder.decode = makeVodInfo := rfl
theorem decode_catchupDecoder : catchupDecoder.decode = makeCatchupInfo := rfl

end

end LoadBalance
