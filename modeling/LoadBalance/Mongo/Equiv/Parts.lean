import LoadBalance.Mongo.Equiv.CreateCatchup
import LoadBalance.Mongo.Equiv.Links

/-!
# The parts of a channel

The decoder of channels collects the ids that stand in the arrays `parts` of the document, in their
order (`parts_of_accepted`).  So the parts that `findStream` gives, for whatever subscriber, are
those of the channel's document (`findStream_eq_ok`).
-/

namespace LoadBalance

/-- The object ids among the elements of an array. -/
def arrayOids : Bson → List Oid
  | .array a => a.filterMap Bson.asOid?
  | _ => []

/-- The parts that the fields of a document list. -/
def partOids (fields : Doc) : List Oid :=
  fields.flatMap fun f => if f.1 = streamPartsField then arrayOids f.2 else []

theorem partOids_cons (f : String × Bson) (d : Doc) :
    partOids (f :: d) = (if f.1 = streamPartsField then arrayOids f.2 else []) ++ partOids d :=
  List.flatMap_cons

/-- What is listed stands in one of the arrays. -/
theorem StoredDoc.holds_of_mem_partOids {d : StoredDoc} {x : Oid} (h : x ∈ partOids d.fields) :
    d.Holds streamPartsField x := by
  obtain ⟨⟨k, v⟩, hf, hx⟩ := List.mem_flatMap.mp h
  dsimp only at hx
  split_ifs at hx with hk
  · cases v with
    | array a =>
      obtain ⟨e, he, hoid⟩ := List.mem_filterMap.mp hx
      rw [Bson.asOid?_eq_some] at hoid
      exact ⟨a, hk ▸ hf, hoid ▸ he⟩
    | _ => cases hx
  · cases hx

/-- An array whose elements are converted has nothing but object ids. -/
theorem oidTexts_eq_ok {a : List Bson} {ps : List String} (h : oidTexts a = .ok ps) :
    ps = (a.filterMap Bson.asOid?).map Oid.text := by
  unfold oidTexts at h
  have hall := Outcome.mapM_eq_ok.mp h
  clear h
  induction hall with
  | nil => rfl
  | @cons e p a ps hp _ ih =>
    cases hoid : e.asOid? with
    | none =>
      rw [hoid] at hp
      cases hp
    | some o =>
      rw [hoid, Outcome.ok.injEq] at hp
      rw [List.filterMap_cons, hoid, List.map_cons, ih, hp]

section

variable [Fastotv]

open LoadBalance.Field StreamField

/-- Only the branch of `parts` writes the parts. -/
theorem frames_listedParts {fd : Field StreamScan} (hfd : fd ∈ streamFields)
    (hkey : fd.key ≠ streamPartsField) : Frames StreamScan.parts fd := by
  have hall : ∀ fd ∈ streamFields, fd.key ≠ streamPartsField → Frames StreamScan.parts fd := by
    simp only [streamFields, valueFields, List.forall_mem_cons]
    refine ⟨fun _ => frames_onOid ?_, fun _ => frames_onBool ?_, fun _ => frames_array ?_,
      fun _ => frames_onInt32 ?_, fun _ => frames_onInt32 ?_, fun _ => frames_onUtf8 ?_,
      fun _ => frames_onUtf8 ?_, fun _ => frames_onBool ?_, fun h => absurd rfl h,
      fun _ => frames_array ?_, fun _ => frames_onBool ?_, fun _ => frames_onDateTime ?_,
      fun _ => frames_onDateTime ?_, fun _ => frames_onUtf8 ?_, fun _ => frames_epgOutput ?_,
      fun _ => frames_onUtf8 ?_, fun _ => frames_onUtf8 ?_, fun _ => frames_onUtf8 ?_,
      fun _ => frames_movieOutput ?_, fun _ => frames_onUtf8 ?_, fun _ => frames_onDouble ?_,
      fun _ => frames_onDateTime ?_, fun _ => frames_onUtf8 ?_, fun _ => frames_onInt32 ?_,
      fun _ => frames_onInt32 ?_, by simp⟩
    all_goals exact fun _ _ => rfl
  exact hall fd hfd hkey

/-- The branches of the channel decoder are for different names. -/
theorem nodup_keys_channelFields : (channelFields.map Field.key).Nodup := by
  have hkeys : channelFields.map Field.key = [streamIdField, streamGroupsField, streamIarcField,
      streamViewCountField, channelTvgIdField, streamNameField, streamHaveAudioField,
      streamPartsField, streamMetaUrlsField, streamHaveVideoField, channelTvgLogoField,
      streamOutputField, streamVisibleField] := rfl
  rw [hkeys]
  decide

theorem parts_mem_channelFields : StreamField.parts ∈ channelFields := by
  simp [channelFields]

/-- The walk over a document appends the parts that it lists. -/
theorem parts_of_foldlM {d : Doc} {s s' : StreamScan × ℕ}
    (h : d.foldlM (scanField channelFields) s = .ok s') :
    s'.1.parts = s.1.parts ++ (partOids d).map Oid.text := by
  induction d generalizing s with
  | nil =>
    rw [List.foldlM_nil, Outcome.pure_eq_ok, Outcome.ok.injEq] at h
    rw [h, partOids, List.flatMap_nil, List.map_nil, List.append_nil]
  | cons f d ih =>
    rw [List.foldlM_cons] at h
    obtain ⟨t, ht, hrest⟩ := Outcome.bind_eq_ok.mp h
    rw [ih hrest, partOids_cons, List.map_append, ← List.append_assoc]
    congr 1
    rcases scanField_cases ht with ⟨hnone, rfl⟩ | ⟨fd, hfd, hread⟩
    · have hne : StreamField.parts.key ≠ f.1 := by
        simpa using List.find?_eq_none.mp hnone _ parts_mem_channelFields
      change streamPartsField ≠ f.1 at hne
      rw [if_neg (Ne.symm hne), List.map_nil, List.append_nil]
    · have hkey : fd.key = f.1 := by simpa using List.find?_some hfd
      have hfields := List.mem_of_find?_eq_some hfd
      split_ifs with hparts
      · obtain rfl := List.inj_on_of_nodup_map nodup_keys_channelFields hfields
          parts_mem_channelFields (hkey.trans hparts)
        obtain ⟨k, v⟩ := f
        cases v with
        | array a =>
          obtain ⟨ps, hps, hs⟩ := Outcome.bind_eq_ok.mp hread
          rw [Outcome.ok.injEq] at hs
          rw [← hs, oidTexts_eq_ok hps]
          rfl
        | _ => cases hread
      · rw [frames_listedParts (channelFields_subset hfields)
          (fun h => hparts (hkey.symm.trans h)) _ _ _ hread,
          List.map_nil, List.append_nil]

/-- A walk that comes to the end has found nothing but arrays under `parts`. -/
theorem array_of_foldlM {d : Doc} {s s' : StreamScan × ℕ} {v : Bson}
    (h : d.foldlM (scanField channelFields) s = .ok s') (hv : (streamPartsField, v) ∈ d) :
    ∃ a, v = .array a := by
  induction d generalizing s with
  | nil => cases hv
  | cons f d ih =>
    rw [List.foldlM_cons] at h
    obtain ⟨t, ht, hrest⟩ := Outcome.bind_eq_ok.mp h
    rcases List.mem_cons.mp hv with rfl | hv
    · rcases scanField_cases ht with ⟨hnone, -⟩ | ⟨fd, hfd, hread⟩
      · exact absurd (decide_eq_true rfl)
          (List.find?_eq_none.mp hnone StreamField.parts parts_mem_channelFields)
      · have hkey : fd.key = streamPartsField := by simpa using List.find?_some hfd
        obtain rfl := List.inj_on_of_nodup_map nodup_keys_channelFields
          (List.mem_of_find?_eq_some hfd) parts_mem_channelFields hkey
        cases v with
        | array a => exact ⟨a, rfl⟩
        | _ => cases hread
    · exact ih hrest hv

/-- The parts of a channel that is accepted. -/
theorem parts_of_accepted {uninit : Uninit} {d : StoredDoc} {st : StreamType} {s : StreamScan}
    (h : channelDecoder.accepted uninit d.toDoc st = .ok s) :
    s.parts = (partOids d.fields).map Oid.text ∧
      ∀ v, (streamPartsField, v) ∈ d.fields → ∃ a, v = .array a := by
  obtain ⟨n, hs⟩ := StreamDecoder.scan_of_accepted h
  have hne : idField ≠ streamPartsField := by decide
  refine ⟨?_, fun v hv => array_of_foldlM hs (List.mem_cons_of_mem _ hv)⟩
  have hparts := parts_of_foldlM hs
  rw [hparts, StoredDoc.toDoc, partOids_cons, if_neg hne]
  rfl

/-! ### Looking a channel up -/

/-- The subscriber has the channel, whose document decodes: its id and its parts are those of the
document. -/
theorem findStream_eq_ok {env : Env} {db : Database} {auth : ServerDBAuthInfo} {sid : StreamId}
    {ch : ChannelInfo} (h : findStream env db auth sid = .ok ch) :
    ∃ user channel sub sdoc, convertFromString env.beyond auth.uid = some user ∧
      convertFromString env.beyond sid = some channel ∧
      db.subscribers.findId? user = some sub ∧ db.streams.findId? channel = some sdoc ∧
      ch.streamId = channel.text ∧ ch.parts = (partOids sdoc.fields).map Oid.text ∧
      ∀ v, (streamPartsField, v) ∈ sdoc.fields → ∃ a, v = .array a := by
  unfold findStream findInfo at h
  obtain ⟨⟨sdoc, st, u⟩, hfound, h⟩ := Outcome.bind_eq_ok.mp h
  unfold findUserStream at hfound
  split_ifs at hfound
  cases huser : convertFromString env.beyond auth.uid with
  | none => rw [huser] at hfound; cases hfound
  | some user =>
    cases hchannel : convertFromString env.beyond sid with
    | none => rw [huser, hchannel] at hfound; cases hfound
    | some channel =>
      rw [huser, hchannel] at hfound
      dsimp only at hfound
      split at hfound
      · cases hfound
      · next sub hsub =>
        split at hfound
        · cases hfound
        · next d hd =>
          split at hfound
          · cases hfound
          · next st' hst =>
            obtain ⟨rfl, rfl, rfl⟩ : d.toDoc = sdoc ∧ st' = st ∧ _ = u := by simpa using hfound
            dsimp only at h
            split_ifs at h
            unfold foundInfo at h
            split at h
            · next info visible hdec =>
              obtain rfl := Outcome.ok.inj h
              rw [← decode_channelDecoder] at hdec
              obtain ⟨s, hs, rfl, -⟩ := StreamDecoder.decode_eq_ok.mp hdec
              obtain ⟨o, hid, hsid⟩ :=
                StreamDecoder.streamId_of_accepted (u := makeUserStreamInfo sub.toDoc) hs
              rw [Collection.id_of_findId? hd, Bson.oid.injEq] at hid
              subst hid
              have hquery := (Collection.find?_eq_some_iff.mp hsub).1
              simp only [userHasStream, Bool.and_eq_true] at hquery
              exact ⟨user, channel, sub, d, rfl, rfl,
                Collection.findId?_of_mem (Collection.mem_of_find? hsub)
                  (StoredDoc.hasId_iff.mp hquery.1), hd, hsid, parts_of_accepted hs⟩
            · cases h
            · cases h

end

end LoadBalance
