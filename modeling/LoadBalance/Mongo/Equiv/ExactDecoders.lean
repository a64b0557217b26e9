import LoadBalance.Bson.FieldTable
import LoadBalance.Mongo.Equiv.ClientGetChannels

/-!
# The exact decoders

The decoders of catchups, series and content requests accept a document exactly when it has all
counted fields and every recognised field is of its type, and what they make of it is what looking
every field up by its name gives (`decoders_exact`), but for the flags of audio and video, which are
right when the constructor of the library takes them in the order in which they are passed
(`flags_swapped`).
-/

namespace LoadBalance

open LoadBalance.Field

/-- The arrays under this name have object ids for their elements. -/
def ObjectIds (d : Doc) (k : String) : Prop :=
  ∀ a, (k, .array a) ∈ d → ∀ e ∈ a, ∃ o, e = .oid o

/-- The ids of an array, elements of other types being passed over. -/
def arrayIds (a : List Bson) : List StreamId := a.filterMap fun e => e.asOid?.map Oid.text

theorem oidTexts_of_objectIds {a : List Bson} (h : ∀ e ∈ a, ∃ o, e = .oid o) :
    ∃ ps, oidTexts a = .ok ps := by
  induction a with
  | nil => exact ⟨[], rfl⟩
  | cons e a ih =>
    obtain ⟨⟨o, rfl⟩, hrest⟩ := List.forall_mem_cons.mp h
    obtain ⟨ps, hps⟩ := ih hrest
    refine ⟨o.text :: ps, ?_⟩
    unfold oidTexts at hps ⊢
    rw [List.mapM_cons, hps]
    rfl

/-- What is read of an array of object ids. -/
theorem eq_arrayIds_of_oidTexts {a : List Bson} {ps : List StreamId} (h : oidTexts a = .ok ps) :
    ps = arrayIds a := by
  induction a generalizing ps with
  | nil => exact (Outcome.ok.inj h).symm
  | cons e a ih =>
    unfold oidTexts at h ih
    rw [List.mapM_cons] at h
    obtain ⟨p, hp, h⟩ := Outcome.bind_eq_ok.mp h
    obtain ⟨ps', hps', h⟩ := Outcome.bind_eq_ok.mp h
    rw [← Outcome.ok.inj h, ih hps']
    unfold arrayIds
    cases hoid : e.asOid? with
    | none =>
      rw [hoid] at hp
      cases hp
    | some o =>
      rw [hoid] at hp
      rw [List.filterMap_cons, hoid, ← Outcome.ok.inj hp]
      rfl

section

variable [Fastotv] {uninit : Uninit}

/-! ### Catchups -/

def catchupRows : List FieldRow :=
  [⟨streamIdField, true, .oid⟩, ⟨streamGroupsField, true, .array⟩, ⟨streamIarcField, true, .int32⟩,
    ⟨streamViewCountField, true, .int32⟩, ⟨channelTvgIdField, true, .utf8⟩,
    ⟨streamNameField, true, .utf8⟩, ⟨streamHaveAudioField, true, .bool⟩,
    ⟨streamPartsField, false, .array⟩, ⟨streamMetaUrlsField, false, .array⟩,
    ⟨streamHaveVideoField, true, .bool⟩, ⟨catchupStartField, true, .dateTime⟩,
    ⟨catchupStopField, true, .dateTime⟩, ⟨channelTvgLogoField, true, .utf8⟩,
    ⟨streamOutputField, true, .array⟩, ⟨streamVisibleField, false, .bool⟩]

/-- The locals of the walk by the names of the fields. -/
def catchupByName (uninit : Uninit) (g : String → Option Bson) : StreamScan where
  sidStr := match g streamIdField with
    | some (.oid o) => o.text
    | _ => ""
  groups := match g streamGroupsField with
    | some (.array a) => a.filterMap Bson.asUtf8?
    | _ => []
  iarc := match g streamIarcField with
    | some (.int32 i) => i
    | _ => Fastotv.defaultIarc
  viewCount := match g streamViewCountField with
    | some (.int32 i) => i.toInt64.toUInt64
    | _ => 0
  epg :=
    { tvgId := match g channelTvgIdField with
        | some (.utf8 x) => cstr x
        | _ => Fastotv.epgInfo.tvgId
      urls := match (g streamOutputField).bind getOutputUrlData with
        | some urls => makeUrlsFromOutput urls
        | none => Fastotv.epgInfo.urls
      displayName := match g streamNameField with
        | some (.utf8 x) => cstr x
        | _ => Fastotv.epgInfo.displayName
      iconUrl := match g channelTvgLogoField with
        | some (.utf8 x) => Fastotv.gurl (cstr x)
        | _ => Fastotv.epgInfo.iconUrl }
  mov := Fastotv.movieInfo
  parts := match g streamPartsField with
    | some (.array a) => arrayIds a
    | _ => []
  metaUrls := match g streamMetaUrlsField with
    | some (.array a) => metaUrls a
    | _ => []
  start := match g catchupStartField with
    | some (.dateTime t) => t
    | _ => uninit.start
  stop := match g catchupStopField with
    | some (.dateTime t) => t
    | _ => uninit.stop
  haveAudio := match g streamHaveAudioField with
    | some (.bool b) => b
    | _ => true
  haveVideo := match g streamHaveVideoField with
    | some (.bool b) => b
    | _ => true
  visible := match g streamVisibleField with
    | some (.bool b) => b
    | _ => false

omit [Fastotv] in
theorem checks_parts {d : Doc} (hparts : ObjectIds d streamPartsField) :
    Field.Checks StreamField.parts ⟨streamPartsField, false, .array⟩ d := by
  refine checks_onArray fun a ha t => ?_
  obtain ⟨ps, hps⟩ := oidTexts_of_objectIds (hparts a ha)
  exact ⟨_, by rw [hps]; rfl⟩

open StreamField in
theorem checks_catchupFields {d : Doc} (hparts : ObjectIds d streamPartsField) :
    List.Forall₂ (fun fd r => Field.Checks fd r d) catchupFields catchupRows := by
  have houtput : Field.Checks epgOutput ⟨streamOutputField, true, .array⟩ d :=
    ⟨rfl, rfl, fun v _ t => by cases v <;> rfl⟩
  unfold catchupFields catchupRows
  exact .cons checks_onOid (.cons checks_onArray_ok (.cons checks_onInt32 (.cons checks_onInt32
    (.cons checks_onUtf8 (.cons checks_onUtf8 (.cons checks_onBool (.cons (checks_parts hparts)
    (.cons checks_onArray_ok (.cons checks_onBool (.cons checks_onDateTime (.cons checks_onDateTime
    (.cons checks_onUtf8 (.cons houtput (.cons checks_onBool .nil))))))))))))))

open StreamField in
theorem readsByName_catchupFields (uninit : Uninit) :
    ReadsByName catchupFields (catchupByName uninit) where
  known := by
    simp only [catchupFields, List.forall_mem_cons]
    refine ⟨builds_onOid fun _ _ _ => rfl, builds_onArray fun g a t hg h => ?_,
      builds_onInt32 fun _ _ _ => rfl, builds_onInt32 fun _ _ _ => rfl,
      builds_onUtf8 fun _ _ _ => rfl, builds_onUtf8 fun _ _ _ => rfl,
      builds_onBool fun _ _ _ => rfl, builds_onArray fun g a t hg h => ?_,
      builds_onArray fun g a t hg h => ?_, builds_onBool fun _ _ _ => rfl,
      builds_onDateTime fun _ _ _ => rfl, builds_onDateTime fun _ _ _ => rfl,
      builds_onUtf8 fun _ _ _ => rfl, fun g v t hg h => ?_, builds_onBool fun _ _ _ => rfl,
      by simp⟩
    · -- the groups were empty
      have hnone : (catchupByName uninit g).groups = [] := by simp [catchupByName, hg]
      rw [hnone] at h
      exact (Outcome.ok.inj h).symm
    · have hnone : (catchupByName uninit g).parts = [] := by simp [catchupByName, hg]
      obtain ⟨ps, hps, h⟩ := Outcome.bind_eq_ok.mp h
      rw [hnone] at h
      rw [← Outcome.ok.inj h, eq_arrayIds_of_oidTexts hps]
      rfl
    · have hnone : (catchupByName uninit g).metaUrls = [] := by simp [catchupByName, hg]
      rw [hnone] at h
      exact (Outcome.ok.inj h).symm
    · cases v <;> simp only [epgOutput, getOutputUrlData, Outcome.ok.injEq, reduceCtorEq] at h
      exact h.symm
  congr g g' h := by
    simp only [catchupFields, List.forall_mem_cons] at h
    obtain ⟨h₁, h₂, h₃, h₄, h₅, h₆, h₇, h₈, h₉, h₁₀, h₁₁, h₁₂, h₁₃, h₁₄, h₁₅, -⟩ := h
    unfold catchupByName
    simp only [StreamField.id, groups, iarc, viewCount, tvgId, displayName, haveAudio,
      StreamField.parts, metaUrlsField, haveVideo, start, stop, iconUrl, epgOutput,
      visible] at h₁ h₂ h₃ h₄ h₅ h₆ h₇ h₈ h₉ h₁₀ h₁₁ h₁₂ h₁₃ h₁₄ h₁₅
    rw [h₁, h₂, h₃, h₄, h₅, h₆, h₇, h₈, h₉, h₁₀, h₁₁, h₁₂, h₁₃, h₁₄, h₁₅]

/-- Every component of the info, but for the meta urls, is what its name is looked up to; the
subscriber's part is that of the entry.  The flag of the video is passed first, so the two are right
when they are equal, or the constructor takes them in this order, and not else. -/
structure CatchupByName (d : Doc) (u : UserStreamInfo) (info : CatchupInfo) : Prop where
  streamId : ∃ o, d.get? streamIdField = some (.oid o) ∧ info.streamId = o.text
  groups : ∃ a, d.get? streamGroupsField = some (.array a) ∧ info.groups = a.filterMap Bson.asUtf8?
  iarc : d.get? streamIarcField = some (.int32 info.iarc)
  viewCount : ∃ i, d.get? streamViewCountField = some (.int32 i) ∧
    info.viewCount = i.toInt64.toUInt64
  tvgId : ∃ x, d.get? channelTvgIdField = some (.utf8 x) ∧ info.epg.tvgId = cstr x
  displayName : ∃ x, d.get? streamNameField = some (.utf8 x) ∧ info.epg.displayName = cstr x
  iconUrl : ∃ x, d.get? channelTvgLogoField = some (.utf8 x) ∧
    info.epg.iconUrl = Fastotv.gurl (cstr x)
  urls : ∃ a, d.get? streamOutputField = some (.array a) ∧
    info.epg.urls = makeUrlsFromOutput (a.filterMap outputUri?)
  flags : ∃ video audio, d.get? streamHaveVideoField = some (.bool video) ∧
    d.get? streamHaveAudioField = some (.bool audio) ∧
      (info.enableVideo = video ∧ info.enableAudio = audio ↔
        video = audio ∨ Fastotv.audioFirst = false)
  start : d.get? catchupStartField = some (.dateTime info.start)
  stop : d.get? catchupStopField = some (.dateTime info.stop)
  parts : info.parts = match d.get? streamPartsField with
    | some (.array a) => arrayIds a
    | _ => []
  entry : info.favorite = u.favorite ∧ info.recent = u.recent ∧
    info.interruptionTime = u.interruptionTime ∧ info.locked = u.locked

theorem catchupByName_spec {d : Doc} (hnone : missing catchupRows d = [])
    (htyped : WellTyped catchupRows d) (u : UserStreamInfo) :
    CatchupByName d u (catchupDecoder.info (catchupByName uninit d.get?) u) := by
  have hno : ∀ k, k ∉ missing catchupRows d := by simp [hnone]
  obtain ⟨o, hid⟩ := exists_oid (hno streamIdField) htyped (by decide)
  obtain ⟨gs, hgroups⟩ := exists_array (hno streamGroupsField) htyped (by decide)
  obtain ⟨iarc, hiarc⟩ := exists_int32 (hno streamIarcField) htyped (by decide)
  obtain ⟨views, hviews⟩ := exists_int32 (hno streamViewCountField) htyped (by decide)
  obtain ⟨tvg, htvg⟩ := exists_utf8 (hno channelTvgIdField) htyped (by decide)
  obtain ⟨name, hname⟩ := exists_utf8 (hno streamNameField) htyped (by decide)
  obtain ⟨logo, hlogo⟩ := exists_utf8 (hno channelTvgLogoField) htyped (by decide)
  obtain ⟨outputs, houtputs⟩ := exists_array (hno streamOutputField) htyped (by decide)
  obtain ⟨audio, haudio⟩ := exists_bool (hno streamHaveAudioField) htyped (by decide)
  obtain ⟨video, hvideo⟩ := exists_bool (hno streamHaveVideoField) htyped (by decide)
  obtain ⟨start, hstart⟩ := exists_dateTime (hno catchupStartField) htyped (by decide)
  obtain ⟨stop, hstop⟩ := exists_dateTime (hno catchupStopField) htyped (by decide)
  have hscan : catchupByName uninit d.get? = { catchupByName uninit d.get? with
      sidStr := o.text
      groups := gs.filterMap Bson.asUtf8?
      iarc := iarc
      viewCount := views.toInt64.toUInt64
      epg := ⟨cstr tvg, makeUrlsFromOutput (outputs.filterMap outputUri?), cstr name,
        Fastotv.gurl (cstr logo)⟩
      haveAudio := audio
      haveVideo := video
      start := start
      stop := stop } := by
    simp only [catchupByName, hid, hgroups, hiarc, hviews, htvg, hname, hlogo, houtputs, haudio,
      hvideo, hstart, hstop, Option.bind_some, getOutputUrlData]
  rw [hscan]
  exact {
    streamId := ⟨o, hid, rfl⟩
    groups := ⟨gs, hgroups, rfl⟩
    iarc := hiarc
    viewCount := ⟨views, hviews, rfl⟩
    tvgId := ⟨tvg, htvg, rfl⟩
    displayName := ⟨name, hname, rfl⟩
    iconUrl := ⟨logo, hlogo, rfl⟩
    urls := ⟨outputs, houtputs, rfl⟩
    flags := by
      refine ⟨video, audio, hvideo, haudio, ?_⟩
      show (if Fastotv.audioFirst then audio else video) = video ∧
        (if Fastotv.audioFirst then video else audio) = audio ↔ _
      cases Fastotv.audioFirst with
      | true => simp [eq_comm]
      | false => simp
    start := hstart
    stop := hstop
    parts := rfl
    entry := ⟨rfl, rfl, rfl, rfl⟩ }

/-! ### Series -/

def serialRows : List FieldRow :=
  [⟨serialIdField, true, .oid⟩, ⟨serialGroupsField, true, .array⟩,
    ⟨serialSeasonField, true, .int32⟩, ⟨serialNameField, true, .utf8⟩,
    ⟨serialIconField, true, .utf8⟩, ⟨serialDescriptionField, true, .utf8⟩,
    ⟨serialEpisodesField, false, .array⟩, ⟨streamVisibleField, false, .bool⟩]

def serialByName (uninit : Uninit) (g : String → Option Bson) : SerialScan where
  sidStr := match g serialIdField with
    | some (.oid o) => o.text
    | _ => ""
  groups := match g serialGroupsField with
    | some (.array a) => a.filterMap Bson.asUtf8?
    | _ => []
  episodes := match g serialEpisodesField with
    | some (.array a) => arrayIds a
    | _ => []
  icon := match g serialIconField with
    | some (.utf8 x) => Fastotv.gurl (cstr x)
    | _ => ⟨"", false⟩
  name := match g serialNameField with
    | some (.utf8 x) => cstr x
    | _ => ""
  description := match g serialDescriptionField with
    | some (.utf8 x) => cstr x
    | _ => ""
  season := match g serialSeasonField with
    | some (.int32 i) => i.toInt64.toUInt64
    | _ => uninit.season
  visible := match g streamVisibleField with
    | some (.bool b) => b
    | _ => false

open SerialField in
theorem checks_serialFields {d : Doc} (hepisodes : ObjectIds d serialEpisodesField) :
    List.Forall₂ (fun fd r => Field.Checks fd r d) serialFields serialRows := by
  have he : Field.Checks episodes ⟨serialEpisodesField, false, .array⟩ d := by
    refine checks_onArray fun a ha t => ?_
    obtain ⟨es, hes⟩ := oidTexts_of_objectIds (hepisodes a ha)
    exact ⟨_, by rw [hes]; rfl⟩
  unfold serialFields serialRows
  exact .cons checks_onOid (.cons checks_onArray_ok (.cons checks_onInt32 (.cons checks_onUtf8
    (.cons checks_onUtf8 (.cons checks_onUtf8 (.cons he (.cons checks_onBool .nil)))))))

open SerialField in
theorem readsByName_serialFields (uninit : Uninit) :
    ReadsByName serialFields (serialByName uninit) where
  known := by
    simp only [serialFields, List.forall_mem_cons]
    refine ⟨builds_onOid fun _ _ _ => rfl, builds_onArray fun g a t hg h => ?_,
      builds_onInt32 fun _ _ _ => rfl, builds_onUtf8 fun _ _ _ => rfl,
      builds_onUtf8 fun _ _ _ => rfl, builds_onUtf8 fun _ _ _ => rfl,
      builds_onArray fun g a t hg h => ?_, builds_onBool fun _ _ _ => rfl, by simp⟩
    · have hnone : (serialByName uninit g).groups = [] := by simp [serialByName, hg]
      rw [hnone] at h
      exact (Outcome.ok.inj h).symm
    · have hnone : (serialByName uninit g).episodes = [] := by simp [serialByName, hg]
      obtain ⟨es, hes, h⟩ := Outcome.bind_eq_ok.mp h
      rw [hnone] at h
      rw [← Outcome.ok.inj h, eq_arrayIds_of_oidTexts hes]
      rfl
  congr g g' h := by
    simp only [serialFields, List.forall_mem_cons] at h
    obtain ⟨h₁, h₂, h₃, h₄, h₅, h₆, h₇, h₈, -⟩ := h
    simp only [SerialField.id, groups, season, name, icon, description, episodes,
      visible] at h₁ h₂ h₃ h₄ h₅ h₆ h₇ h₈
    unfold serialByName
    rw [h₁, h₂, h₃, h₄, h₅, h₆, h₇, h₈]

/-- The info of the locals; the views are filled in later. -/
def serialInfo (s : SerialScan) : SerialInfo :=
  { id := s.sidStr, name := s.name, icon := s.icon, groups := s.groups
    description := s.description, season := s.season, episodes := s.episodes, viewCount := 0 }

/-- Every component of the info is what its name is looked up to. -/
structure SerialByName (d : Doc) (info : SerialInfo) : Prop where
  id : ∃ o, d.get? serialIdField = some (.oid o) ∧ info.id = o.text
  groups : ∃ a, d.get? serialGroupsField = some (.array a) ∧ info.groups = a.filterMap Bson.asUtf8?
  season : ∃ i, d.get? serialSeasonField = some (.int32 i) ∧ info.season = i.toInt64.toUInt64
  name : ∃ x, d.get? serialNameField = some (.utf8 x) ∧ info.name = cstr x
  icon : ∃ x, d.get? serialIconField = some (.utf8 x) ∧ info.icon = Fastotv.gurl (cstr x)
  description : ∃ x, d.get? serialDescriptionField = some (.utf8 x) ∧ info.description = cstr x
  episodes : info.episodes = match d.get? serialEpisodesField with
    | some (.array a) => arrayIds a
    | _ => []
  viewCount : info.viewCount = 0

theorem serialByName_spec {d : Doc} (hnone : missing serialRows d = [])
    (htyped : WellTyped serialRows d) :
    SerialByName d (serialInfo (serialByName uninit d.get?)) := by
  have hno : ∀ k, k ∉ missing serialRows d := by simp [hnone]
  obtain ⟨o, hid⟩ := exists_oid (hno serialIdField) htyped (by decide)
  obtain ⟨gs, hgroups⟩ := exists_array (hno serialGroupsField) htyped (by decide)
  obtain ⟨season, hseason⟩ := exists_int32 (hno serialSeasonField) htyped (by decide)
  obtain ⟨name, hname⟩ := exists_utf8 (hno serialNameField) htyped (by decide)
  obtain ⟨icon, hicon⟩ := exists_utf8 (hno serialIconField) htyped (by decide)
  obtain ⟨text, htext⟩ := exists_utf8 (hno serialDescriptionField) htyped (by decide)
  have hscan : serialByName uninit d.get? = { serialByName uninit d.get? with
      sidStr := o.text
      groups := gs.filterMap Bson.asUtf8?
      icon := Fastotv.gurl (cstr icon)
      name := cstr name
      description := cstr text
      season := season.toInt64.toUInt64 } := by
    simp only [serialByName, hid, hgroups, hseason, hname, hicon, htext]
  rw [hscan]
  exact {
    id := ⟨o, hid, rfl⟩
    groups := ⟨gs, hgroups, rfl⟩
    season := ⟨season, hseason, rfl⟩
    name := ⟨name, hname, rfl⟩
    icon := ⟨icon, hicon, rfl⟩
    description := ⟨text, htext, rfl⟩
    episodes := rfl
    viewCount := rfl }

end

/-! ### Content requests -/

def requestRows : List FieldRow :=
  [⟨contentRequestIdField, true, .oid⟩, ⟨contentRequestTitleField, true, .utf8⟩,
    ⟨contentRequestTypeField, true, .int32⟩, ⟨contentRequestStatusField, true, .int32⟩]

def requestByName (uninit : Uninit) (g : String → Option Bson) : RequestScan where
  sidStr := match g contentRequestIdField with
    | some (.oid o) => o.text
    | _ => ""
  title := match g contentRequestTitleField with
    | some (.utf8 x) => cstr x
    | _ => ""
  type := match g contentRequestTypeField with
    | some (.int32 i) => i
    | _ => uninit.type
  status := match g contentRequestStatusField with
    | some (.int32 i) => i
    | _ => uninit.status

theorem checks_requestFields (d : Doc) :
    List.Forall₂ (fun fd r => Field.Checks fd r d) requestFields requestRows :=
  .cons checks_onOid (.cons checks_onUtf8 (.cons checks_onInt32 (.cons checks_onInt32 .nil)))

open RequestField in
theorem readsByName_requestFields (uninit : Uninit) :
    ReadsByName requestFields (requestByName uninit) where
  known := by
    simp only [requestFields, List.forall_mem_cons]
    exact ⟨builds_onOid fun _ _ _ => rfl, builds_onUtf8 fun _ _ _ => rfl,
      builds_onInt32 fun _ _ _ => rfl, builds_onInt32 fun _ _ _ => rfl, by simp⟩
  congr g g' h := by
    simp only [requestFields, List.forall_mem_cons] at h
    obtain ⟨h₁, h₂, h₃, h₄, -⟩ := h
    simp only [RequestField.id, title, type, status] at h₁ h₂ h₃ h₄
    unfold requestByName
    rw [h₁, h₂, h₃, h₄]

def requestInfo (s : RequestScan) : ContentRequestInfo :=
  { id := s.sidStr, title := s.title, type := s.type, status := s.status }

/-- Every component of the info is what its name is looked up to. -/
structure RequestByName (d : Doc) (info : ContentRequestInfo) : Prop where
  id : ∃ o, d.get? contentRequestIdField = some (.oid o) ∧ info.id = o.text
  title : ∃ x, d.get? contentRequestTitleField = some (.utf8 x) ∧ info.title = cstr x
  type : d.get? contentRequestTypeField = some (.int32 info.type)
  status : d.get? contentRequestStatusField = some (.int32 info.status)

theorem requestByName_spec {uninit : Uninit} {d : Doc} (hnone : missing requestRows d = [])
    (htyped : WellTyped requestRows d) :
    RequestByName d (requestInfo (requestByName uninit d.get?)) := by
  have hno : ∀ k, k ∉ missing requestRows d := by simp [hnone]
  obtain ⟨o, hid⟩ := exists_oid (hno contentRequestIdField) htyped (by decide)
  obtain ⟨title, htitle⟩ := exists_utf8 (hno contentRequestTitleField) htyped (by decide)
  obtain ⟨type, htype⟩ := exists_int32 (hno contentRequestTypeField) htyped (by decide)
  obtain ⟨status, hstatus⟩ :=
    exists_int32 (hno contentRequestStatusField) htyped (by decide)
  have hscan : requestByName uninit d.get? = ⟨o.text, cstr title, type, status⟩ := by
    simp only [requestByName, hid, htitle, htype, hstatus]
  rw [hscan]
  exact ⟨⟨o, hid, rfl⟩, ⟨title, htitle, rfl⟩, htype, hstatus⟩

/-! ### The three decoders -/

section

variable [Fastotv]

/-- The decoders of catchups, series and content requests are exact on documents without repeated
keys whose parts or episodes are object ids. -/
theorem decoders_exact (uninit : Uninit) (d : Doc) (hd : d.keys.Nodup) :
    (ObjectIds d streamPartsField → ∀ st u,
      ExactDecode (fun d => makeCatchupInfo uninit d st u) Prod.fst catchupRows
        (CatchupByName d u) d) ∧
    (ObjectIds d serialEpisodesField →
      ExactDecode (makeSerialInfo uninit) Prod.fst serialRows (SerialByName d) d) ∧
    ExactDecode (makeContentRequestInfo uninit) id requestRows (RequestByName d) d := by
  refine ⟨fun hparts st u => ?_, fun hepisodes => ?_, ?_⟩
  · refine exactDecode_of_checks (checks_catchupFields hparts) (by decide)
      (readsByName_catchupFields uninit)
      (show DecodesAll _ _ _ (fun s => (catchupDecoder.info s u, s.visible)) _ from fun d => ?_) hd
      fun hnone htyped => catchupByName_spec hnone htyped u
    show decodeStream _ _ _ _ _ _ = _
    unfold decodeStream
    refine congrArg _ (funext fun s => ?_)
    simp only [decide_eq_true_eq]
    rfl
  · refine exactDecode_of_checks (checks_serialFields hepisodes) (by decide)
      (readsByName_serialFields uninit)
      (show DecodesAll _ _ _ (fun s => (serialInfo s, s.visible)) _ from fun d => ?_) hd
      serialByName_spec
    unfold makeSerialInfo
    refine congrArg _ (funext fun s => ?_)
    exact ite_not _ _ _
  · refine exactDecode_of_checks (checks_requestFields d) (by decide)
      (readsByName_requestFields uninit) (show DecodesAll _ _ _ requestInfo _ from fun d => ?_) hd
      requestByName_spec
    unfold makeContentRequestInfo
    refine congrArg _ (funext fun s => ?_)
    exact ite_not _ _ _

end

/-! A catchup whose fields stand in another order, with one that no decoder knows, and different
flags. -/

namespace Sample

def shuffledCatchup : Doc :=
  [(catchupStopField, .dateTime 20), (streamPriceField, .double 0),
    (streamHaveVideoField, .bool false), (streamNameField, .utf8 "Evening news"),
    (streamPartsField, .array [.oid (oid 3)]), (streamIdField, .oid (oid 2)),
    (streamGroupsField, .array [.utf8 "news", .int32 1]), (channelTvgIdField, .utf8 "news"),
    (channelTvgLogoField, .utf8 "http://logo"), (streamIarcField, .int32 3),
    (streamViewCountField, .int32 4), (streamOutputField, .array []),
    (streamHaveAudioField, .bool true), (catchupStartField, .dateTime 10)]

end Sample

open Sample in
theorem decoders_exact_sample : ∃ info visible,
    makeCatchupInfo env.uninit shuffledCatchup .catchup {} = .ok (info, visible) ∧
      CatchupByName shuffledCatchup {} info := by
  have hparts : ObjectIds shuffledCatchup streamPartsField := by
    intro a ha e he
    obtain rfl : a = [.oid (oid 3)] := by simpa [shuffledCatchup, streamPartsField,
      catchupStopField, streamPriceField, streamHaveVideoField, streamNameField, streamIdField,
      streamGroupsField, channelTvgIdField, channelTvgLogoField, streamIarcField,
      streamViewCountField, streamOutputField, streamHaveAudioField, catchupStartField] using ha
    exact ⟨oid 3, List.mem_singleton.mp he⟩
  have hexact := (decoders_exact env.uninit shuffledCatchup (by decide)).1 hparts .catchup {}
  exact ⟨_, _, rfl, hexact.byName _ rfl⟩

open Sample in
/-- With a constructor that takes the flag of the audio first, a catchup without video has video,
and no audio. -/
theorem flags_swapped : Fastotv.audioFirst = true ∧ ∃ info visible,
    makeCatchupInfo env.uninit shuffledCatchup .catchup {} = .ok (info, visible) ∧
      shuffledCatchup.get? streamHaveVideoField = some (.bool false) ∧
      shuffledCatchup.get? streamHaveAudioField = some (.bool true) ∧
      info.enableVideo = true ∧ info.enableAudio = false :=
  ⟨rfl, _, _, rfl, rfl, rfl, rfl, rfl⟩

end LoadBalance
