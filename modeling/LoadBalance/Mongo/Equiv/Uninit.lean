import LoadBalance.Mongo.Equiv.Catalogue

/-!
# Locals that are not initialised

Five locals of the decoders are not initialised: the times of a catchup, the season of a serial, the
type and the status of a content request.  Each is written by one branch and read by none
(`WrittenBy`), so a decode after other values differs from the first exactly in the locals whose
field the document does not have (`makeCatchupInfo_uninit`, `makeSerialInfo_uninit`,
`makeContentRequestInfo_uninit`), and the catalogue is the same where nothing that it lists shows
one (`clientGetChannels_uninit`).
-/

namespace LoadBalance

open LoadBalance.Field

/-! ### The branch of a local -/

section

variable {σ α : Type} {fs : List (Field σ)} {d : Doc}

/-- A component of the locals that the branch of the key `k` writes and no other. -/
structure WrittenBy (fs : List (Field σ)) (k : String) (w : α → σ → σ) (get : σ → α) : Prop where
  known : (fs.find? (·.key = k)).isSome = true
  keeps : ∀ fd ∈ fs, fd.key ≠ k → fd.Keeps w
  overwrites : ∀ fd ∈ fs, fd.key = k → fd.Overwrites w
  get : ∀ a s, get (w a s) = a

variable {w : α → σ → σ} {get : σ → α} {k : String}

theorem WrittenBy.scanDoc_eq (h : WrittenBy fs k w get) (a : α) (s : σ) :
    scanDoc fs (w a s) d = scanDoc fs s d >>= fun r =>
      .ok (if k ∈ d.keys then r.1 else w a r.1, r.2) :=
  scanDoc_overwrite w h.known h.keeps h.overwrites a s d

theorem WrittenBy.scanDoc_of_mem (h : WrittenBy fs k w get) (hk : k ∈ d.keys) (a : α) (s : σ) :
    scanDoc fs (w a s) d = scanDoc fs s d := by
  rw [h.scanDoc_eq]
  simp only [if_pos hk]
  exact bind_pure _

/-- Whatever is there before, the walk ends in the same way, and what was there is still there when
the document does not have the key. -/
theorem WrittenBy.scanDoc_write (h : WrittenBy fs k w get) {s t : σ} {n : ℕ}
    (hscan : scanDoc fs s d = .ok (t, n)) (a : α) :
    ∃ t', scanDoc fs (w a s) d = .ok (t', n) ∧ (k ∈ d.keys → t' = t) ∧
      (k ∉ d.keys → get t' = a) := by
  rw [h.scanDoc_eq, hscan]
  refine ⟨_, rfl, fun hk => if_pos hk, fun hk => ?_⟩
  rw [if_neg hk]
  exact h.get a t

end

section

variable [Fastotv]

open SerialField in
theorem writtenBy_season : WrittenBy serialFields serialSeasonField
    (fun x s => { s with season := x }) SerialScan.season where
  known := rfl
  keeps := by
    simp only [serialFields, List.forall_mem_cons]
    refine ⟨fun _ => keeps_onOid fun _ _ _ => rfl, fun _ => keeps_onArray fun _ _ _ => rfl,
      fun h => absurd rfl h, fun _ => keeps_onUtf8 fun _ _ _ => rfl,
      fun _ => keeps_onUtf8 fun _ _ _ => rfl, fun _ => keeps_onUtf8 fun _ _ _ => rfl,
      fun _ => keeps_onArray fun _ _ l => ?_, fun _ => keeps_onBool fun _ _ _ => rfl, by simp⟩
    rw [bind_assoc]
    rfl
  overwrites fd hfd hkey := by
    have hcount : (serialFields.map Field.key).count serialSeasonField ≤ 1 := Nat.le_refl 1
    obtain rfl : fd = season := Field.eq_of_key_eq hcount hfd (by simp [serialFields]) hkey rfl
    exact overwrites_onInt32 fun _ _ _ => rfl
  get _ _ := rfl

end

open RequestField in
theorem writtenBy_type : WrittenBy requestFields contentRequestTypeField
    (fun x s => { s with type := x }) RequestScan.type where
  known := rfl
  keeps := by
    simp only [requestFields, List.forall_mem_cons]
    exact ⟨fun _ => keeps_onOid fun _ _ _ => rfl, fun _ => keeps_onUtf8 fun _ _ _ => rfl,
      fun h => absurd rfl h, fun _ => keeps_onInt32 fun _ _ _ => rfl, by simp⟩
  overwrites fd hfd hkey := by
    have hcount : (requestFields.map Field.key).count contentRequestTypeField ≤ 1 := Nat.le_refl 1
    obtain rfl : fd = type := Field.eq_of_key_eq hcount hfd (by simp [requestFields]) hkey rfl
    exact overwrites_onInt32 fun _ _ _ => rfl
  get _ _ := rfl

open RequestField in
theorem writtenBy_status : WrittenBy requestFields contentRequestStatusField
    (fun x s => { s with status := x }) RequestScan.status where
  known := rfl
  keeps := by
    simp only [requestFields, List.forall_mem_cons]
    exact ⟨fun _ => keeps_onOid fun _ _ _ => rfl, fun _ => keeps_onUtf8 fun _ _ _ => rfl,
      fun _ => keeps_onInt32 fun _ _ _ => rfl, fun h => absurd rfl h, by simp⟩
  overwrites fd hfd hkey := by
    have hcount : (requestFields.map Field.key).count contentRequestStatusField ≤ 1 := Nat.le_refl 1
    obtain rfl : fd = status := Field.eq_of_key_eq hcount hfd (by simp [requestFields]) hkey rfl
    exact overwrites_onInt32 fun _ _ _ => rfl
  get _ _ := rfl

section

variable [Fastotv] {α : Type} {w : α → StreamScan → StreamScan}

omit [Fastotv] in
theorem keeps_parts (h : ∀ a s ps, { w a s with parts := (w a s).parts ++ ps } =
    w a { s with parts := s.parts ++ ps }) : StreamField.parts.Keeps w := by
  refine keeps_onArray fun a s l => ?_
  rw [bind_assoc]
  refine congrArg _ (funext fun ps => ?_)
  exact congrArg Outcome.ok (h a s ps)

theorem keeps_epgOutput (h : ∀ a s urls, { w a s with epg.urls := urls } =
    w a { s with epg.urls := urls }) : StreamField.epgOutput.Keeps w := by
  intro a s v
  cases v with
  | array l => exact congrArg Outcome.ok (h a s _)
  | _ => rfl

theorem keeps_movieOutput (h : ∀ a s urls, { w a s with mov.urls := urls } =
    w a { s with mov.urls := urls }) : StreamField.movieOutput.Keeps w := by
  intro a s v
  cases v with
  | array l => exact congrArg Outcome.ok (h a s _)
  | _ => rfl

open StreamField in
theorem writtenBy_start : WrittenBy catchupFields catchupStartField
    (fun x s => { s with start := x }) StreamScan.start where
  known := rfl
  keeps := by
    simp only [catchupFields, List.forall_mem_cons]
    exact ⟨fun _ => keeps_onOid fun _ _ _ => rfl, fun _ => keeps_onArray fun _ _ _ => rfl,
      fun _ => keeps_onInt32 fun _ _ _ => rfl, fun _ => keeps_onInt32 fun _ _ _ => rfl,
      fun _ => keeps_onUtf8 fun _ _ _ => rfl, fun _ => keeps_onUtf8 fun _ _ _ => rfl,
      fun _ => keeps_onBool fun _ _ _ => rfl, fun _ => keeps_parts fun _ _ _ => rfl,
      fun _ => keeps_onArray fun _ _ _ => rfl, fun _ => keeps_onBool fun _ _ _ => rfl,
      fun h => absurd rfl h, fun _ => keeps_onDateTime fun _ _ _ => rfl,
      fun _ => keeps_onUtf8 fun _ _ _ => rfl, fun _ => keeps_epgOutput fun _ _ _ => rfl,
      fun _ => keeps_onBool fun _ _ _ => rfl, by simp⟩
  overwrites fd hfd hkey := by
    have hcount : (catchupFields.map Field.key).count catchupStartField ≤ 1 := Nat.le_refl 1
    obtain rfl : fd = start := Field.eq_of_key_eq hcount hfd (by simp [catchupFields]) hkey rfl
    exact overwrites_onDateTime fun _ _ _ => rfl
  get _ _ := rfl

open StreamField in
theorem writtenBy_stop : WrittenBy catchupFields catchupStopField
    (fun x s => { s with stop := x }) StreamScan.stop where
  known := rfl
  keeps := by
    simp only [catchupFields, List.forall_mem_cons]
    exact ⟨fun _ => keeps_onOid fun _ _ _ => rfl, fun _ => keeps_onArray fun _ _ _ => rfl,
      fun _ => keeps_onInt32 fun _ _ _ => rfl, fun _ => keeps_onInt32 fun _ _ _ => rfl,
      fun _ => keeps_onUtf8 fun _ _ _ => rfl, fun _ => keeps_onUtf8 fun _ _ _ => rfl,
      fun _ => keeps_onBool fun _ _ _ => rfl, fun _ => keeps_parts fun _ _ _ => rfl,
      fun _ => keeps_onArray fun _ _ _ => rfl, fun _ => keeps_onBool fun _ _ _ => rfl,
      fun _ => keeps_onDateTime fun _ _ _ => rfl, fun h => absurd rfl h,
      fun _ => keeps_onUtf8 fun _ _ _ => rfl, fun _ => keeps_epgOutput fun _ _ _ => rfl,
      fun _ => keeps_onBool fun _ _ _ => rfl, by simp⟩
  overwrites fd hfd hkey := by
    have hcount : (catchupFields.map Field.key).count catchupStopField ≤ 1 := Nat.le_refl 1
    obtain rfl : fd = stop := Field.eq_of_key_eq hcount hfd (by simp [catchupFields]) hkey rfl
    exact overwrites_onDateTime fun _ _ _ => rfl
  get _ _ := rfl

/-- The locals of a stream decoder with other times. -/
def StreamScan.withTimes (times : Timestamp × Timestamp) (s : StreamScan) : StreamScan :=
  { s with start := times.1, stop := times.2 }

/-- Only two branches write the times, and none reads them. -/
theorem keeps_withTimes {fd : Field StreamScan} (hfd : fd ∈ streamFields)
    (hstart : fd.key ≠ catchupStartField) (hstop : fd.key ≠ catchupStopField) :
    fd.Keeps StreamScan.withTimes := by
  have hall : ∀ fd ∈ streamFields, fd.key ≠ catchupStartField → fd.key ≠ catchupStopField →
      fd.Keeps StreamScan.withTimes := by
    simp only [streamFields, valueFields, List.forall_mem_cons]
    exact ⟨fun _ _ => keeps_onOid fun _ _ _ => rfl, fun _ _ => keeps_onBool fun _ _ _ => rfl,
      fun _ _ => keeps_onArray fun _ _ _ => rfl, fun _ _ => keeps_onInt32 fun _ _ _ => rfl,
      fun _ _ => keeps_onInt32 fun _ _ _ => rfl, fun _ _ => keeps_onUtf8 fun _ _ _ => rfl,
      fun _ _ => keeps_onUtf8 fun _ _ _ => rfl, fun _ _ => keeps_onBool fun _ _ _ => rfl,
      fun _ _ => keeps_parts fun _ _ _ => rfl, fun _ _ => keeps_onArray fun _ _ _ => rfl,
      fun _ _ => keeps_onBool fun _ _ _ => rfl, fun h _ => absurd rfl h,
      fun _ h => absurd rfl h, fun _ _ => keeps_onUtf8 fun _ _ _ => rfl,
      fun _ _ => keeps_epgOutput fun _ _ _ => rfl, fun _ _ => keeps_onUtf8 fun _ _ _ => rfl,
      fun _ _ => keeps_onUtf8 fun _ _ _ => rfl, fun _ _ => keeps_onUtf8 fun _ _ _ => rfl,
      fun _ _ => keeps_movieOutput fun _ _ _ => rfl, fun _ _ => keeps_onUtf8 fun _ _ _ => rfl,
      fun _ _ => keeps_onDouble fun _ _ _ => rfl, fun _ _ => keeps_onDateTime fun _ _ _ => rfl,
      fun _ _ => keeps_onUtf8 fun _ _ _ => rfl, fun _ _ => keeps_onInt32 fun _ _ _ => rfl,
      fun _ _ => keeps_onInt32 fun _ _ _ => rfl, by simp⟩
  exact hall fd hfd hstart hstop

end

/-! ### A decode after other values -/

section

variable [Fastotv] {u u' : Uninit} {d : Doc} {st : StreamType} {uinfo : UserStreamInfo}

/-- A decoder that has neither the branches of the times nor shows them. -/
theorem decodeStream_uninit {α : Type} {fields : List (Field StreamScan)} {accepts : ℕ → Bool}
    {info : StreamScan → UserStreamInfo → α} (hsub : fields ⊆ streamFields)
    (hkeys : ∀ k ∈ fields.map Field.key, k ≠ catchupStartField ∧ k ≠ catchupStopField)
    (hinfo : ∀ times s uinfo, info (StreamScan.withTimes times s) uinfo = info s uinfo)
    (u u' : Uninit) :
    decodeStream fields accepts info u' d uinfo = decodeStream fields accepts info u d uinfo := by
  have hinit : StreamScan.init u' =
      StreamScan.withTimes (u'.start, u'.stop) (StreamScan.init u) := rfl
  have hkeeps : ∀ fd ∈ fields, fd.Keeps StreamScan.withTimes := by
    intro fd hfd
    obtain ⟨hstart, hstop⟩ := hkeys fd.key (List.mem_map_of_mem hfd)
    exact keeps_withTimes (hsub hfd) hstart hstop
  unfold decodeStream
  rw [hinit, scanDoc_keeps _ hkeeps, bind_assoc]
  refine congrArg _ (funext fun r => ?_)
  rw [Outcome.ok_bind]
  dsimp only
  rw [hinfo]
  rfl

theorem makeChannelInfo_uninit (u u' : Uninit) : makeChannelInfo u' = makeChannelInfo u := by
  have hkeys : channelFields.map Field.key = [streamIdField, streamGroupsField, streamIarcField,
      streamViewCountField, channelTvgIdField, streamNameField, streamHaveAudioField,
      streamPartsField, streamMetaUrlsField, streamHaveVideoField, channelTvgLogoField,
      streamOutputField, streamVisibleField] := rfl
  funext d st uinfo
  refine decodeStream_uninit channelFields_subset ?_ (fun _ _ _ => rfl) u u'
  rw [hkeys]
  decide

theorem makeVodInfo_uninit (u u' : Uninit) : makeVodInfo u' = makeVodInfo u := by
  have hkeys : vodFields.map Field.key = [streamIdField, streamGroupsField, streamIarcField,
      streamViewCountField, streamNameField, vodDescriptionField, vodPrviewIconField,
      streamOutputField, streamHaveAudioField, streamPartsField, streamMetaUrlsField,
      streamHaveVideoField, vodTrailerUrlField, vodUserScoreField, vodPrimeDateField,
      vodCountryField, vodDurationField, vodTypeField, streamVisibleField] := rfl
  funext d st uinfo
  refine decodeStream_uninit vodFields_subset ?_ (fun _ _ _ => rfl) u u'
  rw [hkeys]
  decide

theorem makeCatchupInfo_uninit (u u' : Uninit) (d : Doc) (st : StreamType)
    (uinfo : UserStreamInfo) :
    makeCatchupInfo u' d st uinfo = makeCatchupInfo u d st uinfo >>= fun r => .ok
      ({ r.1 with
          start := if catchupStartField ∈ d.keys then r.1.start else u'.start
          stop := if catchupStopField ∈ d.keys then r.1.stop else u'.stop }, r.2) := by
  have hinit : StreamScan.init u' = { { StreamScan.init u with stop := u'.stop } with
      start := u'.start } := rfl
  unfold makeCatchupInfo decodeStream
  rw [hinit, writtenBy_start.scanDoc_eq u'.start, writtenBy_stop.scanDoc_eq u'.stop]
  simp only [bind_assoc, Outcome.ok_bind]
  refine congrArg _ (funext fun r => ?_)
  by_cases hn : decide (r.2 = checkSumCatchup) = true
  · rw [if_pos hn, if_pos hn, Outcome.ok_bind]
    split_ifs <;> rfl
  · rw [if_neg hn, if_neg hn]
    rfl

theorem makeSerialInfo_uninit (u u' : Uninit) (d : Doc) :
    makeSerialInfo u' d = makeSerialInfo u d >>= fun r => .ok
      ({ r.1 with season := if serialSeasonField ∈ d.keys then r.1.season else u'.season },
        r.2) := by
  have hinit : SerialScan.init u' = { SerialScan.init u with season := u'.season } := rfl
  unfold makeSerialInfo
  rw [hinit, writtenBy_season.scanDoc_eq u'.season]
  simp only [bind_assoc, Outcome.ok_bind]
  refine congrArg _ (funext fun r => ?_)
  split_ifs <;> rfl

omit [Fastotv] in
theorem makeContentRequestInfo_uninit (u u' : Uninit) (d : Doc) :
    makeContentRequestInfo u' d = makeContentRequestInfo u d >>= fun r => .ok
      { r with
        type := if contentRequestTypeField ∈ d.keys then r.type else u'.type
        status := if contentRequestStatusField ∈ d.keys then r.status else u'.status } := by
  have hinit : (⟨"", "", u'.type, u'.status⟩ : RequestScan) =
      { (⟨"", "", u.type, u'.status⟩ : RequestScan) with type := u'.type } := rfl
  have hinit' : (⟨"", "", u.type, u'.status⟩ : RequestScan) =
      { (⟨"", "", u.type, u.status⟩ : RequestScan) with status := u'.status } := rfl
  unfold makeContentRequestInfo
  rw [hinit, writtenBy_type.scanDoc_eq u'.type, hinit', writtenBy_status.scanDoc_eq u'.status]
  simp only [bind_assoc, Outcome.ok_bind]
  refine congrArg _ (funext fun r => ?_)
  split_ifs <;> rfl

end

/-! ### Decodes that show the same -/

/-- The times that two calls show of a catchup are in its document, or the locals of both calls held
the same. -/
structure SameTimes (u u' : Uninit) (d : Doc) : Prop where
  start : catchupStartField ∈ d.keys ∨ u'.start = u.start
  stop : catchupStopField ∈ d.keys ∨ u'.stop = u.stop

@[inherit_doc SameTimes]
def SameSeason (u u' : Uninit) (d : Doc) : Prop :=
  serialSeasonField ∈ d.keys ∨ u'.season = u.season

@[inherit_doc SameTimes]
structure SameRequest (u u' : Uninit) (d : Doc) : Prop where
  type : contentRequestTypeField ∈ d.keys ∨ u'.type = u.type
  status : contentRequestStatusField ∈ d.keys ∨ u'.status = u.status

/-- What is shown of a local: the value of the field, or what the local held. -/
theorem ite_eq_iff_of_absent {α : Type} {p : Prop} [Decidable p] {x y z : α}
    (habsent : ¬p → x = y) : (if p then x else z) = x ↔ p ∨ z = y := by
  split_ifs with hp
  · exact iff_of_true rfl (Or.inl hp)
  · rw [habsent hp, or_iff_right hp]

section

variable [Fastotv] {u u' : Uninit} {d : Doc} {st : StreamType} {uinfo : UserStreamInfo}

/-- A time that the document does not have is the one that the local held. -/
theorem times_of_makeCatchupInfo {r : CatchupInfo × Bool}
    (h : makeCatchupInfo u d st uinfo = .ok r) :
    (catchupStartField ∉ d.keys → r.1.start = u.start) ∧
      (catchupStopField ∉ d.keys → r.1.stop = u.stop) := by
  have hself := makeCatchupInfo_uninit u u d st uinfo
  rw [h, Outcome.ok_bind, Outcome.ok.injEq] at hself
  constructor
  · intro hstart
    have heq := congrArg (fun r => r.1.start) hself
    dsimp only at heq
    rwa [if_neg hstart] at heq
  · intro hstop
    have heq := congrArg (fun r => r.1.stop) hself
    dsimp only at heq
    rwa [if_neg hstop] at heq

/-- The times of the other call are those of this one. -/
theorem sameTimes_iff {r : CatchupInfo × Bool} (h : makeCatchupInfo u d st uinfo = .ok r) :
    (if catchupStartField ∈ d.keys then r.1.start else u'.start) = r.1.start ∧
      (if catchupStopField ∈ d.keys then r.1.stop else u'.stop) = r.1.stop ↔
    SameTimes u u' d := by
  obtain ⟨hstart, hstop⟩ := times_of_makeCatchupInfo h
  rw [ite_eq_iff_of_absent hstart, ite_eq_iff_of_absent hstop]
  exact ⟨fun ⟨h1, h2⟩ => ⟨h1, h2⟩, fun ⟨h1, h2⟩ => ⟨h1, h2⟩⟩

/-- A catchup is shown the same exactly when its times are. -/
theorem makeCatchupInfo_eq_iff {r : CatchupInfo × Bool}
    (h : makeCatchupInfo u d st uinfo = .ok r) :
    makeCatchupInfo u' d st uinfo = .ok r ↔ SameTimes u u' d := by
  have hfields : ∀ x : CatchupInfo, ∀ start stop,
      { x with start := start, stop := stop } = x ↔ start = x.start ∧ stop = x.stop := by
    intro x start stop
    constructor
    · intro heq
      exact ⟨congrArg CatchupInfo.start heq, congrArg CatchupInfo.stop heq⟩
    · rintro ⟨rfl, rfl⟩
      rfl
  rw [makeCatchupInfo_uninit u u', h, Outcome.ok_bind, Outcome.ok.injEq, Prod.ext_iff]
  dsimp only
  rw [and_iff_left rfl, hfields]
  exact sameTimes_iff h

/-- Whatever the entry says, the document is taken. -/
theorem makeCatchupInfo_congr (h : ∀ r, makeCatchupInfo u d st uinfo = .ok r → SameTimes u u' d) :
    makeCatchupInfo u' d st uinfo = makeCatchupInfo u d st uinfo := by
  cases hmade : makeCatchupInfo u d st uinfo with
  | ok r => exact (makeCatchupInfo_eq_iff hmade).mpr (h r hmade)
  | error e =>
    rw [makeCatchupInfo_uninit u u', hmade]
    rfl
  | abort =>
    rw [makeCatchupInfo_uninit u u', hmade]
    rfl

theorem makeSerialInfo_congr (h : ∀ r, makeSerialInfo u d = .ok r → SameSeason u u' d) :
    makeSerialInfo u' d = makeSerialInfo u d := by
  cases hmade : makeSerialInfo u d with
  | ok r =>
    have hself := makeSerialInfo_uninit u u d
    rw [makeSerialInfo_uninit u u', hmade]
    rw [hmade] at hself
    rcases h r hmade with hk | hu
    · simp only [if_pos hk] at hself ⊢
      exact hself.symm
    · rw [hu]
      exact hself.symm
  | error e =>
    rw [makeSerialInfo_uninit u u', hmade]
    rfl
  | abort =>
    rw [makeSerialInfo_uninit u u', hmade]
    rfl

omit [Fastotv] in
theorem makeContentRequestInfo_congr
    (h : ∀ r, makeContentRequestInfo u d = .ok r → SameRequest u u' d) :
    makeContentRequestInfo u' d = makeContentRequestInfo u d := by
  cases hmade : makeContentRequestInfo u d with
  | ok r =>
    have hself := makeContentRequestInfo_uninit u u d
    rw [makeContentRequestInfo_uninit u u', hmade]
    rw [hmade] at hself
    obtain ⟨htype, hstatus⟩ := h r hmade
    -- The fields are in the document, or the locals held the same.
    have hvalue : ∀ {α : Type} {p : Prop} [Decidable p] (x y z : α), p ∨ z = y →
        (if p then x else z) = if p then x else y := by
      intro α p _ x y z hpz
      rcases hpz with hp | rfl
      · rw [if_pos hp, if_pos hp]
      · rfl
    rw [Outcome.ok_bind, hvalue _ _ _ htype, hvalue _ _ _ hstatus]
    exact hself.symm
  | error e =>
    rw [makeContentRequestInfo_uninit u u', hmade]
    rfl
  | abort =>
    rw [makeContentRequestInfo_uninit u u', hmade]
    rfl

end

/-! ### The catalogue -/

/-- The times of the catchups that a subscriber lists are shown the same by two calls. -/
def TimesShown [Fastotv] (u u' : Uninit) (db : Database) (doc : Doc) : Prop :=
  ∀ e ∈ arrayField doc userCatchupsField, ∀ rec sdoc st r,
    entryStream db e = some (rec, sdoc, st) → makeCatchupInfo u sdoc.toDoc st {} = .ok r →
    SameTimes u u' sdoc.toDoc

/-- Two calls show the same of the documents that a subscriber lists. -/
structure ShowsSame [Fastotv] (u u' : Uninit) (db : Database) (doc : Doc) : Prop where
  catchups : TimesShown u u' db doc
  series : ∀ sid, .oid sid ∈ arrayField doc seriesField → ∀ sdoc r,
    db.series.findId? sid = some sdoc → makeSerialInfo u sdoc.toDoc = .ok r →
    SameSeason u u' sdoc.toDoc
  requests : ∀ sid, .oid sid ∈ arrayField doc requestsField → ∀ sdoc r,
    db.requests.findId? sid = some sdoc → makeContentRequestInfo u sdoc.toDoc = .ok r →
    SameRequest u u' sdoc.toDoc

section

variable [Fastotv] {env env' : Env} {db : Database} {doc : Doc} {e : Bson}

theorem ShowsSame.refl (u : Uninit) : ShowsSame u u db doc where
  catchups _ _ _ _ _ _ _ _ := ⟨Or.inr rfl, Or.inr rfl⟩
  series _ _ _ _ _ _ := Or.inr rfl
  requests _ _ _ _ _ _ := ⟨Or.inr rfl, Or.inr rfl⟩

theorem listedCatchup_congr (h : TimesShown env.uninit env'.uninit db doc)
    (he : e ∈ arrayField doc userCatchupsField) :
    listedCatchup env' db e = listedCatchup env db e := by
  unfold listedCatchup listedInfo
  by_cases hnull : NullSid e
  · rw [listedStream_of_nullSid db hnull]
    rfl
  rw [listedStream_eq db hnull]
  cases hes : entryStream db e with
  | none => rfl
  | some x =>
    obtain ⟨rec, sdoc, st⟩ := x
    rw [Option.map_some, Outcome.ok_bind, Outcome.ok_bind]
    dsimp only
    rw [makeCatchupInfo_congr fun r hr => ?_]
    -- The document is taken whatever the entry says.
    rw [← decode_catchupDecoder] at hr
    obtain ⟨s, hs, -, -⟩ := StreamDecoder.decode_eq_ok.mp hr
    have hmade : catchupDecoder.decode env.uninit sdoc.toDoc st {} =
        .ok (catchupDecoder.info s {}, s.visible) :=
      StreamDecoder.decode_eq_ok.mpr ⟨s, hs, rfl, rfl⟩
    exact h e he rec sdoc st _ hes hmade

theorem listedSerial_uninit (h : ShowsSame env.uninit env'.uninit db doc) (lvods : List VodInfo)
    (he : e ∈ arrayField doc seriesField) :
    listedSerial env' db lvods e = listedSerial env db lvods e := by
  unfold listedSerial
  cases ho : e.asOid? with
  | none => rfl
  | some sid =>
    dsimp only
    obtain rfl := Bson.asOid?_eq_some.mp ho
    cases hd : db.series.findId? sid with
    | none => rfl
    | some sdoc =>
      dsimp only
      rw [makeSerialInfo_congr fun r hr => h.series sid he sdoc r hd hr]

theorem listedRequest_uninit (h : ShowsSame env.uninit env'.uninit db doc)
    (he : e ∈ arrayField doc requestsField) :
    listedRequest env' db e = listedRequest env db e := by
  unfold listedRequest
  cases ho : e.asOid? with
  | none => rfl
  | some sid =>
    dsimp only
    obtain rfl := Bson.asOid?_eq_some.mp ho
    cases hd : db.requests.findId? sid with
    | none => rfl
    | some sdoc =>
      dsimp only
      rw [makeContentRequestInfo_congr fun r hr => h.requests sid he sdoc r hd hr]

/-- The catalogue is not a matter of what the locals held when nothing that it lists is. -/
theorem clientGetChannels_uninit {auth : AuthInfo} {sub : StoredDoc}
    (hsub : findByEmail db auth.login = some sub)
    (h : ShowsSame env.uninit env'.uninit db sub.toDoc) :
    clientGetChannels env' db auth = clientGetChannels env db auth := by
  have hchannels : listedChannel env' db = listedChannel env db := by
    unfold listedChannel
    rw [makeChannelInfo_uninit env.uninit env'.uninit]
  have hvods : listedVod env' db = listedVod env db := by
    unfold listedVod
    rw [makeVodInfo_uninit env.uninit env'.uninit]
  have hcatchups : walk (listedCatchup env' db) (arrayField sub.toDoc userCatchupsField) =
      walk (listedCatchup env db) (arrayField sub.toDoc userCatchupsField) :=
    walk_congr fun _ he => listedCatchup_congr h.catchups he
  have hseries : ∀ lvods, walk (listedSerial env' db lvods) (arrayField sub.toDoc seriesField) =
      walk (listedSerial env db lvods) (arrayField sub.toDoc seriesField) :=
    fun lvods => walk_congr fun _ he => listedSerial_uninit h lvods he
  have hrequests : walk (listedRequest env' db) (arrayField sub.toDoc requestsField) =
      walk (listedRequest env db) (arrayField sub.toDoc requestsField) :=
    walk_congr fun _ he => listedRequest_uninit h he
  unfold clientGetChannels
  rw [hsub]
  dsimp only
  simp only [hchannels, hvods, hcatchups, hseries, hrequests]

end

end LoadBalance
