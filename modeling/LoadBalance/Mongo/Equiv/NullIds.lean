import LoadBalance.Mongo.Equiv.ChannelSource
import LoadBalance.Mongo.Equiv.CountedFields
import LoadBalance.Mongo.Equiv.FindPart

/-!
# Null object ids

What the driver gives for the object id of a value of another type is a null pointer.  Most readers
look at the type first; the walks over the arrays of a subscriber do not, nor do the decoders at the
elements of `parts` and `episodes`.  A call that comes to such a value is the end of the process,
and there is no other end that documents bring about: `returns_clientGetChannels_iff`,
`returns_createCatchup_iff` and `returns_findSource_iff` say for the calls that read them which
documents are fine. -/

namespace LoadBalance

open LoadBalance.Action

section

variable [Fastotv] {env : Env} {db : Database} {uninit : Uninit} {d : Doc} {st : StreamType}
  {u : UserStreamInfo}

/-! ### The decoders -/

theorem readsOids_catchup : ReadsOids catchupFields catchupRows streamPartsField where
  checks _ := checks_catchupFields
  nodup := by decide
  null _ ha := scanField_of_nullArray StreamField.parts rfl read_parts_of_null ha

theorem readsOids_serial : ReadsOids serialFields serialRows serialEpisodesField where
  checks _ := checks_serialFields
  nodup := by decide
  null _ ha := by
    refine scanField_of_nullArray SerialField.episodes rfl (fun s a ha => ?_) ha
    show (oidTexts a >>= fun es => Outcome.ok { s with episodes := s.episodes ++ es }) = .abort
    rw [ha]
    rfl

theorem decodeStream_eq_abort_iff {α : Type} {fields : List (Field StreamScan)}
    {rows : List FieldRow} (h : ReadsOids fields rows streamPartsField) {accepts : ℕ → Bool}
    {info : StreamScan → UserStreamInfo → α} :
    decodeStream fields accepts info uninit d u = .abort ↔ NullElement rows streamPartsField d := by
  unfold decodeStream
  rw [Outcome.bind_eq_abort, scanDoc_eq_abort_iff h]
  refine or_iff_left ?_
  rintro ⟨⟨s, n⟩, -, hend⟩
  dsimp only at hend
  split_ifs at hend

theorem makeChannelInfo_eq_abort_iff :
    makeChannelInfo uninit d st u = .abort ↔ NullElement channelRows streamPartsField d :=
  decodeStream_eq_abort_iff tableOf_channel.readsOids

theorem makeVodInfo_eq_abort_iff :
    makeVodInfo uninit d st u = .abort ↔ NullElement vodRows streamPartsField d :=
  decodeStream_eq_abort_iff tableOf_vod.readsOids

theorem makeCatchupInfo_eq_abort_iff :
    makeCatchupInfo uninit d st u = .abort ↔ NullElement catchupRows streamPartsField d :=
  decodeStream_eq_abort_iff readsOids_catchup

theorem makeSerialInfo_eq_abort_iff :
    makeSerialInfo uninit d = .abort ↔ NullElement serialRows serialEpisodesField d := by
  unfold makeSerialInfo
  rw [Outcome.bind_eq_abort, scanDoc_eq_abort_iff readsOids_serial]
  refine or_iff_left ?_
  rintro ⟨⟨s, n⟩, -, hend⟩
  dsimp only at hend
  split_ifs at hend

/-! ### The catalogue -/

omit [Fastotv] in
/-- The entry has an object id for its `sid`, if any, and none of the parts of its stream is a null
pointer. -/
def EntryIds (rows : List FieldRow) (db : Database) (e : Bson) : Prop :=
  ¬NullSid e ∧ ∀ rec sdoc st, entryStream db e = some (rec, sdoc, st) →
    ¬NullElement rows streamPartsField sdoc.toDoc

/-- Where `ClientGetChannels` takes a value for an object id, it is one. -/
structure OnlyIds (db : Database) (doc : Doc) : Prop where
  streams : ∀ e ∈ arrayField doc userStreamsField, EntryIds channelRows db e
  vods : ∀ e ∈ arrayField doc userVodsField, EntryIds vodRows db e
  catchups : ∀ e ∈ arrayField doc userCatchupsField, EntryIds catchupRows db e
  series : ∀ e ∈ arrayField doc seriesField, ∃ sid, e = .oid sid ∧
    ∀ sdoc, db.series.findId? sid = some sdoc →
      ¬NullElement serialRows serialEpisodesField sdoc.toDoc
  requests : ∀ e ∈ arrayField doc requestsField, ∃ sid, e = .oid sid

theorem readable_channel_iff {e : Bson} :
    Readable (makeChannelInfo uninit) db e ↔ EntryIds channelRows db e := by
  unfold Readable EntryIds
  simp only [ne_eq, makeChannelInfo_eq_abort_iff]

theorem readable_vod_iff {e : Bson} :
    Readable (makeVodInfo uninit) db e ↔ EntryIds vodRows db e := by
  unfold Readable EntryIds
  simp only [ne_eq, makeVodInfo_eq_abort_iff]

theorem readable_catchup_iff {e : Bson} :
    Readable (makeCatchupInfo uninit) db e ↔ EntryIds catchupRows db e := by
  unfold Readable EntryIds
  simp only [ne_eq, makeCatchupInfo_eq_abort_iff]

theorem noNullIds_iff {doc : Doc} : NoNullIds env db doc ↔ OnlyIds db doc := by
  constructor
  · intro h
    refine ⟨fun e he => readable_channel_iff.mp (h.streams e he),
      fun e he => readable_vod_iff.mp (h.vods e he),
      fun e he => readable_catchup_iff.mp (h.catchups e he), fun e he => ?_, h.requests⟩
    obtain ⟨sid, rfl, hserial⟩ := h.series e he
    exact ⟨sid, rfl, fun sdoc hs hnull =>
      hserial sdoc hs (makeSerialInfo_eq_abort_iff.mpr hnull)⟩
  · intro h
    refine ⟨fun e he => readable_channel_iff.mpr (h.streams e he),
      fun e he => readable_vod_iff.mpr (h.vods e he),
      fun e he => readable_catchup_iff.mpr (h.catchups e he), fun e he => ?_, h.requests⟩
    obtain ⟨sid, rfl, hserial⟩ := h.series e he
    exact ⟨sid, rfl, fun sdoc hs hnull =>
      hserial sdoc hs (makeSerialInfo_eq_abort_iff.mp hnull)⟩

/-! The walks have no errors of their own. -/

omit [Fastotv] in
theorem noError_decoded {α : Type} (x : Outcome Unit α) : (decoded x).NoError := by
  cases x <;> exact nofun

omit [Fastotv] in
theorem noError_listedStream (db : Database) (e : Bson) : (listedStream db e).NoError := by
  by_cases h : NullSid e
  · rw [listedStream_of_nullSid db h]
    exact nofun
  · rw [listedStream_eq db h]
    exact nofun

omit [Fastotv] in
theorem noError_listedInfo {α : Type}
    (decode : Doc → StreamType → UserStreamInfo → Outcome Unit (α × Bool)) (shows : Bool → Bool)
    (db : Database) (e : Bson) : (listedInfo db decode shows e).NoError := by
  unfold listedInfo
  refine (noError_listedStream db e).bind fun r => ?_
  split
  · exact nofun
  · refine (noError_decoded _).bind fun r => ?_
    split
    · exact nofun
    · exact nofun

theorem noError_listedSerial (env : Env) (db : Database) (lvods : List VodInfo) (e : Bson) :
    (listedSerial env db lvods e).NoError := by
  unfold listedSerial
  split
  · exact nofun
  · split
    · exact nofun
    · refine (noError_decoded _).bind fun r => ?_
      split
      · exact nofun
      · exact nofun

omit [Fastotv] in
theorem noError_listedRequest (env : Env) (db : Database) (e : Bson) :
    (listedRequest env db e).NoError := by
  unfold listedRequest
  split
  · exact nofun
  · split
    · exact nofun
    · exact noError_decoded _

omit [Fastotv] in
theorem noError_walk {α : Type} {f : Bson → Outcome Error (Option α)} (h : ∀ e, (f e).NoError)
    (a : List Bson) : (walk f a).NoError := by
  unfold walk
  exact (Outcome.NoError.mapM fun e _ => h e).bind fun _ => nofun

/-- The catalogue of a subscriber is listed, or refused, unless a value that is no object id stands
in the place of one. -/
theorem returns_clientGetChannels_iff {auth : AuthInfo} :
    (clientGetChannels env db auth).Returns ↔ (Fastotv.authValid auth = true →
      ∀ sub, findByEmail db auth.login = some sub → OnlyIds db sub.toDoc) := by
  cases hauth : Fastotv.authValid auth with
  | false =>
    unfold clientGetChannels
    rw [hauth]
    exact iff_of_true trivial nofun
  | true =>
    cases hsub : findByEmail db auth.login with
    | none =>
      unfold clientGetChannels
      rw [hauth, hsub]
      exact iff_of_true trivial fun _ _ => nofun
    | some sub =>
      have hno : (clientGetChannels env db auth).NoError := by
        unfold clientGetChannels
        rw [hauth, hsub]
        exact (noError_walk (noError_listedInfo _ _ _) _).bind fun _ =>
          (noError_walk (noError_listedInfo _ _ _) _).bind fun _ =>
          (noError_walk (noError_listedInfo _ _ _) _).bind fun _ =>
          (noError_walk (noError_listedSerial _ _ _) _).bind fun _ =>
          (noError_walk (noError_listedRequest _ _) _).bind fun _ => nofun
      rw [hno.returns_iff, clientGetChannels_returns_iff]
      simp only [hauth, hsub, noNullIds_iff, Option.some.injEq, exists_eq_left', forall_eq',
        true_and, true_implies]

/-! ### Creating a catchup -/

variable {auth : ServerDBAuthInfo} {sid : StreamId} {arr title : String} {start stop : Timestamp}
  {x : Oid} {xs : List Oid}

theorem findUserStream_ne_abort : findUserStream env db auth sid arr ≠ .abort := by
  unfold findUserStream
  split_ifs
  · exact nofun
  · split
    · exact nofun
    · split
      · exact nofun
      · split
        · exact nofun
        · split
          · exact nofun
          · split
            · exact nofun
            · exact nofun

theorem findStream_eq_abort_iff : findStream env db auth sid = .abort ↔
    ∃ sdoc st u, findUserStream env db auth sid userStreamsField = .ok (sdoc, st, u) ∧
      isVod st = false ∧ NullElement channelRows streamPartsField sdoc := by
  unfold findStream findInfo
  rw [Outcome.bind_eq_abort, or_iff_right findUserStream_ne_abort]
  constructor
  · rintro ⟨⟨sdoc, st, u⟩, hfound, h⟩
    dsimp only at h
    split_ifs at h with hvod
    have hdec : makeChannelInfo env.uninit sdoc st u = .abort := by
      unfold foundInfo at h
      split at h
      · cases h
      · cases h
      · assumption
    exact ⟨sdoc, st, u, hfound, hvod, makeChannelInfo_eq_abort_iff.mp hdec⟩
  · rintro ⟨sdoc, st, u, hfound, hvod, hnull⟩
    refine ⟨(sdoc, st, u), hfound, ?_⟩
    dsimp only
    rw [if_pos hvod, makeChannelInfo_eq_abort_iff.mpr hnull]
    rfl

theorem findStream_eq_ok_iff {ch : ChannelInfo} : findStream env db auth sid = .ok ch ↔
    ∃ sdoc st u visible, findUserStream env db auth sid userStreamsField = .ok (sdoc, st, u) ∧
      isVod st = false ∧ makeChannelInfo env.uninit sdoc st u = .ok (ch, visible) := by
  unfold findStream findInfo
  rw [Outcome.bind_eq_ok]
  constructor
  · rintro ⟨⟨sdoc, st, u⟩, hfound, h⟩
    dsimp only at h
    split_ifs at h with hvod
    unfold foundInfo at h
    split at h
    · rename_i info visible hdec
      obtain rfl := Outcome.ok.inj h
      exact ⟨sdoc, st, u, visible, hfound, hvod, hdec⟩
    · cases h
    · cases h
  · rintro ⟨sdoc, st, u, visible, hfound, hvod, hdec⟩
    refine ⟨(sdoc, st, u), hfound, ?_⟩
    dsimp only
    rw [if_pos hvod, hdec]
    rfl

/-- The parts of a channel that is decoded are those of its document. -/
theorem parts_of_makeChannelInfo {ch : ChannelInfo} {visible : Bool}
    (h : makeChannelInfo uninit d st u = .ok (ch, visible)) :
    ch.parts = (partOids d).map Oid.text := by
  rw [← decode_channelDecoder] at h
  obtain ⟨s, hs, rfl, -⟩ := StreamDecoder.decode_eq_ok.mp h
  obtain ⟨n, hscan⟩ := StreamDecoder.scan_of_accepted hs
  exact parts_of_foldlM hscan

/-- The part is taken for the broadcast, and one of its own parts is a null pointer. -/
def NullPart (db : Database) (title : String) (start stop : Timestamp) (x : Oid) : Prop :=
  ∃ d, db.streams.findId? x = some d ∧ sameBroadcast d.toDoc title start stop = true ∧
    NullElement catchupRows streamPartsField d.toDoc

theorem catchupVerdict_eq_abort_iff :
    catchupVerdict uninit d = .abort ↔ NullElement catchupRows streamPartsField d := by
  have hdec : catchupDecoder.decode uninit d .catchup {} = .abort ↔
      NullElement catchupRows streamPartsField d := decodeStream_eq_abort_iff readsOids_catchup
  rw [← hdec, StreamDecoder.decode_eq_abort]
  unfold catchupVerdict
  cases catchupDecoder.accepted uninit d .catchup <;> simp [Outcome.void]

/-- A part is passed over, taken, or a null pointer. -/
theorem nullPart_iff : NullPart db title start stop x ↔
    ¬Rejected db title start stop x ∧ ¬Acceptable db title start stop x := by
  constructor
  · rintro ⟨d, hd, hsame, hnull⟩
    have hverdict : ∀ uninit, catchupVerdict uninit d.toDoc = .abort :=
      fun uninit => catchupVerdict_eq_abort_iff.mpr hnull
    refine ⟨fun hrejected => ?_, fun hacceptable => ?_⟩
    · cases (hverdict ⟨0, 0, 0, 0, 0⟩).symm.trans (hrejected d hd hsame _)
    · obtain ⟨d', hd', -, hok⟩ := hacceptable
      obtain rfl := Option.some.inj (hd.symm.trans hd')
      cases (hverdict ⟨0, 0, 0, 0, 0⟩).symm.trans (hok _)
  · rintro ⟨hrejected, hacceptable⟩
    unfold Rejected at hrejected
    push Not at hrejected
    obtain ⟨d, hd, hsame, uninit, hno⟩ := hrejected
    refine ⟨d, hd, hsame, ?_⟩
    cases hverdict : catchupVerdict uninit d.toDoc with
    | ok a =>
      refine absurd ⟨d, hd, hsame, fun uninit' => ?_⟩ hacceptable
      rw [catchupVerdict_uninit uninit' uninit, hverdict]
    | error e => exact absurd hverdict hno
    | abort => exact catchupVerdict_eq_abort_iff.mp hverdict

/-- The search among the parts comes to a null pointer behind parts that are passed over. -/
theorem findPart_eq_abort_iff :
    findPart env db title start stop (xs.map Oid.text) = .abort ↔
      ∃ pre x post, xs = pre ++ x :: post ∧ (∀ y ∈ pre, Rejected db title start stop y) ∧
        NullPart db title start stop x := by
  induction xs with
  | nil =>
    refine iff_of_false nofun ?_
    rintro ⟨pre, x, post, hxs, -⟩
    simp at hxs
  | cons x xs ih =>
    rw [List.map_cons]
    rcases findPart_cons_cases env db title start stop x (xs.map Oid.text) with
      ⟨hx, heq⟩ | ⟨hx, orig, -, heq⟩ | ⟨hx, heq⟩
    · rw [heq, ih]
      constructor
      · rintro ⟨pre, y, post, rfl, hpre, hnull⟩
        exact ⟨x :: pre, y, post, rfl, List.forall_mem_cons.mpr ⟨hx, hpre⟩, hnull⟩
      · rintro ⟨pre, y, post, hxs, hpre, hnull⟩
        cases pre with
        | nil =>
          obtain ⟨rfl, -⟩ := List.cons.inj hxs
          exact absurd hx (nullPart_iff.mp hnull).1
        | cons z pre =>
          obtain ⟨rfl, rfl⟩ := List.cons.inj hxs
          exact ⟨pre, y, post, rfl, (List.forall_mem_cons.mp hpre).2, hnull⟩
    · rw [heq]
      refine iff_of_false nofun ?_
      rintro ⟨pre, y, post, hxs, hpre, hnull⟩
      cases pre with
      | nil =>
        obtain ⟨rfl, -⟩ := List.cons.inj hxs
        exact (nullPart_iff.mp hnull).2 hx
      | cons z pre =>
        obtain ⟨rfl, -⟩ := List.cons.inj hxs
        exact hx.not_rejected (hpre _ List.mem_cons_self)
    · rw [heq]
      exact iff_of_true rfl ⟨[], x, xs, rfl, by simp, nullPart_iff.mpr hx⟩

/-- Where `CreateCatchup` takes a value for an object id, it is one: among the parts of the channel,
and among the parts of the first part that is taken for the broadcast. -/
structure CatchupIds (env : Env) (db : Database) (auth : ServerDBAuthInfo) (sid : StreamId)
    (title : String) (start stop : Timestamp) : Prop where
  channel : ∀ sdoc st u, findUserStream env db auth sid userStreamsField = .ok (sdoc, st, u) →
    isVod st = false → ¬NullElement channelRows streamPartsField sdoc
  parts : ∀ sdoc st u, findUserStream env db auth sid userStreamsField = .ok (sdoc, st, u) →
    isVod st = false → ∀ r, makeChannelInfo env.uninit sdoc st u = .ok r →
    ∀ pre x post, partOids sdoc = pre ++ x :: post →
      (∀ y ∈ pre, Rejected db title start stop y) → ¬NullPart db title start stop x

theorem alwaysReturns_catchupOrigin (env : Env) (endpoint : CatchupEndpointInfo)
    (basedOn : ChannelInfo) : AlwaysReturns (catchupOrigin env endpoint basedOn) := by
  unfold catchupOrigin
  split_ifs
  · exact alwaysReturns_fail _
  refine alwaysReturns_bind (alwaysReturns_orFail _ _) fun bsid => ?_
  refine alwaysReturns_bind alwaysReturns_reads fun sdoc => ?_
  refine alwaysReturns_bind (alwaysReturns_orFail _ _) fun sdoc => ?_
  refine alwaysReturns_bind alwaysReturns_reads fun server => ?_
  refine alwaysReturns_bind (alwaysReturns_orFail _ _) fun server => ?_
  refine alwaysReturns_bind (alwaysReturns_orFail _ _) fun serverOid => ?_
  refine alwaysReturns_bind (alwaysReturns_orFail _ _) fun _ => ?_
  exact alwaysReturns_bind (alwaysReturns_orFail _ _) fun _ => alwaysReturns_pure _

/-- Only the search among the parts ends the process. -/
theorem returns_createOrFindCatchup_iff (env : Env) (endpoint : CatchupEndpointInfo)
    (basedOn : ChannelInfo) (title : String) (start stop : Timestamp) (db : Database) :
    ((createOrFindCatchup env endpoint basedOn title start stop).run db).1.Returns ↔
      (findPart env db title start stop basedOn.parts).Returns := by
  unfold createOrFindCatchup
  refine returns_bind_reads (fun found => ?_) db
  split
  · exact alwaysReturns_pure _
  · refine alwaysReturns_bind (alwaysReturns_catchupOrigin _ _ _) fun origin => ?_
    refine alwaysReturns_bind alwaysReturns_writeBack fun _ => ?_
    refine alwaysReturns_bind alwaysReturns_writeBack fun _ => ?_
    exact alwaysReturns_bind alwaysReturns_writeBack fun _ => alwaysReturns_pure _

/-- A catchup is created or found, or there is an error, unless a value that is no object id stands
in the place of one. -/
theorem returns_createCatchup_iff {endpoint : CatchupEndpointInfo} :
    ((createCatchup env endpoint auth sid title start stop).run db).1.Returns ↔
      CatchupIds env db auth sid title start stop := by
  unfold createCatchup
  by_cases hguard : (!auth.isValid || sid = Fastotv.invalidStreamId) = true
  · have hrefused : findUserStream env db auth sid userStreamsField = .error .inval := by
      unfold findUserStream
      exact if_pos hguard
    rw [if_pos hguard]
    refine iff_of_true trivial ⟨fun sdoc st u h => ?_, fun sdoc st u h => ?_⟩
    · cases hrefused.symm.trans h
    · cases hrefused.symm.trans h
  rw [if_neg hguard, run_bind, run_reads]
  cases hfind : findStream env db auth sid with
  | error err =>
    refine iff_of_true trivial ⟨fun sdoc st u h hvod hnull => ?_, fun sdoc st u h hvod r hr => ?_⟩
    · cases hfind.symm.trans (findStream_eq_abort_iff.mpr ⟨sdoc, st, u, h, hvod, hnull⟩)
    · cases hfind.symm.trans (findStream_eq_ok_iff.mpr ⟨sdoc, st, u, r.2, h, hvod, hr⟩)
  | abort =>
    obtain ⟨sdoc, st, u, h, hvod, hnull⟩ := findStream_eq_abort_iff.mp hfind
    exact iff_of_false Outcome.not_returns_abort fun hids => hids.channel sdoc st u h hvod hnull
  | ok ch =>
    obtain ⟨sdoc, st, u, visible, h, hvod, hdec⟩ := findStream_eq_ok_iff.mp hfind
    dsimp only
    rw [returns_createOrFindCatchup_iff, Outcome.returns_iff, ne_eq,
      parts_of_makeChannelInfo hdec, findPart_eq_abort_iff]
    constructor
    · intro hno
      refine ⟨fun sdoc' st' u' h' _ hnull => ?_, fun sdoc' st' u' h' _ r _ pre x post hparts hpre
        hnull => ?_⟩
      · obtain ⟨rfl, rfl, rfl⟩ : sdoc = sdoc' ∧ st = st' ∧ u = u' := by
          simpa using h.symm.trans h'
        cases hdec.symm.trans (makeChannelInfo_eq_abort_iff.mpr hnull)
      · obtain ⟨rfl, -, -⟩ : sdoc = sdoc' ∧ st = st' ∧ u = u' := by simpa using h.symm.trans h'
        exact hno ⟨pre, x, post, hparts, hpre, hnull⟩
    · rintro hids ⟨pre, x, post, hparts, hpre, hnull⟩
      exact hids.parts sdoc st u h hvod _ hdec pre x post hparts hpre hnull

/-! ### The place of a channel -/

omit [Fastotv] in
/-- The search comes to an entry whose `sid` is no object id before it comes to the stream. -/
def NullBefore (sid : StreamId) (a : List Bson) : Prop :=
  ∃ pre e post, a = pre ++ e :: post ∧ NullSid e ∧ ∀ e' ∈ pre, ¬HasSid sid e'

section search

omit [Fastotv]

variable {e : Bson} {a b : List Bson} {doc : Doc} {source : Doc → StreamType → Option HttpSource}

theorem not_nullBefore_nil : ¬NullBefore sid [] := by
  rintro ⟨pre, e, post, h, -⟩
  simp at h

theorem nullBefore_cons :
    NullBefore sid (e :: a) ↔ NullSid e ∨ (¬HasSid sid e ∧ NullBefore sid a) := by
  constructor
  · rintro ⟨pre, e', post, h, hnull, hpre⟩
    cases pre with
    | nil =>
      obtain ⟨rfl, -⟩ := List.cons.inj h
      exact Or.inl hnull
    | cons x pre =>
      obtain ⟨rfl, rfl⟩ := List.cons.inj h
      obtain ⟨hx, hpre⟩ := List.forall_mem_cons.mp hpre
      exact Or.inr ⟨hx, pre, e', post, rfl, hnull, hpre⟩
  · rintro (hnull | ⟨he, pre, e', post, rfl, hnull, hpre⟩)
    · exact ⟨[], e, a, rfl, hnull, by simp⟩
    · exact ⟨e :: pre, e', post, rfl, hnull, List.forall_mem_cons.mpr ⟨he, hpre⟩⟩

/-- A search that does not end in one array goes on in the next. -/
theorem nullBefore_append : NullBefore sid (a ++ b) ↔
    NullBefore sid a ∨ ((∀ e ∈ a, ¬HasSid sid e) ∧ NullBefore sid b) := by
  induction a with
  | nil => simp [not_nullBefore_nil]
  | cons e a ih =>
    rw [List.cons_append, nullBefore_cons, nullBefore_cons, ih, List.forall_mem_cons]
    tauto

theorem not_hasSid_of_nullSid (h : NullSid e) : ¬HasSid sid e := by
  obtain ⟨rec, v, rfl, hv, hnone⟩ := h
  rintro ⟨o, ho, -⟩
  unfold entrySid? at ho
  dsimp only at ho
  rw [hv, Option.bind_some, hnone] at ho
  cases ho

/-- What the search for any text gives. -/
theorem findEntry_ends (sid : StreamId) (a : List Bson) :
    (NullBefore sid a ∧ findEntry sid a = .abort) ∨
      (¬NullBefore sid a ∧ (∃ e ∈ a, HasSid sid e) ∧ ∃ o, findEntry sid a = .ok (some o)) ∨
      (¬NullBefore sid a ∧ (∀ e ∈ a, ¬HasSid sid e) ∧ findEntry sid a = .ok none) := by
  induction a with
  | nil => exact Or.inr (Or.inr ⟨not_nullBefore_nil, by simp, rfl⟩)
  | cons e a ih =>
    rw [nullBefore_cons, List.forall_mem_cons]
    rcases findEntry_cons sid e a with ⟨o, ho, htext, h⟩ | ⟨hne, hnull, h⟩ | ⟨hne, hread, h⟩
    · have hsid : HasSid sid e := ⟨o, ho, htext⟩
      refine Or.inr (Or.inl ⟨?_, ⟨e, List.mem_cons_self, hsid⟩, o, h⟩)
      rintro (hnull | ⟨hne, -⟩)
      · exact not_hasSid_of_nullSid hnull hsid
      · exact hne hsid
    · exact Or.inl ⟨Or.inl hnull, h⟩
    · rw [h, or_iff_right hread, and_iff_right hne, and_iff_right hne]
      rcases ih with ih | ⟨hno, ⟨e', he', hsid⟩, ih⟩ | ih
      · exact Or.inl ih
      · exact Or.inr (Or.inl ⟨hno, ⟨e', List.mem_cons_of_mem _ he', hsid⟩, ih⟩)
      · exact Or.inr (Or.inr ih)

/-- One block of the search ends the process, is done, or leaves the search to the next one. -/
def BlockEnds (sid : StreamId) (a : List Bson) (x : Outcome Error (Option HttpSource)) : Prop :=
  (NullBefore sid a ∧ x = .abort) ∨
    (¬NullBefore sid a ∧ (∃ e ∈ a, HasSid sid e) ∧ x.Returns ∧ x ≠ .ok none) ∨
    (¬NullBefore sid a ∧ (∀ e ∈ a, ¬HasSid sid e) ∧ x = .ok none)

theorem blockEnds_findSourceIn (db : Database) (doc : Doc) (arr : String) (sid : StreamId)
    (source : Doc → StreamType → Option HttpSource) :
    BlockEnds sid (arrayField doc arr) (findSourceIn db doc arr sid source) := by
  unfold findSourceIn
  rcases findEntry_ends sid (arrayField doc arr) with
    ⟨hnull, h⟩ | ⟨hno, hsid, o, h⟩ | ⟨hno, hsid, h⟩
  · rw [h]
    exact Or.inl ⟨hnull, rfl⟩
  · rw [h, Outcome.ok_bind]
    refine Or.inr (Or.inl ⟨hno, hsid, ?_⟩)
    dsimp only
    split
    · exact ⟨trivial, nofun⟩
    · split
      · exact ⟨trivial, nofun⟩
      · split
        · exact ⟨trivial, nofun⟩
        · exact ⟨trivial, nofun⟩
  · rw [h]
    exact Or.inr (Or.inr ⟨hno, hsid, rfl⟩)

/-- Blocks one after another search the arrays as if they were one. -/
theorem returns_blocks_iff {x : Outcome Error (Option HttpSource)} {f : Outcome Error HttpSource}
    (hx : BlockEnds sid a x) (hf : f.Returns ↔ ¬NullBefore sid b) :
    (x >>= fun found => match found with
      | some s => pure s
      | none => f).Returns ↔ ¬NullBefore sid (a ++ b) := by
  rw [nullBefore_append]
  rcases hx with ⟨hnull, rfl⟩ | ⟨hno, ⟨e, he, hsid⟩, hreturns, hsome⟩ | ⟨hno, hnone, rfl⟩
  · exact iff_of_false Outcome.not_returns_abort fun hall => hall (Or.inl hnull)
  · have hleft : ¬(NullBefore sid a ∨ (∀ e ∈ a, ¬HasSid sid e) ∧ NullBefore sid b) := by
      rintro (hnull | ⟨hall, -⟩)
      · exact hno hnull
      · exact hall e he hsid
    refine iff_of_true ?_ hleft
    rcases x with (_ | src) | err | _
    · exact absurd rfl hsome
    · trivial
    · trivial
    · exact hreturns.elim
  · rw [or_iff_right hno, and_iff_right hnone]
    exact hf

end search

/-- Where the search for the place of a channel takes a value for an object id, it is one. -/
def SourceIds (db : Database) (auth : AuthInfo) (sid : StreamId) : Prop :=
  Fastotv.authValid auth = true → sid ≠ Fastotv.invalidStreamId →
    ∀ sub, findByEmail db auth.login = some sub →
      ¬NullBefore sid (arrayField sub.toDoc userStreamsField ++
        arrayField sub.toDoc userVodsField ++ arrayField sub.toDoc userCatchupsField)

theorem returns_findSource_iff {auth : AuthInfo} {cid : ChannelId} :
    (clientFindHttpDirectoryOrUrlForChannel env db auth sid cid).Returns ↔
      SourceIds db auth sid := by
  unfold clientFindHttpDirectoryOrUrlForChannel SourceIds
  by_cases hauth : Fastotv.authValid auth = true
  · by_cases hsid : sid = Fastotv.invalidStreamId
    · rw [if_pos (by simp [hsid])]
      exact iff_of_true trivial fun _ hne => absurd hsid hne
    rw [if_neg (by simp [hauth, hsid])]
    cases hsub : findByEmail db auth.login with
    | none => exact iff_of_true trivial fun _ _ _ => nofun
    | some sub =>
      have hcond : (Fastotv.authValid auth = true → sid ≠ Fastotv.invalidStreamId →
          ∀ sub', some sub = some sub' →
            ¬NullBefore sid (arrayField sub'.toDoc userStreamsField ++
              arrayField sub'.toDoc userVodsField ++ arrayField sub'.toDoc userCatchupsField)) ↔
          ¬NullBefore sid (arrayField sub.toDoc userStreamsField ++
            arrayField sub.toDoc userVodsField ++ arrayField sub.toDoc userCatchupsField) := by
        simp [hauth, hsid]
      rw [hcond, List.append_assoc,
        ← List.append_nil (arrayField sub.toDoc userCatchupsField)]
      refine returns_blocks_iff (blockEnds_findSourceIn ..) ?_
      refine returns_blocks_iff (blockEnds_findSourceIn ..) ?_
      refine returns_blocks_iff (blockEnds_findSourceIn ..) ?_
      exact iff_of_true trivial not_nullBefore_nil
  · rw [if_pos (by simp [hauth])]
    exact iff_of_true trivial fun h => absurd h hauth

end

end LoadBalance
