import LoadBalance.Mongo.Equiv.Catalogue

/-!
# What `ClientGetChannels` returns

Two results about the whole catalogue.  It lists the channels and VODs of a subscriber with the
flags that their entries have by name exactly when no null object id is met and the entries that
are shown have their fields in the order of the reader
(`clientGetChannels_exact_iff`).  And it leaves hidden documents out exactly when no VOD, catchup
or serial that the subscriber has is hidden (`hidden_not_listed_iff`), since only the walk over
the channels looks at the visibility.
-/

namespace LoadBalance

section

variable [Fastotv] {env : Env} {db : Database} {auth : AuthInfo} {r : Catalogue}

/-- The call succeeds when the subscriber is found and the five walks succeed. -/
theorem clientGetChannels_eq_ok : clientGetChannels env db auth = .ok r ↔
    Fastotv.authValid auth = true ∧ ∃ sub, findByEmail db auth.login = some sub ∧
      ∃ chans vods catchups series requests,
        walk (listedChannel env db) (arrayField sub.toDoc userStreamsField) = .ok chans ∧
        walk (listedVod env db) (arrayField sub.toDoc userVodsField) = .ok vods ∧
        walk (listedCatchup env db) (arrayField sub.toDoc userCatchupsField) = .ok catchups ∧
        walk (listedSerial env db (withPrivate false vods)) (arrayField sub.toDoc seriesField) =
          .ok series ∧
        walk (listedRequest env db) (arrayField sub.toDoc requestsField) = .ok requests ∧
        r = ⟨withPrivate false chans, withPrivate false vods, withPrivate true chans,
          withPrivate true vods, catchups.map Prod.snd, series, requests⟩ := by
  unfold clientGetChannels
  cases hv : Fastotv.authValid auth with
  | false => simp
  | true =>
    cases hs : findByEmail db auth.login with
    | none => simp
    | some sub =>
      simp only [Bool.not_true, Bool.false_eq_true, ite_false, Outcome.bind_eq_ok,
        Outcome.pure_eq_ok, Outcome.ok.injEq, true_and, Option.some.injEq, exists_eq_left']
      constructor
      · rintro ⟨chans, hc, vods, hvs, catchups, hca, series, hse, requests, hr, rfl⟩
        exact ⟨chans, vods, catchups, series, requests, hc, hvs, hca, hse, hr, rfl⟩
      · rintro ⟨chans, vods, catchups, series, requests, hc, hvs, hca, hse, hr, rfl⟩
        exact ⟨chans, hc, vods, hvs, catchups, hca, series, hse, requests, hr, rfl⟩

/-! ### Exactness -/

/-- No null object id is met anywhere in the arrays of a subscriber. -/
structure NoNullIds (env : Env) (db : Database) (doc : Doc) : Prop where
  streams : ∀ e ∈ arrayField doc userStreamsField, Readable (makeChannelInfo env.uninit) db e
  vods : ∀ e ∈ arrayField doc userVodsField, Readable (makeVodInfo env.uninit) db e
  catchups : ∀ e ∈ arrayField doc userCatchupsField, Readable (makeCatchupInfo env.uninit) db e
  series : ∀ e ∈ arrayField doc seriesField, ∃ sid, e = .oid sid ∧
    ∀ sdoc, db.series.findId? sid = some sdoc → makeSerialInfo env.uninit sdoc.toDoc ≠ .abort
  requests : ∀ e ∈ arrayField doc requestsField, ∃ sid, e = .oid sid

/-- The channels and VODs of a catalogue are what the entries of the two arrays call for: each
entry adds its own info, or nothing, to the list that its `private` field selects, and the lists
hold what the entries add, in their order. -/
structure ExactCatalogue (env : Env) (db : Database) (doc : Doc) (r : Catalogue) : Prop where
  channelEntries : ∀ e ∈ arrayField doc userStreamsField,
    listedChannel env db e =
      .ok (expectedInfo (makeChannelInfo env.uninit) (fun visible => visible) db e)
  vodEntries : ∀ e ∈ arrayField doc userVodsField,
    listedVod env db e = .ok (expectedInfo (makeVodInfo env.uninit) (fun _ => true) db e)
  chans : r.chans = withPrivate false ((arrayField doc userStreamsField).filterMap
    (expectedInfo (makeChannelInfo env.uninit) (fun visible => visible) db))
  pchans : r.pchans = withPrivate true ((arrayField doc userStreamsField).filterMap
    (expectedInfo (makeChannelInfo env.uninit) (fun visible => visible) db))
  vods : r.vods = withPrivate false ((arrayField doc userVodsField).filterMap
    (expectedInfo (makeVodInfo env.uninit) (fun _ => true) db))
  pvods : r.pvods = withPrivate true ((arrayField doc userVodsField).filterMap
    (expectedInfo (makeVodInfo env.uninit) (fun _ => true) db))

theorem listedSerial_returns_iff {lvods : List VodInfo} {e : Bson} :
    (∃ x, listedSerial env db lvods e = .ok x) ↔ ∃ sid, e = .oid sid ∧
      ∀ sdoc, db.series.findId? sid = some sdoc →
        makeSerialInfo env.uninit sdoc.toDoc ≠ .abort := by
  unfold listedSerial
  cases hoid : e.asOid? with
  | none =>
    constructor
    · rintro ⟨x, hx⟩
      cases hx
    · rintro ⟨sid, rfl, -⟩
      cases hoid
  | some sid =>
    obtain rfl := Bson.asOid?_eq_some.mp hoid
    simp only [Bson.oid.injEq, exists_eq_left']
    cases hs : db.series.findId? sid with
    | none => simp
    | some sdoc => cases hm : makeSerialInfo env.uninit sdoc.toDoc <;> simp [decoded, hm]

omit [Fastotv] in
theorem makeContentRequestInfo_ne_abort (uninit : Uninit) (sdoc : Doc) :
    makeContentRequestInfo uninit sdoc ≠ .abort := by
  have hscan : ∀ s, scanDoc requestFields s sdoc ≠ .abort := by
    refine fun s => scanDoc_ne_abort ?_ s sdoc
    simp only [requestFields, List.forall_mem_cons]
    refine ⟨?_, ?_, ?_, ?_, by simp⟩ <;> intro t v <;> cases v <;> exact nofun
  unfold makeContentRequestInfo
  rw [ne_eq, Outcome.bind_eq_abort]
  rintro (h | ⟨⟨s, n⟩, -, h⟩)
  · exact hscan _ h
  · dsimp only at h
    split_ifs at h

omit [Fastotv] in
theorem listedRequest_returns_iff {e : Bson} :
    (∃ x, listedRequest env db e = .ok x) ↔ ∃ sid, e = .oid sid := by
  unfold listedRequest
  cases hoid : e.asOid? with
  | none =>
    constructor
    · rintro ⟨x, hx⟩
      cases hx
    · rintro ⟨sid, rfl⟩
      cases hoid
  | some sid =>
    obtain rfl := Bson.asOid?_eq_some.mp hoid
    simp only [Bson.oid.injEq, exists_eq']
    cases hs : db.requests.findId? sid with
    | none => simp
    | some sdoc => simp [decoded_eq_ok, makeContentRequestInfo_ne_abort]

/-- The call succeeds exactly when the subscriber is found and no null object id is met. -/
theorem clientGetChannels_returns_iff : (∃ r, clientGetChannels env db auth = .ok r) ↔
    Fastotv.authValid auth = true ∧ ∃ sub, findByEmail db auth.login = some sub ∧
      NoNullIds env db sub.toDoc := by
  constructor
  · rintro ⟨r, hr⟩
    obtain ⟨hauth, sub, hsub, chans, vods, catchups, series, requests, hc, hv, hca, hse, hre, -⟩ :=
      clientGetChannels_eq_ok.mp hr
    refine ⟨hauth, sub, hsub, fun e he => ?_, fun e he => ?_, fun e he => ?_, fun e he => ?_,
      fun e he => ?_⟩
    · obtain ⟨x, hx⟩ := (walk_eq_ok.mp hc).1 e he
      exact (listedChannel_eq_ok.mp hx).1
    · obtain ⟨x, hx⟩ := (walk_eq_ok.mp hv).1 e he
      exact (listedVod_eq_ok.mp hx).1
    · obtain ⟨x, hx⟩ := (walk_eq_ok.mp hca).1 e he
      exact (listedCatchup_eq_ok.mp hx).1
    · exact listedSerial_returns_iff.mp ((walk_eq_ok.mp hse).1 e he)
    · exact listedRequest_returns_iff.mp ((walk_eq_ok.mp hre).1 e he)
  · rintro ⟨hauth, sub, hsub, hnull⟩
    obtain ⟨series, hse⟩ := walk_returns (f := listedSerial env db _)
      fun e he => listedSerial_returns_iff.mpr (hnull.series e he)
    obtain ⟨requests, hre⟩ := walk_returns (f := listedRequest env db)
      fun e he => listedRequest_returns_iff.mpr (hnull.requests e he)
    exact ⟨_, clientGetChannels_eq_ok.mpr ⟨hauth, sub, hsub, _, _, _, series, requests,
      walk_listedInfo channelDecoder hnull.streams, walk_listedInfo vodDecoder hnull.vods,
      walk_listedInfo catchupDecoder hnull.catchups, hse, hre, rfl⟩⟩

/-- The catalogue is exact if and only if no null object id is met and, in every entry of `streams`
and `vods` that is shown, the fields stand in the order of the reader. -/
theorem clientGetChannels_exact_iff (env : Env) (db : Database) (auth : AuthInfo)
    (sub : StoredDoc) (hauth : Fastotv.authValid auth = true)
    (hsub : findByEmail db auth.login = some sub) :
    (∃ r, clientGetChannels env db auth = .ok r ∧ ExactCatalogue env db sub.toDoc r) ↔
      NoNullIds env db sub.toDoc ∧
      (∀ rec, .document rec ∈ arrayField sub.toDoc userStreamsField →
        Shown (makeChannelInfo env.uninit) (fun visible => visible) db (.document rec) →
        InOrder rec) ∧
      (∀ rec, .document rec ∈ arrayField sub.toDoc userVodsField →
        Shown (makeVodInfo env.uninit) (fun _ => true) db (.document rec) → InOrder rec) := by
  constructor
  · rintro ⟨r, hr, hex⟩
    obtain ⟨-, sub', hsub', hnull⟩ := clientGetChannels_returns_iff.mp ⟨r, hr⟩
    obtain rfl := Option.some.inj (hsub.symm.trans hsub')
    refine ⟨hnull, ?_, ?_⟩
    · intro rec hrec hshown
      have h := (listedChannel_eq_ok.mp (hex.channelEntries _ hrec)).2
      exact (readInfo_eq_expectedInfo_iff channelDecoder).mp h rec rfl hshown
    · intro rec hrec hshown
      have h := (listedVod_eq_ok.mp (hex.vodEntries _ hrec)).2
      exact (readInfo_eq_expectedInfo_iff vodDecoder).mp h rec rfl hshown
  · rintro ⟨hnull, hstreams, hvods⟩
    have hch : ∀ e ∈ arrayField sub.toDoc userStreamsField,
        readInfo (makeChannelInfo env.uninit) (fun visible => visible) db e =
          expectedInfo (makeChannelInfo env.uninit) (fun visible => visible) db e := by
      intro e he
      refine (readInfo_eq_expectedInfo_iff channelDecoder).mpr ?_
      rintro rec rfl
      exact hstreams rec he
    have hvo : ∀ e ∈ arrayField sub.toDoc userVodsField,
        readInfo (makeVodInfo env.uninit) (fun _ => true) db e =
          expectedInfo (makeVodInfo env.uninit) (fun _ => true) db e := by
      intro e he
      refine (readInfo_eq_expectedInfo_iff vodDecoder).mpr ?_
      rintro rec rfl
      exact hvods rec he
    obtain ⟨series, hse⟩ := walk_returns (f := listedSerial env db _)
      fun e he => listedSerial_returns_iff.mpr (hnull.series e he)
    obtain ⟨requests, hre⟩ := walk_returns (f := listedRequest env db)
      fun e he => listedRequest_returns_iff.mpr (hnull.requests e he)
    refine ⟨_, clientGetChannels_eq_ok.mpr ⟨hauth, sub, hsub, _, _, _, series, requests,
      walk_listedInfo channelDecoder hnull.streams, walk_listedInfo vodDecoder hnull.vods,
      walk_listedInfo catchupDecoder hnull.catchups, hse, hre, rfl⟩, ?_⟩
    refine ⟨fun e he => ?_, fun e he => ?_, ?_, ?_, ?_, ?_⟩
    · exact listedChannel_eq_ok.mpr ⟨hnull.streams e he, hch e he⟩
    · exact listedVod_eq_ok.mpr ⟨hnull.vods e he, hvo e he⟩
    · exact congrArg (withPrivate false) (List.filterMap_congr hch)
    · exact congrArg (withPrivate true) (List.filterMap_congr hch)
    · exact congrArg (withPrivate false) (List.filterMap_congr hvo)
    · exact congrArg (withPrivate true) (List.filterMap_congr hvo)

end

/-! A subscriber with one channel, whose entry is as the balancer itself writes one, with a later
`recent`. -/

namespace Sample

def oid (d : Fin 16) : Oid := ⟨List.replicate 24 d, by simp⟩

def env : Env where
  now := 1000
  fresh := oid 15
  write _ := true
  beyond _ := 0
  assertsUnclosed _ := false
  uninit := ⟨0, 0, 0, 0, 0⟩
  isDirectoryExist _ := true

/-- A stream document with a class that the channel decoder accepts. -/
def channelDoc (o : Oid) (cls : String) (visible : Bool) : StoredDoc where
  id := .oid o
  fields := [(streamClsField, .utf8 cls), (streamNameField, .utf8 "News"),
    (streamGroupsField, .array []), (channelTvgIdField, .utf8 "news"),
    (channelTvgLogoField, .utf8 "http://logo"), (streamVisibleField, .bool visible),
    (streamIarcField, .int32 3), (streamViewCountField, .int32 0),
    (streamOutputField, .array []), (streamHaveVideoField, .bool true),
    (streamHaveAudioField, .bool true)]
  no_id := by simp only [Doc.keys, List.map_cons, List.map_nil]; decide

/-- A subscriber with these entries in one array. -/
def subscriber (arr : String) (h : arr ≠ idField) (entries : List Doc) : StoredDoc where
  id := .oid (oid 1)
  fields := [(emailField, .utf8 "a@b.c"), (arr, .array (entries.map .document))]
  no_id := by simpa [Doc.keys, emailField, idField] using Ne.symm h

def auth : AuthInfo := ⟨⟨"a@b.c", "secret"⟩, "device"⟩

def database (sub : StoredDoc) (streams : List StoredDoc)
    (h : (streams.map StoredDoc.id).Nodup) : Database where
  subscribers := ⟨[sub], List.nodup_singleton _⟩
  servers := ∅
  streams := ⟨streams, h⟩
  series := ∅
  requests := ∅

/-- The entry that `AddStreamToUserStreamsArray` appends, after `SetRecent`. -/
def recentEntry : Doc :=
  Doc.set (userStreamEntry (oid 2)) recentField (.dateTime 5)

theorem nodup_channelDoc : ([channelDoc (oid 2) relayStr true].map StoredDoc.id).Nodup :=
  List.nodup_singleton _

def recentSubscriber : StoredDoc := subscriber userStreamsField userStreams_ne_id [recentEntry]

def recentDatabase : Database :=
  database recentSubscriber [channelDoc (oid 2) relayStr true] nodup_channelDoc

end Sample

open Sample in
/-- The entry has no field `locked`, so the reader does not get to `recent`. -/
theorem clientGetChannels_not_exact :
    ¬ ∃ r, clientGetChannels env recentDatabase auth = .ok r ∧
      ExactCatalogue env recentDatabase recentSubscriber.toDoc r := by
  rintro ⟨r, hr, hex⟩
  have hne : (clientGetChannels env recentDatabase auth).toOption.map Catalogue.chans ≠
      some (withPrivate false ((arrayField recentSubscriber.toDoc userStreamsField).filterMap
        (expectedInfo (makeChannelInfo env.uninit) (fun visible => visible) recentDatabase))) := by
    decide
  apply hne
  rw [hr, ← hex.chans]
  rfl

open Sample in
theorem clientGetChannels_exact_iff_sample :
    findByEmail recentDatabase auth.login = some recentSubscriber ∧
    ((∃ r, clientGetChannels env recentDatabase auth = .ok r ∧
        ExactCatalogue env recentDatabase recentSubscriber.toDoc r) ↔
      NoNullIds env recentDatabase recentSubscriber.toDoc ∧
      (∀ rec, .document rec ∈ arrayField recentSubscriber.toDoc userStreamsField →
        Shown (makeChannelInfo env.uninit) (fun visible => visible) recentDatabase
          (.document rec) → InOrder rec) ∧
      (∀ rec, .document rec ∈ arrayField recentSubscriber.toDoc userVodsField →
        Shown (makeVodInfo env.uninit) (fun _ => true) recentDatabase (.document rec) →
        InOrder rec)) :=
  ⟨rfl, clientGetChannels_exact_iff env recentDatabase auth recentSubscriber (by decide) rfl⟩

/-! ### Hidden documents -/

section

variable [Fastotv]

/-- The branches of the serial decoder other than that of `_id` do not write the id. -/
theorem frames_serial_sidStr : ∀ fd ∈ serialFields, fd.key ≠ serialIdField →
    Field.Frames SerialScan.sidStr fd := by
  simp only [serialFields, List.forall_mem_cons]
  refine ⟨fun h => absurd rfl h, fun _ => Field.frames_onArray ?_,
    fun _ => Field.frames_onInt32 fun _ _ => rfl, fun _ => Field.frames_onUtf8 fun _ _ => rfl,
    fun _ => Field.frames_onUtf8 fun _ _ => rfl, fun _ => Field.frames_onUtf8 fun _ _ => rfl,
    fun _ => Field.frames_onArray ?_, fun _ => Field.frames_onBool fun _ _ => rfl, by simp⟩
  · intro s a s' h
    rw [Outcome.ok.injEq] at h
    rw [← h]
  · intro s a s' h
    obtain ⟨es, -, hs⟩ := Outcome.bind_eq_ok.mp h
    rw [Outcome.ok.injEq] at hs
    rw [← hs]

/-- The id of a serial is the id of its document. -/
theorem id_of_makeSerialInfo {uninit : Uninit} {d : StoredDoc} {ser : SerialInfo} {visible : Bool}
    (h : makeSerialInfo uninit d.toDoc = .ok (ser, visible)) :
    ∃ o, d.id = .oid o ∧ ser.id = o.text := by
  unfold makeSerialInfo at h
  obtain ⟨⟨s, n⟩, hscan, h⟩ := Outcome.bind_eq_ok.mp h
  dsimp only at h
  split_ifs at h
  simp only [Outcome.ok.injEq, Prod.mk.injEq] at h
  rw [← h.1]
  unfold scanDoc StoredDoc.toDoc at hscan
  rw [List.foldlM_cons] at hscan
  obtain ⟨t, ht, hrest⟩ := Outcome.bind_eq_ok.mp hscan
  have hframe := foldlM_scanField_frame SerialScan.sidStr serialIdField frames_serial_sidStr
    d.no_id hrest
  -- the first field is `_id`, and its branch is the first of the decoder
  obtain ⟨t', ht', hcount⟩ := Outcome.bind_eq_ok.mp ht
  rw [Outcome.ok.injEq] at hcount
  cases hv : d.id <;>
    simp only [hv, SerialField.id, Field.onOid, Outcome.ok.injEq, reduceCtorEq] at ht'
  case oid o =>
    refine ⟨o, rfl, ?_⟩
    change s.sidStr = o.text
    rw [hframe, ← hcount, ← ht']

/-- No hidden document among `docs` has its id among `ids`. -/
def HiddenAbsent (docs : List StoredDoc) (ids : List StreamId) : Prop :=
  ∀ d ∈ docs, Hidden d.toDoc → ∀ o, d.id = .oid o → o.text ∉ ids

/-- The document is listed for the entry: it is the one that the entry stands for, and the decoder
accepts it. -/
def ListsDoc {α : Type} (decode : Doc → StreamType → UserStreamInfo → Outcome Unit (α × Bool))
    (db : Database) (e : Bson) (sdoc : StoredDoc) : Prop :=
  ∃ rec st info visible, entryStream db e = some (rec, sdoc, st) ∧
    decode sdoc.toDoc st {} = .ok (info, visible)

/-- The document of a serial is listed for an element of the array `series`. -/
def ListsSerial (uninit : Uninit) (db : Database) (e : Bson) (sdoc : StoredDoc) : Prop :=
  ∃ sid ser visible, e = .oid sid ∧ db.series.findId? sid = some sdoc ∧
    makeSerialInfo uninit sdoc.toDoc = .ok (ser, visible)

variable {env : Env} {db : Database} {auth : AuthInfo} {r : Catalogue}

/-- The ids that a walk lists are those of the documents that it accepts and shows. -/
theorem streamId_mem_walk_iff {α : Type} (D : StreamDecoder α) {uninit : Uninit}
    {shows : Bool → Bool} {a : List Bson} {l : List (Bool × α)}
    (h : walk (listedInfo db (D.decode uninit) shows) a = .ok l) (o : Oid) :
    (∃ x ∈ l, (D.base x.2).streamId = o.text) ↔
      ∃ e ∈ a, ∃ rec sdoc st s, entryStream db e = some (rec, sdoc, st) ∧
        D.accepted uninit sdoc.toDoc st = .ok s ∧ shows s.visible = true ∧
        sdoc.id = .oid o := by
  constructor
  · rintro ⟨x, hx, hid⟩
    obtain ⟨e, he, rec, sdoc, st, s, hes, hs, hshows, rfl⟩ :=
      (mem_walk_listedInfo_iff D h).mp hx
    obtain ⟨o', ho', htext⟩ := StreamDecoder.streamId_of_accepted hs
    rw [htext, Oid.text_inj] at hid
    exact ⟨e, he, rec, sdoc, st, s, hes, hs, hshows, hid ▸ ho'⟩
  · rintro ⟨e, he, rec, sdoc, st, s, hes, hs, hshows, hid⟩
    refine ⟨_, (mem_walk_listedInfo_iff D h).mpr
      ⟨e, he, rec, sdoc, st, s, hes, hs, hshows, rfl⟩, ?_⟩
    obtain ⟨o', ho', htext⟩ := StreamDecoder.streamId_of_accepted hs
    rw [hid, Bson.oid.injEq] at ho'
    rw [htext, ho']

/-- A walk that shows everything leaves hidden documents out exactly when none is listed. -/
theorem hiddenAbsent_walk_iff {α : Type} (D : StreamDecoder α) {uninit : Uninit} {a : List Bson}
    {l : List (Bool × α)} (h : walk (listedInfo db (D.decode uninit) fun _ => true) a = .ok l) :
    HiddenAbsent db.streams.docs (l.map fun x => (D.base x.2).streamId) ↔
      ∀ e ∈ a, ∀ sdoc, ListsDoc (D.decode uninit) db e sdoc → ¬ Hidden sdoc.toDoc := by
  unfold HiddenAbsent
  simp only [List.mem_map, streamId_mem_walk_iff D h]
  constructor
  · rintro habs e he sdoc ⟨rec, st, info, visible, hes, hdec⟩ hhid
    obtain ⟨s, hs, -, -⟩ := StreamDecoder.decode_eq_ok.mp hdec
    obtain ⟨o, ho, -⟩ := StreamDecoder.streamId_of_accepted (u := {}) hs
    obtain ⟨-, oid, -, hfind, -⟩ := entryStream_eq_some.mp hes
    exact habs sdoc (Collection.mem_of_find? hfind) hhid o ho
      ⟨e, he, rec, sdoc, st, s, hes, hs, trivial, ho⟩
  · rintro hlists d hd hhid o ho ⟨e, he, rec, sdoc, st, s, hes, hs, -, hid⟩
    obtain ⟨-, oid, -, hfind, -⟩ := entryStream_eq_some.mp hes
    have hsame : d = sdoc :=
      db.streams.eq_of_id_eq hd (Collection.mem_of_find? hfind) (ho.trans hid.symm)
    exact hlists e he sdoc
      ⟨rec, st, _, _, hes, StreamDecoder.decode_eq_ok.mpr ⟨s, hs, rfl, rfl⟩⟩ (hsame ▸ hhid)

/-- The walk over the channels leaves hidden documents out. -/
theorem hiddenAbsent_channels {a : List Bson} {l : List (Bool × ChannelInfo)}
    (h : walk (listedChannel env db) a = .ok l) :
    HiddenAbsent db.streams.docs (l.map fun x => x.2.streamId) := by
  rintro d hd hhid o ho hmem
  obtain ⟨x, hx, hid⟩ := List.mem_map.mp hmem
  obtain ⟨e, he, rec, sdoc, st, s, hes, hs, hvis, hsid⟩ :=
    (streamId_mem_walk_iff channelDecoder h o).mp ⟨x, hx, hid⟩
  obtain ⟨-, oid, -, hfind, -⟩ := entryStream_eq_some.mp hes
  have hsame : d = sdoc :=
    db.streams.eq_of_id_eq hd (Collection.mem_of_find? hfind) (ho.trans hsid.symm)
  rw [StreamDecoder.visible_of_hidden (hsame ▸ hhid) hs] at hvis
  exact Bool.false_ne_true hvis

/-- What an element of the array `series` gives: the serial of its document, with the views of its
episodes. -/
theorem listedSerial_eq_some {lvods : List VodInfo} {e : Bson} {x : SerialInfo} :
    listedSerial env db lvods e = .ok (some x) ↔ ∃ sid sdoc ser visible, e = .oid sid ∧
      db.series.findId? sid = some sdoc ∧
      makeSerialInfo env.uninit sdoc.toDoc = .ok (ser, visible) ∧
      x = { ser with viewCount := episodeViews lvods ser.episodes } := by
  constructor
  · intro hread
    unfold listedSerial at hread
    cases hoid : e.asOid? with
    | none => simp [hoid] at hread
    | some sid =>
      obtain rfl := Bson.asOid?_eq_some.mp hoid
      cases hfind : db.series.findId? sid with
      | none => simp [hoid, hfind] at hread
      | some sdoc =>
        simp only [hoid, hfind] at hread
        obtain ⟨y, hy, hread⟩ := Outcome.bind_eq_ok.mp hread
        obtain ⟨-, rfl⟩ := decoded_eq_ok.mp hy
        cases hdec : makeSerialInfo env.uninit sdoc.toDoc with
        | error _ => simp [hdec, Outcome.toOption] at hread
        | abort => simp [hdec, Outcome.toOption] at hread
        | ok s =>
          obtain ⟨ser, visible⟩ := s
          simp only [hdec, Outcome.toOption, Outcome.pure_eq_ok, Outcome.ok.injEq,
            Option.some.injEq] at hread
          exact ⟨sid, sdoc, ser, visible, rfl, hfind, hdec, hread.symm⟩
  · rintro ⟨sid, sdoc, ser, visible, rfl, hfind, hdec, rfl⟩
    simp [listedSerial, Bson.asOid?, hfind, hdec, decoded]

/-- The walk over the series leaves hidden documents out exactly when none is listed. -/
theorem hiddenAbsent_series_iff {lvods : List VodInfo} {a : List Bson} {l : List SerialInfo}
    (h : walk (listedSerial env db lvods) a = .ok l) :
    HiddenAbsent db.series.docs (l.map SerialInfo.id) ↔
      ∀ e ∈ a, ∀ sdoc, ListsSerial env.uninit db e sdoc → ¬ Hidden sdoc.toDoc := by
  unfold HiddenAbsent
  constructor
  · rintro habs _ he sdoc ⟨sid, ser, visible, rfl, hfind, hdec⟩ hhid
    obtain ⟨o, ho, hid⟩ := id_of_makeSerialInfo hdec
    have hread : listedSerial env db lvods (.oid sid) = _ := listedSerial_eq_some.mpr
      ⟨sid, sdoc, ser, visible, rfl, hfind, hdec, rfl⟩
    refine habs sdoc (Collection.mem_of_find? hfind) hhid o ho (List.mem_map.mpr ?_)
    exact ⟨_, (mem_of_walk h).mpr ⟨_, he, hread⟩, hid⟩
  · rintro hlists d hd hhid o ho hmem
    obtain ⟨x, hx, hid⟩ := List.mem_map.mp hmem
    obtain ⟨e, he, hread⟩ := (mem_of_walk h).mp hx
    obtain ⟨sid, sdoc, ser, visible, rfl, hfind, hdec, rfl⟩ := listedSerial_eq_some.mp hread
    obtain ⟨o', ho', hid'⟩ := id_of_makeSerialInfo hdec
    rw [hid', Oid.text_inj] at hid
    have hsame : d = sdoc := db.series.eq_of_id_eq hd (Collection.mem_of_find? hfind)
      (ho.trans (hid ▸ ho'.symm))
    exact hlists _ he sdoc ⟨sid, ser, visible, rfl, hfind, hdec⟩ (hsame ▸ hhid)

/-- No hidden stream or serial is in any list of the catalogue. -/
structure NoHidden (db : Database) (r : Catalogue) : Prop where
  chans : HiddenAbsent db.streams.docs (r.chans.map fun x => x.streamId)
  pchans : HiddenAbsent db.streams.docs (r.pchans.map fun x => x.streamId)
  vods : HiddenAbsent db.streams.docs (r.vods.map fun x => x.streamId)
  pvods : HiddenAbsent db.streams.docs (r.pvods.map fun x => x.streamId)
  catchups : HiddenAbsent db.streams.docs (r.catchups.map fun x => x.streamId)
  series : HiddenAbsent db.series.docs (r.series.map SerialInfo.id)

omit [Fastotv] in
/-- An id is in the public or in the private list if and only if the walk gave it. -/
theorem hiddenAbsent_withPrivate_iff {α : Type} {docs : List StoredDoc} {l : List (Bool × α)}
    (f : α → StreamId) : HiddenAbsent docs (l.map fun x => f x.2) ↔
      HiddenAbsent docs ((withPrivate false l).map f) ∧
        HiddenAbsent docs ((withPrivate true l).map f) := by
  unfold HiddenAbsent
  simp only [List.mem_map, mem_withPrivate, Prod.exists, Bool.exists_bool, not_or]
  constructor
  · exact fun h => ⟨fun d hd hh o ho hx => (h d hd hh o ho).1 hx,
      fun d hd hh o ho hx => (h d hd hh o ho).2 hx⟩
  · exact fun h d hd hh o ho => ⟨h.1 d hd hh o ho, h.2 d hd hh o ho⟩

/-- Hidden documents are left out of the whole catalogue if and only if no VOD, catchup or serial
that the arrays of the subscriber list is hidden. -/
theorem hidden_not_listed_iff (env : Env) (db : Database) (auth : AuthInfo) (sub : StoredDoc)
    (r : Catalogue) (hsub : findByEmail db auth.login = some sub)
    (hr : clientGetChannels env db auth = .ok r) :
    NoHidden db r ↔
      (∀ e ∈ arrayField sub.toDoc userVodsField, ∀ sdoc,
        ListsDoc (makeVodInfo env.uninit) db e sdoc → ¬ Hidden sdoc.toDoc) ∧
      (∀ e ∈ arrayField sub.toDoc userCatchupsField, ∀ sdoc,
        ListsDoc (makeCatchupInfo env.uninit) db e sdoc → ¬ Hidden sdoc.toDoc) ∧
      (∀ e ∈ arrayField sub.toDoc seriesField, ∀ sdoc,
        ListsSerial env.uninit db e sdoc → ¬ Hidden sdoc.toDoc) := by
  obtain ⟨-, sub', hsub', chans, vods, catchups, series, requests, hc, hv, hca, hse, -, rfl⟩ :=
    clientGetChannels_eq_ok.mp hr
  rw [hsub, Option.some.injEq] at hsub'
  subst hsub'
  have hvods := hiddenAbsent_walk_iff vodDecoder hv
  have hcatchups := hiddenAbsent_walk_iff catchupDecoder hca
  have hchans := (hiddenAbsent_withPrivate_iff fun x : ChannelInfo => x.streamId).mp
    (hiddenAbsent_channels hc)
  constructor
  · intro h
    refine ⟨hvods.mp ((hiddenAbsent_withPrivate_iff fun x : VodInfo => x.streamId).mpr
      ⟨h.vods, h.pvods⟩), hcatchups.mp ?_,
      (hiddenAbsent_series_iff hse).mp h.series⟩
    have hmap := h.catchups
    rwa [List.map_map] at hmap
  · rintro ⟨h1, h2, h3⟩
    have hsplit := (hiddenAbsent_withPrivate_iff fun x : VodInfo => x.streamId).mp
      (hvods.mpr h1)
    refine ⟨hchans.1, hchans.2, hsplit.1, hsplit.2, ?_, (hiddenAbsent_series_iff hse).mpr h3⟩
    rw [List.map_map]
    exact hcatchups.mpr h2

end

/-! A subscriber with one VOD, which is hidden. -/

namespace Sample

def vodDoc (o : Oid) (visible : Bool) : StoredDoc where
  id := .oid o
  fields := [(streamClsField, .utf8 vodRelayStr), (streamNameField, .utf8 "Film"),
    (streamGroupsField, .array []), (vodDescriptionField, .utf8 "A film"),
    (vodPrviewIconField, .utf8 "http://icon"), (streamVisibleField, .bool visible),
    (streamIarcField, .int32 3), (streamViewCountField, .int32 0),
    (streamOutputField, .array []), (streamHaveVideoField, .bool true),
    (streamHaveAudioField, .bool true), (vodTrailerUrlField, .utf8 "http://trailer"),
    (vodUserScoreField, .double 0), (vodPrimeDateField, .dateTime 0),
    (vodCountryField, .utf8 "by"), (vodDurationField, .int32 60), (vodTypeField, .int32 0)]
  no_id := by simp only [Doc.keys, List.map_cons, List.map_nil]; decide

def vodSubscriber : StoredDoc :=
  subscriber userVodsField userVods_ne_id [userStreamEntry (oid 3)]

def hiddenVodDatabase : Database :=
  database vodSubscriber [vodDoc (oid 3) false] (List.nodup_singleton _)

theorem hidden_vodDoc (o : Oid) : Hidden (vodDoc o false).toDoc := by
  refine ⟨by simp only [StoredDoc.toDoc, vodDoc, Doc.keys, List.map_cons]; decide, ?_⟩
  simp only [StoredDoc.toDoc, vodDoc, List.forall_mem_cons]
  simp [streamClsField, streamNameField, streamGroupsField, vodDescriptionField,
    vodPrviewIconField, streamVisibleField, streamIarcField, streamViewCountField,
    streamOutputField, streamHaveVideoField, streamHaveAudioField, vodTrailerUrlField,
    vodUserScoreField, vodPrimeDateField, vodCountryField, vodDurationField, vodTypeField,
    idField]

/-- What the subscriber is shown. -/
def shownCatalogue (db : Database) : Catalogue :=
  ((clientGetChannels env db auth).toOption).getD ⟨[], [], [], [], [], [], []⟩

end Sample

open Sample in
/-- The hidden VOD is in the public list. -/
theorem hidden_vod_listed :
    clientGetChannels env hiddenVodDatabase auth = .ok (shownCatalogue hiddenVodDatabase) ∧
      ¬ NoHidden hiddenVodDatabase (shownCatalogue hiddenVodDatabase) := by
  refine ⟨by decide, fun h => ?_⟩
  exact h.vods (vodDoc (oid 3) false) (List.mem_singleton_self _) (hidden_vodDoc _) (oid 3) rfl
    (by decide)

open Sample in
theorem hidden_not_listed_iff_sample :
    NoHidden hiddenVodDatabase (shownCatalogue hiddenVodDatabase) ↔
      (∀ e ∈ arrayField vodSubscriber.toDoc userVodsField, ∀ sdoc,
        ListsDoc (makeVodInfo env.uninit) hiddenVodDatabase e sdoc → ¬ Hidden sdoc.toDoc) ∧
      (∀ e ∈ arrayField vodSubscriber.toDoc userCatchupsField, ∀ sdoc,
        ListsDoc (makeCatchupInfo env.uninit) hiddenVodDatabase e sdoc → ¬ Hidden sdoc.toDoc) ∧
      (∀ e ∈ arrayField vodSubscriber.toDoc seriesField, ∀ sdoc,
        ListsSerial env.uninit hiddenVodDatabase e sdoc → ¬ Hidden sdoc.toDoc) :=
  hidden_not_listed_iff env hiddenVodDatabase auth vodSubscriber _ rfl (by decide)

end LoadBalance
