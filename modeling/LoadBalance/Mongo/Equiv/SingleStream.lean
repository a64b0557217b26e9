import LoadBalance.Mongo.Equiv.ClientGetChannels
import LoadBalance.Mongo.Equiv.Uninit

/-!
# Looking up one stream against the catalogue

`findStream`, `findVod` and `findCatchup` find the stream documents that `clientGetChannels`
lists, but they read the flags from the subscriber's document instead of the entry, and ask for
the kind of the stream where the walk over the array takes any (`findInfo_of_entry`).  So the two
agree on a list exactly when the kinds are right and the flags happen to be the same, and no catchup
shows a time that one of the calls found in a local (`find_agrees_iff`).
-/

namespace LoadBalance

/-- The four fields that an info shows are met with the same values going forward from the `sid`
of the entry and going forward from the first field of the subscriber's document. -/
structure SameFlagFields (rec doc : Doc) : Prop where
  favorite : fieldBehind [userStreamIdField] rec favoriteField Bson.asBool false =
    fieldBehind [] doc favoriteField Bson.asBool false
  locked : fieldBehind [userStreamIdField, favoriteField, privateField] rec lockedField
      Bson.asBool false =
    fieldBehind [favoriteField, privateField] doc lockedField Bson.asBool false
  recent : fieldBehind [userStreamIdField, favoriteField, privateField, lockedField] rec
      recentField Bson.asDateTime 0 =
    fieldBehind [favoriteField, privateField, lockedField] doc recentField Bson.asDateTime 0
  interruptionTime : fieldBehind [userStreamIdField, favoriteField, privateField, lockedField,
      recentField] rec interruptionTimeField (fun v => v.asInt32.toInt64) 0 =
    fieldBehind [favoriteField, privateField, lockedField, recentField] doc
      interruptionTimeField (fun v => v.asInt32.toInt64) 0

theorem sameFlags_iff {rec doc : Doc} :
    (makeUserStreamInfo doc).SameFlags (makeUserStreamInfo (behind [userStreamIdField] rec)) ↔
      SameFlagFields rec doc := by
  simp only [UserStreamInfo.SameFlags, makeUserStreamInfo, iterFind_fst]
  constructor
  · rintro ⟨h1, h2, h3, h4⟩
    exact ⟨h1.symm, h2.symm, h3.symm, h4.symm⟩
  · rintro ⟨h1, h2, h3, h4⟩
    exact ⟨h1.symm, h2.symm, h3.symm, h4.symm⟩

/-- Every entry of a list is of the kind that the lookup asks for, and shows the flags that are
read from the subscriber's document. -/
def LookupFits {α : Type} (decode : Doc → StreamType → UserStreamInfo → Outcome Unit (α × Bool))
    (shows : Bool → Bool) (vod : Bool) (db : Database) (doc : Doc) (arr : String) : Prop :=
  ∀ e ∈ arrayField doc arr, ∀ rec sdoc st info visible,
    entryStream db e = some (rec, sdoc, st) → decode sdoc.toDoc st {} = .ok (info, visible) →
    shows visible = true → isVod st = vod ∧ SameFlagFields rec doc

section

variable [Fastotv]

/-- What `times` asks of a document is all that it takes for two calls to show the same of it. -/
def StreamDecoder.ShowsSameWhen {α : Type} (D : StreamDecoder α) (u u' : Uninit)
    (times : Doc → Prop) : Prop :=
  ∀ sdoc st s v w, D.accepted u sdoc st = .ok s → ∃ r, D.decode u' sdoc st v = .ok r ∧
    (r.1 = D.info s w ↔ v.SameFlags w ∧ times sdoc)

/-- A decoder that shows none of the locals. -/
theorem showsSameWhen_of_decode_eq {α : Type} {D : StreamDecoder α} {u u' : Uninit}
    (h : D.decode u' = D.decode u) : D.ShowsSameWhen u u' fun _ => True := by
  intro sdoc st s v w hs
  refine ⟨(D.info s v, s.visible), ?_, ?_⟩
  · rw [h]
    exact StreamDecoder.decode_eq_ok.mpr ⟨s, hs, rfl, rfl⟩
  · rw [StreamDecoder.info_inj, and_iff_left trivial]

theorem showsSameWhen_channelDecoder (u u' : Uninit) :
    channelDecoder.ShowsSameWhen u u' fun _ => True :=
  showsSameWhen_of_decode_eq (makeChannelInfo_uninit u u')

theorem showsSameWhen_vodDecoder (u u' : Uninit) :
    vodDecoder.ShowsSameWhen u u' fun _ => True :=
  showsSameWhen_of_decode_eq (makeVodInfo_uninit u u')

theorem showsSameWhen_catchupDecoder (u u' : Uninit) :
    catchupDecoder.ShowsSameWhen u u' (SameTimes u u') := by
  intro sdoc st s v w hs
  have hmade : makeCatchupInfo u sdoc st v = .ok (catchupDecoder.info s v, s.visible) :=
    StreamDecoder.decode_eq_ok.mpr ⟨s, hs, rfl, rfl⟩
  have hmade' : makeCatchupInfo u' sdoc st v = _ := makeCatchupInfo_uninit u u' sdoc st v
  rw [hmade, Outcome.ok_bind] at hmade'
  refine ⟨_, hmade', ?_⟩
  -- The info of the other call has its own flags and, where a time is absent, its own time.
  have hinfo : ∀ start stop, ({ catchupDecoder.info s v with start := start, stop := stop } :
      CatchupInfo) = catchupDecoder.info s w ↔
        (v.SameFlags w ∧ start = s.start ∧ stop = s.stop) := by
    intro start stop
    rw [← base_inj (s := s)]
    constructor
    · intro heq
      exact ⟨congrArg (fun info => info.toStreamBaseInfo) heq, congrArg CatchupInfo.start heq,
        congrArg CatchupInfo.stop heq⟩
    · rintro ⟨hbase, rfl, rfl⟩
      exact catchupDecoder.info_congr s v w hbase
  rw [hinfo]
  exact and_congr_right fun _ => sameTimes_iff hmade

end

section

variable [Fastotv] {env env' : Env} {db : Database} {auth : ServerDBAuthInfo} {sub : StoredDoc}

omit [Fastotv] in
/-- The subscriber's document has the entry, so the lookup finds it. -/
theorem find?_userHasStream {u o : Oid} {arr : String} {rec : Doc}
    (hsub : sub ∈ db.subscribers.docs) (hid : sub.id = .oid u)
    (he : .document rec ∈ arrayField sub.toDoc arr)
    (hsid : Doc.get? rec userStreamIdField = some (.oid o)) :
    db.subscribers.find? (userHasStream u o arr) = some sub := by
  have harr : ∃ a, Doc.get? sub.toDoc arr = some (.array a) ∧ .document rec ∈ a := by
    unfold arrayField at he
    split at he
    · next a ha => exact ⟨a, ha, he⟩
    · exact absurd he List.not_mem_nil
  obtain ⟨a, ha, hmem⟩ := harr
  have hhas : userHasStream u o arr sub = true := by
    simp only [userHasStream, Bool.and_eq_true]
    refine ⟨StoredDoc.hasId_iff.mpr hid, ?_⟩
    simp only [Doc.fieldMatches, ha, Bson.pathMatches, List.any_eq_true]
    exact ⟨_, hmem, by simp [Bson.subMatches, Doc.fieldMatches, hsid, Bson.matchesOid]⟩
  cases hf : db.subscribers.find? (userHasStream u o arr) with
  | none => exact absurd hhas (List.find?_eq_none.mp hf sub hsub)
  | some d =>
    have hd : userHasStream u o arr d = true := List.find?_some hf
    simp only [userHasStream, Bool.and_eq_true] at hd
    have hdid := StoredDoc.hasId_iff.mp hd.1
    rw [db.subscribers.eq_of_id_eq (Collection.mem_of_find? hf) hsub (hdid.trans hid.symm)]

/-- What the lookup of a listed stream gives. -/
theorem findInfo_of_entry {α : Type} (D : StreamDecoder α) {u : Oid} {arr : String} {vod : Bool}
    {rec : Doc} {sdoc : StoredDoc} {st : StreamType} {r : α × Bool} {e : Bson} {o : Oid}
    (hinvalid : ∀ o : Oid, o.text ≠ Fastotv.invalidStreamId) (hauth : auth.isValid = true)
    (huid : convertFromString env.beyond auth.uid = some u) (hsub : sub ∈ db.subscribers.docs)
    (hid : sub.id = .oid u) (he : e ∈ arrayField sub.toDoc arr)
    (hes : entryStream db e = some (rec, sdoc, st)) (ho : sdoc.id = .oid o)
    (hr : D.decode env.uninit sdoc.toDoc st (makeUserStreamInfo sub.toDoc) = .ok r) :
    findInfo env db auth o.text arr vod (D.decode env.uninit) =
      if isVod st = vod then .ok r.1
      else .error (.message "Stream not found") := by
  obtain ⟨rfl, oid, hsid, hfind, hst⟩ := entryStream_eq_some.mp hes
  -- the entry's `sid` is the id of the document
  have hoid : oid = o := by
    have h := (Collection.id_of_findId? hfind).symm.trans ho
    rwa [Bson.oid.injEq] at h
  subst hoid
  have hfound : findUserStream env db auth oid.text arr =
      .ok (sdoc.toDoc, st, makeUserStreamInfo sub.toDoc) := by
    simp [findUserStream, hauth, hinvalid oid, huid, find?_userHasStream hsub hid he hsid, hfind,
      hst]
  unfold findInfo
  rw [hfound, Outcome.ok_bind]
  dsimp only
  split_ifs with hvod
  · rw [hr]
    rfl
  · rfl

/-- Looking up every id of a list gives the infos of the list exactly when the lookup fits and the
two calls show the same of the documents. -/
theorem findInfo_agrees_iff {α : Type} (D : StreamDecoder α) {shows : Bool → Bool} {u : Oid}
    {arr : String} (vod : Bool) {times : Doc → Prop} {l : List (Bool × α)}
    (hD : D.ShowsSameWhen env.uninit env'.uninit times)
    (hinvalid : ∀ o : Oid, o.text ≠ Fastotv.invalidStreamId) (hauth : auth.isValid = true)
    (huid : convertFromString env'.beyond auth.uid = some u) (hsub : sub ∈ db.subscribers.docs)
    (hid : sub.id = .oid u)
    (h : walk (listedInfo db (D.decode env.uninit) shows) (arrayField sub.toDoc arr) = .ok l) :
    (∀ x ∈ l, findInfo env' db auth (D.base x.2).streamId arr vod (D.decode env'.uninit) =
        .ok x.2) ↔
      LookupFits (D.decode env.uninit) shows vod db sub.toDoc arr ∧
      ∀ e ∈ arrayField sub.toDoc arr, ∀ rec sdoc st info visible,
        entryStream db e = some (rec, sdoc, st) →
        D.decode env.uninit sdoc.toDoc st {} = .ok (info, visible) → shows visible = true →
        times sdoc.toDoc := by
  -- one entry: the info of the catalogue against the one of the lookup
  have hentry : ∀ e ∈ arrayField sub.toDoc arr, ∀ rec sdoc st s,
      entryStream db e = some (rec, sdoc, st) →
      D.accepted env.uninit sdoc.toDoc st = .ok s →
      (findInfo env' db auth (D.base (D.info s
          (makeUserStreamInfo (behind [userStreamIdField] rec)))).streamId arr vod
          (D.decode env'.uninit) =
        .ok (D.info s (makeUserStreamInfo (behind [userStreamIdField] rec))) ↔
        (isVod st = vod ∧ SameFlagFields rec sub.toDoc) ∧ times sdoc.toDoc) := by
    intro e he rec sdoc st s hes hs
    obtain ⟨o, ho, htext⟩ := StreamDecoder.streamId_of_accepted
      (u := makeUserStreamInfo (behind [userStreamIdField] rec)) hs
    obtain ⟨r, hr, hsame⟩ := hD _ _ _ (makeUserStreamInfo sub.toDoc)
      (makeUserStreamInfo (behind [userStreamIdField] rec)) hs
    rw [htext, findInfo_of_entry D hinvalid hauth huid hsub hid he hes ho hr]
    split_ifs with hvod
    · rw [Outcome.ok.injEq, hsame, sameFlags_iff]
      simp [hvod]
    · simp [hvod]
  constructor
  · intro hall
    have hlisted : ∀ e ∈ arrayField sub.toDoc arr, ∀ rec sdoc st info visible,
        entryStream db e = some (rec, sdoc, st) →
        D.decode env.uninit sdoc.toDoc st {} = .ok (info, visible) → shows visible = true →
        (isVod st = vod ∧ SameFlagFields rec sub.toDoc) ∧ times sdoc.toDoc := by
      intro e he rec sdoc st info visible hes hdec hshows
      obtain ⟨s, hs, -, rfl⟩ := StreamDecoder.decode_eq_ok.mp hdec
      have hmem := (mem_walk_listedInfo_iff D h).mpr
        ⟨e, he, rec, sdoc, st, s, hes, hs, hshows, rfl⟩
      exact (hentry e he rec sdoc st s hes hs).mp (hall _ hmem)
    constructor
    · intro e he rec sdoc st info visible hes hdec hshows
      exact (hlisted e he rec sdoc st info visible hes hdec hshows).1
    · intro e he rec sdoc st info visible hes hdec hshows
      exact (hlisted e he rec sdoc st info visible hes hdec hshows).2
  · rintro ⟨hfits, htimes⟩ x hx
    obtain ⟨e, he, rec, sdoc, st, s, hes, hs, hshows, rfl⟩ :=
      (mem_walk_listedInfo_iff D h).mp hx
    have hdec : D.decode env.uninit sdoc.toDoc st {} = .ok (D.info s {}, s.visible) :=
      StreamDecoder.decode_eq_ok.mpr ⟨s, hs, rfl, rfl⟩
    exact (hentry e he rec sdoc st s hes hs).mpr
      ⟨hfits e he rec sdoc st _ _ hes hdec hshows, htimes e he rec sdoc st _ _ hes hdec hshows⟩

/-- Every stream that the catalogue lists is found with the same info under its id. -/
structure LookupAgrees (env : Env) (db : Database) (auth : ServerDBAuthInfo) (r : Catalogue) :
    Prop where
  chans : ∀ sid, ∀ info ∈ r.chans ++ r.pchans, info.streamId = sid →
    findStream env db auth sid = .ok info
  vods : ∀ sid, ∀ info ∈ r.vods ++ r.pvods, info.streamId = sid →
    findVod env db auth sid = .ok info
  catchups : ∀ sid, ∀ info ∈ r.catchups, info.streamId = sid →
    findCatchup env db auth sid = .ok info

omit [Fastotv] in
theorem mem_withPrivate_append {α : Type} {l : List (Bool × α)} {x : α} :
    x ∈ withPrivate false l ++ withPrivate true l ↔ ∃ y ∈ l, y.2 = x := by
  simp only [List.mem_append, mem_withPrivate, Prod.exists, Bool.exists_bool,
    exists_eq_right]

/-- The lookups agree with the catalogue if and only if, for every entry that is listed, the stream
is of the kind that the lookup of its array asks for and its flags are met with the same values
in the subscriber's document, and the two calls show the same times of the catchups. -/
theorem find_agrees_iff (env env' : Env) (db : Database) (auth : ServerDBAuthInfo)
    (sub : StoredDoc) (u : Oid) (r : Catalogue)
    (hinvalid : ∀ o : Oid, o.text ≠ Fastotv.invalidStreamId)
    (hauth : auth.isValid = true) (huid : convertFromString env'.beyond auth.uid = some u)
    (hid : sub.id = .oid u) (hsub : findByEmail db auth.login = some sub)
    (hr : clientGetChannels env db auth.toAuthInfo = .ok r) :
    LookupAgrees env' db auth r ↔
      LookupFits (makeChannelInfo env.uninit) (fun visible => visible) false db sub.toDoc
        userStreamsField ∧
      LookupFits (makeVodInfo env.uninit) (fun _ => true) true db sub.toDoc userVodsField ∧
      LookupFits (makeCatchupInfo env.uninit) (fun _ => true) false db sub.toDoc
        userCatchupsField ∧
      TimesShown env.uninit env'.uninit db sub.toDoc := by
  obtain ⟨-, sub', hsub', chans, vods, catchups, series, requests, hc, hv, hca, -, -, rfl⟩ :=
    clientGetChannels_eq_ok.mp hr
  rw [hsub, Option.some.injEq] at hsub'
  subst hsub'
  have hmem : sub ∈ db.subscribers.docs := Collection.mem_of_find? hsub
  have h1 := findInfo_agrees_iff channelDecoder false
    (showsSameWhen_channelDecoder env.uninit env'.uninit) hinvalid hauth huid hmem hid hc
  have h2 := findInfo_agrees_iff vodDecoder true
    (showsSameWhen_vodDecoder env.uninit env'.uninit) hinvalid hauth huid hmem hid hv
  have h3 := findInfo_agrees_iff catchupDecoder false
    (showsSameWhen_catchupDecoder env.uninit env'.uninit) hinvalid hauth huid hmem hid hca
  constructor
  · intro h
    have hchans := h1.mp fun x hx =>
      h.chans _ x.2 (mem_withPrivate_append.mpr ⟨x, hx, rfl⟩) rfl
    have hvods := h2.mp fun x hx =>
      h.vods _ x.2 (mem_withPrivate_append.mpr ⟨x, hx, rfl⟩) rfl
    have hcatchups := h3.mp fun x hx =>
      h.catchups _ x.2 (List.mem_map.mpr ⟨x, hx, rfl⟩) rfl
    refine ⟨hchans.1, hvods.1, hcatchups.1, ?_⟩
    intro e he rec sdoc st r hes hmade
    exact hcatchups.2 e he rec sdoc st r.1 r.2 hes hmade rfl
  · rintro ⟨hf1, hf2, hf3, htimes⟩
    refine ⟨?_, ?_, ?_⟩
    · rintro _ info hinfo rfl
      obtain ⟨x, hx, rfl⟩ := mem_withPrivate_append.mp hinfo
      exact h1.mpr ⟨hf1, fun _ _ _ _ _ _ _ _ _ _ => trivial⟩ x hx
    · rintro _ info hinfo rfl
      obtain ⟨x, hx, rfl⟩ := mem_withPrivate_append.mp hinfo
      exact h2.mpr ⟨hf2, fun _ _ _ _ _ _ _ _ _ _ => trivial⟩ x hx
    · rintro _ info hinfo rfl
      obtain ⟨x, hx, rfl⟩ := List.mem_map.mp hinfo
      refine h3.mpr ⟨hf3, ?_⟩ x hx
      intro e he rec sdoc st info visible hes hdec _
      exact htimes e he rec sdoc st (info, visible) hes hdec

end

/-! A subscriber whose only channel is a favorite. -/

namespace Sample

def login : ServerDBAuthInfo := ⟨⟨auth, 2000⟩, (oid 1).text⟩

def favoriteSubscriber : StoredDoc :=
  subscriber userStreamsField userStreams_ne_id
    [Doc.set (userStreamEntry (oid 2)) favoriteField (.bool true)]

/-- The same machine at a later call. -/
def laterEnv : Env := { env with uninit := ⟨1, 1, 1, 1, 1⟩ }

def favoriteDatabase : Database :=
  database favoriteSubscriber [channelDoc (oid 2) relayStr true] nodup_channelDoc

end Sample

open Sample in
/-- The catalogue says that the channel is a favorite, the lookup says that it is not. -/
theorem find_disagrees :
    clientGetChannels env favoriteDatabase login.toAuthInfo =
        .ok (shownCatalogue favoriteDatabase) ∧
      ¬ LookupAgrees env favoriteDatabase login (shownCatalogue favoriteDatabase) := by
  refine ⟨by decide, fun h => ?_⟩
  have hlisted : ∃ info ∈ (shownCatalogue favoriteDatabase).chans,
      info.streamId = (oid 2).text ∧ info.favorite = true := by decide
  obtain ⟨info, hinfo, hid, hfav⟩ := hlisted
  have hfound := h.chans (oid 2).text info (List.mem_append_left _ hinfo) hid
  have hnot : (findStream env favoriteDatabase login (oid 2).text).toOption.map
      (fun info => info.favorite) = some false := by decide
  rw [hfound] at hnot
  exact absurd hfav (by simpa [Outcome.toOption] using hnot)

open Sample in
/-- The lookup is a call of its own, which finds other values in the locals. -/
theorem find_agrees_iff_sample :
    LookupAgrees laterEnv favoriteDatabase login (shownCatalogue favoriteDatabase) ↔
      LookupFits (makeChannelInfo env.uninit) (fun visible => visible) false favoriteDatabase
        favoriteSubscriber.toDoc userStreamsField ∧
      LookupFits (makeVodInfo env.uninit) (fun _ => true) true favoriteDatabase
        favoriteSubscriber.toDoc userVodsField ∧
      LookupFits (makeCatchupInfo env.uninit) (fun _ => true) false favoriteDatabase
        favoriteSubscriber.toDoc userCatchupsField ∧
      TimesShown env.uninit laterEnv.uninit favoriteDatabase favoriteSubscriber.toDoc :=
  find_agrees_iff env laterEnv favoriteDatabase login favoriteSubscriber (oid 1) _
    Oid.text_ne_empty (by decide) (convertFromString_text _ _) rfl rfl (by decide)

end LoadBalance
