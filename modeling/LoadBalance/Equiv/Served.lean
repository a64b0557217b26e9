import LoadBalance.Equiv.Evolution
import LoadBalance.Equiv.Recordings
import LoadBalance.Mongo.Equiv.ChannelSource
import LoadBalance.Mongo.Equiv.SingleStream

/-!
# A catchup is served where it was recorded

A request for a catchup writes where each of its outputs is recorded into a document, and a success
reply to it tells the urls.  A subscriber that asks for it later, over HTTP, is given what stands in
the document then.  Of a document of a stream a run changes only the counter and the parts
(`Evolves`), so both are the same, however the place of the catchups changes in between
(`catchup_served`).
-/

namespace LoadBalance

open LoadBalance.Action

section

variable [Fastotv]

/-! ### What is given for an output -/

omit [Fastotv] in
/-- The search gets to the stream when one of the arrays lists it, and no null pointer is met in it
or in the arrays before. -/
theorem exists_sourceIn_iff {doc : Doc} {x : Oid} : (∃ arr, SourceIn doc x arr) ↔
    Reaches (arrayField doc userStreamsField) x ∧ (Lists (arrayField doc userStreamsField) x ∨
      Reaches (arrayField doc userVodsField) x ∧ (Lists (arrayField doc userVodsField) x ∨
        Reaches (arrayField doc userCatchupsField) x ∧
          Lists (arrayField doc userCatchupsField) x)) := by
  constructor
  · rintro ⟨arr, hfound⟩
    cases hfound with
    | streams hr hl => exact ⟨hr, Or.inl hl⟩
    | vods hr₁ _ hr hl => exact ⟨hr₁, Or.inr ⟨hr, Or.inl hl⟩⟩
    | catchups hr₁ _ hr₂ _ hr hl => exact ⟨hr₁, Or.inr ⟨hr₂, Or.inr ⟨hr, hl⟩⟩⟩
  · rintro ⟨hr₁, h⟩
    by_cases hl₁ : Lists (arrayField doc userStreamsField) x
    · exact ⟨_, .streams hr₁ hl₁⟩
    obtain ⟨hr₂, h⟩ := h.resolve_left hl₁
    by_cases hl₂ : Lists (arrayField doc userVodsField) x
    · exact ⟨_, .vods hr₁ hl₁ hr₂ hl₂⟩
    obtain ⟨hr, hl⟩ := h.resolve_left hl₂
    exact ⟨_, .catchups hr₁ hl₁ hr₂ hl₂ hr hl⟩

omit [Fastotv] in
theorem not_nullSid_of_isSome {e : Bson} (h : (entrySid? e).isSome = true) : ¬NullSid e := by
  rintro ⟨rec, v, rfl, hget, hv⟩
  rw [show entrySid? (.document rec) = none by simp [entrySid?, hget, hv]] at h
  cases h

omit [Fastotv] in
/-- When every entry is about a stream, the search gets to each of them. -/
theorem exists_sourceIn_of_listsStream {doc : Doc} {x : Oid}
    (hsids : ∀ arr ∈ [userStreamsField, userVodsField, userCatchupsField],
      ∀ e ∈ arrayField doc arr, (entrySid? e).isSome = true) (hlists : ListsStream doc x) :
    ∃ arr, SourceIn doc x arr := by
  have hreaches : ∀ arr ∈ [userStreamsField, userVodsField, userCatchupsField],
      Reaches (arrayField doc arr) x := fun arr harr e he =>
    not_nullSid_of_isSome (hsids arr harr e (List.takeWhile_sublist _ |>.subset he))
  obtain ⟨arr, harr, hl⟩ := hlists
  rw [exists_sourceIn_iff]
  refine ⟨hreaches _ (by simp), ?_⟩
  have hvods := hreaches userVodsField (by simp)
  have hcatchups := hreaches userCatchupsField (by simp)
  rcases List.mem_cons.mp harr with rfl | harr
  · exact Or.inl hl
  rcases List.mem_cons.mp harr with rfl | harr
  · exact Or.inr ⟨hvods, Or.inl hl⟩
  · obtain rfl := List.mem_singleton.mp harr
    exact Or.inr ⟨hvods, Or.inr ⟨hcatchups, hl⟩⟩

/-- An output with an `http_root` is given exactly when the search gets to its stream, whichever
array lists it. -/
theorem source_iff_of_httpRoot {env : Env} {db : Database} {auth : AuthInfo} {sub sdoc : StoredDoc}
    {x : Oid} {st : StreamType} {cid : ChannelId} {out : OutputUri}
    (hauth : Fastotv.authValid auth = true) (hsid : x.text ≠ Fastotv.invalidStreamId)
    (hsub : findByEmail db auth.login = some sub) (hsdoc : db.streams.findId? x = some sdoc)
    (htype : streamType? sdoc.toDoc = some st) (hst : ¬st.IsRemote)
    (hout : findOutput sdoc.toDoc cid = some out) (hroot : out.httpRoot.isSome = true) :
    clientFindHttpDirectoryOrUrlForChannel env db auth x.text cid = .ok (expectedSource env out) ↔
      ∃ arr, SourceIn sub.toDoc x arr := by
  have hstream (proxyType : StreamType) (hproxy : st ≠ proxyType) :
      streamSource env proxyType cid sdoc.toDoc st =
        if true then some (expectedSource env out) else none := by
    rw [streamSource_of_findOutput hproxy hout, hroot]
  rw [exists_sourceIn_iff]
  unfold clientFindHttpDirectoryOrUrlForChannel
  rw [if_neg (by simp [hauth, hsid]), hsub]
  dsimp only
  -- The three blocks one after another: found, passed on, or ended by a null pointer.
  rcases findSourceIn_cases hsdoc htype (hstream .proxy fun h => hst (Or.inl h)) sub.toDoc
    userStreamsField with ⟨hr₁, hl₁, h₁⟩ | ⟨hr₁, hl₁, h₁⟩ | ⟨hr₁, h₁⟩
  · rw [h₁]
    exact iff_of_true rfl ⟨hr₁, Or.inl hl₁⟩
  · rw [h₁, Outcome.ok_bind, and_iff_right hr₁, or_iff_right hl₁]
    dsimp only
    rcases findSourceIn_cases hsdoc htype (hstream .vodProxy fun h => hst (Or.inr (Or.inl h)))
      sub.toDoc userVodsField with ⟨hr₂, hl₂, h₂⟩ | ⟨hr₂, hl₂, h₂⟩ | ⟨hr₂, h₂⟩
    · rw [h₂]
      exact iff_of_true rfl ⟨hr₂, Or.inl hl₂⟩
    · rw [h₂, Outcome.ok_bind, and_iff_right hr₂, or_iff_right hl₂]
      dsimp only
      rcases findSourceIn_cases (b := true) hsdoc htype (catchupSource_of_findOutput hst hout)
        sub.toDoc userCatchupsField with ⟨hr₃, hl₃, h₃⟩ | ⟨hr₃, hl₃, h₃⟩ | ⟨hr₃, h₃⟩
      · rw [h₃]
        exact iff_of_true rfl ⟨hr₃, hl₃⟩
      · rw [h₃]
        exact iff_of_false (by simp) fun h => hl₃ h.2
      · rw [h₃]
        exact iff_of_false (by simp) fun h => hr₃ h.1
    · rw [h₂]
      exact iff_of_false (by simp) fun h => hr₂ h.1
  · rw [h₁]
    exact iff_of_false (by simp) fun h => hr₁ h.1

/-! ### What a run leaves of a stream -/

omit [Fastotv] in
/-- Besides the counter and the parts a stream is what it was. -/
theorem Evolves.get?_stream {db db' : Database} (h : Evolves db db') {x : Oid} {d : StoredDoc}
    (hd : db.streams.findId? x = some d) : ∃ d', db'.streams.findId? x = some d' ∧
      ∀ k, k ≠ idField → k ≠ streamViewCountField → k ≠ streamPartsField →
        d'.toDoc.get? k = d.toDoc.get? k := by
  obtain ⟨d', hd', hfollows⟩ := h.streams.findId? hd
  refine ⟨d', hd', fun k hid hcount hparts => ?_⟩
  have hsame : (streamPolicy k).rel (d.fields.get? k) (d'.fields.get? k) := hfollows.2 k
  unfold streamPolicy at hsame
  rw [if_neg hcount, if_neg hparts] at hsame
  rw [StoredDoc.get?_toDoc hid, StoredDoc.get?_toDoc hid]
  exact hsame

/-! ### What the requester is told -/

variable {s : State} {client : ClientId} {sur : Surroundings} {id : RequestId}
  {catGen : CatchupGenerateInfo} {r : Recording}

/-- What the recording of a request is. -/
theorem recording?_request
    (h : recording? s (.request client sur ⟨id, .generateCatchup (.decoded catGen)⟩) = some r) :
    r.id = sur.fresh ∧ r.outputs = channelOutputs sur.toEnv s.db catGen.streamId ∧
      s.db.streams.findId? r.id = none ∧
      ((Event.request client sur ⟨id, .generateCatchup (.decoded catGen)⟩).action.run
        s).2.db.streams.findId? r.id = some r.doc := by
  unfold recording? at h
  dsimp only at h
  split at h
  · next d hnew hd =>
    obtain rfl := Option.some.inj h
    exact ⟨rfl, rfl, hnew, hd⟩
  · cases h

/-- A new catchup is of the type for catchups. -/
theorem streamType?_recording
    (h : recording? s (.request client sur ⟨id, .generateCatchup (.decoded catGen)⟩) = some r) :
    streamType? r.doc.toDoc = some .catchup := by
  obtain ⟨-, -, hnew, hd⟩ := recording?_request h
  obtain ⟨-, auth, ch, bsid, serverOid, outputUrls, c, -, -, hdoc⟩ := newStream_of_request hnew hd
  rw [hdoc]
  rfl

/-- The outputs that a creation takes over are those of the channel. -/
theorem channelOutputs_of_origin {env : Env} {endpoint : CatchupEndpointInfo} {db : Database}
    {auth : ServerDBAuthInfo} {sid : StreamId} {ch : ChannelInfo} {bsid serverOid : Oid}
    {outputUrls : List OutputUri} (hch : findStream env db auth sid = .ok ch)
    (horigin : ((catchupOrigin env endpoint ch).run db).1 = .ok (bsid, outputUrls, serverOid)) :
    channelOutputs env db sid = outputUrls := by
  obtain ⟨-, channel, -, -, -, hchannel, -, -, hid, -⟩ := findStream_eq_ok hch
  obtain ⟨hbsid, ⟨sdoc, hsdoc, houts⟩, -⟩ := catchupOrigin_found horigin
  rw [hid, convertFromString_text] at hbsid
  obtain rfl := Option.some.inj hbsid
  unfold channelOutputs
  rw [hchannel, Option.bind_some, hsdoc, Option.bind_some, houts]
  rfl

/-- What is told of a catchup that a request created. -/
theorem created_of_new {env : Env} {endpoint : CatchupEndpointInfo} {db db₁ : Database}
    {auth : ServerDBAuthInfo} {sid : StreamId} {title : String} {start stop : Timestamp}
    {created : CreatedCatchup}
    (hrun : (createCatchup env endpoint auth sid title start stop).run db = (.ok created, db₁))
    (hnew : db₁.streams ≠ db.streams) : created.cat.streamId = env.fresh.text ∧
      created.cat.epg.urls = (patchedOutputs (channelOutputs env db sid) env.fresh.text
        endpoint).map OutputUri.url := by
  rcases createCatchup_cases env endpoint auth sid title start stop db with
    ⟨-, hno, -⟩ | ⟨ch, hch, hcreate⟩
  · rw [hrun] at hno
    exact absurd rfl (hno created)
  rw [hcreate] at hrun
  have hways := catchupRun env endpoint ch title start stop db
  rw [hrun] at hways
  generalize hres : Outcome.ok created = o at hways
  cases hways with
  | found => exact absurd rfl hnew
  | refused hno => exact absurd hres.symm (hno created)
  | unlinked => cases hres
  | unattached => cases hres
  | created hlinked =>
    obtain rfl := Outcome.ok.inj hres
    rw [channelOutputs_of_origin hch hlinked.origin]
    exact ⟨rfl, rfl⟩

/-- What is handed out is what was created. -/
theorem eq_of_handedOut {created : CreatedCatchup} {cat : CatchupInfo}
    (h : .reply client id (.catchupGenerateSuccess cat) ∈ announcement created ++
      told sur client id (.catchupGenerateSuccess created.cat)) : cat = created.cat := by
  rcases List.mem_append.mp h with hannounced | htold
  · unfold announcement at hannounced
    split at hannounced
    · cases List.mem_singleton.mp hannounced
    · cases hannounced
  · unfold told at htold
    split at htold
    · exact Reply.catchupGenerateSuccess.inj (Output.reply.inj (List.mem_singleton.mp htold)).2.2
    · cases htold

theorem streams_addUserCatchup {env : Env} {auth : ServerDBAuthInfo} {sid : StreamId}
    {db db' : Database} {o : Outcome Error Unit}
    (h : (addUserCatchup env auth sid).run db = (o, db')) : db'.streams = db.streams := by
  rcases addUserCatchup_cases h with ⟨rfl, -⟩ | ⟨-, -, -, -, -, -, -, -, -, rfl⟩
  · rfl
  · rfl

/-- Whoever asked for a catchup that is new is told its id and the urls of its outputs. -/
theorem told_recording {outs : List Output} {cat : CatchupInfo}
    (h : recording? s (.request client sur ⟨id, .generateCatchup (.decoded catGen)⟩) = some r)
    (hsent : ((Event.request client sur
      ⟨id, .generateCatchup (.decoded catGen)⟩).action.run s).2.sent = s.sent ++ outs)
    (hcat : .reply client id (.catchupGenerateSuccess cat) ∈ outs) :
    cat.streamId = r.id.text ∧ cat.epg.urls =
      (patchedOutputs r.outputs r.id.text s.catchupEndpoint).map OutputUri.url := by
  obtain ⟨hid, houtputs, hnew, hd⟩ := recording?_request h
  by_cases hopen : (s.clients client).any (fun c => c.kind = .subscriber) = true
  · obtain ⟨c, hc, -⟩ := (Option.any_eq_true _ _).mp hopen
    rw [run_action_request hopen] at hsent hd
    have hways := generateRun hc sur id (.decoded catGen)
    have hhandler : handleRequestCommand sur client ⟨id, .generateCatchup (.decoded catGen)⟩ =
        handleRequestGenerateCatchup sur client id (.decoded catGen) := rfl
    rw [hhandler] at hsent hd
    generalize (handleRequestGenerateCatchup sur client id (.decoded catGen)).run s = res
      at hways hsent hd
    have hnot (happends : Appends NotHandedOut s res.2) : False := by
      obtain ⟨outs', hsent', houts'⟩ := happends
      rw [hsent', List.append_cancel_left_eq] at hsent
      exact houts' _ (hsent ▸ hcat)
    cases hways with
    | closed _ _ happends => exact (hnot happends).elim
    | refused hparams => exact absurd rfl (hparams catGen)
    | failed _ _ _ _ _ happends => exact (hnot happends).elim
    | notAdded _ _ _ _ _ _ happends => exact (hnot happends).elim
    | handedOut hlogin hparams hcreate hadd _ hdb hsent' =>
      obtain rfl := Params.decoded.inj hparams
      -- The push to the subscriber leaves the streams, so the creation added the new one.
      have hstreams := streams_addUserCatchup hadd
      have hadded := created_of_new hcreate fun hsame => by
        rw [hdb, hstreams, hsame, hnew] at hd
        cases hd
      rw [hsent', List.append_assoc, List.append_cancel_left_eq] at hsent
      rw [← hsent] at hcat
      rw [hid, houtputs, eq_of_handedOut hcat]
      exact hadded
  · rw [run_action_request_of_not (by simpa using hopen)] at hd
    cases hnew.symm.trans hd

/-! ### What is given later -/

/-- The source of an output that has its place. -/
theorem HasPlace.source {endpoint : CatchupEndpointInfo} {base tail : String} {d : Doc} {x : Oid}
    {cid : ChannelId} (h : HasPlace endpoint base tail d x cid) : ∃ out dir url,
      findOutput d cid = some out ∧ out.httpRoot = some dir ∧ out.url = url ∧
        dir.path = endpoint.catchupsHttpRoot.path ++ catchupPath x cid ++ tail ∧
        url.spec = base ++ catchupPath x cid ++ "/master.m3u8" := by
  obtain ⟨dir, hdir, hpath⟩ := h.directory .catchup
  obtain ⟨url, hurl, hspec⟩ := h.url .catchup
  unfold getHttpRootFromStream at hdir
  unfold getUrlFromStream at hurl
  obtain ⟨out, hout, hroot⟩ := Option.bind_eq_some_iff.mp hdir
  rw [hout] at hurl
  exact ⟨out, dir, url, hout, hroot, Option.some.inj hurl, hpath, hspec⟩

omit [Fastotv] in
theorem expectedSource_eq {env : Env} {out : OutputUri} {dir : Directory}
    (hroot : out.httpRoot = some dir) : expectedSource env out =
      if env.isDirectoryExist dir = true then .directory dir else .url out.url := by
  unfold expectedSource
  rw [hroot]
  by_cases hdir : env.isDirectoryExist dir = true
  · simp [Option.filter, hdir]
  · simp [Option.filter, hdir]

variable [License]

/-- **A catchup is served where it was recorded.**  Of a catchup that was created for a request, a
success reply to it tells the id, and the urls of its outputs.  After whatever has happened since,
as long as nobody else writes to the database, a subscriber that asks for an output is given the
directory that it is recorded in, or its url when this host has no such directory, if and only if
the search through its arrays gets to the catchup; and both are those on the endpoint of the time
when it was created. -/
theorem catchup_served (s s' : Service) (client : ClientId) (sur : Surroundings) (id : RequestId)
    (catGen : CatchupGenerateInfo) (fs : List ServiceEvent) (r : Recording) (base tail : String)
    (laws : EndpointLaws s.catchupEndpoint base tail)
    (hcreated : recording? s.toState
      (.request client sur ⟨id, .generateCatchup (.decoded catGen)⟩) = some r)
    (hown : ∀ e ∈ fs, e.IsOwn)
    (hrun : run serviceStep (some s) (.other
      (.request client sur ⟨id, .generateCatchup (.decoded catGen)⟩) trivial :: fs) = some s') :
    (∀ outs cat, ((Event.request client sur
        ⟨id, .generateCatchup (.decoded catGen)⟩).action.run s.toState).2.sent = s.sent ++ outs →
      .reply client id (.catchupGenerateSuccess cat) ∈ outs → cat.streamId = r.id.text ∧
        cat.epg.urls.map Gurl.spec =
          r.outputs.map fun out => base ++ catchupPath r.id out.id ++ "/master.m3u8") ∧
    ∀ cid ∈ r.outputs.map OutputUri.id, ∃ dir url,
      dir.path = s.catchupEndpoint.catchupsHttpRoot.path ++ catchupPath r.id cid ++ tail ∧
      url.spec = base ++ catchupPath r.id cid ++ "/master.m3u8" ∧
      ∀ env auth sub, Fastotv.authValid auth = true → r.id.text ≠ Fastotv.invalidStreamId →
        findByEmail s'.db auth.login = some sub →
        (clientFindHttpDirectoryOrUrlForChannel env s'.db auth r.id.text cid =
            .ok (if env.isDirectoryExist dir = true then .directory dir else .url url) ↔
          ∃ arr, SourceIn sub.toDoc r.id arr) := by
  refine ⟨fun outs cat hsent hcat => ?_, fun cid hcid => ?_⟩
  · obtain ⟨hsid, hurls⟩ := told_recording hcreated hsent hcat
    refine ⟨hsid, ?_⟩
    unfold patchedOutputs at hurls
    rw [hurls, List.map_map, List.map_map]
    exact List.map_congr_left fun out _ => laws.shown _ (plain_catchupPath r.id out.id)
  · -- The document, as it was inserted and as it is now.
    obtain ⟨-, -, -, hdoc⟩ := recording?_request hcreated
    rw [run_cons] at hrun
    cases hs₁ : serviceStep (some s) (.other
        (.request client sur ⟨id, .generateCatchup (.decoded catGen)⟩) trivial) with
    | none =>
      rw [hs₁, run_gone fun _ => rfl] at hrun
      cases hrun
    | some s₁ =>
      rw [hs₁] at hrun
      obtain ⟨-, rfl⟩ := serviceStep_eq_some_iff.mp hs₁
      obtain ⟨d, hd, hsame⟩ := (evolves_serviceRun hown hrun).get?_stream hdoc
      have houtput : d.toDoc.get? streamOutputField =
          some (createOutputUrl (patchedOutputs r.outputs r.id.text s.catchupEndpoint)) := by
        rw [hsame _ (by decide) (by decide) (by decide)]
        exact output_of_recording hcreated
      have htype : streamType? d.toDoc = some .catchup := by
        unfold streamType?
        rw [hsame _ (by decide) (by decide) (by decide)]
        exact streamType?_recording hcreated
      obtain ⟨out, dir, url, hout, hroot, rfl, hpath, hspec⟩ :=
        (places_of_outputs laws houtput hcid).source
      refine ⟨dir, out.url, hpath, hspec, fun env auth sub hauth hsid hsub => ?_⟩
      rw [← expectedSource_eq hroot]
      exact source_iff_of_httpRoot hauth hsid hsub hd htype (by simp [StreamType.IsRemote]) hout
        (by rw [hroot]; rfl)

end

/-! A catchup is recorded, and then the catchups get another place. -/

namespace Sample

/-- The service with the subscriber logged in. -/
def watchedService : Service :=
  { Service.initial recordedStart (some "key") with
    clients := fun client => if client = 7 then some ⟨.subscriber, some login, ""⟩ else none }

def movedEvents : List ServiceEvent := activation ++ [.received 9 daemonSur prepareRequest]

theorem isOwn_movedEvents : ∀ e ∈ movedEvents, e.IsOwn := by
  simp only [movedEvents, activation, List.cons_append, List.nil_append, List.forall_mem_cons]
  exact ⟨trivial, trivial, trivial, trivial, List.forall_mem_nil _⟩

end Sample

open Sample in
theorem catchup_served_sample :
    ∃ r s', @recording? slashed watchedService.toState (newsRequest 10 20) = some r ∧
      run (@serviceStep slashed license) (some watchedService)
        (.other (newsRequest 10 20) trivial :: movedEvents) = some s' ∧
      s'.catchupEndpoint = ⟨⟨"cdn", 80⟩, ⟨"/cdn"⟩⟩ ∧
      ∃ dir url, dir.path = "/catchups/" ++ @catchupPath slashed r.id 1 ++ "/" ∧
        url.spec = "http://catchups:80/" ++ @catchupPath slashed r.id 1 ++ "/master.m3u8" ∧
        @clientFindHttpDirectoryOrUrlForChannel slashed env s'.db auth r.id.text 1 =
          .ok (if env.isDirectoryExist dir = true then .directory dir else .url url) := by
  let _ := slashed
  obtain ⟨r, hr, hid, hcids⟩ : ∃ r ∈ recording? watchedService.toState (newsRequest 10 20),
      r.id = oid 15 ∧ r.outputs.map OutputUri.id = [1, 2] := by
    decide +kernel
  obtain ⟨s', hs', hmoved, sub, hsub, hsids, hlists⟩ :
      ∃ s' ∈ run serviceStep (some watchedService)
          (.other (newsRequest 10 20) trivial :: movedEvents),
        s'.catchupEndpoint = ⟨⟨"cdn", 80⟩, ⟨"/cdn"⟩⟩ ∧
        ∃ sub ∈ findByEmail s'.db auth.login,
          (∀ arr ∈ [userStreamsField, userVodsField, userCatchupsField],
            ∀ e ∈ arrayField sub.toDoc arr, (entrySid? e).isSome = true) ∧
          ∃ arr ∈ [userStreamsField, userVodsField, userCatchupsField],
            ∃ e ∈ arrayField sub.toDoc arr, entrySid? e = some (oid 15) := by
    decide +kernel
  obtain ⟨-, hserved⟩ := catchup_served watchedService s' 7 sur (some "2")
    ⟨(oid 2).text, "Evening news", 10, 20⟩ movedEvents r "http://catchups:80/" "/"
    endpointLaws_slashed hr isOwn_movedEvents hs'
  obtain ⟨dir, url, hdir, hurl, hiff⟩ := hserved 1 (by simp [hcids])
  refine ⟨r, s', hr, hs', hmoved, dir, url, hdir, hurl, ?_⟩
  rw [hid] at hiff ⊢
  exact (hiff env auth sub (by decide) (by decide) hsub).mpr
    (exists_sourceIn_of_listsStream hsids hlists)

end LoadBalance
