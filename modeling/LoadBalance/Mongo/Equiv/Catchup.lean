import LoadBalance.Mongo.Catchup
import LoadBalance.Mongo.Equiv.ClientGetChannels

/-!
# What creating a catchup leaves behind

`createOrFindCatchup` makes three writes one after another: it inserts the stream document, links
it to the channel and attaches it to the channel's server.  It can stop before each of them, so
there are five ways to end (`CatchupRun`, `catchupRun`).  When it does not stop, the document that
it inserted decodes as a catchup, but not always as the one that the requester was told about
(`catchup_decodes_as_replied_iff`).
-/

namespace LoadBalance

open LoadBalance.Action

section

variable [Fastotv] {env : Env} {endpoint : CatchupEndpointInfo} {basedOn : ChannelInfo}
  {title : String} {start stop : Timestamp} {db db' : Database}

/-! ### The ways to end -/

/-- Looking for the documents of the channel changes nothing. -/
theorem readsOnly_catchupOrigin (env : Env) (endpoint : CatchupEndpointInfo)
    (basedOn : ChannelInfo) : ReadsOnly (catchupOrigin env endpoint basedOn) := by
  unfold catchupOrigin
  split_ifs
  · exact within_fail _
  · refine within_bind (within_orFail _ _) fun bsid => ?_
    refine within_bind (within_reads _) fun sdoc => ?_
    refine within_bind (within_orFail _ _) fun sdoc => ?_
    refine within_bind (within_reads _) fun server => ?_
    refine within_bind (within_orFail _ _) fun server => ?_
    refine within_bind (within_orFail _ _) fun serverOid => ?_
    refine within_bind (within_orFail _ _) fun st => ?_
    exact within_bind (within_orFail _ _) fun outputUrls => within_pure _

/-- The documents that are found are those of the channel, which has the outputs, and of a
server. -/
theorem catchupOrigin_found {bsid serverOid : Oid} {outputUrls : List OutputUri}
    (h : ((catchupOrigin env endpoint basedOn).run db).1 = .ok (bsid, outputUrls, serverOid)) :
    convertFromString env.beyond basedOn.streamId = some bsid ∧
      (∃ sdoc, db.streams.findId? bsid = some sdoc ∧
        (sdoc.toDoc.get? streamOutputField).bind getOutputUrlData = some outputUrls) ∧
      ∃ server a, db.servers.findId? serverOid = some server ∧
        server.fields.get? serverStreamsField = some (.array a) := by
  have hrun : (catchupOrigin env endpoint basedOn).run db =
      (.ok (bsid, outputUrls, serverOid), db) :=
    Prod.ext h (readsOnly_catchupOrigin env endpoint basedOn db).symm
  unfold catchupOrigin at hrun
  split_ifs at hrun
  · cases hrun
  · obtain ⟨bsid', s, hb, hrun⟩ := run_bind_eq_ok.mp hrun
    obtain ⟨hbsid, rfl⟩ := run_orFail_eq_ok.mp hb
    obtain ⟨sdoc?, s, hs, hrun⟩ := run_bind_eq_ok.mp hrun
    rw [run_mongoFind, Prod.mk.injEq, Outcome.ok.injEq] at hs
    obtain ⟨rfl, rfl⟩ := hs
    obtain ⟨sdoc, s, hs, hrun⟩ := run_bind_eq_ok.mp hrun
    obtain ⟨hs, rfl⟩ := run_orFail_eq_ok.mp hs
    obtain ⟨server?, s, hv, hrun⟩ := run_bind_eq_ok.mp hrun
    rw [run_mongoFind, Prod.mk.injEq, Outcome.ok.injEq] at hv
    obtain ⟨rfl, rfl⟩ := hv
    obtain ⟨server, s, hv, hrun⟩ := run_bind_eq_ok.mp hrun
    obtain ⟨hv, rfl⟩ := run_orFail_eq_ok.mp hv
    obtain ⟨serverOid', s, hid, hrun⟩ := run_bind_eq_ok.mp hrun
    obtain ⟨hoid, rfl⟩ := run_orFail_eq_ok.mp hid
    obtain ⟨st, s, hst, hrun⟩ := run_bind_eq_ok.mp hrun
    obtain ⟨-, rfl⟩ := run_orFail_eq_ok.mp hst
    obtain ⟨outs, s, ho, hrun⟩ := run_bind_eq_ok.mp hrun
    obtain ⟨houts, rfl⟩ := run_orFail_eq_ok.mp ho
    simp only [run_pure, Prod.mk.injEq, Outcome.ok.injEq] at hrun
    obtain ⟨⟨rfl, rfl, rfl⟩, -⟩ := hrun
    -- The query looked into the array of the server.
    obtain ⟨a, ha⟩ : ∃ a, server.fields.get? serverStreamsField = some (.array a) := by
      have hquery := (Collection.find?_eq_some_iff.mp hv).1
      unfold Doc.fieldMatches at hquery
      rw [StoredDoc.get?_toDoc (by decide)] at hquery
      cases hget : server.fields.get? serverStreamsField with
      | none =>
        rw [hget] at hquery
        cases hquery
      | some v =>
        rw [hget] at hquery
        cases v with
        | array a => exact ⟨a, rfl⟩
        | _ => cases hquery
    exact ⟨hbsid, ⟨sdoc, hs, houts⟩, server, a,
      Collection.findId?_of_mem (Collection.mem_of_find? hv) (Bson.asOid?_eq_some.mp hoid), ha⟩

theorem catchupOrigin_ok {bsid serverOid : Oid} {outputUrls : List OutputUri}
    (h : ((catchupOrigin env endpoint basedOn).run db).1 = .ok (bsid, outputUrls, serverOid)) :
    convertFromString env.beyond basedOn.streamId = some bsid ∧
      (∃ sdoc, db.streams.findId? bsid = some sdoc) ∧
      ∃ server a, db.servers.findId? serverOid = some server ∧
        server.fields.get? serverStreamsField = some (.array a) := by
  obtain ⟨hbsid, ⟨sdoc, hsdoc, -⟩, hserver⟩ := catchupOrigin_found h
  exact ⟨hbsid, ⟨sdoc, hsdoc⟩, hserver⟩

/-- The outputs of a new catchup. -/
def catchupUrls (env : Env) (endpoint : CatchupEndpointInfo) (outputUrls : List OutputUri) :
    List OutputUri :=
  patchedOutputs outputUrls env.fresh.text endpoint

/-- The fields of the document that is inserted. -/
def newCatchupDoc (env : Env) (endpoint : CatchupEndpointInfo) (basedOn : ChannelInfo)
    (title : String) (start stop : Timestamp) (outputUrls : List OutputUri) : Doc :=
  catchupDoc env basedOn title start stop (createOutputUrl (catchupUrls env endpoint outputUrls))
    outputUrls

/-- No part is the catchup, its origin is found, and its document was inserted, which gives `c`. -/
structure CatchupInserted (env : Env) (endpoint : CatchupEndpointInfo) (basedOn : ChannelInfo)
    (title : String) (start stop : Timestamp) (db : Database) (bsid serverOid : Oid)
    (outputUrls : List OutputUri) (c : Collection) : Prop where
  part : findPart env db title start stop basedOn.parts = .ok none
  origin : ((catchupOrigin env endpoint basedOn).run db).1 = .ok (bsid, outputUrls, serverOid)
  write : env.write .insertStream = true
  insert : db.streams.insert env.fresh
    (newCatchupDoc env endpoint basedOn title start stop outputUrls)
    (no_id_catchupDoc _ _ _ _ _ _ _) = some c

/-- The origin and the new collection are determined. -/
theorem CatchupInserted.unique {bsid bsid' serverOid serverOid' : Oid}
    {outputUrls outputUrls' : List OutputUri} {c c' : Collection}
    (h : CatchupInserted env endpoint basedOn title start stop db bsid serverOid outputUrls c)
    (h' : CatchupInserted env endpoint basedOn title start stop db bsid' serverOid' outputUrls'
      c') : bsid = bsid' ∧ serverOid = serverOid' ∧ outputUrls = outputUrls' ∧ c = c' := by
  have heq := h.origin.symm.trans h'.origin
  rw [Outcome.ok.injEq, Prod.mk.injEq, Prod.mk.injEq] at heq
  obtain ⟨rfl, rfl, rfl⟩ := heq
  exact ⟨rfl, rfl, rfl, Option.some.inj (h.insert.symm.trans h'.insert)⟩

/-- The document was also linked to its channel, which gives `c'`. -/
structure CatchupLinked (env : Env) (endpoint : CatchupEndpointInfo) (basedOn : ChannelInfo)
    (title : String) (start stop : Timestamp) (db : Database) (bsid serverOid : Oid)
    (outputUrls : List OutputUri) (c c' : Collection) : Prop
    extends CatchupInserted env endpoint basedOn title start stop db bsid serverOid outputUrls c
    where
  linkWrite : env.write .linkPart = true
  link : c.update (StoredDoc.hasId bsid) streamPartsField parts_ne_id (pushOp (.oid env.fresh)) =
    some c'

/-- The ways in which `createOrFindCatchup` ends on the database `db`. -/
inductive CatchupRun (env : Env) (endpoint : CatchupEndpointInfo) (basedOn : ChannelInfo)
    (title : String) (start stop : Timestamp) (db : Database) :
    Outcome Error CreatedCatchup → Database → Prop where
  /-- A part is the catchup. -/
  | found {orig : CatchupInfo}
      (hpart : findPart env db title start stop basedOn.parts = .ok (some orig)) :
      CatchupRun env endpoint basedOn title start stop db (.ok ⟨"", orig, false⟩) db
  /-- Nothing was written. -/
  | refused {o : Outcome Error CreatedCatchup} (h : ∀ c, o ≠ .ok c)
      (hno : ∀ bsid serverOid outputUrls c, ¬CatchupInserted env endpoint basedOn title start stop
        db bsid serverOid outputUrls c) :
      CatchupRun env endpoint basedOn title start stop db o db
  /-- The document was inserted, and nothing points to it. -/
  | unlinked {bsid serverOid : Oid} {outputUrls : List OutputUri} {c : Collection}
      (hinserted : CatchupInserted env endpoint basedOn title start stop db bsid serverOid
        outputUrls c)
      (hlink : env.write .linkPart = false ∨ c.update (StoredDoc.hasId bsid) streamPartsField
        parts_ne_id (pushOp (.oid env.fresh)) = none) :
      CatchupRun env endpoint basedOn title start stop db (.error .driver) (db.set .streams c)
  /-- It was linked as well, but not attached to a server. -/
  | unattached {bsid serverOid : Oid} {outputUrls : List OutputUri} {c c' : Collection}
      (hlinked : CatchupLinked env endpoint basedOn title start stop db bsid serverOid outputUrls
        c c')
      (hattach : env.write .attachServer = false) :
      CatchupRun env endpoint basedOn title start stop db (.error .driver) (db.set .streams c')
  /-- All three writes went through. -/
  | created {bsid serverOid : Oid} {outputUrls : List OutputUri} {c c' servers : Collection}
      (hlinked : CatchupLinked env endpoint basedOn title start stop db bsid serverOid outputUrls
        c c')
      (hwrite : env.write .attachServer = true)
      (hattach : db.servers.update (StoredDoc.hasId serverOid) serverStreamsField
        serverStreams_ne_id (pushOp (.oid env.fresh)) = some servers) :
      CatchupRun env endpoint basedOn title start stop db
        (.ok ⟨serverOid.text, catchupCopy basedOn env.fresh.text title
          (makeUrlsFromOutput (catchupUrls env endpoint outputUrls)) start stop, true⟩)
        ((db.set .streams c').set .servers servers)

/-- The server document that was found takes the push, since its array is one. -/
theorem attachServer_isSome {bsid serverOid x : Oid} {outputUrls : List OutputUri}
    (h : ((catchupOrigin env endpoint basedOn).run db).1 = .ok (bsid, outputUrls, serverOid)) :
    ∃ servers, db.servers.update (StoredDoc.hasId serverOid) serverStreamsField
      serverStreams_ne_id (pushOp (.oid x)) = some servers := by
  obtain ⟨-, -, server, a, hserver, ha⟩ := catchupOrigin_ok h
  refine Collection.update_isSome fun d hd hquery => ?_
  rw [Collection.findId?_of_mem hd (StoredDoc.hasId_iff.mp hquery), Option.some.injEq] at hserver
  subst hserver
  rw [ha]
  rfl

theorem catchupRun (env : Env) (endpoint : CatchupEndpointInfo) (basedOn : ChannelInfo)
    (title : String) (start stop : Timestamp) (db : Database) :
    CatchupRun env endpoint basedOn title start stop db
      ((createOrFindCatchup env endpoint basedOn title start stop).run db).1
      ((createOrFindCatchup env endpoint basedOn title start stop).run db).2 := by
  unfold createOrFindCatchup
  rw [run_bind, run_reads]
  cases hpart : findPart env db title start stop basedOn.parts with
  | abort =>
    exact .refused (by simp) fun _ _ _ _ h => absurd (hpart.symm.trans h.part) (by simp)
  | error e =>
    exact .refused (by simp) fun _ _ _ _ h => absurd (hpart.symm.trans h.part) (by simp)
  | ok found =>
    cases found with
    | some orig => exact .found hpart
    | none =>
      dsimp only
      rw [run_bind]
      have hstate := (readsOnly_catchupOrigin env endpoint basedOn db).symm
      rcases horigin : (catchupOrigin env endpoint basedOn).run db with ⟨o, s⟩
      rw [horigin] at hstate
      obtain rfl : s = db := hstate
      have horigin' := congrArg Prod.fst horigin
      have hno : ∀ {o : Outcome Error (Oid × List OutputUri × Oid)}, (∀ r, o ≠ .ok r) →
          ((catchupOrigin env endpoint basedOn).run s).1 = o → ∀ bsid serverOid outputUrls c,
          ¬CatchupInserted env endpoint basedOn title start stop s bsid serverOid outputUrls c :=
        fun hne ho _ _ _ _ h => hne _ (ho.symm.trans h.origin)
      cases o with
      | abort => exact .refused (by simp) (hno (by simp) horigin')
      | error e => exact .refused (by simp) (hno (by simp) horigin')
      | ok r =>
        obtain ⟨bsid, outputUrls, serverOid⟩ := r
        dsimp only [createCatchupOutputUrl]
        rw [run_bind]
        rcases hinsert : (mongoInsert env .insertStream .streams env.fresh
          (newCatchupDoc env endpoint basedOn title start stop outputUrls)
          (no_id_catchupDoc _ _ _ _ _ _ _)).run s with ⟨o, db₁⟩
        have hinsert' := hinsert
        unfold newCatchupDoc catchupUrls at hinsert'
        rw [hinsert']
        rcases writeBack_cases hinsert with ⟨hw, c, hc, rfl, rfl⟩ | ⟨hfail, rfl, rfl⟩
        · have hinserted : CatchupInserted env endpoint basedOn title start stop s bsid serverOid
              outputUrls c := ⟨hpart, horigin', hw, hc⟩
          dsimp only
          rw [run_bind]
          rcases hlink : (mongoUpdate env .linkPart .streams (StoredDoc.hasId bsid)
            streamPartsField parts_ne_id (pushOp (.oid env.fresh))).run (s.set .streams c)
            with ⟨o, db₂⟩
          rcases writeBack_cases hlink with ⟨hw', c', hc', rfl, rfl⟩ | ⟨hfail, rfl, rfl⟩
          · have hlinked : CatchupLinked env endpoint basedOn title start stop s bsid serverOid
                outputUrls c c' := ⟨hinserted, hw', hc'⟩
            dsimp only
            rw [run_bind]
            rcases hattach : (addStreamToServer env serverOid env.fresh).run
              ((s.set .streams c).set .streams c') with ⟨o, db₃⟩
            unfold addStreamToServer at hattach
            rcases writeBack_cases hattach with ⟨hw'', servers, hs, rfl, rfl⟩ | ⟨hfail, rfl, rfl⟩
            · exact .created hlinked hw'' hs
            · refine .unattached hlinked (hfail.resolve_right fun hnone => ?_)
              obtain ⟨servers, hs⟩ := attachServer_isSome (x := env.fresh) horigin'
              exact absurd (hnone.symm.trans hs) (by simp)
          · exact .unlinked hinserted hfail
        · -- The insert did not go through, or was refused.
          refine .refused (by simp) fun bsid' serverOid' outputUrls' c h => ?_
          have heq := horigin'.symm.trans h.origin
          rw [Outcome.ok.injEq, Prod.mk.injEq, Prod.mk.injEq] at heq
          obtain ⟨rfl, rfl, rfl⟩ := heq
          rcases hfail with hw | hnone
          · rw [h.write] at hw
            cases hw
          · exact absurd (hnone.symm.trans h.insert) (by simp)

/-! ### The new document -/

section

variable {bsid : Oid} {doc : Doc} {hdoc : idField ∉ Doc.keys doc} {c c' : Collection}

omit [Fastotv] in
/-- The channel is not the catchup, whose id is new. -/
theorem ne_fresh_of_insert {sdoc : StoredDoc} (hchannel : db.streams.findId? bsid = some sdoc)
    (hinsert : db.streams.insert env.fresh doc hdoc = some c) : bsid ≠ env.fresh := by
  rintro rfl
  rw [(Collection.insert_cases hinsert).1] at hchannel
  cases hchannel

omit [Fastotv] in
/-- Linking the catchup leaves its document as it was inserted. -/
theorem findId?_fresh {sdoc : StoredDoc} (hchannel : db.streams.findId? bsid = some sdoc)
    (hinsert : db.streams.insert env.fresh doc hdoc = some c)
    (hlink : c.update (StoredDoc.hasId bsid) streamPartsField parts_ne_id
      (pushOp (.oid env.fresh)) = some c') :
    c'.findId? env.fresh = some ⟨.oid env.fresh, doc, hdoc⟩ := by
  have hne := ne_fresh_of_insert hchannel hinsert
  obtain ⟨-, -, hfresh, -⟩ := Collection.insert_cases hinsert
  have hquery : ∀ d : StoredDoc, d.hasId bsid = true → d.id = .oid bsid :=
    fun d hd => StoredDoc.hasId_iff.mp hd
  rcases Collection.update_cases hquery hlink with ⟨-, rfl⟩ | ⟨d, d', v, -, -, -, -, -, -, hother⟩
  · exact hfresh
  · rw [hother _ (Ne.symm hne), hfresh]

end

/-- A stream that a creation adds is the catchup, as it was inserted: the link is written into the
document of the channel. -/
theorem CatchupRun.inserted {o : Outcome Error CreatedCatchup} {x : Oid} {d : StoredDoc}
    (h : CatchupRun env endpoint basedOn title start stop db o db')
    (hnew : db.streams.findId? x = none) (hd : db'.streams.findId? x = some d) :
    x = env.fresh ∧ ∃ bsid serverOid outputUrls c, CatchupInserted env endpoint basedOn title
      start stop db bsid serverOid outputUrls c ∧
      d = ⟨.oid env.fresh, newCatchupDoc env endpoint basedOn title start stop outputUrls,
        no_id_catchupDoc _ _ _ _ _ _ _⟩ := by
  have hlinked : ∀ {bsid serverOid : Oid} {outputUrls : List OutputUri} {c c' : Collection},
      CatchupLinked env endpoint basedOn title start stop db bsid serverOid outputUrls c c' →
      c'.findId? x = some d → x = env.fresh ∧ d = ⟨.oid env.fresh,
        newCatchupDoc env endpoint basedOn title start stop outputUrls,
        no_id_catchupDoc _ _ _ _ _ _ _⟩ := by
    intro bsid serverOid outputUrls c c' h hd
    obtain ⟨-, ⟨channel, hchannel⟩, -⟩ := catchupOrigin_ok h.origin
    obtain ⟨-, -, -, hother⟩ := Collection.insert_cases h.insert
    by_cases hx : x = env.fresh
    · subst hx
      rw [findId?_fresh hchannel h.insert h.link, Option.some.injEq] at hd
      exact ⟨rfl, hd.symm⟩
    · -- Any other document of the linked collection has been there before.
      rw [← hother x hx] at hnew
      rcases Collection.findId?_update h.link x with hsame | ⟨d₀, -, -, hd₀, -⟩
      · rw [hsame, hnew] at hd
        cases hd
      · rw [hnew] at hd₀
        cases hd₀
  cases h with
  | found =>
    rw [hnew] at hd
    cases hd
  | refused =>
    rw [hnew] at hd
    cases hd
  | @unlinked _ _ _ c hinserted =>
    obtain ⟨-, -, hfresh, hother⟩ := Collection.insert_cases hinserted.insert
    change c.findId? x = some d at hd
    by_cases hx : x = env.fresh
    · subst hx
      rw [hfresh, Option.some.injEq] at hd
      exact ⟨rfl, _, _, _, _, hinserted, hd.symm⟩
    · rw [hother x hx, hnew] at hd
      cases hd
  | unattached h =>
    obtain ⟨hx, hdoc⟩ := hlinked h hd
    exact ⟨hx, _, _, _, _, h.toCatchupInserted, hdoc⟩
  | created h =>
    obtain ⟨hx, hdoc⟩ := hlinked h hd
    exact ⟨hx, _, _, _, _, h.toCatchupInserted, hdoc⟩

/-! ### Reading it back -/

/-- What the libraries promise of URLs: the text that is shown of a parsed one has no NUL in it,
and parsing it again shows the same. -/
structure GurlLaws : Prop where
  nulFree : ∀ x, NulFree (Fastotv.gurl x).spec
  spec_spec : ∀ x, (Fastotv.gurl (Fastotv.gurl x).spec).spec = (Fastotv.gurl x).spec

theorem GurlLaws.spec_cstr (laws : GurlLaws) (x : String) :
    (Fastotv.gurl (cstr (cstr (Fastotv.gurl x).spec))).spec = (Fastotv.gurl x).spec := by
  rw [cstr_cstr, cstr_eq_self_iff.mpr (laws.nulFree x), laws.spec_spec]

/-- An element of the output field gives an output with the url that was written. -/
theorem outputUri?_outputElement (out : OutputUri) :
    ∃ o, outputUri? (.document (outputElement out)) = some o ∧
      o.url = Fastotv.gurl (cstr (cstr out.url.spec)) := by
  unfold outputElement
  cases out.httpRoot <;> cases out.hlsType <;> exact ⟨_, rfl, rfl⟩

/-- The outputs that are read from the output field have the URLs that were written there. -/
theorem specs_of_createOutputUrl (laws : GurlLaws) {urls : List OutputUri}
    (hparsed : ∀ out ∈ urls, ∃ x, out.url = Fastotv.gurl x) :
    (makeUrlsFromOutput ((urls.map fun out => Bson.document (outputElement out)).filterMap
      outputUri?)).map Gurl.spec = (makeUrlsFromOutput urls).map Gurl.spec := by
  induction urls with
  | nil => rfl
  | cons out urls ih =>
    obtain ⟨⟨x, hx⟩, hrest⟩ := List.forall_mem_cons.mp hparsed
    obtain ⟨o, ho, hurl⟩ := outputUri?_outputElement out
    rw [List.map_cons, List.filterMap_cons, ho]
    simp only [makeUrlsFromOutput, List.map_cons, List.cons.injEq] at ih ⊢
    refine ⟨?_, ih hrest⟩
    rw [hurl, hx, laws.spec_cstr]

theorem parsed_of_mem_catchupUrls {outputUrls : List OutputUri} :
    ∀ out ∈ catchupUrls env endpoint outputUrls, ∃ x, out.url = Fastotv.gurl x := by
  intro out hout
  obtain ⟨o, -, rfl⟩ := List.mem_map.mp hout
  exact ⟨_, rfl⟩

/-- The fields of two infos that are to be the same: the URLs are compared as they are shown. -/
structure SameCatchup (info cat : CatchupInfo) : Prop where
  streamId : info.streamId = cat.streamId
  groups : info.groups = cat.groups
  iarc : info.iarc = cat.iarc
  displayName : info.epg.displayName = cat.epg.displayName
  tvgId : info.epg.tvgId = cat.epg.tvgId
  iconUrl : info.epg.iconUrl.spec = cat.epg.iconUrl.spec
  urls : info.epg.urls.map Gurl.spec = cat.epg.urls.map Gurl.spec
  enableAudio : info.enableAudio = cat.enableAudio
  enableVideo : info.enableVideo = cat.enableVideo
  viewCount : info.viewCount = cat.viewCount
  start : info.start = cat.start
  stop : info.stop = cat.stop

/-- The locals after the walk over a new catchup's document: the groups are lost in the inner
array, the texts end at their first NUL. -/
def newCatchupScan (env : Env) (endpoint : CatchupEndpointInfo) (basedOn : ChannelInfo)
    (title : String) (start stop : Timestamp) (outputUrls : List OutputUri) : StreamScan where
  sidStr := env.fresh.text
  groups := []
  iarc := basedOn.iarc
  viewCount := 0
  epg :=
    { tvgId := cstr (cstr basedOn.epg.tvgId)
      urls := makeUrlsFromOutput (((catchupUrls env endpoint outputUrls).map fun out =>
        Bson.document (outputElement out)).filterMap outputUri?)
      displayName := cstr (cstr title)
      iconUrl := Fastotv.gurl (cstr (cstr basedOn.epg.iconUrl.spec)) }
  mov := Fastotv.movieInfo
  parts := []
  metaUrls := []
  start := start
  stop := stop
  haveAudio := basedOn.enableAudio
  haveVideo := basedOn.enableVideo
  visible := true

theorem scanDoc_newCatchupDoc (uninit : Uninit) (outputUrls : List OutputUri)
    (hdoc : idField ∉ Doc.keys
      (newCatchupDoc env endpoint basedOn title start stop outputUrls)) :
    scanDoc catchupFields (StreamScan.init uninit) (StoredDoc.toDoc ⟨.oid env.fresh, _, hdoc⟩) =
      .ok (newCatchupScan env endpoint basedOn title start stop outputUrls, checkSumCatchup) := by
  rfl

theorem makeCatchupInfo_newCatchupDoc (uninit : Uninit) (outputUrls : List OutputUri)
    (st : StreamType) (u : UserStreamInfo) (hdoc : idField ∉ Doc.keys
      (newCatchupDoc env endpoint basedOn title start stop outputUrls)) :
    makeCatchupInfo uninit (StoredDoc.toDoc ⟨.oid env.fresh, _, hdoc⟩) st u =
      .ok (catchupDecoder.info
        (newCatchupScan env endpoint basedOn title start stop outputUrls) u, true) := by
  unfold makeCatchupInfo decodeStream
  rw [scanDoc_newCatchupDoc]
  rfl

/-- The flags of the channel are written under their names and told in the places of the
constructor in which the decoder puts them the other way round. -/
theorem sameFlags_newCatchupScan (s : StreamScan) (u : UserStreamInfo) (sid : StreamId)
    (title : String) (urls : List Gurl) (start stop : Timestamp)
    (haudio : s.haveAudio = basedOn.enableAudio)
    (hvideo : s.haveVideo = basedOn.enableVideo) :
    ((s.base u).enableAudio = (catchupCopy basedOn sid title urls start stop).enableAudio ∧
      (s.base u).enableVideo = (catchupCopy basedOn sid title urls start stop).enableVideo) ↔
      basedOn.enableAudio = basedOn.enableVideo := by
  simp only [StreamScan.base, streamBaseInfo, catchupCopy, haudio, hvideo]
  cases Fastotv.audioFirst <;> cases basedOn.enableAudio <;> cases basedOn.enableVideo <;> decide

/-- What is read back and what was told are the same exactly when nothing is lost of the groups
and the texts, and the flags are alike. -/
theorem sameCatchup_iff (laws : GurlLaws) (hicon : ∃ x, basedOn.epg.iconUrl = Fastotv.gurl x)
    {outputUrls : List OutputUri} {u : UserStreamInfo} :
    SameCatchup
        (catchupDecoder.info (newCatchupScan env endpoint basedOn title start stop outputUrls) u)
        (catchupCopy basedOn env.fresh.text title
          (makeUrlsFromOutput (catchupUrls env endpoint outputUrls)) start stop) ↔
      basedOn.groups = [] ∧ basedOn.enableAudio = basedOn.enableVideo ∧ NulFree title ∧
        NulFree basedOn.epg.tvgId := by
  obtain ⟨x, hx⟩ := hicon
  have hflags := sameFlags_newCatchupScan
    (newCatchupScan env endpoint basedOn title start stop outputUrls) u env.fresh.text title
    (makeUrlsFromOutput (catchupUrls env endpoint outputUrls)) start stop rfl rfl
  constructor
  · intro h
    refine ⟨h.groups.symm, hflags.mp ⟨h.enableAudio, h.enableVideo⟩, ?_, ?_⟩
    · have hname := h.displayName
      change cstr (cstr title) = title at hname
      rwa [cstr_cstr, cstr_eq_self_iff] at hname
    · have htvg := h.tvgId
      change cstr (cstr basedOn.epg.tvgId) = basedOn.epg.tvgId at htvg
      rwa [cstr_cstr, cstr_eq_self_iff] at htvg
  · rintro ⟨hgroups, hsame, htitle, htvg⟩
    obtain ⟨haudio, hvideo⟩ := hflags.mpr hsame
    refine ⟨rfl, hgroups.symm, rfl, ?_, ?_, ?_, ?_, haudio, hvideo, rfl, rfl, rfl⟩
    · change cstr (cstr title) = title
      rwa [cstr_cstr, cstr_eq_self_iff]
    · change cstr (cstr basedOn.epg.tvgId) = basedOn.epg.tvgId
      rwa [cstr_cstr, cstr_eq_self_iff]
    · change (Fastotv.gurl (cstr (cstr basedOn.epg.iconUrl.spec))).spec =
        basedOn.epg.iconUrl.spec
      rw [hx, laws.spec_cstr]
    · exact specs_of_createOutputUrl laws parsed_of_mem_catchupUrls

/-- The document of a new catchup decodes, and as what the requester was told if and only if the
channel has no groups, both flags or none of them, and no NUL in its id for the guide nor in the
title. -/
theorem catchup_decodes_as_replied_iff (env : Env) (endpoint : CatchupEndpointInfo)
    (basedOn : ChannelInfo) (title : String) (start stop : Timestamp) (db db' : Database)
    (created : CreatedCatchup) (uninit : Uninit) (st : StreamType) (u : UserStreamInfo)
    (laws : GurlLaws) (hicon : ∃ x, basedOn.epg.iconUrl = Fastotv.gurl x)
    (hrun : (createOrFindCatchup env endpoint basedOn title start stop).run db =
      (.ok created, db'))
    (hnew : created.isCreated = true) :
    ∃ sdoc info, db'.streams.findId? env.fresh = some sdoc ∧
      makeCatchupInfo uninit sdoc.toDoc st u = .ok (info, true) ∧
      (SameCatchup info created.cat ↔
        basedOn.groups = [] ∧ basedOn.enableAudio = basedOn.enableVideo ∧ NulFree title ∧
          NulFree basedOn.epg.tvgId) := by
  have hways := catchupRun env endpoint basedOn title start stop db
  rw [hrun] at hways
  cases hways with
  | found => cases hnew
  | refused h => exact absurd rfl (h created)
  | created hlinked hwrite hattach =>
    obtain ⟨-, ⟨channel, hchannel⟩, -⟩ := catchupOrigin_ok hlinked.origin
    exact ⟨_, _, findId?_fresh hchannel hlinked.insert hlinked.link,
      makeCatchupInfo_newCatchupDoc uninit _ st u _, sameCatchup_iff laws hicon⟩

end

/-! A channel with a group. -/

namespace Sample

def newsChannel : StoredDoc where
  id := .oid (oid 2)
  fields := Doc.set (channelDoc (oid 2) relayStr true).fields streamGroupsField
    (.array [.utf8 "news"])
  no_id := by decide

def newsChannelInfo : ChannelInfo where
  streamId := (oid 2).text
  groups := ["news"]
  iarc := 3
  favorite := false
  recent := 0
  interruptionTime := 0
  enableAudio := true
  enableVideo := true
  parts := []
  viewCount := 0
  locked := false
  metaUrls := []
  epg := ⟨"news", [], "News", Fastotv.gurl "http://logo"⟩

def newsServer : StoredDoc where
  id := .oid (oid 4)
  fields := [(serverStreamsField, .array [.oid (oid 2)])]
  no_id := by decide

def newsDatabase : Database where
  subscribers := ⟨[subscriber userStreamsField userStreams_ne_id [userStreamEntry (oid 2)]],
    List.nodup_singleton _⟩
  servers := ⟨[newsServer], List.nodup_singleton _⟩
  streams := ⟨[newsChannel], List.nodup_singleton _⟩
  series := ∅
  requests := ∅

def endpoint : CatchupEndpointInfo := ⟨⟨"catchups", 80⟩, ⟨"/catchups"⟩⟩

theorem gurlLaws : GurlLaws where
  nulFree x := by
    simp only [Fastotv.gurl, Gurl.spec, NulFree]
    split_ifs with h
    · simp only [Bool.and_eq_true, Bool.not_eq_true', List.contains_eq_mem,
        decide_eq_false_iff_not] at h
      exact h.2
    · simp
  spec_spec x := by
    simp only [Fastotv.gurl, Gurl.spec]
    split_ifs <;> rfl

/-- What the requester is told about the catchup of the channel. -/
def newsCatchup : CreatedCatchup :=
  ⟨(oid 4).text, catchupCopy newsChannelInfo (oid 15).text "Evening news" [] 10 20, true⟩

end Sample

open Sample in
/-- The requester is told the group, the document of the catchup decodes without. -/
theorem catchup_not_as_replied :
    makeChannelInfo env.uninit newsChannel.toDoc .relay {} = .ok (newsChannelInfo, true) ∧
      ((createOrFindCatchup env endpoint newsChannelInfo "Evening news" 10 20).run
        newsDatabase).1 = .ok newsCatchup ∧
      newsCatchup.cat.groups = ["news"] ∧
      ((((createOrFindCatchup env endpoint newsChannelInfo "Evening news" 10 20).run
        newsDatabase).2.streams.findId? (oid 15)).bind fun sdoc =>
          (makeCatchupInfo env.uninit sdoc.toDoc .catchup {}).toOption.map fun x => x.1.groups) =
        some [] := by
  refine ⟨by decide, by decide, rfl, by decide⟩

open Sample in
theorem catchup_decodes_as_replied_iff_sample :
    ∃ sdoc info,
      ((createOrFindCatchup env endpoint newsChannelInfo "Evening news" 10 20).run
        newsDatabase).2.streams.findId? env.fresh = some sdoc ∧
      makeCatchupInfo env.uninit sdoc.toDoc .catchup {} = .ok (info, true) ∧
      (SameCatchup info newsCatchup.cat ↔
        newsChannelInfo.groups = [] ∧ newsChannelInfo.enableAudio = newsChannelInfo.enableVideo ∧
          NulFree "Evening news" ∧ NulFree newsChannelInfo.epg.tvgId) :=
  catchup_decodes_as_replied_iff env endpoint newsChannelInfo "Evening news" 10 20 newsDatabase _
    newsCatchup env.uninit .catchup {} gurlLaws ⟨"http://logo", rfl⟩
    (Prod.ext (by decide) rfl) rfl

end LoadBalance
