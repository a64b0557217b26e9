import LoadBalance.Equiv.Isolation
import LoadBalance.Mongo.Equiv.FailedWrites
import LoadBalance.Mongo.Equiv.Uninit

/-!
# Content requests are listed

`CreateRequestContent` inserts a document for the request and pushes its id to the subscriber.  The
document decodes as what the requester is told, and the catalogue of the subscriber has one content
request more than before, at the end (`content_request_listed`).
-/

namespace LoadBalance

open LoadBalance.Action

/-! ### The document of a request -/

/-- The id in the info is the id of the document. -/
theorem id_of_makeContentRequestInfo {uninit : Uninit} {d : StoredDoc} {cont : ContentRequestInfo}
    (h : makeContentRequestInfo uninit d.toDoc = .ok cont) :
    ∃ o, d.id = .oid o ∧ cont.id = o.text := by
  unfold makeContentRequestInfo at h
  obtain ⟨⟨s, n⟩, hscan, h⟩ := Outcome.bind_eq_ok.mp h
  dsimp only at h
  split_ifs at h with hn
  obtain rfl := Outcome.ok.inj h
  unfold scanDoc StoredDoc.toDoc at hscan
  rw [List.foldlM_cons] at hscan
  obtain ⟨t, ht, hrest⟩ := Outcome.bind_eq_ok.mp hscan
  have hfind : requestFields.find? (·.key = idField) = some RequestField.id := rfl
  rcases scanField_cases ht with ⟨hnone, -⟩ | ⟨fd, hfd, hread⟩
  · cases hfind.symm.trans hnone
  obtain rfl := Option.some.inj (hfind.symm.trans hfd)
  -- Only the branch of the id writes the id, and no field behind the first has its key.
  have hframe : ∀ fd ∈ requestFields, fd.key ≠ idField → ∀ (t : RequestScan) v t',
      fd.read t v = .ok t' → t'.sidStr = t.sidStr := by
    simp only [requestFields, List.forall_mem_cons]
    refine ⟨fun hkey => absurd rfl hkey, ?_, ?_, ?_, by simp⟩ <;>
      · intro _ t v t' hread
        cases v <;> cases hread
        rfl
  have hsid := foldlM_scanField_frame RequestScan.sidStr idField hframe d.no_id hrest
  generalize d.id = v at hread
  cases v with
  | oid o =>
    refine ⟨o, rfl, hsid.trans ?_⟩
    rw [← Outcome.ok.inj hread]
  | _ => cases hread

/-- The document that is inserted decodes as what the requester is told. -/
theorem makeContentRequestInfo_requestDoc {uninit : Uninit} {o : Oid}
    {request : CreateContentRequestInfo} (htext : NulFree request.text)
    {hdoc : idField ∉ Doc.keys (requestDoc request)} :
    makeContentRequestInfo uninit (StoredDoc.toDoc ⟨.oid o, requestDoc request, hdoc⟩) =
      .ok ⟨o.text, request.text, request.type, request.status⟩ := by
  have htitle : cstr (cstr request.text) = request.text := by
    rw [cstr_cstr, cstr_eq_self_iff.mpr htext]
  show Outcome.ok (⟨o.text, cstr (cstr request.text), request.type, request.status⟩ :
    ContentRequestInfo) = _
  rw [htitle]

/-! ### The array of the subscriber -/

/-- A push appends to the array of a field, or makes one. -/
theorem arrayField_push {d d' : StoredDoc} {k : String} (hk : k ≠ idField) {x v : Bson}
    (hpush : pushOp x (d.fields.get? k) = some v) (hfields : d'.fields = d.fields.set k v) :
    arrayField d'.toDoc k = arrayField d.toDoc k ++ [x] := by
  unfold arrayField
  rw [StoredDoc.get?_toDoc hk, StoredDoc.get?_toDoc hk, hfields, Doc.get?_set_self]
  generalize d.fields.get? k = w at hpush
  unfold pushOp at hpush
  split at hpush
  · obtain rfl := Option.some.inj hpush
    rfl
  · obtain rfl := Option.some.inj hpush
    rfl
  · cases hpush

/-- The other fields are as they were. -/
theorem get?_toDoc_of_set {d d' : StoredDoc} {k k' : String} {v : Bson} (hid : d'.id = d.id)
    (hfields : d'.fields = d.fields.set k v) (hne : k' ≠ k) :
    d'.toDoc.get? k' = d.toDoc.get? k' := by
  by_cases hk' : k' = idField
  · rw [hk', StoredDoc.get?_toDoc_id, StoredDoc.get?_toDoc_id, hid]
  · rw [StoredDoc.get?_toDoc hk', StoredDoc.get?_toDoc hk', hfields, Doc.get?_set_ne _ _ hne]

section

variable {env : Env} {auth : ServerDBAuthInfo} {request : CreateContentRequestInfo}
  {db db' : Database} {cont : ContentRequestInfo} {o : Oid} {sub : StoredDoc}

/-- What a call that succeeds leaves behind: the document of the request, and the subscriber with
its id at the end of the array. -/
structure RequestListed (env : Env) (request : CreateContentRequestInfo) (db db' : Database)
    (sub sub' : StoredDoc) : Prop where
  streams : db'.streams = db.streams
  series : db'.series = db.series
  absent : db.requests.findId? env.fresh = none
  inserted : db'.requests.findId? env.fresh =
    some ⟨.oid env.fresh, requestDoc request, no_id_requestDoc _⟩
  others : ∀ x, x ≠ env.fresh → db'.requests.findId? x = db.requests.findId? x
  mem : sub' ∈ db'.subscribers.docs
  id : sub'.id = sub.id
  pushed : arrayField sub'.toDoc requestsField =
    arrayField sub.toDoc requestsField ++ [.oid env.fresh]
  fields : ∀ k, k ≠ requestsField → sub'.toDoc.get? k = sub.toDoc.get? k

/-! ### The catalogue -/

/-- The elements that were there give what they gave, the new one gives the new request. -/
theorem walk_requests {sub' : StoredDoc} {env' : Env} {l : List ContentRequestInfo}
    (h : RequestListed env request db db' sub sub') (htext : NulFree request.text)
    (hnew : .oid env.fresh ∉ arrayField sub.toDoc requestsField)
    (hwalk : walk (listedRequest env' db) (arrayField sub.toDoc requestsField) = .ok l) :
    walk (listedRequest env' db') (arrayField sub'.toDoc requestsField) =
      .ok (l ++ [⟨env.fresh.text, request.text, request.type, request.status⟩]) := by
  obtain ⟨hread, rfl⟩ := walk_eq_ok.mp hwalk
  have hold : ∀ e ∈ arrayField sub.toDoc requestsField,
      listedRequest env' db' e = listedRequest env' db e := by
    intro e he
    unfold listedRequest
    cases ho : e.asOid? with
    | none => rfl
    | some x =>
      obtain rfl := Bson.asOid?_eq_some.mp ho
      have hne : x ≠ env.fresh := by
        rintro rfl
        exact hnew he
      dsimp only
      rw [h.others x hne]
  have hlast : listedRequest env' db' (.oid env.fresh) =
      .ok (some ⟨env.fresh.text, request.text, request.type, request.status⟩) := by
    unfold listedRequest
    dsimp only [Bson.asOid?]
    rw [h.inserted]
    dsimp only
    rw [makeContentRequestInfo_requestDoc htext]
    rfl
  rw [walk_eq_ok, h.pushed]
  constructor
  · intro e he
    rcases List.mem_append.mp he with he | he
    · rw [hold e he]
      exact hread e he
    · rw [List.mem_singleton.mp he, hlast]
      exact ⟨_, rfl⟩
  · have hfirst : ((arrayField sub.toDoc requestsField).filterMap fun e =>
        (listedRequest env' db' e).toOption.join) =
        (arrayField sub.toDoc requestsField).filterMap fun e =>
          (listedRequest env' db e).toOption.join :=
      List.filterMap_congr fun e he => by rw [hold e he]
    rw [List.filterMap_append, hfirst, List.filterMap_cons, hlast]
    rfl

/-- The walks over streams read the streams and nothing else of the database. -/
theorem listedInfo_congr {α : Type}
    {decode : Doc → StreamType → UserStreamInfo → Outcome Unit (α × Bool)} {shows : Bool → Bool}
    (h : db'.streams = db.streams) :
    listedInfo db' decode shows = listedInfo db decode shows := by
  funext e
  unfold listedInfo listedStream
  rw [h]

/-- No request that was listed has the new id. -/
theorem not_mem_requests {env' : Env} {a : List Bson} {l : List ContentRequestInfo} {x : Oid}
    (habsent : db.requests.findId? x = none) (hwalk : walk (listedRequest env' db) a = .ok l)
    (hcont : cont ∈ l) : cont.id ≠ x.text := by
  obtain ⟨e, -, hread⟩ := (mem_of_walk hwalk).mp hcont
  unfold listedRequest at hread
  cases ho : e.asOid? with
  | none =>
    rw [ho] at hread
    cases hread
  | some y =>
    rw [ho] at hread
    dsimp only at hread
    cases hd : db.requests.findId? y with
    | none =>
      rw [hd] at hread
      cases hread
    | some d =>
      rw [hd] at hread
      have hmade := Outcome.toOption_eq_some.mp (decoded_eq_ok.mp hread).2.symm
      obtain ⟨y', hid, hcontid⟩ := id_of_makeContentRequestInfo hmade
      rw [Collection.id_of_findId? hd, Bson.oid.injEq] at hid
      subst hid
      rintro hx
      obtain rfl := Oid.text_injective (hcontid.symm.trans hx)
      exact absurd (habsent.symm.trans hd) (by simp)

variable [Fastotv]

theorem listedSerial_congr (h : db'.series = db.series) (lvods : List VodInfo) :
    listedSerial env db' lvods = listedSerial env db lvods := by
  funext e
  unfold listedSerial
  rw [h]

/-- What the call leaves behind when it succeeds. -/
theorem requestListed_of_ok (hsub : db.subscribers.findId? o = some sub) (huid : auth.uid = o.text)
    (hrun : (createRequestContent env auth request).run db = (.ok cont, db')) :
    cont = ⟨env.fresh.text, request.text, request.type, request.status⟩ ∧
      ∃ sub', RequestListed env request db db' sub sub' := by
  have hways := requestRun env auth request db
  rw [hrun] at hways
  cases hways with
  | @created oid c subscribers hinserted _ hpush =>
    have hoid := hinserted.uid
    rw [huid, convertFromString_text] at hoid
    obtain rfl := Option.some.inj hoid
    obtain ⟨habsent, -, hfound, hothers⟩ := Collection.insert_cases hinserted.insert
    have hquery : ∀ d : StoredDoc, d.hasId o = true → d.id = .oid o :=
      fun d hd => StoredDoc.hasId_iff.mp hd
    rcases Collection.update_cases hquery hpush with
      ⟨hno, -⟩ | ⟨d, sub', v, hd, -, hv, hid, hfields, hd', -⟩
    · -- The subscriber is there, so it is the one that is updated.
      have hfalse := hno sub hsub
      rw [StoredDoc.hasId_iff.mpr (Collection.id_of_findId? hsub)] at hfalse
      cases hfalse
    · obtain rfl := Option.some.inj (hsub.symm.trans hd)
      exact ⟨rfl, sub', rfl, rfl, habsent, hfound, hothers, Collection.mem_of_find? hd', hid,
        arrayField_push (by decide) hv hfields, fun k hk => get?_toDoc_of_set hid hfields hk⟩

/-- The subscriber is found by its email before and after the call. -/
theorem RequestListed.findByEmail {sub' : StoredDoc} (h : RequestListed env request db db' sub sub')
    (huid : auth.uid = o.text)
    (hrun : (createRequestContent env auth request).run db = (.ok cont, db')) {login : String}
    (hfind : findByEmail db login = some sub) :
    LoadBalance.findByEmail db' login = some sub' := by
  have howner : ∀ u, convertFromString env.beyond auth.uid = some u → u = o := by
    intro u hu
    rw [huid, convertFromString_text] at hu
    exact (Option.some.inj hu).symm
  have hwithin : Within (Leaves o (fun _ => False) []) (createRequestContent env auth request) :=
    leaves_createRequestContent howner List.not_mem_nil
  have hleaves := hwithin db
  rw [hrun] at hleaves
  have hrel := hleaves.rel_findByEmail login
  rw [hfind] at hrel
  cases hx : LoadBalance.findByEmail db' login with
  | none =>
    rw [hx] at hrel
    cases hrel
  | some d =>
    rw [hx] at hrel
    cases hrel with
    | some hsame =>
      rw [db'.subscribers.eq_of_id_eq (Collection.mem_of_find? hx) h.mem
        (hsame.id_eq.trans h.id.symm)]

/-- The document of a content request that was recorded decodes as what the requester is told, and
the next catalogue of the subscriber, which is the one that is found by its email, is the one of
before with the request at the end.  The id that was generated is one that the subscriber does not
refer to yet, and the two calls for the catalogue show the same of what was listed. -/
theorem content_request_listed (env : Env) (db db' : Database) (o : Oid) (sub : StoredDoc)
    (login : AuthInfo) (auth : ServerDBAuthInfo) (request : CreateContentRequestInfo)
    (cont : ContentRequestInfo) (hsub : db.subscribers.findId? o = some sub)
    (hfind : findByEmail db login.login = some sub)
    (huid : auth.uid = o.text) (htext : NulFree request.text)
    (hnew : .oid env.fresh ∉ arrayField sub.toDoc requestsField)
    (hrun : (createRequestContent env auth request).run db = (.ok cont, db')) :
    (∃ d, db.requests.findId? env.fresh = none ∧ db'.requests.findId? env.fresh = some d ∧
      ∀ uninit, makeContentRequestInfo uninit d.toDoc = .ok cont) ∧
    ∀ env₁ env₂ cat, clientGetChannels env₁ db login = .ok cat →
      ShowsSame env₁.uninit env₂.uninit db sub.toDoc →
      clientGetChannels env₂ db' login =
        .ok { cat with contentRequests := cat.contentRequests ++ [cont] } ∧
      cont ∉ cat.contentRequests := by
  obtain ⟨rfl, sub', h⟩ := requestListed_of_ok hsub huid hrun
  refine ⟨⟨_, h.absent, h.inserted, fun _ => makeContentRequestInfo_requestDoc htext⟩, ?_⟩
  intro env₁ env₂ cat hcat hsame
  have hfind' := h.findByEmail huid hrun hfind
  rw [← clientGetChannels_uninit hfind hsame] at hcat
  obtain ⟨hvalid, sub₀, hsub₀, chans, vods, catchups, series, requests, hc, hv, hca, hse, hre,
    rfl⟩ := clientGetChannels_eq_ok.mp hcat
  obtain rfl := Option.some.inj (hfind.symm.trans hsub₀)
  refine ⟨?_, fun hmem => not_mem_requests h.absent hre hmem rfl⟩
  -- The other arrays and what they refer to are as they were.
  have harray : ∀ k, k ≠ requestsField → arrayField sub'.toDoc k = arrayField sub.toDoc k := by
    intro k hk
    unfold arrayField
    rw [h.fields k hk]
  refine clientGetChannels_eq_ok.mpr ⟨hvalid, sub', hfind', chans, vods, catchups, series, _, ?_,
    ?_, ?_, ?_, walk_requests h htext hnew hre, rfl⟩
  · rw [harray _ (by decide)]
    unfold listedChannel
    rw [listedInfo_congr h.streams]
    exact hc
  · rw [harray _ (by decide)]
    unfold listedVod
    rw [listedInfo_congr h.streams]
    exact hv
  · rw [harray _ (by decide)]
    unfold listedCatchup
    rw [listedInfo_congr h.streams]
    exact hca
  · rw [harray _ (by decide), listedSerial_congr h.series]
    exact hse

end

/-! A subscriber that asked for something before asks for more news. -/

namespace Sample

def moreNews : CreateContentRequestInfo := ⟨"More news", 0, 0⟩

def moreNewsListed : ContentRequestInfo := ⟨env.fresh.text, "More news", 0, 0⟩

/-- The document of the earlier request. -/
def oldNews : StoredDoc := ⟨.oid (oid 5), requestDoc ⟨"Old news", 0, 1⟩, no_id_requestDoc _⟩

def requester : StoredDoc where
  id := .oid (oid 1)
  fields := resident.fields ++ [(requestsField, .array [.oid (oid 5)])]
  no_id := by decide

theorem nodup_requester : ([neighbour, requester].map StoredDoc.id).Nodup :=
  List.nodup_cons.mpr ⟨fun h => neighbour_ne (List.mem_singleton.mp h), List.nodup_singleton _⟩

theorem nodup_oldNews : ([oldNews].map StoredDoc.id).Nodup := List.nodup_singleton _

def requesterDatabase : Database :=
  { houseDatabase with
    subscribers := ⟨[neighbour, requester], nodup_requester⟩
    requests := ⟨[oldNews], nodup_oldNews⟩ }

def residentAuth : AuthInfo := ⟨⟨"a@b.c", "secret"⟩, "device"⟩

/-- The earlier request has its type and its status, and nothing else is read into a local. -/
theorem showsSame_requester (u u' : Uninit) : ShowsSame u u' requesterDatabase requester.toDoc where
  catchups e he := absurd he List.not_mem_nil
  series sid hsid := absurd hsid List.not_mem_nil
  requests sid hsid sdoc r hd _ := by
    obtain rfl : sid = oid 5 := Bson.oid.inj (List.mem_singleton.mp hsid)
    obtain rfl : oldNews = sdoc := Option.some.inj hd
    exact ⟨Or.inl (by decide), Or.inl (by decide)⟩

end Sample

open Sample in
theorem content_request_listed_sample :
    ∃ db' cat, (createRequestContent env Sample.login moreNews).run requesterDatabase =
        (.ok moreNewsListed, db') ∧
      clientGetChannels env requesterDatabase residentAuth = .ok cat ∧
      cat.contentRequests = [⟨(oid 5).text, "Old news", 0, 1⟩] ∧
      ∀ u, clientGetChannels { env with uninit := u } db' residentAuth =
        .ok { cat with contentRequests := cat.contentRequests ++ [moreNewsListed] } := by
  have htext : NulFree moreNews.text := by decide
  have hnew : .oid env.fresh ∉ arrayField requester.toDoc requestsField := fun h =>
    absurd (Bson.oid.inj (List.mem_singleton.mp h)) (by decide)
  have hlisted := content_request_listed env requesterDatabase _ (oid 1) requester residentAuth
    Sample.login moreNews moreNewsListed rfl rfl rfl htext hnew rfl
  exact ⟨_, _, rfl, rfl, rfl, fun u =>
    (hlisted.2 env { env with uninit := u } _ rfl (showsSame_requester _ _)).1⟩

end LoadBalance
