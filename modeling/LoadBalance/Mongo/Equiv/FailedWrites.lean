import LoadBalance.Mongo.Equiv.Catchup

/-!
# What a creation leaves behind that fails

`createOrFindCatchup` and `createRequestContent` write several documents one after another and
return at the first write that does not succeed.  What was written before that stays.  So they
leave no trace of a failure exactly when nothing fails behind the insert of the new document, and
otherwise that document (`failed_leaves_at_most_the_insert`).
-/

namespace LoadBalance

open LoadBalance.Action

/-- What an output parameter of a call holds after it. -/
def Outcome.output {α : Type} (o : Outcome Error α) (before : α) : α := match o with
  | .ok a => a
  | _ => before

/-- After an error the database and the output parameters are as they were before the call. -/
def LeavesNoTrace {α : Type} (x : Action Database Error α) (db : Database) : Prop :=
  ∀ err, (x.run db).1 = .error err →
    (x.run db).2 = db ∧ ∀ before, (x.run db).1.output before = before

/-- The output parameters are only written at the end. -/
theorem leavesNoTrace_iff {α : Type} {x : Action Database Error α} {db : Database} :
    LeavesNoTrace x db ↔ ∀ err, (x.run db).1 = .error err → (x.run db).2 = db := by
  constructor
  · exact fun h err herr => (h err herr).1
  · intro h err herr
    refine ⟨h err herr, fun before => ?_⟩
    rw [herr]
    rfl

section

variable [Fastotv] {env : Env} {endpoint : CatchupEndpointInfo} {basedOn : ChannelInfo}
  {title : String} {start stop : Timestamp} {db : Database}

/-- When the document of the catchup is inserted, it is also linked and attached. -/
def CatchupCompletes (env : Env) (endpoint : CatchupEndpointInfo) (basedOn : ChannelInfo)
    (title : String) (start stop : Timestamp) (db : Database) : Prop :=
  ∀ bsid serverOid outputUrls c,
    CatchupInserted env endpoint basedOn title start stop db bsid serverOid outputUrls c →
      env.write .linkPart = true ∧ env.write .attachServer = true ∧
        ∃ c', c.update (StoredDoc.hasId bsid) streamPartsField parts_ne_id
          (pushOp (.oid env.fresh)) = some c'

/-- What an error leaves of the streams: those of before, or these with the new document, which may
be linked to the channel. -/
def CatchupLeftover (env : Env) (endpoint : CatchupEndpointInfo) (basedOn : ChannelInfo)
    (title : String) (start stop : Timestamp) (db : Database) (streams : Collection) : Prop :=
  streams = db.streams ∨ ∃ bsid serverOid outputUrls c,
    CatchupInserted env endpoint basedOn title start stop db bsid serverOid outputUrls c ∧
      (streams = c ∨
        CatchupLinked env endpoint basedOn title start stop db bsid serverOid outputUrls c streams)

omit [Fastotv] in
/-- A collection with a new document is another one. -/
theorem insert_ne {c c' : Collection} {o : Oid} {fields : Doc} {h : idField ∉ fields.keys}
    (hinsert : c.insert o fields h = some c') : c' ≠ c := by
  rintro rfl
  obtain ⟨hnone, -, hsome, -⟩ := Collection.insert_cases hinsert
  rw [hnone] at hsome
  cases hsome

/-- Linking a catchup does not take its document away. -/
theorem link_ne {bsid serverOid : Oid} {outputUrls : List OutputUri} {c c' : Collection}
    (h : CatchupLinked env endpoint basedOn title start stop db bsid serverOid outputUrls c c') :
    c' ≠ db.streams := by
  rintro rfl
  obtain ⟨-, ⟨channel, hchannel⟩, -⟩ := catchupOrigin_ok h.origin
  have hfresh := findId?_fresh hchannel h.insert h.link
  rw [(Collection.insert_cases h.insert).1] at hfresh
  cases hfresh

theorem leavesNoTrace_createOrFindCatchup_iff :
    LeavesNoTrace (createOrFindCatchup env endpoint basedOn title start stop) db ↔
      CatchupCompletes env endpoint basedOn title start stop db := by
  rw [leavesNoTrace_iff]
  have hways := catchupRun env endpoint basedOn title start stop db
  generalize ((createOrFindCatchup env endpoint basedOn title start stop).run db).1 = o at hways ⊢
  generalize ((createOrFindCatchup env endpoint basedOn title start stop).run db).2 = db' at hways ⊢
  cases hways with
  | found hpart =>
    refine iff_of_true nofun fun _ _ _ _ h => ?_
    exact absurd (hpart.symm.trans h.part) (by simp)
  | refused h hno => exact iff_of_true (fun _ _ => rfl) fun _ _ _ _ h => absurd h (hno _ _ _ _)
  | unlinked hinserted hlink =>
    refine iff_of_false (fun h => ?_) fun h => ?_
    · exact insert_ne hinserted.insert (congrArg Database.streams (h _ rfl))
    · obtain ⟨hwrite, -, c', hc'⟩ := h _ _ _ _ hinserted
      rcases hlink with hfail | hnone
      · rw [hwrite] at hfail
        cases hfail
      · rw [hc'] at hnone
        cases hnone
  | unattached hlinked hattach =>
    refine iff_of_false (fun h => ?_) fun h => ?_
    · exact link_ne hlinked (congrArg Database.streams (h _ rfl))
    · obtain ⟨-, hwrite, -⟩ := h _ _ _ _ hlinked.toCatchupInserted
      rw [hattach] at hwrite
      cases hwrite
  | created hlinked hwrite hattach =>
    refine iff_of_true nofun fun bsid serverOid outputUrls c h => ?_
    -- The origin and the inserted document are those of the run.
    obtain ⟨rfl, rfl, rfl, rfl⟩ := hlinked.toCatchupInserted.unique h
    exact ⟨hlinked.linkWrite, hwrite, _, hlinked.link⟩

/-- An error changes the streams at most. -/
theorem error_createOrFindCatchup {err : Error}
    (h : ((createOrFindCatchup env endpoint basedOn title start stop).run db).1 = .error err) :
    ∃ streams, ((createOrFindCatchup env endpoint basedOn title start stop).run db).2 =
        db.set .streams streams ∧
      CatchupLeftover env endpoint basedOn title start stop db streams := by
  have hways := catchupRun env endpoint basedOn title start stop db
  rw [h] at hways
  generalize ((createOrFindCatchup env endpoint basedOn title start stop).run db).2 = db' at hways ⊢
  cases hways with
  | refused => exact ⟨db.streams, rfl, Or.inl rfl⟩
  | unlinked hinserted => exact ⟨_, rfl, Or.inr ⟨_, _, _, _, hinserted, Or.inl rfl⟩⟩
  | unattached hlinked =>
    exact ⟨_, rfl, Or.inr ⟨_, _, _, _, hlinked.toCatchupInserted, Or.inr hlinked⟩⟩

/-! ### Content requests -/

/-- The login is good for a content request, and its document was inserted, which gives `c`. -/
structure RequestInserted (env : Env) (auth : ServerDBAuthInfo)
    (request : CreateContentRequestInfo) (db : Database) (oid : Oid) (c : Collection) : Prop where
  valid : auth.isValid = true
  uid : convertFromString env.beyond auth.uid = some oid
  write : env.write .insertRequest = true
  insert : db.requests.insert env.fresh (requestDoc request) (no_id_requestDoc _) = some c

/-- When the document of the request is inserted, it is also pushed to the subscriber. -/
def RequestCompletes (env : Env) (auth : ServerDBAuthInfo) (request : CreateContentRequestInfo)
    (db : Database) : Prop :=
  ∀ oid c, RequestInserted env auth request db oid c →
    env.write .pushRequest = true ∧
      ∃ c', db.subscribers.update (StoredDoc.hasId oid) requestsField requests_ne_id
        (pushOp (.oid env.fresh)) = some c'

/-- What an error leaves of the requests: those of before, or these with the new document. -/
def RequestLeftover (env : Env) (auth : ServerDBAuthInfo) (request : CreateContentRequestInfo)
    (db : Database) (requests : Collection) : Prop :=
  requests = db.requests ∨ ∃ oid, RequestInserted env auth request db oid requests

/-- The ways in which `createRequestContent` ends on the database `db`. -/
inductive RequestRun (env : Env) (auth : ServerDBAuthInfo) (request : CreateContentRequestInfo)
    (db : Database) : Outcome Error ContentRequestInfo → Database → Prop where
  /-- Nothing was written. -/
  | refused {err : Error} (hno : ∀ oid c, ¬RequestInserted env auth request db oid c) :
      RequestRun env auth request db (.error err) db
  /-- The document was inserted, and the subscriber does not have it. -/
  | unpushed {oid : Oid} {c : Collection} (hinserted : RequestInserted env auth request db oid c)
      (hpush : env.write .pushRequest = false ∨ db.subscribers.update (StoredDoc.hasId oid)
        requestsField requests_ne_id (pushOp (.oid env.fresh)) = none) :
      RequestRun env auth request db (.error .driver) (db.set .requests c)
  /-- Both writes went through. -/
  | created {oid : Oid} {c subscribers : Collection}
      (hinserted : RequestInserted env auth request db oid c)
      (hwrite : env.write .pushRequest = true)
      (hpush : db.subscribers.update (StoredDoc.hasId oid) requestsField requests_ne_id
        (pushOp (.oid env.fresh)) = some subscribers) :
      RequestRun env auth request db
        (.ok ⟨env.fresh.text, request.text, request.type, request.status⟩)
        ((db.set .requests c).set .subscribers subscribers)

theorem requestRun (env : Env) (auth : ServerDBAuthInfo) (request : CreateContentRequestInfo)
    (db : Database) :
    RequestRun env auth request db ((createRequestContent env auth request).run db).1
      ((createRequestContent env auth request).run db).2 := by
  unfold createRequestContent
  by_cases hvalid : auth.isValid = true
  · rw [if_neg (by simp [hvalid])]
    cases huid : convertFromString env.beyond auth.uid with
    | none => exact .refused fun _ _ h => absurd (huid.symm.trans h.uid) (by simp)
    | some oid =>
      rcases hinsert : (mongoInsert env .insertRequest .requests env.fresh (requestDoc request)
        (no_id_requestDoc _)).run db with ⟨o, db₁⟩
      rw [run_bind_of_ok (run_orFail_some _ _ _), run_bind, hinsert]
      rcases writeBack_cases hinsert with ⟨hw, c, hc, rfl, rfl⟩ | ⟨hfail, rfl, rfl⟩
      · have hinserted : RequestInserted env auth request db oid c := ⟨hvalid, huid, hw, hc⟩
        dsimp only
        rcases hpush : (addContentRequestToUserArray env oid env.fresh).run (db.set .requests c)
          with ⟨o, db₂⟩
        rw [run_bind, hpush]
        unfold addContentRequestToUserArray at hpush
        rcases writeBack_cases hpush with ⟨hw', c', hc', rfl, rfl⟩ | ⟨hfail, rfl, rfl⟩
        · exact .created hinserted hw' hc'
        · exact .unpushed hinserted hfail
      · -- The insert did not go through, or was refused.
        refine .refused fun oid' c h => ?_
        rcases hfail with hw | hnone
        · rw [h.write] at hw
          cases hw
        · exact absurd (hnone.symm.trans h.insert) (by simp)
  · rw [if_pos (by simpa using hvalid)]
    exact .refused fun _ _ h => hvalid h.valid

section

variable {auth : ServerDBAuthInfo} {request : CreateContentRequestInfo}

theorem leavesNoTrace_createRequestContent_iff :
    LeavesNoTrace (createRequestContent env auth request) db ↔
      RequestCompletes env auth request db := by
  rw [leavesNoTrace_iff]
  have hways := requestRun env auth request db
  generalize ((createRequestContent env auth request).run db).1 = o at hways ⊢
  generalize ((createRequestContent env auth request).run db).2 = db' at hways ⊢
  cases hways with
  | refused hno => exact iff_of_true (fun _ _ => rfl) fun _ _ h => absurd h (hno _ _)
  | unpushed hinserted hpush =>
    refine iff_of_false (fun h => ?_) fun h => ?_
    · exact insert_ne hinserted.insert (congrArg Database.requests (h _ rfl))
    · obtain ⟨hwrite, c', hc'⟩ := h _ _ hinserted
      rcases hpush with hfail | hnone
      · rw [hwrite] at hfail
        cases hfail
      · rw [hc'] at hnone
        cases hnone
  | created hinserted hwrite hpush =>
    refine iff_of_true nofun fun oid c h => ⟨hwrite, ?_⟩
    obtain rfl := Option.some.inj (hinserted.uid.symm.trans h.uid)
    exact ⟨_, hpush⟩

/-- An error changes the requests at most. -/
theorem error_createRequestContent {err : Error}
    (h : ((createRequestContent env auth request).run db).1 = .error err) :
    ∃ requests, ((createRequestContent env auth request).run db).2 =
        db.set .requests requests ∧
      RequestLeftover env auth request db requests := by
  have hways := requestRun env auth request db
  rw [h] at hways
  generalize ((createRequestContent env auth request).run db).2 = db' at hways ⊢
  cases hways with
  | refused => exact ⟨db.requests, rfl, Or.inl rfl⟩
  | unpushed hinserted => exact ⟨_, rfl, Or.inr ⟨_, hinserted⟩⟩

end

end

/-- A failed creation does not touch the output parameters and leaves at most its own document
behind, which a catchup's channel may have among its parts; it leaves no trace if and only if
nothing fails behind the insert of the document. -/
theorem failed_leaves_at_most_the_insert [Fastotv] (env : Env) (endpoint : CatchupEndpointInfo)
    (basedOn : ChannelInfo) (title : String) (start stop : Timestamp) (auth : ServerDBAuthInfo)
    (request : CreateContentRequestInfo) (db : Database) :
    ((∀ err,
        ((createOrFindCatchup env endpoint basedOn title start stop).run db).1 = .error err →
          (∀ before, ((createOrFindCatchup env endpoint basedOn title start stop).run db).1.output
            before = before) ∧
          ∃ streams, ((createOrFindCatchup env endpoint basedOn title start stop).run db).2 =
              db.set .streams streams ∧
            CatchupLeftover env endpoint basedOn title start stop db streams) ∧
      (LeavesNoTrace (createOrFindCatchup env endpoint basedOn title start stop) db ↔
        CatchupCompletes env endpoint basedOn title start stop db)) ∧
    (∀ err, ((createRequestContent env auth request).run db).1 = .error err →
        (∀ before, ((createRequestContent env auth request).run db).1.output before = before) ∧
        ∃ requests, ((createRequestContent env auth request).run db).2 =
            db.set .requests requests ∧
          RequestLeftover env auth request db requests) ∧
      (LeavesNoTrace (createRequestContent env auth request) db ↔
        RequestCompletes env auth request db) := by
  refine ⟨⟨fun err h => ⟨fun before => ?_, error_createOrFindCatchup h⟩,
    leavesNoTrace_createOrFindCatchup_iff⟩, fun err h => ⟨fun before => ?_,
      error_createRequestContent h⟩, leavesNoTrace_createRequestContent_iff⟩
  · rw [h]
    rfl
  · rw [h]
    rfl

open Sample in
/-- The server does not get the catchup, but the channel has it among its parts, and the document is
there. -/
theorem failed_leaves_a_trace :
    let unattached : Env := { env with write := fun w => w ≠ .attachServer }
    let r := (createOrFindCatchup unattached endpoint newsChannelInfo "Evening news" 10 20).run
      newsDatabase
    r.1 = .error .driver ∧ r.2.servers = newsDatabase.servers ∧
      ¬LeavesNoTrace (createOrFindCatchup unattached endpoint newsChannelInfo "Evening news" 10 20)
        newsDatabase ∧
      newsDatabase.streams.findId? (oid 15) = none ∧
      (r.2.streams.findId? (oid 15)).isSome ∧
      (r.2.streams.findId? (oid 2)).any fun d =>
        d.toDoc.fieldMatches streamPartsField (Bson.hasElement (oid 15)) := by
  refine ⟨by decide, rfl, fun h => ?_, by decide, by decide, by decide⟩
  have hstreams := congrArg Database.streams (leavesNoTrace_iff.mp h .driver (by decide))
  have hfound := congrArg (fun c : Collection => (c.findId? (oid 15)).isSome) hstreams
  exact absurd hfound (by decide)

end LoadBalance
