import LoadBalance.Equiv.Events

/-!
# The steps of a login

Both overloads of `ClientLogin` look the document of the subscriber up (`lookUp`), and leave the
rest to `ClientLoginImpl`, which looks at what was found, at the connections, and may write one
status (`run_login`).  The registration comes after that, and an event that logs in is made of the
two (`run_action_of_credentials`). -/

namespace LoadBalance

open LoadBalance.Action

/-- What a subscriber logs in with. -/
inductive Credentials where
  | byEmail (uauth : AuthInfo)
  | byUid (uid : UserId) (password : String) (dev : DeviceId)
deriving DecidableEq

/-- What is looked up for a login: the user id under which it will be registered, what was given
together with the expiry date, and the document. -/
structure Found where
  uid : UserId
  uauth : ServerAuthInfo
  doc : StoredDoc

section

variable [Fastotv]

/-- The overload of `ClientLogin` for the credentials. -/
def login (env : Env) : Credentials → Call ServerDBAuthInfo
  | .byEmail uauth => clientLogin env uauth
  | .byUid uid password dev => clientLoginByUid env uid password dev

/-- What an overload does before it calls `ClientLoginImpl`. -/
def lookUp (env : Env) (db : Database) : Credentials → Except Error Found
  | .byEmail uauth =>
    if !Fastotv.authValid uauth then .error .inval
    else match findByEmail db uauth.login with
      | none => .error (.message "User not found")
      | some doc => match doc.id.asOid? with
        | none => .error (.message "Not found _id field")
        | some o => match doc.toDoc.get? expDateField with
          | some (.dateTime expDate) => .ok ⟨o.text, ⟨uauth, expDate⟩, doc⟩
          | _ => .error (.message "Not exp_date field")
  | .byUid uid password dev =>
    if uid = "" || password = "" || dev = "" then .error .inval
    else match convertFromString env.beyond uid with
      | none => .error (.message "Invalid user id")
      | some o => match db.subscribers.findId? o with
        | none => .error (.message "User not found")
        | some doc => match doc.toDoc.get? emailField with
          | some (.utf8 blogin) => match doc.toDoc.get? expDateField with
            | some (.dateTime expDate) => .ok ⟨uid, ⟨⟨⟨cstr blogin, password⟩, dev⟩, expDate⟩, doc⟩
            | _ => .error (.message "Not exp_date field")
          | _ => .error (.message "Not found email field")

theorem keeps_login {P : Output → Prop} (env : Env) (c : Credentials) : Keeps P (login env c) := by
  cases c with
  | byEmail uauth => exact keeps_clientLogin env uauth
  | byUid uid password dev => exact keeps_clientLoginByUid env uid password dev

/-- The document is looked up, and what was found is checked. -/
theorem run_login (env : Env) (c : Credentials) (s : State) :
    (login env c).run s = match lookUp env s.db c with
      | .error err => (.error err, s)
      | .ok f => (do
          clientLoginImpl env f.uid f.uauth f.doc.toDoc
          pure ⟨f.uauth, f.uid⟩ : Call ServerDBAuthInfo).run s := by
  cases c with
  | byEmail uauth =>
    have hread : (reads fun s => .ok (findByEmail s.db uauth.login) :
        Call (Option StoredDoc)).run s = (.ok (findByEmail s.db uauth.login), s) := rfl
    unfold login lookUp clientLogin
    dsimp only
    split_ifs
    · rfl
    rw [run_bind_of_ok hread]
    cases findByEmail s.db uauth.login with
    | none => rfl
    | some doc =>
      rw [run_bind_of_ok (run_orFail_some _ _ _)]
      dsimp only
      cases doc.id.asOid? with
      | none => rfl
      | some o =>
        rw [run_bind_of_ok (run_orFail_some _ _ _)]
        dsimp only
        cases doc.toDoc.get? expDateField with
        | none => rfl
        | some expDate => cases expDate <;> rfl
  | byUid uid password dev =>
    unfold login lookUp clientLoginByUid
    dsimp only
    split_ifs
    · rfl
    cases convertFromString env.beyond uid with
    | none => rfl
    | some o =>
      have hread : (reads fun s => .ok (s.db.subscribers.findId? o) :
          Call (Option StoredDoc)).run s = (.ok (s.db.subscribers.findId? o), s) := rfl
      rw [run_bind_of_ok (run_orFail_some _ _ _), run_bind_of_ok hread]
      dsimp only
      cases s.db.subscribers.findId? o with
      | none => rfl
      | some doc =>
        rw [run_bind_of_ok (run_orFail_some _ _ _)]
        dsimp only
        cases doc.toDoc.get? emailField with
        | none => rfl
        | some blogin =>
          cases blogin with
          | utf8 blogin =>
            dsimp only
            cases doc.toDoc.get? expDateField with
            | none => rfl
            | some expDate => cases expDate <;> rfl
          | _ => rfl

/-- By email, the user id is the text of the id of the document. -/
theorem lookUp_byEmail {env : Env} {db : Database} {uauth : AuthInfo} {f : Found}
    (h : lookUp env db (.byEmail uauth) = .ok f) :
    ∃ o, findByEmail db uauth.login = some f.doc ∧ f.doc.id = .oid o ∧ f.uid = o.text ∧
      f.uauth.toAuthInfo = uauth := by
  unfold lookUp at h
  dsimp only at h
  split_ifs at h
  cases hdoc : findByEmail db uauth.login with
  | none =>
    rw [hdoc] at h
    cases h
  | some doc =>
    rw [hdoc] at h
    dsimp only at h
    cases ho : doc.id.asOid? with
    | none =>
      rw [ho] at h
      cases h
    | some o =>
      rw [ho] at h
      dsimp only at h
      split at h
      · obtain rfl := Except.ok.inj h
        exact ⟨o, rfl, Bson.asOid?_eq_some.mp ho, rfl, rfl⟩
      · cases h

/-- By user id, it is the text that was given, whatever is read from it. -/
theorem lookUp_byUid {env : Env} {db : Database} {uid : UserId} {password : String} {dev : DeviceId}
    {f : Found} (h : lookUp env db (.byUid uid password dev) = .ok f) :
    ∃ o, convertFromString env.beyond uid = some o ∧ db.subscribers.findId? o = some f.doc ∧
      f.doc.id = .oid o ∧ f.uid = uid ∧ f.uauth.deviceId = dev ∧
      ∃ blogin, f.doc.toDoc.get? emailField = some (.utf8 blogin) ∧
        f.uauth.login = cstr blogin := by
  unfold lookUp at h
  dsimp only at h
  split_ifs at h
  cases ho : convertFromString env.beyond uid with
  | none =>
    rw [ho] at h
    cases h
  | some o =>
    rw [ho] at h
    dsimp only at h
    cases hdoc : db.subscribers.findId? o with
    | none =>
      rw [hdoc] at h
      cases h
    | some doc =>
      rw [hdoc] at h
      dsimp only at h
      split at h
      · rename_i blogin hemail
        split at h
        · obtain rfl := Except.ok.inj h
          exact ⟨o, rfl, hdoc, Collection.id_of_findId? hdoc, rfl, rfl, blogin, hemail, rfl⟩
        · cases h
      · cases h

omit [Fastotv] in
theorem arrayField?_eq_some {d : Doc} {k : String} {l : List Bson} :
    arrayField? d k = some l ↔ d.get? k = some (.array l) := by
  unfold arrayField?
  split
  · rename_i a h
    simp [h]
  · rename_i h
    constructor
    · exact nofun
    · intro h'
      exact absurd h' (h l)

omit [Fastotv] in
/-- What a login that is accepted has met. -/
structure Accepts (env : Env) (s : State) (uid : UserId) (uauth : ServerAuthInfo) (doc : Doc)
    (oid : Oid) (status : Int32) : Prop where
  account : checkAccount doc uauth.password = .ok ()
  notExpired : ¬env.now > uauth.expiredDate
  device : ∃ devices, arrayField? doc devicesField = some devices ∧
    devices.findSome? (matchDevice uauth.deviceId) = some (oid, status)
  notBanned : status ≠ deviceBanned
  noOther : findDevice s.clients uauth.deviceId (s.connections.at' uid) = .ok none
  activates : status = deviceNotActive → env.bconAborts uauth.login = false

/-- What an accepted login leaves: a device that was found to be not active becomes active. -/
def State.activated (s : State) (env : Env) (login : String) (oid : Oid) (status : Int32) : State :=
  if status = deviceNotActive then
    { s with db := ((activateDevice env login oid).run s.db).2 }
  else s

omit [Fastotv] in
/-- Whether the status could be written does not matter for the login. -/
theorem run_attempt_activateDevice {env : Env} {login : String}
    (h : env.bconAborts login = false) (oid : Oid) (s : State) :
    (attempt (database (activateDevice env login oid))).run s =
      (.ok (), { s with db := ((activateDevice env login oid).run s.db).2 }) := by
  have hreturns : ((activateDevice env login oid).run s.db).1.Returns :=
    returns_activateDevice_iff.mpr h
  unfold database
  rw [run_attempt, run_zoom]
  cases hrun : ((activateDevice env login oid).run s.db).1 with
  | ok u => rfl
  | error err => rfl
  | abort =>
    rw [hrun] at hreturns
    exact hreturns.elim

omit [Fastotv] in
/-- It is the end of the process when the email ends that of its query. -/
theorem run_attempt_activateDevice_of_aborts {env : Env} {login : String}
    (h : env.bconAborts login = true) (oid : Oid) (s : State) :
    (attempt (database (activateDevice env login oid))).run s = (.abort, s) := by
  unfold database
  rw [run_attempt, run_zoom, run_activateDevice_of_aborts h]

omit [Fastotv] in
theorem run_clientLoginImpl_of_accepts {env : Env} {s : State} {uid : UserId}
    {uauth : ServerAuthInfo} {doc : Doc} {oid : Oid} {status : Int32}
    (h : Accepts env s uid uauth doc oid status) :
    (clientLoginImpl env uid uauth doc).run s =
      (.ok (), s.activated env uauth.login oid status) := by
  obtain ⟨devices, hdevices, hmatch⟩ := h.device
  have hraise : (orRaise (checkAccount doc uauth.password) : Call Unit).run s = (.ok (), s) := by
    rw [h.account]
    rfl
  have hread : (reads fun s => findDevice s.clients uauth.deviceId (s.connections.at' uid)).run s =
      (.ok none, s) := by rw [run_reads, h.noOther]
  unfold clientLoginImpl State.activated
  rw [run_bind_of_ok hraise, if_neg h.notExpired, hdevices,
    run_bind_of_ok (run_orFail_some _ _ _), hmatch]
  dsimp only
  rw [if_neg h.notBanned, run_bind_of_ok hread]
  dsimp only [Option.isSome_none]
  rw [if_neg Bool.false_ne_true]
  split_ifs with hnew
  · exact run_attempt_activateDevice (h.activates hnew) oid s
  · rfl

omit [Fastotv] in
/-- A login is accepted, or changes nothing. -/
theorem clientLoginImpl_cases (env : Env) (uid : UserId) (uauth : ServerAuthInfo) (doc : Doc)
    (s : State) :
    (∃ oid status, Accepts env s uid uauth doc oid status ∧
      (clientLoginImpl env uid uauth doc).run s =
        (.ok (), s.activated env uauth.login oid status)) ∨
    ∃ o, (clientLoginImpl env uid uauth doc).run s = (o, s) ∧ o ≠ .ok () := by
  by_cases haccepts : ∃ oid status, Accepts env s uid uauth doc oid status
  · obtain ⟨oid, status, haccepts⟩ := haccepts
    exact Or.inl ⟨oid, status, haccepts, run_clientLoginImpl_of_accepts haccepts⟩
  right
  unfold clientLoginImpl
  cases haccount : checkAccount doc uauth.password with
  | error err => exact ⟨.error err, rfl, nofun⟩
  | ok u =>
    have hraise : (orRaise (.ok u) : Call Unit).run s = (.ok u, s) := rfl
    rw [run_bind_of_ok hraise]
    by_cases hexpired : env.now > uauth.expiredDate
    · rw [if_pos hexpired]
      exact ⟨_, rfl, nofun⟩
    rw [if_neg hexpired]
    cases hdevices : arrayField? doc devicesField with
    | none => exact ⟨_, rfl, nofun⟩
    | some devices =>
      rw [run_bind_of_ok (run_orFail_some _ _ _)]
      cases hmatch : devices.findSome? (matchDevice uauth.deviceId) with
      | none =>
        dsimp only
        split_ifs
        · exact ⟨_, rfl, nofun⟩
        · exact ⟨_, rfl, nofun⟩
      | some found =>
        obtain ⟨oid, status⟩ := found
        dsimp only
        by_cases hbanned : status = deviceBanned
        · rw [if_pos hbanned]
          exact ⟨_, rfl, nofun⟩
        rw [if_neg hbanned, run_bind, run_reads]
        cases hother : findDevice s.clients uauth.deviceId (s.connections.at' uid) with
        | error err => exact ⟨_, rfl, nofun⟩
        | abort => exact ⟨_, rfl, nofun⟩
        | ok other =>
          cases other with
          | some connection => exact ⟨_, rfl, nofun⟩
          | none =>
            dsimp only [Option.isSome_none]
            rw [if_neg Bool.false_ne_true]
            have hends : status = deviceNotActive ∧ env.bconAborts uauth.login = true := by
              by_contra hgoes
              rw [not_and, Bool.not_eq_true] at hgoes
              exact haccepts ⟨oid, status, haccount, hexpired, ⟨devices, hdevices, hmatch⟩, hbanned,
                hother, hgoes⟩
            rw [if_pos hends.1]
            exact ⟨.abort, run_attempt_activateDevice_of_aborts hends.2 oid s, nofun⟩

/-- A login that succeeds was looked up and accepted. -/
theorem login_eq_ok {env : Env} {c : Credentials} {s s' : State} {info : ServerDBAuthInfo}
    (h : (login env c).run s = (.ok info, s')) :
    ∃ f oid status, lookUp env s.db c = .ok f ∧
      Accepts env s f.uid f.uauth f.doc.toDoc oid status ∧ info = ⟨f.uauth, f.uid⟩ ∧
      s' = s.activated env f.uauth.login oid status := by
  rw [run_login] at h
  cases hf : lookUp env s.db c with
  | error err =>
    rw [hf] at h
    cases h
  | ok f =>
    rw [hf] at h
    rcases clientLoginImpl_cases env f.uid f.uauth f.doc.toDoc s with
      ⟨oid, status, haccepts, hrun⟩ | ⟨o, hrun, hno⟩
    · dsimp only at h
      rw [run_bind_of_ok hrun, run_pure, Prod.mk.injEq] at h
      exact ⟨f, oid, status, rfl, haccepts, (Outcome.ok.inj h.1).symm, h.2.symm⟩
    · dsimp only at h
      rw [run_bind, hrun] at h
      cases o with
      | ok u => exact absurd rfl hno
      | error err => cases h
      | abort => cases h

/-- A login succeeds, and then it is at most a device that has become active, or it changes
nothing. -/
theorem login_cases (env : Env) (c : Credentials) (s : State) :
    (∃ info oid status, (login env c).run s = (.ok info, s.activated env info.login oid status)) ∨
      ∃ o, (login env c).run s = (o, s) ∧ ∀ info, o ≠ .ok info := by
  rw [run_login]
  cases lookUp env s.db c with
  | error err => exact Or.inr ⟨_, rfl, nofun⟩
  | ok f =>
    dsimp only
    rcases clientLoginImpl_cases env f.uid f.uauth f.doc.toDoc s with
      ⟨oid, status, -, hrun⟩ | ⟨o, hrun, hno⟩
    · rw [run_bind_of_ok hrun]
      exact Or.inl ⟨⟨f.uauth, f.uid⟩, oid, status, rfl⟩
    · rw [run_bind, hrun]
      cases o with
      | ok u => exact absurd rfl hno
      | error err => exact Or.inr ⟨_, rfl, nofun⟩
      | abort => exact Or.inr ⟨_, rfl, nofun⟩

/-! ### Events that log in -/

/-- The call of `ClientLogin` that an event makes. -/
structure LoginCall where
  client : ClientId
  env : Env
  credentials : Credentials

/-- The call of `ClientLogin` that an event makes, if it does. -/
def Event.loginCall (s : State) : Event → Option LoginCall
  | .request client sur ⟨_, .login (.decoded uauth)⟩ =>
    if (s.clients client).any (fun c => c.kind = .subscriber) then
      some ⟨client, sur.toEnv, .byEmail uauth⟩
    else none
  | .http client sur (.request hrequest) =>
    if (s.clients client).any (fun c => c.kind = .http) ∧ s.loginOf client = none ∧
        hrequest.method ≠ .other then
      match hrequest.path.map tokenize with
      | some (uid :: password :: dev :: _ :: _ :: _ :: _) =>
        some ⟨client, sur.toEnv, .byUid uid password dev⟩
      | _ => none
    else none
  | _ => none

/-- The stream of a request whose path names one. -/
def serveSegments (sur : HttpSurroundings) (client : ClientId) (hrequest : HttpRequest)
    (info : ServerDBAuthInfo) : Call Unit :=
  match hrequest.path.map tokenize with
  | some (_ :: _ :: _ :: sid :: channel :: name :: _) =>
    serveStream sur client hrequest info sid channel name
  | _ => pure ()

/-- What is left of the event once its login was accepted. -/
def Event.afterLogin (info : ServerDBAuthInfo) : Event → Call Unit
  | .request client sur ⟨id, _⟩ => finishClientLogin sur client id info
  | .http client sur (.request hrequest) => do
    registerInnerConnectionByHost client info
    serveSegments sur client hrequest info
    if hrequest.keepAlive then pure () else closeAndDelete client
  | _ => pure ()

omit [Fastotv] in
theorem run_result_of_ok {α : Type} {x : Call α} {s s' : State} {a : α}
    (h : x.run s = (.ok a, s')) : (result x).run s = (.ok (.ok a), s') := by rw [run_result, h]

/-- A registration succeeds, or is the end of the process. -/
theorem registerInnerConnectionByHost_cases (client : ClientId) (info : ServerDBAuthInfo)
    (s : State) :
    (∃ c, s.clients client = some c ∧
      (registerInnerConnectionByHost client info).run s = (.ok (), s.join client info c)) ∨
    (registerInnerConnectionByHost client info).run s = (.abort, s) := by
  by_cases hvalid : info.isValid = true
  · cases hc : s.clients client with
    | some c => exact Or.inl ⟨c, rfl, run_registerInnerConnectionByHost hvalid hc⟩
    | none =>
      right
      unfold registerInnerConnectionByHost assign
      rw [if_neg (by simp [hvalid]), run_bind, run_bind, run_deref_none hc]
  · exact Or.inr (run_registerInnerConnectionByHost_of_not (by simpa using hvalid))

/-- An event whose login is accepted goes on with the registration. -/
theorem run_action_of_loginCall {e : Event} {call : LoginCall} {s s' : State}
    {info : ServerDBAuthInfo} (hcall : e.loginCall s = some call)
    (hlogin : (login call.env call.credentials).run s = (.ok info, s')) :
    (e.action).run s = (e.afterLogin info).run s' := by
  unfold Event.action
  rw [run_bind_of_ok (run_reads _ _)]
  cases e with
  | request client sur req =>
    obtain ⟨id, command⟩ := req
    cases command with
    | login params =>
      cases params with
      | decoded uauth =>
        unfold Event.loginCall at hcall
        dsimp only at hcall
        split_ifs at hcall with hc
        obtain rfl := Option.some.inj hcall
        dsimp only
        rw [if_pos hc]
        unfold handleRequestCommand handleRequestClientLogin orReply
        exact run_bind_of_ok (run_result_of_ok hlogin)
      | _ => cases hcall
    | _ => cases hcall
  | http client sur input =>
    cases input with
    | request hrequest =>
      unfold Event.loginCall at hcall
      dsimp only at hcall
      split_ifs at hcall with hc
      obtain ⟨hopen, hnone, hmethod⟩ := hc
      cases hpath : hrequest.path with
      | none =>
        rw [hpath] at hcall
        cases hcall
      | some path =>
        rw [hpath, Option.map_some] at hcall
        split at hcall
        · rename_i uid password dev sid channel name rest htokens
          obtain rfl := Option.some.inj hcall
          obtain ⟨c, hc, -⟩ := (Option.any_eq_true _ _).mp hopen
          have hcnone : c.login = none := by rwa [State.loginOf, hc] at hnone
          dsimp only
          rw [if_pos hopen]
          unfold processReceived serveRequest Event.afterLogin serveSegments
          dsimp only
          rw [if_neg hmethod, hpath]
          dsimp only [Option.map_some]
          rw [Option.some.inj htokens]
          unfold servePath
          -- The registration is the next thing in both.
          have hrun : (loginOfRequest sur client uid password dev).run s =
              (do
                registerInnerConnectionByHost client info
                pure info : Call ServerDBAuthInfo).run s' := by
            rw [run_loginOfRequest_of_none hc hcnone]
            exact run_bind_of_ok hlogin
          rcases registerInnerConnectionByHost_cases client info s' with
            ⟨c, -, hregister⟩ | hregister
          · rw [run_bind_of_ok hregister, run_pure] at hrun
            rw [run_bind_of_ok hregister, run_bind, run_bind_of_ok (run_result_of_ok hrun)]
            rfl
          · rw [run_bind, hregister] at hrun
            rw [run_bind, run_bind, run_result, hrun, run_bind, hregister]
        · cases hcall
    | _ => cases hcall
  | _ => cases hcall

/-- The connection that an event may log in. -/
def Event.loggingIn : Event → Option ClientId
  | .request client _ _ => some client
  | .http client _ (.request _) => some client
  | _ => none

omit [Fastotv] in
theorem loggingIn_of_loginCall {e : Event} {s : State} {call : LoginCall}
    (h : e.loginCall s = some call) : e.loggingIn = some call.client := by
  cases e with
  | request client sur req =>
    obtain ⟨id, command⟩ := req
    cases command with
    | login params =>
      cases params with
      | decoded uauth =>
        unfold Event.loginCall at h
        dsimp only at h
        split_ifs at h
        obtain rfl := Option.some.inj h
        rfl
      | _ => cases h
    | _ => cases h
  | http client sur input =>
    cases input with
    | request hrequest =>
      unfold Event.loginCall at h
      dsimp only at h
      split_ifs at h
      split at h
      · obtain rfl := Option.some.inj h
        rfl
      · cases h
    | _ => cases h
  | _ => cases h

/-- What comes after a login that was accepted, where the relation allows the registration and the
end of the connection. -/
theorem within_afterLogin {R : State → State → Prop} [IsPreorder State R]
    (hquiet : ∀ s s', Quiet FromHandler s s' → R s s') {e : Event} {client : ClientId}
    {info : ServerDBAuthInfo} (he : e.loggingIn = some client)
    (hjoin : ∀ s c, s.clients client = some c → R s (s.join client info c))
    (hclose : Within R (closeAndDelete client)) : Within R (e.afterLogin info) := by
  have hregister : Within R (registerInnerConnectionByHost client info) := by
    intro s
    rcases registerInnerConnectionByHost_cases client info s with ⟨c, hc, hrun⟩ | hrun
    · rw [hrun]
      exact hjoin s c hc
    · rw [hrun]
      exact refl_of R s
  cases e with
  | request client' sur req =>
    obtain rfl := Option.some.inj he
    exact within_bind (within_reply hquiet) fun _ => hregister
  | http client' sur input =>
    cases input with
    | request hrequest =>
      obtain rfl := Option.some.inj he
      unfold Event.afterLogin
      refine within_bind hregister fun _ => within_bind ?_ fun _ => ?_
      · unfold serveSegments
        split
        · exact within_of_keeps hquiet (keeps_serveStream _ _ _ _ _)
        · exact within_pure _
      · split_ifs
        · exact within_pure _
        · exact hclose
    | _ => cases he
  | _ => cases he

/-- Whoever is logged in by an event was accepted by its call of `ClientLogin`. -/
theorem Joins.loginCall {e : Event} {s : State} {client : ClientId} {info : ServerDBAuthInfo}
    (h : Joins s client info e) :
    ∃ call, e.loginCall s = some call ∧ call.client = client ∧
      ((login call.env call.credentials).run s).1 = .ok info := by
  cases e with
  | request client' sur req =>
    obtain ⟨id, command⟩ := req
    cases command with
    | login params =>
      obtain ⟨rfl, hopen, hlogs⟩ := h
      obtain ⟨uauth, rfl, hok⟩ := hlogs.accepted
      exact ⟨⟨client', sur.toEnv, .byEmail uauth⟩, if_pos hopen, rfl, hok⟩
    | _ => exact h.elim
  | http client' sur input =>
    cases input with
    | request hrequest =>
      obtain ⟨rfl, hopen, hlogs⟩ := h
      obtain ⟨path, uid, password, dev, sid, channel, name, rest, hpath, htokens, hok⟩ :=
        hlogs.accepted
      refine ⟨⟨client', sur.toEnv, .byUid uid password dev⟩, ?_, rfl, hok⟩
      unfold Event.loginCall
      dsimp only
      rw [if_pos ⟨hopen, hlogs.notLogged, hlogs.method⟩, hpath, Option.map_some, htokens]
    | _ => exact h.elim
  | _ => exact h.elim

end

end LoadBalance
