import LoadBalance.Equiv.Admission
import LoadBalance.Equiv.Credentials
import LoadBalance.Mongo.Equiv.NullIds

/-!
# What ends the process

Besides the values that are no object ids (`returns_clientGetChannels_iff` and the like), three
things end the process: a login that comes to a deleted object in the search for its device, one
that has to activate its device under an email that `BCON_NEW` takes for structure, and the
registration of a login that is not valid.  By email a login is checked before anything else; by
user id its email is whatever the document says.  `no_abort_iff` puts the exact conditions of the
calls together. -/

namespace LoadBalance

open LoadBalance.Action

/-! ### The search for a device -/

/-- The search for a device comes to a deleted object. -/
theorem findDevice_eq_abort_iff {clients : ClientId → Option Client} {device : DeviceId}
    {l : List ClientId} : findDevice clients device l = .abort ↔
      ∃ pre p post, l = pre ++ p :: post ∧ clients p = none ∧ ∀ q ∈ pre, ∀ c login,
        clients q = some c → c.login = some login → login.deviceId ≠ device := by
  induction l with
  | nil =>
    refine iff_of_false Outcome.ok_ne_abort ?_
    rintro ⟨pre, p, post, h, -⟩
    simp at h
  | cons client l ih =>
    cases hc : clients client with
    | none =>
      rw [findDevice_cons_of_none hc]
      exact iff_of_true rfl ⟨[], client, l, rfl, hc, by simp⟩
    | some c =>
      rw [findDevice_cons_of_some hc]
      split_ifs with hdevice
      · -- The search ends here.
        refine iff_of_false not_false ?_
        rintro ⟨pre, p, post, h, hp, hpre⟩
        obtain ⟨login, hlogin, hsame⟩ := (Option.any_eq_true _ _).mp hdevice
        cases pre with
        | nil =>
          obtain ⟨rfl, -⟩ := List.cons.inj h
          cases hp.symm.trans hc
        | cons q pre =>
          obtain ⟨rfl, -⟩ := List.cons.inj h
          exact hpre _ List.mem_cons_self c login hc hlogin (by simpa using hsame)
      · rw [ih]
        constructor
        · rintro ⟨pre, p, post, rfl, hp, hpre⟩
          refine ⟨client :: pre, p, post, rfl, hp, List.forall_mem_cons.mpr ⟨?_, hpre⟩⟩
          intro c' login hc' hlogin hsame
          obtain rfl := Option.some.inj (hc.symm.trans hc')
          exact hdevice (by simp [hlogin, hsame])
        · rintro ⟨pre, p, post, h, hp, hpre⟩
          cases pre with
          | nil =>
            obtain ⟨rfl, -⟩ := List.cons.inj h
            cases hp.symm.trans hc
          | cons q pre =>
            obtain ⟨rfl, rfl⟩ := List.cons.inj h
            exact ⟨pre, p, post, rfl, hp, (List.forall_mem_cons.mp hpre).2⟩

/-- Among the connections of the user id the search for the device comes to a deleted object. -/
def VisitsDeleted (s : State) (uid : UserId) (device : DeviceId) : Prop :=
  ∃ pre p post, s.connections.at' uid = pre ++ p :: post ∧ s.clients p = none ∧
    ∀ q ∈ pre, ∀ c login, s.clients q = some c → c.login = some login → login.deviceId ≠ device

/-- The state without anybody logged in. -/
def State.alone (s : State) : State := { s with connections := ∅ }

/-! ### Logins -/

/-- The process ends in a login that everything but the connections admits: at the connections, when
it comes to a deleted object among them, or at its email, when there is no other connection and the
device has to be activated. -/
def EndsLogin (env : Env) (s : State) (uid : UserId) (uauth : ServerAuthInfo) (doc : Doc) : Prop :=
  VisitsDeleted s uid uauth.deviceId ∨
    s.DeviceFree uid uauth.deviceId ∧ EndsActivating env uauth doc

/-- A login ends the process when everything is right with it but for that. -/
theorem run_clientLoginImpl_eq_abort_iff {env : Env} {uid : UserId} {uauth : ServerAuthInfo}
    {doc : Doc} {s : State} : ((clientLoginImpl env uid uauth doc).run s).1 = .abort ↔
      Admits cstr env s.alone uid uauth doc ∧ EndsLogin env s uid uauth doc := by
  unfold clientLoginImpl EndsLogin
  cases haccount : checkAccount doc uauth.password with
  | error err =>
    refine iff_of_false nofun ?_
    rintro ⟨h, -⟩
    cases haccount.symm.trans (checkAccount_eq_ok.mpr ⟨h.status, h.password⟩)
  | ok u =>
    have hraise : (orRaise (.ok u) : Call Unit).run s = (.ok u, s) := rfl
    rw [run_bind_of_ok hraise]
    by_cases hexpired : env.now > uauth.expiredDate
    · rw [if_pos hexpired]
      exact iff_of_false nofun fun h => absurd h.1.notExpired (Int64.not_le.mpr hexpired)
    rw [if_neg hexpired]
    cases hdevices : arrayField? doc devicesField with
    | none =>
      refine iff_of_false nofun ?_
      rintro ⟨h, -⟩
      obtain ⟨as, e, bs, status, hsome, -⟩ := h.device
      cases hdevices.symm.trans (arrayField?_eq_some.mpr hsome)
    | some devices =>
      rw [run_bind_of_ok (run_orFail_some _ _ _)]
      cases hmatch : devices.findSome? (matchDevice uauth.deviceId) with
      | none =>
        refine iff_of_false ?_ ?_
        · dsimp only
          split_ifs
          · exact nofun
          · exact nofun
        · rintro ⟨h, -⟩
          obtain ⟨o, status, haccepts⟩ := exists_device_of_admits h
          obtain ⟨devices', hsome, hfound⟩ := haccepts
          obtain rfl := Option.some.inj (hdevices.symm.trans hsome)
          cases hmatch.symm.trans hfound.1
      | some found =>
        obtain ⟨oid, status⟩ := found
        have hends : EndsActivating env uauth doc ↔
            status = deviceNotActive ∧ env.bconAborts uauth.login = true :=
          endsActivating_iff hdevices hmatch
        dsimp only
        by_cases hbanned : status = deviceBanned
        · rw [if_pos hbanned]
          refine iff_of_false nofun ?_
          rintro ⟨h, -⟩
          obtain ⟨o, status', devices', hsome, hfound, hnot⟩ := exists_device_of_admits h
          obtain rfl := Option.some.inj (hdevices.symm.trans hsome)
          obtain ⟨-, rfl⟩ := Prod.mk.inj (Option.some.inj (hmatch.symm.trans hfound))
          exact hnot hbanned
        have hadmits : Admits cstr env s.alone uid uauth doc := by
          obtain ⟨as, e, bs, rfl, has, he⟩ := findSome?_matchDevice.mp ⟨oid, hmatch⟩
          obtain ⟨hstatus, hpassword⟩ := checkAccount_eq_ok.mp haccount
          exact ⟨hstatus, hpassword, Int64.not_lt.mp hexpired,
            ⟨as, e, bs, status, arrayField?_eq_some.mp hdevices, has, he, hbanned⟩,
            fun client hclient => absurd hclient List.not_mem_nil⟩
        rw [if_neg hbanned, run_bind, run_reads, and_iff_right hadmits, hends]
        have hvisits : VisitsDeleted s uid uauth.deviceId ↔
            findDevice s.clients uauth.deviceId (s.connections.at' uid) = .abort :=
          findDevice_eq_abort_iff.symm
        have hfree : s.DeviceFree uid uauth.deviceId ↔
            findDevice s.clients uauth.deviceId (s.connections.at' uid) = .ok none :=
          findDevice_eq_none.symm
        rw [hvisits, hfree]
        cases findDevice s.clients uauth.deviceId (s.connections.at' uid) with
        | error err => exact iff_of_false nofun (by simp)
        | abort => exact iff_of_true rfl (Or.inl rfl)
        | ok other =>
          cases other with
          | some connection => exact iff_of_false nofun (by simp)
          | none =>
            -- It is down to the activation.
            dsimp only [Option.isSome_none]
            rw [if_neg Bool.false_ne_true]
            by_cases hnew : status = deviceNotActive
            · rw [if_pos hnew]
              cases haborts : env.bconAborts uauth.login with
              | true =>
                rw [run_attempt_activateDevice_of_aborts haborts]
                exact iff_of_true rfl (Or.inr ⟨rfl, hnew, rfl⟩)
              | false =>
                rw [run_attempt_activateDevice haborts]
                exact iff_of_false nofun (by simp)
            · rw [if_neg hnew]
              exact iff_of_false nofun (by simp [hnew])

section

variable [Fastotv] {env : Env} {s : State} {c : Credentials}

/-- A login comes to an end, whatever it is. -/
def LoginReturns (env : Env) (s : State) (c : Credentials) : Prop :=
  ∀ f, lookUp env s.db c = .ok f → Admits cstr env s.alone f.uid f.uauth f.doc.toDoc →
    ¬EndsLogin env s f.uid f.uauth f.doc.toDoc

/-- A login that is accepted is a valid one. -/
def AcceptsValid (env : Env) (s : State) (c : Credentials) : Prop :=
  ∀ f, lookUp env s.db c = .ok f → Admits cstr env s f.uid f.uauth f.doc.toDoc →
    (⟨f.uauth, f.uid⟩ : ServerDBAuthInfo).isValid = true

theorem returns_login_iff : ((login env c).run s).1.Returns ↔ LoginReturns env s c := by
  unfold LoginReturns
  rw [run_login]
  cases hf : lookUp env s.db c with
  | error err => exact iff_of_true trivial nofun
  | ok f =>
    dsimp only
    rw [run_bind]
    have himpl : ((clientLoginImpl env f.uid f.uauth f.doc.toDoc).run s).1 = .abort ↔ _ :=
      run_clientLoginImpl_eq_abort_iff
    rcases hrun : (clientLoginImpl env f.uid f.uauth f.doc.toDoc).run s with ⟨u | err | _, s'⟩
    · rw [hrun] at himpl
      refine iff_of_true trivial fun f' hf' hadmits hends => ?_
      obtain rfl := Except.ok.inj hf'
      cases himpl.mpr ⟨hadmits, hends⟩
    · rw [hrun] at himpl
      refine iff_of_true trivial fun f' hf' hadmits hends => ?_
      obtain rfl := Except.ok.inj hf'
      cases himpl.mpr ⟨hadmits, hends⟩
    · rw [hrun] at himpl
      obtain ⟨hadmits, hends⟩ := himpl.mp rfl
      exact iff_of_false Outcome.not_returns_abort fun hall => hall f rfl hadmits hends

/-- Whoever is admitted is logged in, or ends the process. -/
theorem run_login_of_admits {f : Found} (hf : lookUp env s.db c = .ok f)
    (hadmits : Admits cstr env s f.uid f.uauth f.doc.toDoc) :
    ((login env c).run s).1 = .ok ⟨f.uauth, f.uid⟩ ∨ ((login env c).run s).1 = .abort := by
  rw [run_login, hf]
  dsimp only
  by_cases hends : EndsActivating env f.uauth f.doc.toDoc
  · have halone : Admits cstr env s.alone f.uid f.uauth f.doc.toDoc :=
      ⟨hadmits.status, hadmits.password, hadmits.notExpired, hadmits.device,
        fun client hclient => absurd hclient List.not_mem_nil⟩
    right
    rw [run_bind]
    have habort : ((clientLoginImpl env f.uid f.uauth f.doc.toDoc).run s).1 = .abort :=
      run_clientLoginImpl_eq_abort_iff.mpr ⟨halone, Or.inr ⟨hadmits.free, hends⟩⟩
    rcases hrun : (clientLoginImpl env f.uid f.uauth f.doc.toDoc).run s with ⟨o, s'⟩
    rw [hrun] at habort
    obtain rfl : o = .abort := habort
    rfl
  · obtain ⟨oid, status, haccepts⟩ := accepts_iff.mpr ⟨hadmits, hends⟩
    rw [run_bind_of_ok (run_clientLoginImpl_of_accepts haccepts)]
    exact Or.inl rfl

/-- Whoever is logged in was admitted. -/
theorem admits_of_login {s' : State} {info : ServerDBAuthInfo}
    (h : (login env c).run s = (.ok info, s')) :
    ∃ f oid status, lookUp env s.db c = .ok f ∧ Admits cstr env s f.uid f.uauth f.doc.toDoc ∧
      info = ⟨f.uauth, f.uid⟩ ∧ s' = s.activated env f.uauth.login oid status := by
  obtain ⟨f, oid, status, hf, haccepts, hinfo, hs'⟩ := login_eq_ok h
  exact ⟨f, oid, status, hf, (accepts_iff.mp ⟨oid, status, haccepts⟩).1, hinfo, hs'⟩

/-- The logins that are accepted are valid exactly when the one that comes out is. -/
theorem acceptsValid_of_login {s' : State} {info : ServerDBAuthInfo}
    (h : (login env c).run s = (.ok info, s')) : AcceptsValid env s c ↔ info.isValid = true := by
  obtain ⟨f, oid, status, hf, hadmits, rfl, -⟩ := admits_of_login h
  constructor
  · exact fun hall => hall f hf hadmits
  · intro hvalid f' hf' _
    obtain rfl := Except.ok.inj (hf.symm.trans hf')
    exact hvalid

/-- Nobody is accepted by a login that fails. -/
theorem acceptsValid_of_error {s' : State} {err : Error}
    (h : (login env c).run s = (.error err, s')) : AcceptsValid env s c := by
  intro f hf hadmits
  have hlogin := run_login_of_admits hf hadmits
  rw [h] at hlogin
  rcases hlogin with hok | habort
  · cases hok
  · cases habort

/-! ### The request for a login -/

variable {client : ClientId}

/-- The `CHECK` of the registration. -/
theorem returns_registerInnerConnectionByHost_iff {info : ServerDBAuthInfo} {c : Client}
    (hc : s.clients client = some c) :
    ((registerInnerConnectionByHost client info).run s).1.Returns ↔ info.isValid = true := by
  by_cases hvalid : info.isValid = true
  · rw [run_registerInnerConnectionByHost hvalid hc]
    exact iff_of_true trivial hvalid
  · rw [run_registerInnerConnectionByHost_of_not (by simpa using hvalid)]
    exact iff_of_false Outcome.not_returns_abort hvalid

theorem returns_finishClientLogin_iff {sur : Surroundings} {id : RequestId}
    {info : ServerDBAuthInfo} {c : Client} (hc : s.clients client = some c) :
    ((finishClientLogin sur client id info).run s).1.Returns ↔
      (sur.sends client = true → info.isValid = true) := by
  unfold finishClientLogin reply write
  split_ifs with hsends
  · unfold send
    rw [run_bind_of_ok (run_modify _ _), forall_prop_of_true hsends]
    exact returns_registerInnerConnectionByHost_iff hc
  · exact iff_of_true trivial fun h => absurd h hsends

/-- A request for a login comes to an end when the login does and, if the subscriber can be told, it
is a valid one. -/
theorem returns_loginRequest_iff {sur : Surroundings} {id : RequestId}
    {params : Params AuthInfo} :
    (((Event.request client sur ⟨id, .login params⟩).action).run s).1.Returns ↔
      ((s.clients client).any (fun c => c.kind = .subscriber) = true →
        ∀ uauth, params = .decoded uauth → LoginReturns sur.toEnv s (.byEmail uauth) ∧
          (sur.sends client = true → AcceptsValid sur.toEnv s (.byEmail uauth))) := by
  by_cases hopen : (s.clients client).any (fun c => c.kind = .subscriber) = true
  swap
  · rw [run_action_request_of_not hopen]
    exact iff_of_true trivial fun h => absurd h hopen
  rw [run_action_request hopen, forall_prop_of_true hopen]
  unfold handleRequestCommand handleRequestClientLogin
  dsimp only
  cases params with
  | absent => exact iff_of_true trivial nofun
  | refused err =>
    rw [run_bind_of_ok run_attempt_reply]
    exact iff_of_true trivial nofun
  | decoded uauth =>
    simp only [Params.decoded.injEq, forall_eq']
    rw [← returns_login_iff]
    have hlogin : clientLogin sur.toEnv uauth = login sur.toEnv (.byEmail uauth) := rfl
    unfold orReply
    rw [hlogin, run_bind, run_result]
    rcases hrun : (login sur.toEnv (.byEmail uauth)).run s with ⟨info | err | _, s'⟩
    · -- The connection is there, also after the login.
      have hkeeps := keeps_login (P := Nothing) sur.toEnv (.byEmail uauth) s
      rw [hrun] at hkeeps
      have hopen' : s'.clients client ≠ none := by
        rw [ne_eq, hkeeps.registry.isOpen]
        intro hnone
        rw [hnone] at hopen
        cases hopen
      obtain ⟨c, hc⟩ := Option.ne_none_iff_exists'.mp hopen'
      rw [acceptsValid_of_login hrun]
      dsimp only
      rw [and_iff_right (Outcome.returns_ok info)]
      exact returns_finishClientLogin_iff hc
    · dsimp only
      rw [run_bind_of_ok run_attempt_reply]
      exact iff_of_true trivial ⟨trivial, fun _ => acceptsValid_of_error hrun⟩
    · exact iff_of_false Outcome.not_returns_abort fun h => h.1

/-! ### Calls for a connection that is there -/

/-- As long as the connection is there the call comes to an end, and leaves the connection there. -/
def Stays {α : Type} (client : ClientId) (x : Call α) : Prop :=
  ∀ s, s.clients client ≠ none → (x.run s).1.Returns ∧ (x.run s).2.clients client ≠ none

section stays

omit [Fastotv]

variable {α β : Type}

theorem stays_pure (a : α) : Stays client (pure a : Call α) := fun _ hs => ⟨trivial, hs⟩

theorem stays_bind {x : Call α} {f : α → Call β} (hx : Stays client x)
    (hf : ∀ a, Stays client (f a)) : Stays client (x >>= f) := by
  intro s hs
  have hxs := hx s hs
  rw [run_bind]
  rcases hr : x.run s with ⟨a | e | _, s'⟩ <;> rw [hr] at hxs
  · exact hf a s' hxs.2
  · exact hxs
  · exact hxs.1.elim

theorem stays_result {x : Call α} (hx : Stays client x) : Stays client (result x) := by
  intro s hs
  have hxs := hx s hs
  rw [run_result]
  rcases hr : x.run s with ⟨a | e | _, s'⟩ <;> rw [hr] at hxs
  · exact hxs
  · exact hxs
  · exact hxs.1.elim

theorem stays_attempt {x : Call Unit} (hx : Stays client x) : Stays client (attempt x) := by
  intro s hs
  have hxs := hx s hs
  rw [run_attempt]
  rcases hr : x.run s with ⟨a | e | _, s'⟩ <;> rw [hr] at hxs
  · exact hxs
  · exact hxs
  · exact hxs.1.elim

theorem stays_send {o : Output} : Stays client (send o) := fun _ hs => ⟨trivial, hs⟩

theorem stays_write {sur : Surroundings} {o : Output} : Stays client (write sur client o) := by
  unfold write
  split_ifs
  · exact stays_send
  · exact fun _ hs => ⟨trivial, hs⟩

theorem stays_assign {f : Client → Client} : Stays client (assign client f) := by
  intro s hs
  obtain ⟨c, hc⟩ := Option.ne_none_iff_exists'.mp hs
  rw [run_assign hc]
  refine ⟨trivial, ?_⟩
  dsimp only
  rw [Function.update_self]
  exact nofun

/-- Where only the first half can end the process. -/
theorem returns_bind_of_open {x : Call α} {f : α → Call β}
    (hopen : (x.run s).2.clients client ≠ none)
    (hf : ∀ a s', s'.clients client ≠ none → ((f a).run s').1.Returns) :
    ((x >>= f).run s).1.Returns ↔ (x.run s).1.Returns := by
  rw [run_bind]
  rcases hr : x.run s with ⟨a | e | _, s'⟩ <;> rw [hr] at hopen
  · exact iff_of_true (hf a s' hopen) trivial
  · exact Iff.rfl
  · exact Iff.rfl

variable {sur : HttpSurroundings} {request : HttpRequest} {sid : StreamId}

theorem stays_sendError {keepAlive : Bool} {status : HttpStatus} {err : Error} :
    Stays client (sendError sur client keepAlive status err) := stays_attempt stays_write

theorem stays_sendRedirect {keepAlive : Bool} {url : Gurl} :
    Stays client (sendRedirect sur client keepAlive url sid) := by
  unfold sendRedirect
  refine stays_bind (stays_result stays_write) fun r => ?_
  split
  · exact stays_pure _
  · exact stays_assign

theorem stays_sendOpenFile {path mime : String} {size mtime : ℕ} :
    Stays client (sendOpenFile sur client request path size mtime mime sid) := by
  unfold sendOpenFile
  refine stays_bind (stays_result stays_write) fun r => ?_
  split
  · exact stays_send
  · refine stays_bind ?_ fun _ => stays_send
    unfold sendFileByFd
    split_ifs
    · exact stays_bind stays_send fun _ => stays_assign
    · exact stays_pure _

end stays

/-- A source that was found is served, or there is an error. -/
theorem stays_sendSource {sur : HttpSurroundings} {request : HttpRequest} {source : HttpSource}
    {name : String} {sid : StreamId} :
    Stays client (sendSource sur client request source name sid) := by
  unfold sendSource
  split
  · exact stays_sendRedirect
  · split_ifs
    · unfold sendFile
      split
      · exact stays_sendError
      · split
        · exact stays_sendError
        · exact stays_sendError
        · exact stays_sendError
        · exact stays_bind stays_send fun _ => stays_sendOpenFile
    · exact stays_sendRedirect

/-! ### Requests over HTTP -/

variable {sur : HttpSurroundings} {request : HttpRequest} {uid : UserId} {password : String}
  {dev : DeviceId} {sid : StreamId} {channel name : String} {rest : List String}

theorem returns_serveStream_iff {auth : ServerDBAuthInfo} (hopen : s.clients client ≠ none) :
    ((serveStream sur client request auth sid channel name).run s).1.Returns ↔
      ∀ cid, Fastotv.channelId channel = some cid → SourceIds s.db auth.toAuthInfo sid := by
  unfold serveStream
  cases Fastotv.channelId channel with
  | none => exact iff_of_true (stays_sendError s hopen).1 nofun
  | some cid =>
    have hsource : (clientFindHttpDirectoryOrUrlForChannel sur.toEnv s.db auth.toAuthInfo sid
        cid).Returns ↔ SourceIds s.db auth.toAuthInfo sid := returns_findSource_iff
    simp only [Option.some.injEq, forall_eq']
    rw [← hsource, run_bind, run_result, run_reads]
    cases clientFindHttpDirectoryOrUrlForChannel sur.toEnv s.db auth.toAuthInfo sid cid with
    | ok source => exact iff_of_true (stays_sendSource s hopen).1 trivial
    | error err => exact iff_of_true (stays_sendError s hopen).1 trivial
    | abort => exact Iff.rfl

omit [Fastotv] in
/-- The devices apart, the fields are the same. -/
def SameButDevices (d d' : StoredDoc) : Prop :=
  ∀ k, k ≠ idField → k ≠ devicesField → d'.toDoc.get? k = d.toDoc.get? k

omit [Fastotv] in
/-- The devices apart, a login leaves the subscribers as they were. -/
theorem forall₂_activated (s : State) (env : Env) (login : String) (oid : Oid) (status : Int32) :
    List.Forall₂ SameButDevices s.db.subscribers.docs
      (s.activated env login oid status).db.subscribers.docs := by
  unfold State.activated
  split_ifs
  · rcases hrun : (activateDevice env login oid).run s.db with ⟨o, db⟩
    rcases run_activateDevice_cases hrun with ⟨-, -, -, c, hc, rfl⟩ | ⟨-, rfl⟩
    · refine Collection.forall₂_update (fun _ _ _ _ => rfl) hc ?_
      intro d d' v _ _ _ _ hfields k hid hk
      rw [StoredDoc.get?_toDoc hid, StoredDoc.get?_toDoc hid, hfields, Doc.get?_set_ne _ _ hk]
    · exact forall₂_refl (fun _ _ _ _ => rfl) _
  · exact forall₂_refl (fun _ _ _ _ => rfl) _

/-- So the search for the place of a channel is not a matter of it. -/
theorem sourceIds_activated {env : Env} {login : String} {oid : Oid} {status : Int32}
    {auth : AuthInfo} :
    SourceIds (s.activated env login oid status).db auth sid ↔ SourceIds s.db auth sid := by
  have hfind : Option.Rel SameButDevices (findByEmail s.db auth.login)
      (findByEmail (s.activated env login oid status).db auth.login) := by
    refine rel_find? (forall₂_activated s env login oid status) fun d d' hd => ?_
    unfold Doc.fieldMatches
    rw [hd emailField (by decide) (by decide)]
  unfold SourceIds
  generalize findByEmail (s.activated env login oid status).db auth.login = x at hfind
  generalize findByEmail s.db auth.login = y at hfind
  cases hfind with
  | none => exact Iff.rfl
  | @some d d' hd =>
    have harray : ∀ k, k ≠ idField → k ≠ devicesField →
        arrayField d'.toDoc k = arrayField d.toDoc k := by
      intro k hid hk
      unfold arrayField
      rw [hd k hid hk]
    simp only [Option.some.injEq, forall_eq']
    rw [harray userStreamsField userStreams_ne_id (by decide),
      harray userVodsField userVods_ne_id (by decide),
      harray userCatchupsField userCatchups_ne_id (by decide)]

/-- What a request with these segments needs to be answered: the login, if there has to be one,
comes to an end and can be registered, and so does the search for the place of the channel. -/
structure RequestReturns (sur : HttpSurroundings) (s : State) (c : Client) (uid : UserId)
    (password : String) (dev : DeviceId) (sid : StreamId) (channel : String) : Prop where
  login : c.login = none → LoginReturns sur.toEnv s (.byUid uid password dev) ∧
    AcceptsValid sur.toEnv s (.byUid uid password dev)
  logged : ∀ auth, c.login = some auth → ∀ cid, Fastotv.channelId channel = some cid →
    SourceIds s.db auth.toAuthInfo sid
  joined : c.login = none → ∀ f, lookUp sur.toEnv s.db (.byUid uid password dev) = .ok f →
    Admits cstr sur.toEnv s f.uid f.uauth f.doc.toDoc →
    ∀ cid, Fastotv.channelId channel = some cid → SourceIds s.db f.uauth.toAuthInfo sid

theorem returns_servePath_iff {c : Client} (hc : s.clients client = some c) :
    ((servePath sur client request
      (uid :: password :: dev :: sid :: channel :: name :: rest)).run s).1.Returns ↔
        RequestReturns sur s c uid password dev sid channel := by
  have hopen : s.clients client ≠ none := by simp [hc]
  unfold servePath
  rw [run_bind, run_result]
  cases hlogged : c.login with
  | some auth =>
    rw [run_loginOfRequest_of_some hc hlogged]
    dsimp only
    rw [returns_serveStream_iff hopen]
    constructor
    · intro h
      refine ⟨fun hnone => ?_, fun auth' hauth' => ?_, fun hnone => ?_⟩
      · cases hlogged.symm.trans hnone
      · obtain rfl := Option.some.inj (hlogged.symm.trans hauth')
        exact h
      · cases hlogged.symm.trans hnone
    · exact fun h => h.logged auth hlogged
  | none =>
    have hsame : clientLoginByUid sur.toEnv uid password dev =
        login sur.toEnv (.byUid uid password dev) := rfl
    have hreturns : ((login sur.toEnv (.byUid uid password dev)).run s).1.Returns ↔ _ :=
      returns_login_iff
    rw [run_loginOfRequest_of_none hc hlogged, hsame, run_bind]
    rcases hrun : (login sur.toEnv (.byUid uid password dev)).run s with ⟨info | err | _, s'⟩
    · rw [hrun] at hreturns
      have hvalid := acceptsValid_of_login hrun
      have hkeeps := keeps_login (P := Nothing) sur.toEnv (.byUid uid password dev) s
      rw [hrun] at hkeeps
      have hopen' : s'.clients client ≠ none := by
        rw [ne_eq, hkeeps.registry.isOpen]
        exact hopen
      obtain ⟨c', hc'⟩ := Option.ne_none_iff_exists'.mp hopen'
      dsimp only
      by_cases hinfo : info.isValid = true
      · rw [run_bind_of_ok (run_registerInnerConnectionByHost hinfo hc'), run_pure]
        dsimp only
        have hjoined : (s'.join client info c').clients client ≠ none := by
          show Function.update s'.clients client (some { c' with login := some info }) client ≠ none
          rw [Function.update_self]
          exact nofun
        obtain ⟨f, oid, status, hf, hadmits, rfl, rfl⟩ := admits_of_login hrun
        rw [returns_serveStream_iff hjoined]
        have hids : SourceIds (State.join (s.activated sur.toEnv f.uauth.login oid status) client
            ⟨f.uauth, f.uid⟩ c').db f.uauth.toAuthInfo sid ↔
            SourceIds s.db f.uauth.toAuthInfo sid := sourceIds_activated
        rw [hids]
        constructor
        · intro h
          refine ⟨fun _ => ⟨hreturns.mp trivial, hvalid.mpr hinfo⟩, fun auth hauth => ?_,
            fun _ f' hf' _ => ?_⟩
          · cases hlogged.symm.trans hauth
          · obtain rfl := Except.ok.inj (hf.symm.trans hf')
            exact h
        · exact fun h => h.joined hlogged f hf hadmits
      · rw [run_bind, run_registerInnerConnectionByHost_of_not (by simpa using hinfo)]
        exact iff_of_false Outcome.not_returns_abort fun h =>
          hinfo (hvalid.mp (h.login hlogged).2)
    · rw [hrun] at hreturns
      have hkeeps := keeps_login (P := Nothing) sur.toEnv (.byUid uid password dev) s
      rw [hrun] at hkeeps
      have hopen' : s'.clients client ≠ none := by
        rw [ne_eq, hkeeps.registry.isOpen]
        exact hopen
      refine iff_of_true (stays_sendError s' hopen').1 ⟨fun _ => ?_, fun auth hauth => ?_,
        fun _ f hf hadmits => ?_⟩
      · exact ⟨hreturns.mp trivial, acceptsValid_of_error hrun⟩
      · cases hlogged.symm.trans hauth
      · have hlogin := run_login_of_admits hf hadmits
        rw [hrun] at hlogin
        rcases hlogin with hok | habort
        · cases hok
        · cases habort
    · rw [hrun] at hreturns
      exact iff_of_false Outcome.not_returns_abort fun h =>
        Outcome.not_returns_abort (hreturns.mpr (h.login hlogged).1)

theorem returns_serveRequest_iff {c : Client} (hc : s.clients client = some c) :
    ((serveRequest sur client request).run s).1.Returns ↔ (request.method ≠ .other →
      ∀ path uid password dev sid channel name rest, request.path = some path →
        tokenize path = uid :: password :: dev :: sid :: channel :: name :: rest →
        RequestReturns sur s c uid password dev sid channel) := by
  have herror : ∀ status err,
      ((sendError sur client request.keepAlive status err).run s).1.Returns :=
    fun status err => (stays_sendError s (by simp [hc])).1
  unfold serveRequest
  split_ifs with hmethod
  · exact iff_of_true trivial fun h => absurd hmethod h
  rw [forall_prop_of_true hmethod]
  cases hpath : request.path with
  | none => exact iff_of_true (herror _ _) fun _ _ _ _ _ _ _ _ => nofun
  | some path =>
    dsimp only
    by_cases htokens : ∃ uid password dev sid channel name rest,
        tokenize path = uid :: password :: dev :: sid :: channel :: name :: rest
    · obtain ⟨uid, password, dev, sid, channel, name, rest, htokens⟩ := htokens
      rw [htokens, returns_servePath_iff hc]
      constructor
      · intro h path' uid' password' dev' sid' channel' name' rest' hpath' htokens'
        obtain rfl := Option.some.inj hpath'
        rw [htokens] at htokens'
        simp only [List.cons.injEq] at htokens'
        obtain ⟨rfl, rfl, rfl, rfl, rfl, -, -⟩ := htokens'
        exact h
      · exact fun h => h path uid password dev sid channel name rest rfl htokens
    · refine iff_of_true ?_ ?_
      · unfold servePath
        split
        · rename_i h
          exact absurd ⟨_, _, _, _, _, _, _, h⟩ htokens
        · exact herror _ _
      · intro path' uid password dev sid channel name rest hpath' h
        obtain rfl := Option.some.inj hpath'
        exact absurd ⟨uid, password, dev, sid, channel, name, rest, h⟩ htokens

omit [Fastotv] in
/-- A connection that is there stays there. -/
def KeepsOpen (client : ClientId) (s s' : State) : Prop :=
  s.clients client ≠ none → s'.clients client ≠ none

instance : IsPreorder State (KeepsOpen client) where
  refl _ := id
  trans _ _ _ h h' := h' ∘ h

theorem keepsOpen_serveRequest :
    KeepsOpen client s ((serveRequest sur client request).run s).2 := by
  refine within_serveRequest (fun s s' h hs => ?_) fun info s₁ c _ _ _ _ => ?_
  · rw [ne_eq, h.registry.isOpen]
    exact hs
  · show Function.update s₁.clients client (some { c with login := some info }) client ≠ none
    rw [Function.update_self]
    exact nofun

/-- A request over HTTP comes to an end when its segments, if it has them, allow it. -/
theorem returns_httpRequest_iff {input : HttpInput} :
    (((Event.http client sur input).action).run s).1.Returns ↔
      ∀ c request, s.clients client = some c → c.kind = .http → input = .request request →
        request.method ≠ .other →
        ∀ path uid password dev sid channel name rest, request.path = some path →
          tokenize path = uid :: password :: dev :: sid :: channel :: name :: rest →
          RequestReturns sur s c uid password dev sid channel := by
  by_cases hopen : (s.clients client).any (fun c => c.kind = .http) = true
  swap
  · rw [run_action_http_of_not hopen]
    refine iff_of_true trivial fun c request hc hkind => ?_
    rw [hc] at hopen
    exact absurd (by simpa using hkind) hopen
  rw [run_action_http hopen]
  obtain ⟨c, hc, hkind⟩ := (Option.any_eq_true _ _).mp hopen
  have hopen : s.clients client ≠ none := by simp [hc]
  have hclose : ∀ s', s'.clients client ≠ none →
      ((closeAndDelete client).run s').1.Returns := by
    intro s' hs'
    obtain ⟨c', hc'⟩ := Option.ne_none_iff_exists'.mp hs'
    rw [run_closeAndDelete hc']
    trivial
  unfold processReceived
  cases input with
  | failed => exact iff_of_true (hclose s hopen) fun _ _ _ _ => nofun
  | unparsed status err =>
    refine iff_of_true ?_ fun _ _ _ _ => nofun
    have herror := (stays_sendError : Stays client
      (sendError sur client false (.unparsed status) err)) s hopen
    exact (returns_bind_of_open herror.2 fun _ => hclose).mpr herror.1
  | request request =>
    have hkept : ((serveRequest sur client request).run s).2.clients client ≠ none :=
      keepsOpen_serveRequest hopen
    have hend : ∀ (_ : Unit) s', s'.clients client ≠ none →
        ((if request.keepAlive then pure () else closeAndDelete client : Call Unit).run
          s').1.Returns := by
      intro _ s' hs'
      split_ifs
      · trivial
      · exact hclose s' hs'
    rw [returns_bind_of_open hkept hend, returns_serveRequest_iff hc]
    constructor
    · intro h c' request' hc' _ hrequest hmethod
      obtain rfl := Option.some.inj (hc.symm.trans hc')
      obtain rfl := HttpInput.request.inj hrequest
      exact h hmethod
    · exact fun h hmethod => h c request hc (by simpa using hkind) rfl hmethod

/-! ### The calls together -/

/-- The catalogue, the two logins, the creation of a catchup, and the requests that register a login
come to an end exactly when their documents have object ids where these are read, no search for a
device comes to a deleted object, no activation ends the process at its email, and what is
registered is valid. -/
theorem no_abort_iff :
    (∀ env db auth, (clientGetChannels env db auth).Returns ↔
      (Fastotv.authValid auth = true →
        ∀ sub, findByEmail db auth.login = some sub → OnlyIds db sub.toDoc)) ∧
    (∀ env s uauth, ((clientLogin env uauth).run s).1.Returns ↔
      LoginReturns env s (.byEmail uauth)) ∧
    (∀ env s uid password dev, ((clientLoginByUid env uid password dev).run s).1.Returns ↔
      LoginReturns env s (.byUid uid password dev)) ∧
    (∀ env endpoint db auth sid title start stop,
      ((createCatchup env endpoint auth sid title start stop).run db).1.Returns ↔
        CatchupIds env db auth sid title start stop) ∧
    (∀ s client sur id params,
      (((Event.request client sur ⟨id, .login params⟩).action).run s).1.Returns ↔
        ((s.clients client).any (fun c => c.kind = .subscriber) = true →
          ∀ uauth, params = .decoded uauth → LoginReturns sur.toEnv s (.byEmail uauth) ∧
            (sur.sends client = true → AcceptsValid sur.toEnv s (.byEmail uauth)))) ∧
    ∀ s client sur input, (((Event.http client sur input).action).run s).1.Returns ↔
      ∀ c request, s.clients client = some c → c.kind = .http → input = .request request →
        request.method ≠ .other →
        ∀ path uid password dev sid channel name rest, request.path = some path →
          tokenize path = uid :: password :: dev :: sid :: channel :: name :: rest →
          RequestReturns sur s c uid password dev sid channel := by
  refine ⟨fun _ _ _ => returns_clientGetChannels_iff, ?_, ?_,
    fun _ _ _ _ _ _ _ _ => returns_createCatchup_iff,
    fun _ _ _ _ _ => returns_loginRequest_iff, fun _ _ _ _ => returns_httpRequest_iff⟩
  · intro env s uauth
    show ((login env (.byEmail uauth)).run s).1.Returns ↔ _
    exact returns_login_iff
  · intro env s uid password dev
    show ((login env (.byUid uid password dev)).run s).1.Returns ↔ _
    exact returns_login_iff

end

/-! A subscriber whose channel is listed by a text, the one with the brace in its email, and one
whose email is empty. -/

namespace Sample

def textDatabase : Database :=
  database (subscriber userStreamsField userStreams_ne_id
    [[(userStreamIdField, .utf8 (oid 2).text)]]) [] List.nodup_nil

def emailless : StoredDoc where
  id := .oid (oid 1)
  fields := [(emailField, .utf8 ""), (passwordField, .utf8 "secret"),
    (statusField, .int32 userActive), (expDateField, .dateTime 2000),
    (devicesField, .array [deviceEntry (oid 5)])]
  no_id := by simp only [Doc.keys, List.map_cons, List.map_nil]; decide

def emaillessStart : State :=
  State.initial (database emailless [] List.nodup_nil) endpoint ⟨"http://epg", true⟩ "locked"

end Sample

open Sample in
/-- The catalogue of the one ends the process, and so do the login of the one with the brace in its
email, and that of the other over HTTP. -/
theorem documents_abort :
    (∀ auth, Fastotv.loginValid auth = true → auth.login ≠ "" ∧ auth.password ≠ "") ∧
      clientGetChannels env textDatabase auth = .abort ∧
      ((clientLogin env ⟨⟨braceEmail, "secret"⟩, (oid 5).text⟩).run braceStart).1 = .abort ∧
      ∃ s, step (some emaillessStart) (.accept 7 .http) = some s ∧
        (((Event.http 7 httpSur (.request (watchRequest "secret"))).action).run s).1 = .abort := by
  refine ⟨fun auth h => ?_, by decide, by decide, _, rfl, by decide⟩
  simpa [Fastotv.loginValid] using h

end LoadBalance
