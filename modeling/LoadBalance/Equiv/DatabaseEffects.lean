import LoadBalance.Equiv.CommandGate
import LoadBalance.Equiv.Evolution

/-!
# Who writes to the database

The only events after which the database is another one are the writes from outside, the logins,
that activate a device at most, and the requests of logged in subscribers, of which the manager
makes the calls (`request_cases`, `onDatabase_serviceEvent`). -/

namespace LoadBalance

open LoadBalance.Action

/-- What a relation says of the databases. -/
def OnDatabase (R : Database → Database → Prop) (s s' : State) : Prop := R s.db s'.db

instance {R : Database → Database → Prop} [IsPreorder Database R] :
    IsPreorder State (OnDatabase R) where
  refl s := refl_of R s.db
  trans _ _ _ h h' := trans_of R h h'

section

variable {sur : HttpSurroundings} {client : ClientId} {request : HttpRequest} {sid : StreamId}
  {s : State} {R : Database → Database → Prop} [IsPreorder Database R]

/-! ### Requests over HTTP -/

theorem onDatabase_of_keeps {α : Type} {x : Call α} (h : Within KeepsDatabase x) :
    Within (OnDatabase R) x := by
  intro s
  show R s.db _
  rw [h s]
  exact refl_of R s.db

theorem keepsDatabase_closeAndDelete : Within KeepsDatabase (closeAndDelete client) := by
  intro s
  cases hc : s.clients client with
  | none =>
    rw [run_closeAndDelete_none hc]
    exact refl_of KeepsDatabase s
  | some c =>
    rw [run_closeAndDelete hc]
    rfl

theorem keepsDatabase_sendError {keepAlive : Bool} {status : HttpStatus} {err : Error} :
    Within KeepsDatabase (sendError sur client keepAlive status err) :=
  within_attempt keepsDatabase_write

theorem keepsDatabase_sendRedirect {keepAlive : Bool} {url : Gurl} :
    Within KeepsDatabase (sendRedirect sur client keepAlive url sid) := by
  unfold sendRedirect
  refine within_bind (within_result keepsDatabase_write) fun r => ?_
  split
  · exact within_pure _
  · exact keepsDatabase_assign

theorem keepsDatabase_sendOpenFile {path mime : String} {size mtime : ℕ} :
    Within KeepsDatabase (sendOpenFile sur client request path size mtime mime sid) := by
  unfold sendOpenFile
  refine within_bind (within_result keepsDatabase_write) fun r => ?_
  split
  · exact fun _ => rfl
  · refine within_bind ?_ fun _ _ => rfl
    unfold sendFileByFd
    split_ifs
    · exact within_bind (fun _ => rfl) fun _ => keepsDatabase_assign
    · exact within_pure _

variable [Fastotv]

theorem keepsDatabase_sendSource {source : HttpSource} {name : String} :
    Within KeepsDatabase (sendSource sur client request source name sid) := by
  unfold sendSource
  split
  · exact keepsDatabase_sendRedirect
  split_ifs
  swap
  · exact keepsDatabase_sendRedirect
  unfold sendFile
  split
  · exact keepsDatabase_sendError
  split
  · exact keepsDatabase_sendError
  · exact keepsDatabase_sendError
  · exact keepsDatabase_sendError
  · exact within_bind (fun _ => rfl) fun _ => keepsDatabase_sendOpenFile

theorem keepsDatabase_serveStream {auth : ServerDBAuthInfo} {channel name : String} :
    Within KeepsDatabase (serveStream sur client request auth sid channel name) := by
  unfold serveStream
  split
  · exact keepsDatabase_sendError
  refine within_bind (within_result (within_reads _)) fun r => ?_
  split
  · exact keepsDatabase_sendError
  · exact keepsDatabase_sendSource

section

variable (hactivate : ∀ env login oid, Within R (activateDevice env login oid))

include hactivate

omit [Fastotv] in
theorem onDatabase_activated (env : Env) (login : String) (oid : Oid) (status : Int32) :
    R s.db (s.activated env login oid status).db := by
  unfold State.activated
  split_ifs
  · exact hactivate env login oid s.db
  · exact refl_of R s.db

/-- A login activates a device at most. -/
theorem onDatabase_loginOfRequest {uid : UserId} {password : String} {dev : DeviceId} :
    Within (OnDatabase R) (loginOfRequest sur client uid password dev) := by
  have hlogin : Within (OnDatabase R) (clientLoginByUid sur.toEnv uid password dev) := by
    intro s
    have heq : clientLoginByUid sur.toEnv uid password dev =
        login sur.toEnv (.byUid uid password dev) := rfl
    rw [heq]
    rcases login_cases sur.toEnv (.byUid uid password dev) s with
      ⟨info, oid, status, hrun⟩ | ⟨o, hrun, -⟩
    · rw [hrun]
      exact onDatabase_activated hactivate _ _ _ _
    · rw [hrun]
      exact refl_of (OnDatabase R) s
  have hcheck : Within (OnDatabase R) (checkIsLoginClient client) :=
    within_bind (within_reads _) fun _ => within_orFail _ _
  unfold loginOfRequest
  refine within_bind (within_result hcheck) fun r => ?_
  split
  · exact within_pure _
  · refine within_bind hlogin fun _ => within_bind ?_ fun _ => within_pure _
    exact onDatabase_of_keeps keepsDatabase_registerInnerConnectionByHost

theorem onDatabase_processReceived {input : HttpInput} :
    Within (OnDatabase R) (processReceived sur client input) := by
  have herror : ∀ {keepAlive status err},
      Within (OnDatabase R) (sendError sur client keepAlive status err) :=
    onDatabase_of_keeps keepsDatabase_sendError
  have hclose : Within (OnDatabase R) (closeAndDelete client) :=
    onDatabase_of_keeps keepsDatabase_closeAndDelete
  unfold processReceived
  cases input with
  | failed => exact hclose
  | unparsed status err => exact within_bind herror fun _ => hclose
  | request request =>
    refine within_bind ?_ fun _ => ?_
    · unfold serveRequest
      split_ifs
      · exact within_pure _
      split
      · exact herror
      unfold servePath
      split
      · refine within_bind (within_result (onDatabase_loginOfRequest hactivate)) fun r => ?_
        split
        · exact herror
        · exact onDatabase_of_keeps keepsDatabase_serveStream
      · exact herror
    · split_ifs
      · exact within_pure _
      · exact hclose

end

end

/-! ### Requests of subscribers -/

section

variable [Fastotv] {s : State} {client : ClientId} {sur : Surroundings} {req : SubscriberRequest}

/-- The login in whose name a request is done: its connection is that of a subscriber, and logged
in. -/
def State.actor (s : State) (client : ClientId) : Option ServerDBAuthInfo := do
  let c ← s.clients client
  let auth ← c.login
  if c.kind = .subscriber then some auth else none

omit [Fastotv] in
theorem State.actor_eq_some_iff {auth : ServerDBAuthInfo} : s.actor client = some auth ↔
    ∃ c, s.clients client = some c ∧ c.kind = .subscriber ∧ c.login = some auth := by
  unfold State.actor
  simp only [Option.bind_eq_bind, Option.bind_eq_some_iff, Option.ite_none_right_eq_some,
    Option.some.injEq]
  constructor
  · rintro ⟨c, hc, auth', hlogin, hkind, rfl⟩
    exact ⟨c, hc, hkind, hlogin⟩
  · rintro ⟨c, hc, hkind, hlogin⟩
    exact ⟨c, hc, auth, hlogin, hkind, rfl⟩

/-- A request makes the calls of its command, or it is not a command of somebody who is logged in:
then it activates a device at most. -/
theorem request_cases (s : State) (client : ClientId) (sur : Surroundings)
    (req : SubscriberRequest) :
    (∃ auth, s.actor client = some auth ∧ req.command.IsGated ∧
      (((Event.request client sur req).action).run s).2.db =
        ((req.command.calls sur.toEnv s.catchupEndpoint auth).run s.db).2) ∨
      (∀ auth, s.actor client = some auth → ¬req.command.IsGated) ∧
        ((((Event.request client sur req).action).run s).2.db = s.db ∨
          ∃ login oid status, (((Event.request client sur req).action).run s).2.db =
            (s.activated sur.toEnv login oid status).db) := by
  by_cases hopen : (s.clients client).any (fun c => c.kind = .subscriber) = true
  swap
  · -- Nothing is done.
    rw [run_action_request_of_not hopen]
    refine Or.inr ⟨fun auth hauth => ?_, Or.inl rfl⟩
    obtain ⟨c, hc, hkind, -⟩ := State.actor_eq_some_iff.mp hauth
    exact absurd (by simp [hc, hkind]) hopen
  rw [run_action_request hopen]
  obtain ⟨c, hc, hkind⟩ := (Option.any_eq_true _ _).mp hopen
  by_cases hgated : req.command.IsGated
  · cases hlogin : c.login with
    | none =>
      rw [run_handleRequestCommand_of_none hgated hc hlogin]
      refine Or.inr ⟨fun auth hauth => ?_, Or.inl rfl⟩
      obtain ⟨c', hc', -, hlogin'⟩ := State.actor_eq_some_iff.mp hauth
      obtain rfl := Option.some.inj (hc.symm.trans hc')
      rw [hlogin] at hlogin'
      cases hlogin'
    | some auth =>
      refine Or.inl ⟨auth, ?_, hgated, db_handleRequestCommand hgated hc hlogin⟩
      exact State.actor_eq_some_iff.mpr ⟨c, hc, of_decide_eq_true hkind, hlogin⟩
  · refine Or.inr ⟨fun _ _ => hgated, (db_of_not_gated hgated).imp_right ?_⟩
    rintro ⟨uauth, info, oid, status, -, -, hdb⟩
    exact ⟨_, oid, status, hdb⟩

end

/-! ### The other events -/

section

variable [Fastotv] [License] {s : Service} {e : ServiceEvent}
  {R : Database → Database → Prop} [IsPreorder Database R]

/-- An event that is no request of a subscriber, and no write from outside. -/
theorem onDatabase_serviceEvent (hactivate : ∀ env login oid, Within R (activateDevice env login oid))
    (hown : e.IsOwn) (hrequest : ∀ client sur req h, e ≠ .other (.request client sur req) h) :
    R s.db ((e.action).run s).2.db := by
  by_cases hother : ∃ e' he, e = .other e' he
  · obtain ⟨e', he, rfl⟩ := hother
    show R s.toState.db ((e'.action).run s.toState).2.db
    cases e' with
    | request client sur req => exact absurd rfl (hrequest client sur req he)
    | accept client kind =>
      by_cases hnone : s.toState.clients client = none
      · rw [run_action_accept hnone]
        exact refl_of R s.db
      · rw [run_action_accept_of_not hnone]
        exact refl_of R s.db
    | http client sur input =>
      by_cases hopen : (s.toState.clients client).any (fun c => c.kind = .http) = true
      · rw [run_action_http hopen]
        exact onDatabase_processReceived hactivate s.toState
      · rw [run_action_http_of_not hopen]
        exact refl_of R s.db
    | close client =>
      cases hc : s.toState.clients client with
      | none =>
        rw [run_action_close_of_none hc]
        exact refl_of R s.db
      | some c =>
        rw [run_action_close hc, ← run_closeAndDelete hc]
        exact onDatabase_of_keeps keepsDatabase_closeAndDelete s.toState
    | sendMessage => exact he.elim
    | database => exact hown.elim
  · rw [(onlyTells_serviceEvent (fun e' he heq => hother ⟨e', he, heq⟩) s).db]
    exact refl_of R s.db

end

end LoadBalance
