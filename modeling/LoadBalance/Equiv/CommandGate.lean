import LoadBalance.Equiv.RequestEffects

/-!
# The gate of the subscribers

All commands but the activation of a device and the login itself are for connections that are logged
in.  They tell their own connection of channels and the server, move its own position, and write to
the database what the manager does for one user: that of the last registration of the connection
(`commands_gated`).  A connection without a login that sends such a command is told so and deleted;
a command that is not known is only logged. -/

namespace LoadBalance

open LoadBalance.Action

/-! ### One event -/

/-- No subscriber is told of channels or of the server, and none is moved. -/
structure Elsewhere (s s' : State) : Prop where
  position : ∀ client sid, s.isSubscriber client = true → s'.positionOf client = some sid →
    s.positionOf client = some sid
  sent : Appends (fun o => o.infoTo = none) s s'

theorem LeavesAlone.elsewhere {s s' : State} (h : LeavesAlone s s') : Elsewhere s s' := by
  refine ⟨fun client sid _ hsid => ?_, h.sent⟩
  unfold State.positionOf at hsid ⊢
  rwa [← h.clients]

/-- What is done for a connection that is none of a subscriber, or moves nobody. -/
theorem ActsOn.elsewhere {client : ClientId} {M : StreamId → Prop} {s s' : State}
    (h : ActsOn client (fun o => o.infoTo = none) M s s')
    (hno : s.isSubscriber client = true → ∀ sid, ¬M sid) : Elsewhere s s' := by
  refine ⟨fun client' sid hopen hsid => ?_, h.sent⟩
  by_cases hne : client' = client
  · subst hne
    exact (h.position sid hsid).resolve_right (hno hopen sid)
  · unfold State.positionOf at hsid ⊢
    rwa [← h.others client' hne]

section

variable [Fastotv] {client : ClientId} {sur : Surroundings} {req : SubscriberRequest} {s : State}

/-- An event of the other loops is a request of a subscriber, or happens elsewhere. -/
theorem action_cases {e : Event} (he : e.OfOtherLoop) :
    (∃ client sur req c, e = .request client sur req ∧ s.clients client = some c ∧
      c.kind = .subscriber ∧
      ActsOn client (Tells sur.toEnv s client c.login) (req.command.Moves c.login) s
        ((e.action).run s).2) ∨ Elsewhere s ((e.action).run s).2 := by
  have hsame : Elsewhere s s := (refl_of LeavesAlone s).elsewhere
  cases e with
  | request client sur req =>
    by_cases hopen : s.isSubscriber client = true
    · obtain ⟨c, hc, hkind⟩ := (Option.any_eq_true _ _).mp hopen
      rw [run_action_request hopen]
      exact Or.inl ⟨client, sur, req, c, rfl, hc, of_decide_eq_true hkind,
        actsOn_handleRequestCommand hc⟩
    · rw [run_action_request_of_not hopen]
      exact Or.inr hsame
  | accept client kind =>
    right
    by_cases hnone : s.clients client = none
    · rw [run_action_accept hnone]
      -- There was nobody at this address.
      refine ⟨fun client' sid hopen hsid => ?_, refl_of (Appends _) s⟩
      have hne : client' ≠ client := by
        rintro rfl
        rw [State.isSubscriber, hnone] at hopen
        cases hopen
      unfold State.positionOf at hsid ⊢
      dsimp only at hsid
      rwa [Function.update_of_ne hne] at hsid
    · rw [run_action_accept_of_not hnone]
      exact hsame
  | http client sur input =>
    right
    by_cases hopen : (s.clients client).any (fun c => c.kind = .http) = true
    · rw [run_action_http hopen]
      refine (actsOn_processReceived (fun _ h => h) s).elsewhere fun hsubscriber => ?_
      obtain ⟨c, hc, hkind⟩ := (Option.any_eq_true _ _).mp hopen
      rw [State.isSubscriber, hc, Option.any_some, of_decide_eq_true hkind] at hsubscriber
      cases hsubscriber
    · rw [run_action_http_of_not hopen]
      exact hsame
  | close client =>
    right
    have hclose : ActsOn client (fun o => o.infoTo = none) (fun _ => False) s
        ((closeAndDelete client).run s).2 := actsOn_closeAndDelete (fun _ h => h) s
    cases hc : s.clients client with
    | none =>
      rw [run_action_close_of_none hc]
      exact hsame
    | some c =>
      rw [run_closeAndDelete hc] at hclose
      rw [run_action_close hc]
      exact hclose.elsewhere fun _ _ h => h
  | sendMessage dclient sur id params => exact he.elim
  | database db => exact Or.inr ⟨fun _ _ _ h => h, refl_of (Appends _) s⟩

/-- The activation of a device, and a command that is not known, do not write to the database. -/
theorem db_of_not_gated (hgated : ¬req.command.IsGated) :
    ((handleRequestCommand sur client req).run s).2.db = s.db ∨
      ∃ uauth info oid status, req.command = .login (.decoded uauth) ∧
        ((clientLogin sur.toEnv uauth).run s).1 = .ok info ∧
        ((handleRequestCommand sur client req).run s).2.db =
          (s.activated sur.toEnv info.login oid status).db := by
  obtain ⟨id, command⟩ := req
  unfold handleRequestCommand
  cases command with
  | activateDevice params =>
    left
    cases params with
    | absent => rfl
    | refused err =>
      exact within_bind (R := KeepsDatabase) (within_attempt keepsDatabase_write)
        (fun _ => within_fail _) s
    | decoded uauth =>
      refine (db_orReply fun _ => within_attempt keepsDatabase_write).trans ?_
      rw [← readsOnly_clientActivate uauth s]
  | login params =>
    have hlogin : ((handleRequestClientLogin sur client id params).run s).2.db = s.db ∨ _ :=
      db_handleRequestClientLogin
    rcases hlogin with hsame | ⟨uauth, info, oid, status, rfl, hok, hdb⟩
    · exact Or.inl hsame
    · exact Or.inr ⟨uauth, info, oid, status, rfl, hok, hdb⟩
  | unknown => exact Or.inl rfl
  | _ => exact absurd trivial hgated

end

/-! ### Runs -/

section

variable [Fastotv] [License]

/-- What is asked of an event `e` that takes the balancer from `b` to `b'` after the events `es`. -/
structure CommandGate (start : Balancer) (es : List BalancerEvent) (b : Balancer)
    (e : BalancerEvent) (b' : Balancer) : Prop where
  /-- A catalogue, and the info of the server, goes to a connection that asked for it, and is for the
  user of its last registration. -/
  info : ∀ o ∈ b'.sent.drop b.sent.length, ∀ client, o.infoTo = some client →
    ∃ sur req auth, e = .request client sur req ∧ LastRegistration start es client auth ∧
      InfoFor sur.toEnv b.toState auth o
  /-- A connection of a subscriber is moved by its own request, and after it was registered. -/
  position : ∀ client sid, b.isSubscriber client = true → b'.positionOf client = some sid →
    b.positionOf client = some sid ∨ ∃ sur id auth,
      e = .request client sur ⟨id, .getRuntimeChannelInfo (.decoded sid)⟩ ∧
        LastRegistration start es client auth
  /-- What a request writes to the database is the device of a login that succeeds, or what the
  manager does for the user of the last registration. -/
  database : ∀ client sur req, e = .request client sur req → b'.db = b.db ∨
    (∃ uauth info oid status, req.command = .login (.decoded uauth) ∧
      ((clientLogin sur.toEnv uauth).run b.toState).1 = .ok info ∧
      b'.db = (b.activated sur.toEnv info.login oid status).db) ∨
    ∃ auth, LastRegistration start es client auth ∧
      b'.db = ((req.command.calls sur.toEnv b.catchupEndpoint auth).run b.db).2
  /-- A connection that was not registered and sends one of these commands is told so and deleted, and
  nothing else happens. -/
  refused : ∀ client sur req, e = .request client sur req → b.isSubscriber client = true →
    req.command.IsGated → (∀ auth, ¬LastRegistration start es client auth) →
      balancerStep (some b) e = some b' ∧ b'.toState = b.refuse sur client req.id
  /-- A command that is not known has no effect. -/
  unknown : ∀ client sur id, e = .request client sur ⟨id, .unknown⟩ → b'.toState = b.toState

variable {b : Balancer} {e : BalancerEvent} {client : ClientId} {sur : Surroundings}
  {req : SubscriberRequest}

/-- The same of an event of the balancer. -/
theorem balancerAction_cases :
    (∃ client sur req c, e = .request client sur req ∧ b.clients client = some c ∧
      c.kind = .subscriber ∧
      ActsOn client (Tells sur.toEnv b.toState client c.login) (req.command.Moves c.login)
        b.toState ((e.action).run b).2.toState) ∨
      Elsewhere b.toState ((e.action).run b).2.toState := by
  by_cases hother : ∃ e' h, e = .service (.other e' h)
  · obtain ⟨e', he, rfl⟩ := hother
    rw [toState_other]
    rcases action_cases he with ⟨client, sur, req, c, rfl, hc, hkind, hacts⟩ | helse
    · exact Or.inl ⟨client, sur, req, c, rfl, hc, hkind, hacts⟩
    · exact Or.inr helse
  · have halone : LeavesAlone b.toState ((e.action).run b).2.toState :=
      leavesAlone_balancerEvent fun e' h heq => hother ⟨e', h, heq⟩
    exact Or.inr halone.elsewhere

theorem toState_request :
    ((((BalancerEvent.request client sur req).action).run b).2).toState =
      (((Event.request client sur req).action).run b.toState).2 :=
  toState_other (.request client sur req) trivial

/-- The process goes on after a request whose handler comes to an end. -/
theorem balancerStep_request (hopen : b.isSubscriber client = true)
    (hreturns : ((handleRequestCommand sur client req).run b.toState).1.Returns) :
    balancerStep (some b) (.request client sur req) =
      some (((BalancerEvent.request client sur req).action).run b).2 := by
  have hrun : ((BalancerEvent.request client sur req).action).run b =
      (do
        attempt (zoom Balancer.toService (fun b t => { b with toService := t })
          (zoom Service.toState (fun s t => { s with toState := t })
            (Event.request client sur req).action))
        forgetClosed : BalancerCall Unit).run b := rfl
  refine balancerStep_eq_some_iff.mpr ⟨?_, rfl⟩
  rw [hrun, run_bind, run_attempt, run_zoom, run_zoom, run_action_request hopen]
  rcases hhandler : (handleRequestCommand sur client req).run b.toState with ⟨a | err | _, s'⟩
  · trivial
  · trivial
  · rw [hhandler] at hreturns
    exact absurd hreturns Outcome.not_returns_abort

/-- In every run the commands are gated by the login: what they tell, move and write is for the user
of the last registration of the connection that sent them. -/
theorem commands_gated (db : Database) (endpoint : CatchupEndpointInfo) (epgUrl : Gurl)
    (lockedText : String) (licenseKey : Option String) (es : List BalancerEvent) (b : Balancer)
    (hrun : run balancerStep (some (Balancer.initial (Service.initial
      (State.initial db endpoint epgUrl lockedText) licenseKey))) es = some b)
    (e : BalancerEvent) :
    CommandGate (Balancer.initial (Service.initial (State.initial db endpoint epgUrl lockedText)
      licenseKey)) es b e ((e.action).run b).2 := by
  -- Whoever is logged in has registered.
  have hregistered : ∀ {client c auth}, b.clients client = some c → c.kind = .subscriber →
      c.login = some auth → LastRegistration (Balancer.initial (Service.initial
        (State.initial db endpoint epgUrl lockedText) licenseKey)) es client auth := by
    intro client c auth hc hkind hlogin
    refine lastRegistration (fun _ => rfl) hrun ?_
    rw [State.session, hc, Option.map_some, hkind, hlogin]
  refine ⟨fun o ho client hinfo => ?_, fun client sid hopen hsid => ?_, fun client sur req he => ?_,
    fun client sur req he hopen hgated hno => ?_, fun client sur id he => ?_⟩
  · rcases balancerAction_cases (b := b) (e := e) with
      ⟨client', sur, req, c, rfl, hc, hkind, hacts⟩ | helse
    · obtain ⟨outs, hsent, houts⟩ := hacts.sent
      rw [hsent, List.drop_left] at ho
      obtain ⟨rfl, auth, hlogin, hfor⟩ := houts o ho client hinfo
      exact ⟨sur, req, auth, rfl, hregistered hc hkind hlogin, hfor⟩
    · obtain ⟨outs, hsent, houts⟩ := helse.sent
      rw [hsent, List.drop_left] at ho
      rw [houts o ho] at hinfo
      cases hinfo
  · rcases balancerAction_cases (b := b) (e := e) with
      ⟨client', sur, req, c, rfl, hc, hkind, hacts⟩ | helse
    · by_cases hne : client = client'
      · subst hne
        refine (hacts.position sid hsid).imp_right ?_
        rintro ⟨hlogin, hcommand⟩
        obtain ⟨auth, hlogin⟩ := Option.ne_none_iff_exists'.mp hlogin
        obtain ⟨id, command⟩ := req
        obtain rfl : command = .getRuntimeChannelInfo (.decoded sid) := hcommand
        exact ⟨sur, id, auth, rfl, hregistered hc hkind hlogin⟩
      · left
        unfold State.positionOf at hsid ⊢
        rwa [← hacts.others client hne]
    · exact Or.inl (helse.position client sid hopen hsid)
  · subst he
    by_cases hopen : b.isSubscriber client = true
    · rw [toState_request, run_action_request hopen]
      obtain ⟨c, hc, hkind⟩ := (Option.any_eq_true _ _).mp hopen
      by_cases hgated : req.command.IsGated
      · cases hlogin : c.login with
        | none =>
          rw [run_handleRequestCommand_of_none hgated hc hlogin]
          exact Or.inl rfl
        | some auth =>
          exact Or.inr (Or.inr ⟨auth, hregistered hc (of_decide_eq_true hkind) hlogin,
            db_handleRequestCommand hgated hc hlogin⟩)
      · exact (db_of_not_gated hgated).imp_right Or.inl
    · rw [toState_request, run_action_request_of_not hopen]
      exact Or.inl rfl
  · subst he
    obtain ⟨c, hc, hkind⟩ := (Option.any_eq_true _ _).mp hopen
    have hlogin : c.login = none := by
      by_contra hlogin
      obtain ⟨auth, hlogin⟩ := Option.ne_none_iff_exists'.mp hlogin
      exact hno auth (hregistered hc (of_decide_eq_true hkind) hlogin)
    have hrefuse : (handleRequestCommand sur client req).run b.toState =
        (.error (.message "User not logged"), b.refuse sur client req.id) :=
      run_handleRequestCommand_of_none hgated hc hlogin
    constructor
    · refine balancerStep_request hopen ?_
      rw [hrefuse]
      trivial
    · rw [toState_request, run_action_request hopen, hrefuse]
  · subst he
    rw [toState_request]
    by_cases hopen : b.isSubscriber client = true
    · rw [run_action_request hopen]
      rfl
    · rw [run_action_request_of_not hopen]

end

/-! A connection that logs in and asks for the info of the server. -/

namespace Sample

def licensed : Balancer := Balancer.initial service

def subscriberAccepted : BalancerEvent := .service (.other (.accept 7 .subscriber) trivial)

def loggingIn : List BalancerEvent :=
  [subscriberAccepted, .request 7 sur (loginRequest (oid 5))]

def serverInfoRequest : SubscriberRequest := ⟨some "2", .getServerInfo⟩

end Sample

open Sample in
/-- A command that is none of the two, from a connection without a login, leaves it open. -/
theorem unknown_command_passed_over :
    ∃ command : Command, (∀ params, command ≠ .activateDevice params) ∧
      (∀ params, command ≠ .login params) ∧
      ∃ b b', run balancerStep (some licensed) [subscriberAccepted] = some b ∧
        b.isSubscriber 7 = true ∧ b.loginOf 7 = none ∧
        balancerStep (some b) (.request 7 sur ⟨some "1", command⟩) = some b' ∧
        (b'.clients 7).isSome = true :=
  ⟨.unknown, nofun, nofun, _, _, rfl, rfl, rfl, rfl, rfl⟩

open Sample in
theorem commands_gated_sample :
    ∃ b, run balancerStep (some licensed) loggingIn = some b ∧
      ∃ auth, LastRegistration licensed loggingIn 7 auth ∧
        InfoFor sur.toEnv b.toState auth
          (.reply 7 (some "2") (.getServerInfoSuccess ⟨"http://epg", true⟩ "locked")) := by
  refine ⟨_, rfl, ?_⟩
  have hgate := commands_gated (Sample.database account [] List.nodup_nil) endpoint
    ⟨"http://epg", true⟩ "locked" (some "key") loggingIn _ rfl (.request 7 sur serverInfoRequest)
  obtain ⟨_, _, auth, _, hlast, hfor⟩ := hgate.info
    (.reply 7 (some "2") (.getServerInfoSuccess ⟨"http://epg", true⟩ "locked")) (by decide) 7 rfl
  exact ⟨auth, hlast, hfor⟩

end LoadBalance
