import LoadBalance.Equiv.Frame

/-!
# What an event does

An event is made of quiet calls and of four things that happen to connections: one is accepted, one
joins those that are logged in (`Joins`), one leaves, and a message is shown to one; apart from that
only requests for catchups and others than the balancer write to the database.  A relation on states
that allows these allows the event (`within_event`).
-/

namespace LoadBalance

open LoadBalance.Action

/-! ### Logging in -/

section

variable [Fastotv] {s : State} {sur : Surroundings} {client : ClientId} {id : RequestId} {c : Client}

/-- The request is a login that gets as far as the registration, with this login. -/
structure LogsIn (s : State) (sur : Surroundings) (client : ClientId) (params : Params AuthInfo)
    (info : ServerDBAuthInfo) : Prop where
  accepted : ∃ uauth, params = .decoded uauth ∧
    ((clientLogin sur.toEnv uauth).run s).1 = .ok info
  told : sur.sends client = true
  valid : info.isValid = true

/-- A login that gets there is registered, whether the connection has a login or not. -/
theorem run_handleRequestClientLogin (id : RequestId) {params : Params AuthInfo}
    {info : ServerDBAuthInfo} (hc : s.clients client = some c) (h : LogsIn s sur client params info) :
    ∃ s₁ c₁, (handleRequestClientLogin sur client id params).run s =
        (.ok (), s₁.join client info c₁) ∧
      Quiet FromHandler s s₁ ∧ s₁.clients client = some c₁ := by
  obtain ⟨⟨uauth, rfl, hok⟩, htold, hvalid⟩ := h
  -- The check, then the reply, then the registration.
  have hkeeps := keeps_clientLogin (P := FromHandler) sur.toEnv uauth s
  rcases hrun : (clientLogin sur.toEnv uauth).run s with ⟨o, s₀⟩
  rw [hrun] at hok hkeeps
  obtain rfl : o = .ok info := hok
  have hreply : (reply sur client id (.loginSuccess info)).run s₀ =
      (.ok (), { s₀ with sent := s₀.sent ++ [.reply client id (.loginSuccess info)] }) := by
    unfold reply write
    rw [if_pos htold]
    rfl
  have hopen : s₀.clients client ≠ none := by
    rw [ne_eq, hkeeps.registry.isOpen, hc]
    exact nofun
  obtain ⟨c₁, hc₁⟩ := Option.ne_none_iff_exists'.mp hopen
  refine ⟨{ s₀ with sent := s₀.sent ++ [.reply client id (.loginSuccess info)] }, c₁, ?_,
    trans_of (Quiet FromHandler) hkeeps (keeps_send trivial s₀), hc₁⟩
  have hresult : (result (clientLogin sur.toEnv uauth)).run s = (.ok (.ok info), s₀) := by
    rw [run_result, hrun]
  unfold handleRequestClientLogin orReply
  dsimp only
  rw [run_bind_of_ok hresult]
  unfold finishClientLogin
  exact (run_bind_of_ok hreply).trans (run_registerInnerConnectionByHost hvalid hc₁)

/-- Any other login is quiet. -/
theorem quiet_handleRequestClientLogin {params : Params AuthInfo}
    (h : ∀ info, ¬LogsIn s sur client params info) :
    Quiet FromHandler s ((handleRequestClientLogin sur client id params).run s).2 := by
  unfold handleRequestClientLogin
  cases params with
  | absent => exact refl_of (Quiet FromHandler) s
  | refused err =>
    exact within_bind (within_attempt (keeps_reply trivial)) (fun _ => within_fail _) s
  | decoded uauth =>
    have hkeeps := keeps_clientLogin (P := FromHandler) sur.toEnv uauth s
    dsimp only
    unfold orReply
    rw [run_bind, run_result]
    rcases hrun : (clientLogin sur.toEnv uauth).run s with ⟨info | err | _, s₀⟩
    · rw [hrun] at hkeeps
      -- The reply does not get through, or the login is not valid.
      refine trans_of (Quiet FromHandler) hkeeps ?_
      dsimp only
      unfold finishClientLogin
      rw [run_bind]
      by_cases htold : sur.sends client = true
      · have hvalid : info.isValid = false := by
          by_contra hvalid
          rw [Bool.not_eq_false] at hvalid
          exact h info ⟨⟨uauth, rfl, by rw [hrun]⟩, htold, hvalid⟩
        unfold reply write registerInnerConnectionByHost
        rw [if_pos htold]
        simp only [hvalid, Bool.not_false, if_true]
        exact keeps_send trivial s₀
      · unfold reply write
        rw [if_neg htold]
        exact refl_of (Quiet FromHandler) s₀
    · rw [hrun] at hkeeps
      exact trans_of (Quiet FromHandler) hkeeps
        (within_bind (within_attempt (keeps_reply trivial)) (fun _ => within_fail _) s₀)
    · rw [hrun] at hkeeps
      exact hkeeps

/-- A request of a subscriber either stays within the relation or registers a login. -/
theorem handleRequestCommand_cases {R : State → State → Prop} [IsPreorder State R]
    (hquiet : ∀ s s', Quiet FromHandler s s' → R s s') {req : SubscriberRequest}
    (hclose : Within R (closeAndDelete client))
    (hcatchup : ∀ params, req.command = .generateCatchup params →
      Within R (handleRequestGenerateCatchup sur client req.id params))
    (hc : s.clients client = some c) :
    R s ((handleRequestCommand sur client req).run s).2 ∨
      ∃ params info s₁ c₁, req.command = .login params ∧ LogsIn s sur client params info ∧
        Quiet FromHandler s s₁ ∧ s₁.clients client = some c₁ ∧ c₁.kind = c.kind ∧
        c₁.login = c.login ∧
        ((handleRequestCommand sur client req).run s).2 = s₁.join client info c₁ := by
  obtain ⟨id, command⟩ := req
  by_cases hlogin : ∃ params, command = .login params
  · obtain ⟨params, rfl⟩ := hlogin
    have hhandler : handleRequestCommand sur client ⟨id, .login params⟩ =
        handleRequestClientLogin sur client id params := rfl
    rw [hhandler]
    by_cases hlogs : ∃ info, LogsIn s sur client params info
    · obtain ⟨info, hlogs⟩ := hlogs
      obtain ⟨s₁, c₁, hrun, hquiet₁, hc₁⟩ := run_handleRequestClientLogin id hc hlogs
      have hsession := hquiet₁.registry.session client
      unfold State.session at hsession
      rw [hc₁, hc] at hsession
      simp only [Option.map_some, Option.some.injEq, Prod.mk.injEq] at hsession
      rw [hrun]
      exact Or.inr ⟨params, info, s₁, c₁, rfl, hlogs, hquiet₁, hc₁, hsession.1, hsession.2, rfl⟩
    · exact Or.inl (hquiet _ _ (quiet_handleRequestClientLogin fun info h => hlogs ⟨info, h⟩))
  · exact Or.inl (within_handleRequestCommand hquiet hclose
      (fun params h => absurd ⟨params, h⟩ hlogin) hcatchup s)

/-- The ways in which the login of a request ends: either nobody is logged in who was not before,
or the connection had no login and `ClientLogin` accepted the segments. -/
theorem loginOfRequest_cases {sur : HttpSurroundings} {uid : UserId} {password : String}
    {dev : DeviceId} {s₁ : State} {o : Outcome Error ServerDBAuthInfo}
    (h : (loginOfRequest sur client uid password dev).run s = (o, s₁)) :
    (Quiet Nothing s s₁ ∧ ∀ auth, o = .ok auth → s.loginOf client = some auth) ∨
      ∃ auth s₀ c, o = .ok auth ∧ s.loginOf client = none ∧
        ((clientLoginByUid sur.toEnv uid password dev).run s).1 = .ok auth ∧
        auth.isValid = true ∧ Quiet Nothing s s₀ ∧ s₀.clients client = some c ∧
        s₁ = s₀.join client auth c := by
  cases hc : s.clients client with
  | none =>
    rw [run_loginOfRequest_of_closed hc, Prod.mk.injEq] at h
    obtain ⟨rfl, rfl⟩ := h
    exact Or.inl ⟨refl_of _ s, nofun⟩
  | some c =>
    have hloginOf : s.loginOf client = c.login := by rw [State.loginOf, hc]; rfl
    cases hlogin : c.login with
    | some login =>
      rw [run_loginOfRequest_of_some hc hlogin, Prod.mk.injEq] at h
      obtain ⟨rfl, rfl⟩ := h
      refine Or.inl ⟨refl_of _ s, fun auth hauth => ?_⟩
      obtain rfl := Outcome.ok.inj hauth
      exact hloginOf.trans hlogin
    | none =>
      rw [run_loginOfRequest_of_none hc hlogin, run_bind] at h
      have hkeeps := keeps_clientLoginByUid (P := Nothing) sur.toEnv uid password dev s
      rcases hrun : (clientLoginByUid sur.toEnv uid password dev).run s with ⟨auth | err | _, s₀⟩
      · rw [hrun] at hkeeps h
        have hopen : s₀.clients client ≠ none := by
          rw [ne_eq, hkeeps.registry.isOpen, hc]
          exact nofun
        obtain ⟨c₀, hc₀⟩ := Option.ne_none_iff_exists'.mp hopen
        by_cases hvalid : auth.isValid = true
        · dsimp only at h
          rw [run_bind_of_ok (run_registerInnerConnectionByHost hvalid hc₀), run_pure,
            Prod.mk.injEq] at h
          obtain ⟨rfl, rfl⟩ := h
          exact Or.inr ⟨auth, s₀, c₀, rfl, hloginOf.trans hlogin, rfl, hvalid, hkeeps, hc₀, rfl⟩
        · dsimp only at h
          rw [run_bind, run_registerInnerConnectionByHost_of_not (by simpa using hvalid),
            Prod.mk.injEq] at h
          obtain ⟨rfl, rfl⟩ := h
          exact Or.inl ⟨hkeeps, nofun⟩
      · rw [hrun, Prod.mk.injEq] at h
        rw [hrun] at hkeeps
        obtain ⟨rfl, rfl⟩ := h
        exact Or.inl ⟨hkeeps, nofun⟩
      · rw [hrun, Prod.mk.injEq] at h
        rw [hrun] at hkeeps
        obtain ⟨rfl, rfl⟩ := h
        exact Or.inl ⟨hkeeps, nofun⟩

/-- The request brings the credentials for a login along, and its connection has none. -/
structure LogsInByPath (s : State) (sur : HttpSurroundings) (client : ClientId)
    (request : HttpRequest) (auth : ServerDBAuthInfo) : Prop where
  notLogged : s.loginOf client = none
  accepted : ∃ path uid password dev rest, request.path = some path ∧
    tokenize path = uid :: password :: dev :: rest ∧
    ((clientLoginByUid sur.toEnv uid password dev).run s).1 = .ok auth

/-- A request over HTTP that gets as far as the registration, with this login. -/
structure LogsInByRequest (s : State) (sur : HttpSurroundings) (client : ClientId)
    (request : HttpRequest) (info : ServerDBAuthInfo) : Prop where
  method : request.method ≠ .other
  notLogged : s.loginOf client = none
  accepted : ∃ path uid password dev sid channel name rest, request.path = some path ∧
    tokenize path = uid :: password :: dev :: sid :: channel :: name :: rest ∧
    ((clientLoginByUid sur.toEnv uid password dev).run s).1 = .ok info
  valid : info.isValid = true

theorem LogsInByRequest.logsInByPath {sur : HttpSurroundings} {request : HttpRequest}
    {info : ServerDBAuthInfo} (h : LogsInByRequest s sur client request info) :
    LogsInByPath s sur client request info := by
  obtain ⟨path, uid, password, dev, sid, channel, name, rest, hpath, htokens, hok⟩ := h.accepted
  exact ⟨h.notLogged, path, uid, password, dev, _, hpath, htokens, hok⟩

/-- The event logs the connection in, with this login. -/
def Joins (s : State) (client : ClientId) (info : ServerDBAuthInfo) : Event → Prop
  | .request client' sur ⟨_, .login params⟩ =>
    client' = client ∧ (s.clients client).any (fun c => c.kind = .subscriber) ∧
      LogsIn s sur client params info
  | .http client' sur (.request request) =>
    client' = client ∧ (s.clients client).any (fun c => c.kind = .http) ∧
      LogsInByRequest s sur client request info
  | _ => False

/-! A connection is accepted where there is none, and ends where there is one.  A request is one of a
connection of its kind, or does nothing. -/

theorem run_action_accept {kind : ClientKind} (hnone : s.clients client = none) :
    ((Event.accept client kind).action).run s = (.ok (), { s with
      clients := Function.update s.clients client (some (newClient kind)) }) := by
  unfold Event.action
  rw [run_bind_of_ok (run_reads _ _)]
  exact congrFun (if_pos hnone) s

theorem run_action_accept_of_not {kind : ClientKind} (hopen : ¬s.clients client = none) :
    ((Event.accept client kind).action).run s = (.ok (), s) := by
  unfold Event.action
  rw [run_bind_of_ok (run_reads _ _)]
  exact congrFun (if_neg hopen) s

theorem run_action_close (hc : s.clients client = some c) :
    ((Event.close client).action).run s = (.ok (), s.leave client c) := by
  have hopen : (s.clients client).isSome = true := by rw [hc, Option.isSome_some]
  rw [← run_closeAndDelete hc]
  unfold Event.action
  rw [run_bind_of_ok (run_reads _ _)]
  exact congrFun (if_pos hopen) s

theorem run_action_close_of_none (hnone : s.clients client = none) :
    ((Event.close client).action).run s = (.ok (), s) := by
  have hopen : ¬(s.clients client).isSome = true := by simp [hnone]
  unfold Event.action
  rw [run_bind_of_ok (run_reads _ _)]
  exact congrFun (if_neg hopen) s

theorem run_action_request {req : SubscriberRequest}
    (hopen : (s.clients client).any (fun c => c.kind = .subscriber) = true) :
    ((Event.request client sur req).action).run s = (handleRequestCommand sur client req).run s := by
  unfold Event.action
  rw [run_bind_of_ok (run_reads _ _)]
  exact congrFun (if_pos hopen) s

theorem run_action_request_of_not {req : SubscriberRequest}
    (hopen : ¬(s.clients client).any (fun c => c.kind = .subscriber) = true) :
    ((Event.request client sur req).action).run s = (.ok (), s) := by
  unfold Event.action
  rw [run_bind_of_ok (run_reads _ _)]
  exact congrFun (if_neg hopen) s

theorem run_action_http {sur : HttpSurroundings} {input : HttpInput}
    (hopen : (s.clients client).any (fun c => c.kind = .http) = true) :
    ((Event.http client sur input).action).run s = (processReceived sur client input).run s := by
  unfold Event.action
  rw [run_bind_of_ok (run_reads _ _)]
  exact congrFun (if_pos hopen) s

theorem run_action_http_of_not {sur : HttpSurroundings} {input : HttpInput}
    (hopen : ¬(s.clients client).any (fun c => c.kind = .http) = true) :
    ((Event.http client sur input).action).run s = (.ok (), s) := by
  unfold Event.action
  rw [run_bind_of_ok (run_reads _ _)]
  exact congrFun (if_neg hopen) s

/-- What an event does that is a login which gets as far as the registration. -/
theorem run_action_of_logsIn (id : RequestId) {params : Params AuthInfo} {info : ServerDBAuthInfo}
    (hopen : (s.clients client).any (fun c => c.kind = .subscriber) = true)
    (h : LogsIn s sur client params info) :
    ∃ s₁ c₁, ((Event.request client sur ⟨id, .login params⟩).action).run s =
        (.ok (), s₁.join client info c₁) ∧
      Quiet FromHandler s s₁ ∧ s₁.clients client = some c₁ := by
  obtain ⟨c, hc, -⟩ := (Option.any_eq_true _ _).mp hopen
  obtain ⟨s₁, c₁, hrun, hquiet, hc₁⟩ := run_handleRequestClientLogin id hc h
  exact ⟨s₁, c₁, (run_action_request hopen).trans hrun, hquiet, hc₁⟩

/-! ### Events within a relation -/

section

variable {R : State → State → Prop} [IsPreorder State R]
  (hquiet : ∀ s s', Quiet FromHandler s s' → R s s')

include hquiet

/-- A request over HTTP up to its answer, where the relation allows its login. -/
theorem within_serveRequest {sur : HttpSurroundings} {request : HttpRequest}
    (hjoin : ∀ info s₁ c, LogsInByRequest s sur client request info → Quiet Nothing s s₁ →
      s₁.clients client = some c → R s₁ (s₁.join client info c)) :
    R s ((serveRequest sur client request).run s).2 := by
  have herror : ∀ status err, Within R (sendError sur client request.keepAlive status err) :=
    fun _ _ => within_of_keeps hquiet (keeps_sendError trivial)
  unfold serveRequest
  split_ifs with hmethod
  · exact refl_of R s
  cases hpath : request.path with
  | none => exact herror _ _ s
  | some path =>
    dsimp only
    unfold servePath
    split
    · rename_i uid password dev sid channel name rest htokens
      refine rel_bind (rel_result ?_) fun r s' _ => ?_
      · rcases hrun : (loginOfRequest sur client uid password dev).run s with ⟨o, s₁⟩
        rcases loginOfRequest_cases hrun with
          ⟨hsilent, -⟩ | ⟨info, s₀, c, -, hnone, hok, hvalid, hsilent, hc, rfl⟩
        · exact hquiet _ _ hsilent.of_nothing
        · refine trans_of R (hquiet _ _ hsilent.of_nothing) ?_
          exact hjoin info s₀ c ⟨hmethod, hnone, ⟨path, uid, password, dev, sid, channel, name,
            rest, hpath, htokens, hok⟩, hvalid⟩ hsilent hc
      · split
        · exact herror _ _ s'
        · exact within_of_keeps hquiet (keeps_serveStream _ _ _ _ _) s'
    · exact herror _ _ s

/-- A request over HTTP, where the relation allows its end and its login. -/
theorem within_processReceived {sur : HttpSurroundings} {input : HttpInput}
    (hclose : Within R (closeAndDelete client))
    (hjoin : ∀ request info s₁ c, input = .request request →
      LogsInByRequest s sur client request info → Quiet Nothing s s₁ →
      s₁.clients client = some c → R s₁ (s₁.join client info c)) :
    R s ((processReceived sur client input).run s).2 := by
  cases input with
  | failed => exact hclose s
  | unparsed status err =>
    have herror : Within R (sendError sur client false (.unparsed status) err) :=
      within_of_keeps hquiet (keeps_sendError trivial)
    exact within_bind herror (fun _ => hclose) s
  | request request =>
    have hend : Within R (if request.keepAlive then pure () else closeAndDelete client) := by
      split_ifs
      · exact within_pure _
      · exact hclose
    exact rel_bind (within_serveRequest hquiet fun info s₁ c => hjoin request info s₁ c rfl)
      fun _ s' _ => hend s'

/-- An event, where the relation allows what is quiet, and what else this event does. -/
theorem within_event {e : Event}
    (haccept : ∀ client kind, e = .accept client kind → s.clients client = none →
      R s { s with clients := Function.update s.clients client (some (newClient kind)) })
    (hjoin : ∀ client info s₁ c, Joins s client info e → Quiet FromHandler s s₁ →
      s₁.clients client = some c → R s₁ (s₁.join client info c))
    (hleave : ∀ client s c, s.clients client = some c → R s (s.leave client c))
    (hcatchup : ∀ client sur id params, e = .request client sur ⟨id, .generateCatchup params⟩ →
      Within R (handleRequestGenerateCatchup sur client id params))
    (hmessage : ∀ dclient sur id params, e = .sendMessage dclient sur id params →
      R s ((handleRequestClientSendMessageForSubscriber sur dclient id params).run s).2)
    (hdatabase : ∀ db, e = .database db → R s { s with db := db }) :
    R s ((e.action).run s).2 := by
  have hclose : ∀ client, Within R (closeAndDelete client) := by
    intro client s
    cases hc : s.clients client with
    | none =>
      rw [run_closeAndDelete_none hc]
      exact refl_of R s
    | some c =>
      rw [run_closeAndDelete hc]
      exact hleave client s c hc
  cases e with
  | accept client kind =>
    by_cases hc : s.clients client = none
    · rw [run_action_accept hc]
      exact haccept client kind rfl hc
    · rw [run_action_accept_of_not hc]
      exact refl_of R s
  | request client sur req =>
    by_cases hc : (s.clients client).any (fun c => c.kind = .subscriber) = true
    · rw [run_action_request hc]
      obtain ⟨c, hopen, -⟩ := (Option.any_eq_true _ _).mp hc
      rcases handleRequestCommand_cases hquiet (hclose client)
        (fun params h => hcatchup client sur req.id params (by rw [← h])) hopen with
        hwithin | ⟨params, info, s₁, c₁, hparams, hlogs, hquiet₁, hc₁, -, -, hjoins⟩
      · exact hwithin
      · obtain ⟨id, command⟩ := req
        obtain rfl : command = .login params := hparams
        rw [hjoins]
        exact trans_of R (hquiet _ _ hquiet₁) (hjoin client info s₁ c₁ ⟨rfl, hc, hlogs⟩ hquiet₁ hc₁)
    · rw [run_action_request_of_not hc]
      exact refl_of R s
  | http client sur input =>
    by_cases hc : (s.clients client).any (fun c => c.kind = .http) = true
    · rw [run_action_http hc]
      refine within_processReceived hquiet (hclose client) fun request info s₁ c hinput hlogs
        hsilent hc₁ => ?_
      subst hinput
      exact hjoin client info s₁ c ⟨rfl, hc, hlogs⟩ hsilent.of_nothing hc₁
    · rw [run_action_http_of_not hc]
      exact refl_of R s
  | close client =>
    cases hc : s.clients client with
    | none =>
      rw [run_action_close_of_none hc]
      exact refl_of R s
    | some c =>
      rw [run_action_close hc]
      exact hleave client s c hc
  | sendMessage dclient sur id params => exact hmessage dclient sur id params rfl
  | database db => exact hdatabase db rfl

end

/-- An event, where the relation does not look at who is logged in, and allows what the two kinds of
events do that write to the database in other ways. -/
theorem within_action {R : State → State → Prop} [IsPreorder State R]
    (hquiet : ∀ s s', Quiet Anything s s' → R s s')
    (hregistry : ∀ s clients connections,
      R s { s with clients := clients, connections := connections })
    {e : Event} (hcatchup : ∀ client sur id params,
      e = .request client sur ⟨id, .generateCatchup params⟩ →
        Within R (handleRequestGenerateCatchup sur client id params))
    (hdatabase : ∀ db, e = .database db → R s { s with db := db }) :
    R s ((e.action).run s).2 := by
  have hnotice : ∀ {s s'}, Quiet Notice s s' → R s s' :=
    fun h => hquiet _ _ (h.mono fun _ _ => trivial)
  refine within_event (fun s s' h => hquiet s s' (h.mono fun _ _ => trivial))
    (fun client kind _ _ => hregistry s _ _)
    (fun client info s₁ c _ _ _ => trans_of R (hregistry s₁ _ _) (hnotice quiet_join))
    (fun client s c _ => trans_of R (hregistry s _ _) (hnotice quiet_leave)) hcatchup
    (fun dclient sur id params _ => ?_) hdatabase
  exact hquiet _ _ (keeps_handleRequestClientSendMessageForSubscriber (P := Anything)
      (fun _ _ _ => trivial) (fun _ _ => trivial) s)

instance : IsPreorder State fun s s' => AnyWrites s.db s'.db where
  refl s := refl_of AnyWrites s.db
  trans _ _ _ h h' := trans_of AnyWrites h h'

/-- The writes of an event that neither asks for a catchup nor comes from outside. -/
theorem writes_action {e : Event}
    (hcatchup : ∀ client sur id params, e ≠ .request client sur ⟨id, .generateCatchup params⟩)
    (hdatabase : ∀ db, e ≠ .database db) : AnyWrites s.db ((e.action).run s).2.db :=
  within_action (R := fun s s' => AnyWrites s.db s'.db) (fun _ _ h => h.writes)
    (fun s _ _ => refl_of AnyWrites s.db) (fun _ _ _ _ h => absurd h (hcatchup _ _ _ _))
    fun _ h => absurd h (hdatabase _)

/-- What was sent stays sent. -/
theorem appends_action (e : Event) : Appends Anything s ((e.action).run s).2 := by
  have hquiet : ∀ s s', Quiet Anything s s' → Appends Anything s s' := fun _ _ h => h.sent
  have hdatabase : ∀ {β : Type} (x : Action Database Error β),
      Within (Appends Anything) (database x) :=
    fun x s => ⟨[], by simp [database, run_zoom], by simp⟩
  refine within_action hquiet (fun s _ _ => ⟨[], by simp, by simp⟩)
    (fun client sur id params _ => ?_) fun db _ => ⟨[], by simp, by simp⟩
  refine within_handleRequestGenerateCatchup
    (fun _ _ h => hquiet _ _ (h.mono fun _ _ => trivial)) (within_closeAndDelete ?_ ?_) hdatabase
  · exact fun s s' h => h.sent.mono fun _ _ => trivial
  · exact fun s _ _ => ⟨[], by simp [State.remove], by simp⟩

theorem step_eq_some_iff {e : Event} {s' : State} :
    step (some s) e = some s' ↔
      ((e.action).run s).1.Returns ∧ s' = ((e.action).run s).2 := by
  unfold step
  rw [Option.bind_eq_bind, Option.bind_some]
  refine next_eq_some_iff (fun a s h => ?_) (fun err s h => ?_) fun s h => ?_
  · rw [h]
  · rw [h]
  · rw [h]

/-- The state of a process that goes on is what the event's action leaves. -/
theorem step_eq_some {e : Event} {s' : State} (h : step (some s) e = some s') :
    s' = ((e.action).run s).2 := (step_eq_some_iff.mp h).2

theorem step_of_returns {e : Event} (h : ((e.action).run s).1.Returns) :
    step (some s) e = some ((e.action).run s).2 := step_eq_some_iff.mpr ⟨h, rfl⟩

theorem step_of_abort {e : Event} (h : ((e.action).run s).1 = .abort) : step (some s) e = none := by
  refine Option.eq_none_iff_forall_ne_some.mpr fun s' hs' => ?_
  exact Outcome.returns_iff.mp (step_eq_some_iff.mp hs').1 h

/-! ### Where a login comes from -/

/-- The session of a connection after a call, if it is this one, was there before. -/
def SessionFrom (client : ClientId) (session : ClientKind × Option ServerDBAuthInfo)
    (s s' : State) : Prop :=
  s'.session client = some session → s.session client = some session

instance {session : ClientKind × Option ServerDBAuthInfo} :
    IsPreorder State (SessionFrom client session) where
  refl _ h := h
  trans _ _ _ h h' hs := h (h' hs)

section

variable {session : ClientKind × Option ServerDBAuthInfo} {kind : ClientKind}
  {auth : ServerDBAuthInfo} {other : ClientId}

omit [Fastotv] in
theorem sessionFrom_of_quiet {P : Output → Prop} (s s' : State) (h : Quiet P s s') :
    SessionFrom client session s s' := by
  intro hs
  rwa [h.registry.session] at hs

omit [Fastotv] in
theorem sessionFrom_remove {c : Client} : SessionFrom client session s (s.remove other c) := by
  intro hs
  unfold State.session State.remove at hs
  by_cases h : client = other
  · subst h
    simp at hs
  · simpa [State.session, Function.update_of_ne h] using hs

omit [Fastotv] in
/-- A registration does not matter that is of another connection, or gives it another session. -/
theorem sessionFrom_register {c : Client} {info : ServerDBAuthInfo}
    (h : client = other → (c.kind, some info) ≠ session) :
    SessionFrom client session s (s.register other info c) := by
  intro hs
  unfold State.session State.register at hs
  by_cases hne : client = other
  · subst hne
    dsimp only at hs
    rw [Function.update_self] at hs
    exact absurd (Option.some.inj hs) (h rfl)
  · simpa [State.session, Function.update_of_ne hne] using hs

/-- A login was there before the event, or the event logs the connection in with it. -/
theorem sessionFrom_or_joins (e : Event) (client : ClientId) (kind : ClientKind)
    (auth : ServerDBAuthInfo) (s : State) :
    SessionFrom client (kind, some auth) s ((e.action).run s).2 ∨
      (Joins s client auth e ∧ ∃ login, s.session client = some (kind, login)) := by
  by_cases hjoins : Joins s client auth e ∧ ∃ login, s.session client = some (kind, login)
  · exact Or.inr hjoins
  refine Or.inl (within_event (fun _ _ h => sessionFrom_of_quiet _ _ h)
    (fun other kind' _ hnone hs => ?_) (fun other info s₁ c hjoin hquiet hc => ?_)
    (fun other s c _ => ?_) (fun other sur id params _ => ?_) (fun dclient sur id params _ => ?_)
    fun db _ hs => hs)
  · -- A new connection has no login.
    unfold State.session at hs ⊢
    by_cases h : client = other
    · subst h
      simp [newClient] at hs
    · simpa [Function.update_of_ne h] using hs
  · refine trans_of (SessionFrom client _) (sessionFrom_register ?_)
      (sessionFrom_of_quiet _ _ quiet_join)
    rintro rfl hsession
    obtain ⟨rfl, hinfo⟩ := Prod.mk.inj hsession
    obtain rfl := Option.some.inj hinfo
    refine hjoins ⟨hjoin, c.login, ?_⟩
    rw [← hquiet.registry.session client, State.session, hc, Option.map_some]
  · exact trans_of (SessionFrom client _) sessionFrom_remove (sessionFrom_of_quiet _ _ quiet_leave)
  · exact within_handleRequestGenerateCatchup (fun _ _ h => sessionFrom_of_quiet _ _ h)
      (within_closeAndDelete sessionFrom_of_quiet fun _ _ _ => sessionFrom_remove) fun _ _ hs => hs
  · exact sessionFrom_of_quiet _ _ (keeps_handleRequestClientSendMessageForSubscriber
      (P := Anything) (fun _ _ _ => trivial) (fun _ _ => trivial) s)

/-- So a login after the event was there before it, and the event logs nobody in on the connection,
or it is the login that the event logs in with. -/
theorem session_cases {e : Event}
    (h : (((e.action).run s).2).session client = some (kind, some auth)) :
    (s.session client = some (kind, some auth) ∧ ∀ info, ¬Joins s client info e) ∨
      (Joins s client auth e ∧ ∃ login, s.session client = some (kind, login)) := by
  rcases sessionFrom_or_joins e client kind auth s with hfrom | hjoins
  swap
  · exact Or.inr hjoins
  have hbefore := hfrom h
  by_cases hjoins : ∃ info, Joins s client info e
  · obtain ⟨info, hjoins⟩ := hjoins
    cases e with
    | request client' sur req =>
      obtain ⟨id, command⟩ := req
      cases command with
      | login params =>
        -- A second login replaces the first.
        have hlogs := hjoins
        obtain ⟨rfl, hopen, hlogs⟩ := hlogs
        obtain ⟨s₁, c₁, hrun, -, -⟩ := run_action_of_logsIn id hopen hlogs
        have hsession : (s₁.join client' info c₁).session client' = some (c₁.kind, some info) := by
          simp [State.session, State.join, State.register]
        rw [hrun, hsession] at h
        obtain ⟨-, hinfo⟩ := Prod.mk.inj (Option.some.inj h)
        obtain rfl := Option.some.inj hinfo
        exact Or.inr ⟨hjoins, _, hbefore⟩
      | _ => exact hjoins.elim
    | http client' sur input =>
      cases input with
      | request request =>
        obtain ⟨rfl, -, hlogs⟩ := hjoins
        have hnone := hlogs.notLogged
        rw [State.loginOf_eq, hbefore] at hnone
        cases hnone
      | _ => exact hjoins.elim
    | _ => exact hjoins.elim
  · exact Or.inl ⟨hbefore, fun info hinfo => hjoins ⟨info, hinfo⟩⟩

end

end

end LoadBalance
