import LoadBalance.Equiv.Acknowledged
import LoadBalance.Equiv.Activation

/-!
# Requests and their answers

A handler replies with the id of its request whatever that is, and it may come to an end without a
reply: the parameters are no use, the client of the daemon was not verified, or a call of the
manager ends the process.  So how far a handler gets decides about the answer (`Command.Replies`,
`DaemonCommand.Replies`): a request with an id is answered when the handler gets to a reply, and a
notification is left without an answer when it does not (`answered_once_iff`). -/

namespace LoadBalance

open LoadBalance.Action

/-! ### Responses -/

/-- A response to a request of a subscriber or of a client of the daemon. -/
def Output.isResponse : Output → Bool
  | .reply .. => true
  | .daemonReply .. => true
  | _ => false

/-- The responses that are sent between two states. -/
def Responds (rs : List Output) (s s' : State) : Prop :=
  ∃ outs, s'.sent = s.sent ++ outs ∧ outs.filter Output.isResponse = rs

/-- What is asked of the handling of a request: with an id, one response with this id is written or
the connection is closed; without one, no response is written. -/
def AnsweredOnce {ρ : Type} (answer : RequestId → ρ → Output) (closed : Prop) (id : RequestId)
    (s s' : State) : Prop :=
  ∃ rs, Responds rs s s' ∧ match id with
    | some i => (∃ r, rs = [answer (some i) r]) ∨ closed
    | none => rs = []

/-- No response is sent, and all connections stay. -/
structure Silent (s s' : State) : Prop where
  responds : Responds [] s s'
  isOpen : ∀ client, s'.clients client = none ↔ s.clients client = none

/-- One response is sent when `p` holds, and otherwise none, and all connections stay. -/
def RespondsIf {ρ : Type} (answer : ρ → Output) (p : Prop) (s s' : State) : Prop :=
  (p ∧ ∃ r, Responds [answer r] s s') ∨ (¬p ∧ Silent s s')

section

variable {s s' s'' : State} {rs rs' : List Output} {ρ : Type} {answer : ρ → Output} {p q : Prop}

theorem Responds.trans (h : Responds rs s s') (h' : Responds rs' s' s'') :
    Responds (rs ++ rs') s s'' := Emits.trans h h'

theorem Responds.unique (h : Responds rs s s') (h' : Responds rs' s s') : rs = rs' :=
  Emits.unique h h'

instance : IsPreorder State Silent where
  refl _ := ⟨⟨[], (List.append_nil _).symm, rfl⟩, fun _ => Iff.rfl⟩
  trans _ _ _ h h' := ⟨h.responds.trans h'.responds,
    fun client => (h'.isOpen client).trans (h.isOpen client)⟩

theorem Quiet.silent {P : Output → Prop} (h : Quiet P s s')
    (hP : ∀ o, P o → o.isResponse = false) : Silent s s' :=
  ⟨h.sent.emits_nil hP, fun client => h.registry.isOpen client⟩

theorem Quiet.silent_of_nothing (h : Quiet Nothing s s') : Silent s s' :=
  h.silent fun _ ho => ho.elim

theorem RespondsIf.congr (h : RespondsIf answer p s s') (hpq : p ↔ q) :
    RespondsIf answer q s s' := by
  rw [← propext hpq]
  exact h

theorem RespondsIf.of_silent (h : Silent s s') (hp : ¬p) : RespondsIf answer p s s' :=
  Or.inr ⟨hp, h⟩

/-- What is silent before and after it makes no difference. -/
theorem RespondsIf.trans_silent (h : RespondsIf answer p s s') (h' : Silent s' s'') :
    RespondsIf answer p s s'' := by
  rcases h with ⟨hp, r, hr⟩ | ⟨hp, hs⟩
  · exact Or.inl ⟨hp, r, hr.trans h'.responds⟩
  · exact Or.inr ⟨hp, trans_of Silent hs h'⟩

theorem RespondsIf.silent_trans (h : Silent s s') (h' : RespondsIf answer p s' s'') :
    RespondsIf answer p s s'' := by
  rcases h' with ⟨hp, r, hr⟩ | ⟨hp, hs⟩
  · exact Or.inl ⟨hp, r, h.responds.trans hr⟩
  · exact Or.inr ⟨hp, trans_of Silent h hs⟩

/-- The handling is as asked when there is a response exactly to what has an id. -/
theorem RespondsIf.answeredOnce_iff {answer : RequestId → ρ → Output} {id : RequestId}
    {closed : Prop} (h : RespondsIf (answer id) p s s') (hopen : Silent s s' → ¬closed) :
    AnsweredOnce answer closed id s s' ↔ (id.isSome = true ↔ p) := by
  rcases h with ⟨hp, r, hr⟩ | ⟨hp, hs⟩
  · cases id with
    | none =>
      refine iff_of_false ?_ (by simp [hp])
      rintro ⟨rs, hrs, rfl⟩
      cases hr.unique hrs
    | some i => exact iff_of_true ⟨_, hr, Or.inl ⟨r, rfl⟩⟩ (by simp [hp])
  · cases id with
    | none => exact iff_of_true ⟨_, hs.responds, rfl⟩ (by simp [hp])
    | some i =>
      refine iff_of_false ?_ (by simp [hp])
      rintro ⟨rs, hrs, ⟨r, rfl⟩ | hclosed⟩
      · cases hs.responds.unique hrs
      · exact hopen hs hclosed

end

/-! ### Calls without a response -/

section

variable {α : Type} {s : State} {client : ClientId}

theorem silent_database (x : Action Database Error α) : Within Silent (database x) := fun _ =>
  ⟨⟨[], (List.append_nil _).symm, rfl⟩, fun _ => Iff.rfl⟩

theorem silent_send {o : Output} (ho : o.isResponse = false) : Within Silent (send o) := by
  refine fun s => ⟨⟨[o], rfl, ?_⟩, fun _ => Iff.rfl⟩
  rw [List.filter_cons_of_neg (by simp [ho]), List.filter_nil]

theorem silent_assign {f : Client → Client} : Within Silent (assign client f) := by
  intro s
  cases hc : s.clients client with
  | none =>
    unfold assign
    rw [run_bind, run_deref_none hc]
    exact refl_of Silent s
  | some c =>
    rw [run_assign hc]
    refine ⟨⟨[], (List.append_nil _).symm, rfl⟩, fun client' => ?_⟩
    by_cases h : client' = client
    · subst h
      simp [hc]
    · dsimp only
      rw [Function.update_of_ne h]

variable [Fastotv]

theorem silent_registerInnerConnectionByHost {info : ServerDBAuthInfo} :
    Within Silent (registerInnerConnectionByHost client info) :=
  within_registerInnerConnectionByHost silent_assign
    (fun _ => ⟨⟨[], (List.append_nil _).symm, rfl⟩, fun _ => Iff.rfl⟩) fun _ => silent_send rfl

theorem silent_clientLogin (env : Env) (uauth : AuthInfo) : Within Silent (clientLogin env uauth) :=
  fun s => (keeps_clientLogin env uauth s).silent_of_nothing

/-! Calls of the manager that do not end the process. -/

variable {env : Env} {auth : ServerDBAuthInfo}

theorem alwaysReturns_addUserCatchup (sid : StreamId) :
    AlwaysReturns (addUserCatchup env auth sid) := by
  unfold addUserCatchup withUserAndStream
  split_ifs
  · exact alwaysReturns_fail _
  · exact alwaysReturns_bind (alwaysReturns_orFail _ _) fun _ =>
      alwaysReturns_bind (alwaysReturns_orFail _ _) fun _ => alwaysReturns_writeBack

theorem alwaysReturns_removeUserCatchup (sid : StreamId) :
    AlwaysReturns (removeUserCatchup env auth sid) := by
  unfold removeUserCatchup withUserAndStream
  split_ifs
  · exact alwaysReturns_fail _
  · exact alwaysReturns_bind (alwaysReturns_orFail _ _) fun _ =>
      alwaysReturns_bind (alwaysReturns_orFail _ _) fun _ => alwaysReturns_writeBack

theorem alwaysReturns_createRequestContent (request : CreateContentRequestInfo) :
    AlwaysReturns (createRequestContent env auth request) := by
  unfold createRequestContent
  split_ifs
  · exact alwaysReturns_fail _
  refine alwaysReturns_bind (alwaysReturns_orFail _ _) fun oid => ?_
  exact alwaysReturns_bind alwaysReturns_writeBack fun _ =>
    alwaysReturns_bind alwaysReturns_writeBack fun _ => alwaysReturns_pure _

omit [Fastotv] in
/-- The end of a call of the database is that of the call that it is for the manager. -/
theorem alwaysReturns_database {x : Action Database Error α} (hx : AlwaysReturns x) :
    AlwaysReturns (database x) := fun s => hx s.db

end

/-! ### Parts of handlers -/

section

variable {α ρ : Type} {s : State} {sur : Surroundings} {client : ClientId} {id : RequestId}
  {answer : ρ → Output} {p : Prop}

theorem responds_write (hsends : sur.sends client = true) {o : Output} (ho : o.isResponse = true) :
    Responds [o] s ((write sur client o).run s).2 := by
  unfold write
  rw [if_pos hsends]
  exact ⟨[o], rfl, by rw [List.filter_cons_of_pos ho, List.filter_nil]⟩

theorem respondsIf_reply (hsends : sur.sends client = true) (r : Reply) :
    RespondsIf (Output.reply client id) True s ((reply sur client id r).run s).2 :=
  Or.inl ⟨trivial, r, responds_write hsends rfl⟩

/-- A reply that tells of an error, which is then returned. -/
theorem respondsIf_failure (hsends : sur.sends client = true) (r : Reply) (err : Error) :
    RespondsIf (Output.reply client id) True s
      ((do attempt (reply sur client id r); fail err : Call Unit).run s).2 :=
  rel_then (S := Silent) (fun _ _ => RespondsIf.trans_silent)
    (rel_attempt (respondsIf_reply hsends r)) fun _ => within_fail _

theorem respondsIf_fail (err : Error) (hp : ¬p) :
    RespondsIf answer p s ((fail err : Call Unit).run s).2 := .of_silent (refl_of Silent s) hp

/-- A call without a response before the rest: the rest is reached when it succeeds. -/
theorem respondsIf_bind {x : Call α} {f : α → Call Unit} (hx : Silent s (x.run s).2)
    (hf : ∀ a s₁, x.run s = (.ok a, s₁) → RespondsIf answer True s₁ ((f a).run s₁).2) :
    RespondsIf answer (∃ a, (x.run s).1 = .ok a) s ((x >>= f).run s).2 := by
  rw [run_bind]
  rcases hr : x.run s with ⟨a | e | _, s₁⟩ <;> rw [hr] at hx
  · refine .silent_trans hx ((hf a s₁ hr).congr ?_)
    simp
  · exact .of_silent hx (by simp)
  · exact .of_silent hx (by simp)

theorem respondsIf_after {x : Call α} {f : α → Call Unit} {a : α} {s₁ : State}
    (hx : x.run s = (.ok a, s₁)) (hsilent : Silent s (x.run s).2)
    (hf : RespondsIf answer p s₁ ((f a).run s₁).2) :
    RespondsIf answer p s ((x >>= f).run s).2 := by
  rw [hx] at hsilent
  rw [run_bind_of_ok hx]
  exact .silent_trans hsilent hf

theorem respondsIf_reads {g : State → Outcome Error α} {f : α → Call Unit}
    (hf : ∀ a, g s = .ok a → RespondsIf answer True s ((f a).run s).2) :
    RespondsIf answer (∃ a, g s = .ok a) s ((reads g >>= f).run s).2 := by
  have hx : Within Silent (reads g : Call α) := within_reads g
  refine respondsIf_bind (hx s) fun a s₁ hread => ?_
  obtain ⟨hok, rfl⟩ := Prod.mk.inj hread
  exact hf a hok

theorem respondsIf_orReply (hsends : sur.sends client = true) {failure : Error → Reply}
    {x : Call α} {f : α → Call Unit} (hx : Silent s (x.run s).2)
    (hf : ∀ a s₁, x.run s = (.ok a, s₁) →
      RespondsIf (Output.reply client id) True s₁ ((f a).run s₁).2) :
    RespondsIf (Output.reply client id) ((x.run s).1 ≠ .abort) s
      ((orReply sur client id failure x f).run s).2 := by
  unfold orReply
  refine (respondsIf_bind (rel_result hx) fun r s₁ hr => ?_).congr exists_run_result_iff
  rw [run_result] at hr
  rcases hrun : x.run s with ⟨a | e | _, s'⟩ <;> rw [hrun] at hr
  · cases hr
    exact hf a _ hrun
  · cases hr
    exact respondsIf_failure hsends _ _
  · cases hr

end

/-! ### When a handler replies -/

/-- The parameters are decoded, to a value with the property. -/
def Params.Decodes {α : Type} (f : α → Prop) : Params α → Prop
  | .decoded a => f a
  | _ => False

/-- The parameters are there, and have the property when they are decoded. -/
def Params.Taken {α : Type} (f : α → Prop) : Params α → Prop
  | .absent => False
  | .refused _ => True
  | .decoded a => f a

section

variable [Fastotv]

/-- The handler of a command gets to a reply for a connection that is logged in: the parameters are
decoded, and the call of the manager comes back. -/
def Command.RepliesTo (sur : Surroundings) (s : State) (auth : ServerDBAuthInfo) : Command → Prop
  | .getServerInfo => True
  | .getChannels => clientGetChannels sur.toEnv s.db auth.toAuthInfo ≠ .abort
  | .getRuntimeChannelInfo params => params.Decodes fun sid =>
      ∃ watchers, getAndUpdateOnlineUserByStreamID s sid = .ok watchers
  | .generateCatchup params => params.Decodes fun info =>
      ((managerCreateCatchup sur.toEnv auth info).run s).1 ≠ .abort
  | .ping params => params.Decodes fun _ => True
  | .setFavorite params => params.Decodes fun _ => True
  | .setRecent params => params.Decodes fun _ => True
  | .interruptStreamTime params => params.Decodes fun _ => True
  | .undoCatchup params => params.Decodes fun _ => True
  | .content params => params.Decodes fun _ => True
  | _ => False

/-- The handler of a command gets to a reply: the activation and the login also tell of parameters
that do not decode, and the others also tell that the connection is not logged in. -/
def Command.Replies (sur : Surroundings) (s : State) (c : Client) : Command → Prop
  | .activateDevice params => params.Taken fun uauth => ((clientActivate uauth).run s).1 ≠ .abort
  | .login params => params.Taken fun uauth => ((clientLogin sur.toEnv uauth).run s).1 ≠ .abort
  | command => ∀ auth, c.login = some auth → command.RepliesTo sur s auth

variable {α : Type} {s : State} {sur : Surroundings} {client : ClientId} {id : RequestId}
  {c : Client} (hsends : sur.sends client = true)

omit [Fastotv] in
theorem respondsIf_withParams {ρ : Type} {answer : ρ → Output} {params : Params α} {p : α → Prop}
    {f : α → Call Unit} (hf : ∀ a, RespondsIf answer (p a) s ((f a).run s).2) :
    RespondsIf answer (params.Decodes p) s ((withParams params f).run s).2 := by
  cases params with
  | absent => exact respondsIf_fail _ id
  | refused err => exact respondsIf_fail _ id
  | decoded a => exact hf a

include hsends

omit [Fastotv] in
/-- A connection that is not logged in is told so. -/
theorem respondsIf_withLogin {p : ServerDBAuthInfo → Prop} {f : ServerDBAuthInfo → Call Unit}
    (hc : s.clients client = some c)
    (hf : ∀ auth, RespondsIf (Output.reply client id) (p auth) s ((f auth).run s).2) :
    RespondsIf (Output.reply client id) (∀ auth, c.login = some auth → p auth) s
      ((withLogin sur client id f).run s).2 := by
  cases hlogin : c.login with
  | none =>
    rw [run_withLogin_of_none hc hlogin]
    refine Or.inl ⟨nofun, .checkLoginFail (.message "User not logged"), _, rfl, ?_⟩
    unfold told
    rw [if_pos hsends]
    rfl
  | some auth =>
    rw [run_withLogin_of_some hc hlogin]
    refine (hf auth).congr ?_
    simp

omit [Fastotv] in
/-- The call of the database is made, and then there is a reply. -/
theorem respondsIf_setter {x : Action Database Error Unit} (hx : AlwaysReturns x) (r : Reply) :
    RespondsIf (Output.reply client id) True s
      ((do attempt (database x); reply sur client id r : Call Unit).run s).2 := by
  refine (respondsIf_bind (rel_attempt (silent_database x s)) fun _ s₁ _ =>
    respondsIf_reply hsends r).congr (iff_of_true ?_ trivial)
  have hreturns := hx s.db
  rw [run_attempt]
  unfold database
  rw [run_zoom]
  rcases hrun : x.run s.db with ⟨a | e | _, db⟩ <;> rw [hrun] at hreturns
  · exact ⟨_, rfl⟩
  · exact ⟨_, rfl⟩
  · exact absurd hreturns Outcome.not_returns_abort

theorem respondsIf_handleRequestClientActivate {params : Params LoginInfo} :
    RespondsIf (Output.reply client id)
      (params.Taken fun uauth => ((clientActivate uauth).run s).1 ≠ .abort) s
      ((handleRequestClientActivate sur client id params).run s).2 := by
  unfold handleRequestClientActivate
  cases params with
  | absent => exact respondsIf_fail _ fun h => h
  | refused err => exact respondsIf_failure hsends _ _
  | decoded uauth =>
    exact respondsIf_orReply hsends (within_clientActivate uauth s) fun devices s₁ _ =>
      rel_attempt (respondsIf_reply hsends _)

/-- A login that is accepted is told before it is registered. -/
theorem respondsIf_handleRequestClientLogin {params : Params AuthInfo} :
    RespondsIf (Output.reply client id)
      (params.Taken fun uauth => ((clientLogin sur.toEnv uauth).run s).1 ≠ .abort) s
      ((handleRequestClientLogin sur client id params).run s).2 := by
  unfold handleRequestClientLogin
  cases params with
  | absent => exact respondsIf_fail _ fun h => h
  | refused err => exact respondsIf_failure hsends _ _
  | decoded uauth =>
    refine respondsIf_orReply hsends (silent_clientLogin _ uauth s) fun ser s₁ _ => ?_
    unfold finishClientLogin
    exact rel_then (S := Silent) (fun _ _ => RespondsIf.trans_silent) (respondsIf_reply hsends _)
      fun _ => silent_registerInnerConnectionByHost

omit [Fastotv] in
/-- An announcement before the reply. -/
theorem respondsIf_announce {x : Call Unit} (hx : Within Silent x)
    (hreturns : ∀ s, (x.run s).1 = .ok ()) (r : Reply) :
    RespondsIf (Output.reply client id) True s
      ((do x; reply sur client id r : Call Unit).run s).2 :=
  (respondsIf_bind (hx s) fun _ _ _ => respondsIf_reply hsends r).congr
    (iff_of_true ⟨_, hreturns s⟩ trivial)

theorem respondsIf_handleRequestGenerateCatchup {params : Params CatchupGenerateInfo}
    (hc : s.clients client = some c) :
    RespondsIf (Output.reply client id)
      (∀ auth, c.login = some auth → (Command.generateCatchup params).RepliesTo sur s auth) s
      ((handleRequestGenerateCatchup sur client id params).run s).2 := by
  refine respondsIf_withLogin hsends hc fun auth => respondsIf_withParams fun catGen => ?_
  refine respondsIf_orReply hsends ?_ fun created s₁ _ => ?_
  · exact rel_bind (refl_of Silent s) fun _ _ _ => silent_database _ _
  refine (respondsIf_orReply hsends (silent_database _ s₁) fun _ s₂ _ => ?_).congr
    (iff_of_true ?_ trivial)
  · refine respondsIf_announce hsends ?_ ?_ _
    · unfold catchupCreated
      split_ifs
      · exact silent_send rfl
      · exact within_pure _
      · exact within_pure _
    · intro s
      unfold catchupCreated
      split_ifs <;> rfl
  · exact Outcome.returns_iff.mp (alwaysReturns_database (alwaysReturns_addUserCatchup _) s₁)

/-- A request of a connection that is open is answered when its handler gets to a reply, whatever
its id is. -/
theorem respondsIf_handleRequestCommand {req : SubscriberRequest} (hc : s.clients client = some c)
    (hknown : req.command ≠ .unknown) :
    RespondsIf (Output.reply client req.id) (req.command.Replies sur s c) s
      ((handleRequestCommand sur client req).run s).2 := by
  obtain ⟨id, command⟩ := req
  unfold handleRequestCommand
  cases command with
  | activateDevice params => exact respondsIf_handleRequestClientActivate hsends
  | login params => exact respondsIf_handleRequestClientLogin hsends
  | ping params =>
    exact respondsIf_withLogin hsends hc fun _ => respondsIf_withParams fun _ =>
      respondsIf_reply hsends _
  | getServerInfo => exact respondsIf_withLogin hsends hc fun _ => respondsIf_reply hsends _
  | getChannels =>
    refine respondsIf_withLogin hsends hc fun auth => ?_
    have hx : Within Silent (reads fun s => clientGetChannels sur.toEnv s.db auth.toAuthInfo) :=
      within_reads _
    exact respondsIf_orReply hsends (hx s) fun _ _ _ => respondsIf_reply hsends _
  | getRuntimeChannelInfo params =>
    refine respondsIf_withLogin hsends hc fun _ => respondsIf_withParams fun sid => ?_
    refine respondsIf_reads (g := fun s => getAndUpdateOnlineUserByStreamID s sid)
      fun watchers _ => ?_
    -- The object is still there, so that its position can be changed.
    exact respondsIf_after (run_assign hc _) (silent_assign s) (respondsIf_reply hsends _)
  | setFavorite params =>
    dsimp only
    rw [handleRequestClientSetFavorite_eq]
    exact respondsIf_withLogin hsends hc fun auth => respondsIf_withParams fun info =>
      respondsIf_setter hsends (fun db => (run_action_cases _ auth (.favorite info) db).1) _
  | setRecent params =>
    dsimp only
    rw [handleRequestClientSetRecent_eq]
    exact respondsIf_withLogin hsends hc fun auth => respondsIf_withParams fun info =>
      respondsIf_setter hsends (fun db => (run_action_cases _ auth (.recent info) db).1) _
  | interruptStreamTime params =>
    dsimp only
    rw [handleRequestInterruptStreamTime_eq]
    exact respondsIf_withLogin hsends hc fun auth => respondsIf_withParams fun info =>
      respondsIf_setter hsends (fun db => (run_action_cases _ auth (.interrupt info) db).1) _
  | generateCatchup params => exact respondsIf_handleRequestGenerateCatchup hsends hc
  | undoCatchup params =>
    refine respondsIf_withLogin hsends hc fun auth => respondsIf_withParams fun sid => ?_
    refine (respondsIf_orReply hsends (silent_database _ s) fun _ _ _ =>
      respondsIf_reply hsends _).congr (iff_of_true ?_ trivial)
    exact Outcome.returns_iff.mp (alwaysReturns_database (alwaysReturns_removeUserCatchup sid) s)
  | content params =>
    refine respondsIf_withLogin hsends hc fun auth => respondsIf_withParams fun request => ?_
    refine (respondsIf_orReply hsends (silent_database _ s) fun cont s₁ _ => ?_).congr
      (iff_of_true ?_ trivial)
    · refine respondsIf_announce hsends ?_ ?_ _
      · unfold contentRequestCreated
        split_ifs
        · exact silent_send rfl
        · exact within_pure _
      · intro s
        unfold contentRequestCreated
        split_ifs <;> rfl
    · exact Outcome.returns_iff.mp
        (alwaysReturns_database (alwaysReturns_createRequestContent request) s)
  | unknown => exact absurd rfl hknown

end

/-! ### The clients of the daemon -/

section

variable [Fastotv] [License]

/-- The handler of a request of a client of the daemon gets to a reply: the client may ask, the
parameters are good enough, and the process does not end. -/
def DaemonCommand.Replies (sur : DaemonSurroundings) (s : Service) (conn : DaemonConnection) :
    DaemonCommand → Prop
  | .stopService params =>
    (conn.verified = true ∨ License.isLocalHost conn.host = true) ∧ params.Decodes fun _ => True
  | .pingService params => conn.verified = true ∧ params.Decodes fun _ => True
  | .activate params => params.Taken fun key => key = none → s.licenseKey ≠ none
  | .prepareService params => conn.verified = true ∧ params.Decodes fun _ =>
      ∃ clients, getOnlineSubscribers s.toState = .ok clients
  | .syncService params => conn.verified = true ∧ params.Decodes fun _ => True
  | .getLogService params => conn.verified = true ∧ params.Taken fun _ => True
  | .sendMessage params => conn.verified = true ∧
      ∃ notify, params.bind NotifySubscriberInfo.deSerialize = some notify ∧
        ((sendSubscriberNotification sur.toSurroundings notify.uid notify.deviceId notify).run
          s.toState).1 ≠ .abort
  | .unknown => False

variable {s : Service} {sur : DaemonSurroundings} {dclient : ClientId} {conn : DaemonConnection}
  {id : RequestId} (hsends : sur.sends dclient = true)

include hsends

omit [Fastotv] [License] in
theorem respondsIf_daemonReply {s : State} (r : DaemonReply) :
    RespondsIf (Output.daemonReply dclient id) True s
      ((daemonReply sur.toSurroundings dclient id r).run s).2 :=
  Or.inl ⟨trivial, r, responds_write hsends rfl⟩

/-- The same of what the loops share. -/
abbrev SharedRespondsIf (answer : DaemonReply → Output) (p : Prop) (s s' : Service) : Prop :=
  RespondsIf answer p s.toState s'.toState

/-- What is done to the service without anything being sent. -/
abbrev SharedSilent (s s' : Service) : Prop := Silent s.toState s'.toState

omit [Fastotv] [License] in
theorem respondsIf_sharedFailure (r : DaemonReply) (err : Error) :
    SharedRespondsIf (Output.daemonReply dclient id) True s
      ((do attempt (shared (daemonReply sur.toSurroundings dclient id r)); fail err :
        ServiceCall Unit).run s).2 := by
  refine rel_then (R := SharedRespondsIf (Output.daemonReply dclient id) True) (S := SharedSilent)
    (fun _ _ => RespondsIf.trans_silent) (rel_attempt ?_) fun _ s₁ => refl_of Silent s₁.toState
  exact respondsIf_daemonReply hsends r

omit [Fastotv] [License] hsends in
/-- A handler that is for clients which were verified. -/
theorem respondsIf_ofVerified {s : State} {answer : DaemonReply → Output} {p : Prop} {x : Call Unit}
    {verified : Bool} (hx : RespondsIf answer p s (x.run s).2) :
    RespondsIf answer (verified = true ∧ p) s
      ((if !verified then fail .inval else x : Call Unit).run s).2 := by
  cases verified with
  | false => exact respondsIf_fail _ fun h => Bool.false_ne_true h.1
  | true => exact hx.congr (by simp)

omit [Fastotv] in
theorem respondsIf_handleRequestClientStopService {params : Params Unit} :
    SharedRespondsIf (Output.daemonReply dclient id)
      ((conn.verified = true ∨ License.isLocalHost conn.host = true) ∧
        params.Decodes fun _ => True) s
      ((handleRequestClientStopService sur dclient conn id params).run s).2 := by
  unfold handleRequestClientStopService
  by_cases hmay : conn.verified = true ∨ License.isLocalHost conn.host = true
  · rw [if_neg (by simpa using fun h => hmay.resolve_left (Bool.not_eq_true _ ▸ h))]
    cases params with
    | absent => exact .of_silent (refl_of Silent s.toState) fun h => h.2
    | refused err => exact .of_silent (refl_of Silent s.toState) fun h => h.2
    | decoded a =>
      have hwrite :
          (result (shared (daemonReply sur.toSurroundings dclient id .stopSuccess))).run s =
          (.ok (.ok ()), { s with
            sent := s.sent ++ [.daemonReply dclient id .stopSuccess] }) := by
        rw [run_result]
        unfold shared daemonReply write
        rw [run_zoom, if_pos hsends]
        rfl
      dsimp only
      rw [run_bind_of_ok hwrite]
      exact Or.inl ⟨⟨hmay, trivial⟩, .stopSuccess, _, rfl, rfl⟩
  · rw [if_pos (by simpa using hmay)]
    exact .of_silent (refl_of Silent s.toState) fun h => hmay h.1

omit [Fastotv] in
theorem respondsIf_handleRequestServiceActivate {params : Params (Option String)} :
    SharedRespondsIf (Output.daemonReply dclient id)
      (params.Taken fun key => key = none → s.licenseKey ≠ none) s
      ((Service.handleRequestClientActivate sur dclient id params).run s).2 := by
  have hfail : ∀ err, SharedRespondsIf (Output.daemonReply dclient id) True s
      ((do attempt (shared (daemonReply sur.toSurroundings dclient id (.activateFail err)));
            fail err : ServiceCall Unit).run s).2 :=
    fun err => respondsIf_sharedFailure hsends (.activateFail err) err
  unfold Service.handleRequestClientActivate
  cases params with
  | absent => exact .of_silent (refl_of Silent s.toState) fun h => h
  | refused err => exact hfail err
  | decoded expireKey =>
    have hread : (reads fun s => .ok s.licenseKey : ServiceCall (Option String)).run s =
        (.ok s.licenseKey, s) := rfl
    dsimp only
    rw [run_bind_of_ok hread]
    split_ifs with hkey
    · refine (hfail _).congr (iff_of_true trivial ?_)
      rintro rfl hnone
      exact hkey hnone.symm
    rw [not_not] at hkey
    cases expireKey with
    | none => exact .of_silent (refl_of Silent s.toState) fun h => h rfl hkey.symm
    | some key =>
      have htaken : Params.Taken (fun key => key = none → s.licenseKey ≠ none)
          (.decoded (some key)) := nofun
      cases htm : License.expireTimeFromKey key with
      | none =>
        dsimp only
        rw [htm]
        exact (hfail _).congr (iff_of_true trivial htaken)
      | some tm =>
        dsimp only
        rw [htm]
        refine RespondsIf.congr ?_ (iff_of_true trivial htaken)
        refine rel_then (R := SharedRespondsIf (Output.daemonReply dclient id) True)
          (S := SharedSilent) (fun _ _ => RespondsIf.trans_silent) ?_ fun _ s₁ => ?_
        · exact respondsIf_daemonReply hsends _
        · unfold assignDaemon
          rw [run_modify]
          split <;> exact refl_of Silent _

omit [Fastotv] in
theorem respondsIf_handleRequestClientGetLogService {params : Params Gurl} :
    SharedRespondsIf (Output.daemonReply dclient id)
      (conn.verified = true ∧ params.Taken fun _ => True) s
      ((handleRequestClientGetLogService sur dclient conn id params).run s).2 := by
  have hfail : ∀ (s : Service) err, SharedRespondsIf (Output.daemonReply dclient id) True s
      ((do attempt (shared (daemonReply sur.toSurroundings dclient id (.getLogServiceFail err)));
            fail err : ServiceCall Unit).run s).2 :=
    fun _ err => respondsIf_sharedFailure hsends (.getLogServiceFail err) err
  unfold handleRequestClientGetLogService
  cases hverified : conn.verified with
  | false => exact .of_silent (refl_of Silent s.toState) fun h => Bool.false_ne_true h.1
  | true =>
    dsimp only
    rw [Bool.not_true, if_neg Bool.false_ne_true]
    cases params with
    | absent => exact .of_silent (refl_of Silent s.toState) fun h => h.2
    | refused err => exact (hfail s err).congr (iff_of_true trivial ⟨rfl, trivial⟩)
    | decoded remoteLogPath =>
      refine RespondsIf.congr ?_ (iff_of_true trivial ⟨rfl, trivial⟩)
      dsimp only
      split_ifs
      · exact hfail s _
      -- What is uploaded is no response.
      have hemit : (emit (.upload remoteLogPath) : ServiceCall Unit).run s =
          (.ok (), { s with written := s.written ++ [.upload remoteLogPath] }) := rfl
      rw [run_bind_of_ok hemit]
      split
      · exact hfail { s with written := s.written ++ [.upload remoteLogPath] } _
      · exact respondsIf_daemonReply (s := s.toState) hsends _

omit [License] in
theorem respondsIf_handleRequestClientSendMessageForSubscriber {s : State}
    {params : Option JsonObject} :
    RespondsIf (Output.daemonReply dclient id) (conn.verified = true ∧
      ∃ notify, params.bind NotifySubscriberInfo.deSerialize = some notify ∧
        ((sendSubscriberNotification sur.toSurroundings notify.uid notify.deviceId notify).run
          s).1 ≠ .abort) s
      ((handleRequestClientSendMessageForSubscriber sur.toSurroundings ⟨dclient, conn.verified⟩ id
        params).run s).2 := by
  unfold handleRequestClientSendMessageForSubscriber
  refine respondsIf_ofVerified ?_
  cases params with
  | none => exact respondsIf_fail _ nofun
  | some jnotify =>
    dsimp only [Option.bind_some]
    cases hnotify : NotifySubscriberInfo.deSerialize jnotify with
    | none => exact respondsIf_fail _ nofun
    | some notify =>
      dsimp only
      have hsilent : Silent s ((sendSubscriberNotification sur.toSurroundings notify.uid
          notify.deviceId notify).run s).2 := 
            within_sendSubscriberNotification (fun _ => silent_send rfl) s
      refine (respondsIf_bind (rel_result hsilent) fun r s₁ _ => ?_).congr
        (exists_run_result_iff.trans ?_)
      · cases r with
        | error err =>
          refine rel_then (S := Silent) (fun _ _ => RespondsIf.trans_silent) (rel_attempt ?_)
            fun _ => within_fail _
          exact respondsIf_daemonReply hsends _
        | ok _ => exact respondsIf_daemonReply hsends _
      · simp only [Option.some.injEq, exists_eq_left']

/-- A request of a client of the daemon is answered when its handler gets to a reply, whatever its
id is. -/
theorem respondsIf_handleRequestServiceCommand {req : DaemonRequest}
    (hknown : req.command ≠ .unknown) :
    SharedRespondsIf (Output.daemonReply dclient req.id) (req.command.Replies sur s conn) s
      ((handleRequestServiceCommand sur dclient conn req).run s).2 := by
  obtain ⟨id, command⟩ := req
  unfold handleRequestServiceCommand
  cases command with
  | stopService params => exact respondsIf_handleRequestClientStopService hsends
  | pingService params =>
    exact respondsIf_ofVerified (respondsIf_withParams fun _ => respondsIf_daemonReply hsends _)
  | activate params => exact respondsIf_handleRequestServiceActivate hsends
  | prepareService params =>
    refine respondsIf_ofVerified (respondsIf_withParams fun stateInfo => ?_)
    have hsetup : Silent s.toState
        { s.toState with catchupEndpoint := ⟨stateInfo.catchupsHost, stateInfo.catchupsHttpRoot⟩ } :=
      ⟨⟨[], (List.append_nil _).symm, rfl⟩, fun _ => Iff.rfl⟩
    refine respondsIf_after rfl hsetup ?_
    exact (respondsIf_reads (g := getOnlineSubscribers) fun clients _ =>
      respondsIf_daemonReply hsends _).congr Iff.rfl
  | syncService params =>
    exact respondsIf_ofVerified (respondsIf_withParams fun _ => respondsIf_daemonReply hsends _)
  | getLogService params => exact respondsIf_handleRequestClientGetLogService hsends
  | sendMessage params => exact respondsIf_handleRequestClientSendMessageForSubscriber hsends
  | unknown => exact absurd rfl hknown

end

/-- No client of the daemon is lost. -/
def KeepsClients (s s' : Service) : Prop :=
  ∀ d, s'.dclients.lookup d = none → s.dclients.lookup d = none

instance : IsPreorder Service KeepsClients where
  refl _ _ h := h
  trans _ _ _ h h' d hd := h d (h' d hd)

section

variable {s : Service} {sur : DaemonSurroundings} {dclient : ClientId} {conn : DaemonConnection}
  {id : RequestId}

theorem keepsClients_shared {α : Type} (x : Call α) : Within KeepsClients (shared x) :=
  fun _ _ h => h

theorem keepsClients_assignDaemon {f : DaemonConnection → DaemonConnection} :
    Within KeepsClients (assignDaemon dclient f) := by
  intro s d hd
  unfold assignDaemon at hd
  rw [run_modify] at hd
  cases hlookup : s.dclients.lookup dclient with
  | none =>
    rw [hlookup] at hd
    exact hd
  | some conn =>
    rw [hlookup] at hd
    rw [AList.lookup_eq_none] at hd ⊢
    rwa [AList.mem_replace] at hd

variable [Fastotv] [License]

/-- A client whose request is handled stays connected. -/
theorem keepsClients_handleRequestServiceCommand {req : DaemonRequest} :
    Within KeepsClients (handleRequestServiceCommand sur dclient conn req) := by
  have hfail : ∀ x : Call Unit, ∀ err : Error, Within KeepsClients
      (do attempt (shared x); fail err : ServiceCall Unit) := fun x err =>
    within_bind (within_attempt (keepsClients_shared x)) fun _ => within_fail _
  unfold handleRequestServiceCommand
  split
  · unfold handleRequestClientStopService
    split_ifs
    · exact within_fail _
    split
    · exact within_fail _
    · exact within_fail _
    refine within_bind (within_result (keepsClients_shared _)) fun err => ?_
    refine within_bind (fun _ _ h => h) fun _ => ?_
    split
    · exact within_fail _
    · exact within_pure _
  · exact keepsClients_shared _
  · unfold Service.handleRequestClientActivate
    split
    · exact within_fail _
    · exact hfail _ _
    refine within_bind (within_reads _) fun licenseKey => ?_
    split_ifs
    · exact hfail _ _
    split
    · exact within_lift _
    split
    · exact hfail _ _
    · exact within_bind (keepsClients_shared _) fun _ => keepsClients_assignDaemon
  · exact keepsClients_shared _
  · exact keepsClients_shared _
  · unfold handleRequestClientGetLogService
    dsimp only
    split_ifs
    · exact within_fail _
    split
    · exact within_fail _
    · exact hfail _ _
    split_ifs
    · exact hfail _ _
    refine within_bind (fun _ _ h => h) fun _ => ?_
    split
    · exact hfail _ _
    · exact keepsClients_shared _
  · exact keepsClients_shared _
  · exact within_pure _

end

/-! ### The law -/

section

variable [Fastotv] [License]

/-- With working sockets, the handling of a request of either protocol is as asked exactly when
there is an id and the handler gets to a reply, or neither. -/
theorem answered_once_iff (sur : DaemonSurroundings) (hsends : ∀ client, sur.sends client = true) :
    (∀ (s : State) (client : ClientId) (c : Client) (req : SubscriberRequest),
      s.clients client = some c → req.command ≠ .unknown →
      ∀ s', ((handleRequestCommand sur.toSurroundings client req).run s).2 = s' →
        (AnsweredOnce (Output.reply client) (s'.clients client = none) req.id s s' ↔
          (req.id.isSome = true ↔ req.command.Replies sur.toSurroundings s c))) ∧
    ∀ (s : Service) (dclient : ClientId) (conn : DaemonConnection) (req : DaemonRequest),
      s.dclients.lookup dclient = some conn → req.command ≠ .unknown →
      ∀ s', ((handleRequestServiceCommand sur dclient conn req).run s).2 = s' →
        (AnsweredOnce (Output.daemonReply dclient) (s'.dclients.lookup dclient = none) req.id
            s.toState s'.toState ↔
          (req.id.isSome = true ↔ req.command.Replies sur s conn)) := by
  constructor
  · rintro s client c req hc hknown _ rfl
    refine (respondsIf_handleRequestCommand (hsends client) hc hknown).answeredOnce_iff
      fun hsilent hclosed => ?_
    rw [hsilent.isOpen client, hc] at hclosed
    cases hclosed
  · rintro s dclient conn req hlookup hknown _ rfl
    refine (respondsIf_handleRequestServiceCommand (hsends dclient) hknown).answeredOnce_iff
      fun _ hclosed => ?_
    have hnone := keepsClients_handleRequestServiceCommand s dclient hclosed
    rw [hlookup] at hnone
    cases hnone

end

/-! A connection that is logged in, and a client of the daemon that was verified. -/

namespace Sample

def loggedInClient : Client := ⟨.subscriber, some login, ""⟩

def verifiedClient : DaemonConnection := ⟨⟨"example", 1⟩, true, 2000, ∅⟩

def verifiedService : Service := { service with dclients := AList.singleton 9 verifiedClient }

/-- A ping without parameters. -/
def emptyPing : SubscriberRequest := ⟨some "4", .ping .absent⟩

/-- A notification: it has no id. -/
def serverInfoNotification : SubscriberRequest := ⟨none, .getServerInfo⟩

def syncNotification : DaemonRequest := ⟨none, .syncService (.decoded ())⟩

end Sample

open Sample in
/-- The ping is not answered and the connection stays open, and the two notifications get
responses. -/
theorem ping_unanswered :
    (∀ client, daemonSur.sends client = true) ∧ loggedInState.clients 7 = some loggedInClient ∧
    verifiedService.dclients.lookup 9 = some verifiedClient ∧
    (∀ s', ((handleRequestCommand sur 7 emptyPing).run loggedInState).2 = s' →
      ¬AnsweredOnce (Output.reply 7) (s'.clients 7 = none) emptyPing.id loggedInState s') ∧
    (∀ s', ((handleRequestCommand sur 7 serverInfoNotification).run loggedInState).2 = s' →
      ¬AnsweredOnce (Output.reply 7) (s'.clients 7 = none) serverInfoNotification.id loggedInState
        s') ∧
    ∀ s', ((handleRequestServiceCommand daemonSur 9 verifiedClient syncNotification).run
        verifiedService).2 = s' →
      ¬AnsweredOnce (Output.daemonReply 9) (s'.dclients.lookup 9 = none) syncNotification.id
        verifiedService.toState s'.toState := by
  refine ⟨fun _ => rfl, rfl, rfl, ?_, ?_, ?_⟩
  · rintro _ rfl ⟨rs, hrs, ⟨r, rfl⟩ | hclosed⟩
    · have hnone : Responds [] loggedInState
          ((handleRequestCommand sur 7 emptyPing).run loggedInState).2 := ⟨[], rfl, rfl⟩
      cases hrs.unique hnone
    · cases hclosed
  · rintro _ rfl ⟨rs, hrs, rfl⟩
    have hone : Responds [.reply 7 none (.getServerInfoSuccess ⟨"http://epg", true⟩ "locked")]
        loggedInState ((handleRequestCommand sur 7 serverInfoNotification).run loggedInState).2 :=
      ⟨[.reply 7 none (.getServerInfoSuccess ⟨"http://epg", true⟩ "locked")], rfl, rfl⟩
    cases hrs.unique hone
  · rintro _ rfl ⟨rs, hrs, rfl⟩
    have hone : Responds [.daemonReply 9 none .syncServiceSuccess] verifiedService.toState
        ((handleRequestServiceCommand daemonSur 9 verifiedClient syncNotification).run
          verifiedService).2.toState := ⟨[.daemonReply 9 none .syncServiceSuccess], rfl, rfl⟩
    cases hrs.unique hone

open Sample in
theorem answered_once_iff_sample :
    (∀ s', ((handleRequestCommand sur 7 ⟨some "4", .ping (.decoded ())⟩).run loggedInState).2 = s' →
      AnsweredOnce (Output.reply 7) (s'.clients 7 = none) (some "4") loggedInState s') ∧
    ∀ s', ((handleRequestServiceCommand daemonSur 9 verifiedClient
        ⟨some "5", .syncService (.decoded ())⟩).run verifiedService).2 = s' →
      AnsweredOnce (Output.daemonReply 9) (s'.dclients.lookup 9 = none) (some "5")
        verifiedService.toState s'.toState := by
  obtain ⟨hsubscriber, hdaemon⟩ := answered_once_iff daemonSur fun _ => rfl
  refine ⟨fun s' hrun => ?_, fun s' hrun => ?_⟩
  · exact (hsubscriber loggedInState 7 loggedInClient ⟨some "4", .ping (.decoded ())⟩ rfl nofun s'
      hrun).mpr (iff_of_true rfl fun _ _ => trivial)
  · exact (hdaemon verifiedService 9 verifiedClient ⟨some "5", .syncService (.decoded ())⟩ rfl nofun
      s' hrun).mpr (iff_of_true rfl ⟨rfl, trivial⟩)

end LoadBalance
