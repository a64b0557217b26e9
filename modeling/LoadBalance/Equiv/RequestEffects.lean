import LoadBalance.Equiv.Login
import LoadBalance.Equiv.Registrations

/-!
# What the request of a connection does

A request touches the object of its own connection only, which it may move to another stream, and it
tells nobody else of channels and the server (`actsOn_handleRequestCommand`,
`actsOn_processReceived`).  What a command of a user does to the database is what the manager does
for this user (`db_handleRequestCommand`).
-/

namespace LoadBalance

open LoadBalance.Action

/-- The stream that is current on a connection. -/
def State.positionOf (s : State) (client : ClientId) : Option StreamId :=
  (s.clients client).map Client.currentStreamId

/-- The command is for connections that are logged in. -/
def Command.IsGated : Command → Prop
  | .activateDevice _ => False
  | .login _ => False
  | .unknown => False
  | _ => True

section

variable [Fastotv]

/-- What the manager does to the database for a command of a user. -/
def Command.calls (env : Env) (endpoint : CatchupEndpointInfo) (auth : ServerDBAuthInfo) :
    Command → Action Database Error Unit
  | .setFavorite (.decoded fav) => LoadBalance.setFavorite env auth fav
  | .setRecent (.decoded recent) => LoadBalance.setRecent env auth recent
  | .interruptStreamTime (.decoded inter) => setInterruptTime env auth inter
  | .generateCatchup (.decoded info) => do
    let created ← createCatchup env endpoint auth info.streamId info.title info.start info.stop
    addUserCatchup env auth created.cat.streamId
  | .undoCatchup (.decoded sid) => removeUserCatchup env auth sid
  | .content (.decoded request) => do
    let _ ← createRequestContent env auth request
    pure ()
  | _ => pure ()

/-- What is told is the catalogue of this user, or the info of the server. -/
def InfoFor (env : Env) (s : State) (auth : ServerDBAuthInfo) : Output → Prop
  | .reply _ _ (.getChannelsSuccess catalogue) =>
    clientGetChannels env s.db auth.toAuthInfo = .ok catalogue
  | .reply _ _ (.getServerInfoSuccess epgUrl lockedText) =>
    epgUrl = s.epgUrl ∧ lockedText = s.lockedText
  | _ => True

/-! ### Calls for one connection -/

omit [Fastotv] in
/-- Only the object of this connection is touched, its position changes only to a stream in `M`, and
what is sent has the property `P`. -/
structure ActsOn (client : ClientId) (P : Output → Prop) (M : StreamId → Prop)
    (s s' : State) : Prop where
  others : ∀ c, c ≠ client → s'.clients c = s.clients c
  position : ∀ sid, s'.positionOf client = some sid → s.positionOf client = some sid ∨ M sid
  sent : Appends P s s'

variable {client : ClientId} {P : Output → Prop} {M : StreamId → Prop}

instance : IsPreorder State (ActsOn client P M) where
  refl s := ⟨fun _ _ => rfl, fun _ h => Or.inl h, refl_of _ s⟩
  trans _ _ _ h h' :=
    ⟨fun c hc => (h'.others c hc).trans (h.others c hc),
      fun sid hsid => (h'.position sid hsid).elim (h.position sid) Or.inr,
      trans_of _ h.sent h'.sent⟩

variable {sur : Surroundings} {id : RequestId} {s : State} {c : Client}

omit [Fastotv] in
theorem actsOn_database {α : Type} (x : Action Database Error α) :
    Within (ActsOn client P M) (database x) :=
  fun s => ⟨fun _ _ => rfl, fun _ h => Or.inl h, [], by simp [database, run_zoom], by simp⟩

omit [Fastotv] in
theorem actsOn_send {o : Output} (ho : P o) : Within (ActsOn client P M) (send o) :=
  fun _ => ⟨fun _ _ => rfl, fun _ h => Or.inl h, [o], rfl, by simpa using ho⟩

omit [Fastotv] in
theorem actsOn_write {client' : ClientId} {o : Output} (ho : P o) :
    Within (ActsOn client P M) (write sur client' o) := within_write (actsOn_send ho)

omit [Fastotv] in
theorem actsOn_assign {f : Client → Client}
    (hf : ∀ c, (f c).currentStreamId = c.currentStreamId ∨ M (f c).currentStreamId) :
    Within (ActsOn client P M) (assign client f) := by
  intro s
  cases hc : s.clients client with
  | none =>
    unfold assign
    rw [run_bind, run_deref_none hc]
    exact refl_of (ActsOn client P M) s
  | some c =>
    rw [run_assign hc]
    refine ⟨fun c' hne => Function.update_of_ne hne _ _, fun sid hsid => ?_, refl_of (Appends P) s⟩
    unfold State.positionOf at hsid ⊢
    dsimp only at hsid
    rw [Function.update_self, Option.map_some, Option.some.injEq] at hsid
    rw [hc, Option.map_some, Option.some.injEq]
    subst hsid
    exact (hf c).imp_left Eq.symm

/-! What is told of channels and the server is a matter of `P`; anything else may be sent. -/

variable (hP : ∀ o : Output, o.infoTo = none → P o)

include hP

omit [Fastotv] in
theorem infoTo_of_notice {o : Output} (ho : Notice o) : P o := by
  refine hP o ?_
  cases o with
  | broadcast b => rfl
  | _ => exact ho.elim

omit [Fastotv] in
theorem actsOn_closeAndDelete : Within (ActsOn client P M) (closeAndDelete client) := by
  intro s
  cases hc : s.clients client with
  | none =>
    rw [run_closeAndDelete_none hc]
    exact refl_of (ActsOn client P M) s
  | some c =>
    rw [run_closeAndDelete hc]
    refine ⟨fun c' hne => Function.update_of_ne hne _ _, fun sid hsid => ?_, ?_⟩
    · -- The object is gone.
      have hnone : (s.leave client c).positionOf client = none := by
        unfold State.positionOf State.leave State.remove
        dsimp only
        rw [Function.update_self]
        rfl
      rw [hnone] at hsid
      cases hsid
    · have hnotice : Appends Notice (s.remove client c) (s.leave client c) := quiet_leave.sent
      exact hnotice.mono fun o => infoTo_of_notice hP

theorem actsOn_registerInnerConnectionByHost (info : ServerDBAuthInfo) :
    Within (ActsOn client P M) (registerInnerConnectionByHost client info) :=
  within_registerInnerConnectionByHost (actsOn_assign fun _ => Or.inl rfl)
    (fun s => ⟨fun _ _ => rfl, fun _ h => Or.inl h, refl_of (Appends P) s⟩)
    fun _ => actsOn_send (hP _ rfl)

omit hP in
theorem actsOn_login (env : Env) (c : Credentials) :
    Within (ActsOn client P M) (login env c) := by
  intro s
  rcases login_cases env c s with ⟨info, oid, status, hrun⟩ | ⟨o, hrun, -⟩
  · rw [hrun]
    unfold State.activated
    split_ifs
    · exact ⟨fun _ _ => rfl, fun _ h => Or.inl h, refl_of (Appends P) s⟩
    · exact refl_of (ActsOn client P M) s
  · rw [hrun]
    exact refl_of (ActsOn client P M) s

/-! ### The handlers -/

omit [Fastotv] in
/-- A connection that is not logged in is told so, and deleted. -/
theorem actsOn_withLogin {f : ServerDBAuthInfo → Call Unit} (hc : s.clients client = some c)
    (hf : ∀ auth, c.login = some auth → ActsOn client P M s ((f auth).run s).2) :
    ActsOn client P M s ((withLogin sur client id f).run s).2 := by
  cases hlogin : c.login with
  | some auth =>
    rw [run_withLogin_of_some hc hlogin]
    exact hf auth hlogin
  | none =>
    rw [run_withLogin_of_none hc hlogin]
    refine ⟨fun c' hne => Function.update_of_ne hne _ _, fun sid hsid => ?_, _, rfl, fun o ho => ?_⟩
    · have hnone : (s.refuse sur client id).positionOf client = none := by
        unfold State.positionOf State.refuse
        dsimp only
        rw [Function.update_self]
        rfl
      rw [hnone] at hsid
      cases hsid
    · unfold told at ho
      split_ifs at ho
      · rw [List.mem_singleton.mp ho]
        exact hP _ rfl
      · cases ho

omit [Fastotv] in
theorem actsOn_orReply {α : Type} {failure : Error → Reply} {x : Call α} {f : α → Call Unit}
    (hfailure : ∀ err, (Output.reply client id (failure err)).infoTo = none)
    (hx : ActsOn client P M s (x.run s).2)
    (hf : ∀ a s', x.run s = (.ok a, s') → ActsOn client P M s' ((f a).run s').2) :
    ActsOn client P M s ((orReply sur client id failure x f).run s).2 := by
  unfold orReply
  refine rel_bind (rel_result hx) fun r s' hr => ?_
  rw [run_result] at hr
  rcases hrun : x.run s with ⟨a | err | _, s₁⟩ <;> rw [hrun] at hr
  · cases hr
    exact hf a _ hrun
  · cases hr
    exact within_bind (within_attempt (actsOn_write (hP _ (hfailure err))))
      (fun _ => within_fail _) _
  · cases hr

/-! ### Requests over HTTP -/

variable {hsur : HttpSurroundings}

omit [Fastotv] in
theorem actsOn_sendError {keepAlive : Bool} {status : HttpStatus} {err : Error} :
    Within (ActsOn client P M) (sendError hsur client keepAlive status err) :=
  within_attempt (actsOn_write (hP _ rfl))

/-- Serving a source moves the connection. -/
theorem actsOn_sendSource {request : HttpRequest} {source : HttpSource} {name : String}
    {sid : StreamId} : Within (ActsOn client P fun _ => True)
      (sendSource hsur client request source name sid) := by
  have hmove : Within (ActsOn client P fun _ => True)
      (assign client fun c => { c with currentStreamId := sid }) :=
    actsOn_assign fun _ => Or.inr trivial
  have hredirect : ∀ url, Within (ActsOn client P fun _ => True)
      (sendRedirect hsur client request.keepAlive url sid) := by
    intro url
    unfold sendRedirect
    refine within_bind (within_result (actsOn_write (hP _ rfl))) fun r => ?_
    split
    · exact within_pure _
    · exact hmove
  unfold sendSource
  split
  · exact hredirect _
  split_ifs
  swap
  · exact hredirect _
  unfold sendFile
  split
  · exact actsOn_sendError hP
  split
  · exact actsOn_sendError hP
  · exact actsOn_sendError hP
  · exact actsOn_sendError hP
  refine within_bind (actsOn_send (hP _ rfl)) fun _ => ?_
  unfold sendOpenFile
  refine within_bind (within_result (actsOn_write (hP _ rfl))) fun r => ?_
  split
  · exact actsOn_send (hP _ rfl)
  refine within_bind ?_ fun _ => actsOn_send (hP _ rfl)
  unfold sendFileByFd
  split_ifs
  · exact within_bind (actsOn_send (hP _ rfl)) fun _ => hmove
  · exact within_pure _

theorem actsOn_serveRequest {request : HttpRequest} :
    Within (ActsOn client P fun _ => True) (serveRequest hsur client request) := by
  unfold serveRequest
  split_ifs
  · exact within_pure _
  split
  · exact actsOn_sendError hP
  unfold servePath
  split
  swap
  · exact actsOn_sendError hP
  refine within_bind (within_result ?_) fun r => ?_
  · unfold loginOfRequest checkIsLoginClient
    refine within_bind (within_result (within_bind (within_reads _) fun _ => within_orFail _ _))
      fun r => ?_
    split
    · exact within_pure _
    · refine within_bind (actsOn_login hsur.toEnv (.byUid _ _ _)) fun auth => ?_
      exact within_bind (actsOn_registerInnerConnectionByHost hP auth) fun _ => within_pure _
  split
  · exact actsOn_sendError hP
  unfold serveStream
  split
  · exact actsOn_sendError hP
  refine within_bind (within_result (within_reads _)) fun r => ?_
  split
  · exact actsOn_sendError hP
  · exact actsOn_sendSource hP

theorem actsOn_processReceived {input : HttpInput} :
    Within (ActsOn client P fun _ => True) (processReceived hsur client input) := by
  unfold processReceived
  split
  · exact actsOn_closeAndDelete hP
  · exact within_bind (actsOn_sendError hP) fun _ => actsOn_closeAndDelete hP
  · refine within_bind (actsOn_serveRequest hP) fun _ => ?_
    split_ifs
    · exact within_pure _
    · exact actsOn_closeAndDelete hP

end

/-! ### Requests of the subscribers -/

section

variable [Fastotv] {client : ClientId} {sur : Surroundings} {id : RequestId} {s : State} {c : Client}

/-- The activation of a device only looks at the database. -/
theorem readsOnly_clientActivate (uauth : LoginInfo) : ReadsOnly (clientActivate uauth) :=
  within_clientActivate uauth

/-- What a request may tell of channels and the server: its own connection is told, for the user
that it is logged in as. -/
def Tells (env : Env) (s : State) (client : ClientId) (login : Option ServerDBAuthInfo)
    (o : Output) : Prop :=
  ∀ c, o.infoTo = some c → c = client ∧ ∃ auth, login = some auth ∧ InfoFor env s auth o

omit [Fastotv] in
/-- The command moves a connection that is logged in to the stream. -/
def Command.Moves (command : Command) (login : Option ServerDBAuthInfo) (sid : StreamId) : Prop :=
  login ≠ none ∧ command = .getRuntimeChannelInfo (.decoded sid)

/-- A request of a connection of a subscriber. -/
theorem actsOn_handleRequestCommand {req : SubscriberRequest} (hc : s.clients client = some c) :
    ActsOn client (Tells sur.toEnv s client c.login) (req.command.Moves c.login) s
      ((handleRequestCommand sur client req).run s).2 := by
  obtain ⟨id, command⟩ := req
  have hP : ∀ o : Output, o.infoTo = none → Tells sur.toEnv s client c.login o := by
    intro o ho c' hc'
    rw [ho] at hc'
    cases hc'
  have htold : ∀ r : Reply, (Output.reply client id r).infoTo = none →
      Within (ActsOn client (Tells sur.toEnv s client c.login) (command.Moves c.login))
        (reply sur client id r) := fun r hr => actsOn_write (hP _ hr)
  unfold handleRequestCommand
  cases command with
  | activateDevice params =>
    cases params with
    | absent => exact refl_of (ActsOn client _ _) s
    | refused err => exact within_bind (within_attempt (htold _ rfl)) (fun _ => within_fail _) s
    | decoded uauth =>
      refine actsOn_orReply hP (fun _ => rfl) ?_ fun devices s' _ => within_attempt (htold _ rfl) s'
      rw [← readsOnly_clientActivate uauth s]
      exact refl_of (ActsOn client _ _) s
  | login params =>
    cases params with
    | absent => exact refl_of (ActsOn client _ _) s
    | refused err => exact within_bind (within_attempt (htold _ rfl)) (fun _ => within_fail _) s
    | decoded uauth =>
      refine actsOn_orReply hP (fun _ => rfl) (actsOn_login sur.toEnv (.byEmail uauth) s)
        fun info s' _ => ?_
      exact within_bind (htold _ rfl) (fun _ => actsOn_registerInnerConnectionByHost hP info) s'
  | ping params =>
    exact actsOn_withLogin hP hc fun _ _ => within_withParams (fun _ => htold _ rfl) s
  | getServerInfo =>
    refine actsOn_withLogin hP hc fun auth hlogin => rel_bind (refl_of (ActsOn client _ _) s) ?_
    intro info s' hread
    obtain ⟨hinfo, rfl⟩ := Prod.mk.inj hread
    obtain rfl := Outcome.ok.inj hinfo
    refine actsOn_write (fun c' hc' => ?_) s
    exact ⟨(Option.some.inj hc').symm, auth, hlogin, rfl, rfl⟩
  | getChannels =>
    refine actsOn_withLogin hP hc fun auth hlogin => ?_
    refine actsOn_orReply hP (fun _ => rfl) (refl_of (ActsOn client _ _) s)
      fun catalogue s' hread => ?_
    obtain ⟨hcatalogue, rfl⟩ := Prod.mk.inj hread
    refine actsOn_write (fun c' hc' => ?_) s
    exact ⟨(Option.some.inj hc').symm, auth, hlogin, hcatalogue⟩
  | getRuntimeChannelInfo params =>
    refine actsOn_withLogin hP hc fun auth hlogin => ?_
    cases params with
    | absent => exact refl_of (ActsOn client _ _) s
    | refused err => exact refl_of (ActsOn client _ _) s
    | decoded sid =>
      refine within_bind (within_reads _) (fun watchers => ?_) s
      refine within_bind (actsOn_assign fun _ => Or.inr ⟨?_, rfl⟩) fun _ => htold _ rfl
      rw [hlogin]
      exact nofun
  | setFavorite params =>
    dsimp only
    rw [handleRequestClientSetFavorite_eq]
    exact actsOn_withLogin hP hc fun _ _ => within_withParams (fun _ =>
      within_bind (within_attempt (actsOn_database _)) fun _ => htold _ rfl) s
  | setRecent params =>
    dsimp only
    rw [handleRequestClientSetRecent_eq]
    exact actsOn_withLogin hP hc fun _ _ => within_withParams (fun _ =>
      within_bind (within_attempt (actsOn_database _)) fun _ => htold _ rfl) s
  | interruptStreamTime params =>
    dsimp only
    rw [handleRequestInterruptStreamTime_eq]
    exact actsOn_withLogin hP hc fun _ _ => within_withParams (fun _ =>
      within_bind (within_attempt (actsOn_database _)) fun _ => htold _ rfl) s
  | generateCatchup params =>
    refine actsOn_withLogin hP hc fun auth _ => within_withParams (fun catGen s => ?_) s
    refine actsOn_orReply hP (fun _ => rfl) ?_ fun created s' _ => ?_
    · exact within_bind (within_reads _) (fun _ => actsOn_database _) s
    refine actsOn_orReply hP (fun _ => rfl) (actsOn_database _ s') fun _ s'' _ => ?_
    refine within_bind ?_ (fun _ => htold _ rfl) s''
    unfold catchupCreated
    split_ifs
    · exact actsOn_send (hP _ rfl)
    · exact within_pure _
    · exact within_pure _
  | undoCatchup params =>
    refine actsOn_withLogin hP hc fun auth _ => within_withParams (fun sid s => ?_) s
    exact actsOn_orReply hP (fun _ => rfl) (actsOn_database _ s) fun _ s' _ => htold _ rfl s'
  | content params =>
    refine actsOn_withLogin hP hc fun auth _ => within_withParams (fun request s => ?_) s
    refine actsOn_orReply hP (fun _ => rfl) (actsOn_database _ s) fun cont s' _ => ?_
    refine within_bind ?_ (fun _ => htold _ rfl) s'
    unfold contentRequestCreated
    split_ifs
    · exact actsOn_send (hP _ rfl)
    · exact within_pure _
  | unknown => exact refl_of (ActsOn client _ _) s

/-- A command for those that are logged in, of a connection that is not. -/
theorem run_handleRequestCommand_of_none {req : SubscriberRequest} (hgated : req.command.IsGated)
    (hc : s.clients client = some c) (hlogin : c.login = none) :
    (handleRequestCommand sur client req).run s =
      (.error (.message "User not logged"), s.refuse sur client req.id) := by
  obtain ⟨id, command⟩ := req
  unfold handleRequestCommand
  cases command with
  | activateDevice params => exact hgated.elim
  | login params => exact hgated.elim
  | unknown => exact hgated.elim
  | _ => exact run_withLogin_of_none hc hlogin

/-! ### The database -/

omit [Fastotv] in
/-- The database is left as it is. -/
def KeepsDatabase (s s' : State) : Prop := s'.db = s.db

instance : IsPreorder State KeepsDatabase where
  refl _ := rfl
  trans _ _ _ h h' := Eq.trans h' h

omit [Fastotv] in
theorem keepsDatabase_write {o : Output} : Within KeepsDatabase (write sur client o) := by
  unfold write
  split_ifs
  · exact fun _ => rfl
  · exact within_fail _

omit [Fastotv] in
theorem keepsDatabase_assign {f : Client → Client} : Within KeepsDatabase (assign client f) :=
  within_bind (within_reads _) fun _ _ => rfl

theorem keepsDatabase_registerInnerConnectionByHost {info : ServerDBAuthInfo} :
    Within KeepsDatabase (registerInnerConnectionByHost client info) := by
  unfold registerInnerConnectionByHost
  split_ifs
  · exact within_lift _
  refine within_bind keepsDatabase_assign fun _ => within_bind (fun _ => rfl) fun _ =>
    within_bind (within_reads _) fun c => ?_
  split
  · unfold onSubscriberConnected
    split_ifs
    · exact fun _ => rfl
    · exact within_pure _
  · exact within_pure _

omit [Fastotv] in
/-- What is done with the result of a call does not matter when it keeps the database. -/
theorem db_orReply {α : Type} {failure : Error → Reply} {x : Call α} {f : α → Call Unit}
    (hf : ∀ a, Within KeepsDatabase (f a)) :
    ((orReply sur client id failure x f).run s).2.db = (x.run s).2.db := by
  have hresult : ((result x).run s).2.db = (x.run s).2.db :=
    rel_result (R := fun _ s' : State => s'.db = (x.run s).2.db) rfl
  unfold orReply
  refine rel_then (R := fun _ s' : State => s'.db = (x.run s).2.db) (S := KeepsDatabase)
    (fun _ _ h h' => Eq.trans h' h) hresult fun r => ?_
  split
  · exact within_bind (within_attempt keepsDatabase_write) fun _ => within_fail _
  · exact hf _

omit [Fastotv] in
theorem db_setter {x : Action Database Error Unit} (r : Reply) :
    ((do attempt (database x); reply sur client id r : Call Unit).run s).2.db =
      (x.run s.db).2 := by
  have hset : ((attempt (database x)).run s).2.db = (x.run s.db).2 :=
    rel_attempt (R := fun _ s' : State => s'.db = (x.run s.db).2) rfl
  exact rel_then (R := fun _ s' : State => s'.db = (x.run s.db).2) (S := KeepsDatabase)
    (fun _ _ h h' => Eq.trans h' h) hset fun _ => keepsDatabase_write

/-- The catchup is created, and then added to the subscriber. -/
theorem db_generateCatchup {auth : ServerDBAuthInfo} {info : CatchupGenerateInfo} :
    ((orReply sur client id .catchupGenerateFail (managerCreateCatchup sur.toEnv auth info)
        fun created =>
          orReply sur client id .catchupGenerateFail
            (database (addUserCatchup sur.toEnv auth created.cat.streamId)) fun _ => do
              (if created.isCreated then catchupCreated created.serverid created.cat else pure ())
              reply sur client id (.catchupGenerateSuccess created.cat)).run s).2.db =
      (((Command.generateCatchup (.decoded info)).calls sur.toEnv s.catchupEndpoint auth).run
        s.db).2 := by
  have hcreate : (managerCreateCatchup sur.toEnv auth info).run s =
      (((createCatchup sur.toEnv s.catchupEndpoint auth info.streamId info.title info.start
          info.stop).run s.db).1,
        { s with db := ((createCatchup sur.toEnv s.catchupEndpoint auth info.streamId info.title
          info.start info.stop).run s.db).2 }) := rfl
  unfold Command.calls orReply
  rw [run_bind, run_bind, run_result, hcreate]
  rcases (createCatchup sur.toEnv s.catchupEndpoint auth info.streamId info.title info.start
    info.stop).run s.db with ⟨created | err | _, db⟩
  · refine db_orReply fun _ => within_bind ?_ fun _ => keepsDatabase_write
    unfold catchupCreated
    split_ifs
    · exact fun _ => rfl
    · exact within_pure _
    · exact within_pure _
  · have hkeeps : Within KeepsDatabase
        (do attempt (reply sur client id (.catchupGenerateFail err)); fail err : Call Unit) :=
      within_bind (within_attempt keepsDatabase_write) fun _ => within_fail _
    exact hkeeps { s with db := db }
  · rfl

/-- What a command of a user does to the database. -/
theorem db_handleRequestCommand {auth : ServerDBAuthInfo} {req : SubscriberRequest}
    (hgated : req.command.IsGated) (hc : s.clients client = some c) (hlogin : c.login = some auth) :
    ((handleRequestCommand sur client req).run s).2.db =
      ((req.command.calls sur.toEnv s.catchupEndpoint auth).run s.db).2 := by
  obtain ⟨id, command⟩ := req
  have hwith : ∀ (f : ServerDBAuthInfo → Call Unit),
      ((withLogin sur client id f).run s).2.db = ((f auth).run s).2.db := by
    intro f
    rw [run_withLogin_of_some hc hlogin]
  unfold handleRequestCommand
  cases command with
  | activateDevice params => exact hgated.elim
  | login params => exact hgated.elim
  | unknown => exact hgated.elim
  | ping params =>
    refine (hwith _).trans ?_
    exact within_withParams (R := KeepsDatabase) (fun _ => keepsDatabase_write) s
  | getServerInfo =>
    refine (hwith _).trans ?_
    exact within_bind (R := KeepsDatabase) (within_reads _) (fun _ => keepsDatabase_write) s
  | getChannels => exact (hwith _).trans (db_orReply fun _ => keepsDatabase_write)
  | getRuntimeChannelInfo params =>
    refine (hwith _).trans ?_
    exact within_withParams (R := KeepsDatabase) (fun _ => within_bind (within_reads _) fun _ =>
      within_bind keepsDatabase_assign fun _ => keepsDatabase_write) s
  | setFavorite params =>
    dsimp only
    rw [handleRequestClientSetFavorite_eq, hwith]
    cases params with
    | decoded fav => exact db_setter _
    | _ => rfl
  | setRecent params =>
    dsimp only
    rw [handleRequestClientSetRecent_eq, hwith]
    cases params with
    | decoded recent => exact db_setter _
    | _ => rfl
  | interruptStreamTime params =>
    dsimp only
    rw [handleRequestInterruptStreamTime_eq, hwith]
    cases params with
    | decoded inter => exact db_setter _
    | _ => rfl
  | generateCatchup params =>
    refine (hwith _).trans ?_
    cases params with
    | decoded info => exact db_generateCatchup
    | _ => rfl
  | undoCatchup params =>
    refine (hwith _).trans ?_
    cases params with
    | decoded sid => exact db_orReply fun _ => keepsDatabase_write
    | _ => rfl
  | content params =>
    refine (hwith _).trans ?_
    cases params with
    | decoded request =>
      have hdatabase : ((createRequestContent sur.toEnv auth request).run s.db).2 =
          (((Command.content (.decoded request)).calls sur.toEnv s.catchupEndpoint auth).run
            s.db).2 := by
        unfold Command.calls
        rw [run_bind]
        rcases (createRequestContent sur.toEnv auth request).run s.db with ⟨a | err | _, db⟩ <;> rfl
      rw [← hdatabase]
      refine db_orReply fun cont => within_bind ?_ fun _ => keepsDatabase_write
      unfold contentRequestCreated
      split_ifs
      · exact fun _ => rfl
      · exact within_pure _
    | _ => rfl

/-- A login writes to the database when it succeeds: a device has become active. -/
theorem db_handleRequestClientLogin {params : Params AuthInfo} :
    ((handleRequestClientLogin sur client id params).run s).2.db = s.db ∨
      ∃ uauth info oid status, params = .decoded uauth ∧
        ((clientLogin sur.toEnv uauth).run s).1 = .ok info ∧
        ((handleRequestClientLogin sur client id params).run s).2.db =
          (s.activated sur.toEnv info.login oid status).db := by
  unfold handleRequestClientLogin
  cases params with
  | absent => exact Or.inl rfl
  | refused err =>
    exact Or.inl (within_bind (R := KeepsDatabase) (within_attempt keepsDatabase_write)
      (fun _ => within_fail _) s)
  | decoded uauth =>
    dsimp only
    have hfinish : ∀ info, Within KeepsDatabase (finishClientLogin sur client id info) :=
      fun info => within_bind keepsDatabase_write fun _ =>
        keepsDatabase_registerInnerConnectionByHost
    rw [db_orReply hfinish]
    have hlogin : clientLogin sur.toEnv uauth = login sur.toEnv (.byEmail uauth) := rfl
    rcases login_cases sur.toEnv (.byEmail uauth) s with ⟨info, oid, status, hrun⟩ | ⟨o, hrun, -⟩
    · rw [hlogin, hrun]
      exact Or.inr ⟨uauth, info, oid, status, rfl, by rw [hlogin, hrun], rfl⟩
    · rw [hlogin, hrun]
      exact Or.inl rfl

end

end LoadBalance
