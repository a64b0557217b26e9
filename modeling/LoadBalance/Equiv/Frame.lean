import LoadBalance.Mongo.Equiv.Writes
import LoadBalance.System

/-!
# What the calls leave alone

Only three things change who is logged in where: the registration of a login, the end of a
connection, and a new connection; and only a request for a catchup makes other writes than those of
`Wrote`.  Everything else is quiet (`Quiet`): it makes these writes, moves a subscriber, and sends.
So a handler stays within a relation on states as soon as the relation allows what is quiet, and the
calls of these four that the handler makes.
-/

namespace LoadBalance

open LoadBalance.Action

/-- What a pointer says about the login of a connection. -/
def State.session (s : State) (client : ClientId) : Option (ClientKind × Option ServerDBAuthInfo) :=
  (s.clients client).map fun c => (c.kind, c.login)

/-- The login of the connection at an address. -/
def State.loginOf (s : State) (client : ClientId) : Option ServerDBAuthInfo :=
  (s.clients client).bind Client.login

theorem State.loginOf_eq (s : State) (client : ClientId) :
    s.loginOf client = (s.session client).bind Prod.snd := by
  unfold loginOf session
  cases s.clients client <;> rfl

/-- The same connections with the same logins, registered in the same way. -/
structure SameRegistry (s s' : State) : Prop where
  connections : s'.connections = s.connections
  session : ∀ client, s'.session client = s.session client

instance : IsPreorder State SameRegistry where
  refl _ := ⟨rfl, fun _ => rfl⟩
  trans _ _ _ h h' :=
    ⟨h'.connections.trans h.connections, fun c => (h'.session c).trans (h.session c)⟩

/-- Everything that is sent has the property. -/
def Appends (P : Output → Prop) (s s' : State) : Prop :=
  ∃ outs, s'.sent = s.sent ++ outs ∧ ∀ o ∈ outs, P o

instance {P : Output → Prop} : IsPreorder State (Appends P) where
  refl s := ⟨[], by simp, by simp⟩
  trans s s' s'' := by
    rintro ⟨outs, hsent, houts⟩ ⟨outs', hsent', houts'⟩
    refine ⟨outs ++ outs', ?_, List.forall_mem_append.mpr ⟨houts, houts'⟩⟩
    rw [hsent', hsent, List.append_assoc]

theorem Appends.mono {P Q : Output → Prop} {s s' : State} (hPQ : ∀ o, P o → Q o)
    (h : Appends P s s') : Appends Q s s' := by
  obtain ⟨outs, hsent, houts⟩ := h
  exact ⟨outs, hsent, fun o ho => hPQ o (houts o ho)⟩

/-- Among everything that is sent these are the outputs of a kind, in this order. -/
def Emits (p : Output → Bool) (os : List Output) (s s' : State) : Prop :=
  ∃ outs, s'.sent = s.sent ++ outs ∧ outs.filter p = os

section

variable {p q : Output → Bool} {os os' : List Output} {s s' s'' : State}

theorem Emits.trans (h : Emits p os s s') (h' : Emits p os' s' s'') :
    Emits p (os ++ os') s s'' := by
  obtain ⟨outs, hsent, rfl⟩ := h
  obtain ⟨outs', hsent', rfl⟩ := h'
  exact ⟨outs ++ outs', by rw [hsent', hsent, List.append_assoc], List.filter_append ..⟩

theorem Emits.unique (h : Emits p os s s') (h' : Emits p os' s s') : os = os' := by
  obtain ⟨outs, hsent, rfl⟩ := h
  obtain ⟨outs', hsent', rfl⟩ := h'
  rw [List.append_cancel_left (hsent.symm.trans hsent')]

/-- A kind within the kind. -/
theorem Emits.filter (hqp : ∀ o, q o = true → p o = true) (h : Emits p os s s') :
    Emits q (os.filter q) s s' := by
  obtain ⟨outs, hsent, rfl⟩ := h
  refine ⟨outs, hsent, ?_⟩
  rw [List.filter_filter]
  refine List.filter_congr fun o _ => ?_
  rw [Bool.eq_iff_iff, Bool.and_eq_true]
  exact ⟨fun hq => ⟨hq, hqp o hq⟩, And.left⟩

theorem Emits.of_sent_eq (h : s'.sent = s.sent) : Emits p [] s s' :=
  ⟨[], by rw [h, List.append_nil], rfl⟩

instance : IsPreorder State (Emits p []) where
  refl _ := .of_sent_eq rfl
  trans _ _ _ h h' := h.trans h'

theorem Appends.emits_nil {P : Output → Prop} (hP : ∀ o, P o → p o = false)
    (h : Appends P s s') : Emits p [] s s' := by
  obtain ⟨outs, hsent, houts⟩ := h
  refine ⟨outs, hsent, List.filter_eq_nil_iff.mpr fun o ho => ?_⟩
  rw [hP o (houts o ho)]
  exact Bool.false_ne_true

end

/-- Nothing happens but that outputs with the property `P` are sent, and that the database is
written to without a catchup being created or added. -/
structure Quiet (P : Output → Prop) (s s' : State) : Prop where
  registry : SameRegistry s s'
  writes : AnyWrites s.db s'.db
  endpoint : s'.catchupEndpoint = s.catchupEndpoint
  sent : Appends P s s'

instance {P : Output → Prop} : IsPreorder State (Quiet P) where
  refl s := ⟨refl_of _ s, refl_of _ s.db, rfl, refl_of _ s⟩
  trans _ _ _ h h' := ⟨trans_of _ h.registry h'.registry, trans_of _ h.writes h'.writes,
    h'.endpoint.trans h.endpoint, trans_of _ h.sent h'.sent⟩

theorem Quiet.mono {P Q : Output → Prop} {s s' : State} (hPQ : ∀ o, P o → Q o)
    (h : Quiet P s s') : Quiet Q s s' := ⟨h.registry, h.writes, h.endpoint, h.sent.mono hPQ⟩

theorem Quiet.of_nothing {P : Output → Prop} {s s' : State} (h : Quiet (fun _ => False) s s') :
    Quiet P s s' := h.mono fun _ ho => ho.elim

/-- The call is quiet. -/
abbrev Keeps {α : Type} (P : Output → Prop) (x : Call α) : Prop := Within (Quiet P) x

/-- Any output. -/
abbrev Anything : Output → Prop := fun _ => True

/-- No output. -/
abbrev Nothing : Output → Prop := fun _ => False

/-- What the handlers of the subscribers and of HTTP send themselves, and the files they open and
close. -/
def FromHandler : Output → Prop
  | .reply .. => True
  | .response .. => True
  | .opened .. => True
  | .closed .. => True
  | .broadcast (.catchupCreated ..) => True
  | .broadcast (.contentRequestCreated ..) => True
  | _ => False

/-! ### Calls that several relations admit -/

section

variable {R : State → State → Prop} [IsPreorder State R] {sur : Surroundings} {client : ClientId}

theorem within_orRaise {α : Type} (x : Except Error α) : Within R (orRaise x : Call α) := by
  cases x
  · exact within_fail _
  · exact within_pure _

theorem within_write {o : Output} (ho : Within R (send o)) : Within R (write sur client o) := by
  unfold write
  split_ifs
  · exact ho
  · exact within_fail _

variable [Fastotv]

/-- What is shown to a subscriber is a notification. -/
theorem within_sendSubscriberNotification {uid : UserId} {device : DeviceId}
    {notify : NotifySubscriberInfo}
    (hsend : ∀ connection, Within R (send (.notification connection notify))) :
    Within R (sendSubscriberNotification sur uid device notify) := by
  unfold sendSubscriberNotification
  refine within_bind (within_reads _) fun l => ?_
  split
  · exact within_fail _
  refine within_bind (within_reads _) fun connection => ?_
  split
  · unfold sendNotification
    refine within_bind (within_reads _) fun c => ?_
    split
    · split_ifs
      · exact within_write (hsend _)
      · exact within_fail _
    · exact within_fail _
  · exact within_fail _

/-- The activation of a device only looks at the database. -/
theorem within_clientActivate (uauth : LoginInfo) : Within R (clientActivate uauth) := by
  unfold clientActivate
  split_ifs
  · exact within_fail _
  refine within_bind (within_reads _) fun doc => ?_
  refine within_bind (within_orFail _ _) fun doc => ?_
  refine within_bind (within_orRaise _) fun _ => ?_
  refine within_bind (within_orFail _ _) fun devices => ?_
  dsimp only
  split_ifs
  · exact within_fail _
  · exact within_pure _

/-- A registration gives the object its login, puts the pointer into the map and tells the clients
of the daemon. -/
theorem within_registerInnerConnectionByHost {info : ServerDBAuthInfo}
    (hassign : Within R (assign client fun c => { c with login := some info }))
    (hpush : ∀ s : State, R s { s with connections := s.connections.push info.uid client })
    (hsend : ∀ login, Within R (send (.broadcast (.subscriberConnected login)))) :
    Within R (registerInnerConnectionByHost client info) := by
  unfold registerInnerConnectionByHost
  split_ifs
  · exact within_lift _
  refine within_bind hassign fun _ => within_bind hpush fun _ => ?_
  refine within_bind (within_reads _) fun c => ?_
  split
  · unfold onSubscriberConnected
    split_ifs
    · exact hsend _
    · exact within_pure _
  · exact within_pure _

/-- A client that was not verified does nothing, and another one is answered. -/
theorem within_handleRequestClientSendMessageForSubscriber {dclient : DaemonClient}
    {id : RequestId} {params : Option JsonObject}
    (hnotify : dclient.verified = true →
      ∀ connection notify, Within R (send (.notification connection notify)))
    (hreply : dclient.verified = true → ∀ r, Within R (send (.daemonReply dclient.address id r))) :
    Within R (handleRequestClientSendMessageForSubscriber sur dclient id params) := by
  unfold handleRequestClientSendMessageForSubscriber
  cases hverified : dclient.verified with
  | false => exact within_fail _
  | true =>
    rw [Bool.not_true, if_neg Bool.false_ne_true]
    split
    · exact within_fail _
    split
    · exact within_fail _
    refine within_bind (within_result
      (within_sendSubscriberNotification fun _ => hnotify hverified _ _)) fun r => ?_
    split
    · exact within_bind (within_attempt (within_write (hreply hverified _))) fun _ => within_fail _
    · exact within_write (hreply hverified _)

end

/-! ### Quiet calls -/

section

variable {α : Type} {P : Output → Prop} {sur : Surroundings} {client : ClientId} {id : RequestId}

theorem keeps_database {x : Action Database Error α} (hx : Within AnyWrites x) :
    Keeps P (database x) :=
  fun s => ⟨⟨rfl, fun _ => rfl⟩, hx s.db, rfl, [], by simp [database, run_zoom], by simp⟩

theorem keeps_deref : Keeps P (deref client) := within_reads _

theorem keeps_send {o : Output} (ho : P o) : Keeps P (send o) := fun s =>
  ⟨⟨rfl, fun _ => rfl⟩, refl_of AnyWrites s.db, rfl, [o], rfl, by simpa using ho⟩

theorem keeps_write {o : Output} (ho : P o) : Keeps P (write sur client o) :=
  within_write (keeps_send ho)

theorem keeps_reply {r : Reply} (hr : P (.reply client id r)) : Keeps P (reply sur client id r) :=
  keeps_write hr

/-- A change of an object that its session does not show. -/
theorem keeps_assign {f : Client → Client} (hf : ∀ c, (f c).kind = c.kind ∧ (f c).login = c.login) :
    Keeps P (assign client f) := by
  intro s
  unfold assign
  rw [run_bind]
  unfold deref
  rw [run_reads]
  cases hc : s.clients client with
  | none => exact refl_of (Quiet P) s
  | some c =>
    refine ⟨⟨rfl, fun c' => ?_⟩, refl_of AnyWrites s.db, rfl, refl_of (Appends P) s⟩
    simp only [run_modify, State.session]
    by_cases h : c' = client
    · subst h
      rw [Function.update_self, hc]
      simp [hf c]
    · rw [Function.update_of_ne h]

theorem keeps_checkIsLoginClient : Keeps P (checkIsLoginClient client) :=
  within_bind keeps_deref fun _ => within_orFail _ _

theorem keeps_clientLoginImpl (env : Env) (uid : UserId) (uauth : ServerAuthInfo) (doc : Doc) :
    Keeps P (clientLoginImpl env uid uauth doc) := by
  unfold clientLoginImpl
  refine within_bind (within_orRaise _) fun _ => ?_
  split_ifs
  · exact within_fail _
  refine within_bind (within_orFail _ _) fun devices => ?_
  split
  · split_ifs
    · exact within_fail _
    · exact within_fail _
  · split
    · exact within_fail _
    refine within_bind (within_reads _) fun other => ?_
    split_ifs
    · exact within_fail _
    · exact within_attempt (keeps_database (writes_activateDevice trivial _ _))
    · exact within_pure _

theorem keeps_clientLoginByUid (env : Env) (uid : UserId) (password : String) (dev : DeviceId) :
    Keeps P (clientLoginByUid env uid password dev) := by
  unfold clientLoginByUid
  split_ifs
  · exact within_fail _
  refine within_bind (within_orFail _ _) fun oid => ?_
  refine within_bind (within_reads _) fun doc => ?_
  refine within_bind (within_orFail _ _) fun doc => ?_
  split
  · split
    · exact within_bind (keeps_clientLoginImpl _ _ _ _) fun _ => within_pure _
    · exact within_fail _
  · exact within_fail _

variable [Fastotv]

theorem keeps_clientLogin (env : Env) (uauth : AuthInfo) : Keeps P (clientLogin env uauth) := by
  unfold clientLogin
  split_ifs
  · exact within_fail _
  refine within_bind (within_reads _) fun doc => ?_
  refine within_bind (within_orFail _ _) fun doc => ?_
  refine within_bind (within_orFail _ _) fun uid => ?_
  split
  · exact within_bind (keeps_clientLoginImpl _ _ _ _) fun _ => within_pure _
  · exact within_fail _

/-- A client that was not verified does nothing, and another one is answered. -/
theorem keeps_handleRequestClientSendMessageForSubscriber {dclient : DaemonClient}
    {params : Option JsonObject}
    (hnotify : dclient.verified = true → ∀ connection notify, P (.notification connection notify))
    (hreply : dclient.verified = true → ∀ r, P (.daemonReply dclient.address id r)) :
    Keeps P (handleRequestClientSendMessageForSubscriber sur dclient id params) :=
  within_handleRequestClientSendMessageForSubscriber
    (fun hverified _ _ => keeps_send (hnotify hverified _ _))
    fun hverified _ => keeps_send (hreply hverified _)

theorem keeps_catchupCreated (serverid : String) (cat : CatchupInfo)
    (hP : P (.broadcast (.catchupCreated serverid cat))) :
    Keeps P (catchupCreated serverid cat) := by
  unfold catchupCreated
  split_ifs
  · exact keeps_send hP
  · exact within_pure _

theorem keeps_contentRequestCreated (request : ContentRequestInfo)
    (hP : P (.broadcast (.contentRequestCreated request))) :
    Keeps P (contentRequestCreated request) := by
  unfold contentRequestCreated
  split_ifs
  · exact keeps_send hP
  · exact within_pure _

end

/-! ### The calls that change the registry -/

theorem SameRegistry.loginOf {s s' : State} (h : SameRegistry s s') (client : ClientId) :
    s'.loginOf client = s.loginOf client := by
  rw [State.loginOf_eq, State.loginOf_eq, h.session]

theorem SameRegistry.isOpen {s s' : State} (h : SameRegistry s s') (client : ClientId) :
    s'.clients client = none ↔ s.clients client = none := by
  have hs := h.session client
  unfold State.session at hs
  rw [← Option.map_eq_none_iff (f := fun c : Client => (c.kind, c.login)), hs,
    Option.map_eq_none_iff]

section

variable {s : State} {client : ClientId} {c : Client} {info : ServerDBAuthInfo}

theorem run_deref (hc : s.clients client = some c) : (deref client).run s = (.ok c, s) := by
  unfold deref
  rw [run_reads, hc]

theorem run_deref_none (hc : s.clients client = none) :
    (deref client).run s = (.abort, s) := by
  unfold deref
  rw [run_reads, hc]

theorem run_assign (hc : s.clients client = some c) (f : Client → Client) :
    (assign client f).run s =
      (.ok (), { s with clients := Function.update s.clients client (some (f c)) }) := by
  unfold assign
  rw [run_bind_of_ok (run_deref hc), run_modify]

theorem run_checkIsLoginClient (hc : s.clients client = some c) :
    (result (checkIsLoginClient client)).run s = (.ok (match c.login with
      | some login => .ok login
      | none => .error (.message "User not logged")), s) := by
  unfold checkIsLoginClient
  rw [run_result, run_bind_of_ok (run_deref hc)]
  cases c.login <;> rfl

/-- A connection that is logged in keeps its login. -/
theorem run_loginOfRequest_of_some [Fastotv] {sur : HttpSurroundings} {uid : UserId}
    {password : String} {dev : DeviceId} (hc : s.clients client = some c)
    (hlogin : c.login = some info) :
    (loginOfRequest sur client uid password dev).run s = (.ok info, s) := by
  unfold loginOfRequest
  rw [run_bind_of_ok (run_checkIsLoginClient hc), hlogin]
  rfl

theorem run_loginOfRequest_of_none [Fastotv] {sur : HttpSurroundings} {uid : UserId}
    {password : String} {dev : DeviceId} (hc : s.clients client = some c)
    (hlogin : c.login = none) :
    (loginOfRequest sur client uid password dev).run s =
      (do
        let auth ← clientLoginByUid sur.toEnv uid password dev
        registerInnerConnectionByHost client auth
        pure auth : Call ServerDBAuthInfo).run s := by
  unfold loginOfRequest
  rw [run_bind_of_ok (run_checkIsLoginClient hc), hlogin]

/-- There is no login to be had for an address without an object. -/
theorem run_loginOfRequest_of_closed [Fastotv] {sur : HttpSurroundings} {uid : UserId}
    {password : String} {dev : DeviceId} (hc : s.clients client = none) :
    (loginOfRequest sur client uid password dev).run s = (.abort, s) := by
  unfold loginOfRequest checkIsLoginClient
  rw [run_bind, run_result, run_bind, run_deref_none hc]

/-- What the daemon is told about connections. -/
def Notice : Output → Prop
  | .broadcast (.subscriberConnected _) => True
  | .broadcast (.subscriberDisConnected _) => True
  | _ => False

/-- What a connection is registered by: its object gets the login, and its pointer is appended. -/
def State.register (s : State) (client : ClientId) (info : ServerDBAuthInfo) (c : Client) : State :=
  { s with
    clients := Function.update s.clients client (some { c with login := some info })
    connections := s.connections.push info.uid client }

/-- What the daemon is told of a login. -/
def ServerDBAuthInfo.front (info : ServerDBAuthInfo) : FrontSubscriberInfo :=
  ⟨info.uid, info.login, info.deviceId, info.expiredDate⟩

def notice (f : FrontSubscriberInfo → Broadcast) (info : ServerDBAuthInfo) : List Output :=
  if info.front.isValid then [.broadcast (f info.front)] else []

theorem run_onSubscriberConnected (s : State) (info : ServerDBAuthInfo) :
    (onSubscriberConnected info.front).run s =
      (.ok (), { s with sent := s.sent ++ notice .subscriberConnected info }) := by
  unfold onSubscriberConnected notice
  split_ifs
  · rfl
  · rw [List.append_nil]
    rfl

theorem run_onSubscriberDisConnected (s : State) (info : ServerDBAuthInfo) :
    (onSubscriberDisConnected info.front).run s =
      (.ok (), { s with sent := s.sent ++ notice .subscriberDisConnected info }) := by
  unfold onSubscriberDisConnected notice
  split_ifs
  · rfl
  · rw [List.append_nil]
    rfl

/-- A registered connection of which the daemon was told. -/
def State.join (s : State) (client : ClientId) (info : ServerDBAuthInfo) (c : Client) : State :=
  { s.register client info c with sent := s.sent ++ notice .subscriberConnected info }

theorem mem_notice {f : FrontSubscriberInfo → Broadcast} {o : Output} (ho : o ∈ notice f info) :
    ∃ login, o = .broadcast (f login) := by
  unfold notice at ho
  split_ifs at ho
  · exact ⟨_, List.mem_singleton.mp ho⟩
  · cases ho

theorem quiet_join : Quiet Notice (s.register client info c) (s.join client info c) := by
  refine ⟨⟨rfl, fun _ => rfl⟩, refl_of AnyWrites s.db, rfl, _, rfl, fun o ho => ?_⟩
  obtain ⟨login, rfl⟩ := mem_notice ho
  trivial

/-- A valid login of an open connection is registered. -/
theorem run_registerInnerConnectionByHost [Fastotv] (hvalid : info.isValid = true)
    (hc : s.clients client = some c) :
    (registerInnerConnectionByHost client info).run s = (.ok (), s.join client info c) := by
  have hderef : (s.register client info c).clients client =
      some { c with login := some info } := Function.update_self ..
  unfold registerInnerConnectionByHost
  rw [if_neg (by simp [hvalid]), run_bind_of_ok (run_assign hc _),
    run_bind_of_ok (run_modify _ _)]
  exact (run_bind_of_ok (run_deref hderef)).trans (run_onSubscriberConnected _ info)

/-- An invalid login is the end of the process. -/
theorem run_registerInnerConnectionByHost_of_not [Fastotv] (hvalid : info.isValid = false) :
    (registerInnerConnectionByHost client info).run s = (.abort, s) := by
  unfold registerInnerConnectionByHost
  rw [hvalid]
  rfl

/-- What is left of the registry without a connection: one occurrence of its pointer is taken out
from under the user id of its login. -/
def State.remove (s : State) (client : ClientId) (c : Client) : State :=
  { s with
    clients := Function.update s.clients client none
    connections := match c.login with
      | some login => s.connections.eraseFirst login.uid client
      | none => s.connections }

/-- What is left without a connection, of which the daemon was told. -/
def State.leave (s : State) (client : ClientId) (c : Client) : State :=
  { s.remove client c with
    sent := s.sent ++ match c.login with
      | some login => notice .subscriberDisConnected login
      | none => [] }

theorem quiet_leave : Quiet Notice (s.remove client c) (s.leave client c) := by
  refine ⟨⟨rfl, fun _ => rfl⟩, refl_of AnyWrites s.db, rfl, _, rfl, fun o ho => ?_⟩
  cases hlogin : c.login with
  | none =>
    rw [hlogin] at ho
    cases ho
  | some login =>
    rw [hlogin] at ho
    obtain ⟨_, rfl⟩ := mem_notice ho
    trivial

/-- `Closed` takes one occurrence of the pointer out, and tells the observer; then the object is
deleted. -/
theorem run_closeAndDelete (hc : s.clients client = some c) :
    (closeAndDelete client).run s = (.ok (), s.leave client c) := by
  unfold closeAndDelete unRegisterInnerConnectionByHost State.leave State.remove
  rw [run_bind, run_attempt, run_bind_of_ok (run_deref hc)]
  cases hlogin : c.login with
  | none =>
    dsimp only
    rw [List.append_nil]
    rfl
  | some login =>
    dsimp only [Client.makeFrontSubscriberInfo]
    rw [hlogin, run_bind_of_ok (run_modify _ _)]
    dsimp only [Option.map_some]
    have htold := run_onSubscriberDisConnected
      { s with connections := s.connections.eraseFirst login.uid client } login
    unfold ServerDBAuthInfo.front at htold
    rw [htold]
    rfl

/-- There is nothing to close at an address without an object. -/
theorem run_closeAndDelete_none (hc : s.clients client = none) :
    (closeAndDelete client).run s = (.abort, s) := by
  unfold closeAndDelete unRegisterInnerConnectionByHost
  rw [run_bind, run_attempt, run_bind, run_deref_none hc]

/-- The end of a connection, where the relation allows its removal and the notice of it. -/
theorem within_closeAndDelete {R : State → State → Prop} [IsPreorder State R]
    (hnotice : ∀ s s', Quiet Notice s s' → R s s')
    (hremove : ∀ s c, s.clients client = some c → R s (s.remove client c)) :
    Within R (closeAndDelete client) := by
  intro s
  cases hc : s.clients client with
  | none =>
    rw [run_closeAndDelete_none hc]
    exact refl_of R s
  | some c =>
    rw [run_closeAndDelete hc]
    exact trans_of R (hremove s c hc) (hnotice _ _ quiet_leave)

end

/-! ### Connections with and without a login -/

section

variable {s : State} {sur : Surroundings} {client : ClientId} {id : RequestId} {c : Client}
  {f : ServerDBAuthInfo → Call Unit}

theorem run_withLogin_of_some {auth : ServerDBAuthInfo} (hc : s.clients client = some c)
    (hlogin : c.login = some auth) : (withLogin sur client id f).run s = (f auth).run s := by
  unfold withLogin
  rw [run_bind_of_ok (run_checkIsLoginClient hc), hlogin]

/-- What is sent of a reply. -/
def told (sur : Surroundings) (client : ClientId) (id : RequestId) (r : Reply) : List Output :=
  if sur.sends client then [.reply client id r] else []

/-- A reply whose failure is passed over. -/
theorem run_attempt_reply {r : Reply} : (attempt (reply sur client id r)).run s =
    (.ok (), { s with sent := s.sent ++ told sur client id r }) := by
  unfold reply write told
  split_ifs with hsends
  · rfl
  · rw [List.append_nil]
    rfl

/-- What is left of a connection that is told that it is not logged in. -/
def State.refuse (s : State) (sur : Surroundings) (client : ClientId) (id : RequestId) : State :=
  { s with
    clients := Function.update s.clients client none
    sent := s.sent ++ told sur client id (.checkLoginFail (.message "User not logged")) }

theorem run_withLogin_of_none (hc : s.clients client = some c) (hlogin : c.login = none) :
    (withLogin sur client id f).run s =
      (.error (.message "User not logged"), s.refuse sur client id) := by
  -- The object has no login that could be taken out of the map.
  have hclose : ∀ t : State, t.clients client = some c → (closeAndDelete client).run t =
      (.ok (), { t with clients := Function.update t.clients client none }) := by
    intro t ht
    unfold closeAndDelete unRegisterInnerConnectionByHost
    rw [run_bind, run_attempt, run_bind_of_ok (run_deref ht), hlogin]
    rfl
  unfold withLogin
  rw [run_bind_of_ok (run_checkIsLoginClient hc), hlogin]
  dsimp only
  rw [run_bind_of_ok run_attempt_reply]
  exact run_bind_of_ok (hclose _ hc)

end

/-! ### The two logins of a setter -/

section

variable {s : State} {sur : Surroundings} {client : ClientId} {id : RequestId} {c : Client}
  {auth : ServerDBAuthInfo}

theorem run_currentLogin (hc : s.clients client = some c) (hlogin : c.login = some auth) :
    (currentLogin client).run s = (.ok auth, s) := by
  unfold currentLogin
  rw [run_bind_of_ok (run_deref hc), hlogin]
  rfl

/-- The login that a handler reads of the connection is the one that was checked. -/
theorem withLogin_currentLogin {α : Type} (params : Params α)
    (g : ServerDBAuthInfo → α → Call Unit) :
    (withLogin sur client id fun _ => withParams params fun a => do
        let login ← currentLogin client
        g login a) =
      withLogin sur client id fun auth => withParams params (g auth) := by
  refine Action.ext_run fun s => ?_
  cases hc : s.clients client with
  | none =>
    unfold withLogin checkIsLoginClient
    rw [run_bind, run_bind, run_result, run_bind, run_deref_none hc]
  | some c =>
    cases hlogin : c.login with
    | none => rw [run_withLogin_of_none hc hlogin, run_withLogin_of_none hc hlogin]
    | some auth =>
      rw [run_withLogin_of_some hc hlogin, run_withLogin_of_some hc hlogin]
      cases params with
      | decoded a => exact run_bind_of_ok (run_currentLogin hc hlogin)
      | absent => rfl
      | refused err => rfl

variable [Fastotv]

theorem handleRequestClientSetFavorite_eq {params : Params FavoriteInfo} :
    handleRequestClientSetFavorite sur client id params =
      (withLogin sur client id fun auth => withParams params fun fav => do
        attempt (database (setFavorite sur.toEnv auth fav))
        reply sur client id .getFavoriteInfoSuccess) :=
  withLogin_currentLogin _ _

theorem handleRequestClientSetRecent_eq {params : Params RecentStreamTimeInfo} :
    handleRequestClientSetRecent sur client id params =
      (withLogin sur client id fun auth => withParams params fun recent => do
        attempt (database (setRecent sur.toEnv auth recent))
        reply sur client id .getRecentInfoSuccess) :=
  withLogin_currentLogin _ _

theorem handleRequestInterruptStreamTime_eq {params : Params InterruptStreamTimeInfo} :
    handleRequestInterruptStreamTime sur client id params =
      (withLogin sur client id fun auth => withParams params fun inter => do
        attempt (database (setInterruptTime sur.toEnv auth inter))
        reply sur client id .getInterruptStreamTimeInfoSuccess) :=
  withLogin_currentLogin _ _

end

/-! ### Handlers within a relation -/

section

variable {R : State → State → Prop} {P : Output → Prop} [IsPreorder State R]
  (hquiet : ∀ s s', Quiet FromHandler s s' → R s s')

include hquiet

omit [IsPreorder State R] in
theorem within_of_keeps {α : Type} {x : Call α} (hx : Keeps FromHandler x) : Within R x :=
  fun s => hquiet _ _ (hx s)

variable {α : Type} {sur : Surroundings} {client : ClientId} {id : RequestId}

omit [IsPreorder State R] in
theorem within_reply {r : Reply} : Within R (reply sur client id r) :=
  within_of_keeps hquiet (keeps_reply trivial)

omit hquiet in
theorem within_withParams {params : Params α} {f : α → Call Unit} (hf : ∀ a, Within R (f a)) :
    Within R (withParams params f) := by
  cases params
  · exact within_fail _
  · exact within_fail _
  · exact hf _

theorem within_withLogin {f : ServerDBAuthInfo → Call Unit}
    (hclose : Within R (closeAndDelete client)) (hf : ∀ auth, Within R (f auth)) :
    Within R (withLogin sur client id f) := by
  unfold withLogin
  refine within_bind (within_result (within_of_keeps hquiet keeps_checkIsLoginClient)) fun r => ?_
  split
  · refine within_bind (within_attempt (within_reply hquiet)) fun _ => ?_
    exact within_bind hclose fun _ => within_fail _
  · exact hf _

theorem within_orReply {failure : Error → Reply} {x : Call α} {f : α → Call Unit}
    (hx : Within R x) (hf : ∀ a, Within R (f a)) :
    Within R (orReply sur client id failure x f) := by
  unfold orReply
  refine within_bind (within_result hx) fun r => ?_
  split
  · exact within_bind (within_attempt (within_reply hquiet)) fun _ => within_fail _
  · exact hf _

variable [Fastotv]

/-- The creation of a catchup, where the relation allows any change of the database. -/
theorem within_handleRequestGenerateCatchup {params : Params CatchupGenerateInfo}
    (hclose : Within R (closeAndDelete client))
    (hdatabase : ∀ {β : Type} (x : Action Database Error β), Within R (database x)) :
    Within R (handleRequestGenerateCatchup sur client id params) := by
  refine within_withLogin hquiet hclose fun auth => within_withParams fun catGen => ?_
  refine within_orReply hquiet (within_bind (within_reads _) fun _ => hdatabase _)
    fun created => ?_
  refine within_orReply hquiet (hdatabase _) fun _ => ?_
  refine within_bind ?_ fun _ => within_reply hquiet
  split_ifs
  · exact within_of_keeps hquiet (keeps_catchupCreated _ _ trivial)
  · exact within_pure _

/-- A request of a subscriber, where the relation allows its end and, for the two commands that
are not quiet, what they do. -/
theorem within_handleRequestCommand {req : SubscriberRequest}
    (hclose : Within R (closeAndDelete client))
    (hlogin : ∀ params, req.command = .login params →
      Within R (handleRequestClientLogin sur client req.id params))
    (hcatchup : ∀ params, req.command = .generateCatchup params →
      Within R (handleRequestGenerateCatchup sur client req.id params)) :
    Within R (handleRequestCommand sur client req) := by
  have hdatabase : ∀ {β : Type} {x : Action Database Error β}, Within AnyWrites x →
      Within R (database x) :=
    fun hx => within_of_keeps hquiet (keeps_database hx)
  unfold handleRequestCommand
  split
  · unfold handleRequestClientActivate
    split
    · exact within_fail _
    · exact within_bind (within_attempt (within_reply hquiet)) fun _ => within_fail _
    · exact within_orReply hquiet (within_clientActivate _) fun _ =>
        within_attempt (within_reply hquiet)
  · exact hlogin _ ‹_›
  · exact within_withLogin hquiet hclose fun _ => within_withParams fun _ => within_reply hquiet
  · exact within_withLogin hquiet hclose fun _ =>
      within_bind (within_reads _) fun _ => within_reply hquiet
  · exact within_withLogin hquiet hclose fun _ =>
      within_orReply hquiet (within_reads _) fun _ => within_reply hquiet
  · refine within_withLogin hquiet hclose fun _ => within_withParams fun sid => ?_
    refine within_bind (within_reads _) fun watchers => ?_
    refine within_bind (within_of_keeps hquiet (keeps_assign ?_)) fun _ => within_reply hquiet
    exact fun _ => ⟨rfl, rfl⟩
  · rw [handleRequestClientSetFavorite_eq]
    refine within_withLogin hquiet hclose fun _ => within_withParams fun _ => ?_
    refine within_bind (within_attempt (hdatabase ?_)) fun _ => within_reply hquiet
    exact writes_setFavorite (fun _ _ => trivial) _
  · rw [handleRequestClientSetRecent_eq]
    refine within_withLogin hquiet hclose fun _ => within_withParams fun _ => ?_
    refine within_bind (within_attempt (hdatabase ?_)) fun _ => within_reply hquiet
    exact writes_setRecent (fun _ _ => trivial) _
  · rw [handleRequestInterruptStreamTime_eq]
    refine within_withLogin hquiet hclose fun _ => within_withParams fun _ => ?_
    refine within_bind (within_attempt (hdatabase ?_)) fun _ => within_reply hquiet
    exact writes_setInterruptTime (fun _ _ => trivial) _
  · exact hcatchup _ ‹_›
  · exact within_withLogin hquiet hclose fun _ => within_withParams fun _ =>
      within_orReply hquiet (hdatabase (writes_removeUserCatchup (fun _ _ => trivial) _)) fun _ =>
        within_reply hquiet
  · refine within_withLogin hquiet hclose fun auth => within_withParams fun request => ?_
    refine within_orReply hquiet
      (hdatabase (writes_createRequestContent (fun _ _ => trivial) _)) fun cont => ?_
    exact within_bind (within_of_keeps hquiet (keeps_contentRequestCreated _ trivial)) fun _ =>
      within_reply hquiet
  · exact within_pure _

/-! Requests over HTTP. -/

variable {hsur : HttpSurroundings}

omit hquiet [IsPreorder State R] [Fastotv] in
theorem keeps_sendError {keepAlive : Bool} {status : HttpStatus} {err : Error}
    (hP : P (.response client (.error status err keepAlive))) :
    Keeps P (sendError hsur client keepAlive status err) := within_attempt (keeps_write hP)

omit hquiet [IsPreorder State R] [Fastotv] in
theorem keeps_sendFileByFd {request : HttpRequest} {path : String} {size : ℕ} {sid : StreamId}
    (hP : P (.response client (.file path size))) :
    Keeps P (sendFileByFd hsur client request path size sid) := by
  unfold sendFileByFd
  split_ifs
  · exact within_bind (keeps_send hP) fun _ => keeps_assign fun _ => ⟨rfl, rfl⟩
  · exact within_pure _

omit hquiet [IsPreorder State R] in
/-- Serving a source changes at most the position of the connection. -/
theorem keeps_sendSource (request : HttpRequest) (source : HttpSource) (name : String)
    (sid : StreamId) : Keeps FromHandler (sendSource hsur client request source name sid) := by
  have hredirect : ∀ url,
      Keeps FromHandler (sendRedirect hsur client request.keepAlive url sid) := by
    intro url
    unfold sendRedirect
    refine within_bind (within_result (keeps_write trivial)) fun r => ?_
    split
    · exact within_pure _
    · exact keeps_assign fun _ => ⟨rfl, rfl⟩
  unfold sendSource
  split
  · exact hredirect _
  · split_ifs
    · unfold sendFile
      split
      · exact keeps_sendError trivial
      · split
        · exact keeps_sendError trivial
        · exact keeps_sendError trivial
        · exact keeps_sendError trivial
        · refine within_bind (keeps_send trivial) fun _ => ?_
          unfold sendOpenFile
          refine within_bind (within_result (keeps_write trivial)) fun r => ?_
          split
          · exact keeps_send trivial
          · exact within_bind (keeps_sendFileByFd trivial) fun _ => keeps_send trivial
    · exact hredirect _

omit hquiet [IsPreorder State R] in
theorem keeps_serveStream (request : HttpRequest) (auth : ServerDBAuthInfo) (sid : StreamId)
    (channel name : String) :
    Keeps FromHandler (serveStream hsur client request auth sid channel name) := by
  unfold serveStream
  split
  · exact keeps_sendError trivial
  · refine within_bind (within_result (within_reads _)) fun r => ?_
    split
    · exact keeps_sendError trivial
    · exact keeps_sendSource _ _ _ _

end

end LoadBalance
