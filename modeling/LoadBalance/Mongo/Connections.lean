import LoadBalance.Base.State

/-!
# The connections of the manager

`connections_` maps the user id of a login to the connections that are logged in with it, as
pointers.  A login appends a pointer, the end of a connection takes one occurrence of it out again,
and everything else goes through the pointers.
-/

namespace LoadBalance

open LoadBalance.Action

/-! ### The observer -/

/-- `OnSubscriberConnected`: infos that do not serialize are dropped. -/
def onSubscriberConnected (info : FrontSubscriberInfo) : Call Unit :=
  if info.isValid then send (.broadcast (.subscriberConnected info)) else pure ()

def onSubscriberDisConnected (info : FrontSubscriberInfo) : Call Unit :=
  if info.isValid then send (.broadcast (.subscriberDisConnected info)) else pure ()

/-! ### Registration -/

/-- An invalid login brings the process down. -/
def registerInnerConnectionByHost [Fastotv] (client : ClientId) (info : ServerDBAuthInfo) :
    Call Unit := do
  if !info.isValid then
    lift .abort
  else
    assign client fun c => { c with login := some info }
    modify fun s => { s with connections := s.connections.push info.uid client }
    let c ← deref client
    match c.makeFrontSubscriberInfo with
    | some login => onSubscriberConnected login
    | none => pure ()

def unRegisterInnerConnectionByHost (client : ClientId) : Call Unit := do
  let c ← deref client
  match c.login with
  | none => fail .inval
  | some sinf =>
    modify fun s => { s with connections := s.connections.eraseFirst sinf.uid client }
    match c.makeFrontSubscriberInfo with
    | some login => onSubscriberDisConnected login
    | none => pure ()

def checkIsLoginClient (client : ClientId) : Call ServerDBAuthInfo := do
  let c ← deref client
  orFail c.login (.message "User not logged")

/-- `Close`, which calls `Closed` of the handler, and `delete`. -/
def closeAndDelete (client : ClientId) : Call Unit := do
  attempt (unRegisterInnerConnectionByHost client)
  delete client

/-! ### Going through the connections -/

/-- The first connection that is logged in with a device. -/
def findDevice (clients : ClientId → Option Client) (device : DeviceId) :
    List ClientId → Outcome Error (Option ClientId)
  | [] => .ok none
  | connection :: rest => match clients connection with
    | none => .abort
    | some c =>
      if c.login.any fun login => login.deviceId = device then .ok (some connection)
      else findDevice clients device rest

/-- All pointers of the map. -/
def allConnections (connections : Multimap UserId ClientId) : List ClientId :=
  connections.entries.flatMap fun e => e.2

/-- The objects that pointers point to. -/
def derefAll (clients : ClientId → Option Client) (l : List ClientId) :
    Outcome Error (List Client) :=
  l.mapM fun client => match clients client with
    | some c => .ok c
    | none => .abort

def getOnlineSubscribers (s : State) : Outcome Error (List FrontSubscriberInfo) := do
  let l ← derefAll s.clients (allConnections s.connections)
  pure (l.filterMap Client.makeFrontSubscriberInfo)

def getAndUpdateOnlineUserByStreamID (s : State) (sid : StreamId) : Outcome Error ℕ := do
  let l ← derefAll s.clients (allConnections s.connections)
  pure (l.countP fun c => c.currentStreamId = sid)

section

variable [Fastotv]

/-- The two implementations of `SendNotification`: an info that does not serialize is not sent, and
there are no notifications over HTTP. -/
def sendNotification (sur : Surroundings) (client : ClientId) (notify : NotifySubscriberInfo) :
    Call Unit := do
  let c ← deref client
  match c.kind with
  | .subscriber =>
    if notify.serialize.isSome then write sur client (.notification client notify)
    else fail .inval
  | .http => fail (.message "Send notification for http not supported")

def sendSubscriberNotification (sur : Surroundings) (uid : UserId) (device : DeviceId)
    (notify : NotifySubscriberInfo) : Call Unit := do
  match ← reads fun s => .ok (s.connections.lookup uid) with
  | none => fail (.message "Client not found")
  | some l =>
    match ← reads fun s => findDevice s.clients device l with
    | some connection => sendNotification sur connection notify
    | none => fail (.message "Device not found")

end

end LoadBalance
