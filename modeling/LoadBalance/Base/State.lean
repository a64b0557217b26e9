import LoadBalance.Daemon.NotifySubscriberInfo
import LoadBalance.Library.Multimap
import LoadBalance.Mongo.Catchup

/-!
# The state of the balancer

The objects of the open connections, the map of logged in connections of the manager, the database,
and what was sent so far.  An object is deleted while pointers to it may still be around, and a
new one can come to the same address: `clients` tells what is at an address, and reading through a
pointer to a deleted object is the end of the process.
-/

namespace LoadBalance

open LoadBalance.Action

/-- The address of the object of a connection. -/
abbrev ClientId := ℕ

/-- The two classes of connections that subscribers come with. -/
inductive ClientKind where
  | subscriber
  | http
deriving DecidableEq, Repr

/-- `SubscriberInfo`, with the class of the object. -/
structure Client where
  kind : ClientKind
  login : Option ServerDBAuthInfo
  currentStreamId : StreamId
deriving DecidableEq, Repr

/-- What the daemon is told of a login. -/
structure FrontSubscriberInfo where
  uid : UserId
  login : String
  deviceId : DeviceId
  expiredDate : Timestamp
deriving DecidableEq, Repr

def FrontSubscriberInfo.isValid (info : FrontSubscriberInfo) : Bool :=
  info.login ≠ "" && info.uid ≠ "" && info.deviceId ≠ "" && info.expiredDate ≠ 0

def Client.makeFrontSubscriberInfo (client : Client) : Option FrontSubscriberInfo :=
  client.login.map fun login => ⟨login.uid, login.login, login.deviceId, login.expiredDate⟩

/-! ### What is sent -/

/-- The id of a request, nothing for a notification. -/
abbrev RequestId := Option String

/-- The replies to a subscriber's requests. -/
inductive Reply where
  | activateDeviceSuccess (devices : List DeviceInfo)
  | activateDeviceFail (err : Error)
  | loginSuccess (info : ServerDBAuthInfo)
  | loginFail (err : Error)
  | checkLoginFail (err : Error)
  | pong
  | getServerInfoSuccess (epgUrl : Gurl) (lockedText : String)
  | getChannelsSuccess (catalogue : Catalogue)
  | getChannelsFail (err : Error)
  | getRuntimeChannelInfoSuccess (sid : StreamId) (watchers : ℕ)
  | getFavoriteInfoSuccess
  | getRecentInfoSuccess
  | getInterruptStreamTimeInfoSuccess
  | catchupGenerateSuccess (cat : CatchupInfo)
  | catchupGenerateFail (err : Error)
  | catchupUndoSuccess
  | catchupUndoFail (err : Error)
  | contentRequestSuccess
  | contentRequestFail (err : Error)
deriving DecidableEq, Repr

inductive HttpStatus where
  | ok
  | permanentRedirect
  | badRequest
  | forbidden
  | notFound
  /-- The status that the parser gives to a text that is no request. -/
  | unparsed (code : ℕ)
deriving DecidableEq, Repr

/-- The parts of the responses to HTTP requests. -/
inductive HttpResponse where
  | error (status : HttpStatus) (err : Error) (keepAlive : Bool)
  | redirect (location : String) (keepAlive : Bool)
  | headers (mime : String) (size : ℕ) (mtime : ℕ) (keepAlive : Bool)
  | file (path : String) (size : ℕ)
deriving DecidableEq, Repr

/-- What is posted to the loop of the daemon for all its clients. -/
inductive Broadcast where
  | subscriberConnected (info : FrontSubscriberInfo)
  | subscriberDisConnected (info : FrontSubscriberInfo)
  | catchupCreated (serverid : String) (cat : CatchupInfo)
  | contentRequestCreated (request : ContentRequestInfo)
deriving DecidableEq, Repr

/-- The snapshot of who is online. -/
structure StateInfo where
  onlineClients : List FrontSubscriberInfo
deriving DecidableEq, Repr

/-- The replies to a daemon client's requests. -/
inductive DaemonReply where
  | stopSuccess
  | pong
  | activateSuccess (stats : String)
  | activateFail (err : Error)
  | prepareServiceSuccess (state : StateInfo)
  | syncServiceSuccess
  | getLogServiceSuccess
  | getLogServiceFail (err : Error)
  | sendSubscriberMessageSuccess
  | sendSubscriberMessageFail (err : Error)
deriving DecidableEq, Repr

/-- What is done that shows: what is sent, or posted to be sent, and the files that are opened and
closed.  A notification is the request whose parameters the info serializes to. -/
inductive Output where
  | reply (client : ClientId) (id : RequestId) (reply : Reply)
  | response (client : ClientId) (response : HttpResponse)
  | notification (client : ClientId) (notify : NotifySubscriberInfo)
  | broadcast (broadcast : Broadcast)
  | daemonReply (dclient : ClientId) (id : RequestId) (reply : DaemonReply)
  /-- `open`, on behalf of a connection, of the file with this path. -/
  | opened (client : ClientId) (path : String)
  /-- `close` of its descriptor. -/
  | closed (client : ClientId) (path : String)
deriving DecidableEq, Repr

/-! ### The state -/

structure State where
  /-- The objects, by address. -/
  clients : ClientId → Option Client
  /-- `connections_`. -/
  connections : Multimap UserId ClientId
  db : Database
  /-- `catchup_endpoint_`. -/
  catchupEndpoint : CatchupEndpointInfo
  /-- What the handler of the subscribers was made with. -/
  epgUrl : Gurl
  lockedText : String
  /-- Everything that was sent, opened or closed, the latest at the end. -/
  sent : List Output

/-- The surroundings of one request: those of its database calls, and the sockets. -/
structure Surroundings extends Env where
  /-- A write to the socket of the connection succeeds. -/
  sends : ClientId → Bool

/-- A call of the balancer. -/
abbrev Call (α : Type) := Action State Error α

/-- A call of the database. -/
def database {α : Type} (x : Action Database Error α) : Call α :=
  zoom State.db (fun s db => { s with db := db }) x

/-- Reading through a pointer. -/
def deref (client : ClientId) : Call Client :=
  reads fun s => match s.clients client with
    | some c => .ok c
    | none => .abort

/-- Writing through a pointer. -/
def assign (client : ClientId) (f : Client → Client) : Call Unit := do
  let c ← deref client
  modify fun s => { s with clients := Function.update s.clients client (some (f c)) }

/-- `delete client`. -/
def delete (client : ClientId) : Call Unit :=
  modify fun s => { s with clients := Function.update s.clients client none }

/-- Something is sent, or posted to a loop. -/
def send (o : Output) : Call Unit := modify fun s => { s with sent := s.sent ++ [o] }

/-- A write to the socket of a connection. -/
def write (sur : Surroundings) (client : ClientId) (o : Output) : Call Unit :=
  if sur.sends client then send o else fail .socket

def reply (sur : Surroundings) (client : ClientId) (id : RequestId) (r : Reply) : Call Unit :=
  write sur client (.reply client id r)

end LoadBalance
