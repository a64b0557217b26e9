import LoadBalance.System

/-!
# The daemon

`process_slave_wrapper.cpp`: the loop of the daemon, with the connections of its clients and the
dispatchers of their requests and responses.  What the other two loops post for it, the broadcasts,
it writes to its clients later; what its clients ask for, it does to the state that all share.
-/

namespace LoadBalance

open LoadBalance.Action

/-- What comes from the library: the expiry time that is in a license key, whether a host is the
local one, and whether a URL is one to upload to. -/
class License where
  expireTimeFromKey : String → Option Timestamp
  isLocalHost : HostAndPort → Bool
  schemeIsHttpOrHttps : Gurl → Bool

/-! ### Connections -/

def daemonServerPing := "ping_client"

/-- `ProtocoledDaemonClient`: the peer, whether it was verified and until when, and the table of the
requests to it that wait for a response, with their methods by their ids. -/
structure DaemonConnection where
  host : HostAndPort
  verified : Bool
  expTime : Timestamp
  requests : AList fun _ : String => String
deriving DecidableEq

/-- The requests that the daemon itself makes. -/
inductive DaemonNotice where
  | ping (id : String)
  | statistic (stats : String)
  | posted (b : Broadcast)
deriving DecidableEq, Repr

/-- What goes out of the daemon's loop other than replies. -/
inductive DaemonOutput where
  | request (dclient : ClientId) (notice : DaemonNotice)
  | upload (url : Gurl)
deriving DecidableEq, Repr

/-- `ProcessSlaveWrapper`. -/
structure Service extends State where
  /-- `config_.license_key`. -/
  licenseKey : Option String
  dclients : AList fun _ : ClientId => DaemonConnection
  /-- How many of the broadcasts that were posted have been run. -/
  delivered : ℕ
  written : List DaemonOutput
  /-- `StopImpl` was called. -/
  stopped : Bool

/-- A call of the daemon's loop. -/
abbrev ServiceCall (α : Type) := Action Service Error α

/-- The surroundings of one request of a client: the text of the statistics, with an expiry time,
and what comes of an upload. -/
structure DaemonSurroundings extends Surroundings where
  stats : Timestamp → String
  upload : Except Error Unit

/-- What is done to the state that the loops share. -/
def shared {α : Type} (x : Call α) : ServiceCall α :=
  zoom Service.toState (fun s b => { s with toState := b }) x

/-- `Close` and `delete`. -/
def closeDaemon (dclient : ClientId) : ServiceCall Unit :=
  modify fun s => { s with dclients := s.dclients.erase dclient }

/-- A change of the object of a connection. -/
def assignDaemon (dclient : ClientId) (f : DaemonConnection → DaemonConnection) :
    ServiceCall Unit :=
  modify fun s => match s.dclients.lookup dclient with
    | some conn => { s with dclients := s.dclients.replace dclient (f conn) }
    | none => s

/-- Something is written that is no reply. -/
def emit (o : DaemonOutput) : ServiceCall Unit :=
  modify fun s => { s with written := s.written ++ [o] }

def stopImpl : ServiceCall Unit := modify fun s => { s with stopped := true }

/-! ### Requests and responses -/

inductive DaemonCommand where
  | stopService (params : Params Unit)
  | pingService (params : Params Unit)
  /-- The license may be absent in the info. -/
  | activate (params : Params (Option String))
  | prepareService (params : Params PrepareInfo)
  | syncService (params : Params Unit)
  | getLogService (params : Params Gurl)
  | sendMessage (params : Option JsonObject)
  | unknown

structure DaemonRequest where
  id : RequestId
  command : DaemonCommand

/-- What is read from a connection. -/
inductive DaemonInput where
  | readError
  | unparsed
  | request (req : DaemonRequest)
  | response (id : RequestId)

section

variable [License]

def handleRequestClientStopService (sur : DaemonSurroundings) (dclient : ClientId)
    (conn : DaemonConnection) (id : RequestId) (params : Params Unit) : ServiceCall Unit :=
  if !conn.verified && !License.isLocalHost conn.host then fail .inval
  else match params with
    | .absent => fail .inval
    | .refused err => fail err
    | .decoded _ => do
      let err ← result (shared (daemonReply sur.toSurroundings dclient id .stopSuccess))
      stopImpl
      match err with
      | .error err => fail err
      | .ok () => pure ()

/-- The expiry time is read from the key that was sent, which is the configured one; a key that is
absent on both sides is read as well. -/
def Service.handleRequestClientActivate (sur : DaemonSurroundings) (dclient : ClientId)
    (id : RequestId) (params : Params (Option String)) : ServiceCall Unit :=
  let activateFail (err : Error) : ServiceCall Unit := do
    attempt (shared (daemonReply sur.toSurroundings dclient id (.activateFail err)))
    fail err
  match params with
  | .absent => fail .inval
  | .refused err => activateFail err
  | .decoded expireKey => do
    let licenseKey ← reads fun s => .ok s.licenseKey
    if expireKey ≠ licenseKey then activateFail (.message "Config not same activation key")
    else match expireKey with
      | none => lift .abort
      | some key => match License.expireTimeFromKey key with
        | none => activateFail (.message "Invalid expire key")
        | some tm => do
          shared (daemonReply sur.toSurroundings dclient id (.activateSuccess (sur.stats tm)))
          assignDaemon dclient fun conn => { conn with verified := true, expTime := tm }

def handleRequestClientGetLogService (sur : DaemonSurroundings) (dclient : ClientId)
    (conn : DaemonConnection) (id : RequestId) (params : Params Gurl) : ServiceCall Unit :=
  let getLogFail (err : Error) : ServiceCall Unit := do
    attempt (shared (daemonReply sur.toSurroundings dclient id (.getLogServiceFail err)))
    fail err
  if !conn.verified then fail .inval
  else match params with
    | .absent => fail .inval
    | .refused err => getLogFail err
    | .decoded remoteLogPath =>
      if !License.schemeIsHttpOrHttps remoteLogPath then
        getLogFail (.message "Not supported protocol")
      else do
        emit (.upload remoteLogPath)
        match sur.upload with
        | .error err => getLogFail err
        | .ok () => shared (daemonReply sur.toSurroundings dclient id .getLogServiceSuccess)

section

variable [Fastotv]

def handleRequestServiceCommand (sur : DaemonSurroundings) (dclient : ClientId)
    (conn : DaemonConnection) (req : DaemonRequest) : ServiceCall Unit :=
  match req.command with
  | .stopService params => handleRequestClientStopService sur dclient conn req.id params
  | .pingService params => shared
    (handleRequestClientPingService sur.toSurroundings ⟨dclient, conn.verified⟩ req.id params)
  | .activate params => Service.handleRequestClientActivate sur dclient req.id params
  | .prepareService params => shared
    (handleRequestClientPrepareService sur.toSurroundings ⟨dclient, conn.verified⟩ req.id params)
  | .syncService params => shared
    (handleRequestClientSyncService sur.toSurroundings ⟨dclient, conn.verified⟩ req.id params)
  | .getLogService params => handleRequestClientGetLogService sur dclient conn req.id params
  | .sendMessage params => shared (handleRequestClientSendMessageForSubscriber sur.toSurroundings
    ⟨dclient, conn.verified⟩ req.id params)
  | .unknown => pure ()

end

omit [License] in
/-- The request that a response is for is taken out; nothing else depends on the response.  The id
of a response that is for none is shown in the log, where it is read also when it is absent. -/
def handleResponceServiceCommand (dclient : ClientId) (conn : DaemonConnection) (id : RequestId) :
    ServiceCall Unit :=
  if !conn.verified then fail .inval
  else match id with
    | none => lift .abort
    | some sid => assignDaemon dclient fun conn =>
      { conn with requests := conn.requests.erase sid }

variable [Fastotv]

/-- `DataReceived`: what a handler returns is only logged, what cannot be read ends the
connection. -/
def daemonDataReceived (sur : DaemonSurroundings) (dclient : ClientId) (conn : DaemonConnection)
    (input : DaemonInput) : ServiceCall Unit :=
  match input with
  | .readError => closeDaemon dclient
  | .unparsed => closeDaemon dclient
  | .request req => attempt (handleRequestServiceCommand sur dclient conn req)
  | .response id => attempt (handleResponceServiceCommand dclient conn id)

end

/-! ### The loop -/

/-- `BroadcastClients`. -/
def broadcastClients (sur : Surroundings) (notice : DaemonNotice) : ServiceCall Unit :=
  modify fun s => { s with
    written := s.written ++ (s.dclients.entries.filter fun e =>
      e.2.verified && sur.sends e.1).map fun e => .request e.1 notice }

/-- A client that was verified is pinged, and closed when this does not succeed. -/
def pingClient (sur : Surroundings) (ids : ClientId → String) (dclient : ClientId) :
    ServiceCall Unit := do
  match ← reads fun s => .ok (s.dclients.lookup dclient) with
  | some conn =>
    if conn.verified then
      if sur.sends dclient then
        emit (.request dclient (.ping (ids dclient)))
        assignDaemon dclient fun conn =>
          { conn with requests := conn.requests.insert (ids dclient) daemonServerPing }
      else closeDaemon dclient
    else pure ()
  | none => pure ()

/-- The loop of the ping timer. -/
def pingClients (sur : Surroundings) (ids : ClientId → String) :
    List ClientId → ServiceCall Unit
  | [] => pure ()
  | dclient :: rest => do
    pingClient sur ids dclient
    pingClients sur ids rest

/-- `CheckLicenseExpired`. -/
def checkLicenseExpired [License] (now : Timestamp) : ServiceCall Unit := do
  match ← reads fun s => .ok s.licenseKey with
  | none => stopImpl
  | some license => match License.expireTimeFromKey license with
    | none => stopImpl
    | some tm => if tm < now then stopImpl else pure ()

/-- An event of the loops of the subscribers and of HTTP. -/
def Event.OfOtherLoop : Event → Prop
  | .sendMessage .. => False
  | _ => True

inductive ServiceEvent where
  /-- Something happens in another loop. -/
  | other (e : Event) (he : e.OfOtherLoop)
  | accept (dclient : ClientId) (host : HostAndPort)
  | received (dclient : ClientId) (sur : DaemonSurroundings) (input : DaemonInput)
  | close (dclient : ClientId)
  | pingTimer (sur : Surroundings) (ids : ClientId → String)
  | statsTimer (sur : Surroundings) (stats : String)
  | licenseTimer (now : Timestamp)
  /-- The next one of the broadcasts that were posted is run. -/
  | posted (sur : Surroundings)

/-- The broadcasts that were posted, in their order. -/
def State.broadcasts (s : State) : List Broadcast :=
  s.sent.filterMap fun o => match o with
    | .broadcast b => some b
    | _ => none

section

variable [Fastotv] [License]

def ServiceEvent.action (e : ServiceEvent) : ServiceCall Unit := do
  let s ← reads fun s => .ok s
  match e with
  | .other e _ => shared e.action
  | .accept dclient host =>
    if s.dclients.lookup dclient = none then
      modify fun s => { s with dclients := s.dclients.insert dclient ⟨host, false, 0, ∅⟩ }
    else pure ()
  | .received dclient sur input => match s.dclients.lookup dclient with
    | some conn => daemonDataReceived sur dclient conn input
    | none => pure ()
  | .close dclient => closeDaemon dclient
  | .pingTimer sur ids => pingClients sur ids s.dclients.keys
  | .statsTimer sur stats => broadcastClients sur (.statistic stats)
  | .licenseTimer now => checkLicenseExpired now
  | .posted sur => match s.broadcasts[s.delivered]? with
    | some b => do
      broadcastClients sur (.posted b)
      modify fun s => { s with delivered := s.delivered + 1 }
    | none => pure ()

/-- The service after an event, nothing when the process is gone. -/
def serviceStep (s : Option Service) (e : ServiceEvent) : Option Service := do
  let s ← s
  match (e.action).run s with
  | (.abort, _) => none
  | (_, s') => some s'

end

/-- Before the first client of the daemon. -/
def Service.initial (s : State) (licenseKey : Option String) : Service where
  toState := s
  licenseKey := licenseKey
  dclients := ∅
  delivered := s.broadcasts.length
  written := []
  stopped := false

end LoadBalance
