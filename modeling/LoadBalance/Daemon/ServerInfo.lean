import LoadBalance.Daemon.CommandsInfo

/-!
# What the service tells of itself

`daemon/commands_info/server_info.cpp`: the number of connections, the state of the machine, and
the whole that a client of the daemon gets when it is activated.  The two classes of the libraries
that are part of it, of the machine and of the operating system, are parameters.

The local variables and members that the decoders do not initialize are an argument of theirs.
-/

namespace LoadBalance

def onlineUsersField := "online_users"
def osField := "os"
def versionField := "version"
def projectField := "project"
def httpHostField := "http_host"
def expirationTimeField := "expiration_time"
def onlineUsersDaemonField := "daemon"
def onlineUsersHttpField := "http"
def onlineUsersSubscribersField := "subscribers"

/-- `fastotv::commands_info::MachineInfo` and `OperationSystemInfo`, and the constants of the
build. -/
class MachineInfos (Machine OS : Type) where
  /-- `MachineInfo::SerializeFields`, nothing for an error. -/
  machineSerializeFields : Machine → JsonObject → Option JsonObject
  /-- `MachineInfo::DoDeSerialize`, nothing for an error. -/
  machineDoDeSerialize : JsonObject → Option Machine
  /-- `OperationSystemInfo::MakeOSSnapshot`. -/
  makeOSSnapshot : OS
  osSerialize : OS → Option JsonObject
  osDeSerialize : JsonObject → Option OS
  /-- `PROJECT_NAME_LOWERCASE`. -/
  projectName : String
  /-- `PROJECT_VERSION_HUMAN`. -/
  projectVersion : String

/-- What the uninitialized locals and members hold before a decoder is called. -/
structure UninitInfo where
  daemon : UInt64
  http : UInt64
  subscribers : UInt64
  expTime : Int64

/-! ### `OnlineUsers` -/

structure OnlineUsers where
  daemon : UInt64
  http : UInt64
  subscribers : UInt64
deriving DecidableEq, Repr

def OnlineUsers.serialize (users : OnlineUsers) : JsonObject :=
  let o : JsonObject := JsonObject.set [] onlineUsersDaemonField (.int users.daemon.toInt64)
  let o := o.set onlineUsersHttpField (.int users.http.toInt64)
  o.set onlineUsersSubscribersField (.int users.subscribers.toInt64)

/-- `OnlineUsers::DoDeSerialize`: a local whose field is not there keeps what it held. -/
def OnlineUsers.deSerialize (uninit : UninitInfo) (serialized : JsonObject) : OnlineUsers where
  daemon := (serialized.getUInt onlineUsersDaemonField).getD uninit.daemon
  http := (serialized.getUInt onlineUsersHttpField).getD uninit.http
  subscribers := (serialized.getUInt onlineUsersSubscribersField).getD uninit.subscribers

/-! ### `ServerInfo` -/

variable {Machine OS : Type}

structure ServerInfo (Machine : Type) where
  machine : Machine
  onlineUsers : OnlineUsers

/-- `FullServiceInfo`. -/
structure FullServiceInfo (Machine OS : Type) extends ServerInfo Machine where
  httpHost : HostAndPort
  expTime : Int64
  project : String
  projVer : String
  os : OS

section

variable (OS) [MachineInfos Machine OS]

def ServerInfo.serializeFields (info : ServerInfo Machine) (out : JsonObject) :
    Option JsonObject := do
  let out ← MachineInfos.machineSerializeFields OS info.machine out
  pure (out.set onlineUsersField (.object info.onlineUsers.serialize))

/-- `ServerInfo::DoDeSerialize`: without the object the users are those of `OnlineUsers()`. -/
def ServerInfo.deSerialize (uninit : UninitInfo) (serialized : JsonObject) :
    Option (ServerInfo Machine) := do
  let machine ← MachineInfos.machineDoDeSerialize OS serialized
  pure
    { machine := machine
      onlineUsers := match serialized.getObject onlineUsersField with
        | some jonline => OnlineUsers.deSerialize uninit jonline
        | none => ⟨0, 0, 0⟩ }

end

/-! ### `FullServiceInfo` -/

namespace FullServiceInfo

variable [MachineInfos Machine OS]

/-- `FullServiceInfo::SerializeFields`, into a new object: the base part comes last. -/
def serialize [Fastotv] (info : FullServiceInfo Machine OS) : Option JsonObject := do
  let jos ← MachineInfos.osSerialize Machine info.os
  let o : JsonObject := JsonObject.set [] httpHostField (.string (Fastotv.hostText info.httpHost))
  let o := o.set expirationTimeField (.int info.expTime)
  let o := o.set projectField (.string info.project)
  let o := o.set versionField (.string info.projVer)
  let o := o.set osField (.object jos)
  info.toServerInfo.serializeFields OS o

variable (Machine) in
/-- The operating system of an object: without one it is the own. -/
def readOS (serialized : JsonObject) : Option OS :=
  match serialized.getObject osField with
  | some jos => MachineInfos.osDeSerialize Machine jos
  | none => some (MachineInfos.makeOSSnapshot Machine)

/-- `FullServiceInfo::DoDeSerialize`, on a new info, whose expiration time is not initialized.  A
text that is no host is ignored. -/
def deSerialize [HostTexts] (uninit : UninitInfo) (serialized : JsonObject) :
    Option (FullServiceInfo Machine OS) := do
  let server ← ServerInfo.deSerialize OS uninit serialized
  let os ← readOS Machine serialized
  pure
    { toServerInfo := server
      httpHost := ((serialized.getString httpHostField).bind HostTexts.hostOf).getD
        HostTexts.hostAndPort
      expTime := (serialized.getInt expirationTimeField).getD uninit.expTime
      project := (serialized.getString projectField).getD (MachineInfos.projectName Machine OS)
      projVer := (serialized.getString versionField).getD (MachineInfos.projectVersion Machine OS)
      os := os }

end FullServiceInfo

end LoadBalance
