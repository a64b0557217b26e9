import LoadBalance.Daemon.ServerInfo
import LoadBalance.Daemon.Service
import Mathlib.Algebra.Order.Field.Rat

/-!
# Statistics of the node

`daemon/commands_info/details/shots.cpp`, as it is built on Linux, and
`ProcessSlaveWrapper::MakeServiceStats`: what the machine counts is sampled at every call, and told
as what it grew by since the call before, which `node_stats_` keeps.  The timer of the daemon's loop
and the reply to an activation call it, the one with 0 for the expiration time.

What the files and the system calls give is an argument, and a load is the exact quotient.
-/

namespace LoadBalance

/-! ### Shots -/

structure CpuShot where
  cpuUsage : UInt64
  cpuLimit : UInt64
deriving DecidableEq, Repr

structure MemoryShot where
  ramBytesTotal : UInt64
  ramBytesFree : UInt64
deriving DecidableEq, Repr

structure HddShot where
  hddBytesTotal : UInt64
  hddBytesFree : UInt64
deriving DecidableEq, Repr

structure NetShot where
  bytesRecv : UInt64
  bytesSend : UInt64
deriving DecidableEq, Repr

structure SysinfoShot where
  loads : UInt64 × UInt64 × UInt64
  uptime : Int64
deriving DecidableEq, Repr

/-- The numbers after `cpu` in `/proc/stat`. -/
structure CpuTimes where
  user : UInt64
  nice : UInt64
  system : UInt64
  idle : UInt64
deriving DecidableEq, Repr

/-- A line of `/proc/net/dev`: what the variables hold after its `sscanf`. -/
structure NetLine where
  interf : String
  rBytes : UInt64
  sBytes : UInt64
deriving DecidableEq, Repr

/-- What the machine gives at one call, and how many clients the other two handlers count. -/
structure MachineSample where
  /-- `fscanf` of `/proc/stat`, which is there: nothing when it does not give four numbers. -/
  procStat : Option CpuTimes
  /-- The lines of `/proc/net/dev`, nothing when it does not open. -/
  procNetDev : Option (List NetLine)
  physicalMemory : Option UInt64
  availablePhysicalMemory : Option UInt64
  totalDiskSpace : Option UInt64
  freeDiskSpace : Option UInt64
  /-- `sysinfo`, nothing when it fails. -/
  sysinfo : Option SysinfoShot
  /-- `current_utc_mstime`. -/
  currentTime : Timestamp
  httpClients : UInt64
  subscribersClients : UInt64
deriving DecidableEq, Repr

/-- The difference of two counters is taken before it is converted. -/
def getCpuMachineLoad (prev next : CpuShot) : ℚ :=
  let total : ℚ := (next.cpuLimit - prev.cpuLimit).toNat
  if total = 0 then 0
  else
    let busy : ℚ := (next.cpuUsage - prev.cpuUsage).toNat
    busy / total * 100

/-- The times that `GetMachineCpuShot` sums up: without four numbers all of them are 0. -/
def MachineSample.cpuTimes (m : MachineSample) : CpuTimes := m.procStat.getD ⟨0, 0, 0, 0⟩

def CpuTimes.busy (times : CpuTimes) : UInt64 := times.user + times.nice + times.system

def getMachineCpuShot (m : MachineSample) : CpuShot :=
  let busy := m.cpuTimes.busy
  let total := busy + m.cpuTimes.idle
  ⟨busy, total⟩

def getMachineMemoryShot (m : MachineSample) : MemoryShot :=
  ⟨m.physicalMemory.getD 0, m.availablePhysicalMemory.getD 0⟩

def getMachineHddShot (m : MachineSample) : HddShot :=
  ⟨m.totalDiskSpace.getD 0, m.freeDiskSpace.getD 0⟩

/-- The loop over the lines: the first two are headers, an interface whose name begins with `lo`
does not count. -/
def scanNetLines (shot : NetShot) (pos : ℕ) : List NetLine → NetShot
  | [] => shot
  | line :: rest =>
    let shot := if 1 < pos ∧ line.interf.toList.take 2 ≠ ['l', 'o'] then
        ⟨shot.bytesRecv + line.rBytes, shot.bytesSend + line.sBytes⟩
      else shot
    scanNetLines shot (pos + 1) rest

def getMachineNetShot (m : MachineSample) : NetShot := match m.procNetDev with
  | none => ⟨0, 0⟩
  | some lines => scanNetLines ⟨0, 0⟩ 0 lines

def getMachineSysinfoShot (m : MachineSample) : SysinfoShot := m.sysinfo.getD ⟨(0, 0, 0), 0⟩

/-! ### `MakeServiceStats` -/

/-- `fastotv::commands_info::MachineInfo`: what it is made with. -/
structure MachineInfo where
  cpuLoad : ℚ
  gpuLoad : ℚ
  loadAverage : String
  ramBytesTotal : UInt64
  ramBytesFree : UInt64
  hddBytesTotal : UInt64
  hddBytesFree : UInt64
  netBytesRecv : UInt64
  netBytesSend : UInt64
  uptime : Int64
  timestamp : Timestamp
  netTotalBytesRecv : UInt64
  netTotalBytesSend : UInt64
deriving DecidableEq, Repr

/-- `ProcessSlaveWrapper::NodeStats`. -/
structure NodeStats where
  prev : CpuShot
  prevNshot : NetShot
  timestamp : Timestamp
deriving DecidableEq, Repr

/-- What is kept of a sample, as `Exec` does before the loop of the daemon begins and
`MakeServiceStats` at every call. -/
def NodeStats.ofSample (m : MachineSample) : NodeStats where
  prev := getMachineCpuShot m
  prevNshot := getMachineNetShot m
  timestamp := m.currentTime

/-- `ts_diff`: whole seconds, cut towards 0, of which none count as one. -/
def tsDiff (timestamp currentTime : Timestamp) : Int64 :=
  let diff := (currentTime - timestamp) / 1000
  if diff = 0 then 1 else diff

/-- The quotient of an unsigned and a signed number of 64 bits is an unsigned one. -/
def bytesPerSecond (bytes : UInt64) (diff : Int64) : UInt64 := bytes / diff.toUInt64

/-- One call of `MakeServiceStats`: the expiration time that it is given, the connections of the
daemon's loop, and what the machine gives. -/
structure StatsCall where
  expirationTime : Timestamp
  clients : List DaemonConnection
  sample : MachineSample

/-- The clients of the daemon that were verified. -/
def StatsCall.daemonsClientCount (call : StatsCall) : ℕ :=
  (call.clients.filter DaemonConnection.verified).length

/-- `MakeServiceStats` up to the info that it makes. -/
def serviceStat (call : StatsCall) (nodeStats : NodeStats) : ServerInfo MachineInfo × NodeStats :=
  let m := call.sample
  let next := getMachineCpuShot m
  let cpuLoad := getCpuMachineLoad nodeStats.prev next
  let nextNshot := getMachineNetShot m
  let bytesRecv := nextNshot.bytesRecv - nodeStats.prevNshot.bytesRecv
  let bytesSend := nextNshot.bytesSend - nodeStats.prevNshot.bytesSend
  let memShot := getMachineMemoryShot m
  let hddShot := getMachineHddShot m
  let sshot := getMachineSysinfoShot m
  let uptimeStr := toString sshot.loads.1 ++ " " ++ toString sshot.loads.2.1 ++ " " ++
    toString sshot.loads.2.2
  let diff := tsDiff nodeStats.timestamp m.currentTime
  let online : OnlineUsers :=
    ⟨UInt64.ofNat call.daemonsClientCount, m.httpClients, m.subscribersClients⟩
  let stat : MachineInfo :=
    { cpuLoad := cpuLoad
      gpuLoad := 0
      loadAverage := uptimeStr
      ramBytesTotal := memShot.ramBytesTotal
      ramBytesFree := memShot.ramBytesFree
      hddBytesTotal := hddShot.hddBytesTotal
      hddBytesFree := hddShot.hddBytesFree
      netBytesRecv := bytesPerSecond bytesRecv diff
      netBytesSend := bytesPerSecond bytesSend diff
      uptime := sshot.uptime
      timestamp := m.currentTime
      netTotalBytesRecv := nextNshot.bytesRecv
      netTotalBytesSend := nextNshot.bytesSend }
  (⟨stat, online⟩, ⟨next, nextNshot, m.currentTime⟩)

section

variable {OS : Type} [MachineInfos MachineInfo OS] [Fastotv]

variable (OS) in
/-- `MakeServiceStats`: the text of the info, with the service around it when there is an expiration
time, and what is kept.  Of an info that does not serialize there is no text.  How an object is
written as a text is an argument. -/
def makeServiceStats (jsonText : JsonObject → String) (httpHost : HostAndPort) (call : StatsCall)
    (nodeStats : NodeStats) : String × NodeStats :=
  let (stat, nodeStats) := serviceStat call nodeStats
  let fstat : FullServiceInfo MachineInfo OS :=
    { toServerInfo := stat
      httpHost := httpHost
      expTime := call.expirationTime
      project := MachineInfos.projectName MachineInfo OS
      projVer := MachineInfos.projectVersion MachineInfo OS
      os := MachineInfos.makeOSSnapshot MachineInfo }
  let serialized :=
    if call.expirationTime ≠ 0 then fstat.serialize else stat.serializeFields OS []
  ((serialized.map jsonText).getD "", nodeStats)

end

/-- What is kept after a call. -/
def statsStep (nodeStats : NodeStats) (call : StatsCall) : NodeStats :=
  (serviceStat call nodeStats).2

end LoadBalance
