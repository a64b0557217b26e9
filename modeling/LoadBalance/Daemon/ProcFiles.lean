import LoadBalance.Daemon.NodeStats
import LoadBalance.Library.Scanf

/-!
# The files under `/proc`

What `GetMachineCpuShot` and `GetMachineNetShot` of `daemon/commands_info/details/shots.cpp` make of
the texts of `/proc/stat` and `/proc/net/dev`: `fscanf` of the one, and `fgets` and `sscanf` of each
line of the other.

A variable for which `sscanf` has nothing keeps what happened to be in it, so this is an argument.
The name of an interface is taken to fit into its 128 bytes.
-/

namespace LoadBalance

/-- A string ends at the first zero. -/
def cString (s : List Char) : List Char := s.takeWhile fun c => c.toNat ≠ 0

/-- What the variables hold after the `sscanf` of one line: `r_bytes` is the first of its sixteen
numbers and `s_bytes` the ninth.  `interf` is empty before. -/
def scanNetLine (stale : UInt64 × UInt64) (line : List Char) : NetLine :=
  match scanWord (cString line) with
  | none => ⟨"", stale.1, stale.2⟩
  | some (interf, rest) =>
    let numbers := scanNumbers 16 16 rest
    ⟨String.ofList interf, numbers[0]?.getD stale.1, numbers[8]?.getD stale.2⟩

/-- The lines of `/proc/net/dev`, as they come to a buffer of 512 bytes.  The first two are not
looked at, here and in `scanNetLines`. -/
def scanNetDev (stale : ℕ → UInt64 × UInt64) (text : List Char) : List NetLine :=
  (fgetsLines 511 [] text).mapIdx fun pos line => scanNetLine (stale pos) line

/-- `CPU_FORMAT` on `/proc/stat`: a number of it has no width, so there is room for all of the
text. -/
def scanProcStat (text : List Char) : Option CpuTimes :=
  if text.take 3 = ['c', 'p', 'u'] then
    match scanNumbers text.length 4 (text.drop 3) with
    | [user, nice, system, idle] => some ⟨user, nice, system, idle⟩
    | _ => none
  else none

/-- The machine when its files have these texts. -/
def MachineSample.withFiles (m : MachineSample) (stale : ℕ → UInt64 × UInt64)
    (stat netDev : List Char) : MachineSample :=
  { m with procStat := scanProcStat stat, procNetDev := some (scanNetDev stale netDev) }

end LoadBalance
