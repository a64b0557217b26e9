import LoadBalance.Daemon.NodeStats
import LoadBalance.Library.Transition
import Mathlib.Algebra.Order.Field.Basic
import Mathlib.Tactic.Linarith
import Mathlib.Tactic.Positivity

/-!
# What the statistics of the node say

`MakeServiceStats` takes the differences of counters modulo `2 ^ 64` and divides them by a signed
number of seconds that is converted first.  What comes out is a rate exactly when the counter did
not go down, apart from chance (`rateRight_iff`); a load is between 0 and 100 exactly when the times
that it is made of go on as times do (`getCpuMachineLoad_le_iff_timesFit`).  What is kept from one
call to the next is the sample of the last one, so that a run is right throughout exactly when each
sample follows the one before it so (`statistics_right_iff`).  An interface that disappears, or a
reading of the times that fails, is enough for it not to be.
-/

namespace LoadBalance

/-! ### The clock -/

/-- The milliseconds between two readings of the clock, as a signed number of 64 bits holds them. -/
def elapsed (before now : Timestamp) : ℤ := (now.toInt - before.toInt).bmod (2 ^ 64)

/-- The number that divides: the whole seconds between two readings of the clock, of which none
count as one, and those of a clock that was set back modulo `2 ^ 64`. -/
def secondsDivisor (before now : Timestamp) : ℕ :=
  if (elapsed before now).natAbs < 1000 then 1
  else if 0 ≤ elapsed before now then (elapsed before now).natAbs / 1000
  else 2 ^ 64 - (elapsed before now).natAbs / 1000

/-- Cutting towards 0. -/
theorem tdiv_thousand (d : ℤ) :
    d.tdiv 1000 = if 0 ≤ d then ((d.natAbs / 1000 : ℕ) : ℤ) else -((d.natAbs / 1000 : ℕ) : ℤ) := by
  split_ifs with h
  · rw [Int.tdiv_eq_ediv_of_nonneg h]
    omega
  · have hneg : d = -(-d) := by omega
    rw [hneg, Int.neg_tdiv, Int.tdiv_eq_ediv_of_nonneg (by omega)]
    omega

theorem elapsed_bounds (before now : Timestamp) :
    -2 ^ 63 ≤ elapsed before now ∧ elapsed before now < 2 ^ 63 := by
  unfold elapsed
  have hle : -((2 ^ 64 : ℕ) / 2 : ℤ) ≤ (now.toInt - before.toInt).bmod (2 ^ 64) :=
    Int.le_bmod (by decide)
  have hlt : (now.toInt - before.toInt).bmod (2 ^ 64) < ((2 ^ 64 : ℕ) + 1) / 2 :=
    Int.bmod_lt (by decide)
  omega

/-- What a signed number of 64 bits is as an unsigned one. -/
theorem toNat_toUInt64 (x : Int64) : (x.toUInt64.toNat : ℤ) = x.toInt % 2 ^ 64 := by
  have hlt : x.toBitVec.toNat < 2 ^ 64 := x.toBitVec.isLt
  have hcond := BitVec.toInt_eq_toNat_cond x.toBitVec
  rw [Int64.toInt_toBitVec] at hcond
  change (x.toBitVec.toNat : ℤ) = _
  split at hcond <;> omega

/-- What the increase is divided by. -/
theorem toNat_tsDiff (before now : Timestamp) :
    (tsDiff before now).toUInt64.toNat = secondsDivisor before now := by
  have hbounds := elapsed_bounds before now
  have hdiff : ((now - before) / 1000).toInt = (elapsed before now).tdiv 1000 := by
    rw [Int64.toInt_div_of_ne_right _ _ (by decide), Int64.toInt_sub]
    rfl
  have hzero : (now - before) / 1000 = 0 ↔ (elapsed before now).natAbs < 1000 := by
    rw [← Int64.toInt_inj, hdiff, Int64.toInt_zero, tdiv_thousand]
    split_ifs <;> omega
  dsimp only [tsDiff, secondsDivisor]
  by_cases h : (now - before) / 1000 = 0
  · rw [if_pos h, if_pos (hzero.mp h)]
    rfl
  · rw [if_neg h, if_neg (mt hzero.mpr h)]
    have hnat := toNat_toUInt64 ((now - before) / 1000)
    rw [hdiff, tdiv_thousand] at hnat
    have hlarge := mt hzero.mpr h
    split_ifs at hnat ⊢ <;> omega

theorem secondsDivisor_pos (before now : Timestamp) : 0 < secondsDivisor before now := by
  have hbounds := elapsed_bounds before now
  unfold secondsDivisor
  split_ifs <;> omega

theorem secondsDivisor_of_le {before now : Timestamp} (hle : before ≤ now)
    (hfits : now.toInt - before.toInt < 2 ^ 63) :
    secondsDivisor before now = max 1 ((now.toInt - before.toInt).toNat / 1000) := by
  rw [Int64.le_iff_toInt_le] at hle
  have helapsed : elapsed before now = now.toInt - before.toInt :=
    Int.bmod_eq_of_le (by omega) (by omega)
  unfold secondsDivisor
  rw [helapsed]
  split_ifs <;> omega

/-- A difference of counters comes out modulo `2 ^ 64`. -/
theorem toNat_sub_eq (prev next : UInt64) :
    (next - prev).toNat = if prev ≤ next then next.toNat - prev.toNat
      else 2 ^ 64 - (prev.toNat - next.toNat) := by
  have hprev := prev.toNat_lt
  have hnext := next.toNat_lt
  rw [UInt64.toNat_sub]
  split_ifs with h <;> rw [UInt64.le_iff_toNat_le] at h <;> omega

/-! ### One rate -/

/-- A rate is at most the total, and it is the increase by the elapsed whole seconds (at least one)
when neither the total nor the clock went down. -/
structure RateRight (prev next : UInt64) (before now : Timestamp) (rate : UInt64) : Prop where
  atMost : rate ≤ next
  exact : prev ≤ next → before ≤ now →
    rate.toNat = (next.toNat - prev.toNat) / max 1 ((now.toInt - before.toInt).toNat / 1000)

/-- The seconds between two readings of the clock that are too far apart for 64 bits count less than
they are; this shows unless the increase is less than that. -/
def LeapHarmless (prev next : UInt64) (before now : Timestamp) : Prop :=
  2 ^ 63 ≤ now.toInt - before.toInt →
    next.toNat - prev.toNat <
      if now.toInt - before.toInt ≤ 2 ^ 64 - 1000
      then (now.toInt - before.toInt).toNat / 1000 else 1

/-- A total that did not go down, unless the clock leapt; one that did only when what comes of the
difference modulo `2 ^ 64` is small by chance. -/
def CounterFits (prev next : UInt64) (before now : Timestamp) : Prop :=
  if prev ≤ next then LeapHarmless prev next before now
  else 2 ^ 64 - (prev.toNat - next.toNat) < (next.toNat + 1) * secondsDivisor before now

section

variable {prev next : UInt64} {before now : Timestamp}

theorem toNat_bytesPerSecond (prev next : UInt64) (before now : Timestamp) :
    (bytesPerSecond (next - prev) (tsDiff before now)).toNat =
      (next - prev).toNat / secondsDivisor before now := by
  rw [bytesPerSecond, UInt64.toNat_div, toNat_tsDiff]

/-- The increase of a clock that leapt. -/
theorem div_secondsDivisor_eq_iff {n : ℕ} (hn : n < 2 ^ 64)
    (hleap : 2 ^ 63 ≤ now.toInt - before.toInt) :
    n / secondsDivisor before now = n / max 1 ((now.toInt - before.toInt).toNat / 1000) ↔
      n < if now.toInt - before.toInt ≤ 2 ^ 64 - 1000 then (now.toInt - before.toInt).toNat / 1000
        else 1 := by
  have hbefore := Int64.le_toInt before
  have hnow := Int64.toInt_lt now
  have helapsed : elapsed before now = now.toInt - before.toInt - 2 ^ 64 := by
    unfold elapsed
    rw [← Int.sub_bmod_right (now.toInt - before.toInt) (2 ^ 64)]
    exact Int.bmod_eq_of_le (by omega) (by omega)
  set seconds := (now.toInt - before.toInt).toNat / 1000 with hseconds
  have hmax : max 1 seconds = seconds := by omega
  rw [hmax]
  unfold secondsDivisor
  rw [helapsed]
  split_ifs with hsmall hle hsign hsign' <;> try omega
  · -- The seconds come out as none.
    rw [Nat.div_one]
    constructor
    · intro heq
      by_contra hpos
      have hlt : n / seconds < n := Nat.div_lt_self (by omega) (by omega)
      omega
    · intro hzero
      obtain rfl : n = 0 := by omega
      rw [Nat.zero_div]
  · set divisor := 2 ^ 64 - (now.toInt - before.toInt - 2 ^ 64).natAbs / 1000 with hdivisor
    constructor
    · intro heq
      by_contra hge
      have hone : 1 ≤ n / seconds := (Nat.one_le_div_iff (by omega)).mpr (by omega)
      have hge' : divisor ≤ n := (Nat.one_le_div_iff (by omega)).mp (heq ▸ hone)
      have htwo : n / divisor < 2 := Nat.div_lt_of_lt_mul (by omega)
      have hlarge : 2 ≤ n / seconds := (Nat.le_div_iff_mul_le (by omega)).mpr (by omega)
      omega
    · intro hlt
      rw [Nat.div_eq_of_lt hlt, Nat.div_eq_of_lt (by omega)]

/-- Exactly when the rate is right. -/
theorem rateRight_iff :
    RateRight prev next before now (bytesPerSecond (next - prev) (tsDiff before now)) ↔
      CounterFits prev next before now := by
  have hrate := toNat_bytesPerSecond prev next before now
  have hpos := secondsDivisor_pos before now
  have hsub := toNat_sub_eq prev next
  have hnext := next.toNat_lt
  unfold CounterFits
  by_cases hle : prev ≤ next
  · rw [if_pos hle]
    rw [if_pos hle] at hsub
    rw [hsub] at hrate
    have hatMost : bytesPerSecond (next - prev) (tsDiff before now) ≤ next := by
      rw [UInt64.le_iff_toNat_le, hrate]
      have hdiv := Nat.div_le_self (next.toNat - prev.toNat) (secondsDivisor before now)
      omega
    constructor
    · rintro ⟨-, hexact⟩ hleap
      have hclock : before ≤ now := by
        rw [Int64.le_iff_toInt_le]
        omega
      have heq := hexact hle hclock
      rw [hrate] at heq
      exact (div_secondsDivisor_eq_iff (by omega) hleap).mp heq
    · intro hleap
      refine ⟨hatMost, fun _ hclock => ?_⟩
      rw [hrate]
      by_cases hfits : now.toInt - before.toInt < 2 ^ 63
      · rw [secondsDivisor_of_le hclock hfits]
      · exact (div_secondsDivisor_eq_iff (by omega) (by omega)).mpr (hleap (by omega))
  · rw [if_neg hle]
    rw [if_neg hle] at hsub
    rw [hsub] at hrate
    rw [← Nat.div_lt_iff_lt_mul hpos, ← hrate, Nat.lt_succ_iff, ← UInt64.le_iff_toNat_le]
    exact ⟨RateRight.atMost, fun h => ⟨h, fun hle' => absurd hle' hle⟩⟩

end

/-! ### The load -/

/-- How often a counter went down. -/
def wentDown (prev next : UInt64) : ℕ := if next < prev then 1 else 0

/-- A difference and what it is taken from are the new counter, and `2 ^ 64` when it went down. -/
theorem toNat_sub_add (prev next : UInt64) :
    (next - prev).toNat + prev.toNat = next.toNat + wentDown prev next * 2 ^ 64 := by
  have hprev := prev.toNat_lt
  have hnext := next.toNat_lt
  rw [UInt64.toNat_sub, wentDown]
  by_cases hdown : next < prev
  · rw [if_pos hdown]
    rw [UInt64.lt_iff_toNat_lt] at hdown
    omega
  · rw [if_neg hdown]
    rw [UInt64.lt_iff_toNat_lt] at hdown
    omega

/-- The total of the times is what it was; or neither of the busy and the idle time went down; or
one of them did, and the total too.  The sums are those of 64 bits. -/
def TimesFit (prev next : CpuTimes) : Prop :=
  next.busy + next.idle = prev.busy + prev.idle ∨
    next.busy.toNat + next.idle.toNat +
        (wentDown prev.busy next.busy + wentDown prev.idle next.idle) * 2 ^ 64 <
      prev.busy.toNat + prev.idle.toNat + 2 ^ 64

/-- The quotient is at most 100 exactly when the part is at most the whole. -/
theorem getCpuMachineLoad_le_iff (prev next : CpuShot) :
    getCpuMachineLoad prev next ≤ 100 ↔ next.cpuLimit = prev.cpuLimit ∨
      (next.cpuUsage - prev.cpuUsage).toNat ≤ (next.cpuLimit - prev.cpuLimit).toNat := by
  unfold getCpuMachineLoad
  have hzero : ((next.cpuLimit - prev.cpuLimit).toNat : ℚ) = 0 ↔
      next.cpuLimit = prev.cpuLimit := by
    rw [Nat.cast_eq_zero, UInt64.toNat_sub, ← UInt64.toNat_inj]
    have hnext := next.cpuLimit.toNat_lt
    have hprev := prev.cpuLimit.toNat_lt
    omega
  dsimp only
  by_cases htotal : ((next.cpuLimit - prev.cpuLimit).toNat : ℚ) = 0
  · rw [if_pos htotal]
    exact iff_of_true (by norm_num) (Or.inl (hzero.mp htotal))
  · rw [if_neg htotal]
    have hpos : (0 : ℚ) < (next.cpuLimit - prev.cpuLimit).toNat :=
      lt_of_le_of_ne (Nat.cast_nonneg _) (Ne.symm htotal)
    rw [or_iff_right (mt hzero.mpr htotal)]
    have hquot : (next.cpuUsage - prev.cpuUsage).toNat / (next.cpuLimit - prev.cpuLimit).toNat * 100
        ≤ (100 : ℚ) ↔ ((next.cpuUsage - prev.cpuUsage).toNat : ℚ) /
          (next.cpuLimit - prev.cpuLimit).toNat ≤ 1 := by
      constructor <;> intro h <;> linarith
    rw [hquot, div_le_one hpos, Nat.cast_le]

theorem getCpuMachineLoad_nonneg (prev next : CpuShot) : 0 ≤ getCpuMachineLoad prev next := by
  unfold getCpuMachineLoad
  dsimp only
  split_ifs
  · exact le_refl 0
  · positivity

/-- A part is at most a sum modulo `2 ^ 64` exactly when the sum is less than that. -/
theorem le_add_mod_iff {part rest : ℕ} (hpart : part < 2 ^ 64) (hrest : rest < 2 ^ 64) :
    part ≤ (part + rest) % 2 ^ 64 ↔ part + rest < 2 ^ 64 := by omega

/-- Exactly when the load is one. -/
theorem getCpuMachineLoad_le_iff_timesFit (m m' : MachineSample) :
    getCpuMachineLoad (getMachineCpuShot m) (getMachineCpuShot m') ≤ 100 ↔
      TimesFit m.cpuTimes m'.cpuTimes := by
  rw [getCpuMachineLoad_le_iff]
  unfold TimesFit
  refine or_congr Iff.rfl ?_
  dsimp only [getMachineCpuShot]
  generalize m.cpuTimes.busy = busy
  generalize m.cpuTimes.idle = idle
  generalize m'.cpuTimes.busy = busy'
  generalize m'.cpuTimes.idle = idle'
  -- The whole is the busy and the idle part, modulo `2 ^ 64`.
  have hwhole : busy' + idle' - (busy + idle) = (busy' - busy) + (idle' - idle) := by grind
  rw [hwhole, UInt64.toNat_add, le_add_mod_iff (UInt64.toNat_lt _) (UInt64.toNat_lt _)]
  have hbusy := toNat_sub_add busy busy'
  have hidle := toNat_sub_add idle idle'
  omega

/-! ### The run -/

/-- What is told after a call says of the two totals and of the times what they did since the call
before. -/
structure StatisticsRight (m m' : MachineSample) (stat : MachineInfo) : Prop where
  recv : RateRight (getMachineNetShot m).bytesRecv (getMachineNetShot m').bytesRecv m.currentTime
    m'.currentTime stat.netBytesRecv
  send : RateRight (getMachineNetShot m).bytesSend (getMachineNetShot m').bytesSend m.currentTime
    m'.currentTime stat.netBytesSend
  load : 0 ≤ stat.cpuLoad ∧ stat.cpuLoad ≤ 100

/-- One sample follows another so that the differences modulo `2 ^ 64` do not show. -/
structure SampleFits (m m' : MachineSample) : Prop where
  recv : CounterFits (getMachineNetShot m).bytesRecv (getMachineNetShot m').bytesRecv m.currentTime
    m'.currentTime
  send : CounterFits (getMachineNetShot m).bytesSend (getMachineNetShot m').bytesSend m.currentTime
    m'.currentTime
  times : TimesFit m.cpuTimes m'.cpuTimes

/-- The sample of the last call, before the first one that of the beginning. -/
def lastSample (start : MachineSample) (calls : List StatsCall) : MachineSample :=
  (calls.getLast?.map StatsCall.sample).getD start

section

variable {OS : Type} [MachineInfos MachineInfo OS] [Fastotv]

/-- The text does not show in what is kept. -/
theorem makeServiceStats_snd (jsonText : JsonObject → String) (httpHost : HostAndPort)
    (call : StatsCall) (nodeStats : NodeStats) :
    (makeServiceStats OS jsonText httpHost call nodeStats).2 = statsStep nodeStats call := rfl

end

/-- A call keeps its own sample, whatever was kept. -/
theorem statsStep_eq (nodeStats : NodeStats) (call : StatsCall) :
    statsStep nodeStats call = NodeStats.ofSample call.sample := rfl

theorem run_statsStep (start : MachineSample) (calls : List StatsCall) :
    run statsStep (NodeStats.ofSample start) calls =
      NodeStats.ofSample (lastSample start calls) := by
  rcases List.eq_nil_or_concat calls with rfl | ⟨before, call, rfl⟩
  · rfl
  · rw [List.concat_eq_append, run_concat, statsStep_eq, lastSample, List.getLast?_concat]
    rfl

/-- Exactly when one call is right. -/
theorem statisticsRight_iff (m : MachineSample) (call : StatsCall) :
    StatisticsRight m call.sample (serviceStat call (NodeStats.ofSample m)).1.machine ↔
      SampleFits m call.sample := by
  constructor
  · rintro ⟨hrecv, hsend, -, hload⟩
    exact ⟨rateRight_iff.mp hrecv, rateRight_iff.mp hsend,
      (getCpuMachineLoad_le_iff_timesFit m call.sample).mp hload⟩
  · rintro ⟨hrecv, hsend, htimes⟩
    exact ⟨rateRight_iff.mpr hrecv, rateRight_iff.mpr hsend, getCpuMachineLoad_nonneg _ _,
      (getCpuMachineLoad_le_iff_timesFit m call.sample).mpr htimes⟩

/-- The statistics are right at every call of a run exactly when each sample of the run follows the
one before it so that no difference shows that it is one modulo `2 ^ 64`. -/
theorem statistics_right_iff (start : MachineSample) (calls : List StatsCall) :
    (∀ before call after, calls = before ++ call :: after →
      StatisticsRight (lastSample start before) call.sample
        (serviceStat call (run statsStep (NodeStats.ofSample start) before)).1.machine) ↔
    ∀ before call after, calls = before ++ call :: after →
      SampleFits (lastSample start before) call.sample := by
  constructor
  · intro h before call after hcalls
    have hright := h before call after hcalls
    rw [run_statsStep] at hright
    exact (statisticsRight_iff _ call).mp hright
  · intro h before call after hcalls
    rw [run_statsStep]
    exact (statisticsRight_iff _ call).mpr (h before call after hcalls)

namespace Sample

/-- A machine that has been up for an hour, with these interfaces. -/
def machine (currentTime : Timestamp) (interfaces : List NetLine) : MachineSample where
  procStat := some ⟨100, 0, 50, 850⟩
  procNetDev := some (⟨"Inter-|", 0, 0⟩ :: ⟨"face", 0, 0⟩ :: interfaces)
  physicalMemory := some 8000000000
  availablePhysicalMemory := some 4000000000
  totalDiskSpace := some 100000000000
  freeDiskSpace := some 50000000000
  sysinfo := some ⟨(0, 0, 0), 3600⟩
  currentTime := currentTime
  httpClients := 0
  subscribersClients := 0

end Sample

open Sample in
/-- An interface disappears within ten seconds: what was received since is more than was ever. -/
theorem rate_above_total :
    ¬ ∀ (start : MachineSample) (calls before : List StatsCall) (call : StatsCall)
      (after : List StatsCall), calls = before ++ call :: after →
      StatisticsRight (lastSample start before) call.sample
        (serviceStat call (run statsStep (NodeStats.ofSample start) before)).1.machine := by
  intro h
  have hright := h (machine 1600000000000 [⟨"eth0:", 1000, 500⟩, ⟨"wlan0:", 5000, 2000⟩])
    [⟨0, [], machine 1600000010000 [⟨"eth0:", 1100, 600⟩]⟩] []
    ⟨0, [], machine 1600000010000 [⟨"eth0:", 1100, 600⟩]⟩ [] rfl
  exact absurd hright.recv.atMost (by decide +kernel)

end LoadBalance
