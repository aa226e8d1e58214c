import Mathlib.Algebra.Order.Archimedean.Real.Basic
import Lvmm.Device.CmosClock

/-!
# Reading the time of day while the host's clock runs

Every access to a clock register samples the host's clock anew, and status
register A reports at any time that no update is in progress.  The hours, minutes
and seconds which a guest reads one after another may therefore come from
different instants of the host.
-/

namespace Lvmm.Device.CmosSampling

open Lvmm.Device.CmosDevice
open Lvmm.Device.CmosClock

/-! ## The host's clock -/

/--
`std::chrono::system_clock` in whole seconds at every instant, counted in
microseconds, and what `localtime_r` makes of them.
-/
structure HostClock where
  seconds : ℝ → Int
  nondecreasing : ∀ earlier later,
    earlier ≤ later → seconds earlier ≤ seconds later
  localtimeR : Int → Tm
  sec : ∀ time, 0 ≤ (localtimeR time).tmSec ∧ (localtimeR time).tmSec ≤ 60
  min : ∀ time, 0 ≤ (localtimeR time).tmMin ∧ (localtimeR time).tmMin ≤ 59
  hour : ∀ time, 0 ≤ (localtimeR time).tmHour ∧ (localtimeR time).tmHour ≤ 23

/-- `nowtm` at an instant. -/
def HostClock.now (clock : HostClock) (instant : ℝ) : Tm :=
  clock.localtimeR (clock.seconds instant)

structure TimeOfDay where
  hour : Int
  minute : Int
  second : Int
deriving DecidableEq

/-- The host's time of day at an instant. -/
def HostClock.timeOfDay (clock : HostClock) (instant : ℝ) : TimeOfDay where
  hour := (clock.now instant).tmHour
  minute := (clock.now instant).tmMin
  second := (clock.now instant).tmSec

/-! ## The guest's accesses -/

/--
The instants at which status register A, the seconds, the minutes and the hours
are read: all within the time for which a clear bit promises stability.
-/
structure ReadInstants where
  statA : ℝ
  seconds : ℝ
  minutes : ℝ
  hours : ℝ
  statA_le : statA ≤ seconds
  seconds_le : seconds ≤ minutes
  minutes_le : minutes ≤ hours
  within : hours - statA ≤ 244

/-- The four bytes read. -/
structure TimeBytes where
  statA : UInt8
  seconds : UInt8
  minutes : UInt8
  hours : UInt8
deriving DecidableEq

/-- Read status register A, then the seconds, the minutes and the hours. -/
def readTime (clock : HostClock) (instants : ReadInstants) (cmos : Cmos) :
    Option (TimeBytes × Cmos) := do
  let (statA, cmos) ←
    readRegister cmosRegStatA cmos (clock.now instants.statA)
  let (seconds, cmos) ←
    readRegister cmosRegSec cmos (clock.now instants.seconds)
  let (minutes, cmos) ←
    readRegister cmosRegMin cmos (clock.now instants.minutes)
  let (hours, cmos) ←
    readRegister cmosRegHour cmos (clock.now instants.hours)
  return ({ statA, seconds, minutes, hours }, cmos)

/-- The update-in-progress bit of status register A is clear. -/
def TimeBytes.Stable (bytes : TimeBytes) : Prop :=
  bytes.statA &&& 0x80 = 0

/-- The time of day assembled from the bytes. -/
def TimeBytes.assemble (bytes : TimeBytes) : TimeOfDay where
  hour := bcdValue bytes.hours
  minute := bcdValue bytes.minutes
  second := bcdValue bytes.seconds

/--
If the clock reads as stable, the assembled time is the host's time of day at an
instant between the first and the last read of the time.
-/
def Untorn
    (clock : HostClock) (instants : ReadInstants) (cmos : Cmos) : Prop :=
  ∃ bytes next, readTime clock instants cmos = some (bytes, next) ∧
    (bytes.Stable →
      ∃ instant, instants.seconds ≤ instant ∧ instant ≤ instants.hours ∧
        bytes.assemble = clock.timeOfDay instant)

/-! ## What is assembled -/

/-- The bytes which the device synthesises at the four instants. -/
def timeBytes (clock : HostClock) (instants : ReadInstants) : TimeBytes where
  statA :=
    cmosRegStatAAvl ||| cmosRegStatADv1 ||| cmosRegStatARs2 |||
      cmosRegStatARs1
  seconds := binToBcd (.ofInt (clock.now instants.seconds).tmSec)
  minutes := binToBcd (.ofInt (clock.now instants.minutes).tmMin)
  hours := binToBcd (.ofInt (clock.now instants.hours).tmHour)

theorem readTime_eq
    (clock : HostClock) (instants : ReadInstants) (cmos : Cmos) :
    readTime clock instants cmos =
      some (timeBytes clock instants, cmos.resetIndex) := by
  simp only [readTime,
    readRegister_of_synthesised cmosRegStatA (by decide) rfl,
    readRegister_of_synthesised cmosRegSec (by decide) rfl,
    readRegister_of_synthesised cmosRegMin (by decide) rfl,
    readRegister_of_synthesised cmosRegHour (by decide) rfl]
  rfl

/-- The device always promises that no update is near. -/
theorem timeBytes_stable (clock : HostClock) (instants : ReadInstants) :
    (timeBytes clock instants).Stable := by
  change (cmosRegStatAAvl ||| cmosRegStatADv1 ||| cmosRegStatARs2 |||
    cmosRegStatARs1) &&& 0x80 = 0
  decide

/-- Each field comes from the instant of its own read. -/
theorem assemble_timeBytes
    (clock : HostClock) (instants : ReadInstants) :
    (timeBytes clock instants).assemble =
      { hour := (clock.timeOfDay instants.hours).hour
        minute := (clock.timeOfDay instants.minutes).minute
        second := (clock.timeOfDay instants.seconds).second } := by
  have sec := clock.sec (clock.seconds instants.seconds)
  have min := clock.min (clock.seconds instants.minutes)
  have hour := clock.hour (clock.seconds instants.hours)
  rw [TimeBytes.assemble, TimeOfDay.mk.injEq]
  refine ⟨?_, ?_, ?_⟩
  · exact bcdValue_binToBcd hour.1 (hour.2.trans (by decide))
  · exact bcdValue_binToBcd min.1 (min.2.trans (by decide))
  · exact bcdValue_binToBcd sec.1 (sec.2.trans (by decide))

theorem untorn_iff
    (clock : HostClock) (instants : ReadInstants) (cmos : Cmos) :
    Untorn clock instants cmos ↔
      ∃ instant, instants.seconds ≤ instant ∧ instant ≤ instants.hours ∧
        (timeBytes clock instants).assemble = clock.timeOfDay instant := by
  constructor
  · rintro ⟨bytes, next, read, stable⟩
    rw [readTime_eq, Option.some.injEq, Prod.mk.injEq] at read
    rcases read with ⟨rfl, -⟩
    exact stable (timeBytes_stable clock instants)
  · intro found
    exact ⟨_, _, readTime_eq clock instants cmos, fun _ => found⟩

/-! ## Rollovers -/

/--
Neither the minute rolls over before it is read, nor the hour before it is.
-/
structure NoRollover (clock : HostClock) (instants : ReadInstants) : Prop where
  minute :
    (clock.timeOfDay instants.minutes).minute =
      (clock.timeOfDay instants.seconds).minute
  hour :
    (clock.timeOfDay instants.hours).hour =
      (clock.timeOfDay instants.seconds).hour

/--
Between the reads the host's zone is a constant number of seconds ahead of UTC
and has no leap second.
-/
def KeepsOffset
    (clock : HostClock) (instants : ReadInstants) (offset : Int) : Prop :=
  ∀ time, clock.seconds instants.seconds ≤ time →
    time ≤ clock.seconds instants.hours →
      (clock.localtimeR time).tmSec < 60 ∧
        3600 * (clock.localtimeR time).tmHour +
            60 * (clock.localtimeR time).tmMin +
            (clock.localtimeR time).tmSec =
          (time + offset) % 86400

/-- Without a rollover the time is that of the first read. -/
theorem untorn_of_noRollover
    {clock : HostClock} {instants : ReadInstants}
    (noRollover : NoRollover clock instants) (cmos : Cmos) :
    Untorn clock instants cmos := by
  rw [untorn_iff]
  refine ⟨instants.seconds, le_rfl,
    instants.seconds_le.trans instants.minutes_le, ?_⟩
  rw [assemble_timeBytes, noRollover.minute, noRollover.hour]

/-- Within less than a minute, a second does not come round. -/
theorem seconds_eq_of_second_eq
    {clock : HostClock} {instants : ReadInstants} {offset : Int}
    (keeps : KeepsOffset clock instants offset)
    (short :
      clock.seconds instants.hours < clock.seconds instants.seconds + 60)
    {instant : ℝ}
    (after : instants.seconds ≤ instant) (before : instant ≤ instants.hours)
    (same :
      (clock.timeOfDay instants.seconds).second =
        (clock.timeOfDay instant).second) :
    clock.seconds instant = clock.seconds instants.seconds := by
  have lower := clock.nondecreasing _ _ after
  have upper := clock.nondecreasing _ _ before
  have start := keeps _ le_rfl (lower.trans upper)
  have found := keeps _ lower upper
  have startSec := clock.sec (clock.seconds instants.seconds)
  simp only [HostClock.timeOfDay, HostClock.now] at same
  omega

theorem noRollover_of_untorn
    {clock : HostClock} {instants : ReadInstants} {offset : Int}
    (keeps : KeepsOffset clock instants offset)
    (short :
      clock.seconds instants.hours < clock.seconds instants.seconds + 60)
    {cmos : Cmos} (untorn : Untorn clock instants cmos) :
    NoRollover clock instants := by
  rw [untorn_iff] at untorn
  rcases untorn with ⟨instant, after, before, assembled⟩
  rw [assemble_timeBytes] at assembled
  have second := congrArg TimeOfDay.second assembled
  have same := seconds_eq_of_second_eq keeps short after before second
  have first :
      clock.timeOfDay instant = clock.timeOfDay instants.seconds := by
    simp only [HostClock.timeOfDay, HostClock.now, same]
  rw [first] at assembled
  have minute := congrArg TimeOfDay.minute assembled
  have hour := congrArg TimeOfDay.hour assembled
  exact ⟨minute, hour⟩

/-! ## A running clock -/

/-- `localtime_r` in UTC on January 1st 1970, a Thursday. -/
def utcFirstDay (time : Int) : Tm where
  tmSec := time % 60
  tmMin := time / 60 % 60
  tmHour := time / 3600 % 24
  tmMday := 1
  tmMon := 0
  tmYear := 70
  tmWday := 4

/-- A host whose clock counts the microseconds since the epoch. -/
noncomputable def epochClock : HostClock where
  seconds instant := ⌊instant / 1000000⌋
  nondecreasing earlier later ordered :=
    Int.floor_mono (div_le_div_of_nonneg_right ordered (by norm_num))
  localtimeR := utcFirstDay
  sec time := by
    simp only [utcFirstDay]
    omega
  min time := by
    simp only [utcFirstDay]
    omega
  hour time := by
    simp only [utcFirstDay]
    omega

theorem epochClock_keepsOffset (instants : ReadInstants) :
    KeepsOffset epochClock instants 0 := by
  intro time after before
  simp only [epochClock, utcFirstDay]
  omega

/-- Reads from half past midnight on, 50 microseconds apart. -/
noncomputable def quietReads : ReadInstants where
  statA := 1800000000
  seconds := 1800000050
  minutes := 1800000100
  hours := 1800000150
  statA_le := by norm_num
  seconds_le := by norm_num
  minutes_le := by norm_num
  within := by norm_num

/-- Reads of which the second and the third follow the end of the first hour. -/
noncomputable def rolloverReads : ReadInstants where
  statA := 3599999900
  seconds := 3599999950
  minutes := 3600000000
  hours := 3600000050
  statA_le := by norm_num
  seconds_le := by norm_num
  minutes_le := by norm_num
  within := by norm_num

theorem epochClock_seconds
    {instant : ℝ} {time : Int}
    (after : (time : ℝ) * 1000000 ≤ instant)
    (before : instant < (time + 1) * 1000000) :
    epochClock.seconds instant = time := by
  change ⌊instant / 1000000⌋ = time
  rw [Int.floor_eq_iff, le_div_iff₀ (by norm_num),
    div_lt_iff₀ (by norm_num)]
  exact ⟨after, before⟩

theorem quietReads_noRollover : NoRollover epochClock quietReads := by
  have seconds : epochClock.seconds quietReads.seconds = 1800 :=
    epochClock_seconds (by norm_num [quietReads]) (by norm_num [quietReads])
  have minutes : epochClock.seconds quietReads.minutes = 1800 :=
    epochClock_seconds (by norm_num [quietReads]) (by norm_num [quietReads])
  have hours : epochClock.seconds quietReads.hours = 1800 :=
    epochClock_seconds (by norm_num [quietReads]) (by norm_num [quietReads])
  constructor
  · simp only [HostClock.timeOfDay, HostClock.now, minutes, seconds]
  · simp only [HostClock.timeOfDay, HostClock.now, hours, seconds]

theorem rolloverReads_seconds :
    epochClock.seconds rolloverReads.seconds = 3599 :=
  epochClock_seconds (by norm_num [rolloverReads])
    (by norm_num [rolloverReads])

theorem rolloverReads_short :
    epochClock.seconds rolloverReads.hours <
      epochClock.seconds rolloverReads.seconds + 60 := by
  have hours : epochClock.seconds rolloverReads.hours = 3600 :=
    epochClock_seconds (by norm_num [rolloverReads])
      (by norm_num [rolloverReads])
  rw [rolloverReads_seconds, hours]
  decide

theorem rolloverReads_rollover :
    ¬ NoRollover epochClock rolloverReads := by
  have minutes : epochClock.seconds rolloverReads.minutes = 3600 :=
    epochClock_seconds (by norm_num [rolloverReads])
      (by norm_num [rolloverReads])
  rintro ⟨minute, -⟩
  simp only [HostClock.timeOfDay, HostClock.now, minutes,
    rolloverReads_seconds] at minute
  exact absurd minute (by decide)

/-! ## Torn reads -/

/--
The time of day is not torn where neither the minute nor the hour rolls over
before it is read; for a clock which advances by less than a minute over the
reads, only there.
-/
theorem untorn_unless_rollover
    (clock : HostClock) (instants : ReadInstants) (cmos : Cmos) :
    (NoRollover clock instants → Untorn clock instants cmos) ∧
      ∀ offset, KeepsOffset clock instants offset →
        clock.seconds instants.hours <
            clock.seconds instants.seconds + 60 →
          (Untorn clock instants cmos ↔ NoRollover clock instants) := by
  refine ⟨fun noRollover => untorn_of_noRollover noRollover cmos, ?_⟩
  intro offset keeps short
  exact ⟨noRollover_of_untorn keeps short,
    fun noRollover => untorn_of_noRollover noRollover cmos⟩

/-- Half past midnight is read untorn, one o'clock is not. -/
theorem untorn_unless_rollover_epoch :
    Untorn epochClock quietReads (.construct 0) ∧
      ¬ Untorn epochClock rolloverReads (.construct 0) := by
  refine ⟨?_, ?_⟩
  · exact (untorn_unless_rollover epochClock quietReads (.construct 0)).1
      quietReads_noRollover
  · intro untorn
    have only :=
      (untorn_unless_rollover epochClock rolloverReads (.construct 0)).2 0
        (epochClock_keepsOffset rolloverReads) rolloverReads_short
    exact rolloverReads_rollover (only.mp untorn)

/-- Around one o'clock the guest reads 01:00:59. -/
theorem torn_at_rollover :
    ¬ ∀ (clock : HostClock) (instants : ReadInstants) (cmos : Cmos),
      Untorn clock instants cmos := by
  intro claimed
  exact rolloverReads_rollover
    (noRollover_of_untorn (epochClock_keepsOffset rolloverReads)
      rolloverReads_short
      (claimed epochClock rolloverReads (.construct 0)))

end Lvmm.Device.CmosSampling
