import Lvmm.Device.CmosDevice

/-!
# The real-time clock as a guest reads it

A guest selects and reads the eight clock registers and decodes them as the
MC146818 prescribes in the mode which status register B announces: 24 hours,
binary-coded decimal, weekdays from 1 for Sunday and months from 1.  The device
encodes `tm_mon` and `tm_wday`, which count from 0, without an offset.
-/

namespace Lvmm.Device.CmosClock

open Lvmm.Device.CmosDevice

/-- What `localtime_r` leaves in the fields, for the years 1900 to 9999. -/
structure HostTime (now : Tm) : Prop where
  sec : 0 ≤ now.tmSec ∧ now.tmSec ≤ 60
  min : 0 ≤ now.tmMin ∧ now.tmMin ≤ 59
  hour : 0 ≤ now.tmHour ∧ now.tmHour ≤ 23
  mday : 1 ≤ now.tmMday ∧ now.tmMday ≤ 31
  mon : 0 ≤ now.tmMon ∧ now.tmMon ≤ 11
  year : 0 ≤ now.tmYear ∧ now.tmYear ≤ 8099
  wday : 0 ≤ now.tmWday ∧ now.tmWday ≤ 6

/-- A date and time with months and weekdays from 1 and the full year. -/
structure DateTime where
  second : Int
  minute : Int
  hour : Int
  weekday : Int
  day : Int
  month : Int
  year : Int
deriving DecidableEq

/-- The date and time which a `struct tm` stands for. -/
def hostDateTime (now : Tm) : DateTime where
  second := now.tmSec
  minute := now.tmMin
  hour := now.tmHour
  weekday := now.tmWday + 1
  day := now.tmMday
  month := now.tmMon + 1
  year := now.tmYear + 1900

/-! ## The guest's side -/

/-- Select a register, then read it. -/
def readRegister (register : UInt8) (cmos : Cmos) (now : Tm) :
    Option (UInt8 × Cmos) :=
  match cmos.write pioPortCmosIndex register 1 with
  | .outOfBounds => none
  | .returned _ _ selecting =>
      match selecting.read now pioPortCmosData 0 1 with
      | .outOfBounds => none
      | .returned _ byte next => some (byte, next)

/-- The bytes of the clock registers. -/
structure ClockBytes where
  seconds : UInt8
  minutes : UInt8
  hours : UInt8
  weekday : UInt8
  day : UInt8
  month : UInt8
  year : UInt8
  century : UInt8
deriving DecidableEq

/-- Read all eight clock registers. -/
def readClock (cmos : Cmos) (now : Tm) : Option (ClockBytes × Cmos) := do
  let (seconds, cmos) ← readRegister cmosRegSec cmos now
  let (minutes, cmos) ← readRegister cmosRegMin cmos now
  let (hours, cmos) ← readRegister cmosRegHour cmos now
  let (weekday, cmos) ← readRegister cmosRegWeekd cmos now
  let (day, cmos) ← readRegister cmosRegMday cmos now
  let (month, cmos) ← readRegister cmosRegMonth cmos now
  let (year, cmos) ← readRegister cmosRegYear cmos now
  let (century, cmos) ← readRegister cmosRegCentury cmos now
  return ({ seconds, minutes, hours, weekday, day, month, year, century },
    cmos)

/-- The value of a binary-coded decimal byte. -/
def bcdValue (byte : UInt8) : Int :=
  10 * (byte >>> 4).toNat + (byte &&& 0x0F).toNat

/-- The date and time which an MC146818 reports with these bytes. -/
def ClockBytes.decode (bytes : ClockBytes) : DateTime where
  second := bcdValue bytes.seconds
  minute := bcdValue bytes.minutes
  hour := bcdValue bytes.hours
  weekday := bcdValue bytes.weekday
  day := bcdValue bytes.day
  month := bcdValue bytes.month
  year := 100 * bcdValue bytes.century + bcdValue bytes.year

/-- Reading and decoding the clock gives the host's date and time. -/
def TellsTime (cmos : Cmos) (now : Tm) : Prop :=
  (readClock cmos now).map (·.1.decode) = some (hostDateTime now)

/-! ## What the device answers -/

/-- Selecting and reading a synthesised register returns its byte. -/
theorem readRegister_of_synthesised
    (register : UInt8) {byte : UInt8} {now : Tm}
    (masked : register &&& cmosIndexMask = register)
    (fixed : synthesised register now = some byte) (cmos : Cmos) :
    readRegister register cmos now = some (byte, cmos.resetIndex) := by
  simp [readRegister, Cmos.write, Cmos.read, masked, fixed, data_ne_index,
    Cmos.resetIndex]

/-- The bytes which the device synthesises for the clock registers. -/
def clockBytes (now : Tm) : ClockBytes where
  seconds := binToBcd (.ofInt now.tmSec)
  minutes := binToBcd (.ofInt now.tmMin)
  hours := binToBcd (.ofInt now.tmHour)
  weekday := binToBcd (.ofInt now.tmWday)
  day := binToBcd (.ofInt now.tmMday)
  month := binToBcd (.ofInt now.tmMon)
  year := binToBcd (.ofInt (now.tmYear.tmod 100))
  century := binToBcd (.ofInt ((now.tmYear + 1900).tdiv 100))

theorem readClock_eq (cmos : Cmos) (now : Tm) :
    readClock cmos now = some (clockBytes now, cmos.resetIndex) := by
  simp only [readClock,
    readRegister_of_synthesised cmosRegSec (by decide) rfl,
    readRegister_of_synthesised cmosRegMin (by decide) rfl,
    readRegister_of_synthesised cmosRegHour (by decide) rfl,
    readRegister_of_synthesised cmosRegWeekd (by decide) rfl,
    readRegister_of_synthesised cmosRegMday (by decide) rfl,
    readRegister_of_synthesised cmosRegMonth (by decide) rfl,
    readRegister_of_synthesised cmosRegYear (by decide) rfl,
    readRegister_of_synthesised cmosRegCentury (by decide) rfl]
  rfl

/-- Status register B announces 24 hours and binary-coded decimal. -/
theorem readRegister_statB (cmos : Cmos) (now : Tm) :
    readRegister cmosRegStatB cmos now =
      some (cmosRegStatB24h, cmos.resetIndex) :=
  readRegister_of_synthesised cmosRegStatB (by decide) rfl cmos

/-! ## Decoding -/

theorem bcdValue_binToBcd_ofNat :
    ∀ value < 100, bcdValue (binToBcd (.ofNat value)) = value := by
  decide

/-- Values up to 99 survive the encoding. -/
theorem bcdValue_binToBcd
    {value : Int} (nonneg : 0 ≤ value) (small : value ≤ 99) :
    bcdValue (binToBcd (.ofInt value)) = value := by
  rcases Int.eq_ofNat_of_zero_le nonneg with ⟨count, rfl⟩
  have same : UInt8.ofInt (count : Int) = UInt8.ofNat count := by
    unfold UInt8.ofInt
    congr 1
    omega
  rw [same]
  exact bcdValue_binToBcd_ofNat count (by omega)

/-- The two halves of the year are recombined exactly. -/
theorem century_year
    {year : Int} (nonneg : 0 ≤ year) (late : year ≤ 8099) :
    100 * bcdValue (binToBcd (.ofInt ((year + 1900).tdiv 100))) +
        bcdValue (binToBcd (.ofInt (year.tmod 100))) =
      year + 1900 := by
  have century : (year + 1900).tdiv 100 = (year + 1900) / 100 :=
    Int.tdiv_eq_ediv_of_nonneg (by omega)
  have rest : year.tmod 100 = year % 100 :=
    Int.tmod_eq_emod_of_nonneg nonneg
  rw [century, rest, bcdValue_binToBcd (by omega) (by omega),
    bcdValue_binToBcd (by omega) (by omega)]
  omega

/--
Every register decodes to the host's time, except that the month and the weekday
are one less than the guest takes them for.
-/
theorem decode_clockBytes {now : Tm} (host : HostTime now) :
    (clockBytes now).decode =
      { hostDateTime now with
        weekday := (hostDateTime now).weekday - 1
        month := (hostDateTime now).month - 1 } := by
  rcases host with ⟨sec, min, hour, mday, mon, year, wday⟩
  simp only [ClockBytes.decode, clockBytes, hostDateTime,
    century_year year.1 year.2, DateTime.mk.injEq, and_true]
  refine ⟨?_, ?_, ?_, ?_, ?_, ?_⟩
  all_goals
    rw [bcdValue_binToBcd (by omega) (by omega)]
  all_goals omega

/-- No host time is told: its month is always wrong. -/
theorem not_tellsTime
    {now : Tm} (host : HostTime now) (cmos : Cmos) :
    ¬ TellsTime cmos now := by
  intro tells
  rw [TellsTime, readClock_eq, Option.map_some, decode_clockBytes host,
    Option.some.injEq] at tells
  have month := congrArg DateTime.month tells
  simp only at month
  omega

theorem newYear_host : HostTime ⟨0, 0, 0, 1, 0, 123, 0⟩ := by
  constructor <;> decide

/-- Midnight of Sunday, January 1st 2023 is read as a day of month 0. -/
theorem not_tellsTime_newYear :
    ¬ TellsTime (.construct 0) ⟨0, 0, 0, 1, 0, 123, 0⟩ :=
  not_tellsTime newYear_host (.construct 0)

/-- The clock does not tell every host time. -/
theorem not_always_tellsTime :
    ¬ ∀ (now : Tm) (cmos : Cmos), HostTime now → TellsTime cmos now := by
  intro claimed
  have tells := claimed ⟨0, 0, 0, 1, 0, 123, 0⟩ (.construct 0) newYear_host
  rw [TellsTime, readClock_eq] at tells
  exact absurd tells (by decide)

end Lvmm.Device.CmosClock
