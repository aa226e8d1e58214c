import Mathlib.Data.Int.Basic

/-!
# The CMOS RAM and real-time clock

`CMOS::Read` and `CMOS::Write` as functions of the index byte, the data array,
the byte at `*data_ptr` and the host's local time.  The constructor leaves the
index byte unset, so a data access may find an index outside the array; nothing
is known after such an access.
-/

namespace Lvmm.Device.CmosDevice

def pioPortCmosStart : UInt16 := 0x70
def pioPortCmosSize : UInt8 := 0x2
def pioPortCmosIndex : UInt16 := pioPortCmosStart
def pioPortCmosData : UInt16 := pioPortCmosStart + 1

def cmosIndexMask : UInt8 := 0b01111111
def cmosMemSize : Nat := 128

def cmosRegSec : UInt8 := 0x00
def cmosRegMin : UInt8 := 0x02
def cmosRegHour : UInt8 := 0x04
def cmosRegWeekd : UInt8 := 0x06
def cmosRegMday : UInt8 := 0x07
def cmosRegMonth : UInt8 := 0x08
def cmosRegYear : UInt8 := 0x09
def cmosRegStatA : UInt8 := 0x0A
def cmosRegStatB : UInt8 := 0x0B
def cmosRegStatC : UInt8 := 0x0C
def cmosRegStatD : UInt8 := 0x0D
def cmosRegShutdown : UInt8 := 0x0F
def cmosRegCentury : UInt8 := 0x32

def cmosRegStatAAvl : UInt8 := .ofNat (0 <<< 7)
def cmosRegStatADv1 : UInt8 := .ofNat (0b010 <<< 4)
def cmosRegStatARs2 : UInt8 := .ofNat (1 <<< 2)
def cmosRegStatARs1 : UInt8 := .ofNat (1 <<< 1)
def cmosRegStatB24h : UInt8 := .ofNat (1 <<< 1)
def cmosRegStatDVrb : UInt8 := .ofNat (1 <<< 7)

def cmosDtMax : UInt8 := 99

/-- `bin_to_bcd`, whose result always fits the byte it is stored to. -/
def binToBcd (bin : UInt8) : UInt8 :=
  if bin > cmosDtMax then 1 else ((bin / 10) <<< 4) ||| (bin % 10)

/-- The fields of `struct tm` which the device reads. -/
structure Tm where
  tmSec : Int
  tmMin : Int
  tmHour : Int
  tmMday : Int
  tmMon : Int
  tmYear : Int
  tmWday : Int
deriving DecidableEq

structure Cmos where
  index : UInt8
  data : Fin cmosMemSize → UInt8

/-- A constructed device: zeroed data, and whatever the index byte held. -/
def Cmos.construct (index : UInt8) : Cmos :=
  { index, data := fun _ => 0 }

/-- The byte a data read synthesises, for the registers which have a case. -/
def synthesised (index : UInt8) (now : Tm) : Option UInt8 :=
  if index = cmosRegSec then some (binToBcd (.ofInt now.tmSec))
  else if index = cmosRegMin then some (binToBcd (.ofInt now.tmMin))
  else if index = cmosRegHour then some (binToBcd (.ofInt now.tmHour))
  else if index = cmosRegWeekd then some (binToBcd (.ofInt now.tmWday))
  else if index = cmosRegMday then some (binToBcd (.ofInt now.tmMday))
  else if index = cmosRegMonth then some (binToBcd (.ofInt now.tmMon))
  else if index = cmosRegYear then
    some (binToBcd (.ofInt (now.tmYear.tmod 100)))
  else if index = cmosRegStatA then
    some (cmosRegStatAAvl ||| cmosRegStatADv1 ||| cmosRegStatARs2 |||
      cmosRegStatARs1)
  else if index = cmosRegStatB then some cmosRegStatB24h
  else if index = cmosRegStatC then some 0
  else if index = cmosRegStatD then some cmosRegStatDVrb
  else if index = cmosRegCentury then
    some (binToBcd (.ofInt ((now.tmYear + 1900).tdiv 100)))
  else none

/--
What an access did.  `outOfBounds` is an evaluation of `data[index]` with the
index outside the array.
-/
inductive CmosRun where
  | returned (result : Int) (cell : UInt8) (cmos : Cmos)
  | outOfBounds

namespace Cmos

/-- `data[index]`. -/
def dataAt (cmos : Cmos) : Option UInt8 :=
  if inside : cmos.index.toNat < cmosMemSize then
    some (cmos.data ⟨cmos.index.toNat, inside⟩)
  else none

/-- `data[index] = byte`. -/
def setData (cmos : Cmos) (byte : UInt8) : Option Cmos :=
  if inside : cmos.index.toNat < cmosMemSize then
    some { cmos with
      data := fun cell =>
        if cell = ⟨cmos.index.toNat, inside⟩ then byte
        else cmos.data cell }
  else none

/-- Accesses to the data port move the selection to status register D. -/
def resetIndex (cmos : Cmos) : Cmos :=
  { cmos with index := cmosRegStatD }

/-- `CMOS::Read`. -/
def read (cmos : Cmos) (now : Tm) (port : UInt16) (cell size : UInt8) :
    CmosRun :=
  if size ≠ 1 then .returned 1 cell cmos
  else if port = pioPortCmosIndex then .returned 0 cmos.index cmos
  else if port = pioPortCmosData then
    match synthesised cmos.index now with
    | some byte => .returned 0 byte cmos.resetIndex
    | none =>
        match cmos.dataAt with
        | some byte => .returned 0 byte cmos.resetIndex
        | none => .outOfBounds
  else .returned 1 cell cmos

/-- `CMOS::Write`. -/
def write (cmos : Cmos) (port : UInt16) (cell size : UInt8) : CmosRun :=
  if size ≠ 1 then .returned 1 cell cmos
  else if port = pioPortCmosIndex then
    .returned 0 cell { cmos with index := cell &&& cmosIndexMask }
  else if port = pioPortCmosData then
    if cmos.index = cmosRegShutdown ∧ cell = 0 then
      .returned 0 cell cmos.resetIndex
    else
      match cmos.setData cell with
      | some stored => .returned 0 cell stored.resetIndex
      | none => .outOfBounds
  else .returned 1 cell cmos

end Cmos

theorem data_ne_index : ¬ pioPortCmosData = pioPortCmosIndex := by
  decide

/--
A read fails and leaves the cell, or stores a byte which does not depend on the
cell, or is outside the array.
-/
theorem Cmos.read_cases (cmos : Cmos) (now : Tm) (port : UInt16) (size : UInt8) :
    (∀ cell, cmos.read now port cell size = .returned 1 cell cmos) ∨
    (∃ byte next, ∀ cell,
      cmos.read now port cell size = .returned 0 byte next) ∨
    ∀ cell, cmos.read now port cell size = .outOfBounds := by
  by_cases oneByte : size = 1
  · subst oneByte
    by_cases atIndex : port = pioPortCmosIndex
    · right; left
      exact ⟨cmos.index, cmos, fun cell => by simp [Cmos.read, atIndex]⟩
    · by_cases atData : port = pioPortCmosData
      · right
        subst atData
        cases fixed : synthesised cmos.index now with
        | some byte =>
            left
            exact ⟨byte, cmos.resetIndex,
              fun cell => by simp [Cmos.read, data_ne_index, fixed]⟩
        | none =>
            cases stored : cmos.dataAt with
            | some byte =>
                left
                exact ⟨byte, cmos.resetIndex,
                  fun cell => by
                    simp [Cmos.read, data_ne_index, fixed, stored]⟩
            | none =>
                right
                intro cell
                simp [Cmos.read, data_ne_index, fixed, stored]
      · left
        intro cell
        simp [Cmos.read, atIndex, atData]
  · left
    intro cell
    simp [Cmos.read, oneByte]

end Lvmm.Device.CmosDevice
