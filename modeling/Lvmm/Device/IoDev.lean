import Lvmm.Device.CmosDevice
import Lvmm.Device.Com1Device

/-!
# Port I/O devices

An `IODev` is a port range and one of the classes which override `Read` and
`Write`.  `Post` overrides both by a function which returns 0 and does nothing.
A call of `Read` or `Write` through the base class is a match on the class.
-/

namespace Lvmm.Device.IoDev

open Lvmm.Device.CmosDevice
open Lvmm.Device.Com1Device

def pioPortPostStart : UInt16 := 0x80
def pioPortPostSize : UInt8 := 0xA0

/-- The classes deriving from `IODev`, with their members. -/
inductive DeviceClass where
  | post
  | cmos (cmos : Cmos)
  | com1 (com1 : Com1)

/-- `IODev`: `size` is the number of ports of the device. -/
structure IODev where
  port : UInt16
  size : UInt8
  device : DeviceClass

/-- `Post::Post`. -/
def newPost : IODev :=
  { port := pioPortPostStart, size := pioPortPostSize, device := .post }

/-- `CMOS::CMOS`, whose index byte holds whatever its memory held. -/
def newCmos (index : UInt8) : IODev :=
  { port := pioPortCmosStart, size := pioPortCmosSize,
    device := .cmos (.construct index) }

/-- `COM1::COM1`. -/
def newCom1 : IODev :=
  { port := pioPortCom1Start, size := pioPortCom1Size,
    device := .com1 {} }

/-- The devices which `VM::initMachine` adds, in order. -/
def machineIodev (cmosIndex : UInt8) : List IODev :=
  [newPost, newCmos cmosIndex, newCom1]

/-- The device's ports, as a range of numbers, contain a port. -/
def IODev.Contains (dev : IODev) (port : Nat) : Prop :=
  dev.port.toNat ≤ port ∧ port < dev.port.toNat + dev.size.toNat

instance (dev : IODev) (port : Nat) : Decidable (dev.Contains port) :=
  inferInstanceAs (Decidable (_ ∧ _))

/-- The range of the device fits the 16-bit I/O space. -/
def IODev.Fits (dev : IODev) : Prop :=
  dev.port.toNat + dev.size.toNat ≤ 0x10000

instance (dev : IODev) : Decidable dev.Fits :=
  inferInstanceAs (Decidable (_ ≤ _))

/-! ## Calls through the base class -/

/-- The host's answers to what one call of `Read` or `Write` may ask. -/
structure HostAnswers where
  serial : SerialAnswers
  now : Tm

/--
What a call of `Read` or `Write` did: its return value, `data_ptr[0]` and the
device afterwards, the bytes written to the standard output and the levels the
interrupt line was driven to.
-/
inductive DeviceRun where
  | returned
      (result : Int) (cell : UInt8) (device : DeviceClass)
      (stdout : List UInt8) (irqLevels : List Bool)
  | outOfBounds

/-- An access to the CMOS as a call through the base class. -/
def DeviceRun.ofCmos : CmosRun → DeviceRun
  | .returned result cell cmos => .returned result cell (.cmos cmos) [] []
  | .outOfBounds => .outOfBounds

/-- `IODev::Read`, with the byte at `data_ptr[0]`. -/
def DeviceClass.read
    (device : DeviceClass) (host : HostAnswers)
    (port : UInt16) (cell size : UInt8) : DeviceRun :=
  match device with
  | .post => .returned 0 cell .post [] []
  | .cmos clock => .ofCmos (clock.read host.now port cell size)
  | .com1 uart =>
      let (result, byte, next) := uart.read port cell
      .returned result byte (.com1 next) [] []

/-- `IODev::Write`, with the byte at `data_ptr[0]`. -/
def DeviceClass.write
    (device : DeviceClass) (host : HostAnswers)
    (port : UInt16) (cell size : UInt8) : DeviceRun :=
  match device with
  | .post => .returned 0 cell .post [] []
  | .cmos clock => .ofCmos (clock.write port cell size)
  | .com1 uart =>
      let run := uart.write host.serial port cell
      .returned run.result cell (.com1 run.com1) run.stdout run.irqLevels

/--
A read of a device other than the POST device fails and leaves the cell, or
stores a byte which does not depend on the cell, or is outside an array.
-/
theorem DeviceClass.read_cases
    {device : DeviceClass} (notPost : device ≠ .post)
    (host : HostAnswers) (port : UInt16) (size : UInt8) :
    (∀ cell, device.read host port cell size =
      .returned 1 cell device [] []) ∨
    (∃ byte next, next ≠ .post ∧ ∀ cell,
      device.read host port cell size = .returned 0 byte next [] []) ∨
    ∀ cell, device.read host port cell size = .outOfBounds := by
  cases device with
  | post => exact absurd rfl notPost
  | cmos clock =>
      rcases clock.read_cases host.now port size with
        fails | ⟨byte, next, stores⟩ | outside
      · left
        intro cell
        simp [DeviceClass.read, fails, DeviceRun.ofCmos]
      · right; left
        exact ⟨byte, .cmos next, by simp,
          fun cell => by simp [DeviceClass.read, stores, DeviceRun.ofCmos]⟩
      · right; right
        intro cell
        simp [DeviceClass.read, outside, DeviceRun.ofCmos]
  | com1 uart =>
      rcases uart.read_cases port with fails | ⟨byte, next, stores⟩
      · left
        intro cell
        simp [DeviceClass.read, fails]
      · right; left
        exact ⟨byte, .com1 next, by simp,
          fun cell => by simp [DeviceClass.read, stores]⟩

end Lvmm.Device.IoDev
