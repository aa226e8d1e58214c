import Lvmm.Device.CmosMemory
import Lvmm.Vm.PortIo

/-!
# The I/O space as a bus

The table of port handlers says which function serves a port.  Seen from the
guest it is a wiring: every port belongs to the UART, to the CMOS, to the POST
device, to hardware that is not there but tolerated, to the reset generator, or
to nobody.  A platform is what the wired devices hold and what left the machine
through them, and an access acts on the device its port belongs to.
-/

namespace Lvmm.Vm.PortBus

open Lvmm.Device.CmosAccess
open Lvmm.Device.CmosDevice
open Lvmm.Device.CmosMemory
open Lvmm.Device.Com1Device
open Lvmm.Device.IoDev
open Lvmm.Library.LabelledRun
open Lvmm.Library.OverrideTable
open Lvmm.Vm.PortIo

/-! ## The wiring -/

/-- Who answers an access. -/
inductive Wire where
  | post
  | cmos
  | com1
  | tolerated
  | resetGenerator
  | unclaimed
deriving DecidableEq, Repr

/-- Ports of missing hardware, as half-open ranges. -/
def toleratedRanges : List (Nat × Nat) :=
  [ -- alternate port 0xED based delay; the POST device contains it
    (0xED, 0xEE),
    (0x60, 0x70), (0x2E8, 0x2F0), (0x2F8, 0x300), (0x3B0, 0x3BC),
    (0x3C0, 0x3E0), (0x3E8, 0x3F0), (0xCF8, 0xCF9), (0xCFA, 0xCFC),
    (0xCFC, 0xCFD), (0xCFE, 0xCFF), (0xC000, 0xD000) ]

/-- The port lies in a half-open range. -/
def inRange (range : Nat × Nat) (port : Nat) : Bool :=
  decide (range.1 ≤ port ∧ port < range.2)

/-- The owner of a port, which for the reset generator is the output side. -/
def wiring (direction : Direction) (port : Nat) : Wire :=
  if inRange (0x3F8, 0x400) port then .com1
  else if inRange (0x70, 0x72) port then .cmos
  else if inRange (0x80, 0x120) port then .post
  else if toleratedRanges.any (inRange · port) then .tolerated
  else if port = 0xCF9 ∧ direction = .output then .resetGenerator
  else .unclaimed

/-- The function which serves an owner. -/
def Wire.handler (wire : Wire) (direction : Direction) : PioHandler :=
  match wire with
  | .post => accessFunc 0 direction
  | .cmos => accessFunc 1 direction
  | .com1 => accessFunc 2 direction
  | .tolerated => .doNothingPioHandler
  | .resetGenerator => .resetGeneratorHandlerOut
  | .unclaimed => .defaultPioHandler

/-- The device whose ports contain a port. -/
theorem machine_containing (cmosIndex : UInt8) (port : Nat) :
    containing (machineIodev cmosIndex) port =
      if inRange (0x3F8, 0x400) port then some (newCom1, 2)
      else if inRange (0x70, 0x72) port then some (newCmos cmosIndex, 1)
      else if inRange (0x80, 0x120) port then some (newPost, 0)
      else none := by
  change
    lastWhere (fun entry => decide (entry.1.Contains port))
        [(newPost, 0), (newCmos cmosIndex, 1), (newCom1, 2)] = _
  have post :
      decide (newPost.Contains port) = inRange (0x80, 0x120) port := rfl
  have cmos :
      decide ((newCmos cmosIndex).Contains port) =
        inRange (0x70, 0x72) port := rfl
  have com1 :
      decide (newCom1.Contains port) = inRange (0x3F8, 0x400) port := rfl
  simp only [lastWhere, post, cmos, com1]
  cases inRange (0x3F8, 0x400) port <;>
    cases inRange (0x70, 0x72) port <;>
    cases inRange (0x80, 0x120) port <;> rfl

/-- A fixed registration after the first tolerates or is the reset generator. -/
theorem fixed_cases
    {call : Registration} (member : call ∈ fixedRegistrations.tail) :
    (call.inFunc = .doNothingPioHandler ∧
        call.outFunc = .doNothingPioHandler ∧
        (call.portStart.toNat, call.portEnd.toNat) ∈ toleratedRanges) ∨
      (call.inFunc = .defaultPioHandler ∧
        call.outFunc = .resetGeneratorHandlerOut ∧
        call.portStart.toNat = 0xCF9 ∧ call.portEnd.toNat = 0xCFA) := by
  revert call
  decide

/-- Every tolerated range and the reset generator are registered. -/
theorem fixed_complete :
    ∀ range ∈ (0xCF9, 0xCFA) :: toleratedRanges,
      ∃ call ∈ fixedRegistrations.tail,
        (call.portStart.toNat, call.portEnd.toNat) = range := by
  decide

/-- No tolerated range contains the reset generator. -/
theorem reset_not_tolerated :
    toleratedRanges.any (inRange · 0xCF9) = false := by
  decide

/-- The registration which fills the table with the default handler. -/
def fillRegistration : Registration :=
  { portStart := 0, portEnd := pioPortNum
    inFunc := .defaultPioHandler, outFunc := .defaultPioHandler }

theorem fixed_first :
    fixedRegistrations = fillRegistration :: fixedRegistrations.tail :=
  rfl

/-- The fixed registrations tolerate, reset or refuse. -/
theorem fixed_handler (port : Nat) (direction : Direction) :
    (match lastWhere (fun call => call.covers port) fixedRegistrations with
      | some call => call.handler direction
      | none => .defaultPioHandler) =
      if toleratedRanges.any (inRange · port) then .doNothingPioHandler
      else if port = 0xCF9 ∧ direction = .output then
        .resetGeneratorHandlerOut
      else .defaultPioHandler := by
  rw [fixed_first, lastWhere]
  cases last :
      lastWhere (fun call => call.covers port) fixedRegistrations.tail with
  | some call =>
      rcases lastWhere_some last with ⟨member, covers⟩
      have within : inRange (call.portStart.toNat, call.portEnd.toNat) port :=
        covers
      rcases fixed_cases member with
        ⟨ofInput, ofOutput, range⟩ | ⟨ofInput, ofOutput, first, stop⟩
      · rw [if_pos (List.any_eq_true.mpr ⟨_, range, within⟩)]
        cases direction with
        | input => exact ofInput
        | output => exact ofOutput
      · have atReset : port = 0xCF9 := by
          rw [first, stop, inRange, decide_eq_true_eq] at within
          omega
        subst atReset
        rw [reset_not_tolerated]
        cases direction with
        | input => exact ofInput
        | output => exact ofOutput
  | none =>
      rw [lastWhere_eq_none_iff] at last
      have missed : ∀ range ∈ (0xCF9, 0xCFA) :: toleratedRanges,
          inRange range port = false := by
        intro range member
        rcases fixed_complete range member with ⟨call, registered, rfl⟩
        exact last call registered
      have tolerated : toleratedRanges.any (inRange · port) = false := by
        rw [List.any_eq_false]
        intro range member
        rw [missed range (List.mem_cons_of_mem _ member)]
        simp
      have notReset : ¬ (port = 0xCF9 ∧ direction = .output) := by
        rintro ⟨rfl, _⟩
        exact absurd (missed _ List.mem_cons_self) (by decide)
      rw [tolerated, if_neg Bool.false_ne_true, if_neg notReset]
      cases fillRegistration.covers port with
      | true => cases direction <;> rfl
      | false => rfl

/-- The function intended for a port is that of its owner. -/
theorem intendedHandler_wiring
    (cmosIndex : UInt8) (port : Nat) (direction : Direction) :
    intendedHandler (machineIodev cmosIndex) port direction =
      (wiring direction port).handler direction := by
  rw [intendedHandler, machine_containing, wiring]
  split_ifs with com1 cmos post tolerated reset
  · rfl
  · rfl
  · rfl
  · exact (fixed_handler port direction).trans (if_pos tolerated)
  · exact (fixed_handler port direction).trans
      ((if_neg tolerated).trans (if_pos reset))
  · exact (fixed_handler port direction).trans
      ((if_neg tolerated).trans (if_neg reset))

/-- Every row of the machine's table holds the function of the port's owner. -/
theorem machine_row
    (cmosIndex : UInt8) (table : PioTable) {port : UInt16}
    (inside : port.toNat < pioPortNum.toNat) (direction : Direction) :
    initPioHandler (machineIodev cmosIndex) table
        (⟨port.toNat, inside⟩, direction) =
      some ((wiring direction port.toNat).handler direction) := by
  rw [← intendedHandler_wiring cmosIndex]
  have fits := machine_fits cmosIndex
  have served :
      Served (machineIodev cmosIndex) table port direction := by
    cases found : containing (machineIodev cmosIndex) port.toNat with
    | none => exact served_of_not_contained fits table direction inside found
    | some entry =>
        refine served_of_contained fits table direction inside found ?_
        rw [machine_containing] at found
        split_ifs at found <;> cases found
        · exact Nat.ne_of_lt (show 0x400 < 0x10000 by decide)
        · exact Nat.ne_of_lt (show 0x72 < 0x10000 by decide)
        · exact Nat.ne_of_lt (show 0x120 < 0x10000 by decide)
  rcases served with ⟨_, row⟩
  exact row

/-! ## Accesses -/

/-- An access of the guest, with the byte it offers and the host's answers. -/
structure PortAccess where
  host : HostAnswers
  direction : Direction
  port : UInt16
  size : UInt8
  cell : UInt8

/-- The owner of the port of an access. -/
def PortAccess.wire (access : PortAccess) : Wire :=
  wiring access.direction access.port.toNat

/-- An access as an access to the CMOS. -/
def PortAccess.toCmos (access : PortAccess) : Access :=
  match access.direction with
  | .input => .read access.host.now access.port access.cell access.size
  | .output => .write access.port access.cell access.size

/-- The UART, the bytes it sent and the levels it drove its line to. -/
structure SerialLine where
  com1 : Com1
  stdout : List UInt8
  irqLevels : List Bool

/-- The result of an access to the UART, the byte left and the line. -/
def SerialLine.access (line : SerialLine) (access : PortAccess) :
    Int × UInt8 × SerialLine :=
  match access.direction with
  | .input =>
      let (result, byte, next) := line.com1.read access.port access.cell
      (result, byte, { line with com1 := next })
  | .output =>
      let run := line.com1.write access.host.serial access.port access.cell
      (run.result, access.cell,
        { com1 := run.com1
          stdout := line.stdout ++ run.stdout
          irqLevels := line.irqLevels ++ run.irqLevels })

/-- The UART after an access, which never is outside an array. -/
def SerialLine.after (line : SerialLine) (access : PortAccess) :
    Option SerialLine :=
  some (line.access access).2.2

/-- The devices of the machine and what left it. -/
structure Platform where
  cmos : Cmos
  serial : SerialLine

/-- The platform of a machine which has not run; the index byte is unset. -/
def Platform.start (cmosIndex : UInt8) : Platform :=
  { cmos := .construct cmosIndex
    serial := { com1 := {}, stdout := [], irqLevels := [] } }

/-- What an access did: its result, the byte left and the platform. -/
inductive AccessRun where
  | returned (result : Int) (cell : UInt8) (platform : Platform)
  | outOfBounds

/-- The part of the platform which an access to the CMOS changes. -/
def Platform.storeCmos (platform : Platform) : CmosRun → AccessRun
  | .returned result cell cmos =>
      .returned result cell { platform with cmos }
  | .outOfBounds => .outOfBounds

/-- An access acts on the owner of its port. -/
def Platform.access (platform : Platform) (access : PortAccess) :
    AccessRun :=
  match access.wire with
  | .post | .tolerated => .returned 0 access.cell platform
  | .resetGenerator | .unclaimed => .returned 1 access.cell platform
  | .cmos => platform.storeCmos (access.toCmos.run platform.cmos)
  | .com1 =>
      let (result, cell, serial) := platform.serial.access access
      .returned result cell { platform with serial }

/-- The platform after an access; nothing is known outside an array. -/
def Platform.after (platform : Platform) (access : PortAccess) :
    Option Platform :=
  match platform.access access with
  | .returned _ _ next => some next
  | .outOfBounds => none

/-- The access as one of the CMOS, if the CMOS owns its port. -/
def PortAccess.cmos? (access : PortAccess) : Option Access :=
  if access.wire = .cmos then some access.toCmos else none

section Isolation

variable {platform next : Platform} {access : PortAccess}

/-- An access to another owner leaves the CMOS alone. -/
theorem after_cmos_other
    (taken : platform.after access = some next)
    (other : access.cmos? = none) : next.cmos = platform.cmos := by
  have notCmos : access.wire ≠ .cmos := by
    intro cmos
    simp [PortAccess.cmos?, cmos] at other
  rw [Platform.after, Platform.access] at taken
  cases wire : access.wire with
  | cmos => exact absurd wire notCmos
  | post | tolerated | resetGenerator | unclaimed | com1 =>
      rw [wire] at taken
      cases taken
      rfl

/-- An access to the CMOS does to it what it does alone. -/
theorem after_cmos_own
    {own : Access} (taken : platform.after access = some next)
    (mine : access.cmos? = some own) :
    afterAccess platform.cmos own = some next.cmos := by
  rw [PortAccess.cmos?] at mine
  split_ifs at mine with wire
  cases mine
  rw [Platform.after, Platform.access, wire] at taken
  rw [afterAccess]
  cases run : access.toCmos.run platform.cmos with
  | outOfBounds => simp [run, Platform.storeCmos] at taken
  | returned result cell cmos =>
      simp only [run, Platform.storeCmos, Option.some.injEq] at taken
      rw [← taken]

variable {log : List PortAccess}

/-- The CMOS is what its own accesses, in their order, make of it. -/
theorem run_cmos (run : Run Platform.after platform log next) :
    Run afterAccess platform.cmos (log.filterMap PortAccess.cmos?)
      next.cmos :=
  run.component Platform.cmos PortAccess.cmos?
    (fun _ _ _ _ => after_cmos_own) fun _ _ _ => after_cmos_other

end Isolation

end Lvmm.Vm.PortBus
