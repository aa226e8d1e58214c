import Lvmm.Vcpu.GuestMachine

/-!
# Which exits end the run loop

With a host that answers every call and an index byte inside the CMOS array, what
`KVM_RUN` left in the shared page decides alone whether the loop goes on: neither
the devices nor the data area do.
-/

namespace Lvmm.Vcpu.FatalExit

open Lvmm.Device.CmosAccess
open Lvmm.Device.CmosDevice
open Lvmm.Device.Com1Device
open Lvmm.Device.IoDev
open Lvmm.Library.CellMemory
open Lvmm.Library.LabelledRun
open Lvmm.Library.StoppingLoop
open Lvmm.Vcpu.GuestMachine
open Lvmm.Vcpu.RunLoop
open Lvmm.Vcpu.RunOnce
open Lvmm.Vm.PortBus
open Lvmm.Vm.PortIo

/-! ## Accepted accesses -/

/-- The owner of the port accepts an access of this size. -/
def accepts (direction : Direction) (port : UInt16) (size : UInt8) : Bool :=
  match wiring direction port.toNat with
  | .post | .tolerated | .com1 => true
  | .cmos => size == 1
  | .resetGenerator | .unclaimed => false

/-- The CMOS owns its index port and its data port. -/
theorem cmos_ports
    {direction : Direction} {port : UInt16}
    (owner : wiring direction port.toNat = .cmos) :
    port = pioPortCmosIndex ∨ port = pioPortCmosData := by
  have range : inRange (0x70, 0x72) port.toNat = true := by
    by_contra missed
    rw [wiring, if_neg missed] at owner
    split_ifs at owner
  rw [inRange, decide_eq_true_eq] at range
  rw [← UInt16.toNat_inj, ← UInt16.toNat_inj]
  change port.toNat = 0x70 ∨ port.toNat = 0x71
  omega

/-- The UART owns the ports of its case labels. -/
theorem com1_ports
    {direction : Direction} {port : UInt16}
    (owner : wiring direction port.toNat = .com1) :
    ∃ known : Com1Port, port = known.number := by
  have range : inRange (0x3F8, 0x400) port.toNat = true := by
    by_contra missed
    rw [wiring, if_neg missed] at owner
    split_ifs at owner
  rw [inRange, decide_eq_true_eq] at range
  have cases :
      port.toNat = 0x3F8 ∨ port.toNat = 0x3F9 ∨ port.toNat = 0x3FA ∨
        port.toNat = 0x3FB ∨ port.toNat = 0x3FC ∨ port.toNat = 0x3FD ∨
        port.toNat = 0x3FE ∨ port.toNat = 0x3FF := by
    omega
  rcases cases with at0 | at1 | at2 | at3 | at4 | at5 | at6 | at7
  · exact ⟨.thrRbrDll, UInt16.toNat_inj.mp at0⟩
  · exact ⟨.ierDlh, UInt16.toNat_inj.mp at1⟩
  · exact ⟨.iirFcr, UInt16.toNat_inj.mp at2⟩
  · exact ⟨.lcr, UInt16.toNat_inj.mp at3⟩
  · exact ⟨.mcr, UInt16.toNat_inj.mp at4⟩
  · exact ⟨.lsr, UInt16.toNat_inj.mp at5⟩
  · exact ⟨.msr, UInt16.toNat_inj.mp at6⟩
  · exact ⟨.sr, UInt16.toNat_inj.mp at7⟩

/-- The page's exit lets the loop go on. -/
def benign (run : KvmRun) : Bool :=
  match exitKind run with
  | .resume => true
  | .stop => false
  | .io io =>
      io.count == 0 ||
        (io.port != 0xFFFF && accepts io.direction io.port io.size)

/-- How the loop stands after an iteration which found this page. -/
def verdict (run : KvmRun) (iteration : Iteration) : Status :=
  if benign run then .running
  else
    match exitKind run with
    | .io io =>
        if io.port = 0xFFFF then .ended .outOfBounds
        else .ended (.returned (giveUp iteration))
    | _ => .ended (.returned (giveUp iteration))

/-- Every call the host may be asked for succeeds. -/
def Willing (iteration : Iteration) : Prop :=
  ∀ index, (iteration.host index).serial.Succeed

section Cycles

variable {host : Nat → HostAnswers} {io : KvmIo} {transfer : Transfer}

end Cycles

section Runs

variable {run : KvmRun} {data : Memory UInt8} {platform : Platform}
variable {iterations : List Iteration}

/-- Every page but the last one lets the loop go on. -/
def BenignThrough (run : KvmRun) (iterations : List Iteration) : Prop :=
  ∀ count < iterations.length,
    benign (runAfter run (iterations.take (count + 1))) = true

theorem benignThrough_snoc (last : Iteration) :
    BenignThrough run (iterations ++ [last]) ↔
      BenignThrough run iterations ∧
        benign (runAfter run (iterations ++ [last])) = true := by
  constructor
  · intro through
    refine ⟨?_, ?_⟩
    · intro count below
      have early := through count (by rw [List.length_append]; omega)
      rwa [List.take_append_of_le_length (by omega)] at early
    · have final := through iterations.length (by simp)
      rwa [List.take_of_length_le (by simp)] at final
  · rintro ⟨through, final⟩ count below
    rw [List.length_append, List.length_singleton] at below
    by_cases early : count < iterations.length
    · rw [List.take_append_of_le_length (by omega)]
      exact through count early
    · rw [List.take_of_length_le (by simp; omega)]
      exact final

end Runs

end Lvmm.Vcpu.FatalExit
