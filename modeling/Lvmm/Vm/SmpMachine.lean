import Lvmm.Device.CmosSmp
import Lvmm.Device.Com1Smp
import Lvmm.Vcpu.GuestMachine

/-!
# The machine with all its virtual CPUs

`VM::Boot` starts a thread for every virtual CPU, and each of them runs
`Vcpu::RunLoop`.  The threads share the devices, and the reader thread of `COM1`
runs beside them.  Here all of them interleave, the accesses to the CMOS and to the
UART in the atomic steps of these devices.

A virtual CPU has its `kvm_run` page to itself.  The answers which an iteration of
its loop gets are chosen when `KVM_RUN` returns.
-/

namespace Lvmm.Vm.SmpMachine

open Lvmm.Device
open Lvmm.Device.Com1Device
open Lvmm.Device.Com1Smp (HostRead Answers)
open Lvmm.Library.CellMemory
open Lvmm.Library.LabelledRun
open Lvmm.Vcpu.GuestMachine (ExitKind accessOf exitKind)
open Lvmm.Vcpu.RunLoop
open Lvmm.Vcpu.RunOnce
open Lvmm.Vm.PortBus
open Lvmm.Vm.PortIo

/-! ## A virtual CPU -/

/--
Where the thread of a virtual CPU is: in `KVM_RUN`, before the handler call of an
element of an I/O exit, in the handler of a device, or behind its loop.
-/
inductive Place where
  | guest
  | calling (iteration : Iteration) (index : Nat)
  | inCmos (iteration : Iteration) (index : Nat)
  | inCom1 (iteration : Iteration) (index : Nat)
  | ended (outcome : Outcome)

/-- A virtual CPU: what its page holds, and its thread. -/
structure Vcpu where
  page : KvmPage
  place : Place

/-- The devices which the threads share. -/
structure Devices (Cpu : Type*) where
  cmos : CmosSmp.Smp Cpu
  com1 : Com1Smp.Smp Cpu

/-- A step of a device, if a step of the machine takes one. -/
inductive Act (Cpu : Type*) where
  | idle
  | cmos (label : CmosSmp.Label Cpu)
  | com1 (label : Com1Smp.Label Cpu)

/-- An access to the UART, if the UART has a case for its port. -/
def toCom1 (direction : Direction) (port : UInt16) (cell : UInt8) :
    Option Com1Smp.Access :=
  (Com1Port.decode port).map fun known =>
    match direction with
    | .input => .read known
    | .output => .write known cell

namespace Vcpu

/-- The page which the `KVM_RUN` of an iteration leaves. -/
def pageAfter (vcpu : Vcpu) (iteration : Iteration) : KvmPage :=
  iteration.kvmRun.written.getD vcpu.page

/-- `KVM_RUN` returned, and `RunOnce` looks at the exit. -/
def leaveGuest (vcpu : Vcpu) (iteration : Iteration) : Vcpu :=
  { page := vcpu.pageAfter iteration
    place :=
      match exitKind (vcpu.pageAfter iteration).run with
      | .resume => .guest
      | .stop => .ended (.returned (giveUp iteration))
      | .io _ => .calling iteration 0 }

/-- A handler returned: store its byte, and go on or give up. -/
def finish
    (vcpu : Vcpu) (iteration : Iteration) (index : Nat)
    (result : Int) (stored : Option UInt8) : Vcpu :=
  { page :=
      { vcpu.page with
        data :=
          match stored with
          | some byte =>
              Function.update vcpu.page.data
                vcpu.page.run.io.dataOffset.toNat byte
          | none => vcpu.page.data }
    place :=
      if result ≠ 0 then .ended (.returned (giveUp iteration))
      else .calling iteration (index + 1) }

/-- The access which an element of an I/O exit makes. -/
def access (vcpu : Vcpu) (iteration : Iteration) (index : Nat) :
    PortAccess :=
  accessOf vcpu.page.run.io (iteration.host index)
    (vcpu.page.data vcpu.page.run.io.dataOffset.toNat)

variable {Cpu : Type*}

/-- The handler call of an element of an I/O exit. -/
def call
    (vcpu : Vcpu) (cpu : Cpu) (iteration : Iteration) (index : Nat) :
    Vcpu × Act Cpu :=
  let access := vcpu.access iteration index
  match access.wire with
  | .post | .tolerated => (vcpu.finish iteration index 0 none, .idle)
  | .resetGenerator | .unclaimed =>
      (vcpu.finish iteration index 1 none, .idle)
  | .cmos =>
      ({ vcpu with place := .inCmos iteration index },
        .cmos (.begin cpu access.toCmos))
  | .com1 =>
      match toCom1 access.direction access.port access.cell with
      | some own =>
          ({ vcpu with place := .inCom1 iteration index },
            .com1 (.begin cpu own))
      | none => (vcpu.finish iteration index 1 none, .idle)

/--
One step of the thread outside of `KVM_RUN`, given where it is in the handlers of
the devices.
-/
def advance
    (vcpu : Vcpu) (cpu : Cpu) (clock : CmosSmp.Pc) (uart : Com1Smp.Pc) :
    Option (Vcpu × Act Cpu) :=
  match vcpu.place with
  | .guest => none
  | .calling iteration index =>
      if index < vcpu.page.run.io.count.toNat then
        if vcpu.page.run.io.port = 0xFFFF then
          some ({ vcpu with place := .ended .outOfBounds }, .idle)
        else some (vcpu.call cpu iteration index)
      else some ({ vcpu with place := .guest }, .idle)
  | .inCmos iteration index =>
      match clock with
      | .returned result stored =>
          some (vcpu.finish iteration index result stored, .idle)
      | .outOfBounds =>
          some ({ vcpu with place := .ended .outOfBounds }, .idle)
      | _ => some (vcpu, .cmos (.advance cpu))
  | .inCom1 iteration index =>
      match uart with
      | .returned result stored =>
          some (vcpu.finish iteration index result stored, .idle)
      | pc =>
          some (vcpu,
            .com1 (.advance cpu (pc.answers (iteration.host index).serial)))
  | .ended _ => none

end Vcpu

/-! ## The machine -/

section Machine

variable {Cpu : Type*}

/-- The virtual CPUs and the devices. -/
structure Machine (Cpu : Type*) where
  vcpus : Cpu → Vcpu
  devices : Devices Cpu

/-- The machine when `VM::Boot` has started the threads. -/
def Machine.start
    (pages : Cpu → KvmPage) (cmosIndex : UInt8) (irqLevel : Bool) :
    Machine Cpu :=
  { vcpus := fun cpu => { page := pages cpu, place := .guest }
    devices := { cmos := .fresh cmosIndex, com1 := .fresh irqLevel } }

/--
One step: a `read` of the reader, another step of the reader, the return of
`KVM_RUN` in a virtual CPU, or another step of its thread.
-/
inductive Label (Cpu : Type*) where
  | host (result : HostRead)
  | reader (answers : Answers)
  | kvmRun (cpu : Cpu) (iteration : Iteration)
  | advance (cpu : Cpu)

variable [DecidableEq Cpu]

/-- A step of a device. -/
def Devices.step (source : Devices Cpu) : Act Cpu → Option (Devices Cpu)
  | .idle => some source
  | .cmos label =>
      (CmosSmp.step source.cmos label).map fun cmos =>
        { source with cmos }
  | .com1 label =>
      (Com1Smp.step source.com1 label).map fun com1 =>
        { source with com1 }

/-- The virtual CPUs after a step, and what the step does to the devices. -/
def move (source : Machine Cpu) :
    Label Cpu → Option ((Cpu → Vcpu) × Act Cpu)
  | .host result => some (source.vcpus, .com1 (.host result))
  | .reader answers => some (source.vcpus, .com1 (.reader answers))
  | .kvmRun cpu iteration =>
      match (source.vcpus cpu).place with
      | .guest =>
          some
            (Function.update source.vcpus cpu
              ((source.vcpus cpu).leaveGuest iteration), .idle)
      | _ => none
  | .advance cpu =>
      ((source.vcpus cpu).advance cpu (source.devices.cmos.cpus cpu)
          (source.devices.com1.cpus cpu)).map fun moved =>
        (Function.update source.vcpus cpu moved.1, moved.2)

/-- One step of one thread. -/
def step (source : Machine Cpu) (label : Label Cpu) :
    Option (Machine Cpu) :=
  (move source label).bind fun moved =>
    (source.devices.step moved.2).map fun devices =>
      { vcpus := moved.1, devices }

/-- What a step does to the devices. -/
def actOf (source : Machine Cpu) (label : Label Cpu) : Act Cpu :=
  ((move source label).map (·.2)).getD .idle

/-- The page with which a step leaves the guest. -/
def exitOf (source : Machine Cpu) : Label Cpu → Option (Cpu × KvmPage)
  | .kvmRun cpu iteration =>
      some (cpu, (source.vcpus cpu).pageAfter iteration)
  | _ => none

/-- What an observer records: the steps of the devices, and every exit. -/
structure History (Cpu : Type*) where
  acts : List (Act Cpu) := []
  exits : List (Cpu × KvmPage) := []

def observe
    (source : Machine Cpu) (label : Label Cpu) (history : History Cpu) :
    History Cpu :=
  { acts := history.acts ++ [actOf source label]
    exits := history.exits ++ (exitOf source label).toList }

/-- Runs from the start of all threads, with what an observer recorded. -/
abbrev ObservedRun
    (pages : Cpu → KvmPage) (cmosIndex : UInt8) (irqLevel : Bool)
    (labels : List (Label Cpu)) (target : Machine Cpu)
    (history : History Cpu) : Prop :=
  Run (observed step observe) (.start pages cmosIndex irqLevel, {}) labels
    (target, history)

end Machine

/-! ## The devices of a run -/

section DeviceRuns

variable {Cpu : Type*}

/-- The step of the CMOS, if it is one. -/
def Act.cmos? : Act Cpu → Option (CmosSmp.Label Cpu)
  | .cmos label => some label
  | _ => none

/-- The step of the UART, if it is one. -/
def Act.com1? : Act Cpu → Option (Com1Smp.Label Cpu)
  | .com1 label => some label
  | _ => none

variable [DecidableEq Cpu]
variable {source target : Devices Cpu} {act : Act Cpu}

theorem cmos_of_step (taken : source.step act = some target) :
    match act.cmos? with
    | some own => CmosSmp.step source.cmos own = some target.cmos
    | none => target.cmos = source.cmos := by
  cases act with
  | idle =>
      cases taken
      rfl
  | cmos label =>
      rcases Option.map_eq_some_iff.mp taken with ⟨cmos, stepped, rfl⟩
      exact stepped
  | com1 label =>
      rcases Option.map_eq_some_iff.mp taken with ⟨com1, stepped, rfl⟩
      rfl

theorem com1_of_step (taken : source.step act = some target) :
    match act.com1? with
    | some own => Com1Smp.step source.com1 own = some target.com1
    | none => target.com1 = source.com1 := by
  cases act with
  | idle =>
      cases taken
      rfl
  | cmos label =>
      rcases Option.map_eq_some_iff.mp taken with ⟨cmos, stepped, rfl⟩
      rfl
  | com1 label =>
      rcases Option.map_eq_some_iff.mp taken with ⟨com1, stepped, rfl⟩
      exact stepped

variable {acts : List (Act Cpu)}

/-- The UART goes through a run of its own. -/
theorem com1_run (run : Run Devices.step source acts target) :
    Run Com1Smp.step source.com1 (acts.filterMap Act.com1?) target.com1 := by
  refine run.component Devices.com1 Act.com1? ?_ ?_
  · intro before act after own taken mine
    have moved := com1_of_step taken
    rwa [mine] at moved
  · intro before act after taken other
    have kept := com1_of_step taken
    rwa [other] at kept

/-- A step moves the virtual CPUs, and the devices as its act says. -/
theorem move_of_step
    {before after : Machine Cpu} {label : Label Cpu}
    (taken : step before label = some after) :
    ∃ act,
      move before label = some (after.vcpus, act) ∧
        actOf before label = act ∧
        before.devices.step act = some after.devices := by
  rcases Option.bind_eq_some_iff.mp taken with ⟨⟨vcpus, act⟩, moved, acted⟩
  rcases Option.map_eq_some_iff.mp acted with ⟨devices, stepped, rfl⟩
  refine ⟨act, moved, ?_, stepped⟩
  rw [actOf, moved]
  rfl

/-- The recorded acts are a run of the devices. -/
theorem devices_run
    {start machine : Machine Cpu} {labels : List (Label Cpu)}
    {before after : History Cpu}
    (run :
      Run (observed step observe) (start, before) labels (machine, after)) :
    ∃ acts, after.acts = before.acts ++ acts ∧
      Run Devices.step start.devices acts machine.devices := by
  have kept {trace : List (Label Cpu)} {reached : Machine Cpu × History Cpu}
      (path :
        Run (observed step observe) (start, before) trace reached) :
      ∃ acts, reached.2.acts = before.acts ++ acts ∧
        Run Devices.step start.devices acts reached.1.devices := by
    induction path with
    | refl => exact ⟨[], by simp, .refl⟩
    | @snoc labels middle reached label earlier taken induction =>
        rcases induction with ⟨acts, recorded, ran⟩
        rcases observed_eq_some_iff.mp taken with ⟨stepped, observed⟩
        rcases move_of_step stepped with ⟨act, _, acted, moved⟩
        refine ⟨acts ++ [act], ?_, ran.snoc moved⟩
        rw [← observed]
        simp only [observe, recorded, acted, List.append_assoc]
  exact kept run

end DeviceRuns

end Lvmm.Vm.SmpMachine
