import Lvmm.Vm.SmpAlone

/-!
# A thread which runs alone and the run loop

The run loop is modelled twice: `RunLoop` and its machine take an iteration as one
step, and the machine of all threads takes it apart into the steps of the handlers.
While no other thread moves the two are the same, in both directions.
-/

namespace Lvmm.Vm.SmpLoop

open Lvmm.Device
open Lvmm.Library.LabelledRun
open Lvmm.Vcpu.GuestMachine (accessIteration filled ioState)
open Lvmm.Vcpu.RunLoop
open Lvmm.Vcpu.RunOnce
open Lvmm.Vm.PortBus
open Lvmm.Vm.PortIo
open Lvmm.Vm.SmpAlone
open Lvmm.Vm.SmpMachine
open Lvmm.Vm.SmpThreads

variable {Cpu : Type*} [DecidableEq Cpu]
variable {source middle target : Machine Cpu} {cpu : Cpu}

/-! ## The loop and the machine -/

/-- The virtual CPU which takes a step; the reader has none. -/
def stepper : SmpMachine.Label Cpu → Option Cpu
  | .kvmRun cpu _ | .advance cpu => some cpu
  | .host _ | .reader _ => none

/-- The iteration which a step begins. -/
def begunIteration : SmpMachine.Label Cpu → Option Iteration
  | .kvmRun _ iteration => some iteration
  | _ => none

/-- The machine is where the loop is, and holds what the loop holds. -/
structure LoopMatches
    (level : Bool) (state : LoopState) (machine : Machine Cpu) (cpu : Cpu) :
    Prop where
  place : (machine.vcpus cpu).place = placeOf state.status
  run : (machine.vcpus cpu).page.run = state.run
  devices : ∃ platform : Platform,
    state.io = ioState platform (machine.vcpus cpu).page.data ∧
      machine.devices.cmos.cmos = platform.cmos ∧
      machine.devices.com1.shared = sharedOf level platform.serial

variable {pages : Cpu → KvmPage} {cmosIndex : UInt8} {irqLevel : Bool}
variable {iterations : List Iteration}

omit [DecidableEq Cpu] in
theorem holds_start (cpu : Cpu) :
    Holds irqLevel (Machine.start pages cmosIndex irqLevel) cpu (pages cpu)
      .guest (.start cmosIndex) :=
  ⟨rfl, rfl, rfl, fun _ => ⟨⟨_, _, rfl⟩, ⟨_, _, rfl⟩⟩⟩

omit [DecidableEq Cpu] in
/-- A machine which holds what the loop's machine holds matches the loop. -/
theorem LoopMatches.ofHolds
    {state : LoopState} {bus : Vcpu.GuestMachine.Machine}
    (together : Vcpu.GuestMachine.Matches state bus)
    (holds :
      Holds irqLevel target cpu { run := bus.run, data := bus.data }
        (placeOf bus.status) bus.platform) :
    LoopMatches irqLevel state target cpu where
  place := by rw [holds.vcpu, together.status]
  run := by rw [holds.vcpu, together.run]
  devices :=
    ⟨bus.platform, by rw [holds.vcpu, together.io], holds.cmos, holds.com1⟩

/-- An iteration of a thread: `KVM_RUN`, and the steps of its exit. -/
def iterationLabels (cpu : Cpu) (iteration : Iteration) (count : Nat) :
    List (SmpMachine.Label Cpu) :=
  .kvmRun cpu iteration :: List.replicate count (.advance cpu)

omit [DecidableEq Cpu] in
theorem stepper_of_iterationLabels
    {iteration : Iteration} {count : Nat} {label : SmpMachine.Label Cpu}
    (member : label ∈ iterationLabels cpu iteration count) :
    stepper label = some cpu := by
  rcases List.mem_cons.mp member with rfl | drained
  · rfl
  · rw [List.eq_of_mem_replicate drained]
    rfl

omit [DecidableEq Cpu] in
/-- It begins one iteration. -/
theorem begunIteration_iterationLabels (iteration : Iteration) (count : Nat) :
    (iterationLabels cpu iteration count).filterMap begunIteration =
      [iteration] := by
  have silent :
      (List.replicate count (SmpMachine.Label.advance cpu)).filterMap
          begunIteration =
        [] := by
    rw [List.filterMap_eq_nil_iff]
    intro label member
    rw [List.eq_of_mem_replicate member]
    rfl
  rw [iterationLabels, List.filterMap_cons, silent]
  rfl

/-- The machine goes along with a run of the loop's machine. -/
theorem run_of_bus
    (irqLevel : Bool) {bus : Vcpu.GuestMachine.Machine}
    (ran :
      Run Vcpu.GuestMachine.Machine.step
        (.enter (pages cpu).run (pages cpu).data (.start cmosIndex))
        iterations bus) :
    ∃ labels target,
      Run SmpMachine.step (.start pages cmosIndex irqLevel) labels target ∧
        (∀ label ∈ labels, stepper label = some cpu) ∧
        labels.filterMap begunIteration = iterations ∧
        Untouched (.start pages cmosIndex irqLevel) target cpu ∧
        Holds irqLevel target cpu { run := bus.run, data := bus.data }
          (placeOf bus.status) bus.platform := by
  induction ran with
  | refl =>
      exact ⟨[], _, .refl, by simp, rfl, .refl,
        holds_start cpu⟩
  | @snoc iterations bus next iteration before taken induction =>
      rcases induction with
        ⟨labels, middle, reached, authored, begun, untouched, holds⟩
      rw [Vcpu.GuestMachine.Machine.step] at taken
      cases status : bus.status with
      | ended outcome =>
          rw [status] at taken
          cases taken
      | running =>
          rw [status] at taken holds
          cases taken
          have left := kvmRun_taken (congrArg Vcpu.place holds.vcpu) iteration
          rcases holds.iterate iteration with ⟨target, reaches, after⟩
          rcases reaches.steps with ⟨count, later⟩
          refine
            ⟨labels ++ iterationLabels cpu iteration count, target,
              Run.append_iff.mpr
                ⟨middle, reached, Run.cons_iff.mpr ⟨_, left, later⟩⟩,
              ?_, ?_, ?_, after⟩
          · intro label member
            rcases List.mem_append.mp member with earlier | last
            · exact authored label earlier
            · exact stepper_of_iterationLabels last
          · rw [List.filterMap_append, begun, begunIteration_iterationLabels]
          · exact untouched.trans
              ((leftGuest_untouched iteration).trans reaches.untouched)

/--
Whatever a run of the loop of one virtual CPU does, the machine does it too, by
steps of that CPU's thread alone: with the same iterations, it ends where the loop
ends and holds what the loop holds.
-/
theorem loop_runs_in_machine
    {state : LoopState}
    (ran :
      Run (Vcpu.RunLoop.step machineTable)
        (.enter (pages cpu).run
          (ioState (.start cmosIndex) (pages cpu).data))
        iterations state) :
    ∃ labels target,
      Run SmpMachine.step (.start pages cmosIndex irqLevel) labels target ∧
        (∀ label ∈ labels, stepper label = some cpu) ∧
        labels.filterMap begunIteration = iterations ∧
        Untouched (.start pages cmosIndex irqLevel) target cpu ∧
        LoopMatches irqLevel state target cpu := by
  rcases Vcpu.GuestMachine.run_matches ran with ⟨bus, reached, together⟩
  rcases run_of_bus irqLevel reached with
    ⟨labels, target, run, authored, begun, untouched, holds⟩
  exact ⟨labels, target, run, authored, begun, untouched,
    .ofHolds together holds⟩

/-- A thread is in the guest while the loop goes on. -/
theorem placeOf_guest
    {status : Status} (place : placeOf status = placeOf .running) :
    status = .running := by
  cases status with
  | running => rfl
  | ended outcome => cases place

/-- In the guest and behind its loop, a thread has no step outside `KVM_RUN`. -/
theorem advance_refused
    {status : Status} (place : (source.vcpus cpu).place = placeOf status) :
    SmpMachine.step source (.advance cpu) = none := by
  have nothing :
      (source.vcpus cpu).advance cpu (source.devices.cmos.cpus cpu)
          (source.devices.com1.cpus cpu) =
        none := by
    rw [Vcpu.advance, place]
    cases status <;> rfl
  simp only [SmpMachine.step, move, nothing, Option.map_none,
    Option.bind_none]

/-- So no steps lead further. -/
theorem settled_steps
    {status : Status} (place : (source.vcpus cpu).place = placeOf status)
    {count : Nat}
    (run :
      Run SmpMachine.step source (List.replicate count (.advance cpu))
        target) :
    target = source := by
  cases count with
  | zero =>
      cases Run.iff_foldlM.mp run
      rfl
  | succ count =>
      rcases Run.cons_iff.mp run with ⟨next, taken, _⟩
      rw [advance_refused place] at taken
      cases taken

/-- The loop's machine goes along with a thread which runs alone. -/
theorem bus_of_alone
    {labels : List (SmpMachine.Label Cpu)}
    (run :
      Run SmpMachine.step (.start pages cmosIndex irqLevel) labels target)
    (authored : ∀ label ∈ labels, stepper label = some cpu) :
    ∃ bus count final,
      Run Vcpu.GuestMachine.Machine.step
          (.enter (pages cpu).run (pages cpu).data (.start cmosIndex))
          (labels.filterMap begunIteration) bus ∧
        Run SmpMachine.step target (List.replicate count (.advance cpu))
          final ∧
        Holds irqLevel final cpu { run := bus.run, data := bus.data }
          (placeOf bus.status) bus.platform := by
  induction run with
  | refl => exact ⟨_, 0, _, .refl, .refl, holds_start cpu⟩
  | @snoc labels middle target label before taken induction =>
      rcases induction fun earlier member =>
          authored earlier (List.mem_append_left _ member) with
        ⟨bus, count, final, reached, drained, holds⟩
      have own := authored label (by simp)
      rw [List.filterMap_append]
      cases label with
      | host result | reader answers => cases own
      | advance author =>
          cases own
          cases count with
          | zero =>
              -- nothing is left of the exit, so the step was not possible
              cases Run.iff_foldlM.mp drained
              have refused :=
                advance_refused (congrArg Vcpu.place holds.vcpu)
              rw [refused] at taken
              cases taken
          | succ count =>
              rcases Run.cons_iff.mp drained with ⟨next, first, rest⟩
              cases first.symm.trans taken
              have silent :
                  [SmpMachine.Label.advance cpu].filterMap begunIteration =
                    [] :=
                rfl
              rw [silent, List.append_nil]
              exact ⟨bus, count, final, reached, rest, holds⟩
      | kvmRun author iteration =>
          cases own
          have guest : (middle.vcpus cpu).place = placeOf .running :=
            (kvmRun_of_step taken).1
          cases settled_steps guest drained
          cases (kvmRun_taken guest iteration).symm.trans taken
          have running : bus.status = .running := by
            have place := congrArg Vcpu.place holds.vcpu
            exact placeOf_guest (place.symm.trans guest)
          have moved :
              bus.step iteration = some (bus.iterate iteration) := by
            rw [Vcpu.GuestMachine.Machine.step, running]
          rw [running] at holds
          rcases holds.iterate iteration with ⟨target, reaches, after⟩
          rcases reaches.steps with ⟨count, later⟩
          exact ⟨_, count, target, reached.snoc moved, later, after⟩

/--
The other way round, a thread which runs alone does nothing but what the loop does:
whenever it is in the guest or behind its loop, the machine matches the state which
the loop reaches with the same iterations, and in between it is on the way there.
-/
theorem machine_runs_loop
    {labels : List (SmpMachine.Label Cpu)}
    (run :
      Run SmpMachine.step (.start pages cmosIndex irqLevel) labels target)
    (authored : ∀ label ∈ labels, stepper label = some cpu) :
    ∃ state,
      Run (Vcpu.RunLoop.step machineTable)
          (.enter (pages cpu).run
            (ioState (.start cmosIndex) (pages cpu).data))
          (labels.filterMap begunIteration) state ∧
        (∃ count final,
          Run SmpMachine.step target (List.replicate count (.advance cpu))
              final ∧
            LoopMatches irqLevel state final cpu) ∧
        ∀ status, (target.vcpus cpu).place = placeOf status →
          LoopMatches irqLevel state target cpu := by
  rcases bus_of_alone run authored with
    ⟨bus, count, final, reached, drained, holds⟩
  rcases Vcpu.GuestMachine.machine_matches reached with
    ⟨state, ran, together⟩
  have matching : LoopMatches irqLevel state final cpu :=
    .ofHolds together holds
  refine ⟨state, ran, ⟨count, final, drained, matching⟩, ?_⟩
  intro status place
  rw [settled_steps place drained] at matching
  exact matching

/-- Two virtual CPUs whose pages nobody has written to yet. -/
def freshPages : Bool → KvmPage :=
  fun _ => { run := freshPage, data := filled 0 }

theorem loop_runs_in_machine_output :
    ∃ (state : LoopState) (labels : List (SmpMachine.Label Bool))
        (target : Machine Bool),
      Run SmpMachine.step (.start freshPages 0 false) labels target ∧
        (∀ label ∈ labels, stepper label = some true) ∧
        labels.filterMap begunIteration =
          [accessIteration .output 0x3F8 0x41] ∧
        Untouched (.start freshPages 0 false) target true ∧
        LoopMatches false state target true := by
  have looped :
      Run (Vcpu.RunLoop.step machineTable)
        (.enter (freshPages true).run
          (ioState (.start 0) (freshPages true).data))
        [accessIteration .output 0x3F8 0x41] _ :=
    .single rfl
  rcases loop_runs_in_machine looped with ⟨labels, target, run⟩
  exact ⟨_, labels, target, run⟩

/-- A thread which leaves the guest and calls the handler of the CMOS. -/
def selecting : List (SmpMachine.Label Bool) :=
  [ .kvmRun true (accessIteration .output 0x70 0x0E), .advance true ]

/-- The middle of an access is on the way to where the loop is. -/
theorem machine_runs_loop_midway :
    ∃ (state : LoopState) (target final : Machine Bool) (count : Nat),
      Run SmpMachine.step (.start freshPages 0 false) selecting target ∧
        Run SmpMachine.step target (List.replicate count (.advance true))
          final ∧
        LoopMatches false state final true := by
  have reached : ∃ target,
      Run SmpMachine.step (.start freshPages 0 false) selecting target :=
    ⟨_, Run.iff_foldlM.mpr rfl⟩
  have authored : ∀ label ∈ selecting, stepper label = some true := by
    simp [selecting, stepper]
  rcases reached with ⟨target, run⟩
  rcases machine_runs_loop run authored with
    ⟨state, _, ⟨count, final, drained, matching⟩, _⟩
  exact ⟨state, target, final, count, run, drained, matching⟩

end Lvmm.Vm.SmpLoop
