import Lvmm.Device.Com1SmpMoves
import Lvmm.Vcpu.FatalExit
import Lvmm.Vm.SmpMachine

/-!
# What the threads of the machine do

The step function is inverted once.  A thread is a virtual CPU with its program
points in the devices, and a step of the machine is a step of one thread, which
leaves the others where they are, or a step of the reader.
-/

namespace Lvmm.Vm.SmpThreads

open Lvmm.Device
open Lvmm.Device.Com1Device
open Lvmm.Library.LabelledRun
open Lvmm.Vcpu.FatalExit (Willing com1_ports)
open Lvmm.Vcpu.GuestMachine (ExitKind accessIteration exitKind)
open Lvmm.Vcpu.RunLoop
open Lvmm.Vcpu.RunOnce
open Lvmm.Vm.PortBus
open Lvmm.Vm.PortIo
open Lvmm.Vm.SmpMachine

/-! ## A step of a thread -/

/-- The I/O exit of a page is the one its page describes. -/
theorem io_of_exitKind
    {run : KvmRun} {io : KvmIo} (kind : exitKind run = .io io) :
    io = run.io := by
  rw [exitKind] at kind
  split_ifs at kind
  exact (ExitKind.io.inj kind).symm

/-- A virtual CPU, and where its thread is in the devices. -/
structure Thread where
  vcpu : Vcpu
  clock : CmosSmp.Pc
  uart : Com1Smp.Pc

variable {Cpu : Type*}

/-- The thread of a virtual CPU. -/
def thread (machine : Machine Cpu) (cpu : Cpu) : Thread :=
  { vcpu := machine.vcpus cpu
    clock := machine.devices.cmos.cpus cpu
    uart := machine.devices.com1.cpus cpu }

/-- The thread with its virtual CPU at another place. -/
def Thread.at (thread : Thread) (place : Place) : Thread :=
  { thread with vcpu := { thread.vcpu with place } }

/-- The thread whose handler call has returned. -/
def Thread.finish
    (thread : Thread) (iteration : Iteration) (index : Nat)
    (result : Int) (stored : Option UInt8) : Thread :=
  { thread with vcpu := thread.vcpu.finish iteration index result stored }

/-- The I/O exit which the page of a thread describes. -/
def Thread.io (thread : Thread) : KvmIo :=
  thread.vcpu.page.run.io

/-- The byte which the elements of an exit share. -/
def Thread.cell (thread : Thread) : UInt8 :=
  thread.vcpu.page.data thread.io.dataOffset.toNat

/-- The thread is before an element of its exit which has a row in the table. -/
structure Thread.Calls
    (thread : Thread) (iteration : Iteration) (index : Nat) : Prop where
  place : thread.vcpu.place = .calling iteration index
  below : index < thread.io.count.toNat
  notTop : thread.io.port ≠ 0xFFFF

/-- The owner of the port of the exit. -/
def Thread.owner (thread : Thread) : Wire :=
  wiring thread.io.direction thread.io.port.toNat

/-- The steps of a thread outside of `KVM_RUN`. -/
inductive Moves
    (devices : Devices Cpu) (cpu : Cpu) (source : Thread) :
    Act Cpu → Thread → Prop where
  | exitDone {iteration : Iteration} {index : Nat}
      (place : source.vcpu.place = .calling iteration index)
      (all : source.io.count.toNat ≤ index) :
      Moves devices cpu source .idle (source.at .guest)
  | strays {iteration : Iteration} {index : Nat}
      (place : source.vcpu.place = .calling iteration index)
      (below : index < source.io.count.toNat)
      (top : source.io.port = 0xFFFF) :
      Moves devices cpu source .idle (source.at (.ended .outOfBounds))
  | ignored {iteration : Iteration} {index : Nat}
      (calls : source.Calls iteration index)
      (owner : source.owner = .post ∨ source.owner = .tolerated) :
      Moves devices cpu source .idle (source.finish iteration index 0 none)
  | refused {iteration : Iteration} {index : Nat}
      (calls : source.Calls iteration index)
      (owner : source.owner = .resetGenerator ∨
        source.owner = .unclaimed) :
      Moves devices cpu source .idle (source.finish iteration index 1 none)
  | callCmos {iteration : Iteration} {index : Nat}
      (calls : source.Calls iteration index)
      (owner : source.owner = .cmos) :
      Moves devices cpu source
        (.cmos (.begin cpu (source.vcpu.access iteration index).toCmos))
        { source.at (.inCmos iteration index) with
          clock := .entry (source.vcpu.access iteration index).toCmos }
  | callCom1 {iteration : Iteration} {index : Nat} {own : Com1Smp.Access}
      (calls : source.Calls iteration index)
      (owner : source.owner = .com1)
      (known :
        toCom1 source.io.direction source.io.port source.cell = some own) :
      Moves devices cpu source (.com1 (.begin cpu own))
        { source.at (.inCom1 iteration index) with uart := own.entry }
  | cmosReturns {iteration : Iteration} {index : Nat} {result : Int}
      {stored : Option UInt8}
      (place : source.vcpu.place = .inCmos iteration index)
      (returned : source.clock = .returned result stored) :
      Moves devices cpu source .idle
        (source.finish iteration index result stored)
  | cmosStrays {iteration : Iteration} {index : Nat}
      (place : source.vcpu.place = .inCmos iteration index)
      (outside : source.clock = .outOfBounds) :
      Moves devices cpu source .idle (source.at (.ended .outOfBounds))
  | cmosSteps {iteration : Iteration} {index : Nat}
      {effect : CmosSmp.Effect} {next : CmosSmp.Pc}
      (place : source.vcpu.place = .inCmos iteration index)
      (stepped :
        source.clock.step devices.cmos.cmos = some (effect, next)) :
      Moves devices cpu source (.cmos (.advance cpu))
        { source with clock := next }
  | com1Returns {iteration : Iteration} {index : Nat} {result : Int}
      {stored : Option UInt8}
      (place : source.vcpu.place = .inCom1 iteration index)
      (returned : source.uart = .returned result stored) :
      Moves devices cpu source .idle
        (source.finish iteration index result stored)
  | com1Steps {iteration : Iteration} {index : Nat}
      {effect : Com1Smp.Effect} {next : Com1Smp.Pc}
      (place : source.vcpu.place = .inCom1 iteration index)
      (stepped :
        source.uart.step devices.com1.shared
            (source.uart.answers (iteration.host index).serial) =
          some (effect, next)) :
      Moves devices cpu source
        (.com1
          (.advance cpu
            (source.uart.answers (iteration.host index).serial)))
        { source with uart := next }

/-- An access to a port of the UART is one the UART has a case for. -/
theorem toCom1_isSome
    {direction : Direction} {port : UInt16} (cell : UInt8)
    (owner : wiring direction port.toNat = .com1) :
    ∃ own, toCom1 direction port cell = some own := by
  rcases com1_ports owner with ⟨known, rfl⟩
  apply Option.isSome_iff_exists.mp
  rw [toCom1, Com1Port.decode_number]
  rfl

/-! ## A step of the machine -/

variable [DecidableEq Cpu]
variable {source target : Machine Cpu} {label : SmpMachine.Label Cpu}
variable {cpu : Cpu}

/-- Where a step leaves the thread that took it; the others stay. -/
structure Left (source target : Machine Cpu) (cpu : Cpu) (next : Thread) :
    Prop where
  vcpus : target.vcpus = Function.update source.vcpus cpu next.vcpu
  cmos :
    target.devices.cmos.cpus =
      Function.update source.devices.cmos.cpus cpu next.clock
  com1 :
    target.devices.com1.cpus =
      Function.update source.devices.com1.cpus cpu next.uart

theorem Left.thread_eq
    {next : Thread} (left : Left source target cpu next) :
    thread target = Function.update (thread source) cpu next := by
  funext other
  rw [thread, left.vcpus, left.cmos, left.com1]
  by_cases same : other = cpu
  · subst same
    simp
  · simp [thread, same]

/-- A step which leaves the devices alone. -/
theorem Left.idle
    {vcpu : Vcpu} (vcpus : target.vcpus = Function.update source.vcpus cpu vcpu)
    (devices : target.devices = source.devices) :
    Left source target cpu { thread source cpu with vcpu } where
  vcpus := vcpus
  cmos := by
    rw [devices]
    exact (Function.update_eq_self cpu _).symm
  com1 := by
    rw [devices]
    exact (Function.update_eq_self cpu _).symm

/-- A step of the CMOS. -/
theorem Left.ofCmos
    {vcpu : Vcpu} {clock : CmosSmp.Pc}
    (vcpus : target.vcpus = Function.update source.vcpus cpu vcpu)
    (cmos :
      target.devices.cmos.cpus =
        Function.update source.devices.cmos.cpus cpu clock)
    (com1 : target.devices.com1 = source.devices.com1) :
    Left source target cpu { thread source cpu with vcpu, clock } where
  vcpus := vcpus
  cmos := cmos
  com1 := by
    rw [com1]
    exact (Function.update_eq_self cpu _).symm

/-- A step of the UART. -/
theorem Left.ofCom1
    {vcpu : Vcpu} {uart : Com1Smp.Pc}
    (vcpus : target.vcpus = Function.update source.vcpus cpu vcpu)
    (cmos : target.devices.cmos = source.devices.cmos)
    (com1 :
      target.devices.com1.cpus =
        Function.update source.devices.com1.cpus cpu uart) :
    Left source target cpu { thread source cpu with vcpu, uart } where
  vcpus := vcpus
  cmos := by
    rw [cmos]
    exact (Function.update_eq_self cpu _).symm
  com1 := com1

section Own

variable {vcpu : Vcpu} {act : Act Cpu}

/-- The handler call of an element, and where it leaves the thread. -/
theorem moves_of_call
    {iteration : Iteration} {index : Nat}
    (calls : (thread source cpu).Calls iteration index)
    (called :
      (source.vcpus cpu).call cpu iteration index = (vcpu, act))
    (vcpus : target.vcpus = Function.update source.vcpus cpu vcpu)
    (stepped : source.devices.step act = some target.devices) :
    ∃ next, Moves source.devices cpu (thread source cpu) act next ∧
      Left source target cpu next := by
  have wire :
      ((source.vcpus cpu).access iteration index).wire =
        (thread source cpu).owner := rfl
  rw [Vcpu.call] at called
  cases owner : (thread source cpu).owner with
  | post | tolerated =>
      simp only [wire, owner, Prod.mk.injEq] at called
      rcases called with ⟨rfl, rfl⟩
      exact ⟨_, .ignored calls (by simp [owner]),
        .idle vcpus (Option.some.inj stepped).symm⟩
  | resetGenerator | unclaimed =>
      simp only [wire, owner, Prod.mk.injEq] at called
      rcases called with ⟨rfl, rfl⟩
      exact ⟨_, .refused calls (by simp [owner]),
        .idle vcpus (Option.some.inj stepped).symm⟩
  | cmos =>
      simp only [wire, owner, Prod.mk.injEq] at called
      rcases called with ⟨rfl, rfl⟩
      rcases CmosSmp.begin_of_step (cmos_of_step stepped) with
        ⟨_, _, cpus⟩
      exact ⟨_, .callCmos calls owner,
        .ofCmos vcpus cpus (com1_of_step stepped)⟩
  | com1 =>
      rcases toCom1_isSome (thread source cpu).cell owner with ⟨own, known⟩
      have same :
          toCom1 ((source.vcpus cpu).access iteration index).direction
              ((source.vcpus cpu).access iteration index).port
              ((source.vcpus cpu).access iteration index).cell =
            some own := known
      simp only [wire, owner, same, Prod.mk.injEq] at called
      rcases called with ⟨rfl, rfl⟩
      rcases Com1SmpMoves.begin_of_step (com1_of_step stepped) with
        ⟨_, _, cpus, _⟩
      exact ⟨_, .callCom1 calls owner known,
        .ofCom1 vcpus (cmos_of_step stepped) cpus⟩

/-- A step of a thread outside of `KVM_RUN`, and where it leaves the thread. -/
theorem moves_of_advance
    (ran :
      (source.vcpus cpu).advance cpu (source.devices.cmos.cpus cpu)
          (source.devices.com1.cpus cpu) =
        some (vcpu, act))
    (vcpus : target.vcpus = Function.update source.vcpus cpu vcpu)
    (stepped : source.devices.step act = some target.devices) :
    ∃ next, Moves source.devices cpu (thread source cpu) act next ∧
      Left source target cpu next := by
  rw [Vcpu.advance] at ran
  cases place : (source.vcpus cpu).place with
  | guest | ended outcome => simp [place] at ran
  | calling iteration index =>
      simp only [place] at ran
      split_ifs at ran with below top
      · rcases Prod.mk.inj (Option.some.inj ran) with ⟨rfl, rfl⟩
        exact ⟨_, .strays place below top,
          .idle vcpus (Option.some.inj stepped).symm⟩
      · exact moves_of_call ⟨place, below, top⟩ (Option.some.inj ran) vcpus
          stepped
      · rcases Prod.mk.inj (Option.some.inj ran) with ⟨rfl, rfl⟩
        exact ⟨_, .exitDone place (Nat.le_of_not_lt below),
          .idle vcpus (Option.some.inj stepped).symm⟩
  | inCmos iteration index =>
      simp only [place] at ran
      split at ran
      · rename_i result stored returned
        rcases Prod.mk.inj (Option.some.inj ran) with ⟨rfl, rfl⟩
        exact ⟨_, .cmosReturns place returned,
          .idle vcpus (Option.some.inj stepped).symm⟩
      · rename_i outside
        rcases Prod.mk.inj (Option.some.inj ran) with ⟨rfl, rfl⟩
        exact ⟨_, .cmosStrays place outside,
          .idle vcpus (Option.some.inj stepped).symm⟩
      · rcases Prod.mk.inj (Option.some.inj ran) with ⟨rfl, rfl⟩
        rcases CmosSmp.advance_of_step (cmos_of_step stepped) with
          ⟨effect, next, moved, _, cpus⟩
        exact ⟨_, .cmosSteps place moved,
          .ofCmos vcpus cpus (com1_of_step stepped)⟩
  | inCom1 iteration index =>
      simp only [place] at ran
      split at ran
      · rename_i result stored returned
        rcases Prod.mk.inj (Option.some.inj ran) with ⟨rfl, rfl⟩
        exact ⟨_, .com1Returns place returned,
          .idle vcpus (Option.some.inj stepped).symm⟩
      · rcases Prod.mk.inj (Option.some.inj ran) with ⟨rfl, rfl⟩
        rcases Com1SmpMoves.advance_of_step (com1_of_step stepped) with
          ⟨next, moved, cpus, _⟩
        exact ⟨_, .com1Steps place moved,
          .ofCom1 vcpus (cmos_of_step stepped) cpus⟩

end Own

/-- A step of a thread outside of `KVM_RUN`; the other threads stay. -/
theorem advance_of_step
    (taken : step source (.advance cpu) = some target) :
    ∃ next,
      Moves source.devices cpu (thread source cpu)
          (actOf source (.advance cpu)) next ∧
        thread target = Function.update (thread source) cpu next := by
  rcases move_of_step taken with ⟨act, moved, acted, stepped⟩
  rcases Option.map_eq_some_iff.mp moved with ⟨⟨vcpu, own⟩, ran, pair⟩
  rcases Prod.mk.inj pair with ⟨vcpus, rfl⟩
  rcases moves_of_advance ran vcpus.symm stepped with ⟨next, moves, left⟩
  exact ⟨next, acted ▸ moves, left.thread_eq⟩

/-- A step which the thread and the device can both take is one of the machine. -/
theorem taken_of_advance
    {moved : Vcpu × Act Cpu} {devices : Devices Cpu}
    (ran :
      (thread source cpu).vcpu.advance cpu (thread source cpu).clock
          (thread source cpu).uart =
        some moved)
    (stepped : source.devices.step moved.2 = some devices) :
    SmpMachine.step source (.advance cpu) =
      some
        { vcpus := Function.update source.vcpus cpu moved.1, devices } := by
  have moves :
      (source.vcpus cpu).advance cpu (source.devices.cmos.cpus cpu)
          (source.devices.com1.cpus cpu) =
        some moved := ran
  simp only [SmpMachine.step, move, moves, Option.map_some, Option.bind_some,
    stepped]

/-- `KVM_RUN` returns in a virtual CPU; the other threads stay. -/
theorem kvmRun_of_step
    {iteration : Iteration}
    (taken : step source (.kvmRun cpu iteration) = some target) :
    (thread source cpu).vcpu.place = .guest ∧
      actOf source (.kvmRun cpu iteration) = .idle ∧
      thread target =
        Function.update (thread source) cpu
          { thread source cpu with
            vcpu := (thread source cpu).vcpu.leaveGuest iteration } := by
  rcases move_of_step taken with ⟨act, moved, acted, stepped⟩
  rw [move] at moved
  split at moved
  · rename_i place
    rcases Prod.mk.inj (Option.some.inj moved) with ⟨vcpus, rfl⟩
    exact ⟨place, acted,
      (Left.idle vcpus.symm (Option.some.inj stepped).symm).thread_eq⟩
  · cases moved

/-- A step of the reader leaves every thread where it is. -/
theorem host_of_step
    {result : Com1Smp.HostRead}
    (taken : step source (.host result) = some target) :
    actOf source (.host result) = .com1 (.host result) ∧
      thread target = thread source := by
  rcases move_of_step taken with ⟨act, moved, acted, stepped⟩
  rcases Prod.mk.inj (Option.some.inj moved) with ⟨vcpus, rfl⟩
  rcases Com1SmpMoves.host_of_step (com1_of_step stepped) with
    ⟨_, _, _, cpus⟩
  have cmos : target.devices.cmos = source.devices.cmos :=
    cmos_of_step stepped
  refine ⟨acted, ?_⟩
  funext cpu
  rw [thread, ← vcpus, cmos, cpus]
  rfl

theorem reader_of_step
    {answers : Com1Smp.Answers}
    (taken : step source (.reader answers) = some target) :
    actOf source (.reader answers) = .com1 (.reader answers) ∧
      thread target = thread source := by
  rcases move_of_step taken with ⟨act, moved, acted, stepped⟩
  rcases Prod.mk.inj (Option.some.inj moved) with ⟨vcpus, rfl⟩
  rcases Com1SmpMoves.reader_of_step (com1_of_step stepped) with
    ⟨_, cpus⟩
  have cmos : target.devices.cmos = source.devices.cmos :=
    cmos_of_step stepped
  refine ⟨acted, ?_⟩
  funext cpu
  rw [thread, ← vcpus, cmos, cpus]
  rfl

/--
What the steps of a thread and its returns from the guest preserve holds of every
thread after any run.
-/
theorem thread_invariant
    (Invariant : Thread → Prop) {pages : Cpu → KvmPage} {cmosIndex : UInt8}
    {irqLevel : Bool} {labels : List (SmpMachine.Label Cpu)}
    (run : Run step (.start pages cmosIndex irqLevel) labels target)
    (initial : ∀ page,
      Invariant
        { vcpu := { page, place := .guest }
          clock := .returned 0 none, uart := .done })
    (moves : ∀ (devices : Devices Cpu) cpu act source next,
      Invariant source → Moves devices cpu source act next →
        Invariant next)
    (leaves : ∀ (source : Thread) iteration,
      Invariant source → source.vcpu.place = .guest →
        Invariant { source with vcpu := source.vcpu.leaveGuest iteration })
    (cpu : Cpu) : Invariant (thread target cpu) := by
  have fresh :
      Invariant (thread (.start pages cmosIndex irqLevel) cpu) :=
    initial (pages cpu)
  refine run.invariant (fun reached => Invariant (thread reached cpu)) fresh
    ?_
  intro source label target invariant taken
  cases label with
  | host result => rwa [(host_of_step taken).2]
  | reader answers => rwa [(reader_of_step taken).2]
  | kvmRun author iteration =>
      rcases kvmRun_of_step taken with ⟨place, _, threads⟩
      rw [threads]
      by_cases same : cpu = author
      · subst same
        rw [Function.update_self]
        exact leaves _ iteration invariant place
      · rwa [Function.update_of_ne same]
  | advance author =>
      rcases advance_of_step taken with ⟨next, moved, threads⟩
      rw [threads]
      by_cases same : cpu = author
      · subst same
        rw [Function.update_self]
        exact moves _ _ _ _ _ invariant moved
      · rwa [Function.update_of_ne same]

/-! ## What the host answers -/

/-- The host answers every call of the step, and of the iteration, with success. -/
def HostWilling : SmpMachine.Label Cpu → Prop
  | .kvmRun _ iteration => Willing iteration
  | .reader answers => answers.irq.Succeeded
  | .host _ | .advance _ => True

/-- The iteration whose exit a thread serves. -/
def iterationOf : Place → Option Iteration
  | .calling iteration _ | .inCmos iteration _ | .inCom1 iteration _ =>
      some iteration
  | .guest | .ended _ => none

omit [DecidableEq Cpu] in
/-- A thread which takes a step outside of `KVM_RUN` serves an exit. -/
theorem serving_of_moves
    {devices : Devices Cpu} {act : Act Cpu} {source next : Thread}
    (moves : Moves devices cpu source act next) :
    ∃ iteration, iterationOf source.vcpu.place = some iteration := by
  cases moves with
  | exitDone place | strays place | cmosReturns place | cmosStrays place
  | cmosSteps place | com1Returns place | com1Steps place =>
      exact ⟨_, by rw [place]; rfl⟩
  | ignored calls | refused calls | callCmos calls | callCom1 calls =>
      exact ⟨_, by rw [calls.place]; rfl⟩

theorem willing_access
    (direction : Direction) (port : UInt16) (byte : UInt8) :
    Willing (accessIteration direction port byte) :=
  fun _ => ⟨trivial, trivial, trivial⟩

theorem answers_succeed
    {serial : SerialAnswers} (succeed : serial.Succeed) (pc : Com1Smp.Pc) :
    (pc.answers serial).write.Succeeded ∧
      (pc.answers serial).irq.Succeeded := by
  cases pc with
  | flapLow origin => exact ⟨succeed.write, succeed.irqLow⟩
  | _ => exact ⟨succeed.write, succeed.irqHigh⟩

end Lvmm.Vm.SmpThreads
