import Lvmm.Device.Com1SmpLoopback
import Lvmm.Device.Com1SmpTransmit
import Lvmm.Vm.SmpExits

/-!
# The console of the machine

What the guest writes to COM1 by the exits of all its virtual CPUs, and what the host
types, flows through the device as its own model says, and the interrupts which the
guest waits for have come when it is back in the guest.
-/

namespace Lvmm.Vm.SmpConsole

open Lvmm.Device
open Lvmm.Device.Com1Device
open Lvmm.Device.Com1SmpInterrupts (HostByteWaiting ReaderQuiet)
open Lvmm.Device.Com1SmpMoves (ierStage thrStage)
open Lvmm.Device.Com1SmpStreams (Lossless bytesOf pendingByte thrByte)
open Lvmm.Library.LabelledRun
open Lvmm.Vcpu.FatalExit (Willing)
open Lvmm.Vcpu.GuestMachine (accessIteration filled)
open Lvmm.Vcpu.RunLoop
open Lvmm.Vcpu.RunOnce
open Lvmm.Vm.SysCall
open Lvmm.Vm.SmpMachine
open Lvmm.Vm.SmpThreads
open Lvmm.Vm.SmpExits

variable {Cpu : Type*}

/-! ## What the host answers -/

/-- The calls which a step of the UART may make succeed. -/
def Answered : Com1Smp.Label Cpu → Prop
  | .advance _ answers => answers.write.Succeeded ∧ answers.irq.Succeeded
  | .reader answers => answers.irq.Succeeded
  | .host _ | .begin _ _ => True

section Threads

variable {devices : Devices Cpu} {cpu : Cpu} {act : Act Cpu}
variable {source next : Thread}

theorem iterationOf_finish
    {iteration other : Iteration} {index : Nat} {result : Int}
    {stored : Option UInt8}
    (serves :
      iterationOf (source.finish iteration index result stored).vcpu.place =
        some other) : other = iteration := by
  simp only [Thread.finish, Vcpu.finish] at serves
  split_ifs at serves
  · cases serves
  · cases serves
    rfl

/-- A thread serves the exit of the iteration it left the guest with. -/
theorem iterationOf_moves
    {iteration : Iteration} (moves : Moves devices cpu source act next)
    (serves : iterationOf next.vcpu.place = some iteration) :
    iterationOf source.vcpu.place = some iteration := by
  cases moves with
  | exitDone | strays | cmosStrays => cases serves
  | ignored calls | refused calls =>
      rw [iterationOf_finish serves, calls.place]
      rfl
  | callCmos calls | callCom1 calls =>
      rw [calls.place]
      exact serves
  | cmosReturns place | com1Returns place =>
      rw [iterationOf_finish serves, place]
      rfl
  | cmosSteps | com1Steps => exact serves

/-- A step of a willing iteration is answered with success. -/
theorem answered_of_moves
    (willing : ∀ iteration, iterationOf source.vcpu.place = some iteration →
      Willing iteration)
    (moves : Moves devices cpu source act next) :
    ∀ own, act.com1? = some own → Answered own := by
  intro own mine
  cases moves with
  | exitDone | strays | ignored | refused | callCmos | cmosReturns
  | cmosStrays | cmosSteps | com1Returns => cases mine
  | callCom1 =>
      cases mine
      trivial
  | @com1Steps iteration index effect uart place stepped =>
      cases mine
      exact answers_succeed
        (willing iteration (by rw [place]; rfl) index) source.uart

/-- A thread outside of the UART has finished its last access there. -/
def UartIdle (thread : Thread) : Prop :=
  (∀ iteration index, thread.vcpu.place ≠ .inCom1 iteration index) →
    ∃ result stored, thread.uart = .returned result stored

theorem uartIdle_moves
    (idle : UartIdle source) (moves : Moves devices cpu source act next) :
    UartIdle next := by
  have elsewhere {place : Place} (here : source.vcpu.place = place)
      (outside : ∀ iteration index, place ≠ .inCom1 iteration index) :
      ∃ result stored, source.uart = .returned result stored :=
    idle fun iteration index inCom1 =>
      outside iteration index (here.symm.trans inCom1)
  intro outside
  cases moves with
  | exitDone place | strays place =>
      exact elsewhere place (by simp)
  | ignored calls | refused calls | callCmos calls =>
      exact elsewhere calls.place (by simp)
  | callCom1 => exact absurd rfl (outside _ _)
  | cmosReturns place | cmosStrays place =>
      exact elsewhere place (by simp)
  | cmosSteps place => exact elsewhere place (by simp)
  | com1Returns _ returned => exact ⟨_, _, returned⟩
  | com1Steps place => exact absurd place (outside _ _)

end Threads

/-! ## What the exits ask of the UART -/

/-- The byte which a request brings to the transmitter. -/
def thrOf : Request → Option UInt8
  | .com1 (.write .thrRbrDll byte) => some byte
  | _ => none

/-- The byte which a step takes from the host. -/
def hostByte : SmpMachine.Label Cpu → Option UInt8
  | .host (.byte byte) => some byte
  | _ => none

section Requests

variable [DecidableEq Cpu]
variable {source target : Machine Cpu} {label : SmpMachine.Label Cpu}
variable {history : History Cpu} {labels : List (SmpMachine.Label Cpu)}
variable {pages : Cpu → KvmPage} {cmosIndex : UInt8} {irqLevel : Bool}

/-- What the exits of one virtual CPU wrote to the transmitter. -/
def written (cpu : Cpu) (history : History Cpu) : List UInt8 :=
  ((exitsOf cpu history).flatMap complete).filterMap thrOf

/-- The steps which the UART has taken. -/
def com1Labels (history : History Cpu) : List (Com1Smp.Label Cpu) :=
  history.acts.filterMap Act.com1?

theorem com1Labels_observe :
    com1Labels (observe source label history) =
      com1Labels history ++ (actOf source label).com1?.toList := by
  rw [com1Labels, com1Labels, observe, List.filterMap_append]
  cases own : (actOf source label).com1? <;> simp [own]

/-- Every thread outside of the UART has finished its last access there. -/
theorem uartIdle_run
    (run : ObservedRun pages cmosIndex irqLevel labels target history)
    (cpu : Cpu) : UartIdle (thread target cpu) := by
  refine thread_invariant UartIdle run.unobserved
    (fun _ _ => ⟨_, _, rfl⟩)
    (fun _ _ _ _ _ idle moves => uartIdle_moves idle moves) ?_ cpu
  intro source iteration idle place _
  exact idle (by rw [place]; simp)

/-- Every iteration in service is willing, and every step of the UART answered. -/
structure Willingly (machine : Machine Cpu) (history : History Cpu) :
    Prop where
  serving : ∀ cpu iteration,
    iterationOf (thread machine cpu).vcpu.place = some iteration →
      Willing iteration
  answered : ∀ own ∈ com1Labels history, Answered own

theorem iterationOf_leaveGuest
    {vcpu : Vcpu} {iteration other : Iteration}
    (serves : iterationOf (vcpu.leaveGuest iteration).place = some other) :
    other = iteration := by
  simp only [Vcpu.leaveGuest] at serves
  split at serves <;> cases serves
  rfl

/-- A step whose own calls of the UART are answered. -/
theorem Willingly.observe
    (willingly : Willingly source history)
    (serving : ∀ cpu iteration,
      iterationOf (thread target cpu).vcpu.place = some iteration →
        Willing iteration)
    (own : ∀ mine, (actOf source label).com1? = some mine → Answered mine) :
    Willingly target (observe source label history) := by
  refine ⟨serving, fun mine member => ?_⟩
  rw [com1Labels_observe, List.mem_append] at member
  rcases member with earlier | last
  · exact willingly.answered mine earlier
  · exact own mine (Option.mem_toList.mp last)

theorem Willingly.step
    (willingly : Willingly source history) (willing : HostWilling label)
    (taken : SmpMachine.step source label = some target) :
    Willingly target (SmpMachine.observe source label history) := by
  cases label with
  | host result =>
      rcases host_of_step taken with ⟨acted, same⟩
      refine willingly.observe (by rw [same]; exact willingly.serving) ?_
      rintro mine own
      rw [acted] at own
      cases own
      trivial
  | reader answers =>
      rcases reader_of_step taken with ⟨acted, same⟩
      refine willingly.observe (by rw [same]; exact willingly.serving) ?_
      rintro mine own
      rw [acted] at own
      cases own
      exact willing
  | kvmRun author iteration =>
      rcases kvmRun_of_step taken with ⟨_, acted, threads⟩
      refine willingly.observe ?_ ?_
      · intro cpu other serves
        rw [threads] at serves
        by_cases same : cpu = author
        · subst same
          rw [Function.update_self] at serves
          rw [iterationOf_leaveGuest serves]
          exact willing
        · rw [Function.update_of_ne same] at serves
          exact willingly.serving cpu other serves
      · rintro mine own
        rw [acted] at own
        cases own
  | advance author =>
      rcases advance_of_step taken with ⟨next, moves, threads⟩
      refine willingly.observe ?_
        (answered_of_moves (willingly.serving author) moves)
      intro cpu other serves
      rw [threads] at serves
      by_cases same : cpu = author
      · subst same
        rw [Function.update_self] at serves
        exact willingly.serving cpu other (iterationOf_moves moves serves)
      · rw [Function.update_of_ne same] at serves
        exact willingly.serving cpu other serves

/-- The steps of the UART can be observed as a run of its own. -/
theorem com1_observed
    (run : ObservedRun pages cmosIndex irqLevel labels target history) :
    ∃ line,
      Com1Smp.ObservedRun irqLevel (com1Labels history)
        target.devices.com1 line := by
  rcases devices_run run with ⟨acts, recorded, ran⟩
  have all : history.acts = acts := recorded
  rw [com1Labels, all]
  exact (com1_run ran).observe Com1Smp.observe {}

/-- With a willing host, every step of the UART is answered with success. -/
theorem answered_run
    (run : ObservedRun pages cmosIndex irqLevel labels target history)
    (willing : ∀ label ∈ labels, HostWilling label) :
    ∀ own ∈ com1Labels history, Answered own := by
  have kept : Willingly target history := by
    refine run.invariant_of_labels
      (fun reached => Willingly reached.1 reached.2) HostWilling
      ⟨fun cpu iteration serves => ?_, fun own member => ?_⟩ ?_ willing
    · cases serves
    · cases member
    · intro source label next admitted willingly taken
      rcases observed_eq_some_iff.mp taken with ⟨stepped, recorded⟩
      rw [← recorded]
      exact willingly.step admitted stepped
  exact kept.answered

/-- With a willing host, no ioctl of the UART fails. -/
theorem ioctls_succeed
    (run : ObservedRun pages cmosIndex irqLevel labels target history)
    (willing : ∀ label ∈ labels, HostWilling label) :
    ∀ own ∈ com1Labels history, own.IoctlSucceeds := by
  intro own member
  have answered := answered_run run willing own member
  cases own with
  | host | begin => trivial
  | reader answers => exact answered
  | advance cpu answers => exact answered.2

/-- The thread is not in an access to the UART. -/
def Outside (machine : Machine Cpu) (cpu : Cpu) : Prop :=
  ∀ iteration index, (machine.vcpus cpu).place ≠ .inCom1 iteration index

theorem returned_of_outside
    (run : ObservedRun pages cmosIndex irqLevel labels target history)
    {cpu : Cpu} (outside : Outside target cpu) :
    ∃ result stored,
      target.devices.com1.cpus cpu = .returned result stored :=
  uartIdle_run run cpu outside

/-- What the guest can rely on while no CPU is in an access to the UART. -/
structure Signalled
    (machine : Machine Cpu) (line : Com1Smp.History Cpu) : Prop where
  /-- A waiting byte of the host has raised IRQ 4 if the guest wants that. -/
  receive :
    machine.devices.com1.shared.com1.isDataAvlSet = true →
      HostByteWaiting line →
        ∃ push rise,
          line.lastHostPush = some push ∧
            line.edges.lastRise = some rise ∧ push < rise ∧
            ∀ store, line.lastIerStore = some store → store < rise
  /-- So has the empty transmitter. -/
  transmit :
    machine.devices.com1.shared.com1.isThrEmptySet = true →
      ∃ store rise,
        line.lastIerStore = some store ∧
          line.edges.lastRise = some rise ∧ store < rise ∧
          ∀ sent, line.lastTransmit = some sent → sent < rise

/--
While the host is willing, no interrupt which the guest waits for is lost in the
machine: whenever the reader is quiet and no virtual CPU is in an access to the
UART, IRQ 4 has risen after what the guest has to be told.
-/
theorem console_interrupts
    (run : ObservedRun pages cmosIndex irqLevel labels target history)
    (willing : ∀ label ∈ labels, HostWilling label)
    (outside : ∀ cpu, Outside target cpu)
    (quiet : ReaderQuiet target.devices.com1.reader) :
    ∃ line,
      Com1Smp.ObservedRun irqLevel (com1Labels history)
          target.devices.com1 line ∧
        Signalled target line := by
  rcases com1_observed run with ⟨line, watched⟩
  have succeed := ioctls_succeed run willing
  have stages (cpu : Cpu) :
      ierStage (target.devices.com1.cpus cpu) = .outside ∧
        thrStage (target.devices.com1.cpus cpu) = .outside := by
    rcases returned_of_outside run (outside cpu) with
      ⟨result, stored, returned⟩
    rw [returned]
    exact ⟨rfl, rfl⟩
  refine ⟨line, watched, ?_, ?_⟩
  · exact (Com1SmpInterrupts.receiveInvariant_run watched succeed).rose quiet
      fun cpu => (stages cpu).1
  · exact (Com1SmpTransmit.transmitInvariant_run watched succeed).rose
      (fun cpu => (stages cpu).1) fun cpu => (stages cpu).2

end Requests

/-! ## Two virtual CPUs -/

/-- One CPU enables both interrupts while the host types and the other one writes. -/
def armingExits : List (SmpMachine.Label Bool) :=
  [ .kvmRun false (accessIteration .output 0x3F9 3), .advance false,
    .advance false, .host (.byte 0x61),
    .kvmRun true (accessIteration .output 0x3F8 0x42),
    .reader Com1SmpInterrupts.willing ] ++
  (List.replicate 7 [.advance true, .advance false]).flatten ++
  [.advance true, .advance true]

/-- Both CPUs are back in the guest, and IRQ 4 has risen for byte and transmitter. -/
theorem console_interrupts_arming :
    ∃ (target : Machine Bool) (history : History Bool)
        (line : Com1Smp.History Bool),
      ObservedRun (fun _ => { run := freshPage, data := filled 0 }) 0 false
          armingExits target history ∧
        target.devices.com1.shared.com1.ier = 3 ∧
        Signalled target line := by
  have reached : ∃ target history,
      ObservedRun (fun _ => { run := freshPage, data := filled 0 }) 0 false
          armingExits target history ∧
        (∀ cpu, (target.vcpus cpu).place = .guest) ∧
        target.devices.com1.reader = .blocked ∧
        target.devices.com1.shared.com1.ier = 3 := by
    refine ⟨_, _, Run.iff_foldlM.mpr rfl, ?_, rfl, rfl⟩
    rintro (_ | _) <;> rfl
  rcases reached with ⟨target, history, run, guest, blocked, armed⟩
  have outside (cpu : Bool) : Outside target cpu := by
    intro iteration index inCom1
    rw [guest] at inCom1
    cases inCom1
  have quiet : ReaderQuiet target.devices.com1.reader := by
    rw [blocked]
    trivial
  rcases console_interrupts run
    (by simp [armingExits, HostWilling, willing_access,
      Com1SmpInterrupts.willing]) outside quiet with ⟨line, _, signalled⟩
  exact ⟨target, history, line, run, armed, signalled⟩

end Lvmm.Vm.SmpConsole
