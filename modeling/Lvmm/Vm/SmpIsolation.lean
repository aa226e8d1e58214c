import Lvmm.Vm.SmpThreads

/-!
# The loops of the virtual CPUs do not end each other

The threads share the devices, but while the host answers, the exits of a virtual
CPU alone decide whether its loop goes on: nothing which another one writes into a
register makes an access fail or leave an array.
-/

namespace Lvmm.Vm.SmpIsolation

open Lvmm.Device
open Lvmm.Device.CmosDevice
open Lvmm.Device.Com1Device
open Lvmm.Library.LabelledRun
open Lvmm.Vcpu.FatalExit
open Lvmm.Vcpu.GuestMachine (accessIteration exitKind filled)
open Lvmm.Vcpu.RunLoop
open Lvmm.Vcpu.RunOnce
open Lvmm.Vm.PortBus
open Lvmm.Vm.PortIo
open Lvmm.Vm.SysCall
open Lvmm.Vm.SmpMachine
open Lvmm.Vm.SmpThreads

/-! ## What an access returns -/

/-- An access to the CMOS which has returned has returned zero. -/
def ClockZero (clock : CmosSmp.Pc) : Prop :=
  ∀ result stored, clock = .returned result stored → result = 0

/-- An access to the UART which has returned has returned zero. -/
def UartZero (uart : Com1Smp.Pc) : Prop :=
  ∀ result stored, uart = .returned result stored → result = 0

/-- Only the size of an access can make the CMOS refuse it. -/
theorem clock_entry
    (access : CmosAccess.Access)
    (owned : access.port = pioPortCmosIndex ∨ access.port = pioPortCmosData) :
    if access.size = 1 then ClockZero (.entry access)
    else CmosSmp.Pc.entry access = .returned 1 none := by
  have zero (pc : CmosSmp.Pc)
      (pending : ∀ result stored, pc ≠ .returned result stored) :
      ClockZero pc :=
    fun result stored returned => absurd returned (pending result stored)
  split_ifs with oneByte
  · rcases owned with atIndex | atData
    · cases access with
      | read now port cell size | write port cell size =>
          cases oneByte
          cases atIndex
          exact zero _ (by rintro result stored ⟨⟩)
    · cases access with
      | read now port cell size | write port cell size =>
          cases oneByte
          cases atData
          exact zero _ (by rintro result stored ⟨⟩)
  · cases access with
    | read now port cell size | write port cell size => exact if_pos oneByte

theorem clock_step
    {cmos : Cmos} {pc next : CmosSmp.Pc} {effect : CmosSmp.Effect}
    (taken : pc.step cmos = some (effect, next)) : ClockZero next := by
  intro result stored returned
  subst returned
  cases pc with
  | returned | outOfBounds => cases taken
  | readIndex | readReset | writeIndex | writeReset =>
      cases taken
      rfl
  | readSubscript | writeSubscript => cases taken
  | readSwitch now =>
      simp only [CmosSmp.Pc.step] at taken
      split at taken <;> cases taken
  | readData index =>
      simp only [CmosSmp.Pc.step] at taken
      split_ifs at taken <;> cases taken
  | writeTest byte =>
      simp only [CmosSmp.Pc.step] at taken
      split_ifs at taken <;> cases taken
  | writeData index byte =>
      simp only [CmosSmp.Pc.step] at taken
      split_ifs at taken <;> cases taken

theorem uart_entry (access : Com1Smp.Access) : UartZero access.entry := by
  intro result stored returned
  cases access with
  | read port => cases port <;> cases returned
  | write port byte => cases port <;> cases returned

/-- An access to the UART fails only where a call of the host does. -/
theorem uart_step
    {shared : Com1Smp.Shared} {answers : Com1Smp.Answers}
    {pc next : Com1Smp.Pc} {effect : Com1Smp.Effect}
    (written : answers.write.Succeeded) (driven : answers.irq.Succeeded)
    (taken : pc.step shared answers = some (effect, next)) :
    UartZero next := by
  have answered : irqLine answers.irq = 0 :=
    (zeroOrErrno_eq_zero_iff answers.irq).mpr driven
  intro result stored returned
  subst returned
  cases pc with
  | returned => cases taken
  | rbrPop | ierLoad | iirLoadFcr | lcrLoad | mcrLoad | lsrTestRx
  | msrLoadOut2 | srLoad | thrPush | dllStore | dlhStore | registerStore =>
      cases taken
      rfl
  | iirTestRx | iirLoadThrEmpty | msrLoadDtr | msrLoadRts | msrLoadOut1
  | ierStore | ierTestRx => cases taken
  | rbrLoadLcr | ierLoadLcr | iirLoadDataAvl | msrLoadLoop | thrLoadLcr
  | thrLoadMcr | dlhLoadLcr | ierLoadThrEmpty =>
      simp only [Com1Smp.Pc.step] at taken
      split at taken <;> cases taken <;> rfl
  | thrLoadIer | ierLoadDataAvl =>
      simp only [Com1Smp.Pc.step, Com1Smp.Pc.flapIf] at taken
      split at taken <;> cases taken
      rfl
  | thrWrite byte =>
      simp only [Com1Smp.Pc.step, if_pos written] at taken
      cases taken
  | flapLow origin =>
      simp only [Com1Smp.Pc.step, answered, ne_eq, not_true_eq_false,
        if_false] at taken
      cases taken
  | flapHigh origin =>
      simp only [Com1Smp.Pc.step, answered, ne_eq, not_true_eq_false,
        if_false] at taken
      cases taken
      rfl

/-! ## An exit in service -/

/-- The owner of the port of an exit accepts its elements. -/
def Accepted (page : KvmRun) : Prop :=
  accepts page.io.direction page.io.port page.io.size = true

/-- An element of the exit has its row in the table. -/
structure Element (page : KvmRun) (index : Nat) : Prop where
  below : index < page.io.count.toNat
  notTop : page.io.port ≠ 0xFFFF

/-- A thread serves the exit of a page, and its elements have passed so far. -/
structure Serves (page : KvmRun) (thread : Thread) (last : Iteration) :
    Prop where
  willing : Willing last
  place : iterationOf thread.vcpu.place = some last
  run : thread.vcpu.page.run = page
  exit : exitKind page = .io page.io
  passed : ∀ index, thread.vcpu.place = .calling last index → index ≠ 0 →
    page.io.port ≠ 0xFFFF ∧ Accepted page
  inCmos : ∀ index, thread.vcpu.place = .inCmos last index →
    Element page index ∧
      (Accepted page ∧ ClockZero thread.clock ∨
        ¬ Accepted page ∧ thread.clock = .returned 1 none)
  inCom1 : ∀ index, thread.vcpu.place = .inCom1 last index →
    Element page index ∧ Accepted page ∧ UartZero thread.uart

/--
How a thread stands after the iterations of its virtual CPU, the page of which was
`start`: it has passed all exits but perhaps the last one, and ended as that one says.
-/
inductive Stands (start : KvmRun) (thread : Thread) :
    List Iteration → Prop where
  | inGuest {iterations : List Iteration}
      (place : thread.vcpu.place = .guest)
      (run : thread.vcpu.page.run = runAfter start iterations)
      (through : BenignThrough start iterations) :
      Stands start thread iterations
  | inService {earlier : List Iteration} {last : Iteration}
      (serves : Serves (runAfter start (earlier ++ [last])) thread last)
      (through : BenignThrough start earlier) :
      Stands start thread (earlier ++ [last])
  | behind {earlier : List Iteration} {last : Iteration} (outcome : Outcome)
      (place : thread.vcpu.place = .ended outcome)
      (through : BenignThrough start earlier)
      (ends :
        verdict (runAfter start (earlier ++ [last])) last =
          .ended outcome) :
      Stands start thread (earlier ++ [last])

section Service

variable {Cpu : Type*}
variable {devices : Devices Cpu} {cpu : Cpu} {act : Act Cpu}
variable {source next : Thread} {start page : KvmRun}
variable {earlier iterations : List Iteration} {last : Iteration}
variable {index : Nat}

/-- A page with an element in the table lets the loop go on if it is accepted. -/
theorem benign_iff_accepted
    (exit : exitKind page = .io page.io) (element : Element page index) :
    benign page = true ↔ Accepted page := by
  have counted : (page.io.count == 0) = false := by
    rw [beq_eq_false_iff_ne]
    intro empty
    have below := element.below
    rw [empty] at below
    exact Nat.not_lt_zero _ below
  have known : (page.io.port != 0xFFFF) = true := by
    simpa using element.notTop
  rw [benign, exit]
  simp only [counted, known, Bool.false_or, Bool.true_and]
  rfl

theorem Serves.io_eq (serves : Serves page source last) :
    source.io = page.io := by
  rw [Thread.io, serves.run]

theorem Serves.iteration_eq
    {place : Place} {iteration : Iteration}
    (serves : Serves page source last)
    (found : source.vcpu.place = place)
    (reached : iterationOf place = some iteration) : iteration = last := by
  have same := serves.place
  rw [found, reached] at same
  exact Option.some.inj same

/-- A handler returned what the owner of the port decides. -/
theorem Serves.finish
    {result : Int} {stored : Option UInt8}
    (serves : Serves (runAfter start (earlier ++ [last])) source last)
    (through : BenignThrough start earlier)
    (element : Element (runAfter start (earlier ++ [last])) index)
    (answer :
      result = 0 ↔ Accepted (runAfter start (earlier ++ [last]))) :
    Stands start (source.finish last index result stored)
      (earlier ++ [last]) := by
  by_cases zero : result = 0
  · have accepted := answer.mp zero
    subst zero
    refine .inService
      ⟨serves.willing, rfl, serves.run, serves.exit, ?_, ?_, ?_⟩ through
    · exact fun _ _ _ => ⟨element.notTop, accepted⟩
    · intro other inCmos
      simp [Thread.finish, Vcpu.finish] at inCmos
    · intro other inCom1
      simp [Thread.finish, Vcpu.finish] at inCom1
  · have refused : ¬ Accepted (runAfter start (earlier ++ [last])) :=
      fun accepted => zero (answer.mpr accepted)
    have fatal : benign (runAfter start (earlier ++ [last])) = false := by
      rw [← Bool.not_eq_true, benign_iff_accepted serves.exit element]
      exact refused
    refine .behind (.returned (giveUp last)) ?_ through ?_
    · simp [Thread.finish, Vcpu.finish, zero]
    · rw [verdict, fatal, serves.exit]
      simp [element.notTop]

/-- Every element has passed. -/
theorem Serves.exitDone
    (serves : Serves (runAfter start (earlier ++ [last])) source last)
    (through : BenignThrough start earlier)
    (place : source.vcpu.place = .calling last index)
    (all : source.io.count.toNat ≤ index) :
    Stands start (source.at .guest) (earlier ++ [last]) := by
  refine .inGuest rfl serves.run ((benignThrough_snoc last).mpr ⟨through, ?_⟩)
  rw [benign, serves.exit]
  rw [serves.io_eq] at all
  by_cases first : index = 0
  · have empty : (runAfter start (earlier ++ [last])).io.count = 0 :=
      UInt32.toNat_inj.mp (Nat.le_zero.mp (first ▸ all))
    simp [empty]
  · have passed := serves.passed index place first
    have accepted :
        accepts (runAfter start (earlier ++ [last])).io.direction
            (runAfter start (earlier ++ [last])).io.port
            (runAfter start (earlier ++ [last])).io.size =
          true := passed.2
    simp [accepted, passed.1]

/-- The last port has no row in the table. -/
theorem Serves.strays
    (serves : Serves (runAfter start (earlier ++ [last])) source last)
    (through : BenignThrough start earlier)
    (below : index < source.io.count.toNat)
    (top : source.io.port = 0xFFFF) :
    Stands start (source.at (.ended .outOfBounds)) (earlier ++ [last]) := by
  rw [serves.io_eq] at below top
  refine .behind .outOfBounds rfl through ?_
  have counted : (runAfter start (earlier ++ [last])).io.count ≠ 0 := by
    intro empty
    rw [empty] at below
    exact Nat.not_lt_zero _ below
  have fatal : benign (runAfter start (earlier ++ [last])) = false := by
    simp [benign, serves.exit, counted, top]
  rw [verdict, fatal, serves.exit]
  simp [top]

theorem Serves.element
    (serves : Serves page source last)
    (calls : source.Calls last index) : Element page index := by
  have below := calls.below
  have notTop := calls.notTop
  rw [serves.io_eq] at below notTop
  exact ⟨below, notTop⟩

theorem Serves.owner_eq (serves : Serves page source last) :
    source.owner = wiring page.io.direction page.io.port.toNat := by
  rw [Thread.owner, serves.io_eq]

/-- The thread calls the CMOS. -/
theorem Serves.callCmos
    (serves : Serves page source last)
    (calls : source.Calls last index) (owner : source.owner = .cmos) :
    Serves page
      { source.at (.inCmos last index) with
        clock := .entry (source.vcpu.access last index).toCmos }
      last := by
  refine ⟨serves.willing, rfl, serves.run, serves.exit, ?_, ?_, ?_⟩
  · rintro other ⟨⟩
  · intro other inCmos
    cases inCmos
    refine ⟨serves.element calls, ?_⟩
    have wire : wiring page.io.direction page.io.port.toNat = .cmos := by
      rw [← serves.owner_eq, owner]
    have size :
        (source.vcpu.access last index).toCmos.size = page.io.size := by
      rw [← serves.io_eq, PortAccess.toCmos]
      cases (source.vcpu.access last index).direction <;> rfl
    have port :
        (source.vcpu.access last index).toCmos.port = page.io.port := by
      rw [← serves.io_eq, PortAccess.toCmos]
      cases (source.vcpu.access last index).direction <;> rfl
    have entered :=
      clock_entry (source.vcpu.access last index).toCmos
        (port ▸ cmos_ports wire)
    rw [size] at entered
    have accepted : Accepted page ↔ page.io.size = 1 := by
      rw [Accepted, accepts, wire]
      simp
    rw [accepted]
    split_ifs at entered with oneByte
    · exact .inl ⟨oneByte, entered⟩
    · exact .inr ⟨oneByte, entered⟩
  · rintro other ⟨⟩

/-- The thread calls the UART. -/
theorem Serves.callCom1
    {own : Com1Smp.Access} (serves : Serves page source last)
    (calls : source.Calls last index) (owner : source.owner = .com1) :
    Serves page { source.at (.inCom1 last index) with uart := own.entry }
      last := by
  refine ⟨serves.willing, rfl, serves.run, serves.exit, ?_, ?_, ?_⟩
  · rintro other ⟨⟩
  · rintro other ⟨⟩
  · intro other inCom1
    cases inCom1
    refine ⟨serves.element calls, ?_, uart_entry own⟩
    rw [Accepted, accepts, ← serves.owner_eq, owner]

/-- A step of a thread which serves an exit. -/
theorem Serves.moves
    (serves : Serves (runAfter start (earlier ++ [last])) source last)
    (through : BenignThrough start earlier) (inside : source.clock.Inside)
    (moves : Moves devices cpu source act next) :
    Stands start next (earlier ++ [last]) := by
  cases moves with
  | exitDone place all =>
      cases serves.iteration_eq place rfl
      exact serves.exitDone through place all
  | strays place below top => exact serves.strays through below top
  | ignored calls owner =>
      cases serves.iteration_eq calls.place rfl
      refine serves.finish through (serves.element calls) ?_
      rw [Accepted, accepts, ← serves.owner_eq]
      rcases owner with owner | owner <;> simp [owner]
  | refused calls owner =>
      cases serves.iteration_eq calls.place rfl
      refine serves.finish through (serves.element calls) ?_
      rw [Accepted, accepts, ← serves.owner_eq]
      rcases owner with owner | owner <;> simp [owner]
  | callCmos calls owner =>
      cases serves.iteration_eq calls.place rfl
      exact .inService (serves.callCmos calls owner) through
  | callCom1 calls owner =>
      cases serves.iteration_eq calls.place rfl
      exact .inService (serves.callCom1 calls owner) through
  | @cmosReturns iteration index result stored place returned =>
      cases serves.iteration_eq place rfl
      rcases serves.inCmos index place with
        ⟨element, ⟨accepted, zero⟩ | ⟨refused, one⟩⟩
      · refine serves.finish through element ?_
        exact iff_of_true (zero result stored returned) accepted
      · refine serves.finish through element ?_
        cases one.symm.trans returned
        exact iff_of_false (by decide) refused
  | cmosStrays place outside =>
      rw [outside] at inside
      exact inside.elim
  | @cmosSteps iteration index effect clock place stepped =>
      cases serves.iteration_eq place rfl
      refine .inService { serves with inCmos := ?_ } through
      intro other here
      have kept := serves.inCmos other here
      refine ⟨kept.1, ?_⟩
      rcases kept.2 with ⟨accepted, _⟩ | ⟨_, one⟩
      · exact .inl ⟨accepted, clock_step stepped⟩
      · rw [one] at stepped
        cases stepped
  | @com1Returns iteration index result stored place returned =>
      cases serves.iteration_eq place rfl
      rcases serves.inCom1 index place with ⟨element, accepted, zero⟩
      exact serves.finish through element
        (iff_of_true (zero result stored returned) accepted)
  | @com1Steps iteration index effect uart place stepped =>
      cases serves.iteration_eq place rfl
      refine .inService { serves with inCom1 := ?_ } through
      intro other here
      have kept := serves.inCom1 other here
      have answered := answers_succeed (serves.willing index) source.uart
      exact ⟨kept.1, kept.2.1, uart_step answered.1 answered.2 stepped⟩

/-- A step of a thread keeps where it stands. -/
theorem Stands.moves
    (stands : Stands start source iterations)
    (inside : source.clock.Inside)
    (moves : Moves devices cpu source act next) :
    Stands start next iterations := by
  rcases serving_of_moves moves with ⟨iteration, serving⟩
  cases stands with
  | inGuest place =>
      rw [place] at serving
      cases serving
  | behind outcome place =>
      rw [place] at serving
      cases serving
  | inService serves through => exact serves.moves through inside moves

/-- Leaving the guest begins an iteration. -/
theorem Stands.leaveGuest
    (stands : Stands start source iterations)
    (place : source.vcpu.place = .guest) {iteration : Iteration}
    (willing : Willing iteration) :
    Stands start
      { source with vcpu := source.vcpu.leaveGuest iteration }
      (iterations ++ [iteration]) := by
  have through : BenignThrough start iterations ∧
      source.vcpu.page.run = runAfter start iterations := by
    cases stands with
    | inGuest _ run through => exact ⟨through, run⟩
    | inService serves =>
        have serving := serves.place
        rw [place] at serving
        cases serving
    | behind outcome ended =>
        rw [place] at ended
        cases ended
  have page :
      (source.vcpu.pageAfter iteration).run =
        runAfter start (iterations ++ [iteration]) := by
    rw [runAfter_snoc, runAfterOne, ← through.2]
    exact writtenRun iteration.kvmRun source.vcpu.page
  cases kind : exitKind (source.vcpu.pageAfter iteration).run with
  | resume =>
      refine .inGuest ?_ page
        ((benignThrough_snoc iteration).mpr ⟨through.1, ?_⟩)
      · simp [Vcpu.leaveGuest, kind]
      · rw [← page, benign, kind]
  | stop =>
      refine .behind (.returned (giveUp iteration)) ?_ through.1 ?_
      · simp [Vcpu.leaveGuest, kind]
      · rw [← page, verdict, benign, kind]
        rfl
  | io io =>
      have own := io_of_exitKind kind
      subst own
      refine .inService ⟨willing, ?_, page, ?_, ?_, ?_, ?_⟩ through.1
      · simp [Vcpu.leaveGuest, kind, iterationOf]
      · rw [← page]
        exact kind
      · intro index calling notFirst
        simp only [Vcpu.leaveGuest, kind] at calling
        cases calling
        exact absurd rfl notFirst
      · intro index inCmos
        simp [Vcpu.leaveGuest, kind] at inCmos
      · intro index inCom1
        simp [Vcpu.leaveGuest, kind] at inCom1

end Service

/-! ## Runs -/

section Runs

variable {Cpu : Type*} [DecidableEq Cpu]
variable {source target : Machine Cpu} {label : SmpMachine.Label Cpu}
variable {labels : List (SmpMachine.Label Cpu)} {start : KvmRun}
variable {pages : Cpu → KvmPage} {cmosIndex : UInt8} {irqLevel : Bool}

/-- The iteration which a step begins in a virtual CPU. -/
def beginsIn (cpu : Cpu) : SmpMachine.Label Cpu → Option Iteration
  | .kvmRun author iteration => if author = cpu then some iteration else none
  | _ => none

/-- The iterations of a virtual CPU. -/
def iterationsOf (cpu : Cpu) (labels : List (SmpMachine.Label Cpu)) :
    List Iteration :=
  labels.filterMap (beginsIn cpu)

theorem iterationsOf_snoc (cpu : Cpu) :
    iterationsOf cpu (labels ++ [label]) =
      iterationsOf cpu labels ++ (beginsIn cpu label).toList := by
  rw [iterationsOf, iterationsOf, List.filterMap_append]
  cases begun : beginsIn cpu label <;> simp [begun]

/-- The CMOS array is not left. -/
theorem inside_of_machine
    (inside : CmosSmp.Inside source.devices.cmos)
    (taken : SmpMachine.step source label = some target) :
    CmosSmp.Inside target.devices.cmos := by
  rcases move_of_step taken with ⟨act, _, _, stepped⟩
  have moved := cmos_of_step stepped
  cases own : act.cmos? with
  | none =>
      rw [own] at moved
      rwa [show target.devices.cmos = source.devices.cmos from moved]
  | some mine =>
      rw [own] at moved
      exact CmosSmp.inside_step inside moved

/-- A step keeps where every thread stands. -/
theorem stands_step
    {cpu : Cpu}
    (stands : Stands start (thread source cpu) (iterationsOf cpu labels))
    (inside : CmosSmp.Inside source.devices.cmos)
    (willing : HostWilling label)
    (taken : SmpMachine.step source label = some target) :
    Stands start (thread target cpu) (iterationsOf cpu (labels ++ [label])) := by
  rw [iterationsOf_snoc]
  cases label with
  | host result =>
      rw [(host_of_step taken).2]
      simpa [beginsIn] using stands
  | reader answers =>
      rw [(reader_of_step taken).2]
      simpa [beginsIn] using stands
  | kvmRun author iteration =>
      rcases kvmRun_of_step taken with ⟨place, _, threads⟩
      rw [threads]
      by_cases same : author = cpu
      · subst same
        have begun : beginsIn author (.kvmRun author iteration) = some iteration :=
          if_pos rfl
        rw [Function.update_self, begun]
        exact stands.leaveGuest place willing
      · rw [Function.update_of_ne (Ne.symm same)]
        simpa [beginsIn, same] using stands
  | advance author =>
      rcases advance_of_step taken with ⟨next, moves, threads⟩
      rw [threads]
      by_cases same : author = cpu
      · subst same
        rw [Function.update_self]
        simpa [beginsIn] using stands.moves (inside.cpus author) moves
      · rw [Function.update_of_ne (Ne.symm same)]
        simpa [beginsIn] using stands

/-- Where every thread stands after a run. -/
theorem stands_run
    (inside : cmosIndex.toNat < cmosMemSize)
    (run :
      Run SmpMachine.step (.start pages cmosIndex irqLevel) labels target)
    (willing : ∀ label ∈ labels, HostWilling label) :
    CmosSmp.Inside target.devices.cmos ∧
      ∀ cpu,
        Stands (pages cpu).run (thread target cpu)
          (iterationsOf cpu labels) := by
  induction run with
  | refl =>
      refine ⟨CmosSmp.inside_fresh inside, fun cpu => .inGuest rfl rfl ?_⟩
      intro count below
      exact absurd below (Nat.not_lt_zero count)
  | @snoc labels middle target label before taken induction =>
      rcases induction fun earlier member =>
          willing earlier (List.mem_append_left _ member) with
        ⟨within, stands⟩
      refine ⟨inside_of_machine within taken, fun cpu => ?_⟩
      exact stands_step (stands cpu) within (willing label (by simp)) taken

/-- How a virtual CPU stands by its own iterations, without the other ones. -/
structure EndsByItself
    (start : KvmRun) (place : Place) (iterations : List Iteration) : Prop where
  /-- In the guest, all its pages have let the loop go on. -/
  inGuest : place = .guest → BenignThrough start iterations
  /-- Elsewhere, all but the last one. -/
  outside : place ≠ .guest →
    ∃ earlier last,
      iterations = earlier ++ [last] ∧ BenignThrough start earlier
  /-- Behind its loop, the last page says how it ended. -/
  ended : ∀ outcome, place = .ended outcome →
    ∃ earlier last,
      iterations = earlier ++ [last] ∧
        verdict (runAfter start iterations) last = .ended outcome

theorem Stands.endsByItself
    {thread : Thread} {iterations : List Iteration}
    (stands : Stands start thread iterations) :
    EndsByItself start thread.vcpu.place iterations := by
  cases stands with
  | inGuest place run through =>
      rw [place]
      refine ⟨fun _ => through, fun outside => absurd rfl outside, ?_⟩
      rintro outcome ⟨⟩
  | inService serves through =>
      have serving := serves.place
      refine ⟨?_, fun _ => ⟨_, _, rfl, through⟩, ?_⟩
      · intro place
        rw [place] at serving
        cases serving
      · intro outcome place
        rw [place] at serving
        cases serving
  | behind outcome place through ends =>
      rw [place]
      refine ⟨?_, fun _ => ⟨_, _, rfl, through⟩, ?_⟩
      · rintro ⟨⟩
      · rintro other ⟨⟩
        exact ⟨_, _, rfl, ends⟩

/--
With a willing host, in every interleaving of any number of virtual CPUs and the
reader, the loop of each of them goes on and ends as its own exits say, whatever the
others do to the devices, and no access leaves the array of the CMOS.
-/
theorem smp_ends_at_fatal_exit
    (inside : cmosIndex.toNat < cmosMemSize)
    (run :
      Run SmpMachine.step (.start pages cmosIndex irqLevel) labels target)
    (willing : ∀ label ∈ labels, HostWilling label) (cpu : Cpu) :
    target.devices.cmos.cpus cpu ≠ .outOfBounds ∧
      EndsByItself (pages cpu).run (target.vcpus cpu).place
        (iterationsOf cpu labels) := by
  rcases stands_run inside run willing with ⟨within, stands⟩
  refine ⟨fun outside => ?_, ?_⟩
  · have own := within.cpus cpu
    rw [outside] at own
    exact own
  · exact (stands cpu).endsByItself

end Runs

/-- One CPU resets the machine while the other one is in the handler of the CMOS. -/
def resettingNeighbour : List (SmpMachine.Label Bool) :=
  [ .kvmRun true (accessIteration .output 0x70 0xFF), .advance true,
    .kvmRun false (accessIteration .output 0xCF9 6), .advance false,
    .advance true ]

/-- The loop of the first CPU has ended, and the other one goes on. -/
theorem smp_ends_at_fatal_exit_reset :
    ∃ target : Machine Bool,
      Run SmpMachine.step
          (.start (fun _ => { run := freshPage, data := filled 0 }) 0 false)
          resettingNeighbour target ∧
        (target.vcpus false).place = .ended (.returned 1) ∧
        ∀ cpu,
          target.devices.cmos.cpus cpu ≠ .outOfBounds ∧
            EndsByItself freshPage (target.vcpus cpu).place
              (iterationsOf cpu resettingNeighbour) := by
  have reached : ∃ target : Machine Bool,
      Run SmpMachine.step
          (.start (fun _ => { run := freshPage, data := filled 0 }) 0 false)
          resettingNeighbour target ∧
        (target.vcpus false).place = .ended (.returned 1) :=
    ⟨_, Run.iff_foldlM.mpr rfl, rfl⟩
  rcases reached with ⟨target, run, ended⟩
  have willing : ∀ label ∈ resettingNeighbour, HostWilling label := by
    simp [resettingNeighbour, HostWilling, willing_access]
  exact ⟨target, run, ended, smp_ends_at_fatal_exit (by decide) run willing⟩

end Lvmm.Vm.SmpIsolation
