import Lvmm.Library.LabelledRun
import Lvmm.Vcpu.StringIo

/-!
# The run loop of a virtual CPU

`Vcpu::RunLoop` without guest debugging.  One iteration is one call of
`RunOnce`, which starts with a `KVM_RUN` ioctl.  A successful ioctl writes the
shared page.  A failing one may write it or leave it as the previous exit left
it, and `RunOnce` goes on in either case, since it discards the result of `Run`.
-/

namespace Lvmm.Vcpu.RunLoop

open Lvmm.Device.Com1Device
open Lvmm.Device.IoDev
open Lvmm.Library.CellMemory
open Lvmm.Library.LabelledRun
open Lvmm.Vcpu.RunOnce
open Lvmm.Vcpu.StringIo
open Lvmm.Vm.PortIo
open Lvmm.Vm.SysCall

/-- The shared page: the fields of `kvm_run` and the data area. -/
structure KvmPage where
  run : KvmRun
  data : Memory UInt8

/-- What a `KVM_RUN` ioctl did; a failing one may leave the page alone. -/
inductive KvmRunCall where
  | success (page : KvmPage)
  | failure (errno : Errno) (page : Option KvmPage)

/-- The ioctl did not fail. -/
def KvmRunCall.Succeeded : KvmRunCall → Prop
  | .success _ => True
  | .failure _ _ => False

instance (call : KvmRunCall) : Decidable call.Succeeded :=
  match call with
  | .success _ => isTrue trivial
  | .failure _ _ => isFalse id

/-- The page which the ioctl wrote, if it wrote one. -/
def KvmRunCall.written : KvmRunCall → Option KvmPage
  | .success page => some page
  | .failure _ page => page

/-- The answers which one iteration of the loop may get. -/
structure Iteration where
  kvmRun : KvmRunCall
  host : Nat → HostAnswers
  getRegs : SysResult
  getSregs : SysResult

/--
The value `RunLoop` returns once `RunOnce` did not return 0: that of a failing
dump of the registers, else 1.
-/
def giveUp (iteration : Iteration) : Int :=
  if zeroOrErrno iteration.getRegs ≠ 0 then zeroOrErrno iteration.getRegs
  else if zeroOrErrno iteration.getSregs ≠ 0 then
    zeroOrErrno iteration.getSregs
  else 1

/-- The loop goes on, or ended as stated. -/
inductive Status where
  | running
  | ended (outcome : Outcome)

/--
The state of the loop, with the I/O exits dispatched so far and the handler
calls made so far, each with the number of the `KVM_RUN` call it followed.
-/
structure LoopState where
  status : Status
  run : KvmRun
  io : IoState
  ioctls : Nat
  dispatched : List KvmIo
  handled : List (Nat × HandlerCall)

/-- The state in which `RunLoop` is entered. -/
def LoopState.enter (run : KvmRun) (io : IoState) : LoopState :=
  { status := .running, run, io, ioctls := 0, dispatched := [], handled := [] }

/-- How the loop goes on after `RunOnce`. -/
def afterOnce (iteration : Iteration) : Outcome → Status
  | .returned result =>
      if result ≠ 0 then .ended (.returned (giveUp iteration)) else .running
  | .badFunctionCall => .ended .badFunctionCall
  | .outOfBounds => .ended .outOfBounds

/-- One iteration of the loop. -/
def iterate
    (table : PioTable) (state : LoopState) (iteration : Iteration) :
    LoopState :=
  let page :=
    iteration.kvmRun.written.getD
      { run := state.run, data := state.io.data }
  let once :=
    runOnce table iteration.host page.run { state.io with data := page.data }
  { status := afterOnce iteration once.outcome
    run := page.run
    io := once.state
    ioctls := state.ioctls + 1
    dispatched := state.dispatched ++ once.dispatched.toList
    handled :=
      state.handled ++ once.calls.map fun call => (state.ioctls, call) }

/-- The loop as a step function: it iterates while it is running. -/
def step
    (table : PioTable) (state : LoopState) (iteration : Iteration) :
    Option LoopState :=
  match state.status with
  | .running => some (iterate table state iteration)
  | .ended _ => none

/-! ## Faithful dispatch -/

/-- The I/O exit which a page describes. -/
def ioExit (run : KvmRun) : Option KvmIo :=
  if run.exitReason = kvmExitIo then some run.io else none

/-- The I/O exit of a successful `KVM_RUN`. -/
def successfulIoExit (iteration : Iteration) : Option KvmIo :=
  match iteration.kvmRun with
  | .success page => ioExit page.run
  | .failure _ _ => none

/-- The fields of the page after one more ioctl. -/
def runAfterOne (run : KvmRun) (iteration : Iteration) : KvmRun :=
  (iteration.kvmRun.written.map KvmPage.run).getD run

/-- The fields of the page after the ioctls of some iterations. -/
def runAfter (start : KvmRun) (iterations : List Iteration) : KvmRun :=
  iterations.foldl runAfterOne start

/--
The I/O exits dispatched are those of the successful `KVM_RUN` calls, in order,
and no handler ran after a failing one.
-/
structure FaithfulDispatch
    (iterations : List Iteration) (target : LoopState) : Prop where
  dispatched : target.dispatched = iterations.filterMap successfulIoExit
  handled : ∀ entry ∈ target.handled,
    ∃ iteration, iterations[entry.1]? = some iteration ∧
      iteration.kvmRun.Succeeded

/-- No failing `KVM_RUN` leaves an I/O exit in the page. -/
def NoStaleIoExit (start : KvmRun) (iterations : List Iteration) : Prop :=
  ∀ index iteration, iterations[index]? = some iteration →
    ¬ iteration.kvmRun.Succeeded →
      (runAfter start (iterations.take (index + 1))).exitReason ≠ kvmExitIo

/-! ## One iteration -/

section Iterate

variable {table : PioTable} {state : LoopState} {iteration : Iteration}

theorem runOnce_dispatched
    (host : Nat → HostAnswers) (run : KvmRun) (io : IoState) :
    (runOnce table host run io).dispatched = ioExit run := by
  by_cases exit : run.exitReason = kvmExitIo
  · rw [runOnce_io _ _ exit, ioExit, if_pos exit]
    rfl
  · rw [(runOnce_of_not_io _ _ exit _).1, ioExit, if_neg exit]

theorem writtenRun (call : KvmRunCall) (before : KvmPage) :
    (call.written.getD before).run =
      (call.written.map KvmPage.run).getD before.run := by
  cases call.written <;> rfl

theorem iterate_run :
    (iterate table state iteration).run = runAfterOne state.run iteration :=
  writtenRun iteration.kvmRun _

/-- An iteration dispatches what it finds in the page. -/
theorem iterate_dispatched :
    (iterate table state iteration).dispatched =
      state.dispatched ++
        (ioExit (runAfterOne state.run iteration)).toList := by
  simp only [iterate, runOnce_dispatched, writtenRun, runAfterOne]

/-- The handler calls of an iteration carry its number. -/
theorem iterate_handled
    {entry : Nat × HandlerCall}
    (member : entry ∈ (iterate table state iteration).handled) :
    entry ∈ state.handled ∨ entry.1 = state.ioctls := by
  rcases List.mem_append.mp member with earlier | now
  · exact Or.inl earlier
  · rcases List.mem_map.mp now with ⟨call, _, rfl⟩
    exact Or.inr rfl

/-- Without an I/O exit in the page an iteration calls no handler. -/
theorem iterate_handled_of_not_io
    (exit : (runAfterOne state.run iteration).exitReason ≠ kvmExitIo) :
    (iterate table state iteration).handled = state.handled := by
  rw [runAfterOne, ← writtenRun _ { run := state.run, data := state.io.data }]
    at exit
  simp only [iterate, (runOnce_of_not_io _ _ exit _).2.1, List.map_nil,
    List.append_nil]

theorem step_eq_some
    {target : LoopState}
    (taken : step table state iteration = some target) :
    target = iterate table state iteration := by
  rw [step] at taken
  cases running : state.status with
  | running =>
      rw [running] at taken
      exact (Option.some.inj taken).symm
  | ended outcome =>
      rw [running] at taken
      cases taken

end Iterate

/-! ## Whole runs -/

section Runs

variable {table : PioTable} {start : KvmRun} {io : IoState}
variable {iterations : List Iteration} {target : LoopState}

theorem runAfter_snoc (iteration : Iteration) :
    runAfter start (iterations ++ [iteration]) =
      runAfterOne (runAfter start iterations) iteration := by
  rw [runAfter, List.foldl_append]
  rfl

/-- The page and the number of ioctls are those of the iterations. -/
theorem run_page
    (run : Run (step table) (.enter start io) iterations target) :
    target.run = runAfter start iterations ∧
      target.ioctls = iterations.length := by
  induction run with
  | refl => exact ⟨rfl, rfl⟩
  | snoc before taken induction =>
      rw [step_eq_some taken, iterate_run, runAfter_snoc, induction.1,
        List.length_append, ← induction.2]
      exact ⟨rfl, rfl⟩

theorem noStaleIoExit_snoc (iteration : Iteration) :
    NoStaleIoExit start (iterations ++ [iteration]) ↔
      NoStaleIoExit start iterations ∧
        (¬ iteration.kvmRun.Succeeded →
          (runAfter start (iterations ++ [iteration])).exitReason ≠
            kvmExitIo) := by
  constructor
  · intro fresh
    refine ⟨?_, ?_⟩
    · intro index other found failed
      have bound : index < iterations.length :=
        (List.getElem?_eq_some_iff.mp found).1
      have kept := fresh index other
        (by rw [List.getElem?_append_left bound, found]) failed
      rwa [List.take_append_of_le_length (by omega)] at kept
    · intro failed
      have last := fresh iterations.length iteration (by simp) failed
      rwa [List.take_of_length_le (by simp)] at last
  · rintro ⟨fresh, last⟩ index other found failed
    by_cases bound : index < iterations.length
    · rw [List.getElem?_append_left bound] at found
      rw [List.take_append_of_le_length (by omega)]
      exact fresh index other found failed
    · have atEnd : index = iterations.length := by
        have within := (List.getElem?_eq_some_iff.mp found).1
        rw [List.length_append, List.length_singleton] at within
        omega
      subst atEnd
      rw [List.take_of_length_le (by simp)]
      have same : iteration = other := by simpa using found
      exact last (same ▸ failed)

/-- What the page holds after a successful ioctl is what it reports. -/
theorem successfulIoExit_of_succeeded
    {iteration : Iteration} (succeeded : iteration.kvmRun.Succeeded)
    (run : KvmRun) :
    successfulIoExit iteration = ioExit (runAfterOne run iteration) := by
  rw [successfulIoExit, runAfterOne]
  cases call : iteration.kvmRun with
  | success page => rfl
  | failure errno page =>
      rw [call] at succeeded
      exact succeeded.elim

theorem successfulIoExit_of_failed
    {iteration : Iteration} (failed : ¬ iteration.kvmRun.Succeeded) :
    successfulIoExit iteration = none := by
  rw [successfulIoExit]
  cases call : iteration.kvmRun with
  | success page =>
      rw [call] at failed
      exact absurd trivial failed
  | failure errno page => rfl

theorem successes_snoc (iteration : Iteration) :
    (iterations ++ [iteration]).filterMap successfulIoExit =
      iterations.filterMap successfulIoExit ++
        (successfulIoExit iteration).toList := by
  rw [List.filterMap_append]
  cases exit : successfulIoExit iteration <;> simp [exit]

/-- Every successful I/O exit was dispatched. -/
theorem successes_le_dispatched
    (run : Run (step table) (.enter start io) iterations target) :
    (iterations.filterMap successfulIoExit).length ≤
      target.dispatched.length := by
  induction run with
  | refl => exact Nat.zero_le _
  | @snoc labels middle target iteration before taken induction =>
      rw [step_eq_some taken, iterate_dispatched, successes_snoc,
        List.length_append, List.length_append]
      by_cases succeeded : iteration.kvmRun.Succeeded
      · rw [successfulIoExit_of_succeeded succeeded middle.run]
        omega
      · rw [successfulIoExit_of_failed succeeded, Option.toList_none,
          List.length_nil]
        omega

/-- The dispatched exits are the successful ones when no stale one was left. -/
theorem dispatched_iff
    (run : Run (step table) (.enter start io) iterations target) :
    target.dispatched = iterations.filterMap successfulIoExit ↔
      NoStaleIoExit start iterations := by
  induction run with
  | refl =>
      constructor
      · intro _ index iteration found
        simp at found
      · intro _
        rfl
  | @snoc labels middle target iteration before taken induction =>
      rcases run_page before with ⟨page, _⟩
      rw [noStaleIoExit_snoc, runAfter_snoc, ← page, ← induction,
        step_eq_some taken, iterate_dispatched, successes_snoc]
      by_cases succeeded : iteration.kvmRun.Succeeded
      · rw [successfulIoExit_of_succeeded succeeded middle.run,
          List.append_left_inj]
        simp [succeeded]
      · rw [successfulIoExit_of_failed succeeded, Option.toList_none,
          List.append_nil]
        by_cases stale :
            (runAfterOne middle.run iteration).exitReason = kvmExitIo
        · have longer := successes_le_dispatched before
          rw [ioExit, if_pos stale, Option.toList_some]
          constructor
          · intro equal
            have lengths := congrArg List.length equal
            rw [List.length_append, List.length_singleton] at lengths
            omega
          · rintro ⟨_, fresh⟩
            exact absurd stale (fresh succeeded)
        · rw [ioExit, if_neg stale, Option.toList_none, List.append_nil]
          simp [stale]

/-- Without a stale exit every handler call follows a successful ioctl. -/
theorem handled_of_noStaleIoExit
    (run : Run (step table) (.enter start io) iterations target)
    (fresh : NoStaleIoExit start iterations) :
    ∀ entry ∈ target.handled,
      ∃ iteration, iterations[entry.1]? = some iteration ∧
        iteration.kvmRun.Succeeded := by
  induction run with
  | refl =>
      intro entry member
      cases member
  | @snoc labels middle target iteration before taken induction =>
      rcases run_page before with ⟨page, ioctls⟩
      rcases (noStaleIoExit_snoc iteration).mp fresh with
        ⟨earlierFresh, lastFresh⟩
      have earlier :
          ∀ entry ∈ middle.handled,
            ∃ other, (labels ++ [iteration])[entry.1]? = some other ∧
              other.kvmRun.Succeeded := by
        intro entry member
        rcases induction earlierFresh entry member with
          ⟨other, found, succeeded⟩
        have bound : entry.1 < labels.length :=
          (List.getElem?_eq_some_iff.mp found).1
        exact ⟨other, by rw [List.getElem?_append_left bound, found],
          succeeded⟩
      intro entry member
      rw [step_eq_some taken] at member
      by_cases succeeded : iteration.kvmRun.Succeeded
      · rcases iterate_handled member with before | now
        · exact earlier entry before
        · exact ⟨iteration, by simp [now, ioctls], succeeded⟩
      · have exit := lastFresh succeeded
        rw [runAfter_snoc, ← page] at exit
        rw [iterate_handled_of_not_io exit] at member
        exact earlier entry member

/--
In every run of the loop the dispatched exits are those of the successful
`KVM_RUN` calls, and no handler runs after a failing one, exactly when no failing
call of the run leaves an I/O exit in the page.
-/
theorem faithfulDispatch_iff
    (run : Run (step table) (.enter start io) iterations target) :
    FaithfulDispatch iterations target ↔ NoStaleIoExit start iterations := by
  constructor
  · intro faithful
    exact (dispatched_iff run).mp faithful.dispatched
  · intro fresh
    exact ⟨(dispatched_iff run).mpr fresh,
      handled_of_noStaleIoExit run fresh⟩

end Runs

/-! ## An interrupted output -/

/-- The page of a virtual CPU which has not run yet. -/
def freshPage : KvmRun :=
  { exitReason := kvmExitUnknown
    io :=
      { direction := .input, size := 0, port := 0, count := 0
        dataOffset := 0 } }

/-- A successful `KVM_RUN` which exits with an OUT of one byte to COM1. -/
def outIteration : Iteration :=
  { kvmRun := .success { run := outsExit 1, data := outsState.data }
    host := willingHost, getRegs := .ok 0, getSregs := .ok 0 }

/-- A `KVM_RUN` which a signal interrupts before the guest runs: `EINTR`. -/
def interruptedIteration : Iteration :=
  { kvmRun := .failure ⟨4, by decide⟩ none
    host := willingHost, getRegs := .ok 0, getSregs := .ok 0 }

/-- An iteration whose page holds an output to a COM1 keeps the loop running. -/
theorem step_output
    {table : PioTable} (state : LoopState) (iteration : Iteration)
    {index : Nat} {dev : IODev} {com1 : Com1} (page : KvmPage)
    (running : state.status = .running)
    (found :
      iteration.kvmRun.written.getD
        { run := state.run, data := state.io.data } = page)
    (exit : page.run.exitReason = kvmExitIo)
    (output :
      Com1Output table iteration.host page.run.io
        { state.io with data := page.data } index dev com1) :
    ∃ target, step table state iteration = some target ∧
      target.status = .running ∧ target.run = page.run ∧
      target.io.data = page.data ∧
      target.io.iodev[index]? = some { dev with device := .com1 com1 } ∧
      target.io.stdout =
        state.io.stdout ++
          List.replicate page.run.io.count.toNat
            (page.data page.run.io.dataOffset.toNat) := by
  have zero := dispatchIo_output_outcome output
  rcases dispatchIo_output output zero with ⟨data, device, stdout⟩
  refine ⟨iterate table state iteration, by rw [step, running], ?_⟩
  simp only [iterate, found, runOnce_io _ _ exit, zero, true_and]
  exact ⟨rfl, data, device, stdout⟩

/-- The machine's own handler table. -/
def machineTable : PioTable :=
  initPioHandler (machineIodev 0) emptyTable

/-- The run which outputs one byte and ends there. -/
theorem run_output :
    ∃ target,
      Run (step machineTable) (.enter freshPage outsState)
          [outIteration] target ∧
        target.status = .running ∧ target.run = outsExit 1 ∧
        target.io.data = outsState.data ∧
        target.io.iodev[2]? = some { newCom1 with device := .com1 {} } ∧
        target.io.stdout = [0x41] := by
  rcases step_output (.enter freshPage outsState) outIteration
      { run := outsExit 1, data := outsState.data }
      rfl rfl rfl (outsExit_com1Output 1) with
    ⟨target, taken, status, run, data, device, stdout⟩
  exact ⟨target, .single taken, status, run, data, device, stdout⟩

/-- Without a failing `KVM_RUN` the output is dispatched once. -/
theorem faithfulDispatch_iff_output :
    ∃ target,
      Run (step machineTable) (.enter freshPage outsState)
          [outIteration] target ∧
        (FaithfulDispatch [outIteration] target ↔
          NoStaleIoExit freshPage [outIteration]) := by
  rcases run_output with ⟨target, run, _⟩
  exact ⟨target, run, faithfulDispatch_iff run⟩

/-- An interrupted `KVM_RUN` after an output writes its byte again. -/
theorem not_faithfulDispatch_interrupted :
    ∃ target,
      Run (step machineTable) (.enter freshPage outsState)
          [outIteration, interruptedIteration] target ∧
        target.io.stdout = [0x41, 0x41] ∧
        ¬ FaithfulDispatch [outIteration, interruptedIteration] target := by
  rcases run_output with
    ⟨middle, run, status, page, data, device, stdout⟩
  have output :
      Com1Output machineTable willingHost (outsExit 1).io
        { middle.io with data := outsState.data } 2 newCom1 {} :=
    { outsExit_com1Output 1 with device }
  rcases step_output middle interruptedIteration
      { run := outsExit 1, data := outsState.data }
      status (by rw [page, data]; rfl) rfl output with
    ⟨target, taken, _, _, _, _, twice⟩
  refine ⟨target, run.snoc taken, ?_, ?_⟩
  · rw [twice, stdout]
    rfl
  · intro faithful
    have fresh := (dispatched_iff (run.snoc taken)).mp faithful.dispatched
    exact fresh 1 interruptedIteration rfl (by decide) rfl

end Lvmm.Vcpu.RunLoop
