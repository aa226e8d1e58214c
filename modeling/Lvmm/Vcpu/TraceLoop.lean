import Lvmm.Vcpu.RunLoop

/-!
# The run loop with guest debugging

`Vcpu::RunLoop` compiled with `GUEST_DEBUG`.  At the first ten debug exits it
prints the registers and 16 bytes of the guest and goes on.  It looks for these
bytes behind `ram_start + rip`, so that a virtual address which is not a small
physical one leads it out of guest memory.
-/

namespace Lvmm.Vcpu.TraceLoop

open Lvmm.Library.LabelledRun
open Lvmm.Vcpu.RunOnce
open Lvmm.Vcpu.StringIo
open Lvmm.Vcpu.RunLoop
open Lvmm.Vm.PortIo
open Lvmm.Vm.SysCall

/-- `rc_max`. -/
def rcMax : Nat := 10

/-- The bytes which are printed behind the instruction pointer. -/
def instBytes : Nat := 16

/-- The answers of an iteration, with those of the `GetRegs` before a dump. -/
structure TracedIteration where
  iteration : Iteration
  getRegs : SysResult
  rip : UInt64

/--
The state of the loop, its counter `rc`, `regs.rip`, the instruction pointers
dumped so far, and whether a dump read outside of guest memory.
-/
structure TracedState where
  loop : LoopState
  rc : Nat
  rip : UInt64
  dumped : List UInt64
  strayed : Bool

/-- The state in which `RunLoop` is entered; `regs` is not initialised. -/
def TracedState.enter (run : KvmRun) (io : IoState) (unset : UInt64) :
    TracedState :=
  { loop := .enter run io, rc := 0, rip := unset, dumped := []
    strayed := false }

/-- The dump and `goto run_loop_start`; the results of all ioctls are ignored. -/
def dump
    (ramSize : UInt64) (state : TracedState) (after : LoopState)
    (label : TracedIteration) : TracedState :=
  let rip := if label.getRegs.Succeeded then label.rip else state.rip
  if rip.toNat + instBytes ≤ ramSize.toNat then
    { loop := { after with status := .running }
      rc := state.rc + 1, rip, dumped := state.dumped ++ [rip]
      strayed := false }
  else { state with loop := after, rip, strayed := true }

/-- One iteration of the loop. -/
def tracedIterate
    (table : PioTable) (ramSize : UInt64) (state : TracedState)
    (label : TracedIteration) : TracedState :=
  let after := iterate table state.loop label.iteration
  if after.run.exitReason = kvmExitDebug ∧ state.rc < rcMax then
    dump ramSize state after label
  else { state with loop := after }

/-- The loop as a step function: it iterates while it is running. -/
def tracedStep
    (table : PioTable) (ramSize : UInt64) (state : TracedState)
    (label : TracedIteration) : Option TracedState :=
  match state.loop.status with
  | .running =>
      if state.strayed then none
      else some (tracedIterate table ramSize state label)
  | .ended _ => none

/-! ## Tracing and the plain loop -/

section Traced

variable {table : PioTable} {ramSize : UInt64}
variable {source target : TracedState} {label : TracedIteration}

/-- What the plain loop has in common with the traced one. -/
structure Untraced (traced : TracedState) (plain : LoopState) : Prop where
  status : plain.status = traced.loop.status
  iodev : plain.io.iodev = traced.loop.io.iodev
  stdout : plain.io.stdout = traced.loop.io.stdout
  irqLevels : plain.io.irqLevels = traced.loop.io.irqLevels
  dispatched : plain.dispatched = traced.loop.dispatched
  calls : plain.handled.map Prod.snd = traced.loop.handled.map Prod.snd
  ioctls : traced.loop.ioctls = plain.ioctls + traced.rc

/-- The dumps are few, and within guest memory as long as none strays. -/
structure Within (ramSize : UInt64) (state : TracedState) : Prop where
  count : state.rc ≤ rcMax
  dumped : state.dumped.length = state.rc
  inside : ∀ rip ∈ state.dumped, rip.toNat + instBytes ≤ ramSize.toNat
  strayed : state.strayed = true →
    ramSize.toNat < state.rip.toNat + instBytes

theorem tracedStep_eq_some
    (taken : tracedStep table ramSize source label = some target) :
    source.loop.status = .running ∧ source.strayed = false ∧
      target = tracedIterate table ramSize source label := by
  rw [tracedStep] at taken
  cases status : source.loop.status with
  | ended outcome =>
      rw [status] at taken
      cases taken
  | running =>
      rw [status] at taken
      cases strayed : source.strayed with
      | true => simp [strayed] at taken
      | false =>
          simp only [strayed, Bool.false_eq_true, if_false,
            Option.some.injEq] at taken
          exact ⟨rfl, rfl, taken.symm⟩

theorem within_dump
    (within : Within ramSize source) (more : source.rc < rcMax)
    (after : LoopState) (label : TracedIteration) :
    Within ramSize (dump ramSize source after label) := by
  rw [dump]
  generalize (if label.getRegs.Succeeded then label.rip else source.rip) =
    rip
  split_ifs with inside
  · refine ⟨more, ?_, ?_, by simp⟩
    · rw [List.length_append, within.dumped]
      rfl
    · intro other member
      rcases List.mem_append.mp member with earlier | now
      · exact within.inside other earlier
      · rw [List.mem_singleton.mp now]
        exact inside
  · exact ⟨within.count, within.dumped, within.inside,
      fun _ => Nat.lt_of_not_le inside⟩

theorem within_step
    (within : Within ramSize source)
    (taken : tracedStep table ramSize source label = some target) :
    Within ramSize target := by
  rcases tracedStep_eq_some taken with ⟨-, straight, rfl⟩
  rw [tracedIterate]
  split_ifs with traces
  · exact within_dump within traces.2 _ label
  · exact ⟨within.count, within.dumped, within.inside, within.strayed⟩

/-- An iteration with a debug exit does nothing to the devices. -/
theorem iterate_of_debug
    {state : LoopState} {iteration : Iteration}
    (debug : (iterate table state iteration).run.exitReason = kvmExitDebug) :
    ∃ data, iterate table state iteration =
      { state with
        status := (iterate table state iteration).status
        run := (iterate table state iteration).run
        io := { state.io with data }
        ioctls := state.ioctls + 1 } := by
  rw [iterate_run] at debug
  have page :
      (iteration.kvmRun.written.getD
        { run := state.run, data := state.io.data }).run.exitReason ≠
          kvmExitIo := by
    rw [writtenRun]
    rw [runAfterOne] at debug
    rw [debug]
    decide
  rcases runOnce_of_not_io table iteration.host page
      { state.io with
        data :=
          (iteration.kvmRun.written.getD
            { run := state.run, data := state.io.data }).data } with
    ⟨dispatched, calls, kept⟩
  refine ⟨(iteration.kvmRun.written.getD
      { run := state.run, data := state.io.data }).data, ?_⟩
  simp only [iterate, dispatched, calls, kept, Option.toList_none,
    List.map_nil, List.append_nil]

theorem untraced_dump
    {plain : LoopState} (untraced : Untraced source plain)
    (running : source.loop.status = .running)
    (debug :
      (iterate table source.loop label.iteration).run.exitReason =
        kvmExitDebug)
    (straight :
      (dump ramSize source (iterate table source.loop label.iteration)
        label).strayed = false) :
    Untraced
      (dump ramSize source (iterate table source.loop label.iteration) label)
      plain := by
  rcases iterate_of_debug debug with ⟨data, after⟩
  rw [after] at straight ⊢
  rw [dump] at straight ⊢
  generalize (if label.getRegs.Succeeded then label.rip else source.rip) =
    rip at straight ⊢
  dsimp only at straight ⊢
  split_ifs at straight ⊢
  refine ⟨?_, untraced.iodev, untraced.stdout, untraced.irqLevels,
    untraced.dispatched, untraced.calls, ?_⟩
  · rw [untraced.status, running]
  · dsimp only
    rw [untraced.ioctls]
    omega

/-- Both loops do the same with a page which the ioctl wrote. -/
theorem untraced_iterate
    {plain : LoopState} (untraced : Untraced source plain)
    (written : label.iteration.kvmRun.written.isSome = true) :
    Untraced
      { source with loop := iterate table source.loop label.iteration }
      (iterate table plain label.iteration) := by
  rcases Option.isSome_iff_exists.mp written with ⟨page, isPage⟩
  have io :
      { plain.io with data := page.data } =
        { source.loop.io with data := page.data } := by
    simp only [untraced.iodev, untraced.stdout, untraced.irqLevels]
  constructor
  · simp only [iterate, isPage, Option.getD_some, io]
  · simp only [iterate, isPage, Option.getD_some, io]
  · simp only [iterate, isPage, Option.getD_some, io]
  · simp only [iterate, isPage, Option.getD_some, io]
  · simp only [iterate, isPage, Option.getD_some, io, untraced.dispatched]
  · simp [iterate, isPage, io, untraced.calls]
  · simp only [iterate, untraced.ioctls]
    omega

/-- A step of the traced loop is one of the plain loop, or a dump. -/
theorem untraced_step
    {plain : LoopState} (untraced : Untraced source plain)
    (written : label.iteration.kvmRun.written.isSome = true)
    (taken : tracedStep table ramSize source label = some target)
    (straight : target.strayed = false) :
    Untraced target plain ∨
      ∃ next, step table plain label.iteration = some next ∧
        Untraced target next := by
  rcases tracedStep_eq_some taken with ⟨running, -, rfl⟩
  rw [tracedIterate] at straight ⊢
  split_ifs at straight ⊢ with traces
  · exact Or.inl (untraced_dump untraced running traces.1 straight)
  · right
    refine ⟨iterate table plain label.iteration, ?_,
      untraced_iterate untraced written⟩
    rw [step, untraced.status, running]

end Traced

/-! ## Whole runs -/

section Runs

variable {table : PioTable} {ramSize : UInt64} {start : KvmRun} {io : IoState}
variable {unset : UInt64} {labels : List TracedIteration}
variable {target : TracedState}

theorem tracedIterate_ioctls
    (state : TracedState) (label : TracedIteration) :
    (tracedIterate table ramSize state label).loop.ioctls =
      state.loop.ioctls + 1 := by
  rw [tracedIterate]
  split_ifs with traces
  · rw [dump]
    split_ifs <;> rfl
  · rfl

/-- Every iteration of the traced loop makes one `KVM_RUN`. -/
theorem traced_ioctls
    (run :
      Run (tracedStep table ramSize) (.enter start io unset) labels target) :
    target.loop.ioctls = labels.length := by
  induction run with
  | refl => rfl
  | snoc before taken induction =>
      rw [(tracedStep_eq_some taken).2.2, tracedIterate_ioctls, induction,
        List.length_append]
      rfl

theorem within_run
    (run :
      Run (tracedStep table ramSize) (.enter start io unset) labels target) :
    Within ramSize target :=
  Run.invariant (Within ramSize)
    ⟨Nat.zero_le _, rfl, by simp [TracedState.enter],
      by simp [TracedState.enter]⟩
    (fun _ _ _ within taken => within_step within taken) run

/-- The plain loop on the iterations which were not dumped. -/
structure Dumped
    (table : PioTable) (start : KvmRun) (io : IoState)
    (labels kept : List TracedIteration) (target : TracedState)
    (plain : LoopState) : Prop where
  sublist : kept.Sublist labels
  left : labels.length = kept.length + target.rc
  run :
    Run (step table) (.enter start io)
      (kept.map TracedIteration.iteration) plain
  untraced : Untraced target plain

/-- What tracing changes, and what it does not. -/
structure Traces
    (table : PioTable) (ramSize : UInt64) (start : KvmRun) (io : IoState)
    (labels : List TracedIteration) (target : TracedState) : Prop where
  within : Within ramSize target
  transparent : target.strayed = false →
    ∃ kept plain, Dumped table start io labels kept target plain

/--
In every run of the loop compiled for debugging whose ioctls write the page, at
most ten dumps are made; and until one of them strays out of guest memory, the
loop does what the plain one does on the other iterations.
-/
theorem tracing_is_transparent
    (run :
      Run (tracedStep table ramSize) (.enter start io unset) labels target)
    (written : ∀ label ∈ labels,
      label.iteration.kvmRun.written.isSome = true) :
    Traces table ramSize start io labels target := by
  refine ⟨within_run run, ?_⟩
  intro straight
  -- a state after a straying dump has no plain counterpart, and no successor
  rcases Run.stuttering
      (fun traced plain => traced.strayed = false → Untraced traced plain)
      (fun label => label.iteration.kvmRun.written.isSome = true)
      TracedIteration.iteration
      (fun source plain label next written untraced taken => by
        by_cases strayed : next.strayed = true
        · exact Or.inl fun straight => by simp [strayed] at straight
        · have before := (tracedStep_eq_some taken).2.1
          have after : next.strayed = false := by simpa using strayed
          rcases untraced_step (untraced before) written taken after with
            idle | ⟨other, moved, related⟩
          · exact Or.inl fun _ => idle
          · exact Or.inr ⟨other, moved, fun _ => related⟩)
      (fun _ => ⟨rfl, rfl, rfl, rfl, rfl, rfl, rfl⟩ :
        (TracedState.enter start io unset).strayed = false →
          Untraced (.enter start io unset) (.enter start io))
      run written with
    ⟨kept, plain, sublist, plainRun, related⟩
  have untraced := related straight
  refine ⟨kept, plain, sublist, ?_, plainRun, untraced⟩
  have count := (run_page plainRun).2
  rw [List.length_map] at count
  rw [← traced_ioctls run, untraced.ioctls, count]

end Runs

/-! ## A single step and a halt -/

/-- A successful ioctl with an exit reason. -/
def exitIteration (reason : UInt32) (rip : UInt64) : TracedIteration where
  iteration :=
    { kvmRun :=
        .success
          { run := { freshPage with exitReason := reason }, data := fun _ => 0 }
      host := willingHost
      getRegs := .ok 0
      getSregs := .ok 0 }
  getRegs := .ok 0
  rip

/-- A debug exit and a halt, in guest memory of 1 GiB. -/
def haltLabels : List TracedIteration :=
  [exitIteration kvmExitDebug 0x100000, exitIteration kvmExitHlt 0]

theorem tracing_is_transparent_halt :
    ∃ target,
      Run (tracedStep emptyTable 0x40000000) (.enter freshPage outsState 0)
          haltLabels target ∧
        target.dumped = [0x100000] ∧
        Traces emptyTable 0x40000000 freshPage outsState haltLabels target := by
  have run :
      Run (tracedStep emptyTable 0x40000000) (.enter freshPage outsState 0)
        haltLabels _ :=
    (Run.single rfl).snoc rfl
  refine ⟨_, run, rfl, tracing_is_transparent run ?_⟩
  intro label member
  simp only [haltLabels, List.mem_cons, List.not_mem_nil, or_false] at member
  rcases member with rfl | rfl
  · rfl
  · rfl

end Lvmm.Vcpu.TraceLoop
