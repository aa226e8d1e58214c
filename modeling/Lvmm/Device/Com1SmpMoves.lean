import Lvmm.Device.Com1Smp

/-!
# What the threads of COM1 do

The step function is inverted once: by the effect of a step on what the threads
share, by the stage a CPU reaches in a write that may raise the line, and by where
the reader goes.  Everything later is derived from these moves.
-/

namespace Lvmm.Device.Com1SmpMoves

open Lvmm.Vm.SysCall
open Lvmm.Device.Com1Device
open Lvmm.Device.Com1Threads (FlapOrigin ReaderPc)
open Lvmm.Device.Com1Smp
open Lvmm.Library.LabelledRun
open Lvmm.Library.LineEdges

/-! ## Effects -/

section Effects

variable {shared : Shared} {effect : Effect}

/-- Only a store to the interrupt-enable register changes it. -/
theorem apply_ier (unstored : effect.storesIer = false) :
    (effect.apply shared).com1.ier = shared.com1.ier := by
  cases effect with
  | storeIer byte => cases unstored
  | store port byte => cases port <;> rfl
  | nothing | storeDll | storeDlh | push | pop | transmit | drive => rfl

/-- What an effect takes and leaves is what it found and added. -/
theorem apply_queue (shared : Shared) (effect : Effect) :
    effect.popped shared ++ (effect.apply shared).com1.rxBuf =
      shared.com1.rxBuf ++ effect.pushed := by
  cases effect with
  | pop =>
      cases buffer : shared.com1.rxBuf <;>
        simp [Effect.popped, Effect.apply, Effect.pushed, buffer]
  | store port byte =>
      cases port <;> simp [Effect.popped, Effect.apply, Effect.pushed]
  | nothing | storeIer | storeDll | storeDlh | push | transmit | drive =>
      simp [Effect.popped, Effect.apply, Effect.pushed, Com1.pushRx]

/-- Only a transmission extends the standard output. -/
theorem apply_stdout (shared : Shared) (effect : Effect) :
    (effect.apply shared).stdout = shared.stdout ++ effect.sent := by
  cases effect with
  | store port byte => cases port <;> simp [Effect.apply, Effect.sent]
  | nothing | storeIer | storeDll | storeDlh | push | pop | transmit
  | drive =>
      simp [Effect.apply, Effect.sent]

end Effects

/-! ## Stages of a write -/

/-- Where a CPU is in a write to the interrupt-enable register, once stored. -/
inductive IerStage where
  | outside
  | testing
  | loading (rxPending : Bool)
  | loadingAgain (rxPending : Bool)
  | lowering
  | raising
deriving DecidableEq, Repr

def ierStage : Pc → IerStage
  | .ierTestRx => .testing
  | .ierLoadThrEmpty rxPending => .loading rxPending
  | .ierLoadDataAvl rxPending => .loadingAgain rxPending
  | .flapLow .ier => .lowering
  | .flapHigh .ier => .raising
  | _ => .outside

/-- Where a CPU is in a write to the transmitter, once its byte is sent. -/
inductive ThrStage where
  | outside
  | loading
  | lowering
  | raising
deriving DecidableEq, Repr

def thrStage : Pc → ThrStage
  | .thrLoadIer => .loading
  | .flapLow .thr => .lowering
  | .flapHigh .thr => .raising
  | _ => .outside

@[simp]
theorem ierStage_returned (result : Int) (stored : Option UInt8) :
    ierStage (.returned result stored) = .outside :=
  rfl

@[simp]
theorem thrStage_returned (result : Int) (stored : Option UInt8) :
    thrStage (.returned result stored) = .outside :=
  rfl

/-- How a step of a CPU moves in a write to the interrupt-enable register. -/
inductive IerMove (shared : Shared) : Effect → IerStage → IerStage → Prop where
  | store (byte : UInt8) : IerMove shared (.storeIer byte) .outside .testing
  | test :
      IerMove shared .nothing .testing (.loading shared.com1.rxPending)
  | thrEmpty {rxPending : Bool} :
      IerMove shared .nothing (.loading rxPending) .lowering
  | notThrEmpty {rxPending : Bool}
      (clear : shared.com1.isThrEmptySet = false) :
      IerMove shared .nothing (.loading rxPending) (.loadingAgain rxPending)
  | dataAvl {rxPending : Bool} :
      IerMove shared .nothing (.loadingAgain rxPending) .lowering
  | quiet {rxPending : Bool}
      (clear : (shared.com1.isDataAvlSet && rxPending) = false) :
      IerMove shared .nothing (.loadingAgain rxPending) .outside
  | low : IerMove shared (.drive false) .lowering .raising
  | high : IerMove shared (.drive true) .raising .outside
  | other {effect : Effect} (unstored : effect.storesIer = false) :
      IerMove shared effect .outside .outside

/-- How a step of a CPU moves in a write to the transmitter. -/
inductive ThrMove (shared : Shared) : Effect → ThrStage → ThrStage → Prop where
  | transmit (byte : UInt8) :
      ThrMove shared (.transmit byte) .outside .loading
  | thrEmpty : ThrMove shared .nothing .loading .lowering
  | quiet (clear : shared.com1.isThrEmptySet = false) :
      ThrMove shared .nothing .loading .outside
  | low : ThrMove shared (.drive false) .lowering .raising
  | high : ThrMove shared (.drive true) .raising .outside
  | other {effect : Effect} (unsent : effect.sent = []) :
      ThrMove shared effect .outside .outside

/-- How a step of the reader moves. -/
inductive ReaderMove (shared : Shared) :
    Effect → ReaderPc → ReaderPc → Prop where
  | push (byte : UInt8) : ReaderMove shared (.push byte) .blocked .loadIer
  | retry : ReaderMove shared .nothing .blocked .blocked
  | eof : ReaderMove shared .nothing .blocked .returned
  | dataAvl : ReaderMove shared .nothing .loadIer .flapLow
  | quiet (clear : shared.com1.isDataAvlSet = false) :
      ReaderMove shared .nothing .loadIer .blocked
  | low : ReaderMove shared (.drive false) .flapLow .flapHigh
  | high : ReaderMove shared (.drive true) .flapHigh .blocked

section Moves

variable {shared : Shared} {answers : Answers} {pc next : Pc}
variable {effect : Effect}

theorem entry_stages (access : Access) :
    ierStage access.entry = .outside ∧ thrStage access.entry = .outside := by
  cases access with
  | read port => cases port <;> exact ⟨rfl, rfl⟩
  | write port byte => cases port <;> exact ⟨rfl, rfl⟩

theorem flapIf_cases (origin : FlapOrigin) (raise : Bool) :
    (raise = true ∧ Pc.flapIf origin raise = .flapLow origin) ∨
      (raise = false ∧ Pc.flapIf origin raise = .done) := by
  cases raise with
  | true => exact Or.inl ⟨rfl, rfl⟩
  | false => exact Or.inr ⟨rfl, rfl⟩

theorem ierMove_of_step
    (succeeds : answers.irq.Succeeded)
    (taken : pc.step shared answers = some (effect, next)) :
    IerMove shared effect (ierStage pc) (ierStage next) := by
  have answered : irqLine answers.irq = 0 :=
    (zeroOrErrno_eq_zero_iff answers.irq).mpr succeeds
  cases pc with
  | returned => cases taken
  | rbrPop | ierLoad | iirTestRx | iirLoadThrEmpty | iirLoadFcr | lcrLoad
  | mcrLoad | lsrTestRx | msrLoadDtr | msrLoadRts | msrLoadOut1
  | msrLoadOut2 | srLoad | thrPush | dllStore | dlhStore | registerStore =>
      cases taken
      exact .other rfl
  | rbrLoadLcr | ierLoadLcr | iirLoadDataAvl | msrLoadLoop | thrLoadLcr
  | thrLoadMcr | dlhLoadLcr =>
      cases taken
      split <;> exact .other rfl
  | thrWrite byte =>
      simp only [Pc.step] at taken
      split at taken <;> cases taken <;> exact .other rfl
  | thrLoadIer =>
      cases taken
      rcases flapIf_cases .thr shared.com1.isThrEmptySet with
        ⟨_, next⟩ | ⟨_, next⟩ <;>
        rw [next] <;>
        exact .other rfl
  | ierStore byte =>
      cases taken
      exact .store byte
  | ierTestRx =>
      cases taken
      exact .test
  | ierLoadThrEmpty rxPending =>
      cases taken
      cases thrEmpty : shared.com1.isThrEmptySet with
      | true => exact .thrEmpty
      | false => exact .notThrEmpty thrEmpty
  | ierLoadDataAvl rxPending =>
      cases taken
      rcases flapIf_cases .ier (shared.com1.isDataAvlSet && rxPending) with
        ⟨_, next⟩ | ⟨clear, next⟩
      · rw [next]
        exact .dataAvl
      · rw [next]
        exact .quiet clear
  | flapLow origin =>
      simp only [Pc.step, answered, ne_eq, not_true_eq_false, if_false]
        at taken
      cases taken
      cases origin with
      | thr => exact .other rfl
      | ier => exact .low
  | flapHigh origin =>
      simp only [Pc.step, answered, ne_eq, not_true_eq_false, if_false]
        at taken
      cases taken
      cases origin with
      | thr => exact .other rfl
      | ier => exact .high

theorem thrMove_of_step
    (succeeds : answers.irq.Succeeded)
    (taken : pc.step shared answers = some (effect, next)) :
    ThrMove shared effect (thrStage pc) (thrStage next) := by
  have answered : irqLine answers.irq = 0 :=
    (zeroOrErrno_eq_zero_iff answers.irq).mpr succeeds
  cases pc with
  | returned => cases taken
  | rbrPop | ierLoad | iirTestRx | iirLoadThrEmpty | iirLoadFcr | lcrLoad
  | mcrLoad | lsrTestRx | msrLoadDtr | msrLoadRts | msrLoadOut1
  | msrLoadOut2 | srLoad | thrPush | dllStore | dlhStore | registerStore
  | ierStore | ierTestRx =>
      cases taken
      exact .other rfl
  | rbrLoadLcr | ierLoadLcr | iirLoadDataAvl | msrLoadLoop | thrLoadLcr
  | thrLoadMcr | dlhLoadLcr | ierLoadThrEmpty =>
      cases taken
      split <;> exact .other rfl
  | thrWrite byte =>
      simp only [Pc.step] at taken
      split at taken
      · cases taken
        exact .transmit byte
      · cases taken
        exact .other rfl
  | thrLoadIer =>
      cases taken
      rcases flapIf_cases .thr shared.com1.isThrEmptySet with
        ⟨_, next⟩ | ⟨clear, next⟩
      · rw [next]
        exact .thrEmpty
      · rw [next]
        exact .quiet clear
  | ierLoadDataAvl rxPending =>
      cases taken
      rcases flapIf_cases .ier (shared.com1.isDataAvlSet && rxPending) with
        ⟨_, next⟩ | ⟨_, next⟩ <;>
        rw [next] <;>
        exact .other rfl
  | flapLow origin =>
      simp only [Pc.step, answered, ne_eq, not_true_eq_false, if_false]
        at taken
      cases taken
      cases origin with
      | thr => exact .low
      | ier => exact .other rfl
  | flapHigh origin =>
      simp only [Pc.step, answered, ne_eq, not_true_eq_false, if_false]
        at taken
      cases taken
      cases origin with
      | thr => exact .high
      | ier => exact .other rfl

theorem readerMove_of_step
    {reader after : ReaderPc} (succeeds : answers.irq.Succeeded)
    (taken : readerStep shared answers reader = some (effect, after)) :
    ReaderMove shared effect reader after := by
  have answered : irqLine answers.irq = 0 :=
    (zeroOrErrno_eq_zero_iff answers.irq).mpr succeeds
  cases reader with
  | blocked | returned => cases taken
  | loadIer =>
      cases taken
      cases enabled : shared.com1.isDataAvlSet with
      | true => exact .dataAvl
      | false => exact .quiet enabled
  | flapLow =>
      simp only [readerStep, answered, ne_eq, not_true_eq_false, if_false]
        at taken
      cases taken
      exact .low
  | flapHigh =>
      simp only [readerStep, answered, ne_eq, not_true_eq_false, if_false]
        at taken
      cases taken
      exact .high

/-- The reader stores nothing in the enable register and sends nothing. -/
theorem ReaderMove.silent
    {before after : ReaderPc}
    (moved : ReaderMove shared effect before after) :
    effect.storesIer = false ∧ effect.sent = [] := by
  cases moved <;> exact ⟨rfl, rfl⟩

end Moves

/-! ## Writes store nothing in the cell -/

/-- The program point of a write access. -/
def Writing : Pc → Prop
  | .returned _ stored => stored = none
  | .rbrLoadLcr | .rbrPop | .ierLoadLcr | .ierLoad | .iirTestRx
  | .iirLoadDataAvl _ | .iirLoadThrEmpty | .iirLoadFcr _ | .lcrLoad
  | .mcrLoad | .lsrTestRx | .msrLoadLoop | .msrLoadDtr | .msrLoadRts _
  | .msrLoadOut1 _ | .msrLoadOut2 _ | .srLoad => False
  | _ => True

theorem writing_entry (port : Com1Port) (byte : UInt8) :
    Writing (Access.write port byte).entry := by
  cases port <;> trivial

theorem writing_step
    {shared : Shared} {answers : Answers} {pc next : Pc} {effect : Effect}
    (writing : Writing pc)
    (taken : pc.step shared answers = some (effect, next)) :
    Writing next := by
  cases pc with
  | returned => cases taken
  | rbrLoadLcr | rbrPop | ierLoadLcr | ierLoad | iirTestRx
  | iirLoadDataAvl | iirLoadThrEmpty | iirLoadFcr | lcrLoad | mcrLoad
  | lsrTestRx | msrLoadLoop | msrLoadDtr | msrLoadRts | msrLoadOut1
  | msrLoadOut2 | srLoad =>
      exact writing.elim
  | thrPush | dllStore | ierStore | ierTestRx | dlhStore
  | registerStore =>
      cases taken
      trivial
  | thrLoadLcr | thrLoadMcr | dlhLoadLcr | ierLoadThrEmpty =>
      cases taken
      split_ifs <;> trivial
  | thrLoadIer | ierLoadDataAvl =>
      cases taken
      rw [Pc.flapIf]
      split_ifs <;> trivial
  | thrWrite | flapLow | flapHigh =>
      simp only [Pc.step] at taken
      split_ifs at taken <;> cases taken <;> trivial

/-! ## Steps of the whole -/

section Steps

variable {Cpu : Type*} [DecidableEq Cpu]
variable {source target : Smp Cpu} {label : Label Cpu}

/-- The shared state changes by the effect of the step. -/
theorem step_shared (taken : step source label = some target) :
    target.shared = (effectOf source label).apply source.shared := by
  rw [step] at taken
  rcases Option.map_eq_some_iff.mp taken with ⟨moved, found, rfl⟩
  simp [effectOf, found]

/-- A `read` of the reader, which was waiting for it. -/
theorem host_of_step
    {result : HostRead} (taken : step source (.host result) = some target) :
    source.reader = .blocked ∧
      effectOf source (.host result) = (hostStep result).1 ∧
      target.reader = (hostStep result).2 ∧ target.cpus = source.cpus := by
  rw [step] at taken
  rcases Option.map_eq_some_iff.mp taken with ⟨moved, found, rfl⟩
  simp only [move] at found
  split_ifs at found with blocked
  cases found
  exact ⟨blocked, by simp [effectOf, move, blocked], rfl, rfl⟩

/-- Another step of the reader. -/
theorem reader_of_step
    {answers : Answers}
    (taken : step source (.reader answers) = some target) :
    readerStep source.shared answers source.reader =
        some (effectOf source (.reader answers), target.reader) ∧
      target.cpus = source.cpus := by
  rw [step] at taken
  rcases Option.map_eq_some_iff.mp taken with ⟨moved, found, rfl⟩
  simp only [move] at found
  rcases Option.map_eq_some_iff.mp found with ⟨after, stepped, rfl⟩
  exact ⟨by simp [effectOf, move, stepped], rfl⟩

/-- The beginning of an access, on a CPU whose last one has returned. -/
theorem begin_of_step
    {cpu : Cpu} {access : Access}
    (taken : step source (.begin cpu access) = some target) :
    (∃ result stored, source.cpus cpu = .returned result stored) ∧
      effectOf source (.begin cpu access) = .nothing ∧
      target.cpus = Function.update source.cpus cpu access.entry ∧
      target.reader = source.reader := by
  rw [step] at taken
  rcases Option.map_eq_some_iff.mp taken with ⟨moved, found, rfl⟩
  simp only [move] at found
  cases pc : source.cpus cpu with
  | returned result stored =>
      simp only [pc, Option.some.injEq] at found
      subst found
      exact ⟨⟨result, stored, rfl⟩, by simp [effectOf, move, pc], rfl, rfl⟩
  | _ => simp [pc] at found

/-- A step of an access. -/
theorem advance_of_step
    {cpu : Cpu} {answers : Answers}
    (taken : step source (.advance cpu answers) = some target) :
    ∃ next,
      (source.cpus cpu).step source.shared answers =
          some (effectOf source (.advance cpu answers), next) ∧
        target.cpus = Function.update source.cpus cpu next ∧
        target.reader = source.reader := by
  rw [step] at taken
  rcases Option.map_eq_some_iff.mp taken with ⟨moved, found, rfl⟩
  simp only [move] at found
  rcases Option.map_eq_some_iff.mp found with ⟨after, stepped, rfl⟩
  exact ⟨after.2, by simp [effectOf, move, stepped], rfl, rfl⟩

/-- A step of the reader, and no CPU moves. -/
theorem step_reader
    (succeeds : label.IoctlSucceeds) (author : label.author = none)
    (taken : step source label = some target) :
    ReaderMove source.shared (effectOf source label) source.reader
        target.reader ∧
      target.cpus = source.cpus := by
  cases label with
  | begin | advance => cases author
  | host result =>
      rcases host_of_step taken with ⟨blocked, effect, reader, cpus⟩
      refine ⟨?_, cpus⟩
      rw [effect, blocked, reader]
      cases result with
      | byte byte => exact .push byte
      | retry => exact .retry
      | eof => exact .eof
  | reader answers =>
      rcases reader_of_step taken with ⟨stepped, cpus⟩
      exact ⟨readerMove_of_step succeeds stepped, cpus⟩

/-- A step of a CPU, and no other thread moves. -/
theorem step_cpu
    {cpu : Cpu} (succeeds : label.IoctlSucceeds)
    (author : label.author = some cpu)
    (taken : step source label = some target) :
    IerMove source.shared (effectOf source label)
        (ierStage (source.cpus cpu)) (ierStage (target.cpus cpu)) ∧
      ThrMove source.shared (effectOf source label)
        (thrStage (source.cpus cpu)) (thrStage (target.cpus cpu)) ∧
      (∀ other, other ≠ cpu → target.cpus other = source.cpus other) ∧
      target.reader = source.reader := by
  cases label with
  | host | reader => cases author
  | begin _ access =>
      cases author
      rcases begin_of_step taken with
        ⟨⟨result, stored, pc⟩, effect, cpus, reader⟩
      rcases entry_stages access with ⟨ier, thr⟩
      refine ⟨?_, ?_, ?_, reader⟩
      · rw [effect, pc, cpus, Function.update_self, ier]
        exact .other rfl
      · rw [effect, pc, cpus, Function.update_self, thr]
        exact .other rfl
      · intro other different
        rw [cpus, Function.update_of_ne different]
  | advance _ answers =>
      cases author
      rcases advance_of_step taken with ⟨next, stepped, cpus, reader⟩
      refine ⟨?_, ?_, ?_, reader⟩
      · rw [cpus, Function.update_self]
        exact ierMove_of_step succeeds stepped
      · rw [cpus, Function.update_self]
        exact thrMove_of_step succeeds stepped
      · intro other different
        rw [cpus, Function.update_of_ne different]

end Steps

end Lvmm.Device.Com1SmpMoves
