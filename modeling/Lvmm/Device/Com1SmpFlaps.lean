import Lvmm.Device.Com1Flaps
import Lvmm.Device.Com1SmpInterrupts

/-!
# The line of COM1 with any number of virtual CPUs

Seen from the line, every CPU and the reader is a thread of the general model of
concurrent flaps.  The refinement holds whatever the answers to the ioctls: a flap
one of whose halves fails ends there in both models.
-/

namespace Lvmm.Device.Com1SmpFlaps

open Lvmm.Vm.SysCall
open Lvmm.Vm.IrqFlap (FlapLabel FlapPc FlapState Owed atRest)
open Lvmm.Device.Com1Flaps (readerFlapPc)
open Lvmm.Device.Com1Threads (ReaderPc)
open Lvmm.Device.Com1Smp
open Lvmm.Device.Com1SmpInterrupts
open Lvmm.Device.Com1SmpMoves
open Lvmm.Library.LabelledRun
open Lvmm.Library.LineEdges

variable {Cpu : Type*}

/-- Where a CPU is within a flap. -/
def flapPc : Pc → FlapPc
  | .flapLow _ => .beforeLow
  | .flapHigh _ => .beforeHigh
  | _ => .outside

/-- The line and the flaps in progress. -/
def flapView (state : Smp Cpu) : FlapState (Option Cpu) where
  line := state.shared.irqLevel
  pc
    | none => readerFlapPc state.reader
    | some cpu => flapPc (state.cpus cpu)

/-- How a step moves in a flap: the line before and after, and the position. -/
inductive FlapMove (answer : SysResult) (line : Bool) :
    Bool → FlapPc → FlapPc → Prop where
  | silent {pc : FlapPc} : FlapMove answer line line pc pc
  | call : FlapMove answer line line .outside .beforeLow
  | low (driven : irqLine answer = 0) :
      FlapMove answer line false .beforeLow .beforeHigh
  | lowFailed (failed : irqLine answer ≠ 0) :
      FlapMove answer line line .beforeLow .outside
  | high (driven : irqLine answer = 0) :
      FlapMove answer line true .beforeHigh .outside
  | highFailed (failed : irqLine answer ≠ 0) :
      FlapMove answer line line .beforeHigh .outside

/-- A move is matched by at most one step of the flap model. -/
theorem FlapMove.matched [DecidableEq Cpu]
    {answer : SysResult} (source target : FlapState Cpu) (thread : Cpu)
    (moved :
      FlapMove answer source.line target.line (source.pc thread)
        (target.pc thread))
    (others : ∀ other, other ≠ thread → target.pc other = source.pc other) :
    ∃ labels, Run Vm.IrqFlap.step source labels target ∧
      (answer.Succeeded → ∀ label ∈ labels, label.Succeeds) := by
  have updated :
      target.pc = Function.update source.pc thread (target.pc thread) := by
    funext other
    by_cases same : other = thread
    · subst same
      rw [Function.update_self]
    · rw [Function.update_of_ne same, others other same]
  rcases source with ⟨line, pc⟩
  rcases target with ⟨line', pc'⟩
  simp only at moved updated
  generalize before : pc thread = position at moved
  generalize after : pc' thread = position' at moved updated
  subst updated
  have single (label : FlapLabel Cpu)
      (taken : Vm.IrqFlap.step ⟨line, pc⟩ label =
        some ⟨line', Function.update pc thread position'⟩)
      (succeeds : answer.Succeeded → label.Succeeds) :
      ∃ labels,
        Run Vm.IrqFlap.step ⟨line, pc⟩ labels
            ⟨line', Function.update pc thread position'⟩ ∧
          (answer.Succeeded → ∀ label ∈ labels, label.Succeeds) :=
    ⟨[label], .single taken, by simpa using succeeds⟩
  cases moved with
  | silent =>
      rw [← before, Function.update_eq_self]
      exact ⟨[], .refl, by simp⟩
  | call =>
      refine single (.call thread) ?_ (fun _ => trivial)
      simp [Vm.IrqFlap.step, before]
  | low driven =>
      refine single (.low thread answer) ?_ id
      simp [Vm.IrqFlap.step, before, driven]
  | lowFailed failed =>
      refine single (.low thread answer) ?_ id
      simp [Vm.IrqFlap.step, before, failed]
  | high driven =>
      refine single (.high thread answer) ?_ id
      simp [Vm.IrqFlap.step, before, driven]
  | highFailed failed =>
      refine single (.high thread answer) ?_ id
      simp [Vm.IrqFlap.step, before, failed]

/-! ## The moves of the threads -/

section Moves

variable {shared : Shared} {answers : Answers} {effect : Effect}

/-- A decision to flap calls the flap or ends the access. -/
theorem flapMove_decision
    (answer : SysResult) (line : Bool) (origin : Com1Threads.FlapOrigin)
    (raise : Bool) :
    FlapMove answer line line .outside
      (flapPc (Pc.flapIf origin raise)) := by
  cases raise with
  | true => exact .call
  | false => exact .silent

theorem flapMove_of_step
    {pc next : Pc}
    (taken : pc.step shared answers = some (effect, next)) :
    FlapMove answers.irq shared.irqLevel (effect.apply shared).irqLevel
      (flapPc pc) (flapPc next) := by
  cases pc with
  | returned => cases taken
  | rbrPop | ierLoad | iirTestRx | iirLoadThrEmpty | iirLoadFcr | lcrLoad
  | mcrLoad | lsrTestRx | msrLoadDtr | msrLoadRts | msrLoadOut1
  | msrLoadOut2 | srLoad | thrPush | dllStore | dlhStore | ierStore
  | ierTestRx =>
      cases taken
      exact .silent
  | rbrLoadLcr | ierLoadLcr | iirLoadDataAvl | msrLoadLoop | thrLoadLcr
  | thrLoadMcr | dlhLoadLcr =>
      cases taken
      split <;> exact .silent
  | registerStore port byte =>
      cases taken
      cases port <;> exact .silent
  | thrWrite byte =>
      simp only [Pc.step] at taken
      split at taken <;> cases taken <;> exact .silent
  | thrLoadIer =>
      cases taken
      exact flapMove_decision _ _ _ _
  | ierLoadThrEmpty rxPending =>
      cases taken
      cases shared.com1.isThrEmptySet with
      | true => exact .call
      | false => exact .silent
  | ierLoadDataAvl rxPending =>
      cases taken
      exact flapMove_decision _ _ _ _
  | flapLow origin =>
      simp only [Pc.step] at taken
      split at taken
      · rename_i failed
        cases taken
        exact .lowFailed failed
      · rename_i driven
        cases taken
        exact .low (not_not.mp driven)
  | flapHigh origin =>
      simp only [Pc.step] at taken
      split at taken
      · rename_i failed
        cases taken
        exact .highFailed failed
      · rename_i driven
        cases taken
        exact .high (not_not.mp driven)

theorem flapMove_of_readerStep
    {reader after : ReaderPc}
    (taken : readerStep shared answers reader = some (effect, after)) :
    FlapMove answers.irq shared.irqLevel (effect.apply shared).irqLevel
      (readerFlapPc reader) (readerFlapPc after) := by
  cases reader with
  | blocked | returned => cases taken
  | loadIer =>
      cases taken
      cases shared.com1.isDataAvlSet with
      | true => exact .call
      | false => exact .silent
  | flapLow =>
      simp only [readerStep] at taken
      split at taken
      · rename_i failed
        cases taken
        exact .lowFailed failed
      · rename_i driven
        cases taken
        exact .low (not_not.mp driven)
  | flapHigh =>
      simp only [readerStep] at taken
      split at taken
      · rename_i failed
        cases taken
        exact .highFailed failed
      · rename_i driven
        cases taken
        exact .high (not_not.mp driven)

end Moves

/-! ## Refinement -/

section Runs

variable [DecidableEq Cpu]
variable {source target : Smp Cpu} {label : Label Cpu}
variable {labels : List (Label Cpu)} {history : History Cpu}

/-- A step is matched by a run of the flap model between the two views. -/
def Matched (source target : Smp Cpu) (succeed : Prop) : Prop :=
  ∃ flaps,
    Run Vm.IrqFlap.step (flapView source) flaps (flapView target) ∧
      (succeed → ∀ flap ∈ flaps, flap.Succeeds)

theorem matched_step (taken : step source label = some target) :
    Matched source target label.IoctlSucceeds := by
  have shared := step_shared taken
  have silent (line : target.shared.irqLevel = source.shared.irqLevel)
      (reader : readerFlapPc target.reader = readerFlapPc source.reader)
      (cpus : ∀ cpu, flapPc (target.cpus cpu) = flapPc (source.cpus cpu)) :
      Matched source target label.IoctlSucceeds := by
    have same : flapView target = flapView source := by
      rw [flapView, flapView, FlapState.mk.injEq]
      refine ⟨line, ?_⟩
      funext thread
      cases thread with
      | none => exact reader
      | some cpu => exact cpus cpu
    rw [Matched, same]
    exact ⟨[], .refl, by simp⟩
  cases label with
  | host result =>
      rcases host_of_step taken with ⟨blocked, effect, reader, cpus⟩
      refine silent ?_ ?_ (fun cpu => by rw [cpus])
      · rw [shared, effect]
        cases result <;> rfl
      · rw [reader, blocked]
        cases result <;> rfl
  | begin cpu access =>
      rcases begin_of_step taken with
        ⟨⟨result, stored, pc⟩, effect, cpus, reader⟩
      refine silent (by rw [shared, effect]; rfl) (by rw [reader]) ?_
      intro other
      rw [cpus]
      by_cases same : other = cpu
      · subst same
        rw [Function.update_self, pc]
        cases access with
        | read port => cases port <;> rfl
        | write port byte => cases port <;> rfl
      · rw [Function.update_of_ne same]
  | reader answers =>
      rcases reader_of_step taken with ⟨stepped, cpus⟩
      have moved := flapMove_of_readerStep stepped
      rw [← shared] at moved
      refine FlapMove.matched (flapView source) (flapView target) none moved ?_
      intro thread different
      cases thread with
      | none => exact absurd rfl different
      | some cpu => simp only [flapView, cpus]
  | advance cpu answers =>
      rcases advance_of_step taken with ⟨next, stepped, cpus, reader⟩
      have moved := flapMove_of_step stepped
      rw [← shared] at moved
      have ended : target.cpus cpu = next := by
        rw [cpus, Function.update_self]
      rw [← ended] at moved
      refine FlapMove.matched (flapView source) (flapView target) (some cpu)
        moved ?_
      intro thread different
      cases thread with
      | none => simp only [flapView, reader]
      | some other =>
          have apart : other ≠ cpu := fun same => different (by rw [same])
          simp only [flapView, cpus, Function.update_of_ne apart]

/--
Every run of the device is a run of the flap model, whatever fails: between the
lines and the positions of all threads, and with no failure where there was none.
-/
theorem smp_refines_flaps
    {irqLevel : Bool} {state : Smp Cpu}
    (run : Run step (Smp.fresh irqLevel) labels state) :
    ∃ flaps,
      Run Vm.IrqFlap.step (atRest irqLevel) flaps (flapView state) ∧
        ((∀ label ∈ labels, label.IoctlSucceeds) →
          ∀ flap ∈ flaps, flap.Succeeds) := by
  have start :
      flapView (Smp.fresh irqLevel : Smp Cpu) = atRest irqLevel := by
    rw [flapView, atRest, FlapState.mk.injEq]
    refine ⟨rfl, ?_⟩
    funext thread
    cases thread <;> rfl
  induction run with
  | refl => exact ⟨[], by rw [start]; exact .refl, by simp⟩
  | @snoc front middle target label before taken induction =>
      rcases induction with ⟨flaps, reached, flapsSucceed⟩
      rcases matched_step taken with ⟨more, continued, moreSucceed⟩
      refine ⟨flaps ++ more,
        Run.append_iff.mpr ⟨_, reached, continued⟩, ?_⟩
      intro succeed flap member
      rcases List.mem_append.mp member with earlier | later
      · exact flapsSucceed
          (fun label inFront => succeed label (List.mem_append_left _ inFront))
          flap earlier
      · exact moreSucceed (succeed label (by simp)) flap later

/-! ## The line at rest -/

/-- Once the line has been high, a low line is owed to a thread. -/
def OwedOnceHigh
    (irqLevel : Bool) (state : Smp Cpu) (history : History Cpu) : Prop :=
  irqLevel = true ∨ history.edges.lastRise ≠ none → Owed (flapView state)

theorem owed_of_step
    (succeeds : label.IoctlSucceeds) (owed : Owed (flapView source))
    (taken : step source label = some target) :
    Owed (flapView target) := by
  rcases matched_step taken with ⟨flaps, matched, flapsSucceed⟩
  exact matched.invariant_of_labels Owed FlapLabel.Succeeds owed
    (fun _ _ _ admitted before stepped => before.step admitted stepped)
    (flapsSucceed succeeds)

theorem OwedOnceHigh.step
    {irqLevel : Bool} (succeeds : label.IoctlSucceeds)
    (owed : OwedOnceHigh irqLevel source history)
    (taken : Com1Smp.step source label = some target) :
    OwedOnceHigh irqLevel target (observe source label history) := by
  rintro once
  have shared := step_shared taken
  cases rises :
      !source.shared.irqLevel &&
        ((effectOf source label).apply source.shared).irqLevel with
  | true =>
      left
      rw [← shared] at rises
      exact (Bool.and_eq_true_iff.mp rises).2
  | false =>
      refine owed_of_step succeeds (owed ?_) taken
      refine once.imp_right ?_
      intro risen
      simpa [observe, History.record, EdgeLog.record, rises] using risen

/--
Once the line has been high, it is low only while some thread is between the two
halves of a flap: with no flap in progress the interrupt is pending.
-/
theorem smp_low_line_owed
    {irqLevel : Bool} {state : Smp Cpu}
    (run : ObservedRun irqLevel labels state history)
    (succeed : ∀ label ∈ labels, label.IoctlSucceeds)
    (once : irqLevel = true ∨ history.edges.lastRise ≠ none)
    (low : state.shared.irqLevel = false) :
    state.reader = .flapHigh ∨
      ∃ cpu origin, state.cpus cpu = .flapHigh origin := by
  have owed : OwedOnceHigh irqLevel state history := by
    refine run.invariant_of_labels
      (fun reached => OwedOnceHigh irqLevel reached.1 reached.2)
      Label.IoctlSucceeds ?_ ?_ succeed
    · rintro (high | risen)
      · exact Or.inl high
      · exact absurd rfl risen
    · intro source label next succeeds before taken
      rcases observed_eq_some_iff.mp taken with ⟨stepped, recorded⟩
      rw [← recorded]
      exact before.step succeeds stepped
  rcases owed once with high | ⟨thread, raising⟩
  · rw [flapView, low] at high
    cases high
  · cases thread with
    | none =>
        left
        cases reader : state.reader with
        | flapHigh => rfl
        | _ => simp [flapView, reader, readerFlapPc] at raising
    | some cpu =>
        right
        cases pc : state.cpus cpu with
        | flapHigh origin => exact ⟨cpu, origin, pc⟩
        | _ => simp [flapView, pc, flapPc] at raising

end Runs

/-- One CPU has completed a flap, and another one has lowered the line. -/
def halfFlapped : List (Label Bool) :=
  [.begin false (.write .ierDlh 2)] ++
  List.replicate 6 (.advance false willing) ++
  [.begin true (.write .thrRbrDll 0x41)] ++
  List.replicate 5 (.advance true willing)

theorem smp_refines_flaps_half :
    ∃ state flaps,
      Run step (Smp.fresh false) halfFlapped state ∧
        Run Vm.IrqFlap.step (atRest false) flaps (flapView state) ∧
        ∀ flap ∈ flaps, flap.Succeeds := by
  have reached : ∃ state, Run step (Smp.fresh false) halfFlapped state :=
    ⟨_, Run.iff_foldlM.mpr rfl⟩
  rcases reached with ⟨state, run⟩
  rcases smp_refines_flaps run with ⟨flaps, refined, flapsSucceed⟩
  refine ⟨state, flaps, run, refined, flapsSucceed ?_⟩
  simp [halfFlapped, Label.IoctlSucceeds, willing]

theorem smp_low_line_owed_half :
    ∃ (state : Smp Bool) (history : History Bool),
      ObservedRun false halfFlapped state history ∧
        (state.reader = .flapHigh ∨
          ∃ cpu origin, state.cpus cpu = .flapHigh origin) := by
  have reached : ∃ state history,
      ObservedRun false halfFlapped state history ∧
        state.shared.irqLevel = false ∧ history.edges.lastRise = some 6 :=
    ⟨_, _, Run.iff_foldlM.mpr rfl, rfl, rfl⟩
  rcases reached with ⟨state, history, run, low, risen⟩
  refine ⟨state, history, run, smp_low_line_owed run ?_ ?_ low⟩
  · simp [halfFlapped, Label.IoctlSucceeds, willing]
  · rw [risen]
    exact Or.inr (Option.some_ne_none 6)

end Lvmm.Device.Com1SmpFlaps
