import Mathlib.Logic.Function.Basic
import Lvmm.Library.LabelledRun
import Lvmm.Vm.SysCall

/-!
# Concurrent flaps of an interrupt line

Any number of threads call `VM::flapIRQLine` on one line.  A call issues two
ioctls, which interleave with those of other calls; an ioctl that fails leaves
the line alone and ends its call.  Whatever edge a call needs, it may owe to the
raising half of another one.
-/

namespace Lvmm.Vm.IrqFlap

open Lvmm.Library.LabelledRun
open Lvmm.Vm.SysCall

universe u

/-- Where a thread is in `VM::flapIRQLine`. -/
inductive FlapPc where
  | outside
  | beforeLow
  | beforeHigh
deriving DecidableEq, Repr

/-- The level of the line and the position of every thread. -/
structure FlapState (Thread : Type u) where
  line : Bool
  pc : Thread → FlapPc

/-- A call, or one of its two ioctls with the answer to it. -/
inductive FlapLabel (Thread : Type u) where
  | call (thread : Thread)
  | low (thread : Thread) (answer : SysResult)
  | high (thread : Thread) (answer : SysResult)

/-- The thread that takes a step. -/
def FlapLabel.thread {Thread : Type u} : FlapLabel Thread → Thread
  | .call thread => thread
  | .low thread _ => thread
  | .high thread _ => thread

/-- The ioctl of a step succeeds. -/
def FlapLabel.Succeeds {Thread : Type u} : FlapLabel Thread → Prop
  | .call _ => True
  | .low _ answer => answer.Succeeded
  | .high _ answer => answer.Succeeded

variable {Thread : Type u} [DecidableEq Thread]

/-- No call is in progress. -/
def atRest (line : Bool) : FlapState Thread where
  line := line
  pc := fun _ => .outside

/-- One step of a thread, where its position allows it. -/
def step (state : FlapState Thread) :
    FlapLabel Thread → Option (FlapState Thread)
  | .call thread =>
      if state.pc thread = .outside then
        some { state with
          pc := Function.update state.pc thread .beforeLow }
      else none
  | .low thread answer =>
      if state.pc thread = .beforeLow then
        if irqLine answer ≠ 0 then
          some { state with
            pc := Function.update state.pc thread .outside }
        else
          some
            { line := false
              pc := Function.update state.pc thread .beforeHigh }
      else none
  | .high thread answer =>
      if state.pc thread = .beforeHigh then
        if irqLine answer ≠ 0 then
          some { state with
            pc := Function.update state.pc thread .outside }
        else
          some
            { line := true
              pc := Function.update state.pc thread .outside }
      else none

/-! ## The two ioctls -/

theorem irqLine_of_succeeded {answer : SysResult}
    (succeeded : answer.Succeeded) :
    irqLine answer = 0 :=
  (zeroOrErrno_eq_zero_iff answer).mpr succeeded

theorem step_call
    {source target : FlapState Thread} {thread : Thread} :
    step source (.call thread) = some target ↔
      source.pc thread = .outside ∧
        target =
          { source with
            pc := Function.update source.pc thread .beforeLow } := by
  rw [step]
  split_ifs with ready
  · simp [ready, eq_comm]
  · simp [ready]

theorem step_low
    {source target : FlapState Thread} {thread : Thread}
    {answer : SysResult} (succeeded : answer.Succeeded) :
    step source (.low thread answer) = some target ↔
      source.pc thread = .beforeLow ∧
        target =
          { line := false
            pc := Function.update source.pc thread .beforeHigh } := by
  simp only [step, irqLine_of_succeeded succeeded, ne_eq,
    not_true_eq_false, if_false]
  split_ifs with ready
  · simp [ready, eq_comm]
  · simp [ready]

theorem step_high
    {source target : FlapState Thread} {thread : Thread}
    {answer : SysResult} (succeeded : answer.Succeeded) :
    step source (.high thread answer) = some target ↔
      source.pc thread = .beforeHigh ∧
        target =
          { line := true
            pc := Function.update source.pc thread .outside } := by
  simp only [step, irqLine_of_succeeded succeeded, ne_eq,
    not_true_eq_false, if_false]
  split_ifs with ready
  · simp [ready, eq_comm]
  · simp [ready]

/-- The steps of a call which is not interrupted. -/
def callLabels (thread : Thread) (low high : SysResult) :
    List (FlapLabel Thread) :=
  if irqLine low ≠ 0 then [.call thread, .low thread low]
  else [.call thread, .low thread low, .high thread high]

/--
A call that is not interrupted drives the line to the levels of
`VM::flapIRQLine`, whatever the answers to its ioctls.
-/
theorem run_callLabels
    (line : Bool) (thread : Thread) (low high : SysResult) :
    Run step (atRest line) (callLabels thread low high)
      (atRest ((flapIrqLine low high).2.getLastD line)) := by
  have back (pc : FlapPc) :
      Function.update (Function.update (fun _ : Thread => FlapPc.outside)
        thread pc) thread .outside = fun _ => .outside := by
    rw [Function.update_idem, Function.update_eq_self]
  rw [Run.iff_foldlM, callLabels, flapIrqLine]
  by_cases lowered : irqLine low = 0
  · by_cases raised : irqLine high = 0
    · simp [step, atRest, lowered, raised, back]
    · simp [step, atRest, lowered, raised, back]
  · simp [step, atRest, lowered, back]

/-! ## The line at rest -/

/-- A low line is owed to a call which has yet to raise it. -/
def Owed (state : FlapState Thread) : Prop :=
  state.line = true ∨ ∃ thread, state.pc thread = .beforeHigh

theorem Owed.step
    {source target : FlapState Thread} {label : FlapLabel Thread}
    (succeeds : label.Succeeds) (owed : Owed source)
    (taken : IrqFlap.step source label = some target) :
    Owed target := by
  cases label with
  | call thread =>
      rcases step_call.mp taken with ⟨outside, rfl⟩
      rcases owed with high | ⟨other, raising⟩
      · exact Or.inl high
      · right
        refine ⟨other, ?_⟩
        have different : other ≠ thread := by
          rintro rfl
          rw [outside] at raising
          cases raising
        simpa [Function.update_of_ne different] using raising
  | low thread answer =>
      rcases (step_low succeeds).mp taken with ⟨-, rfl⟩
      exact Or.inr ⟨thread, Function.update_self _ _ _⟩
  | high thread answer =>
      rcases (step_high succeeds).mp taken with ⟨-, rfl⟩
      exact Or.inl rfl

/-- From the first raise on, a low line is owed. -/
theorem owed_of_raised
    {start state : FlapState Thread} {labels : List (FlapLabel Thread)}
    (run : Run step start labels state)
    (succeed : ∀ label ∈ labels, label.Succeeds)
    {thread : Thread} {answer : SysResult}
    (raised : .high thread answer ∈ labels) :
    Owed state := by
  rcases List.append_of_mem raised with ⟨front, back, rfl⟩
  rcases Run.append_iff.mp run with ⟨source, -, rest⟩
  rcases Run.cons_iff.mp rest with ⟨next, taken, continued⟩
  have raisedHigh : Owed next := by
    rcases (step_high (succeed _ raised)).mp taken with ⟨-, rfl⟩
    exact Or.inl rfl
  exact continued.invariant_of_labels Owed FlapLabel.Succeeds raisedHigh
    (fun _ _ _ succeeds owed stepped => owed.step succeeds stepped)
    (fun label member => succeed label (by simp [member]))

/-! ## Whole runs -/

/--
For any number of threads, every schedule and every initial level: the line
rises between the two halves of each completed call, or with the second one, and
once a call has completed it is high whenever no call is in progress.
-/
theorem flaps_never_cancel
    (line : Bool) (labels : List (FlapLabel Thread))
    (state : FlapState Thread)
    (run : Run step (atRest line) labels state)
    (succeed : ∀ label ∈ labels, label.Succeeds) :
    (∀ before between later thread low high,
      labels =
        before ++ .low thread low :: between ++ .high thread high :: later →
      (∀ label ∈ between, label.thread ≠ thread) →
      ∃ front label back source target,
        between ++ [.high thread high] = front ++ label :: back ∧
        Run step (atRest line) (before ++ .low thread low :: front) source ∧
        step source label = some target ∧
        source.line = false ∧ target.line = true) ∧
    ((∃ thread answer, .high thread answer ∈ labels) →
      (∀ thread, state.pc thread = .outside) →
      state.line = true) := by
  constructor
  · rintro before between later thread low high rfl -
    have split :
        before ++ .low thread low :: between ++
            .high thread high :: later =
          before ++ (.low thread low ::
            (between ++ [.high thread high] ++ later)) := by
      simp
    have lowSucceeded : low.Succeeded := succeed (.low thread low) (by simp)
    have highSucceeded : high.Succeeded :=
      succeed (.high thread high) (by simp)
    rw [split] at run
    rcases Run.append_iff.mp run with ⟨first, toFirst, rest⟩
    rcases Run.cons_iff.mp rest with ⟨lowered, lowering, rest⟩
    rcases Run.append_iff.mp rest with ⟨raised, within, -⟩
    have lineLow : ¬ lowered.line = true := by
      rcases (step_low lowSucceeded).mp lowering with ⟨-, rfl⟩
      exact Bool.false_ne_true
    have lineHigh : raised.line = true := by
      rcases Run.append_iff.mp within with ⟨middle, -, last⟩
      rcases Run.cons_iff.mp last with ⟨next, raising, done⟩
      rcases (step_high highSucceeded).mp raising with ⟨-, rfl⟩
      cases Run.iff_foldlM.mp done
      rfl
    rcases within.crossing (fun state => state.line = true) lineLow
        lineHigh with
      ⟨front, label, back, source, target, position, reached, taken,
        stillLow, nowHigh⟩
    refine ⟨front, label, back, source, target, position, ?_, taken,
      Bool.eq_false_iff.mpr stillLow, nowHigh⟩
    exact Run.append_iff.mpr
      ⟨first, toFirst, Run.cons_iff.mpr ⟨lowered, lowering, reached⟩⟩
  · rintro ⟨thread, answer, raised⟩ outside
    rcases owed_of_raised run succeed raised with high | ⟨other, raising⟩
    · exact high
    · rw [outside other] at raising
      cases raising

/-- Two threads whose calls cross: the first one gets the second one's edge. -/
def crossedCalls : List (FlapLabel Bool) :=
  [ .call false, .call true, .low false (.ok 0), .low true (.ok 0),
    .high true (.ok 0), .high false (.ok 0) ]

theorem flaps_never_cancel_crossed :
    ∃ state, Run step (atRest true) crossedCalls state ∧
      state.line = true := by
  have reached : ∃ state,
      crossedCalls.foldlM step (atRest true) = some state ∧
        ∀ thread, state.pc thread = .outside :=
    ⟨_, rfl, by decide⟩
  rcases reached with ⟨state, folded, outside⟩
  have run := Run.iff_foldlM.mpr folded
  have succeed : ∀ label ∈ crossedCalls, label.Succeeds := by
    simp [crossedCalls, FlapLabel.Succeeds]
  have raised : ∃ thread answer, .high thread answer ∈ crossedCalls :=
    ⟨true, .ok 0, by simp [crossedCalls]⟩
  exact ⟨state, run,
    (flaps_never_cancel true crossedCalls state run succeed).2 raised outside⟩

end Lvmm.Vm.IrqFlap
