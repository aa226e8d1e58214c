import Mathlib.Data.List.Induction

/-!
# Runs of labelled step functions

A system is a partial step function on states: a label is either refused or
leads to one next state.  A run is a list of accepted labels.  Everything that
holds of a whole run is derived here from what one step preserves.

An observer attaches a history to a run without influencing it.
-/

namespace Lvmm.Library.LabelledRun

universe u v w

variable {State : Type u} {Label : Type v} {History : Type w}

/-- The labels of a run from `start`, oldest first, and the state it reaches. -/
inductive Run
    (step : State → Label → Option State) (start : State) :
    List Label → State → Prop where
  | refl : Run step start [] start
  | snoc {labels : List Label} {middle target : State} {label : Label}
      (before : Run step start labels middle)
      (taken : step middle label = some target) :
      Run step start (labels ++ [label]) target

namespace Run

variable {step : State → Label → Option State}

/-- A property of the start which every step preserves holds after any run. -/
theorem invariant
    (Invariant : State → Prop) {start target : State}
    {labels : List Label}
    (initial : Invariant start)
    (preserved : ∀ source label next,
      Invariant source → step source label = some next → Invariant next)
    (run : Run step start labels target) :
    Invariant target := by
  induction run with
  | refl => exact initial
  | snoc before taken induction =>
      exact preserved _ _ _ induction taken

/--
The same for runs all of whose labels are admitted: only admitted steps have
to preserve the property.
-/
theorem invariant_of_labels
    (Invariant : State → Prop) (Admitted : Label → Prop)
    {start target : State} {labels : List Label}
    (initial : Invariant start)
    (preserved : ∀ source label next,
      Admitted label → Invariant source →
        step source label = some next → Invariant next)
    (run : Run step start labels target)
    (admitted : ∀ label ∈ labels, Admitted label) :
    Invariant target := by
  induction run with
  | refl => exact initial
  | snoc before taken induction =>
      have middleHolds :=
        induction fun label member =>
          admitted label (List.mem_append_left _ member)
      exact preserved _ _ _ (admitted _ (by simp)) middleHolds taken

theorem single
    {start target : State} {label : Label}
    (taken : step start label = some target) :
    Run step start [label] target := by
  simpa using Run.snoc Run.refl taken

/-- Folding the step function over the labels computes the run. -/
theorem iff_foldlM
    {start target : State} {labels : List Label} :
    Run step start labels target ↔
      labels.foldlM step start = some target := by
  constructor
  · intro run
    induction run with
    | refl => rfl
    | snoc before taken induction =>
        simp [List.foldlM_append, induction, taken]
  · intro folded
    induction labels using List.reverseRecOn generalizing target with
    | nil =>
        cases folded
        exact .refl
    | append_singleton front last induction =>
        rw [List.foldlM_append] at folded
        rcases Option.bind_eq_some_iff.mp folded with ⟨middle, reached, taken⟩
        exact (induction reached).snoc (by simpa using taken)

/-- A run that starts with a label takes that step first. -/
theorem cons_iff
    {start target : State} {label : Label} {labels : List Label} :
    Run step start (label :: labels) target ↔
      ∃ middle, step start label = some middle ∧
        Run step middle labels target := by
  simp only [iff_foldlM, List.foldlM_cons]
  exact Option.bind_eq_some_iff

theorem append_iff
    {start target : State} {front back : List Label} :
    Run step start (front ++ back) target ↔
      ∃ middle, Run step start front middle ∧
        Run step middle back target := by
  simp only [iff_foldlM, List.foldlM_append]
  exact Option.bind_eq_some_iff

/--
A run from a state without a property to one with it has a step with which the
property begins to hold.
-/
theorem crossing
    (Property : State → Prop) {start target : State} {labels : List Label}
    (run : Run step start labels target)
    (absent : ¬ Property start) (present : Property target) :
    ∃ front label back source next,
      labels = front ++ label :: back ∧
        Run step start front source ∧
        step source label = some next ∧
        ¬ Property source ∧ Property next := by
  induction run with
  | refl => exact absurd present absent
  | @snoc labels middle target label before taken induction =>
      by_cases already : Property middle
      · rcases induction already with
          ⟨front, first, back, source, next, split, reached, crossed⟩
        refine ⟨front, first, back ++ [label], source, next, ?_, reached,
          crossed⟩
        rw [split]
        simp
      · exact ⟨labels, label, [], middle, target, rfl, before, taken,
          already, present⟩

/--
If every admitted step is matched by a run of another system between the views of
its two states, so is every run of admitted steps.
-/
theorem simulated
    {State' : Type*} {Label' : Type*}
    {step' : State' → Label' → Option State'}
    (view : State → State')
    (Admitted : Label → Prop) (Admitted' : Label' → Prop)
    (matched : ∀ source label target, Admitted label →
      step source label = some target →
        ∃ labels', Run step' (view source) labels' (view target) ∧
          ∀ label' ∈ labels', Admitted' label')
    {start target : State} {labels : List Label}
    (run : Run step start labels target)
    (admitted : ∀ label ∈ labels, Admitted label) :
    ∃ labels', Run step' (view start) labels' (view target) ∧
      ∀ label' ∈ labels', Admitted' label' := by
  induction run with
  | refl => exact ⟨[], .refl, by simp⟩
  | snoc before taken induction =>
      rcases induction fun label member =>
          admitted label (List.mem_append_left _ member) with
        ⟨front, frontRun, frontAdmitted⟩
      rcases matched _ _ _ (admitted _ (by simp)) taken with
        ⟨back, backRun, backAdmitted⟩
      refine ⟨front ++ back, append_iff.mpr ⟨_, frontRun, backRun⟩, ?_⟩
      intro label' member
      rcases List.mem_append.mp member with inFront | inBack
      · exact frontAdmitted label' inFront
      · exact backAdmitted label' inBack

/--
A part of the state which every step changes by the part's own step function, or
not at all, goes through a run of the labels that are its own.
-/
theorem component
    {Part : Type*} {Own : Type*} {stepPart : Part → Own → Option Part}
    (part : State → Part) (own : Label → Option Own)
    (acts : ∀ source label target mine,
      step source label = some target → own label = some mine →
        stepPart (part source) mine = some (part target))
    (idle : ∀ source label target,
      step source label = some target → own label = none →
        part target = part source)
    {start target : State} {labels : List Label}
    (run : Run step start labels target) :
    Run stepPart (part start) (labels.filterMap own) (part target) := by
  induction run with
  | refl => exact .refl
  | @snoc labels middle target label before taken induction =>
      rw [List.filterMap_append]
      cases owned : own label with
      | some mine =>
          have moved := acts _ _ _ _ taken owned
          simpa [owned] using induction.snoc moved
      | none =>
          have kept := idle _ _ _ taken owned
          simpa [owned, kept] using induction

/--
A system each step of which is a step of another one or leaves it where it is goes
through a run of the other one whose labels are some of its own.
-/
theorem stuttering
    {Other : Type*} {Label' : Type*} {step' : Other → Label' → Option Other}
    (Related : State → Other → Prop) (Admitted : Label → Prop)
    (translate : Label → Label')
    (matched : ∀ source other label target, Admitted label →
      Related source other → step source label = some target →
        Related target other ∨
          ∃ next, step' other (translate label) = some next ∧
            Related target next)
    {start target : State} {other : Other} {labels : List Label}
    (initial : Related start other)
    (run : Run step start labels target)
    (admitted : ∀ label ∈ labels, Admitted label) :
    ∃ (kept : List Label) (final : Other), kept.Sublist labels ∧
      Run step' other (kept.map translate) final ∧ Related target final := by
  induction run with
  | refl => exact ⟨[], other, .slnil, .refl, initial⟩
  | @snoc labels middle target label before taken induction =>
      rcases induction fun label member =>
          admitted label (List.mem_append_left _ member) with
        ⟨kept, final, sublist, keptRun, related⟩
      rcases matched _ _ _ _ (admitted label (by simp)) related taken with
        idle | ⟨next, moved, after⟩
      · exact ⟨kept, final, sublist.trans (List.sublist_append_left _ _),
          keptRun, idle⟩
      · refine ⟨kept ++ [label], next, sublist.append_right _, ?_, after⟩
        rw [List.map_append]
        exact keptRun.snoc moved

end Run

/-! ## Observed runs -/

/-- A system together with a history which every accepted step extends. -/
def observed
    (step : State → Label → Option State)
    (observe : State → Label → History → History) :
    State × History → Label → Option (State × History) :=
  fun source label =>
    (step source.1 label).map fun target =>
      (target, observe source.1 label source.2)

theorem observed_eq_some_iff
    {step : State → Label → Option State}
    {observe : State → Label → History → History}
    {source target : State × History} {label : Label} :
    observed step observe source label = some target ↔
      step source.1 label = some target.1 ∧
        observe source.1 label source.2 = target.2 := by
  rcases target with ⟨state, history⟩
  simp only [observed, Option.map_eq_some_iff, Prod.mk.injEq]
  constructor
  · rintro ⟨next, taken, rfl, rfl⟩
    exact ⟨taken, rfl⟩
  · rintro ⟨taken, rfl⟩
    exact ⟨state, taken, rfl, rfl⟩

/-- An observer can watch any run. -/
theorem Run.observe
    {step : State → Label → Option State} {start target : State}
    {labels : List Label}
    (run : Run step start labels target)
    (recording : State → Label → History → History) (initial : History) :
    ∃ history,
      Run (observed step recording) (start, initial) labels
        (target, history) := by
  induction run with
  | refl => exact ⟨initial, .refl⟩
  | @snoc labels middle target label before taken induction =>
      rcases induction with ⟨history, watched⟩
      exact ⟨recording middle label history,
        watched.snoc (observed_eq_some_iff.mpr ⟨taken, rfl⟩)⟩

/-- Without its observer, an observed run is a run. -/
theorem Run.unobserved
    {step : State → Label → Option State}
    {recording : State → Label → History → History}
    {source target : State × History} {labels : List Label}
    (run : Run (observed step recording) source labels target) :
    Run step source.1 labels target.1 := by
  induction run with
  | refl => exact .refl
  | snoc before taken induction =>
      exact induction.snoc (observed_eq_some_iff.mp taken).1

end Lvmm.Library.LabelledRun
