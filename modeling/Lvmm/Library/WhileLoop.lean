import Mathlib.Data.Nat.Basic

/-!
# Loops without a bound in sight

A loop repeats its body on a state until the body ends it with a result.  Whether
it ends is not part of the definition: a variant which every repetition decreases
shows it, together with what holds of the result.
-/

namespace Lvmm.Library.WhileLoop

universe u v

variable {State : Type u} {Result : Type v}

/-- What one iteration decides. -/
inductive Iteration (State : Type u) (Result : Type v) where
  | again (next : State)
  | finished (result : Result)

/-- The loop ends from a state, with a result. -/
inductive Ends (body : State → Iteration State Result) :
    State → Result → Prop where
  | finished {state : State} {result : Result}
      (stops : body state = .finished result) : Ends body state result
  | again {state next : State} {result : Result}
      (repeats : body state = .again next)
      (later : Ends body next result) : Ends body state result

namespace Ends

variable {body : State → Iteration State Result}

/-- A loop ends with one result only. -/
theorem unique
    {state : State} {first second : Result}
    (endsFirst : Ends body state first)
    (endsSecond : Ends body state second) :
    first = second := by
  induction endsFirst with
  | finished stops =>
      cases endsSecond with
      | finished stopsToo =>
          rw [stops] at stopsToo
          exact Iteration.finished.inj stopsToo
      | again repeats later =>
          rw [stops] at repeats
          cases repeats
  | again repeats later induction =>
      cases endsSecond with
      | finished stops =>
          rw [repeats] at stops
          cases stops
      | again repeatsToo laterToo =>
          rw [repeats] at repeatsToo
          cases repeatsToo
          exact induction laterToo

/--
Total correctness: the loop ends when a variant decreases, and what the result
has to do with the last state is carried back over every repetition.
-/
theorem of_variant
    (variant : State → Nat) (Post : State → Result → Prop)
    (stops : ∀ state result, body state = .finished result → Post state result)
    (repeats : ∀ state next, body state = .again next →
      variant next < variant state ∧
        ∀ result, Post next result → Post state result)
    (start : State) :
    ∃ result, Ends body start result ∧ Post start result := by
  induction bound : variant start using Nat.strong_induction_on
    generalizing start with
  | _ bound induction =>
      cases iteration : body start with
      | finished result => exact ⟨result, .finished iteration, stops _ _ iteration⟩
      | again next =>
          rcases repeats _ _ iteration with ⟨decreases, carries⟩
          rw [← bound] at induction
          rcases induction _ decreases next rfl with ⟨result, ends, holds⟩
          exact ⟨result, .again iteration ends, carries result holds⟩

end Ends

end Lvmm.Library.WhileLoop
