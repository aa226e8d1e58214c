import Mathlib.Data.List.Basic
import Mathlib.Logic.Function.Basic

/-!
# Loops that stop early

A loop runs a body once for each element of a list, threading a state, until
the list is exhausted or the body asks to stop with a result.  This is the
shape of a counted loop with a `return` in its body.
-/

namespace Lvmm.Library.StoppingLoop

universe u v w

variable {Input : Type u} {State : Type v} {Result : Type w}

/--
Run the body over the inputs.  The result is `none` when every iteration went
through, and the value of the stopping iteration otherwise.
-/
@[grind =]
def runUntil (body : Input → State → State × Option Result) :
    List Input → State → State × Option Result
  | [], state => (state, none)
  | input :: rest, state =>
      match body input state with
      | (next, none) => runUntil body rest next
      | (next, some result) => (next, some result)

variable {body : Input → State → State × Option Result}

@[simp]
theorem runUntil_nil (state : State) :
    runUntil body [] state = (state, none) :=
  rfl

theorem runUntil_cons_of_none
    {input : Input} {rest : List Input} {state next : State}
    (passed : body input state = (next, none)) :
    runUntil body (input :: rest) state = runUntil body rest next := by
  simp [runUntil, passed]

theorem runUntil_cons_of_some
    {input : Input} {rest : List Input} {state next : State}
    {result : Result}
    (stopped : body input state = (next, some result)) :
    runUntil body (input :: rest) state = (next, some result) := by
  simp [runUntil, stopped]

/-- The result of a loop is the result of one of its iterations. -/
theorem runUntil_stopped
    {inputs : List Input} {state final : State} {result : Result}
    (stopped : runUntil body inputs state = (final, some result)) :
    ∃ input ∈ inputs, ∃ source,
      body input source = (final, some result) := by
  induction inputs generalizing state with
  | nil => cases stopped
  | cons input rest induction =>
      rcases equal : body input state with ⟨next, _ | other⟩
      · rw [runUntil_cons_of_none equal] at stopped
        rcases induction stopped with ⟨later, member, source, found⟩
        exact ⟨later, List.mem_cons_of_mem _ member, source, found⟩
      · rw [runUntil_cons_of_some equal] at stopped
        exact ⟨input, by simp, state, equal.trans stopped⟩

/-- Counting an input before the rest of the inputs. -/
theorem count_length_cons (count : Nat) (input : Input) (rest : List Input) :
    count + (input :: rest).length = count + 1 + rest.length := by
  simp only [List.length_cons]
  omega

/--
What every passing iteration carries from one count of iterations to the next
holds after all inputs of a loop that passed.
-/
theorem runUntil_passed
    (Invariant : Nat → State → Prop) (count : Nat)
    {inputs : List Input} {state final : State}
    (initial : Invariant count state)
    (preserved : ∀ input ∈ inputs, ∀ index source target,
      Invariant index source → body input source = (target, none) →
        Invariant (index + 1) target)
    (passed : runUntil body inputs state = (final, none)) :
    Invariant (count + inputs.length) final := by
  induction inputs generalizing state count with
  | nil =>
      cases passed
      exact initial
  | cons input rest induction =>
      rcases equal : body input state with ⟨next, _ | result⟩
      · rw [runUntil_cons_of_none equal] at passed
        have after := preserved input (by simp) count state next initial equal
        rw [count_length_cons]
        exact induction (count + 1) after
          (fun other member =>
            preserved other (List.mem_cons_of_mem _ member))
          passed
      · rw [runUntil_cons_of_some equal] at passed
        cases passed

/-- What every iteration keeps, stopping or not, holds where the loop ends. -/
theorem runUntil_invariant
    (Invariant : State → Prop) {inputs : List Input} {state : State}
    (initial : Invariant state)
    (preserved : ∀ input ∈ inputs, ∀ source,
      Invariant source → Invariant (body input source).1) :
    Invariant (runUntil body inputs state).1 := by
  induction inputs generalizing state with
  | nil => exact initial
  | cons input rest induction =>
      have after := preserved input (by simp) state initial
      rcases equal : body input state with ⟨next, _ | result⟩
      · rw [equal] at after
        rw [runUntil_cons_of_none equal]
        exact induction after fun other member =>
          preserved other (List.mem_cons_of_mem _ member)
      · rw [equal] at after
        rw [runUntil_cons_of_some equal]
        exact after

/--
A loop none of whose iterations stops, from states with an invariant that the
iterations carry on, passes.
-/
theorem runUntil_total
    (Invariant : Nat → State → Prop) (count : Nat)
    {inputs : List Input} {state : State}
    (initial : Invariant count state)
    (preserved : ∀ input ∈ inputs, ∀ index source,
      Invariant index source →
        ∃ target, body input source = (target, none) ∧
          Invariant (index + 1) target) :
    ∃ final, runUntil body inputs state = (final, none) ∧
      Invariant (count + inputs.length) final := by
  induction inputs generalizing state count with
  | nil => exact ⟨state, rfl, initial⟩
  | cons input rest induction =>
      rcases preserved input (by simp) count state initial with
        ⟨next, equal, after⟩
      rcases induction (count + 1) after
          (fun other member =>
            preserved other (List.mem_cons_of_mem _ member)) with
        ⟨final, passed, holds⟩
      refine ⟨final, ?_, ?_⟩
      · rw [runUntil_cons_of_none equal, passed]
      · rw [count_length_cons]
        exact holds

/--
Two loops over the same inputs whose bodies keep a relation between the states
and agree on stopping end in related states and with the same result.
-/
theorem runUntil_related
    (Related : State → State → Prop) {inputs : List Input}
    {left right : State}
    (initial : Related left right)
    (preserved : ∀ input ∈ inputs, ∀ first second,
      Related first second →
        Related (body input first).1 (body input second).1 ∧
          (body input first).2 = (body input second).2) :
    Related (runUntil body inputs left).1 (runUntil body inputs right).1 ∧
      (runUntil body inputs left).2 = (runUntil body inputs right).2 := by
  induction inputs generalizing left right with
  | nil => exact ⟨initial, rfl⟩
  | cons input rest induction =>
      have step := preserved input (by simp) left right initial
      rcases leftEqual : body input left with ⟨leftNext, _ | leftResult⟩ <;>
        rcases rightEqual : body input right with
          ⟨rightNext, _ | rightResult⟩ <;>
        rw [leftEqual, rightEqual] at step
      · rw [runUntil_cons_of_none leftEqual,
          runUntil_cons_of_none rightEqual]
        exact induction step.1 fun other member =>
          preserved other (List.mem_cons_of_mem _ member)
      · cases step.2
      · cases step.2
      · rw [runUntil_cons_of_some leftEqual,
          runUntil_cons_of_some rightEqual]
        exact step

/--
What two loops that pass carry from one count of iterations to the next holds of
their final states.
-/
theorem runUntil_passed_related
    (Related : Nat → State → State → Prop) (count : Nat)
    {inputs : List Input} {left right leftFinal rightFinal : State}
    (initial : Related count left right)
    (preserved : ∀ input ∈ inputs, ∀ index first second next other,
      Related index first second →
        body input first = (next, none) →
          body input second = (other, none) →
            Related (index + 1) next other)
    (leftPassed : runUntil body inputs left = (leftFinal, none))
    (rightPassed : runUntil body inputs right = (rightFinal, none)) :
    Related (count + inputs.length) leftFinal rightFinal := by
  induction inputs generalizing left right count with
  | nil =>
      cases leftPassed
      cases rightPassed
      exact initial
  | cons input rest induction =>
      rcases leftEqual : body input left with ⟨leftNext, _ | result⟩
      · rcases rightEqual : body input right with ⟨rightNext, _ | result⟩
        · rw [runUntil_cons_of_none leftEqual] at leftPassed
          rw [runUntil_cons_of_none rightEqual] at rightPassed
          have after :=
            preserved input (by simp) count left right leftNext rightNext
              initial leftEqual rightEqual
          rw [count_length_cons]
          exact induction (count + 1) after
            (fun other member =>
              preserved other (List.mem_cons_of_mem _ member))
            leftPassed rightPassed
        · rw [runUntil_cons_of_some rightEqual] at rightPassed
          cases rightPassed
      · rw [runUntil_cons_of_some leftEqual] at leftPassed
        cases leftPassed

/-! ## Counted loops -/

section Counted

/-- A loop goes on with the rest of its inputs after some that pass. -/
theorem runUntil_append
    {front back : List Input} {state next : State}
    (passed : runUntil body front state = (next, none)) :
    runUntil body (front ++ back) state = runUntil body back next := by
  induction front generalizing state with
  | nil =>
      cases passed
      rfl
  | cons input rest induction =>
      rcases equal : body input state with ⟨middle, _ | result⟩
      · rw [runUntil_cons_of_none equal] at passed
        rw [List.cons_append, runUntil_cons_of_none equal]
        exact induction passed
      · rw [runUntil_cons_of_some equal] at passed
        cases passed

/-- A counted loop goes along the states which its iterations lead through. -/
theorem runUntil_range
    {count : Nat} {body : Nat → State → State × Option Result}
    (along : Nat → State)
    (passes : ∀ index, index < count →
      body index (along index) = (along (index + 1), none)) :
    runUntil body (List.range count) (along 0) = (along count, none) := by
  induction count with
  | zero => rfl
  | succ count induction =>
      have before :=
        induction fun index bound =>
          passes index (Nat.lt_succ_of_lt bound)
      rw [List.range_succ, runUntil_append before,
        runUntil_cons_of_none (passes count (Nat.lt_succ_self count))]
      rfl

end Counted

/-! ## Simulation -/

section Simulation

variable {Other : Type*}

/--
Two loops end alike: both pass in related states, or both stop with one result
in states which that result relates.
-/
def Agree
    (Related : State → Other → Prop)
    (Stopped : Result → State → Other → Prop) :
    State × Option Result → Other × Option Result → Prop
  | (left, none), (right, none) => Related left right
  | (left, some result), (right, some other) =>
      result = other ∧ Stopped result left right
  | _, _ => False

/-- Loops whose iterations end alike from related states end alike. -/
theorem runUntil_agree
    {other : Input → Other → Other × Option Result}
    {Related : State → Other → Prop}
    {Stopped : Result → State → Other → Prop}
    {inputs : List Input} {left : State} {right : Other}
    (initial : Related left right)
    (alike : ∀ input ∈ inputs, ∀ first second, Related first second →
      Agree Related Stopped (body input first) (other input second)) :
    Agree Related Stopped
      (runUntil body inputs left) (runUntil other inputs right) := by
  induction inputs generalizing left right with
  | nil => exact initial
  | cons input rest induction =>
      have step := alike input (by simp) left right initial
      rcases leftEqual : body input left with ⟨leftNext, _ | leftResult⟩ <;>
        rcases rightEqual : other input right with
          ⟨rightNext, _ | rightResult⟩ <;>
        rw [leftEqual, rightEqual] at step
      · rw [runUntil_cons_of_none leftEqual,
          runUntil_cons_of_none rightEqual]
        exact induction step fun input member =>
          alike input (List.mem_cons_of_mem _ member)
      · cases step
      · cases step
      · rw [runUntil_cons_of_some leftEqual,
          runUntil_cons_of_some rightEqual]
        exact step

end Simulation

/-! ## Logged loops -/

section Logged

variable {Entry : Type v}

/-- A body which extends a log and whose stopping depends on the input alone. -/
def logged (effect : Input → List Entry × Option Result) :
    Input → List Entry → List Entry × Option Result :=
  fun input log => (log ++ (effect input).1, (effect input).2)

/-- The inputs up to the first one that stops, included. -/
@[grind =]
def reached (stop : Input → Option Result) : List Input → List Input
  | [] => []
  | input :: rest =>
      input :: if (stop input).isSome then [] else reached stop rest

/-- A logged loop logs the inputs it reaches and ends with the first stop. -/
theorem runUntil_logged
    (effect : Input → List Entry × Option Result)
    (inputs : List Input) (log : List Entry) :
    runUntil (logged effect) inputs log =
      (log ++
          (reached (fun input => (effect input).2) inputs).flatMap
            (fun input => (effect input).1),
        inputs.findSome? fun input => (effect input).2) := by
  induction inputs generalizing log with
  | nil => simp [reached]
  | cons input rest induction =>
      rcases equal : effect input with ⟨entries, _ | result⟩
      · rw [runUntil_cons_of_none
            (show logged effect input log = (log ++ entries, none) by
              simp [logged, equal]),
          induction]
        simp [reached, equal]
      · rw [runUntil_cons_of_some
            (show logged effect input log = (log ++ entries, some result) by
              simp [logged, equal])]
        simp [reached, equal]

/-- The loop ends with what its last reached input asks for. -/
theorem findSome?_eq_last
    (stop : Input → Option Result) (inputs : List Input) :
    inputs.findSome? stop = (reached stop inputs).getLast?.bind stop := by
  induction inputs with
  | nil => rfl
  | cons input rest induction =>
      cases stopped : stop input with
      | some result => simp [reached, stopped]
      | none =>
          rw [List.findSome?_cons, stopped, induction, reached, stopped]
          cases rest with
          | nil => simp [reached, stopped]
          | cons next others => simp [reached, List.getLast?_cons_cons]

/-- Only the last reached input can stop the loop. -/
theorem getLast?_reached
    {stop : Input → Option Result} {inputs : List Input} {input : Input}
    (member : input ∈ reached stop inputs)
    (stopped : (stop input).isSome) :
    (reached stop inputs).getLast? = some input := by
  induction inputs with
  | nil => cases member
  | cons first rest induction =>
      by_cases firstStops : (stop first).isSome
      · simp only [reached, firstStops, if_true, List.mem_singleton]
          at member ⊢
        rw [member]
        rfl
      · simp only [reached, firstStops, Bool.false_eq_true, if_false,
          List.mem_cons] at member ⊢
        rcases member with rfl | later
        · exact absurd stopped firstStops
        · have last := induction later
          rw [List.getLast?_cons, last]
          rfl

theorem mem_reached_cons
    {stop : Input → Option Result} {first input : Input}
    {rest : List Input} :
    input ∈ reached stop (first :: rest) ↔
      input = first ∨ (stop first = none ∧ input ∈ reached stop rest) := by
  rw [reached, List.mem_cons]
  cases stop first <;> simp

/-- An input is reached when it is there and nothing before it stops. -/
theorem mem_reached_iff
    {stop : Input → Option Result} {inputs : List Input} {input : Input} :
    input ∈ reached stop inputs ↔
      ∃ front back, inputs = front ++ input :: back ∧
        ∀ earlier ∈ front, stop earlier = none := by
  induction inputs with
  | nil => simp [reached]
  | cons first rest induction =>
      rw [reached, List.mem_cons]
      constructor
      · rintro (rfl | later)
        · exact ⟨[], rest, rfl, by simp⟩
        · by_cases firstStops : (stop first).isSome
          · simp [firstStops] at later
          · rw [if_neg firstStops, induction] at later
            rcases later with ⟨front, back, rfl, passes⟩
            refine ⟨first :: front, back, rfl, ?_⟩
            intro earlier member
            rcases List.mem_cons.mp member with rfl | inFront
            · simpa using firstStops
            · exact passes earlier inFront
      · rintro ⟨front, back, equal, passes⟩
        cases front with
        | nil => exact Or.inl (List.cons.inj equal).1.symm
        | cons head tail =>
            rcases List.cons.inj equal with ⟨rfl, rest⟩
            right
            rw [passes first List.mem_cons_self, Option.isSome_none,
              if_neg (by decide), induction]
            exact ⟨tail, back, rest, fun earlier member =>
              passes earlier (List.mem_cons_of_mem _ member)⟩

/-- A second list is reached when nothing in the first one stops. -/
theorem mem_reached_append
    {stop : Input → Option Result} {front back : List Input}
    {input : Input} :
    input ∈ reached stop (front ++ back) ↔
      input ∈ reached stop front ∨
        (∀ earlier ∈ front, stop earlier = none) ∧
          input ∈ reached stop back := by
  induction front with
  | nil => simp [reached]
  | cons first rest induction =>
      rw [List.cons_append, mem_reached_cons, mem_reached_cons, induction]
      simp only [List.mem_cons, forall_eq_or_imp]
      tauto

theorem mem_of_mem_reached
    {stop : Input → Option Result} {inputs : List Input} {input : Input}
    (member : input ∈ reached stop inputs) : input ∈ inputs := by
  rcases mem_reached_iff.mp member with ⟨front, back, rfl, _⟩
  simp

/-- Everything is reached when nothing stops. -/
theorem reached_of_forall_none
    {stop : Input → Option Result} {inputs : List Input}
    (passes : ∀ input ∈ inputs, stop input = none) :
    reached stop inputs = inputs := by
  induction inputs with
  | nil => rfl
  | cons first rest induction =>
      rw [reached, passes first List.mem_cons_self, Option.isSome_none,
        if_neg (by decide),
        induction fun input member =>
          passes input (List.mem_cons_of_mem _ member)]

/-- A first list in which nothing stops is reached whole. -/
theorem reached_append
    {stop : Input → Option Result} {front back : List Input}
    (passes : ∀ input ∈ front, stop input = none) :
    reached stop (front ++ back) = front ++ reached stop back := by
  induction front with
  | nil => rfl
  | cons first rest induction =>
      rw [List.cons_append, reached, passes first List.mem_cons_self,
        Option.isSome_none, if_neg (by decide),
        induction fun input member =>
          passes input (List.mem_cons_of_mem _ member)]
      rfl

/-- The loop reaches a number of a range when no smaller one stops. -/
theorem mem_reached_range
    {stop : Nat → Option Result} {count number : Nat} :
    number ∈ reached stop (List.range count) ↔
      number < count ∧ ∀ earlier, earlier < number → stop earlier = none := by
  induction count with
  | zero => simp [reached]
  | succ count induction =>
      rw [List.range_succ, mem_reached_append, induction]
      constructor
      · rintro (⟨bound, passes⟩ | ⟨passes, last⟩)
        · exact ⟨Nat.lt_succ_of_lt bound, passes⟩
        · have same : number = count := by simpa [reached] using last
          subst same
          exact ⟨Nat.lt_succ_self number, fun earlier before =>
            passes earlier (List.mem_range.mpr before)⟩
      · rintro ⟨bound, passes⟩
        rcases Nat.lt_succ_iff_lt_or_eq.mp bound with before | rfl
        · exact Or.inl ⟨before, passes⟩
        · right
          refine ⟨?_, by simp [reached]⟩
          intro earlier member
          exact passes earlier (List.mem_range.mp member)

end Logged

/-! ## Loops over the entries of a table -/

section Entrywise

variable {Entry : Type v} [DecidableEq Input]

/-- A body which changes its input's entry and whose stopping ignores the table. -/
def entrywise
    (change : Input → Entry → Entry) (stop : Input → Option Result) :
    Input → (Input → Entry) → (Input → Entry) × Option Result :=
  fun input table =>
    (Function.update table input (change input (table input)), stop input)

/-- The loop changes the entries of the inputs it reaches and no others. -/
theorem runUntil_entrywise
    {change : Input → Entry → Entry} {stop : Input → Option Result}
    {inputs : List Input} (distinct : inputs.Nodup) (table : Input → Entry) :
    runUntil (entrywise change stop) inputs table =
      (fun input =>
          if input ∈ reached stop inputs then change input (table input)
          else table input,
        inputs.findSome? stop) := by
  induction inputs generalizing table with
  | nil => simp [reached]
  | cons first rest induction =>
      rcases List.nodup_cons.mp distinct with ⟨fresh, restDistinct⟩
      cases stopped : stop first with
      | some result =>
          rw [runUntil_cons_of_some
            (show entrywise change stop first table = (_, some result) by
              rw [entrywise, stopped])]
          simp only [List.findSome?_cons, stopped, Prod.mk.injEq, and_true]
          funext input
          by_cases same : input = first
          · subst same
            simp [reached, stopped]
          · simp [reached, stopped, same]
      | none =>
          rw [runUntil_cons_of_none
              (show entrywise change stop first table = (_, none) by
                rw [entrywise, stopped]),
            induction restDistinct]
          simp only [List.findSome?_cons, stopped, Prod.mk.injEq, and_true]
          funext input
          by_cases same : input = first
          · subst same
            have later : input ∉ reached stop rest :=
              fun member => fresh (mem_of_mem_reached member)
            simp [mem_reached_cons, later]
          · simp [mem_reached_cons, same, stopped]

end Entrywise

end Lvmm.Library.StoppingLoop
