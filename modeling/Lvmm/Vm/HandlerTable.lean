import Lvmm.Library.WhileLoop
import Lvmm.Vm.PortIo

/-!
# Registration of port handlers

The loop of `VM::registerPIOHandler` as it stands in the source: a 16-bit counter
which wraps, rows which may lie outside the array, and handlers of any kind.  It
ends for all bounds, never leaves the array, and any sequence of calls leaves at
each port the handlers of the last call which covers it.
-/

namespace Lvmm.Vm.HandlerTable

open Lvmm.Device.IoDev
open Lvmm.Library.OverrideTable
open Lvmm.Library.WhileLoop
open Lvmm.Vm.PortIo

universe u

/-- `pio_handler` with handlers of any kind. -/
abbrev Handlers (Handler : Type u) :=
  Fin pioPortNum.toNat × Direction → Handler

/-- The arguments of a call of `VM::registerPIOHandler`. -/
structure HandlerCall (Handler : Type u) where
  portStart : UInt16
  portEnd : UInt16
  inFunc : Handler
  outFunc : Handler

/-- How a call ends; `outOfBounds` is a store to a row outside the array. -/
inductive RegisterEnd (Handler : Type u) where
  | returned (result : Int) (table : Handlers Handler)
  | outOfBounds

namespace HandlerCall

variable {Handler : Type u}

/-- The two stores of an iteration. -/
def store
    (call : HandlerCall Handler) (index : Fin pioPortNum.toNat)
    (table : Handlers Handler) : Handlers Handler :=
  Function.update
    (Function.update table (index, .input) call.inFunc)
    (index, .output) call.outFunc

/-- One iteration of the loop, over the counter and the array. -/
def body (call : HandlerCall Handler) :
    UInt16 × Handlers Handler →
      Iteration (UInt16 × Handlers Handler) (RegisterEnd Handler)
  | (i, table) =>
      if i < call.portEnd then
        if inside : i.toNat < pioPortNum.toNat then
          .again (i + 1, call.store ⟨i.toNat, inside⟩ table)
        else .finished .outOfBounds
      else .finished (.returned 0 table)

/-- The handler a call stores for a direction. -/
def handler (call : HandlerCall Handler) : Direction → Handler
  | .input => call.inFunc
  | .output => call.outFunc

/-- The port lies in the half-open range of the call. -/
def covers (call : HandlerCall Handler) (port : Nat) : Bool :=
  decide (call.portStart.toNat ≤ port ∧ port < call.portEnd.toNat)

/-- A call as an update of the table. -/
def update (call : HandlerCall Handler) :
    Update (Fin pioPortNum.toNat × Direction) Handler where
  covers slot := call.covers slot.1
  value slot := call.handler slot.2

/--
`VM::registerPIOHandler` ends, without a store outside the array, returns 0 and
leaves a table.
-/
def Registers
    (call : HandlerCall Handler) (table next : Handlers Handler) :
    Prop :=
  ∀ ending, Ends call.body (call.portStart, table) ending ↔
    ending = .returned 0 next

/-! ## One call -/

theorem store_apply
    (call : HandlerCall Handler) (index : Fin pioPortNum.toNat)
    (table : Handlers Handler)
    (slot : Fin pioPortNum.toNat × Direction) :
    call.store index table slot =
      if slot.1.val = index.val then call.handler slot.2
      else table slot :=
  update_row_apply call.handler index table slot

/-- The first row stored, then the rest of the range. -/
theorem apply_update_store
    (call : HandlerCall Handler) {i : UInt16} (below : i < call.portEnd)
    (table : Handlers Handler) :
    ({ call with portStart := i + 1 } : HandlerCall Handler).update.apply
        (call.store ⟨i.toNat, index_lt below⟩ table) =
      ({ call with portStart := i } : HandlerCall Handler).update.apply
        table := by
  funext slot
  have ordered : i.toNat < call.portEnd.toNat := below
  simp only [Update.apply, update, covers, decide_eq_true_eq, store_apply,
    toNat_succ below]
  exact first_then_rest ordered _ _

/-- Past the end of the range nothing is left to store. -/
theorem apply_update_empty
    (call : HandlerCall Handler) {i : UInt16} (past : ¬ i < call.portEnd)
    (table : Handlers Handler) :
    ({ call with portStart := i } : HandlerCall Handler).update.apply
        table = table := by
  funext slot
  have ordered : ¬ i.toNat < call.portEnd.toNat := past
  simp only [Update.apply, update, covers, decide_eq_true_eq]
  rw [if_neg (by omega)]

/-- From any counter the loop overwrites the rest of its range. -/
theorem ends_from
    (call : HandlerCall Handler) (start : UInt16 × Handlers Handler) :
    ∃ ending, Ends call.body start ending ∧
      ending =
        .returned 0
          (({ call with portStart := start.1 } :
            HandlerCall Handler).update.apply start.2) := by
  apply Ends.of_variant
    (fun state : UInt16 × Handlers Handler =>
      call.portEnd.toNat - state.1.toNat)
    (fun (state : UInt16 × Handlers Handler)
        (ending : RegisterEnd Handler) =>
      ending = .returned 0
        (({ call with portStart := state.1 } :
          HandlerCall Handler).update.apply state.2))
  · rintro ⟨i, table⟩ ending stops
    simp only [body] at stops
    split_ifs at stops with below inside
    · -- the bound is a 16-bit number, so the row is inside the array
      exact absurd (index_lt below) inside
    · cases stops
      rw [apply_update_empty call below]
  · rintro ⟨i, table⟩ next repeats
    simp only [body] at repeats
    split_ifs at repeats with below inside
    cases repeats
    have ordered : i.toNat < call.portEnd.toNat := below
    refine ⟨?_, ?_⟩
    · change
        call.portEnd.toNat - (i + 1).toNat < call.portEnd.toNat - i.toNat
      rw [toNat_succ below]
      omega
    · rintro ending rfl
      rw [apply_update_store call below]

theorem registers
    (call : HandlerCall Handler) (table : Handlers Handler) :
    call.Registers table (call.update.apply table) := by
  rcases call.ends_from (call.portStart, table) with ⟨ending, ends, rfl⟩
  intro other
  constructor
  · intro endsOther
    exact endsOther.unique ends
  · rintro rfl
    exact ends

end HandlerCall

/-! ## Sequences of calls -/

/-- All calls register, one after another. -/
def RegisterAll {Handler : Type u} :
    List (HandlerCall Handler) → Handlers Handler →
      Handlers Handler → Prop
  | [], table, final => final = table
  | call :: later, table, final =>
      ∃ next, call.Registers table next ∧ RegisterAll later next final

theorem registerAll_applyAll
    {Handler : Type u} (calls : List (HandlerCall Handler))
    (table : Handlers Handler) :
    RegisterAll calls table
      (applyAll table (calls.map HandlerCall.update)) := by
  induction calls generalizing table with
  | nil => rfl
  | cons call later induction =>
      exact ⟨_, call.registers table, induction _⟩

/--
Every call of a sequence ends inside the array, and afterwards each port has the
handlers of the last call which covers it, or its initial ones.
-/
theorem last_call_wins
    {Handler : Type u} (table : Handlers Handler)
    (calls : List (HandlerCall Handler)) :
    ∃ final, RegisterAll calls table final ∧
      ∀ port direction,
        final (port, direction) =
          match lastWhere (fun call => call.covers port) calls with
          | some call => call.handler direction
          | none => table (port, direction) := by
  refine ⟨_, registerAll_applyAll calls table, ?_⟩
  intro port direction
  rw [applyAll_eq, lastWhere_map]
  simp only [HandlerCall.update]
  cases lastWhere (fun call => call.covers port) calls with
  | some call => rfl
  | none => rfl

/-! ## The table of the machine -/

/-- A registration of the machine as a call. -/
def callOf (registration : Registration) :
    HandlerCall (Option PioHandler) where
  portStart := registration.portStart
  portEnd := registration.portEnd
  inFunc := some registration.inFunc
  outFunc := some registration.outFunc

/-- The loop of the machine's model computes what the source's loop leaves. -/
theorem registers_perform
    (table : PioTable) (registration : Registration) :
    (callOf registration).Registers table (registration.perform table) := by
  have same :
      registration.perform table =
        (callOf registration).update.apply table := by
    rw [perform_eq_apply]
    funext slot
    rcases slot with ⟨port, direction⟩
    cases direction with
    | input => rfl
    | output => rfl
  rw [same]
  exact (callOf registration).registers table

theorem registerAll_perform
    (calls : List Registration) (table : PioTable) :
    RegisterAll (calls.map callOf) table
      (calls.foldl Registration.perform table) := by
  induction calls generalizing table with
  | nil => rfl
  | cons call later induction =>
      exact ⟨_, registers_perform table call, induction _⟩

/-- `VM::initPIOHandler` is a sequence of such calls. -/
theorem registerAll_initPioHandler
    (iodev : List IODev) (table : PioTable) :
    RegisterAll ((registrations iodev).map callOf) table
      (initPioHandler iodev table) :=
  registerAll_perform _ table

end Lvmm.Vm.HandlerTable
