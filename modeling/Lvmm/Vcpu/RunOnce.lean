import Lvmm.Library.CellMemory
import Lvmm.Library.StoppingLoop
import Lvmm.Vm.PortIo

/-!
# One exit of a virtual CPU

`Vcpu::RunOnce` after the `KVM_RUN` ioctl, whose result it discards: a switch on
`run->exit_reason`.  An I/O exit calls the handler of its port `count` times, and
every call is given the same pointer `run + data_offset`.

The data area is addressed by offsets from the start of the `kvm_run` page.  A
handler reads and writes `data_ptr[0]` only.
-/

namespace Lvmm.Vcpu.RunOnce

open Lvmm.Device.IoDev
open Lvmm.Library.CellMemory
open Lvmm.Library.StoppingLoop
open Lvmm.Vm.PortIo

def kvmExitUnknown : UInt32 := 0
def kvmExitIo : UInt32 := 2
def kvmExitDebug : UInt32 := 4
def kvmExitHlt : UInt32 := 5
def kvmExitIntr : UInt32 := 10

/-- The fields of `run->io`. -/
structure KvmIo where
  direction : Direction
  size : UInt8
  port : UInt16
  count : UInt32
  dataOffset : UInt64
deriving DecidableEq

/-- The fields of the shared page which `RunOnce` reads itself. -/
structure KvmRun where
  exitReason : UInt32
  io : KvmIo
deriving DecidableEq

/--
What handlers read and change: the data area, the devices, the bytes written to
the standard output and the levels the interrupt line was driven to.
-/
structure IoState where
  data : Memory UInt8
  iodev : List IODev
  stdout : List UInt8
  irqLevels : List Bool

/-- The arguments of a handler call, the pointer as an offset into the page. -/
structure HandlerCall where
  port : UInt16
  pointer : Nat
  size : UInt8
deriving DecidableEq

/-- What a handler did. -/
inductive HandlerRun where
  | returned (result : Int) (state : IoState)
  | outOfBounds

/-- Store what an access left of the device and the cell. -/
def IoState.store
    (state : IoState) (index pointer : Nat) (dev : IODev) :
    DeviceRun → HandlerRun
  | .returned result cell device stdout irqLevels =>
      .returned result
        { data := Function.update state.data pointer cell
          iodev := state.iodev.set index { dev with device }
          stdout := state.stdout ++ stdout
          irqLevels := state.irqLevels ++ irqLevels }
  | .outOfBounds => .outOfBounds

/-- Access the device with an index of `VM::iodev`. -/
def IoState.access
    (state : IoState) (index pointer : Nat)
    (call : DeviceClass → UInt8 → DeviceRun) : HandlerRun :=
  match state.iodev[index]? with
  | some dev =>
      state.store index pointer dev (call dev.device (state.data pointer))
  | none => .outOfBounds

/-- A call of a function stored in `VM::pio_handler`. -/
def invoke
    (handler : PioHandler) (host : HostAnswers)
    (call : HandlerCall) (state : IoState) : HandlerRun :=
  match handler with
  | .defaultPioHandler => .returned 1 state
  | .doNothingPioHandler => .returned 0 state
  | .resetGeneratorHandlerOut => .returned 1 state
  | .readFunc index =>
      state.access index call.pointer fun device cell =>
        device.read host call.port cell call.size
  | .writeFunc index =>
      state.access index call.pointer fun device cell =>
        device.write host call.port cell call.size

/--
How `RunOnce` ends: with a value, with the exception of calling an empty
`std::function`, or in an access outside an array.
-/
inductive Outcome where
  | returned (result : Int)
  | badFunctionCall
  | outOfBounds
deriving DecidableEq

/-- The handler calls made so far, and the state they left. -/
structure IoLoop where
  calls : List HandlerCall
  state : IoState

/-- The arguments which every iteration passes on. -/
def KvmIo.call (io : KvmIo) : HandlerCall :=
  { port := io.port, pointer := io.dataOffset.toNat, size := io.size }

/-- Continue after a handler call, or end with its failure. -/
def afterCall (loop : IoLoop) (call : HandlerCall) :
    HandlerRun → IoLoop × Option Outcome
  | .returned result state =>
      ({ calls := loop.calls ++ [call], state },
        if result ≠ 0 then some (.returned 1) else none)
  | .outOfBounds =>
      ({ loop with calls := loop.calls ++ [call] }, some .outOfBounds)

/-- One iteration of the loop in `RunOnce`. -/
def ioCall
    (table : PioTable) (host : Nat → HostAnswers) (io : KvmIo)
    (index : Nat) (loop : IoLoop) : IoLoop × Option Outcome :=
  if inside : io.port.toNat < pioPortNum.toNat then
    match table (⟨io.port.toNat, inside⟩, io.direction) with
    | some handler =>
        afterCall loop io.call
          (invoke handler (host index) io.call loop.state)
    | none => (loop, some .badFunctionCall)
  else (loop, some .outOfBounds)

/--
What `RunOnce` did: its outcome, the I/O exit it dispatched, the handler calls
and the state.
-/
structure OnceRun where
  outcome : Outcome
  dispatched : Option KvmIo
  calls : List HandlerCall
  state : IoState

/-- The loop over the elements of the exit. -/
def ioLoop
    (table : PioTable) (host : Nat → HostAnswers) (io : KvmIo)
    (state : IoState) : IoLoop × Option Outcome :=
  runUntil (ioCall table host io) (List.range io.count.toNat)
    { calls := [], state }

/-- The case `KVM_EXIT_IO`. -/
def dispatchIo
    (table : PioTable) (host : Nat → HostAnswers) (io : KvmIo)
    (state : IoState) : OnceRun :=
  let (loop, stopped) := ioLoop table host io state
  { outcome := stopped.getD (.returned 0)
    dispatched := some io
    calls := loop.calls, state := loop.state }

/-- `Vcpu::RunOnce` after `Run()`. -/
def runOnce
    (table : PioTable) (host : Nat → HostAnswers) (run : KvmRun)
    (state : IoState) : OnceRun :=
  if run.exitReason = kvmExitUnknown ∨ run.exitReason = kvmExitIntr then
    { outcome := .returned 0, dispatched := none, calls := [], state }
  else if run.exitReason = kvmExitDebug ∨ run.exitReason = kvmExitHlt then
    { outcome := .returned 1, dispatched := none, calls := [], state }
  else if run.exitReason = kvmExitIo then
    dispatchIo table host run.io state
  else
    -- KVM_EXIT_MMIO and every other reason
    { outcome := .returned 1, dispatched := none, calls := [], state }

/-- A host which answers every call with success. -/
def willingHost : Nat → HostAnswers := fun _ =>
  { serial := { write := .ok 1, irqLow := .ok 0, irqHigh := .ok 0 }
    now :=
      { tmSec := 0, tmMin := 0, tmHour := 0, tmMday := 1, tmMon := 0
        tmYear := 100, tmWday := 6 } }

/-! ## The loop of an I/O exit -/

theorem set_of_getElem?
    {α : Type*} {items : List α} {index : Nat} {item : α}
    (present : items[index]? = some item) : items.set index item = items := by
  rcases List.getElem?_eq_some_iff.mp present with ⟨bound, rfl⟩
  exact List.set_getElem_self bound

theorem runOnce_io
    (table : PioTable) (host : Nat → HostAnswers) {run : KvmRun}
    (exit : run.exitReason = kvmExitIo) (state : IoState) :
    runOnce table host run state = dispatchIo table host run.io state := by
  rw [runOnce, exit]
  rfl

/-- An exit for any other reason is not dispatched and calls no handler. -/
theorem runOnce_of_not_io
    (table : PioTable) (host : Nat → HostAnswers) {run : KvmRun}
    (exit : run.exitReason ≠ kvmExitIo) (state : IoState) :
    (runOnce table host run state).dispatched = none ∧
      (runOnce table host run state).calls = [] ∧
      (runOnce table host run state).state = state := by
  rw [runOnce]
  split_ifs <;> exact ⟨rfl, rfl, rfl⟩

section Loop

variable {table : PioTable} {host : Nat → HostAnswers} {io : KvmIo}

/-- An iteration that passed made one call, which returned 0. -/
theorem ioCall_passed
    {index : Nat} {source target : IoLoop}
    (passed : ioCall table host io index source = (target, none)) :
    ∃ inside : io.port.toNat < pioPortNum.toNat, ∃ handler,
      table (⟨io.port.toNat, inside⟩, io.direction) = some handler ∧
        invoke handler (host index) io.call source.state =
          .returned 0 target.state ∧
        target.calls = source.calls ++ [io.call] := by
  rw [ioCall] at passed
  by_cases inside : io.port.toNat < pioPortNum.toNat
  · rw [dif_pos inside] at passed
    refine ⟨inside, ?_⟩
    cases entry : table (⟨io.port.toNat, inside⟩, io.direction) with
    | none => simp [entry] at passed
    | some handler =>
        refine ⟨handler, rfl, ?_⟩
        simp only [entry] at passed
        cases run : invoke handler (host index) io.call source.state with
        | outOfBounds => simp [run, afterCall] at passed
        | returned result state =>
            simp only [run, afterCall, Prod.mk.injEq, ite_eq_right_iff,
              reduceCtorEq, imp_false, not_not] at passed
            rcases passed with ⟨rfl, rfl⟩
            exact ⟨rfl, rfl⟩
  · simp [dif_neg inside] at passed

/-- An iteration whose handler returns 0 passes. -/
theorem ioCall_of_returned
    {index : Nat} {loop : IoLoop} {next : IoState} {handler : PioHandler}
    (inside : io.port.toNat < pioPortNum.toNat)
    (entry :
      table (⟨io.port.toNat, inside⟩, io.direction) = some handler)
    (returned :
      invoke handler (host index) io.call loop.state = .returned 0 next) :
    ioCall table host io index loop =
      ({ calls := loop.calls ++ [io.call], state := next }, none) := by
  simp [ioCall, inside, entry, returned, afterCall]

/-- No iteration ends `RunOnce` with 0. -/
theorem ioCall_stopped_ne_zero
    {index : Nat} {source target : IoLoop} {outcome : Outcome}
    (stopped : ioCall table host io index source = (target, some outcome)) :
    outcome ≠ .returned 0 := by
  rintro rfl
  rw [ioCall] at stopped
  by_cases inside : io.port.toNat < pioPortNum.toNat
  · rw [dif_pos inside] at stopped
    cases entry : table (⟨io.port.toNat, inside⟩, io.direction) with
    | none => simp [entry] at stopped
    | some handler =>
        simp only [entry] at stopped
        cases run : invoke handler (host index) io.call source.state with
        | outOfBounds => simp [run, afterCall] at stopped
        | returned result state => simp [run, afterCall] at stopped
  · simp [dif_neg inside] at stopped

/-- `RunOnce` returns 0 for an I/O exit only when its loop ran to the end. -/
theorem dispatchIo_passed
    {state : IoState}
    (zero : (dispatchIo table host io state).outcome = .returned 0) :
    ∃ final,
      ioLoop table host io state = (final, none) ∧
        (dispatchIo table host io state).calls = final.calls ∧
        (dispatchIo table host io state).state = final.state := by
  rw [dispatchIo] at zero ⊢
  rcases loop : ioLoop table host io state with ⟨final, _ | outcome⟩
  · exact ⟨final, rfl, rfl, rfl⟩
  · rcases runUntil_stopped loop with ⟨index, _, source, stopped⟩
    rw [loop] at zero
    exact absurd zero (ioCall_stopped_ne_zero stopped)

/-- A loop which ran to the end makes `RunOnce` return 0. -/
theorem dispatchIo_of_passed
    {state : IoState} {final : IoLoop}
    (passed : ioLoop table host io state = (final, none)) :
    dispatchIo table host io state =
      { outcome := .returned 0, dispatched := some io,
        calls := final.calls, state := final.state } := by
  rw [dispatchIo, passed]
  rfl

/-- Every call of an exit that returned 0 was given the same arguments. -/
theorem dispatchIo_calls
    {state : IoState}
    (zero : (dispatchIo table host io state).outcome = .returned 0) :
    (dispatchIo table host io state).calls =
      List.replicate io.count.toNat io.call := by
  rcases dispatchIo_passed zero with ⟨final, passed, calls, _⟩
  have counted :=
    runUntil_passed
      (fun count loop => loop.calls = List.replicate count io.call) 0 rfl
      (by
        intro index _ count source target calls step
        rcases ioCall_passed step with ⟨_, _, _, _, extended⟩
        rw [extended, calls, List.replicate_succ'])
      passed
  rw [calls, counted, List.length_range, Nat.zero_add]

end Loop

end Lvmm.Vcpu.RunOnce
