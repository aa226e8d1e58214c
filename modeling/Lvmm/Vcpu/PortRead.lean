import Lvmm.Vcpu.RunOnce

/-!
# What a port read leaves for the guest

Two runs of one input exit which differ in the data area only.  `COM1::Read` and
`CMOS::Read` define the byte at `data_ptr[0]` from the device and the clock.
`do_nothing_pio_handler` and `Post::Read` deliver nothing: they report success and
leave the area alone.
-/

namespace Lvmm.Vcpu.PortRead

open Lvmm.Device.CmosDevice
open Lvmm.Device.Com1Device
open Lvmm.Device.IoDev
open Lvmm.Library.CellMemory
open Lvmm.Library.StoppingLoop
open Lvmm.Vcpu.RunOnce
open Lvmm.Vm.PortIo

/-- Two states differ in nothing but the data area. -/
structure Agree (left right : IoState) : Prop where
  iodev : left.iodev = right.iodev
  stdout : left.stdout = right.stdout
  irqLevels : left.irqLevels = right.irqLevels

/-- The handler is `Read` of a device which defines the byte it reports. -/
def Delivers (iodev : List IODev) (handler : PioHandler) : Prop :=
  ∃ index dev, handler = .readFunc index ∧ iodev[index]? = some dev ∧
    dev.device ≠ .post

/-- The handler is one of those which deliver nothing. -/
def DeliversNothing (iodev : List IODev) (handler : PioHandler) : Prop :=
  handler = .doNothingPioHandler ∨
    ∃ index dev, handler = .readFunc index ∧ iodev[index]? = some dev ∧
      dev.device = .post

/-- The handler which the port and the direction of an exit select. -/
def handlerOf (table : PioTable) (io : KvmIo) : Option PioHandler :=
  if inside : io.port.toNat < pioPortNum.toNat then
    table (⟨io.port.toNat, inside⟩, io.direction)
  else none

/-! ## One handler call in two runs -/

/-- A delivered read defines the byte at the pointer, whatever it was before. -/
theorem invoke_delivers
    {handler : PioHandler} {left right : IoState}
    (agree : Agree left right) (delivers : Delivers left.iodev handler)
    (host : HostAnswers) (call : HandlerCall) :
    (invoke handler host call left = .outOfBounds ∧
      invoke handler host call right = .outOfBounds) ∨
    ∃ result leftNext rightNext,
      invoke handler host call left = .returned result leftNext ∧
      invoke handler host call right = .returned result rightNext ∧
      Agree leftNext rightNext ∧ Delivers leftNext.iodev handler ∧
      (result = 0 →
        leftNext.data call.pointer = rightNext.data call.pointer) := by
  rcases delivers with ⟨index, dev, rfl, device, notPost⟩
  have otherDevice : right.iodev[index]? = some dev := by
    rw [← agree.iodev, device]
  have bound : index < left.iodev.length :=
    (List.getElem?_eq_some_iff.mp device).1
  rcases DeviceClass.read_cases notPost host call.port call.size with
    fails | ⟨byte, next, stays, stores⟩ | outside
  · right
    refine ⟨1, _, _,
      by simp only [invoke, IoState.access, device, fails, IoState.store]; rfl,
      by
        simp only [invoke, IoState.access, otherDevice, fails,
          IoState.store]
        rfl,
      ⟨?_, ?_, ?_⟩, ?_, ?_⟩
    · simp [agree.iodev]
    · simp [agree.stdout]
    · simp [agree.irqLevels]
    · exact ⟨index, dev, rfl, by simp [bound], notPost⟩
    · intro impossible
      cases impossible
  · right
    refine ⟨0, _, _,
      by simp only [invoke, IoState.access, device, stores, IoState.store]; rfl,
      by
        simp only [invoke, IoState.access, otherDevice, stores,
          IoState.store]
        rfl,
      ⟨?_, ?_, ?_⟩, ?_, ?_⟩
    · simp [agree.iodev]
    · simp [agree.stdout]
    · simp [agree.irqLevels]
    · exact ⟨index, { dev with device := next }, rfl, by simp [bound], stays⟩
    · intro _
      simp
  · left
    simp [invoke, IoState.access, device, otherDevice, outside, IoState.store]

/-- A handler which delivers nothing reports success and changes nothing. -/
theorem invoke_deliversNothing
    {handler : PioHandler} {state : IoState}
    (nothing : DeliversNothing state.iodev handler)
    (host : HostAnswers) (call : HandlerCall) :
    invoke handler host call state = .returned 0 state := by
  rcases nothing with rfl | ⟨index, dev, rfl, device, post⟩
  · rfl
  · have same : { dev with device := .post } = dev := by
      rw [← post]
    simp only [invoke, IoState.access, device, post, DeviceClass.read,
      IoState.store, Function.update_eq_self, List.append_nil, same,
      set_of_getElem? device]

/-- A function which the table may hold in an input slot. -/
def IsInput (handler : PioHandler) : Prop :=
  handler = .defaultPioHandler ∨ handler = .doNothingPioHandler ∨
    ∃ device, handler = .readFunc device

/-- An input handler does the same in both runs, the data area apart. -/
theorem invoke_agree
    {handler : PioHandler} {left right : IoState}
    (input : IsInput handler) (agree : Agree left right)
    (host : HostAnswers) (call : HandlerCall) :
    (invoke handler host call left = .outOfBounds ∧
      invoke handler host call right = .outOfBounds) ∨
    ∃ result leftNext rightNext,
      invoke handler host call left = .returned result leftNext ∧
      invoke handler host call right = .returned result rightNext ∧
      Agree leftNext rightNext := by
  rcases input with rfl | rfl | ⟨index, rfl⟩
  · exact Or.inr ⟨1, left, right, rfl, rfl, agree⟩
  · exact Or.inr ⟨0, left, right, rfl, rfl, agree⟩
  · cases device : left.iodev[index]? with
    | none =>
        left
        have otherDevice : right.iodev[index]? = none := by
          rw [← agree.iodev, device]
        simp [invoke, IoState.access, device, otherDevice]
    | some dev =>
        have otherDevice : right.iodev[index]? = some dev := by
          rw [← agree.iodev, device]
        by_cases post : dev.device = .post
        · right
          exact
            ⟨0, left, right,
              invoke_deliversNothing
                (Or.inr ⟨index, dev, rfl, device, post⟩) host call,
              invoke_deliversNothing
                (Or.inr ⟨index, dev, rfl, otherDevice, post⟩) host call,
              agree⟩
        · rcases invoke_delivers agree ⟨index, dev, rfl, device, post⟩
              host call with
            outside | ⟨result, leftNext, rightNext, first, second, next, _⟩
          · exact Or.inl outside
          · exact
              Or.inr ⟨result, leftNext, rightNext, first, second, next⟩

/-! ## The whole exit in two runs -/

section Exit

variable {table : PioTable} {host : Nat → HostAnswers} {io : KvmIo}

/-- Every handler in the slot of the exit is an input handler. -/
def ReadsOnly (table : PioTable) (io : KvmIo) : Prop :=
  ∀ (inside : io.port.toNat < pioPortNum.toNat) (handler : PioHandler),
    table (⟨io.port.toNat, inside⟩, io.direction) = some handler →
      IsInput handler

/-- The two runs make the same calls from states which agree. -/
structure SameRun (left right : IoLoop) : Prop where
  calls : left.calls = right.calls
  state : Agree left.state right.state

theorem ioCall_related
    (reads : ReadsOnly table io) (index : Nat) {left right : IoLoop}
    (same : SameRun left right) :
    SameRun (ioCall table host io index left).1
        (ioCall table host io index right).1 ∧
      (ioCall table host io index left).2 =
        (ioCall table host io index right).2 := by
  rw [ioCall, ioCall]
  by_cases inside : io.port.toNat < pioPortNum.toNat
  · rw [dif_pos inside, dif_pos inside]
    cases entry : table (⟨io.port.toNat, inside⟩, io.direction) with
    | none => exact ⟨same, rfl⟩
    | some handler =>
        rcases invoke_agree (reads inside handler entry) same.state
            (host index) io.call with
          ⟨first, second⟩ | ⟨result, leftNext, rightNext, first, second, next⟩
        · simp only [first, second, afterCall, and_true]
          exact ⟨by simp [same.calls], same.state⟩
        · simp only [first, second, afterCall, and_true]
          exact ⟨by simp [same.calls], next⟩
  · rw [dif_neg inside, dif_neg inside]
    exact ⟨same, rfl⟩

/-- Outcome, calls, devices and host effects ignore the data area. -/
theorem dispatchIo_agree
    (host : Nat → HostAnswers) (reads : ReadsOnly table io)
    {left right : IoState}
    (agree : Agree left right) :
    (dispatchIo table host io left).outcome =
        (dispatchIo table host io right).outcome ∧
      (dispatchIo table host io left).calls =
        (dispatchIo table host io right).calls ∧
      Agree (dispatchIo table host io left).state
        (dispatchIo table host io right).state := by
  have related :
      SameRun (ioLoop table host io left).1 (ioLoop table host io right).1 ∧
        (ioLoop table host io left).2 = (ioLoop table host io right).2 :=
    runUntil_related SameRun ⟨rfl, agree⟩
      (fun index _ _ _ same => ioCall_related reads index same)
  simp only [dispatchIo]
  exact ⟨by rw [related.2], related.1.calls, related.1.state⟩

/-- The handler of an iteration that passed is the one in the exit's slot. -/
theorem invoke_of_passed
    {handler : PioHandler} (served : handlerOf table io = some handler)
    {index : Nat} {source target : IoLoop}
    (passed : ioCall table host io index source = (target, none)) :
    invoke handler (host index) io.call source.state =
      .returned 0 target.state := by
  rcases ioCall_passed passed with ⟨inside, found, entry, returned, _⟩
  rw [handlerOf, dif_pos inside, entry, Option.some.injEq] at served
  rw [← served]
  exact returned

/-- A delivered read leaves the same first byte in both runs. -/
theorem dispatchIo_delivers
    {handler : PioHandler} (served : handlerOf table io = some handler)
    {left right : IoState} (agree : Agree left right)
    (delivers : Delivers left.iodev handler)
    (someElement : io.count ≠ 0)
    (leftZero : (dispatchIo table host io left).outcome = .returned 0)
    (rightZero : (dispatchIo table host io right).outcome = .returned 0) :
    (dispatchIo table host io left).state.data io.dataOffset.toNat =
      (dispatchIo table host io right).state.data io.dataOffset.toNat := by
  rcases dispatchIo_passed leftZero with ⟨leftFinal, leftPassed, _, leftEnd⟩
  rcases dispatchIo_passed rightZero with
    ⟨rightFinal, rightPassed, _, rightEnd⟩
  have same :=
    runUntil_passed_related
      (fun count first second =>
        Agree first.state second.state ∧
          Delivers first.state.iodev handler ∧
          (0 < count →
            first.state.data io.dataOffset.toNat =
              second.state.data io.dataOffset.toNat))
      0 ⟨agree, delivers, fun impossible => absurd impossible (by decide)⟩
      (by
        rintro index _ count first second next other
          ⟨current, delivering, _⟩ firstStep secondStep
        have firstReturned := invoke_of_passed served firstStep
        have secondReturned := invoke_of_passed served secondStep
        rcases invoke_delivers current delivering (host index) io.call with
          ⟨outside, _⟩ |
            ⟨result, firstNext, secondNext, firstRun, secondRun, after,
              still, equal⟩
        · rw [firstReturned] at outside
          cases outside
        · rw [firstReturned, HandlerRun.returned.injEq] at firstRun
          rw [secondReturned, HandlerRun.returned.injEq] at secondRun
          rw [firstRun.2, secondRun.2]
          exact ⟨after, still, fun _ => equal firstRun.1.symm⟩)
      leftPassed rightPassed
  rw [leftEnd, rightEnd]
  apply same.2.2
  have positive : io.count.toNat ≠ 0 := fun zero =>
    someElement (UInt32.toNat.inj zero)
  rw [List.length_range]
  omega

/-- A handler which delivers nothing reports success and leaves the area. -/
theorem dispatchIo_deliversNothing
    (host : Nat → HostAnswers)
    {handler : PioHandler} (served : handlerOf table io = some handler)
    {state : IoState} (nothing : DeliversNothing state.iodev handler) :
    (dispatchIo table host io state).outcome = .returned 0 ∧
      (dispatchIo table host io state).state = state := by
  have completed :
      ∃ final,
        ioLoop table host io state = (final, none) ∧
          final.state = state :=
    runUntil_total (fun _ (loop : IoLoop) => loop.state = state) 0 rfl
      (by
        intro index _ _ source equal
        rw [handlerOf] at served
        by_cases inside : io.port.toNat < pioPortNum.toNat
        · rw [dif_pos inside] at served
          have returned :
              invoke handler (host index) io.call source.state =
                .returned 0 state := by
            rw [equal]
            exact invoke_deliversNothing nothing (host index) io.call
          exact ⟨_, ioCall_of_returned inside served returned, rfl⟩
        · rw [dif_neg inside] at served
          cases served)
  rcases completed with ⟨final, passed, reached⟩
  rw [dispatchIo_of_passed passed]
  exact ⟨rfl, reached⟩

end Exit

/--
Two runs of one input exit from states which differ in the data area.  `RunOnce`
returns the same value, makes the same calls and does the same to the devices
and the host.  If it returns 0 then the byte which `Read` of COM1 or CMOS delivers
is the same in both runs, and a handler which delivers nothing leaves the area as
the exit found it.
-/
structure TwoRuns
    (table : PioTable) (host : Nat → HostAnswers) (run : KvmRun)
    (state : IoState) (other : Memory UInt8) : Prop where
  outcome :
    (runOnce table host run state).outcome =
      (runOnce table host run { state with data := other }).outcome
  calls :
    (runOnce table host run state).calls =
      (runOnce table host run { state with data := other }).calls
  agree :
    Agree (runOnce table host run state).state
      (runOnce table host run { state with data := other }).state
  delivered : ∀ handler,
    (runOnce table host run state).outcome = .returned 0 →
      handlerOf table run.io = some handler →
        Delivers state.iodev handler → run.io.count ≠ 0 →
          (runOnce table host run state).state.data
              run.io.dataOffset.toNat =
            (runOnce table host run
              { state with data := other }).state.data
              run.io.dataOffset.toNat
  nothing : ∀ handler,
    handlerOf table run.io = some handler →
      DeliversNothing state.iodev handler →
        (runOnce table host run state).state.data = state.data ∧
          (runOnce table host run
            { state with data := other }).state.data = other

/-- What an input exit leaves for the guest, over any registered devices. -/
theorem port_read_two_runs
    (registered : List IODev) (host : Nat → HostAnswers) (run : KvmRun)
    (state : IoState) (other : Memory UInt8)
    (exit : run.exitReason = kvmExitIo)
    (input : run.io.direction = .input) :
    TwoRuns (initPioHandler registered emptyTable) host run state other := by
  have reads : ReadsOnly (initPioHandler registered emptyTable) run.io := by
    intro inside handler entry
    rw [input] at entry
    exact initPioHandler_input entry
  have agree : Agree state { state with data := other } := ⟨rfl, rfl, rfl⟩
  rcases dispatchIo_agree host reads agree with
    ⟨outcome, calls, after⟩
  refine ⟨?_, ?_, ?_, ?_, ?_⟩ <;> simp only [runOnce_io _ host exit]
  · exact outcome
  · exact calls
  · exact after
  · intro handler zero served delivers someElement
    exact dispatchIo_delivers served agree delivers someElement
      zero (outcome.symm.trans zero)
  · intro handler served nothing
    have otherNothing :
        DeliversNothing ({ state with data := other } : IoState).iodev
          handler := nothing
    rw [(dispatchIo_deliversNothing host served nothing).2,
      (dispatchIo_deliversNothing host served otherNothing).2]
    exact ⟨rfl, rfl⟩

/-! ## Two reads of the machine -/

/-- The exit of an IN of one byte from a port. -/
def inExit (port : UInt16) : KvmRun :=
  { exitReason := kvmExitIo
    io :=
      { direction := .input, size := 1, port, count := 1
        dataOffset := 0x1000 } }

/-- A fresh machine whose data area holds one byte everywhere. -/
def filledState (byte : UInt8) : IoState :=
  { data := fun _ => byte, iodev := machineIodev 0
    stdout := [], irqLevels := [] }

/-- A read of the line status register of COM1. -/
theorem port_read_two_runs_lsr :
    TwoRuns (initPioHandler (machineIodev 0) emptyTable) willingHost
      (inExit 0x3FD) (filledState 0) (fun _ => 1) :=
  port_read_two_runs (machineIodev 0) willingHost (inExit 0x3FD)
    (filledState 0) (fun _ => 1) rfl rfl

/-- A read of port 0x60 hands the guest what the area held before. -/
theorem stale_read_port60 :
    let table := initPioHandler (machineIodev 0) emptyTable
    let first := runOnce table willingHost (inExit 0x60) (filledState 0)
    let second := runOnce table willingHost (inExit 0x60) (filledState 1)
    first.outcome = .returned 0 ∧ second.outcome = .returned 0 ∧
      load first.state.data 0x1000 1 ≠ load second.state.data 0x1000 1 := by
  have served :
      handlerOf (initPioHandler (machineIodev 0) emptyTable)
          (inExit 0x60).io = some .doNothingPioHandler := by
    rw [handlerOf, dif_pos (by decide)]
    exact machine_port60 0 emptyTable .input (by decide)
  intro table first second
  have run (byte : UInt8) :
      (dispatchIo table willingHost (inExit 0x60).io
          (filledState byte)).outcome = .returned 0 ∧
        (dispatchIo table willingHost (inExit 0x60).io
          (filledState byte)).state = filledState byte :=
    dispatchIo_deliversNothing willingHost served (Or.inl rfl)
  refine ⟨(run 0).1, (run 1).1, ?_⟩
  have firstData : first.state = filledState 0 := (run 0).2
  have secondData : second.state = filledState 1 := (run 1).2
  rw [firstData, secondData]
  decide

end Lvmm.Vcpu.PortRead
