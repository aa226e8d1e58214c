import Lvmm.Vcpu.RunOnce

/-!
# String port I/O

A REP INS or OUTS exit describes `count` elements of `size` bytes each.  The
intended dispatch gives the `i`-th handler call the `i`-th element.  `RunOnce`
gives every call the first one, so that a string output repeats its first byte
and a string input leaves the last byte in the first slot.
-/

namespace Lvmm.Vcpu.StringIo

open Lvmm.Device.Com1Device
open Lvmm.Device.IoDev
open Lvmm.Library.CellMemory
open Lvmm.Library.StoppingLoop
open Lvmm.Vcpu.RunOnce
open Lvmm.Vm.PortIo

/-- The call which an element of the data area asks for. -/
def elementCall (io : KvmIo) (index : Nat) : HandlerCall :=
  { port := io.port
    pointer := io.dataOffset.toNat + index * io.size.toNat
    size := io.size }

/-- The calls of an exit which is dispatched element by element. -/
def elementCalls (io : KvmIo) : List HandlerCall :=
  (List.range io.count.toNat).map (elementCall io)

/-- The bytes of successive receive-buffer reads, and the device after them. -/
def rbrReads (com1 : Com1) : Nat → List UInt8 × Com1
  | 0 => ([], com1)
  | count + 1 =>
      let (bytes, current) := rbrReads com1 count
      let (byte, next) := current.readPort .thrRbrDll
      (bytes ++ [byte], next)

/-- A one-byte exit on port 0x3F8 which the table sends to a COM1. -/
structure Com1Exit
    (table : PioTable) (io : KvmIo) (state : IoState)
    (index : Nat) (dev : IODev) (com1 : Com1) : Prop where
  port : io.port = Com1Port.thrRbrDll.number
  size : io.size = 1
  entry : ∀ inside : io.port.toNat < pioPortNum.toNat,
    table (⟨io.port.toNat, inside⟩, io.direction) =
      some (accessFunc index io.direction)
  device : state.iodev[index]? = some { dev with device := .com1 com1 }

/-- An output through the transmitter of a COM1, with a host which succeeds. -/
structure Com1Output
    (table : PioTable) (host : Nat → HostAnswers) (io : KvmIo)
    (state : IoState) (index : Nat) (dev : IODev) (com1 : Com1) : Prop
    extends Com1Exit table io state index dev com1 where
  direction : io.direction = .output
  dlab : com1.isDlabSet = false
  loop : com1.isLoopSet = false
  succeed : ∀ call, (host call).serial.Succeed

/-- An input from the receive buffer of a COM1. -/
structure Com1Input
    (table : PioTable) (io : KvmIo)
    (state : IoState) (index : Nat) (dev : IODev) (com1 : Com1) : Prop
    extends Com1Exit table io state index dev com1 where
  direction : io.direction = .input
  dlab : com1.isDlabSet = false

/--
An I/O exit is dispatched element by element: the `i`-th call is given the
`i`-th element, a string output on COM1 appends the data area to the standard
output, and a string input fills the area with successive reads.
-/
structure ElementByElement
    (table : PioTable) (host : Nat → HostAnswers) (run : KvmRun)
    (state : IoState) : Prop where
  calls : (runOnce table host run state).calls = elementCalls run.io
  output : ∀ index dev com1,
    Com1Output table host run.io state index dev com1 →
      (runOnce table host run state).state.stdout =
        state.stdout ++
          load state.data run.io.dataOffset.toNat run.io.count.toNat
  input : ∀ index dev com1,
    Com1Input table run.io state index dev com1 →
      load (runOnce table host run state).state.data
          run.io.dataOffset.toNat run.io.count.toNat =
        (rbrReads com1 run.io.count.toNat).1

/-! ## What the calls do -/

/-- Writing one byte to the transmitter of a COM1 appends it to the output. -/
theorem invoke_transmit
    {host : HostAnswers} {call : HandlerCall} {state : IoState}
    {index : Nat} {dev : IODev} {com1 : Com1}
    (port : call.port = Com1Port.thrRbrDll.number)
    (device : state.iodev[index]? = some { dev with device := .com1 com1 })
    (dlab : com1.isDlabSet = false) (loop : com1.isLoopSet = false)
    (succeed : host.serial.Succeed) :
    ∃ irqLevels,
      invoke (.writeFunc index) host call state =
        .returned 0
          { state with
            stdout := state.stdout ++ [state.data call.pointer]
            irqLevels } := by
  have written :
      com1.write host.serial call.port (state.data call.pointer) =
        { result := 0, com1, stdout := [state.data call.pointer],
          irqLevels :=
            if com1.isThrEmptySet then [false, true] else [] } := by
    rw [port, write_number]
    simp [Com1.writePort, dlab, loop, succeed.write,
      flapWhen_of_succeed succeed]
  refine
    ⟨state.irqLevels ++
      (if com1.isThrEmptySet then [false, true] else []), ?_⟩
  simp only [invoke, IoState.access, device, DeviceClass.write, written,
    IoState.store, Function.update_eq_self, set_of_getElem? device]

/-- Reading the receive buffer of a COM1 defines the byte at the pointer. -/
theorem invoke_receive
    {host : HostAnswers} {call : HandlerCall} {state : IoState}
    {index : Nat} {dev : IODev} {com1 : Com1}
    (port : call.port = Com1Port.thrRbrDll.number)
    (device : state.iodev[index]? = some { dev with device := .com1 com1 }) :
    invoke (.readFunc index) host call state =
      .returned 0
        { data :=
            Function.update state.data call.pointer
              (com1.readPort .thrRbrDll).1
          iodev := state.iodev.set index
            { dev with device := .com1 (com1.readPort .thrRbrDll).2 }
          stdout := state.stdout
          irqLevels := state.irqLevels } := by
  simp only [invoke, IoState.access, device, DeviceClass.read, port,
    read_number, IoState.store, List.append_nil]

section Exit

variable {table : PioTable} {host : Nat → HostAnswers} {io : KvmIo}
variable {state : IoState} {index : Nat} {dev : IODev} {com1 : Com1}

/-- Every iteration that passed calls the access function of the COM1. -/
theorem Com1Exit.ioCall_passed
    (exit : Com1Exit table io state index dev com1)
    {iteration : Nat} {source target : IoLoop}
    (passed : ioCall table host io iteration source = (target, none)) :
    invoke (accessFunc index io.direction) (host iteration) io.call
        source.state = .returned 0 target.state := by
  rcases RunOnce.ioCall_passed passed with
    ⟨inside, handler, entry, returned, _⟩
  rw [exit.entry inside, Option.some.injEq] at entry
  rw [entry]
  exact returned

/-- A string output repeats the first byte of the area and changes no device. -/
theorem dispatchIo_output
    (exit : Com1Output table host io state index dev com1)
    (zero : (dispatchIo table host io state).outcome = .returned 0) :
    (dispatchIo table host io state).state.data = state.data ∧
      (dispatchIo table host io state).state.iodev[index]? =
        some { dev with device := .com1 com1 } ∧
      (dispatchIo table host io state).state.stdout =
        state.stdout ++
          List.replicate io.count.toNat
            (state.data io.dataOffset.toNat) := by
  rcases dispatchIo_passed zero with ⟨final, passed, _, reached⟩
  have repeated :=
    runUntil_passed
      (fun count loop =>
        loop.state.data = state.data ∧
          loop.state.iodev[index]? =
            some { dev with device := .com1 com1 } ∧
          loop.state.stdout =
            state.stdout ++
              List.replicate count (state.data io.dataOffset.toNat))
      0 ⟨rfl, exit.device, by simp⟩
      (by
        rintro iteration _ count source target
          ⟨data, device, stdout⟩ step
        have returned := exit.toCom1Exit.ioCall_passed step
        rw [exit.direction] at returned
        have port : io.call.port = Com1Port.thrRbrDll.number := exit.port
        rcases invoke_transmit port device exit.dlab exit.loop
            (exit.succeed iteration) with ⟨levels, transmitted⟩
        rw [accessFunc, transmitted, HandlerRun.returned.injEq] at returned
        rw [← returned.2]
        refine ⟨data, device, ?_⟩
        rw [stdout, data, List.replicate_succ', List.append_assoc]
        rfl)
      passed
  rw [List.length_range, Nat.zero_add] at repeated
  rw [reached]
  exact repeated

/-- An output on COM1 with a host which succeeds makes `RunOnce` return 0. -/
theorem dispatchIo_output_outcome
    (exit : Com1Output table host io state index dev com1) :
    (dispatchIo table host io state).outcome = .returned 0 := by
  have inside : io.port.toNat < pioPortNum.toNat := by
    rw [exit.port]
    decide
  have port : io.call.port = Com1Port.thrRbrDll.number := exit.port
  have entry :
      table (⟨io.port.toNat, inside⟩, io.direction) =
        some (.writeFunc index) := by
    rw [exit.entry inside, exit.direction]
    rfl
  have completed :
      ∃ final,
        ioLoop table host io state = (final, none) ∧
          final.state.iodev[index]? =
            some { dev with device := .com1 com1 } :=
    runUntil_total
      (fun _ (loop : IoLoop) =>
        loop.state.iodev[index]? = some { dev with device := .com1 com1 })
      0 exit.device
      (by
        intro iteration _ _ source device
        rcases invoke_transmit port device exit.dlab exit.loop
            (exit.succeed iteration) with ⟨levels, transmitted⟩
        exact ⟨_, ioCall_of_returned inside entry transmitted, device⟩)
  rcases completed with ⟨final, passed, _⟩
  rw [dispatchIo_of_passed passed]

/-- A string input leaves its last byte in the first slot. -/
theorem dispatchIo_input
    (exit : Com1Input table io state index dev com1)
    (zero : (dispatchIo table host io state).outcome = .returned 0) :
    (dispatchIo table host io state).state.data =
      Function.update state.data io.dataOffset.toNat
        ((rbrReads com1 io.count.toNat).1.getLastD
          (state.data io.dataOffset.toNat)) := by
  rcases dispatchIo_passed zero with ⟨final, passed, _, reached⟩
  have overwritten :=
    runUntil_passed
      (fun count loop =>
        loop.state.iodev[index]? =
            some { dev with device := .com1 (rbrReads com1 count).2 } ∧
          loop.state.data =
            Function.update state.data io.dataOffset.toNat
              ((rbrReads com1 count).1.getLastD
                (state.data io.dataOffset.toNat)))
      0 ⟨exit.device, by simp [rbrReads]⟩
      (by
        rintro iteration _ count source target ⟨device, data⟩ step
        have returned := exit.toCom1Exit.ioCall_passed step
        rw [exit.direction, accessFunc,
          invoke_receive exit.port device,
          HandlerRun.returned.injEq] at returned
        have bound : index < source.state.iodev.length :=
          (List.getElem?_eq_some_iff.mp device).1
        rw [← returned.2]
        refine ⟨?_, ?_⟩
        · simp [rbrReads, bound]
        · simp [rbrReads, data, KvmIo.call])
      passed
  rw [reached, overwritten.2, List.length_range, Nat.zero_add]

end Exit

/-! ## When the dispatch is element by element -/

theorem elementCalls_eq_replicate_iff (io : KvmIo) :
    List.replicate io.count.toNat io.call = elementCalls io ↔
      io.count.toNat ≤ 1 ∨ io.size = 0 := by
  constructor
  · intro same
    by_cases few : io.count.toNat ≤ 1
    · exact Or.inl few
    · right
      have second := congrArg (fun calls => calls[1]?) same
      have bound : 1 < io.count.toNat := by omega
      simp [elementCalls, elementCall, KvmIo.call, bound] at second
      exact UInt8.toNat.inj second
  · intro few
    apply List.ext_getElem (by simp [elementCalls])
    intro index leftBound rightBound
    have bound : index < io.count.toNat := by simpa using leftBound
    rcases few with atMostOne | empty
    · have first : index = 0 := by omega
      subst first
      simp [elementCalls, elementCall, KvmIo.call]
    · simp [elementCalls, elementCall, KvmIo.call, empty]

/-- A string of at most one element is a string of copies of its first. -/
theorem replicate_eq_load
    {count : Nat} (few : count ≤ 1) (data : Memory UInt8) (offset : Nat) :
    List.replicate count (data offset) = load data offset count := by
  rcases Nat.le_one_iff_eq_zero_or_eq_one.mp few with rfl | rfl
  · rfl
  · rfl

theorem load_update_eq_rbrReads
    {count : Nat} (few : count ≤ 1) (data : Memory UInt8) (offset : Nat)
    (com1 : Com1) :
    load
        (Function.update data offset
          ((rbrReads com1 count).1.getLastD (data offset)))
        offset count =
      (rbrReads com1 count).1 := by
  rcases Nat.le_one_iff_eq_zero_or_eq_one.mp few with rfl | rfl
  · rfl
  · simp [load, rbrReads]

/--
An exit whose handler calls all return 0 is dispatched element by element exactly
when it has at most one element or its elements are empty.
-/
theorem elementByElement_iff
    (table : PioTable) (host : Nat → HostAnswers) (run : KvmRun)
    (state : IoState)
    (exit : run.exitReason = kvmExitIo)
    (zero : (runOnce table host run state).outcome = .returned 0) :
    ElementByElement table host run state ↔
      run.io.count.toNat ≤ 1 ∨ run.io.size = 0 := by
  have dispatched := runOnce_io table host exit state
  rw [dispatched] at zero
  have calls := dispatchIo_calls zero
  constructor
  · intro elements
    rw [← elementCalls_eq_replicate_iff, ← calls, ← dispatched]
    exact elements.calls
  · intro few
    have oneByte (size : run.io.size = 1) : run.io.count.toNat ≤ 1 := by
      rcases few with atMostOne | empty
      · exact atMostOne
      · rw [size] at empty
        cases empty
    refine ⟨?_, ?_, ?_⟩
    · rw [dispatched, calls, elementCalls_eq_replicate_iff]
      exact few
    · intro index dev com1 output
      rw [dispatched, (dispatchIo_output output zero).2.2,
        replicate_eq_load (oneByte output.size)]
    · intro index dev com1 input
      rw [dispatched, dispatchIo_input input zero,
        load_update_eq_rbrReads (oneByte input.size)]

/-! ## A string of two bytes -/

/-- The exit of an OUTS to port 0x3F8 with a number of bytes. -/
def outsExit (count : UInt32) : KvmRun :=
  { exitReason := kvmExitIo
    io :=
      { direction := .output, size := 1, port := 0x3F8, count
        dataOffset := 0x1000 } }

/-- A fresh machine whose data area holds the letters A and B. -/
def outsState : IoState :=
  { data := fun address =>
      if address = 0x1000 then 0x41 else if address = 0x1001 then 0x42 else 0
    iodev := machineIodev 0
    stdout := []
    irqLevels := [] }

theorem outsExit_com1Output (count : UInt32) :
    Com1Output (initPioHandler (machineIodev 0) emptyTable) willingHost
      (outsExit count).io outsState 2 newCom1 {} where
  port := rfl
  size := rfl
  entry inside := machine_com1 0 emptyTable .thrRbrDll .output inside
  device := rfl
  direction := rfl
  dlab := rfl
  loop := rfl
  succeed _ := ⟨trivial, trivial, trivial⟩

/-- One byte of output is dispatched as intended. -/
theorem elementByElement_iff_outs_one :
    ElementByElement (initPioHandler (machineIodev 0) emptyTable)
        willingHost (outsExit 1) outsState ↔
      (outsExit 1).io.count.toNat ≤ 1 ∨ (outsExit 1).io.size = 0 :=
  elementByElement_iff _ willingHost (outsExit 1) outsState rfl
    (dispatchIo_output_outcome (outsExit_com1Output 1))

/-- An OUTS of A and B returns 0 and writes A twice. -/
theorem not_elementByElement_outs_two :
    (runOnce (initPioHandler (machineIodev 0) emptyTable) willingHost
        (outsExit 2) outsState).outcome = .returned 0 ∧
      (runOnce (initPioHandler (machineIodev 0) emptyTable) willingHost
        (outsExit 2) outsState).state.stdout = [0x41, 0x41] ∧
      ¬ ElementByElement (initPioHandler (machineIodev 0) emptyTable)
        willingHost (outsExit 2) outsState := by
  have exit := outsExit_com1Output 2
  have zero := dispatchIo_output_outcome exit
  have stdout :
      (runOnce (initPioHandler (machineIodev 0) emptyTable) willingHost
        (outsExit 2) outsState).state.stdout = [0x41, 0x41] :=
    (dispatchIo_output exit zero).2.2
  refine ⟨zero, stdout, ?_⟩
  intro elements
  have wanted := elements.output 2 newCom1 {} exit
  rw [stdout] at wanted
  exact absurd wanted (by decide)

end Lvmm.Vcpu.StringIo
