import Lvmm.Vm.SysCall

/-!
# The COM1 serial port

`COM1::Read` and `COM1::Write` as functions of the register bank, the receive
buffer, the byte at `data_ptr[0]` and the answers of the host.  Both ignore the
access size and touch no byte of the data area but the first.
-/

namespace Lvmm.Device.Com1Device

open Lvmm.Vm.SysCall

def pioPortCom1Start : UInt16 := 0x3F8
def pioPortCom1Size : UInt8 := 0x8

def com1RegDll9600 : UInt8 := 0x0C
def com1RegIerWritableMask : UInt8 := 0b00001111
def com1RegIerDataAvlMask : UInt8 := 0b00000001
def com1RegDlh9600 : UInt8 := 0x00
def com1RegLcrDlab : UInt8 := 0b10000000
def com1RegLsrTemt : UInt8 := 0b01000000
def com1RegLsrThre : UInt8 := 0b00100000
def com1RegFcrEnable : UInt8 := 0b00000001
def com1RegIirNoIntPend : UInt8 := 0b00000001
def com1RegIirFifo16550A : UInt8 := 0b11000000
def com1RegMcrDtr : UInt8 := 0b00000001
def com1RegMcrRts : UInt8 := 0b00000010
def com1RegMcrOut1 : UInt8 := 0b00000100
def com1RegMcrOut2 : UInt8 := 0b00001000
def com1RegMcrLoop : UInt8 := 0b00010000
def com1RegMsrCts : UInt8 := 0b00010000
def com1RegMsrDsr : UInt8 := 0b00100000
def com1RegMsrRi : UInt8 := 0b01000000
def com1RegMsrDcd : UInt8 := 0b10000000

/-- Some bit of the mask is set in the register. -/
def anySet (register mask : UInt8) : Bool :=
  register &&& mask != 0

/-- The case labels of the two `switch` statements. -/
inductive Com1Port where
  | thrRbrDll
  | ierDlh
  | iirFcr
  | lcr
  | mcr
  | lsr
  | msr
  | sr
deriving DecidableEq, Repr

/-- The port number of a case label. -/
def Com1Port.number : Com1Port → UInt16
  | .thrRbrDll => pioPortCom1Start
  | .ierDlh => pioPortCom1Start + 1
  | .iirFcr => pioPortCom1Start + 2
  | .lcr => pioPortCom1Start + 3
  | .mcr => pioPortCom1Start + 4
  | .lsr => pioPortCom1Start + 5
  | .msr => pioPortCom1Start + 6
  | .sr => pioPortCom1Start + 7

/-- The case label a port number selects; `none` is the `default` label. -/
def Com1Port.decode (port : UInt16) : Option Com1Port :=
  [thrRbrDll, ierDlh, iirFcr, lcr, mcr, lsr, msr, sr].find? fun candidate =>
    candidate.number == port

@[simp]
theorem Com1Port.decode_number (port : Com1Port) :
    Com1Port.decode port.number = some port := by
  cases port <;> rfl

/--
The members of `COM1` which its methods use.  The receive buffer is a deque,
oldest byte first.
-/
structure Com1 where
  dll : UInt8 := 0
  ier : UInt8 := 0
  dlh : UInt8 := 0
  fcr : UInt8 := 0
  lcr : UInt8 := 0
  mcr : UInt8 := 0
  sr : UInt8 := 0
  rxBuf : List UInt8 := []
deriving DecidableEq

namespace Com1

def isDlabSet (com1 : Com1) : Bool :=
  anySet com1.lcr com1RegLcrDlab

/-- The loopback bit of the modem control register. -/
def isLoopSet (com1 : Com1) : Bool :=
  anySet com1.mcr com1RegMcrLoop

/-- The receive interrupt is enabled. -/
def isDataAvlSet (com1 : Com1) : Bool :=
  anySet com1.ier com1RegIerDataAvlMask

/-- The transmitter-empty interrupt is enabled. -/
def isThrEmptySet (com1 : Com1) : Bool :=
  anySet com1.ier 0b00000010

/-- `!rx_buf.empty()` under the lock. -/
def rxPending (com1 : Com1) : Bool :=
  !com1.rxBuf.isEmpty

/-- The condition `should_raise` of an interrupt-enable write. -/
def shouldRaise (com1 : Com1) (rxPending : Bool) : Bool :=
  com1.isThrEmptySet || (com1.isDataAvlSet && rxPending)

/-- `rx_buf.push_back`. -/
def pushRx (com1 : Com1) (byte : UInt8) : Com1 :=
  { com1 with rxBuf := com1.rxBuf ++ [byte] }

/-- The interrupt identification register. -/
def iir (com1 : Com1) : UInt8 :=
  let identification :=
    if com1.isDataAvlSet && com1.rxPending then 0b00000100
    else if com1.isThrEmptySet then 0b00000010
    else com1RegIirNoIntPend
  if anySet com1.fcr com1RegFcrEnable then
    identification ||| com1RegIirFifo16550A
  else identification

/-- The line status register. -/
def lsr (com1 : Com1) : UInt8 :=
  let idle := com1RegLsrTemt ||| com1RegLsrThre
  if com1.rxPending then idle ||| 0b00000001 else idle

/-- The modem status register. -/
def msr (com1 : Com1) : UInt8 :=
  if com1.isLoopSet then
    (if anySet com1.mcr com1RegMcrDtr then com1RegMsrDsr else 0) |||
      (if anySet com1.mcr com1RegMcrRts then com1RegMsrCts else 0) |||
      (if anySet com1.mcr com1RegMcrOut1 then com1RegMsrRi else 0) |||
      (if anySet com1.mcr com1RegMcrOut2 then com1RegMsrDcd else 0)
  else
    com1RegMsrCts ||| com1RegMsrDsr ||| com1RegMsrDcd

/-- The byte a case of `COM1::Read` stores to `data_ptr[0]`. -/
def readPort (com1 : Com1) : Com1Port → UInt8 × Com1
  | .thrRbrDll =>
      if !com1.isDlabSet then
        match com1.rxBuf with
        | front :: rest => (front, { com1 with rxBuf := rest })
        | [] => (0, com1)
      else (com1RegDll9600, com1)
  | .ierDlh =>
      if !com1.isDlabSet then (com1.ier, com1) else (com1RegDlh9600, com1)
  | .iirFcr => (com1.iir, com1)
  | .lcr => (com1.lcr, com1)
  | .mcr => (com1.mcr, com1)
  | .lsr => (com1.lsr, com1)
  | .msr => (com1.msr, com1)
  | .sr => (com1.sr, com1)

/-- `COM1::Read`: the return value, `data_ptr[0]` afterwards and the device. -/
def read (com1 : Com1) (port : UInt16) (cell : UInt8) :
    Int × UInt8 × Com1 :=
  match Com1Port.decode port with
  | some known =>
      let (byte, next) := com1.readPort known
      (0, byte, next)
  | none => (1, cell, com1)

end Com1

/-- The host's answers to the calls one `COM1::Write` may make. -/
structure SerialAnswers where
  write : SysResult
  irqLow : SysResult
  irqHigh : SysResult

/-- Every call the write may make succeeds. -/
structure SerialAnswers.Succeed (answers : SerialAnswers) : Prop where
  write : answers.write.Succeeded
  irqLow : answers.irqLow.Succeeded
  irqHigh : answers.irqHigh.Succeeded

/--
What `COM1::Write` did: its return value, the device, the bytes it wrote to the
standard output and the levels it drove the interrupt line to.
-/
structure WriteRun where
  result : Int
  com1 : Com1
  stdout : List UInt8 := []
  irqLevels : List Bool := []

namespace Com1

/-- A write that ends by flapping the line when `raise` holds. -/
def flapWhen
    (com1 : Com1) (answers : SerialAnswers)
    (stdout : List UInt8) (raise : Bool) : WriteRun :=
  if raise then
    let (result, levels) := flapIrqLine answers.irqLow answers.irqHigh
    { result, com1, stdout, irqLevels := levels }
  else { result := 0, com1, stdout }

/-- One case of `COM1::Write`. -/
def writePort (com1 : Com1) (answers : SerialAnswers) (byte : UInt8) :
    Com1Port → WriteRun
  | .thrRbrDll =>
      if !com1.isDlabSet then
        if com1.isLoopSet then { result := 0, com1 := com1.pushRx byte }
        else if ¬ answers.write.Succeeded then
          { result := -answers.write.errno, com1 }
        else com1.flapWhen answers [byte] com1.isThrEmptySet
      else { result := 0, com1 := { com1 with dll := byte } }
  | .ierDlh =>
      if !com1.isDlabSet then
        let stored := { com1 with ier := byte &&& com1RegIerWritableMask }
        stored.flapWhen answers [] (stored.shouldRaise stored.rxPending)
      else { result := 0, com1 := { com1 with dlh := byte } }
  | .iirFcr => { result := 0, com1 := { com1 with fcr := byte } }
  | .lcr => { result := 0, com1 := { com1 with lcr := byte } }
  | .mcr => { result := 0, com1 := { com1 with mcr := byte } }
  | .lsr => { result := 0, com1 }
  | .msr => { result := 0, com1 }
  | .sr => { result := 0, com1 := { com1 with sr := byte } }

/-- `COM1::Write`. -/
def write
    (com1 : Com1) (answers : SerialAnswers) (port : UInt16) (byte : UInt8) :
    WriteRun :=
  match Com1Port.decode port with
  | some known => com1.writePort answers byte known
  | none => { result := 1, com1 }

end Com1

/-! ## What the accesses do -/

/-- A read through a port of the device ignores what the cell held before. -/
theorem read_number
    (com1 : Com1) (port : Com1Port) (cell : UInt8) :
    com1.read port.number cell =
      (0, (com1.readPort port).1, (com1.readPort port).2) := by
  simp [Com1.read]

/-- A read fails and leaves the cell, or stores a byte without looking at it. -/
theorem Com1.read_cases (com1 : Com1) (port : UInt16) :
    (∀ cell, com1.read port cell = (1, cell, com1)) ∨
    ∃ byte next, ∀ cell, com1.read port cell = (0, byte, next) := by
  cases known : Com1Port.decode port with
  | some case =>
      right
      exact ⟨(com1.readPort case).1, (com1.readPort case).2,
        fun cell => by simp [Com1.read, known]⟩
  | none =>
      left
      intro cell
      simp [Com1.read, known]

theorem write_number
    (com1 : Com1) (answers : SerialAnswers)
    (port : Com1Port) (byte : UInt8) :
    com1.write answers port.number byte =
      com1.writePort answers byte port := by
  simp [Com1.write]

/-- Flapping with answers that succeed only drives the line low and high. -/
theorem flapWhen_of_succeed
    {com1 : Com1} {answers : SerialAnswers} (succeed : answers.Succeed)
    (stdout : List UInt8) (raise : Bool) :
    com1.flapWhen answers stdout raise =
      { result := 0, com1, stdout,
        irqLevels := if raise then [false, true] else [] } := by
  cases raise with
  | true =>
      simp [Com1.flapWhen,
        flapIrqLine_of_succeeded succeed.irqLow succeed.irqHigh]
  | false => rfl

/-- A read changes nothing of the device but the receive buffer. -/
theorem readPort_snd (com1 : Com1) (port : Com1Port) :
    (com1.readPort port).2 =
      if port = .thrRbrDll ∧ com1.isDlabSet = false then
        { com1 with rxBuf := com1.rxBuf.tail }
      else com1 := by
  cases port with
  | thrRbrDll =>
      cases dlab : com1.isDlabSet with
      | true => simp [Com1.readPort, dlab]
      | false =>
          cases buffer : com1.rxBuf with
          | nil =>
              simp only [Com1.readPort, dlab, buffer, List.tail_nil]
              simp [← buffer]
          | cons front rest => simp [Com1.readPort, dlab, buffer]
  | ierDlh =>
      cases dlab : com1.isDlabSet <;> simp [Com1.readPort, dlab]
  | iirFcr | lcr | mcr | lsr | msr | sr => simp [Com1.readPort]

/-- A receive-buffer read returns the oldest byte. -/
theorem readPort_rbr
    {com1 : Com1} {front : UInt8} {rest : List UInt8}
    (dlab : com1.isDlabSet = false) (buffer : com1.rxBuf = front :: rest) :
    com1.readPort .thrRbrDll = (front, { com1 with rxBuf := rest }) := by
  simp [Com1.readPort, dlab, buffer]

/-- The line status register reports Data Ready exactly for a waiting byte. -/
theorem lsr_dataReady_iff (com1 : Com1) :
    anySet com1.lsr 0b00000001 = true ↔ com1.rxBuf ≠ [] := by
  cases buffer : com1.rxBuf with
  | nil => simp [Com1.lsr, Com1.rxPending, buffer]; decide
  | cons front rest => simp [Com1.lsr, Com1.rxPending, buffer]; decide

end Lvmm.Device.Com1Device
