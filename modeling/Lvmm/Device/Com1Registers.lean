import Lvmm.Device.Com1History

/-!
# The register bank of the serial port

What a guest reads from a register is determined by the history of its own
writes.  Two ports are switched by the divisor latch, one is written under
another's address, and the modem status is computed from the modem control
register.
-/

namespace Lvmm.Device.Com1Registers

open Lvmm.Device.Com1Device
open Lvmm.Device.Com1History

/-- The loopback mode of the modem control register is on. -/
def loopbackOn (history : List Event) : Bool :=
  anySet (lastWritten .mcr history) com1RegMcrLoop

/-- The modem status in loopback mode mirrors the modem control register. -/
structure Mirrors (status control : UInt8) : Prop where
  cts : anySet status com1RegMsrCts = anySet control com1RegMcrRts
  dsr : anySet status com1RegMsrDsr = anySet control com1RegMcrDtr
  ri : anySet status com1RegMsrRi = anySet control com1RegMcrOut1
  dcd : anySet status com1RegMsrDcd = anySet control com1RegMcrOut2
  lowNibble : status &&& 0b00001111 = 0

/-- Reads after a history return what the history says. -/
structure FaithfulBank (history : List Event) : Prop where
  plain : ∀ port ∈ [Com1Port.lcr, .mcr, .sr], ∀ cell,
    (replay history).read port.number cell =
      (0, lastWritten port history, replay history)
  enable : latchOpen history = false → ∀ cell,
    (replay history).read (Com1Port.number .ierDlh) cell =
      (0, lastEnabled history &&& 0b00001111, replay history)
  fifo : ∀ cell, ∃ byte,
    (replay history).read (Com1Port.number .iirFcr) cell =
      (0, byte, replay history) ∧
    byte &&& 0b11000000 =
      if anySet (lastWritten .iirFcr history) 0b00000001 then 0b11000000
      else 0
  loopback : loopbackOn history = true → ∀ cell, ∃ byte,
    (replay history).read (Com1Port.number .msr) cell =
      (0, byte, replay history) ∧
    Mirrors byte (lastWritten .mcr history)
  connected : loopbackOn history = false → ∀ cell,
    (replay history).read (Com1Port.number .msr) cell =
      (0, com1RegMsrCts ||| com1RegMsrDsr ||| com1RegMsrDcd,
        replay history)
  readOnly : ∀ port ∈ [Com1Port.lsr, .msr], ∀ answers byte later,
    replay (later ++ .guestWrite answers port.number byte :: history) =
      replay (later ++ history)

/-- The upper bits of the interrupt identification show the FIFO enable bit. -/
theorem iir_fifo (com1 : Com1) :
    com1.iir &&& 0b11000000 =
      if anySet com1.fcr com1RegFcrEnable then 0b11000000 else 0 := by
  simp only [Com1.iir]
  split_ifs <;> decide

theorem msr_mirrors {com1 : Com1} (loopback : com1.isLoopSet = true) :
    Mirrors com1.msr com1.mcr := by
  rw [Com1.msr, if_pos loopback]
  constructor
  all_goals
    cases anySet com1.mcr com1RegMcrDtr <;>
      cases anySet com1.mcr com1RegMcrRts <;>
      cases anySet com1.mcr com1RegMcrOut1 <;>
      cases anySet com1.mcr com1RegMcrOut2 <;>
      decide

/-- A common past is all that later events see of it. -/
theorem replay_append_congr
    {first second : List Event} (same : replay first = replay second)
    (later : List Event) :
    replay (later ++ first) = replay (later ++ second) := by
  induction later with
  | nil => exact same
  | cons event rest induction =>
      rw [List.cons_append, List.cons_append, replay, replay, induction]

/-- A write to a read-only register leaves the device as it is. -/
theorem after_write_readOnly
    {port : Com1Port} (readOnly : port ∈ [Com1Port.lsr, .msr])
    (com1 : Com1) (answers : SerialAnswers) (byte : UInt8) :
    after com1 (.guestWrite answers port.number byte) = com1 := by
  simp only [List.mem_cons, List.not_mem_nil, or_false] at readOnly
  rw [after, write_number]
  rcases readOnly with rfl | rfl
  · rfl
  · rfl

/-- The register bank is faithful after every history. -/
theorem faithfulBank (history : List Event) : FaithfulBank history := by
  rcases reflects_replay history with ⟨lcr, mcr, sr, fcr, ier⟩
  have latch : (replay history).isDlabSet = latchOpen history := by
    rw [Com1.isDlabSet, lcr, latchOpen]
  have loop : (replay history).isLoopSet = loopbackOn history := by
    rw [Com1.isLoopSet, mcr, loopbackOn]
  constructor
  case plain =>
    intro port member cell
    simp only [List.mem_cons, List.not_mem_nil, or_false] at member
    rw [read_number]
    rcases member with rfl | rfl | rfl
    · rw [Com1.readPort, lcr]
    · rw [Com1.readPort, mcr]
    · rw [Com1.readPort, sr]
  case enable =>
    intro closed cell
    rw [read_number, Com1.readPort, latch, closed, ier]
    rfl
  case fifo =>
    intro cell
    refine ⟨(replay history).iir, read_number _ .iirFcr cell, ?_⟩
    rw [iir_fifo, fcr]
    rfl
  case loopback =>
    intro on cell
    refine ⟨(replay history).msr, read_number _ .msr cell, ?_⟩
    rw [← mcr]
    exact msr_mirrors (loop.trans on)
  case connected =>
    intro off cell
    rw [read_number, Com1.readPort, Com1.msr, loop, off]
    rfl
  case readOnly =>
    intro port member answers byte later
    have same :
        replay (.guestWrite answers port.number byte :: history) =
          replay history :=
      after_write_readOnly member (replay history) answers byte
    exact replay_append_congr same later

end Lvmm.Device.Com1Registers
