import Lvmm.Device.Com1Device

/-!
# The serial port over histories of events

A fresh device is driven by guest reads and writes of any port and value and by
the bytes which its reader receives.  The registers are recovered from such a
history alone: as the last byte written to a port, or, behind the divisor latch,
as the last one written while the latch was closed.

Histories are lists of events, newest first.
-/

namespace Lvmm.Device.Com1History

open Lvmm.Vm.SysCall
open Lvmm.Device.Com1Device

/-- What happens to the device, with the answers of the host. -/
inductive Event where
  | guestRead (port : UInt16) (cell : UInt8)
  | guestWrite (answers : SerialAnswers) (port : UInt16) (byte : UInt8)
  | hostByte (byte : UInt8)

/-- The device after an event. -/
def after (com1 : Com1) : Event → Com1
  | .guestRead port cell => (com1.read port cell).2.2
  | .guestWrite answers port byte => (com1.write answers port byte).com1
  | .hostByte byte => com1.pushRx byte

/-- A fresh device after a history. -/
def replay : List Event → Com1
  | [] => {}
  | event :: earlier => after (replay earlier) event

/-! ## What a history says -/

/-- The byte which an event writes to a port. -/
def Event.writtenTo (port : Com1Port) : Event → Option UInt8
  | .guestWrite _ number byte =>
      if Com1Port.decode number = some port then some byte else none
  | _ => none

/-- The last byte written to a port, or zero. -/
def lastWritten (port : Com1Port) (history : List Event) : UInt8 :=
  (history.findSome? (Event.writtenTo port)).getD 0

/-- The divisor latch is open. -/
def latchOpen (history : List Event) : Bool :=
  anySet (lastWritten .lcr history) com1RegLcrDlab

/-- The last byte written to 0x3F9 while the latch was closed, or zero. -/
def lastEnabled : List Event → UInt8
  | [] => 0
  | event :: earlier =>
      match event.writtenTo .ierDlh with
      | some byte => if latchOpen earlier then lastEnabled earlier else byte
      | none => lastEnabled earlier

theorem lastWritten_cons
    (port : Com1Port) (event : Event) (earlier : List Event) :
    lastWritten port (event :: earlier) =
      (event.writtenTo port).getD (lastWritten port earlier) := by
  rw [lastWritten, List.findSome?_cons, lastWritten]
  cases event.writtenTo port with
  | none => rfl
  | some byte => rfl

/-! ## What an event does -/

theorem flapWhen_com1
    (com1 : Com1) (answers : SerialAnswers)
    (stdout : List UInt8) (raise : Bool) :
    (com1.flapWhen answers stdout raise).com1 = com1 := by
  cases raise with
  | true => rfl
  | false => rfl

/-- The device after a write, whatever the host answers. -/
theorem writePort_com1
    (com1 : Com1) (answers : SerialAnswers)
    (byte : UInt8) (port : Com1Port) :
    (com1.writePort answers byte port).com1 =
      match port with
      | .thrRbrDll =>
          if com1.isDlabSet then { com1 with dll := byte }
          else if com1.isLoopSet then com1.pushRx byte
          else com1
      | .ierDlh =>
          if com1.isDlabSet then { com1 with dlh := byte }
          else { com1 with ier := byte &&& com1RegIerWritableMask }
      | .iirFcr => { com1 with fcr := byte }
      | .lcr => { com1 with lcr := byte }
      | .mcr => { com1 with mcr := byte }
      | .lsr => com1
      | .msr => com1
      | .sr => { com1 with sr := byte } := by
  cases port with
  | thrRbrDll =>
      cases latch : com1.isDlabSet with
      | true => simp [Com1.writePort, latch]
      | false =>
          cases loop : com1.isLoopSet with
          | true => simp [Com1.writePort, latch, loop]
          | false =>
              simp only [Com1.writePort, latch, loop]
              split_ifs <;> simp_all [flapWhen_com1]
  | ierDlh =>
      cases latch : com1.isDlabSet with
      | true => simp [Com1.writePort, latch]
      | false => simp [Com1.writePort, latch, flapWhen_com1]
  | iirFcr | lcr | mcr | lsr | msr | sr => rfl

/-- Reads leave every register alone. -/
theorem after_guestRead (com1 : Com1) (port : UInt16) (cell : UInt8) :
    ∃ rxBuf, after com1 (.guestRead port cell) = { com1 with rxBuf } := by
  rw [after, Com1.read]
  cases Com1Port.decode port with
  | none => exact ⟨com1.rxBuf, rfl⟩
  | some known =>
      simp only [readPort_snd]
      split_ifs
      · exact ⟨com1.rxBuf.tail, rfl⟩
      · exact ⟨com1.rxBuf, rfl⟩

/-- Every event but a write touches at most the receive buffer. -/
theorem after_of_unwritten
    {event : Event} (unwritten : ∀ port, event.writtenTo port = none)
    (com1 : Com1) :
    ∃ rxBuf, after com1 event = { com1 with rxBuf } := by
  cases event with
  | guestRead port cell => exact after_guestRead com1 port cell
  | hostByte byte => exact ⟨com1.rxBuf ++ [byte], rfl⟩
  | guestWrite answers number byte =>
      cases known : Com1Port.decode number with
      | none =>
          refine ⟨com1.rxBuf, ?_⟩
          simp [after, Com1.write, known]
      | some port =>
          have absurdly := unwritten port
          simp [Event.writtenTo, known] at absurdly

/-- An event that writes a port is a guest write of it. -/
theorem after_of_writtenTo
    {event : Event} {port : Com1Port} {byte : UInt8}
    (written : event.writtenTo port = some byte) (com1 : Com1) :
    ∃ answers, after com1 event = (com1.writePort answers byte port).com1 ∧
      ∀ other, other ≠ port → event.writtenTo other = none := by
  cases event with
  | guestRead port cell => simp [Event.writtenTo] at written
  | hostByte byte => simp [Event.writtenTo] at written
  | guestWrite answers number stored =>
      simp only [Event.writtenTo] at written
      split_ifs at written with known
      cases written
      refine ⟨answers, ?_, ?_⟩
      · simp [after, Com1.write, known]
      · intro other different
        have apart : ¬ port = other := different.symm
        simp [Event.writtenTo, known, apart]

/-! ## The registers follow the history -/

/-- The registers of a device are what its history says. -/
structure Reflects (history : List Event) (com1 : Com1) : Prop where
  lcr : com1.lcr = lastWritten .lcr history
  mcr : com1.mcr = lastWritten .mcr history
  sr : com1.sr = lastWritten .sr history
  fcr : com1.fcr = lastWritten .iirFcr history
  ier : com1.ier = lastEnabled history &&& com1RegIerWritableMask

theorem lastWritten_of_writtenTo
    {event : Event} {port : Com1Port} {byte : UInt8}
    (written : event.writtenTo port = some byte)
    (others : ∀ other, other ≠ port → event.writtenTo other = none)
    (history : List Event) (other : Com1Port) :
    lastWritten other (event :: history) =
      if other = port then byte else lastWritten other history := by
  rw [lastWritten_cons]
  split_ifs with same
  · rw [same, written, Option.getD_some]
  · rw [others other same, Option.getD_none]

theorem lastEnabled_of_writtenTo
    {event : Event} {port : Com1Port} {byte : UInt8}
    (written : event.writtenTo port = some byte)
    (others : ∀ other, other ≠ port → event.writtenTo other = none)
    (history : List Event) :
    lastEnabled (event :: history) =
      if port = .ierDlh ∧ latchOpen history = false then byte
      else lastEnabled history := by
  rw [lastEnabled]
  by_cases enable : port = .ierDlh
  · subst enable
    cases latchOpen history <;> simp [written]
  · simp [others .ierDlh (Ne.symm enable), enable]

/-- An event that writes no port keeps what the history says. -/
theorem Reflects.of_unwritten
    {history : List Event} {com1 : Com1} {event : Event}
    (unwritten : ∀ port, event.writtenTo port = none)
    (reflects : Reflects history com1) :
    Reflects (event :: history) (after com1 event) := by
  rcases after_of_unwritten unwritten com1 with ⟨rxBuf, reached⟩
  rw [reached]
  constructor
  all_goals
    simp only [lastWritten_cons, lastEnabled, unwritten, Option.getD_none]
  · exact reflects.lcr
  · exact reflects.mcr
  · exact reflects.sr
  · exact reflects.fcr
  · exact reflects.ier

/-- A write of a port is what the history remembers of it. -/
theorem Reflects.of_writtenTo
    {history : List Event} {com1 : Com1} {event : Event}
    {port : Com1Port} {byte : UInt8}
    (written : event.writtenTo port = some byte)
    (reflects : Reflects history com1) :
    Reflects (event :: history) (after com1 event) := by
  rcases after_of_writtenTo written com1 with ⟨answers, reached, others⟩
  have latch : com1.isDlabSet = latchOpen history := by
    rw [Com1.isDlabSet, reflects.lcr, latchOpen]
  have registers := lastWritten_of_writtenTo written others history
  have enabled := lastEnabled_of_writtenTo written others history
  rcases reflects with ⟨lcr, mcr, sr, fcr, ier⟩
  rw [reached, writePort_com1]
  cases port with
  | thrRbrDll =>
      cases com1.isDlabSet with
      | true =>
          constructor <;> simp [registers, enabled, lcr, mcr, sr, fcr, ier]
      | false =>
          cases com1.isLoopSet with
          | true =>
              constructor <;>
                simp [Com1.pushRx, registers, enabled, lcr, mcr, sr, fcr, ier]
          | false =>
              constructor <;>
                simp [registers, enabled, lcr, mcr, sr, fcr, ier]
  | ierDlh =>
      rw [latch]
      cases closed : latchOpen history with
      | true =>
          constructor <;>
            simp [registers, enabled, closed, lcr, mcr, sr, fcr, ier]
      | false =>
          constructor <;>
            simp [registers, enabled, closed, lcr, mcr, sr, fcr]
  | iirFcr | lcr | mcr | lsr | msr | sr =>
      constructor <;> simp [registers, enabled, lcr, mcr, sr, fcr, ier]

theorem reflects_after
    {history : List Event} {com1 : Com1} (event : Event)
    (reflects : Reflects history com1) :
    Reflects (event :: history) (after com1 event) := by
  by_cases writes : ∃ port byte, event.writtenTo port = some byte
  · rcases writes with ⟨port, byte, written⟩
    exact reflects.of_writtenTo written
  · have unwritten : ∀ port, event.writtenTo port = none := by
      intro port
      cases written : event.writtenTo port with
      | none => rfl
      | some byte => exact absurd ⟨port, byte, written⟩ writes
    exact reflects.of_unwritten unwritten

theorem reflects_replay (history : List Event) :
    Reflects history (replay history) := by
  induction history with
  | nil => exact ⟨rfl, rfl, rfl, rfl, rfl⟩
  | cons event earlier induction => exact reflects_after event induction

end Lvmm.Device.Com1History
