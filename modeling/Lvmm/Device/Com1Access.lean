import Lvmm.Device.Com1Threads

/-!
# Accesses as runs of steps

`COM1::Read` and `COM1::Write` as functions and as atomic steps of the vCPU thread
describe the same accesses: when the reader does not interfere, the steps of an
access end with the members, the output and the line which the function gives,
whatever the host answers to its calls.
-/

namespace Lvmm.Device.Com1Access

open Lvmm.Vm.SysCall
open Lvmm.Device.Com1Device
open Lvmm.Device.Com1Threads
open Lvmm.Library.LabelledRun

/-- The steps of a flap with the given answers. -/
def flapLabels (answers : SerialAnswers) : List Label :=
  if answers.irqLow.Succeeded then
    [.guestIrq true, .guestIrq answers.irqHigh.Succeeded]
  else [.guestIrq false]

/-- The steps of a write access to a port. -/
def accessLabels
    (com1 : Com1) (answers : SerialAnswers) (byte : UInt8) :
    Com1Port → List Label
  | .thrRbrDll =>
      if !com1.isDlabSet && !com1.isLoopSet then
        if ¬ answers.write.Succeeded then [.guestWriteFailed byte]
        else
          [.guestWrite .thrRbrDll byte, .guestLoadIer] ++
            if com1.isThrEmptySet then flapLabels answers else []
      else [.guestWrite .thrRbrDll byte]
  | .ierDlh =>
      if !com1.isDlabSet then
        let stored := { com1 with ier := byte &&& com1RegIerWritableMask }
        [.guestWrite .ierDlh byte, .guestTestRx, .guestLoadIer] ++
          if stored.shouldRaise stored.rxPending then flapLabels answers
          else []
      else [.guestWrite .ierDlh byte]
  | port => [.guestWrite port byte]

/-- What an access which ran alone leaves. -/
def afterWrite (source : Threads) (run : WriteRun) : Threads :=
  { source with
    com1 := run.com1
    stdout := source.stdout ++ run.stdout
    irqLevel := run.irqLevels.getLast?.getD source.irqLevel
    guest := .idle }

/-- The steps of a flap drive the line as `flapIRQLine` does. -/
theorem flap_run
    (source : Threads) (answers : SerialAnswers) (origin : FlapOrigin) :
    (flapLabels answers).foldlM step
        { source with guest := .flapLow origin } =
      some
        { source with
          irqLevel :=
            (flapIrqLine answers.irqLow answers.irqHigh).2.getLast?.getD
              source.irqLevel
          guest := .idle } := by
  rcases answers with ⟨write, irqLow, irqHigh⟩
  cases irqLow with
  | error errno =>
      have failed : errno.value ≠ 0 := Nat.ne_of_gt errno.positive
      simp [flapLabels, step, guestStep, flapIrqLine, irqLine, failed]
  | ok low =>
      cases irqHigh with
      | ok high => simp [flapLabels, step, guestStep, flapIrqLine, irqLine]
      | error errno =>
          have failed : errno.value ≠ 0 := Nat.ne_of_gt errno.positive
          simp [flapLabels, step, guestStep, flapIrqLine, irqLine, failed]

/-- A flap at the end of an access, or none. -/
theorem flapWhen_run
    (source : Threads) (com1 : Com1) (answers : SerialAnswers)
    (origin : FlapOrigin) (stdout : List UInt8) (raise : Bool) :
    (if raise then flapLabels answers else []).foldlM step
        { source with
          com1 := com1
          stdout := source.stdout ++ stdout
          guest := if raise then .flapLow origin else .idle } =
      some (afterWrite source (com1.flapWhen answers stdout raise)) := by
  cases raise with
  | true =>
      exact flap_run
        { source with com1 := com1, stdout := source.stdout ++ stdout }
        answers origin
  | false => simp [Com1.flapWhen, afterWrite]

/-- The interrupt-enable register is stored, then examined twice. -/
theorem ierWrite_run
    (com1 : Com1) (stdout : List UInt8) (irqLevel : Bool)
    (reader : ReaderPc) (answers : SerialAnswers) (byte : UInt8)
    (dlab : ¬ com1.isDlabSet = true) :
    (accessLabels com1 answers byte .ierDlh).foldlM step
        ⟨com1, stdout, irqLevel, .idle, reader⟩ =
      some
        (afterWrite ⟨com1, stdout, irqLevel, .idle, reader⟩
          (com1.writePort answers byte .ierDlh)) := by
  generalize stored_eq :
    ({ com1 with ier := byte &&& com1RegIerWritableMask } : Com1) = stored
  generalize raise_eq : stored.shouldRaise stored.rxPending = raise
  have begun :
      [Label.guestWrite .ierDlh byte, .guestTestRx,
          .guestLoadIer].foldlM step
          ⟨com1, stdout, irqLevel, .idle, reader⟩ =
        some
          ⟨stored, stdout, irqLevel,
            if raise then .flapLow .ier else .idle, reader⟩ := by
    simp [step, guestStep, Threads.beginWrite, dlab, stored_eq, raise_eq]
  have labels :
      accessLabels com1 answers byte .ierDlh =
        [Label.guestWrite .ierDlh byte, .guestTestRx, .guestLoadIer] ++
          if raise then flapLabels answers else [] := by
    simp [accessLabels, dlab, stored_eq, raise_eq]
  have result :
      com1.writePort answers byte .ierDlh =
        stored.flapWhen answers [] raise := by
    simp [Com1.writePort, dlab, stored_eq, raise_eq]
  rw [labels, result, List.foldlM_append, begun]
  simpa using
    flapWhen_run ⟨com1, stdout, irqLevel, .idle, reader⟩ stored answers
      .ier [] raise

/-- A read access is one step. -/
theorem readPort_run
    (source : Threads) (port : Com1Port) (idle : source.guest = .idle) :
    Run step source [.guestRead port (source.com1.readPort port).1]
      { source with com1 := (source.com1.readPort port).2 } := by
  apply Run.single
  simp [step, guestStep, idle]

/-- The steps of a write access end as the function says. -/
theorem writePort_run
    (source : Threads) (answers : SerialAnswers) (byte : UInt8)
    (port : Com1Port) (idle : source.guest = .idle) :
    Run step source (accessLabels source.com1 answers byte port)
      (afterWrite source (source.com1.writePort answers byte port)) := by
  rw [Run.iff_foldlM]
  rcases source with ⟨com1, stdout, irqLevel, guest, reader⟩
  cases idle
  cases port with
  | thrRbrDll =>
      by_cases dlab : com1.isDlabSet = true
      · simp [accessLabels, Com1.writePort, dlab, step, guestStep,
          Threads.beginWrite, afterWrite]
      · by_cases loop : com1.isLoopSet = true
        · simp [accessLabels, Com1.writePort, dlab, loop, step, guestStep,
            Threads.beginWrite, afterWrite]
        · by_cases written : answers.write.Succeeded
          · have flap :=
              flapWhen_run ⟨com1, stdout, irqLevel, .idle, reader⟩ com1
                answers .thr [byte] com1.isThrEmptySet
            simpa [accessLabels, Com1.writePort, dlab, loop, written,
              step, guestStep, Threads.beginWrite] using flap
          · simp [accessLabels, Com1.writePort, dlab, loop, written,
              step, guestStep, afterWrite]
  | ierDlh =>
      by_cases dlab : com1.isDlabSet = true
      · simp [accessLabels, Com1.writePort, dlab, step, guestStep,
          Threads.beginWrite, afterWrite]
      · exact ierWrite_run com1 stdout irqLevel reader answers byte dlab
  | iirFcr | lcr | mcr | lsr | msr | sr =>
      simp [accessLabels, Com1.writePort, step, guestStep,
        Threads.beginWrite, afterWrite]

end Lvmm.Device.Com1Access
