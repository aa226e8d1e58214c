import Lvmm.Device.Com1Threads

/-!
# The byte streams of COM1

The transmitter sends what the guest hands to it, and the receive buffer is a
queue between the arrivals and the guest's reads.  Both facts are conservation
laws of a single step, summed over a run.
-/

namespace Lvmm.Device.Com1Streams

open Lvmm.Device.Com1Device
open Lvmm.Device.Com1Threads
open Lvmm.Library.LabelledRun

/-! ## What one step does to the streams -/

theorem beginWrite_stdout
    (source : Threads) (port : Com1Port) (byte : UInt8) :
    (source.beginWrite byte port).stdout =
      source.stdout ++ thrWrittenBy source (.guestWrite port byte) := by
  cases port with
  | thrRbrDll =>
      cases dlab : source.com1.isDlabSet <;>
        cases loop : source.com1.isLoopSet <;>
        simp [Threads.beginWrite, thrWrittenBy, dlab, loop]
  | ierDlh =>
      cases dlab : source.com1.isDlabSet <;>
        simp [Threads.beginWrite, thrWrittenBy, dlab]
  | iirFcr | lcr | mcr | lsr | msr | sr =>
      simp [Threads.beginWrite, thrWrittenBy]

theorem beginWrite_rxBuf
    (source : Threads) (port : Com1Port) (byte : UInt8) :
    (source.beginWrite byte port).com1.rxBuf =
      source.com1.rxBuf ++
        (arrivedBy source (.guestWrite port byte)).map Prod.snd := by
  cases port with
  | thrRbrDll =>
      cases dlab : source.com1.isDlabSet <;>
        cases loop : source.com1.isLoopSet <;>
        simp [Threads.beginWrite, arrivedBy, dlab, loop, Com1.pushRx]
  | ierDlh =>
      cases dlab : source.com1.isDlabSet <;>
        simp [Threads.beginWrite, arrivedBy, dlab]
  | iirFcr | lcr | mcr | lsr | msr | sr =>
      simp [Threads.beginWrite, arrivedBy]

theorem readPort_queue
    (source : Threads) (port : Com1Port) :
    deliveredBy source (.guestRead port (source.com1.readPort port).1) ++
        (source.com1.readPort port).2.rxBuf =
      source.com1.rxBuf := by
  cases port with
  | thrRbrDll =>
      cases dlab : source.com1.isDlabSet <;>
        cases buffer : source.com1.rxBuf <;>
        simp [deliveredBy, readsRbr, Com1.readPort, Com1.rxPending,
          dlab, buffer]
  | ierDlh =>
      cases dlab : source.com1.isDlabSet <;>
        simp [deliveredBy, readsRbr, Com1.readPort, dlab]
  | iirFcr | lcr | mcr | lsr | msr | sr =>
      simp [deliveredBy, readsRbr, Com1.readPort]

/-- Every byte a step hands to the transmitter reaches the host. -/
theorem step_stdout
    {source target : Threads} {label : Label}
    (writes : label.WritesByte)
    (taken : step source label = some target) :
    target.stdout = source.stdout ++ thrWrittenBy source label := by
  cases label with
  | guestWrite port byte =>
      simp only [step, guestStep] at taken
      split at taken
      · cases taken
        exact beginWrite_stdout source port byte
      · cases taken
  | guestWriteFailed byte => exact writes.elim
  | hostByte byte | hostRetry | hostEof | readerLoadIer
  | readerIrq succeeded =>
      simp only [step, readerStep] at taken
      split at taken <;> cases taken <;> simp [thrWrittenBy]
  | guestRead port value | guestTestRx | guestLoadIer
  | guestIrq succeeded =>
      simp only [step, guestStep] at taken
      split at taken <;> cases taken <;> simp [thrWrittenBy]

/-- What a step delivers and leaves is what it found and what arrived. -/
theorem step_queue
    {source target : Threads} {label : Label}
    (taken : step source label = some target) :
    deliveredBy source label ++ target.com1.rxBuf =
      source.com1.rxBuf ++ (arrivedBy source label).map Prod.snd := by
  cases label with
  | guestWrite port byte =>
      simp only [step, guestStep] at taken
      split at taken
      · cases taken
        simpa [deliveredBy] using beginWrite_rxBuf source port byte
      · cases taken
  | guestRead port value =>
      simp only [step, guestStep] at taken
      split at taken
      · rename_i enabled
        rcases enabled with ⟨_, rfl⟩
        cases taken
        simpa [arrivedBy] using readPort_queue source port
      · cases taken
  | hostByte byte =>
      simp only [step, readerStep] at taken
      split at taken
      · cases taken
        simp [deliveredBy, arrivedBy, Com1.pushRx]
      · cases taken
  | hostRetry | hostEof | readerLoadIer | readerIrq succeeded =>
      simp only [step, readerStep] at taken
      split at taken <;> cases taken <;> simp [deliveredBy, arrivedBy]
  | guestWriteFailed byte | guestTestRx | guestLoadIer
  | guestIrq succeeded =>
      simp only [step, guestStep] at taken
      split at taken <;> cases taken <;> simp [deliveredBy, arrivedBy]

/-! ## Whole runs -/

/-- The receive buffer holds exactly the arrivals not yet delivered. -/
theorem run_queue
    {start : Threads × History} {labels : List Label}
    {target : Threads} {history : History}
    (initial :
      start.2.delivered ++ start.1.com1.rxBuf =
        start.2.arrivals.map Prod.snd)
    (run : Run (observed step observe) start labels (target, history)) :
    history.delivered ++ target.com1.rxBuf =
      history.arrivals.map Prod.snd := by
  refine run.invariant
    (fun state =>
      state.2.delivered ++ state.1.com1.rxBuf =
        state.2.arrivals.map Prod.snd)
    initial ?_
  intro source label next holds taken
  rcases observed_eq_some_iff.mp taken with ⟨stepped, recorded⟩
  rw [← recorded]
  simp only [observe, List.map_append, List.append_assoc]
  rw [step_queue stepped, ← List.append_assoc, holds]

/-- The host has received exactly what the guest handed to the transmitter. -/
theorem run_stdout
    {start : Threads × History} {labels : List Label}
    {target : Threads} {history : History}
    (initial : start.1.stdout = start.2.thrWritten)
    (run : Run (observed step observe) start labels (target, history))
    (writes : ∀ label ∈ labels, label.WritesByte) :
    target.stdout = history.thrWritten := by
  refine run.invariant_of_labels
    (fun state => state.1.stdout = state.2.thrWritten)
    Label.WritesByte initial ?_ writes
  intro source label next labelWrites holds taken
  rcases observed_eq_some_iff.mp taken with ⟨stepped, recorded⟩
  rw [← recorded, step_stdout labelWrites stepped, holds]
  rfl

/-- Until the next receive-buffer read, the buffer only grows at its end. -/
theorem run_rxBuf_grows
    {start target : Threads} {startHistory history : History}
    {labels : List Label}
    (run : Run (observed step observe) (start, startHistory) labels
      (target, history))
    (unread : history.rbrReads = startHistory.rbrReads) :
    ∃ suffix, target.com1.rxBuf = start.com1.rxBuf ++ suffix := by
  have grown :=
    run.invariant
      (fun state =>
        startHistory.rbrReads ≤ state.2.rbrReads ∧
          (state.2.rbrReads = startHistory.rbrReads →
            ∃ suffix, state.1.com1.rxBuf = start.com1.rxBuf ++ suffix))
      ⟨Nat.le_refl _, fun _ => ⟨[], by simp⟩⟩
      (by
        rintro source label next ⟨atLeast, grows⟩ taken
        rcases observed_eq_some_iff.mp taken with ⟨stepped, recorded⟩
        have counted :
            next.2.rbrReads =
              source.2.rbrReads + (readsRbr source.1 label).toNat := by
          rw [← recorded]
          rfl
        refine ⟨by omega, fun same => ?_⟩
        have notRead : readsRbr source.1 label = false := by
          cases reads : readsRbr source.1 label with
          | false => rfl
          | true =>
              rw [reads, Bool.toNat_true] at counted
              omega
        have nothing : deliveredBy source.1 label = [] := by
          cases label <;> simp [deliveredBy, notRead]
        rcases grows (by omega) with ⟨suffix, sourceGrown⟩
        have conserved := step_queue stepped
        rw [nothing, List.nil_append, sourceGrown] at conserved
        exact ⟨_, by rw [conserved, List.append_assoc]⟩)
  exact grown.2 unread

/-- A step that accesses port 0x3F8. -/
def AccessesData : Label → Prop
  | .guestRead .thrRbrDll _ => True
  | .guestWrite .thrRbrDll _ => True
  | _ => False

/-- With DLAB set, port 0x3F8 is the divisor latch and no stream moves. -/
theorem step_dlab_streams
    {source target : Threads} {label : Label}
    (dlab : source.com1.isDlabSet = true)
    (accesses : AccessesData label)
    (taken : step source label = some target) :
    (target.stdout = source.stdout ∧
        target.com1.rxBuf = source.com1.rxBuf) ∧
      thrWrittenBy source label = [] ∧
        arrivedBy source label = [] ∧ deliveredBy source label = [] := by
  have unmoved :
      thrWrittenBy source label = [] ∧
        arrivedBy source label = [] ∧ deliveredBy source label = [] := by
    cases label with
    | guestRead port value =>
        cases port <;>
          simp_all [AccessesData, thrWrittenBy, arrivedBy, deliveredBy,
            readsRbr]
    | guestWrite port byte =>
        cases port <;>
          simp_all [AccessesData, thrWrittenBy, arrivedBy, deliveredBy]
    | hostByte | hostRetry | hostEof | readerLoadIer | readerIrq
    | guestWriteFailed | guestTestRx | guestLoadIer | guestIrq =>
        exact accesses.elim
  have writes : label.WritesByte := by
    cases label <;> trivial
  have sent := step_stdout writes taken
  have queued := step_queue taken
  rw [unmoved.1, List.append_nil] at sent
  rw [unmoved.2.1, unmoved.2.2] at queued
  exact ⟨⟨sent, by simpa using queued⟩, unmoved⟩

theorem step_guestRead
    {source target : Threads} {port : Com1Port} {value : UInt8}
    (taken : step source (.guestRead port value) = some target) :
    value = (source.com1.readPort port).1 ∧
      target = { source with com1 := (source.com1.readPort port).2 } := by
  simp only [step, guestStep] at taken
  split at taken
  · rename_i enabled
    cases taken
    exact ⟨enabled.2.symm, rfl⟩
  · cases taken

/--
What the byte streams of a reachable state and its history satisfy.

`oldestFirst` is about a read of the line status register which reports Data
Ready, any further steps without a receive-buffer read, and the first such read
after them: it returns the oldest byte that had not been delivered.
-/
structure ByteStreams (source : Threads) (history : History) : Prop where
  transmitted : source.stdout = history.thrWritten
  received :
    history.delivered ++ source.com1.rxBuf =
      history.arrivals.map Prod.snd
  divisorLatch :
    ∀ label target,
      source.com1.isDlabSet = true →
        AccessesData label →
          step source label = some target →
            (target.stdout = source.stdout ∧
                target.com1.rxBuf = source.com1.rxBuf) ∧
              thrWrittenBy source label = [] ∧
                arrivedBy source label = [] ∧
                  deliveredBy source label = []
  dataReady :
    ∀ value target,
      step source (.guestRead .lsr value) = some target →
        (anySet value 0b00000001 = true ↔ source.com1.rxBuf ≠ [])
  oldestFirst :
    ∀ value afterStatus labels last lastHistory byte final,
      step source (.guestRead .lsr value) = some afterStatus →
        anySet value 0b00000001 = true →
          Run (observed step observe)
              (afterStatus,
                observe source (.guestRead .lsr value) history)
              labels (last, lastHistory) →
            lastHistory.rbrReads = history.rbrReads →
              last.com1.isDlabSet = false →
                step last (.guestRead .thrRbrDll byte) = some final →
                  (history.arrivals.map Prod.snd)[history.delivered.length]?
                    = some byte

/--
COM1 neither loses, duplicates, reorders nor misroutes bytes, whatever the
interleaving of the guest's accesses with the reader thread.
-/
theorem com1_byte_streams
    {irqLevel : Bool} {labels : List Label}
    {source : Threads} {history : History}
    (run : ObservedRun irqLevel labels source history)
    (writes : ∀ label ∈ labels, label.WritesByte) :
    ByteStreams source history := by
  have received :
      history.delivered ++ source.com1.rxBuf =
        history.arrivals.map Prod.snd :=
    run_queue rfl run
  constructor
  case transmitted => exact run_stdout rfl run writes
  case received => exact received
  case divisorLatch =>
    intro label target dlab accesses taken
    exact step_dlab_streams dlab accesses taken
  case dataReady =>
    intro value target taken
    rcases step_guestRead taken with ⟨rfl, _⟩
    exact lsr_dataReady_iff source.com1
  case oldestFirst =>
    intro value afterStatus later last lastHistory byte final
      statusRead ready after unread dlab dataRead
    rcases step_guestRead statusRead with ⟨valueEqual, rfl⟩
    have filled : source.com1.rxBuf ≠ [] := by
      rw [valueEqual] at ready
      exact (lsr_dataReady_iff source.com1).mp ready
    rcases List.exists_cons_of_ne_nil filled with ⟨front, rest, buffer⟩
    rcases run_rxBuf_grows after
        (by simpa [observe, readsRbr] using unread) with
      ⟨suffix, grown⟩
    have lastBuffer : last.com1.rxBuf = front :: (rest ++ suffix) := by
      rw [grown]
      simp [Com1.readPort, buffer]
    rcases step_guestRead dataRead with ⟨byteEqual, _⟩
    rw [readPort_rbr dlab lastBuffer] at byteEqual
    rw [← received, buffer, byteEqual]
    simp

/-- A host byte announced by the line status register, read, and echoed. -/
theorem com1_byte_streams_echo :
    ByteStreams
      { com1 := {}, stdout := [0x41], irqLevel := false,
        guest := .thrLoadIer, reader := .blocked }
      { clock := 5, thrWritten := [0x41], arrivals := [(.host, 0x41)],
        delivered := [0x41], rbrReads := 1, lastHostPush := some 0 } := by
  have run :
      ObservedRun false
        [.hostByte 0x41, .guestRead .lsr 0x61, .readerLoadIer,
          .guestRead .thrRbrDll 0x41, .guestWrite .thrRbrDll 0x41]
        { com1 := {}, stdout := [0x41], irqLevel := false,
          guest := .thrLoadIer, reader := .blocked }
        { clock := 5, thrWritten := [0x41], arrivals := [(.host, 0x41)],
          delivered := [0x41], rbrReads := 1, lastHostPush := some 0 } :=
    Run.iff_foldlM.mpr rfl
  exact com1_byte_streams run (by simp [Label.WritesByte])

end Lvmm.Device.Com1Streams
