import Lvmm.Device.Com1Threads
import Lvmm.Vm.IrqFlap

/-!
# The flaps of the serial port

The reader and the vCPU flap the line of the serial port as two threads of the
general model of concurrent flaps: a step of theirs is a call, one ioctl of a
flap, or nothing a line sees.  What holds of a line under arbitrary flaps
therefore holds of this one.
-/

namespace Lvmm.Device.Com1Flaps

open Lvmm.Library.LabelledRun
open Lvmm.Vm.SysCall
open Lvmm.Vm.IrqFlap
open Lvmm.Device.Com1Device
open Lvmm.Device.Com1Threads

/-- The two threads which flap the line. -/
inductive Flapper where
  | reader
  | guest
deriving DecidableEq, Repr

/-- Where the reader is within a flap. -/
def readerFlapPc : ReaderPc → FlapPc
  | .flapLow => .beforeLow
  | .flapHigh => .beforeHigh
  | _ => .outside

/-- Where the vCPU is within a flap. -/
def guestFlapPc : GuestPc → FlapPc
  | .flapLow _ => .beforeLow
  | .flapHigh _ => .beforeHigh
  | _ => .outside

/-- The line and the flaps in progress. -/
def flapView (threads : Threads) : FlapState Flapper where
  line := threads.irqLevel
  pc
    | .reader => readerFlapPc threads.reader
    | .guest => guestFlapPc threads.guest

/-- A step is matched by a run of the flaps, all of whose ioctls succeed. -/
def Matched (source target : Threads) : Prop :=
  ∃ labels,
    Run Vm.IrqFlap.step (flapView source) labels (flapView target) ∧
      ∀ label ∈ labels, label.Succeeds

/-! ## The view of a step -/

theorem flapView_reader
    {source target : Threads} {line : Bool} {pc : FlapPc}
    (level : target.irqLevel = line)
    (moved : readerFlapPc target.reader = pc)
    (kept : guestFlapPc target.guest = guestFlapPc source.guest) :
    flapView target =
      { line, pc := Function.update (flapView source).pc .reader pc } := by
  subst level moved
  rw [flapView, FlapState.mk.injEq]
  refine ⟨rfl, ?_⟩
  funext flapper
  cases flapper with
  | reader => rw [Function.update_self]
  | guest => simpa [flapView] using kept

theorem flapView_guest
    {source target : Threads} {line : Bool} {pc : FlapPc}
    (level : target.irqLevel = line)
    (moved : guestFlapPc target.guest = pc)
    (kept : readerFlapPc target.reader = readerFlapPc source.reader) :
    flapView target =
      { line, pc := Function.update (flapView source).pc .guest pc } := by
  subst level moved
  rw [flapView, FlapState.mk.injEq]
  refine ⟨rfl, ?_⟩
  funext flapper
  cases flapper with
  | reader => simpa [flapView] using kept
  | guest => rw [Function.update_self]

/-- A step that touches neither the line nor a flap is matched by no step. -/
theorem Matched.silent
    {source target : Threads}
    (same : flapView target = flapView source) :
    Matched source target := by
  rw [Matched, same]
  exact ⟨[], .refl, by simp⟩

theorem Matched.single
    {source target : Threads} (label : FlapLabel Flapper)
    (succeeds : label.Succeeds)
    (taken : Vm.IrqFlap.step (flapView source) label =
      some (flapView target)) :
    Matched source target :=
  ⟨[label], .single taken, by simpa using succeeds⟩

/-! ## The reader -/

theorem matched_readerLoadIer
    {source target : Threads}
    (taken : readerStep source .readerLoadIer = some target) :
    Matched source target := by
  simp only [readerStep] at taken
  split_ifs at taken with ready enabled
  · -- received-data interrupts are enabled: the flap is called
    cases taken
    refine .single (.call .reader) trivial ?_
    refine step_call.mpr ⟨?_, flapView_reader rfl rfl rfl⟩
    simp only [flapView, ready, readerFlapPc]
  · cases taken
    refine .silent ?_
    simp only [flapView, ready, readerFlapPc]

theorem matched_readerIrq
    {source target : Threads}
    (taken : readerStep source (.readerIrq true) = some target) :
    Matched source target := by
  simp only [readerStep] at taken
  split at taken
  case h_1 lowering _ =>
    cases taken
    refine .single (.low .reader (.ok 0)) trivial ?_
    refine (step_low (SysResult.succeeded_ok 0)).mpr
      ⟨?_, flapView_reader rfl rfl rfl⟩
    simp only [flapView, lowering, readerFlapPc]
  case h_2 raising _ =>
    cases taken
    refine .single (.high .reader (.ok 0)) trivial ?_
    refine (step_high (SysResult.succeeded_ok 0)).mpr
      ⟨?_, flapView_reader rfl rfl rfl⟩
    simp only [flapView, raising, readerFlapPc]
  all_goals contradiction

/-- The reader's `read`, whatever it returns, comes before its flap. -/
theorem matched_reader
    {source target : Threads} {label : Label}
    (succeeds : label.IoctlSucceeds)
    (taken : readerStep source label = some target) :
    Matched source target := by
  cases label with
  | readerLoadIer => exact matched_readerLoadIer taken
  | readerIrq succeeded =>
      cases succeeds
      exact matched_readerIrq taken
  | hostByte | hostRetry | hostEof =>
      simp only [readerStep] at taken
      split_ifs at taken with waiting
      cases taken
      refine .silent ?_
      simp only [flapView, waiting, readerFlapPc]
  | _ => cases taken

/-! ## The guest -/

/-- The first step of a write drives no line and calls no flap. -/
theorem flapView_beginWrite
    {source : Threads} (idle : source.guest = .idle)
    (port : Com1Port) (byte : UInt8) :
    flapView (source.beginWrite byte port) = flapView source := by
  cases port with
  | thrRbrDll =>
      cases dlab : source.com1.isDlabSet <;>
        cases loop : source.com1.isLoopSet <;>
        simp only [Threads.beginWrite, flapView, dlab, loop, idle,
          guestFlapPc, Bool.not_true, Bool.not_false, Bool.false_eq_true,
          if_true, if_false]
  | ierDlh =>
      cases dlab : source.com1.isDlabSet <;>
        simp only [Threads.beginWrite, flapView, dlab, idle, guestFlapPc,
          Bool.not_true, Bool.not_false, Bool.false_eq_true, if_true,
          if_false]
  | iirFcr | lcr | mcr | lsr | msr | sr =>
      simp only [Threads.beginWrite, flapView]

/-- The test of the interrupt-enable register calls a flap or none. -/
theorem matched_decision
    {source : Threads} (outside : guestFlapPc source.guest = .outside)
    (raise : Bool) (origin : FlapOrigin) :
    Matched source
      { source with
        guest := if raise then .flapLow origin else .idle } := by
  cases raise with
  | true =>
      refine .single (.call .guest) trivial ?_
      exact step_call.mpr ⟨outside, flapView_guest rfl rfl rfl⟩
  | false =>
      refine .silent ?_
      rw [flapView, flapView, FlapState.mk.injEq]
      refine ⟨rfl, ?_⟩
      funext flapper
      cases flapper with
      | reader => rfl
      | guest => exact outside.symm

theorem matched_guestLoadIer
    {source target : Threads}
    (taken : guestStep source .guestLoadIer = some target) :
    Matched source target := by
  simp only [guestStep] at taken
  split at taken
  case h_1 transmitted =>
    cases taken
    exact matched_decision (by rw [transmitted]; rfl) _ _
  case h_2 rxPending enabled =>
    cases taken
    exact matched_decision (by rw [enabled]; rfl) _ _
  case h_3 => cases taken

theorem matched_guestIrq
    {source target : Threads}
    (taken : guestStep source (.guestIrq true) = some target) :
    Matched source target := by
  simp only [guestStep] at taken
  split at taken
  case h_1 origin lowering _ =>
    cases taken
    refine .single (.low .guest (.ok 0)) trivial ?_
    refine (step_low (SysResult.succeeded_ok 0)).mpr
      ⟨?_, flapView_guest rfl rfl rfl⟩
    simp only [flapView, lowering, guestFlapPc]
  case h_2 origin raising _ =>
    cases taken
    refine .single (.high .guest (.ok 0)) trivial ?_
    refine (step_high (SysResult.succeeded_ok 0)).mpr
      ⟨?_, flapView_guest rfl rfl rfl⟩
    simp only [flapView, raising, guestFlapPc]
  all_goals contradiction

theorem matched_guest
    {source target : Threads} {label : Label}
    (succeeds : label.IoctlSucceeds)
    (taken : guestStep source label = some target) :
    Matched source target := by
  cases label with
  | guestLoadIer => exact matched_guestLoadIer taken
  | guestIrq succeeded =>
      cases succeeds
      exact matched_guestIrq taken
  | guestRead port value =>
      simp only [guestStep] at taken
      split_ifs at taken with idle
      cases taken
      exact .silent rfl
  | guestWrite port byte =>
      simp only [guestStep] at taken
      split_ifs at taken with idle
      cases taken
      exact .silent (flapView_beginWrite idle port byte)
  | guestWriteFailed byte =>
      simp only [guestStep] at taken
      split_ifs at taken with idle
      cases taken
      exact .silent rfl
  | guestTestRx =>
      simp only [guestStep] at taken
      split_ifs at taken with testing
      cases taken
      refine .silent ?_
      simp only [flapView, testing, guestFlapPc]
  | _ => cases taken

/-! ## Whole runs -/

theorem matched_step
    {source target : Threads} {label : Label}
    (succeeds : label.IoctlSucceeds)
    (taken : step source label = some target) :
    Matched source target := by
  cases label with
  | hostByte | hostRetry | hostEof | readerLoadIer | readerIrq =>
      exact matched_reader succeeds taken
  | _ => exact matched_guest succeeds taken

/-- A run of the device is one of two threads which flap its line. -/
theorem matched_run
    {start target : Threads} {labels : List Label}
    (run : Run step start labels target)
    (succeed : ∀ label ∈ labels, label.IoctlSucceeds) :
    Matched start target :=
  run.simulated flapView Label.IoctlSucceeds FlapLabel.Succeeds
    (fun _ _ _ succeeds taken => matched_step succeeds taken) succeed

/--
A device whose line starts high has a low line only while one of its two threads
is yet to raise it.
-/
theorem line_owed
    {state : Threads} {labels : List Label}
    (run : Run step (fresh true) labels state)
    (succeed : ∀ label ∈ labels, label.IoctlSucceeds)
    (low : state.irqLevel = false) :
    state.reader = .flapHigh ∨ ∃ origin, state.guest = .flapHigh origin := by
  rcases matched_run run succeed with ⟨flaps, matched, flapsSucceed⟩
  have owed : Owed (flapView state) :=
    matched.invariant_of_labels Owed FlapLabel.Succeeds (Or.inl rfl)
      (fun _ _ _ succeeds owed taken => owed.step succeeds taken)
      flapsSucceed
  rcases owed with high | ⟨flapper, raising⟩
  · rw [flapView, low] at high
    cases high
  · cases flapper with
    | reader =>
        left
        cases reader : state.reader with
        | flapHigh => rfl
        | _ => simp [flapView, reader, readerFlapPc] at raising
    | guest =>
        right
        cases guest : state.guest with
        | flapHigh origin => exact ⟨origin, rfl⟩
        | _ => simp [flapView, guest, guestFlapPc] at raising

end Lvmm.Device.Com1Flaps
