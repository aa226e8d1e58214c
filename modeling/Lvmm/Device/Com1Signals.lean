import Lvmm.Device.Com1History

/-!
# Interrupt conditions caused by the guest

An enabled source is pending when the transmitter-empty interrupt is enabled, or
the receive interrupt is and a byte waits.  The identification register reports
this in every state.  A guest write that makes a source pending flaps the line,
unless the byte arrives in the receive buffer through the loopback.
-/

namespace Lvmm.Device.Com1Signals

open Lvmm.Device.Com1Device
open Lvmm.Device.Com1History

/-- The receive interrupt is enabled and a byte waits. -/
def receivePending (com1 : Com1) : Bool :=
  com1.isDataAvlSet && com1.rxPending

/-- An enabled interrupt source is pending. -/
def sourcePending (com1 : Com1) : Bool :=
  receivePending com1 || com1.isThrEmptySet

/-- The identification register reports the source, receive data first. -/
structure IirTruthful (com1 : Com1) : Prop where
  pending : anySet com1.iir 0b00000001 = false ↔ sourcePending com1 = true
  receive : receivePending com1 = true → com1.iir &&& 0b00001110 = 0b00000100
  transmit : receivePending com1 = false → com1.isThrEmptySet = true →
    com1.iir &&& 0b00001110 = 0b00000010

/--
A write flaps the line if it makes a source pending, and only leaves the line
flapped with a source pending.
-/
structure Signals
    (com1 : Com1) (answers : SerialAnswers) (port : UInt16) (byte : UInt8) :
    Prop where
  raised : sourcePending com1 = false →
    sourcePending (com1.write answers port byte).com1 = true →
      (com1.write answers port byte).irqLevels ≠ []
  justified : (com1.write answers port byte).irqLevels ≠ [] →
    sourcePending (com1.write answers port byte).com1 = true

/-- A transmitted byte would be looped back into an empty, watched buffer. -/
structure LoopsBack (com1 : Com1) (port : UInt16) : Prop where
  transmits : Com1Port.decode port = some .thrRbrDll
  latch : com1.isDlabSet = false
  loop : com1.isLoopSet = true
  watched : com1.isDataAvlSet = true
  silent : com1.isThrEmptySet = false
  empty : com1.rxBuf = []

theorem sourcePending_eq_shouldRaise (com1 : Com1) :
    sourcePending com1 = com1.shouldRaise com1.rxPending := by
  rw [sourcePending, Com1.shouldRaise, Bool.or_comm]
  rfl

/-- The identification register is truthful in every state. -/
theorem iirTruthful (com1 : Com1) : IirTruthful com1 := by
  have register : com1.iir =
      if anySet com1.fcr com1RegFcrEnable then
        (if receivePending com1 then 0b00000100
          else if com1.isThrEmptySet then 0b00000010
          else com1RegIirNoIntPend) ||| com1RegIirFifo16550A
      else if receivePending com1 then 0b00000100
      else if com1.isThrEmptySet then 0b00000010
      else com1RegIirNoIntPend :=
    rfl
  constructor
  all_goals
    rw [register]
    try rw [sourcePending]
    cases receivePending com1 <;> cases com1.isThrEmptySet <;>
      cases anySet com1.fcr com1RegFcrEnable <;> decide

/-! ## One write -/

variable {com1 : Com1} {answers : SerialAnswers}

theorem flapWhen_irqLevels
    (succeed : answers.Succeed) (stdout : List UInt8) (raise : Bool) :
    (com1.flapWhen answers stdout raise).irqLevels ≠ [] ↔ raise = true := by
  rw [flapWhen_of_succeed succeed]
  cases raise <;> simp

/-- A write which neither touches a source nor flaps signals nothing. -/
theorem Signals.of_quiet
    {port : UInt16} {byte : UInt8}
    (same : sourcePending (com1.write answers port byte).com1 =
      sourcePending com1)
    (quiet : (com1.write answers port byte).irqLevels = []) :
    Signals com1 answers port byte := by
  constructor
  · intro before now
    rw [same, before] at now
    cases now
  · intro flapped
    exact absurd quiet flapped

/-- A write that flaps exactly for a pending source signals it. -/
theorem Signals.of_flapWhen
    (succeed : answers.Succeed)
    {port : UInt16} {byte : UInt8} {next : Com1} {stdout : List UInt8}
    {raise : Bool}
    (flaps : com1.write answers port byte =
      next.flapWhen answers stdout raise)
    (raised : sourcePending com1 = false → sourcePending next = true →
      raise = true)
    (justified : raise = true → sourcePending next = true) :
    Signals com1 answers port byte := by
  constructor
  · intro before now
    rw [flaps, flapWhen_com1] at now
    rw [flaps, flapWhen_irqLevels succeed]
    exact raised before now
  · intro flapped
    rw [flaps, flapWhen_irqLevels succeed] at flapped
    rw [flaps, flapWhen_com1]
    exact justified flapped

/-- A loopback signals nothing, so it must not make a source pending. -/
theorem signals_loopback_iff
    {port : UInt16} {byte : UInt8}
    (transmits : Com1Port.decode port = some .thrRbrDll)
    (latch : com1.isDlabSet = false) (loop : com1.isLoopSet = true) :
    Signals com1 answers port byte ↔ ¬ LoopsBack com1 port := by
  have run : com1.write answers port byte =
      { result := 0, com1 := com1.pushRx byte } := by
    simp [Com1.write, transmits, Com1.writePort, latch, loop]
  have pushed : sourcePending (com1.pushRx byte) =
      (com1.isDataAvlSet || com1.isThrEmptySet) := by
    have waiting : (com1.rxBuf ++ [byte]).isEmpty = false := by
      simp [List.isEmpty_eq_false_iff]
    simp [sourcePending, receivePending, Com1.pushRx, Com1.isDataAvlSet,
      Com1.isThrEmptySet, Com1.rxPending, waiting]
  constructor
  · rintro ⟨raised, -⟩ ⟨-, -, -, watched, silent, empty⟩
    have before : sourcePending com1 = false := by
      simp [sourcePending, receivePending, Com1.rxPending, silent, empty]
    have now : sourcePending (com1.write answers port byte).com1 = true := by
      rw [run, pushed, watched, Bool.true_or]
    rw [run] at raised
    exact raised before (by rwa [run] at now) rfl
  · intro calm
    constructor
    · intro before now
      rw [run, pushed] at now
      rw [sourcePending, receivePending, Bool.or_eq_false_iff] at before
      rcases before with ⟨unreceived, silent⟩
      have watched : com1.isDataAvlSet = true := by
        simpa [silent] using now
      have empty : com1.rxBuf = [] := by
        simpa [watched, Com1.rxPending] using unreceived
      exact absurd ⟨transmits, latch, loop, watched, silent, empty⟩ calm
    · intro flapped
      rw [run] at flapped
      exact absurd rfl flapped

/-- Behind the open latch a write only stores a divisor byte. -/
theorem signals_of_latchOpen
    {port : UInt16} (byte : UInt8) {label : Com1Port}
    (known : Com1Port.decode port = some label)
    (latched : label = .thrRbrDll ∨ label = .ierDlh)
    (latch : com1.isDlabSet = true) :
    Signals com1 answers port byte := by
  rcases latched with rfl | rfl
  · have run : com1.write answers port byte =
        { result := 0, com1 := { com1 with dll := byte } } := by
      simp [Com1.write, known, Com1.writePort, latch]
    exact .of_quiet (by rw [run]; rfl) (by rw [run])
  · have run : com1.write answers port byte =
        { result := 0, com1 := { com1 with dlh := byte } } := by
      simp [Com1.write, known, Com1.writePort, latch]
    exact .of_quiet (by rw [run]; rfl) (by rw [run])

/-- A transmission to the host flaps for the transmitter-empty interrupt. -/
theorem signals_transmit
    (succeed : answers.Succeed) {port : UInt16} (byte : UInt8)
    (known : Com1Port.decode port = some .thrRbrDll)
    (latch : com1.isDlabSet = false) (loop : com1.isLoopSet = false) :
    Signals com1 answers port byte := by
  have run : com1.write answers port byte =
      com1.flapWhen answers [byte] com1.isThrEmptySet := by
    simp [Com1.write, known, Com1.writePort, latch, loop, succeed.write]
  refine .of_flapWhen succeed run ?_ ?_
  · intro before now
    rw [before] at now
    cases now
  · intro enabled
    rw [sourcePending, enabled, Bool.or_true]

/-- A write of the interrupt-enable register flaps for a pending source. -/
theorem signals_enable
    (succeed : answers.Succeed) {port : UInt16} (byte : UInt8)
    (known : Com1Port.decode port = some .ierDlh)
    (latch : com1.isDlabSet = false) :
    Signals com1 answers port byte := by
  let stored : Com1 := { com1 with ier := byte &&& com1RegIerWritableMask }
  have run : com1.write answers port byte =
      stored.flapWhen answers [] (sourcePending stored) := by
    simp [Com1.write, known, Com1.writePort, latch, stored,
      sourcePending_eq_shouldRaise]
  exact .of_flapWhen succeed run (fun _ now => now) (fun flapped => flapped)

/-- A write signals exactly the sources it should, unless it loops back. -/
theorem signals_iff
    (com1 : Com1) (succeed : answers.Succeed) (port : UInt16) (byte : UInt8) :
    Signals com1 answers port byte ↔ ¬ LoopsBack com1 port := by
  by_cases looping : Com1Port.decode port = some .thrRbrDll ∧
      com1.isDlabSet = false ∧ com1.isLoopSet = true
  · exact signals_loopback_iff looping.1 looping.2.1 looping.2.2
  · have calm : ¬ LoopsBack com1 port := fun back =>
      looping ⟨back.transmits, back.latch, back.loop⟩
    simp only [calm, not_false_eq_true, iff_true]
    cases known : Com1Port.decode port with
    | none =>
        exact .of_quiet (by simp [Com1.write, known])
          (by simp [Com1.write, known])
    | some label =>
        cases label with
        | thrRbrDll =>
            cases latch : com1.isDlabSet with
            | true => exact signals_of_latchOpen byte known (.inl rfl) latch
            | false =>
                have loop : com1.isLoopSet = false := by
                  simpa [known, latch] using looping
                exact signals_transmit succeed byte known latch loop
        | ierDlh =>
            cases latch : com1.isDlabSet with
            | true => exact signals_of_latchOpen byte known (.inr rfl) latch
            | false => exact signals_enable succeed byte known latch
        | iirFcr | lcr | mcr | lsr | msr | sr =>
            exact .of_quiet (by simp [Com1.write, known]; rfl)
              (by simp [Com1.write, known, Com1.writePort])

/-! ## Reachable states -/

/--
In every state which a history reaches, the identification register is truthful,
and a guest write signals the sources it makes pending exactly when it does not
loop back into an empty buffer under receive interrupts alone.
-/
theorem reachable_signals_iff
    (history : List Event) (answers : SerialAnswers)
    (succeed : answers.Succeed) (port : UInt16) (byte : UInt8) :
    IirTruthful (replay history) ∧
      (Signals (replay history) answers port byte ↔
        ¬ LoopsBack (replay history) port) :=
  ⟨iirTruthful (replay history),
    signals_iff (replay history) succeed port byte⟩

/-- Answers of a host on which every call succeeds. -/
def willing : SerialAnswers where
  write := .ok 1
  irqLow := .ok 0
  irqHigh := .ok 0

theorem willing_succeed : willing.Succeed :=
  ⟨trivial, trivial, trivial⟩

/-- The history which enables receive interrupts and the loopback. -/
def loopbackHistory : List Event :=
  [ .guestWrite willing (Com1Port.number .mcr) com1RegMcrLoop,
    .guestWrite willing (Com1Port.number .ierDlh) com1RegIerDataAvlMask ]

/-- A host byte under receive interrupts is identified and acknowledged. -/
theorem reachable_signals_iff_hostByte :
    IirTruthful (replay (.hostByte 0x41 :: loopbackHistory)) ∧
      Signals (replay (.hostByte 0x41 :: loopbackHistory)) willing
        (Com1Port.number .ierDlh) 0b11 := by
  rcases reachable_signals_iff (.hostByte 0x41 :: loopbackHistory) willing
      willing_succeed (Com1Port.number .ierDlh) 0b11 with
    ⟨truthful, signals⟩
  refine ⟨truthful, signals.mpr ?_⟩
  rintro ⟨transmits, -⟩
  cases transmits

/-- A byte transmitted in loopback mode becomes pending without a flap. -/
theorem not_signals_loopback :
    ¬ ∀ (history : List Event) (answers : SerialAnswers)
        (port : UInt16) (byte : UInt8),
      answers.Succeed → Signals (replay history) answers port byte := by
  intro claimed
  have signals := claimed loopbackHistory willing
    (Com1Port.number .thrRbrDll) 0x41 willing_succeed
  exact signals.raised (by decide) (by decide) (by decide)

end Lvmm.Device.Com1Signals
