import Lvmm.Device.Com1SmpInterrupts

/-!
# Transmitter interrupts and byte streams with any number of CPUs

The transmitter is always empty, so with its interrupt enabled the guest has to be
told after every byte it sends and after every store which enables the interrupt.
The byte that is sent and the flap that follows are separate steps, and another
CPU may change the enable register in between.
-/

namespace Lvmm.Device.Com1SmpTransmit

open Lvmm.Device.Com1Device
open Lvmm.Device.Com1Threads (FlapOrigin ReaderPc)
open Lvmm.Device.Com1Smp
open Lvmm.Device.Com1SmpInterrupts
open Lvmm.Device.Com1SmpMoves
open Lvmm.Library.LabelledRun
open Lvmm.Library.LineEdges

variable {Cpu : Type*}

/-! ## What the last transmitter and the last storer owe -/

/-- What the CPU which sent the last byte owes, at each stage. -/
def TransmitterOwes (shared : Shared) (history : History Cpu) :
    ThrStage → Prop
  | .outside =>
      shared.com1.isThrEmptySet = true →
        Answered history.lastTransmit history.lastIerStore history.edges
  | .raising =>
      LowOrRose shared.irqLevel history.lastTransmit history.edges
  | .loading | .lowering => True

/-- What the last storer of the enable register owes, at each stage. -/
def EnablerOwes (shared : Shared) (history : History Cpu) : IerStage → Prop
  | .outside =>
      shared.com1.isThrEmptySet = true →
        RoseSince history.lastIerStore history.edges
  | .loadingAgain _ => shared.com1.isThrEmptySet = false
  | .raising =>
      LowOrRose shared.irqLevel history.lastIerStore history.edges
  | .testing | .loading _ | .lowering => True

/-- The invariant of a run all of whose ioctls succeed. -/
structure TransmitInvariant (state : Smp Cpu) (history : History Cpu) :
    Prop where
  clocked : Clocked history
  unstored : history.lastStorer = none → history.lastIerStore = none
  unsent : history.lastTransmitter = none → history.lastTransmit = none
  disabled : history.lastIerStore = none → state.shared.com1.ier = 0
  transmitter : ∀ cpu, history.lastTransmitter = some cpu →
    TransmitterOwes state.shared history (thrStage (state.cpus cpu))
  enabler : ∀ cpu, history.lastStorer = some cpu →
    EnablerOwes state.shared history (ierStage (state.cpus cpu))

section Transmit

variable {shared : Shared} {history : History Cpu} {effect : Effect}
variable {author : Option Cpu}

/-- A store answers the byte sent before it: its storer goes on to flap. -/
theorem answered_transmit_of_store
    (clocked : Clocked history) (stores : effect.storesIer = true)
    (unsent : effect.sent = []) :
    Answered (history.record author shared effect).lastTransmit
      (history.record author shared effect).lastIerStore
      (history.record author shared effect).edges := by
  rw [(record_transmit unsent).1]
  simp only [History.record, stores, if_true]
  exact answered_now clocked.transmit _

/-- A step which sends nothing leaves the last transmitter what it owes. -/
theorem TransmitterOwes.keep
    {stage : ThrStage} (clocked : Clocked history)
    (unsent : effect.sent = [])
    (owes : TransmitterOwes shared history stage) :
    TransmitterOwes (effect.apply shared)
      (history.record author shared effect) stage := by
  cases stage with
  | loading | lowering => trivial
  | raising =>
      change LowOrRose _ (history.record author shared effect).lastTransmit _
      rw [(record_transmit unsent).1]
      exact LowOrRose.record owes clocked.transmit _
  | outside =>
      intro enabled
      cases stores : effect.storesIer with
      | true => exact answered_transmit_of_store clocked stores unsent
      | false =>
          rw [(record_transmit unsent).1, (record_store stores).1]
          exact (owes (thrEnabled_of_apply stores enabled)).record
            clocked.transmit _ _

/-- A step which stores nothing leaves the last storer what it owes. -/
theorem EnablerOwes.keep
    {stage : IerStage} (clocked : Clocked history)
    (unstored : effect.storesIer = false)
    (owes : EnablerOwes shared history stage) :
    EnablerOwes (effect.apply shared) (history.record author shared effect)
      stage := by
  cases stage with
  | testing | loading | lowering => trivial
  | loadingAgain rxPending =>
      change (effect.apply shared).com1.isThrEmptySet = false
      rw [Com1.isThrEmptySet, apply_ier unstored]
      exact owes
  | raising =>
      change LowOrRose _ (history.record author shared effect).lastIerStore _
      rw [(record_store unstored).1]
      exact LowOrRose.record owes clocked.store _
  | outside =>
      intro enabled
      rw [(record_store unstored).1]
      exact (owes (thrEnabled_of_apply unstored enabled)).record
        clocked.store _ _

/-- A step of the last transmitter, or of a CPU which becomes it. -/
theorem TransmitterOwes.step
    {before after : ThrStage} (clocked : Clocked history)
    (owes : effect.sent = [] → TransmitterOwes shared history before)
    (moved : ThrMove shared effect before after) :
    TransmitterOwes (effect.apply shared)
      (history.record author shared effect) after := by
  cases moved with
  | transmit byte | thrEmpty => trivial
  | quiet clear =>
      intro enabled
      exact absurd (clear.symm.trans enabled) Bool.false_ne_true
  | low => exact Or.inl rfl
  | high =>
      intro _
      left
      rw [(record_transmit rfl).1]
      exact LowOrRose.raised (owes rfl) clocked.transmit
  | other unsent => exact (owes unsent).keep clocked unsent

/-- A step of the last storer, or of a CPU which becomes it. -/
theorem EnablerOwes.step
    {before after : IerStage} (clocked : Clocked history)
    (owes : effect.storesIer = false → EnablerOwes shared history before)
    (moved : IerMove shared effect before after) :
    EnablerOwes (effect.apply shared) (history.record author shared effect)
      after := by
  cases moved with
  | store byte | test | thrEmpty | dataAvl => trivial
  | notThrEmpty clear => exact clear
  | quiet =>
      -- the first load found the bit clear, and nobody has stored since
      intro enabled
      have clear : shared.com1.isThrEmptySet = false := owes rfl
      exact absurd (clear.symm.trans enabled) Bool.false_ne_true
  | low => exact Or.inl rfl
  | high =>
      intro _
      rw [(record_store rfl).1]
      exact LowOrRose.raised (owes rfl) clocked.store
  | other unstored => exact (owes unstored).keep clocked unstored

/-- After a step the last transmitter is its author, or the one before. -/
theorem lastTransmitter_of_record
    {cpu : Cpu}
    (transmitter :
      (history.record author shared effect).lastTransmitter = some cpu) :
    (effect.sent ≠ [] ∧ author = some cpu) ∨
      (effect.sent = [] ∧ history.lastTransmitter = some cpu) := by
  cases sends : effect.sent with
  | cons byte rest =>
      left
      exact ⟨by simp, by simpa [History.record, sends] using transmitter⟩
  | nil => exact Or.inr ⟨rfl, by rwa [(record_transmit sends).2] at transmitter⟩

theorem disabled_of_record
    (disabled : history.lastIerStore = none → shared.com1.ier = 0)
    (unset : (history.record author shared effect).lastIerStore = none) :
    (effect.apply shared).com1.ier = 0 := by
  cases stores : effect.storesIer with
  | true => simp [History.record, stores] at unset
  | false =>
      rw [(record_store stores).1] at unset
      rw [apply_ier stores]
      exact disabled unset

theorem transmitInvariant_fresh (irqLevel : Bool) :
    TransmitInvariant (Smp.fresh irqLevel : Smp Cpu) {} where
  clocked := clocked_fresh
  unstored := fun _ => rfl
  unsent := fun _ => rfl
  disabled := fun _ => rfl
  transmitter := by
    rintro cpu ⟨⟩
  enabler := by
    rintro cpu ⟨⟩

/-- The invariant, when nobody is about to signal. -/
theorem TransmitInvariant.rose
    {state : Smp Cpu} (invariant : TransmitInvariant state history)
    (notStoring : ∀ cpu, ierStage (state.cpus cpu) = .outside)
    (notSending : ∀ cpu, thrStage (state.cpus cpu) = .outside)
    (enabled : state.shared.com1.isThrEmptySet = true) :
    ∃ store rise,
      history.lastIerStore = some store ∧
        history.edges.lastRise = some rise ∧ store < rise ∧
        ∀ sent, history.lastTransmit = some sent → sent < rise := by
  have storeRose : RoseSince history.lastIerStore history.edges := by
    cases storer : history.lastStorer with
    | none =>
        rw [invariant.unstored storer]
        exact roseSince_none _
    | some cpu =>
        have owes := invariant.enabler cpu storer
        rw [notStoring cpu] at owes
        exact owes enabled
  have sentAnswered :
      Answered history.lastTransmit history.lastIerStore history.edges := by
    cases transmitter : history.lastTransmitter with
    | none =>
        left
        rw [invariant.unsent transmitter]
        exact roseSince_none _
    | some cpu =>
        have owes := invariant.transmitter cpu transmitter
        rw [notSending cpu] at owes
        exact owes enabled
  rcases roseSince_both sentAnswered (Or.inl storeRose) with
    ⟨sentRose, _⟩
  cases stored : history.lastIerStore with
  | none =>
      rw [Com1.isThrEmptySet, invariant.disabled stored] at enabled
      exact absurd enabled (by decide)
  | some store =>
      rcases storeRose store stored with ⟨rise, recorded, afterStore⟩
      refine ⟨store, rise, rfl, recorded, afterStore, ?_⟩
      intro sent transmitted
      rcases sentRose sent transmitted with
        ⟨again, againRecorded, afterSent⟩
      cases recorded.symm.trans againRecorded
      exact afterSent

end Transmit

section Runs

variable [DecidableEq Cpu]
variable {source target : Smp Cpu} {label : Label Cpu}
variable {history : History Cpu}

theorem unsent_of_step
    (succeeds : label.IoctlSucceeds)
    (taken : step source label = some target)
    (before : history.lastTransmitter = none → history.lastTransmit = none)
    (unset : (observe source label history).lastTransmitter = none) :
    (observe source label history).lastTransmit = none := by
  cases sends : (effectOf source label).sent with
  | nil =>
      rw [observe, (record_transmit sends).2] at unset
      rw [observe, (record_transmit sends).1]
      exact before unset
  | cons byte rest =>
      have author : label.author = none := by
        simpa [observe, History.record, sends] using unset
      have silent := (step_reader succeeds author taken).1.silent.2
      rw [sends] at silent
      cases silent

/-- Each debt after a step of a CPU. -/
theorem debts_of_cpu
    (invariant : TransmitInvariant source history) {stepped : Cpu}
    (author : label.author = some stepped)
    (stored :
      IerMove source.shared (effectOf source label)
        (ierStage (source.cpus stepped)) (ierStage (target.cpus stepped)))
    (sent :
      ThrMove source.shared (effectOf source label)
        (thrStage (source.cpus stepped)) (thrStage (target.cpus stepped)))
    (others : ∀ other, other ≠ stepped →
      target.cpus other = source.cpus other) (cpu : Cpu) :
    ((observe source label history).lastTransmitter = some cpu →
      TransmitterOwes ((effectOf source label).apply source.shared)
        (observe source label history) (thrStage (target.cpus cpu))) ∧
    ((observe source label history).lastStorer = some cpu →
      EnablerOwes ((effectOf source label).apply source.shared)
        (observe source label history) (ierStage (target.cpus cpu))) := by
  constructor
  · intro transmitter
    have recorded := lastTransmitter_of_record transmitter
    by_cases same : cpu = stepped
    · subst same
      refine TransmitterOwes.step invariant.clocked ?_ sent
      intro unsent
      rcases recorded with ⟨sends, _⟩ | ⟨_, before⟩
      · exact absurd unsent sends
      · exact invariant.transmitter cpu before
    · rcases recorded with ⟨_, mine⟩ | ⟨unsent, before⟩
      · rw [author] at mine
        cases mine
        exact absurd rfl same
      · rw [others cpu same]
        exact (invariant.transmitter cpu before).keep invariant.clocked unsent
  · intro storer
    have recorded := lastStorer_of_record storer
    by_cases same : cpu = stepped
    · subst same
      refine EnablerOwes.step invariant.clocked ?_ stored
      intro unstored
      rcases recorded with ⟨stores, _⟩ | ⟨_, before⟩
      · rw [stores] at unstored
        cases unstored
      · exact invariant.enabler cpu before
    · rcases recorded with ⟨_, mine⟩ | ⟨unstored, before⟩
      · rw [author] at mine
        cases mine
        exact absurd rfl same
      · rw [others cpu same]
        exact (invariant.enabler cpu before).keep invariant.clocked unstored

/-- Each debt after a step of the reader. -/
theorem debts_of_reader
    (invariant : TransmitInvariant source history)
    (author : label.author = none) (cpus : target.cpus = source.cpus)
    (cpu : Cpu) :
    ((observe source label history).lastTransmitter = some cpu →
      TransmitterOwes ((effectOf source label).apply source.shared)
        (observe source label history) (thrStage (target.cpus cpu))) ∧
    ((observe source label history).lastStorer = some cpu →
      EnablerOwes ((effectOf source label).apply source.shared)
        (observe source label history) (ierStage (target.cpus cpu))) := by
  rw [cpus]
  constructor
  · intro transmitter
    rcases lastTransmitter_of_record transmitter with
      ⟨_, mine⟩ | ⟨unsent, before⟩
    · rw [author] at mine
      cases mine
    · exact (invariant.transmitter cpu before).keep invariant.clocked unsent
  · intro storer
    rcases lastStorer_of_record storer with ⟨_, mine⟩ | ⟨unstored, before⟩
    · rw [author] at mine
      cases mine
    · exact (invariant.enabler cpu before).keep invariant.clocked unstored

/-- One step preserves the invariant. -/
theorem TransmitInvariant.step
    (invariant : TransmitInvariant source history)
    (succeeds : label.IoctlSucceeds)
    (taken : Com1Smp.step source label = some target) :
    TransmitInvariant target (observe source label history) := by
  have shared := step_shared taken
  have debts : ∀ cpu,
      ((observe source label history).lastTransmitter = some cpu →
        TransmitterOwes ((effectOf source label).apply source.shared)
          (observe source label history) (thrStage (target.cpus cpu))) ∧
      ((observe source label history).lastStorer = some cpu →
        EnablerOwes ((effectOf source label).apply source.shared)
          (observe source label history) (ierStage (target.cpus cpu))) := by
    cases author : label.author with
    | none =>
        rcases step_reader succeeds author taken with ⟨_, cpus⟩
        exact debts_of_reader invariant author cpus
    | some stepped =>
        rcases step_cpu succeeds author taken with
          ⟨stored, sent, others, _⟩
        exact debts_of_cpu invariant author stored sent others
  refine ⟨invariant.clocked.record,
    unstored_of_step succeeds taken invariant.unstored,
    unsent_of_step succeeds taken invariant.unsent, ?_, ?_, ?_⟩
  · rw [shared]
    exact disabled_of_record invariant.disabled
  · rw [shared]
    exact fun cpu => (debts cpu).1
  · rw [shared]
    exact fun cpu => (debts cpu).2

/-- The invariant holds in every state a run reaches. -/
theorem transmitInvariant_run
    {irqLevel : Bool} {labels : List (Label Cpu)} {state : Smp Cpu}
    (run : ObservedRun irqLevel labels state history)
    (succeed : ∀ label ∈ labels, label.IoctlSucceeds) :
    TransmitInvariant state history := by
  refine run.invariant_of_labels
    (fun reached => TransmitInvariant reached.1 reached.2)
    Label.IoctlSucceeds (transmitInvariant_fresh irqLevel) ?_ succeed
  intro source label next succeeds invariant taken
  rcases observed_eq_some_iff.mp taken with ⟨stepped, recorded⟩
  rw [← recorded]
  exact invariant.step succeeds stepped

/--
No transmitter interrupt is lost, whatever the number of CPUs: with no CPU in the
rest of a write that sent a byte or stored the enable register, and the interrupt
enabled, IRQ 4 has risen after the last byte sent and after the last store.
-/
theorem smp_transmit_interrupt_not_lost
    {irqLevel : Bool} {labels : List (Label Cpu)} {state : Smp Cpu}
    (run : ObservedRun irqLevel labels state history)
    (succeed : ∀ label ∈ labels, label.IoctlSucceeds)
    (notStoring : ∀ cpu, ierStage (state.cpus cpu) = .outside)
    (notSending : ∀ cpu, thrStage (state.cpus cpu) = .outside)
    (enabled : state.shared.com1.isThrEmptySet = true) :
    ∃ store rise,
      history.lastIerStore = some store ∧
        history.edges.lastRise = some rise ∧ store < rise ∧
        ∀ sent, history.lastTransmit = some sent → sent < rise :=
  (transmitInvariant_run run succeed).rose notStoring notSending enabled

end Runs

/-- One CPU enables the interrupt while another one sends a byte. -/
def crossingFlaps : List (Label Bool) :=
  [ .begin false (.write .ierDlh 2), .begin true (.write .thrRbrDll 0x41) ] ++
  (List.replicate 6
    [.advance false willing, .advance true willing]).flatten

/-- Both flaps interleave half by half, and both events are answered. -/
theorem smp_transmit_interrupt_not_lost_crossing :
    ∃ (state : Smp Bool) (history : History Bool),
      ObservedRun false crossingFlaps state history ∧
        ∃ store rise,
          history.lastIerStore = some store ∧
            history.edges.lastRise = some rise ∧ store < rise ∧
            ∀ sent, history.lastTransmit = some sent → sent < rise := by
  have reached : ∃ state history,
      ObservedRun false crossingFlaps state history ∧
        (∀ cpu, ierStage (state.cpus cpu) = .outside) ∧
        (∀ cpu, thrStage (state.cpus cpu) = .outside) ∧
        state.shared.com1.ier = 2 :=
    ⟨_, _, Run.iff_foldlM.mpr rfl, by decide, by decide, rfl⟩
  rcases reached with ⟨state, history, run, notStoring, notSending, ier⟩
  refine ⟨state, history, run,
    smp_transmit_interrupt_not_lost run ?_ notStoring notSending ?_⟩
  · simp [crossingFlaps, Label.IoctlSucceeds, willing]
  · rw [Com1.isThrEmptySet, ier]
    rfl

end Lvmm.Device.Com1SmpTransmit
