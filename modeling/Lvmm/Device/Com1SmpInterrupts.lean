import Lvmm.Device.Com1SmpMoves

/-!
# Interrupts of COM1 with any number of virtual CPUs

A receive interrupt is the business of the reader, which pushes a byte and then
looks at the enable bit, and of whichever CPU last stored the enable register,
which then looks at the buffer.  A transmitter interrupt is the business of
whichever CPU last sent a byte and of the last storer.  Stores of different CPUs
may race, but what an earlier storer saw does not matter any more, and the edge a
flap needs may be the work of any other thread.
-/

namespace Lvmm.Device.Com1SmpInterrupts

open Lvmm.Device.Com1Device
open Lvmm.Device.Com1Threads (FlapOrigin ReaderPc)
open Lvmm.Device.Com1Smp
open Lvmm.Device.Com1SmpMoves
open Lvmm.Library.LabelledRun
open Lvmm.Library.LineEdges

variable {Cpu : Type*}

/-! ## Conditions -/

/-- The receive buffer still holds a byte that came from the host. -/
def HostByteWaiting (history : History Cpu) : Prop :=
  ∃ byte, ((none : Option Cpu), byte) ∈
    history.arrivals.drop history.delivered.length

/-- The receive interrupt is enabled and a host byte waits for it. -/
def Armed (shared : Shared) (history : History Cpu) : Prop :=
  shared.com1.isDataAvlSet = true ∧ HostByteWaiting history

/-- The reader is not between a push and the end of the flap it decides on. -/
def ReaderQuiet : ReaderPc → Prop
  | .blocked => True
  | .returned => True
  | _ => False

/-- Everything recorded happened in the past. -/
structure Clocked (history : History Cpu) : Prop where
  push : Past history.lastHostPush history.edges
  store : Past history.lastIerStore history.edges
  transmit : Past history.lastTransmit history.edges

/-! ## What a record keeps -/

section Record

variable {shared : Shared} {history : History Cpu} {effect : Effect}
variable {author : Option Cpu}

theorem past_mark
    {mark : Option Nat} {log : EdgeLog} (past : Past mark log)
    (flag before after : Bool) :
    Past (if flag then some log.clock else mark) (log.record before after) := by
  cases flag with
  | true => exact past_now log before after
  | false => exact past.record before after

theorem Clocked.record (clocked : Clocked history) :
    Clocked (history.record author shared effect) :=
  ⟨past_mark clocked.push _ _ _, past_mark clocked.store _ _ _,
    past_mark clocked.transmit _ _ _⟩

/-- The thread pushes a byte of the host. -/
def pushesHost (author : Option Cpu) (effect : Effect) : Bool :=
  author.isNone && !effect.pushed.isEmpty

theorem record_push (notHost : pushesHost author effect = false) :
    (history.record author shared effect).lastHostPush =
      history.lastHostPush := by
  rw [pushesHost] at notHost
  simp [History.record, notHost]

theorem record_store (unstored : effect.storesIer = false) :
    (history.record author shared effect).lastIerStore =
        history.lastIerStore ∧
      (history.record author shared effect).lastStorer =
        history.lastStorer := by
  simp [History.record, unstored]

theorem record_transmit (unsent : effect.sent = []) :
    (history.record author shared effect).lastTransmit =
        history.lastTransmit ∧
      (history.record author shared effect).lastTransmitter =
        history.lastTransmitter := by
  simp [History.record, unsent]

/-- A host byte waits after a record only if one waited or arrived. -/
theorem waiting_of_record
    (notHost : pushesHost author effect = false)
    (waiting : HostByteWaiting (history.record author shared effect)) :
    HostByteWaiting history := by
  rcases waiting with ⟨byte, member⟩
  simp only [History.record, List.length_append, List.drop_append] at member
  rcases List.mem_append.mp member with old | new
  · exact ⟨byte,
      (List.drop_subset_drop_left _ (Nat.le_add_right _ _)) old⟩
  · rcases List.mem_map.mp (List.mem_of_mem_drop new) with
      ⟨pushed, inEffect, entry⟩
    cases author with
    | some cpu => cases entry
    | none =>
        cases pushes : effect.pushed with
        | nil => simp [pushes] at inEffect
        | cons first rest => simp [pushesHost, pushes] at notHost

theorem enabled_of_apply
    (unstored : effect.storesIer = false)
    (enabled : (effect.apply shared).com1.isDataAvlSet = true) :
    shared.com1.isDataAvlSet = true := by
  rwa [Com1.isDataAvlSet, apply_ier unstored] at enabled

theorem thrEnabled_of_apply
    (unstored : effect.storesIer = false)
    (enabled : (effect.apply shared).com1.isThrEmptySet = true) :
    shared.com1.isThrEmptySet = true := by
  rwa [Com1.isThrEmptySet, apply_ier unstored] at enabled

theorem armed_of_record
    (notHost : pushesHost author effect = false)
    (unstored : effect.storesIer = false)
    (armed :
      Armed (effect.apply shared) (history.record author shared effect)) :
    Armed shared history :=
  ⟨enabled_of_apply unstored armed.1, waiting_of_record notHost armed.2⟩

/-- A push of the host answers the store before it: the reader goes on to it. -/
theorem answered_of_push
    (clocked : Clocked history) (host : pushesHost author effect = true)
    (unstored : effect.storesIer = false) :
    Answered (history.record author shared effect).lastIerStore
      (history.record author shared effect).lastHostPush
      (history.record author shared effect).edges := by
  rw [(record_store unstored).1]
  rw [pushesHost] at host
  simp only [History.record, host, if_true]
  exact answered_now clocked.store _

/-- A store answers the push before it: its storer goes on to look for it. -/
theorem answered_of_store
    (clocked : Clocked history) (stores : effect.storesIer = true)
    (notHost : pushesHost author effect = false) :
    Answered (history.record author shared effect).lastHostPush
      (history.record author shared effect).lastIerStore
      (history.record author shared effect).edges := by
  rw [record_push notHost]
  simp only [History.record, stores, if_true]
  exact answered_now clocked.push _

end Record

/-! ## Receive interrupts -/

/-- What the last storer of the enable register owes, at each stage. -/
def StorerOwes (shared : Shared) (history : History Cpu) : IerStage → Prop
  | .outside =>
      Armed shared history →
        Answered history.lastIerStore history.lastHostPush history.edges
  | .loading false | .loadingAgain false =>
      HostByteWaiting history →
        Answered history.lastIerStore history.lastHostPush history.edges
  | .raising =>
      LowOrRose shared.irqLevel history.lastIerStore history.edges
  | .testing | .loading true | .loadingAgain true | .lowering => True

/-- What the reader owes for its last push. -/
def ReaderOwes (shared : Shared) (history : History Cpu) : ReaderPc → Prop
  | .blocked | .returned =>
      Armed shared history →
        Answered history.lastHostPush history.lastIerStore history.edges
  | .flapHigh =>
      LowOrRose shared.irqLevel history.lastHostPush history.edges
  | .loadIer | .flapLow => True

/-- The invariant of a run all of whose ioctls succeed. -/
structure ReceiveInvariant (state : Smp Cpu) (history : History Cpu) :
    Prop where
  clocked : Clocked history
  queue :
    history.delivered.map Prod.snd ++ state.shared.com1.rxBuf =
      history.arrivals.map Prod.snd
  pushed : HostByteWaiting history → history.lastHostPush ≠ none
  unstored : history.lastStorer = none → history.lastIerStore = none
  reader : ReaderOwes state.shared history state.reader
  storer : ∀ cpu, history.lastStorer = some cpu →
    StorerOwes state.shared history (ierStage (state.cpus cpu))

section Receive

variable {shared : Shared} {history : History Cpu} {effect : Effect}
variable {author : Option Cpu}

theorem answered_store_kept
    (clocked : Clocked history)
    (notHost : pushesHost author effect = false)
    (unstored : effect.storesIer = false)
    (answered :
      Answered history.lastIerStore history.lastHostPush history.edges) :
    Answered (history.record author shared effect).lastIerStore
      (history.record author shared effect).lastHostPush
      (history.record author shared effect).edges := by
  rw [(record_store unstored).1, record_push notHost]
  exact answered.record clocked.store _ _

theorem answered_push_kept
    (clocked : Clocked history)
    (notHost : pushesHost author effect = false)
    (unstored : effect.storesIer = false)
    (answered :
      Answered history.lastHostPush history.lastIerStore history.edges) :
    Answered (history.record author shared effect).lastHostPush
      (history.record author shared effect).lastIerStore
      (history.record author shared effect).edges := by
  rw [(record_store unstored).1, record_push notHost]
  exact answered.record clocked.push _ _

/-- A step which stores nothing leaves the last storer what it owes. -/
theorem StorerOwes.keep
    {stage : IerStage} (clocked : Clocked history)
    (unstored : effect.storesIer = false)
    (owes : StorerOwes shared history stage) :
    StorerOwes (effect.apply shared) (history.record author shared effect)
      stage := by
  cases stage with
  | testing | lowering => trivial
  | raising =>
      change LowOrRose _ (history.record author shared effect).lastIerStore _
      rw [(record_store unstored).1]
      exact LowOrRose.record owes clocked.store _
  | outside =>
      intro armed
      cases host : pushesHost author effect with
      | true => exact answered_of_push clocked host unstored
      | false =>
          exact answered_store_kept clocked host unstored
            (owes (armed_of_record host unstored armed))
  | loading rxPending | loadingAgain rxPending =>
      cases rxPending with
      | true => trivial
      | false =>
          intro waiting
          cases host : pushesHost author effect with
          | true => exact answered_of_push clocked host unstored
          | false =>
              exact answered_store_kept clocked host unstored
                (owes (waiting_of_record host waiting))

/-- A step of another thread leaves the reader what it owes. -/
theorem ReaderOwes.keep
    {reader : ReaderPc} (clocked : Clocked history)
    (notHost : pushesHost author effect = false)
    (owes : ReaderOwes shared history reader) :
    ReaderOwes (effect.apply shared) (history.record author shared effect)
      reader := by
  cases reader with
  | loadIer | flapLow => trivial
  | flapHigh =>
      change LowOrRose _ (history.record author shared effect).lastHostPush _
      rw [record_push notHost]
      exact LowOrRose.record owes clocked.push _
  | blocked | returned =>
      intro armed
      cases stores : effect.storesIer with
      | true => exact answered_of_store clocked stores notHost
      | false =>
          exact answered_push_kept clocked notHost stores
            (owes (armed_of_record notHost stores armed))

/-- A step of the reader keeps what it owes. -/
theorem ReaderOwes.step
    {before after : ReaderPc} (clocked : Clocked history)
    (owes : ReaderOwes shared history before)
    (moved : ReaderMove shared effect before after) :
    ReaderOwes (effect.apply shared)
      (history.record (none : Option Cpu) shared effect) after := by
  cases moved with
  | push byte | dataAvl => trivial
  | retry => exact owes.keep clocked rfl
  | eof =>
      have kept :
          ReaderOwes (Effect.nothing.apply shared)
            (history.record (none : Option Cpu) shared .nothing) .blocked :=
        owes.keep clocked rfl
      exact kept
  | quiet clear =>
      rintro ⟨enabled, _⟩
      exact absurd (clear.symm.trans enabled) Bool.false_ne_true
  | low => exact Or.inl rfl
  | high =>
      intro _
      left
      rw [record_push rfl]
      exact LowOrRose.raised owes clocked.push

/-- An empty buffer holds no byte of the host. -/
theorem not_waiting_of_empty
    (queue :
      history.delivered.map Prod.snd ++ shared.com1.rxBuf =
        history.arrivals.map Prod.snd)
    (empty : shared.com1.rxPending = false) :
    ¬ HostByteWaiting history := by
  have nil : shared.com1.rxBuf = [] := by
    simpa [Com1.rxPending] using empty
  rintro ⟨byte, member⟩
  have lengths := congrArg List.length queue
  simp only [nil, List.append_nil, List.length_map] at lengths
  rw [lengths, List.drop_length] at member
  cases member

/-- A step of the last storer, or of a CPU which becomes it. -/
theorem StorerOwes.step
    {cpu : Cpu} {before after : IerStage} (clocked : Clocked history)
    (queue :
      history.delivered.map Prod.snd ++ shared.com1.rxBuf =
        history.arrivals.map Prod.snd)
    (owes : effect.storesIer = false → StorerOwes shared history before)
    (moved : IerMove shared effect before after) :
    StorerOwes (effect.apply shared)
      (history.record (some cpu) shared effect) after := by
  cases moved with
  | store byte | thrEmpty | dataAvl => trivial
  | test =>
      cases pending : shared.com1.rxPending with
      | true => trivial
      | false =>
          intro waiting
          exact absurd (waiting_of_record rfl waiting)
            (not_waiting_of_empty queue pending)
  | @notThrEmpty rxPending clear =>
      have kept :
          StorerOwes (Effect.nothing.apply shared)
            (history.record (some cpu) shared .nothing)
            (.loading rxPending) :=
        (owes rfl).keep clocked rfl
      cases rxPending with
      | true => trivial
      | false => exact kept
  | @quiet rxPending clear =>
      rintro ⟨enabled, waiting⟩
      have set : shared.com1.isDataAvlSet = true := enabled
      rw [set, Bool.true_and] at clear
      subst clear
      have kept :
          StorerOwes (Effect.nothing.apply shared)
            (history.record (some cpu) shared .nothing)
            (.loadingAgain false) :=
        (owes rfl).keep clocked rfl
      exact kept waiting
  | low => exact Or.inl rfl
  | high =>
      intro _
      left
      rw [(record_store rfl).1]
      exact LowOrRose.raised (owes rfl) clocked.store
  | other unstored => exact (owes unstored).keep clocked unstored

theorem pushed_of_record
    (pushed : HostByteWaiting history → history.lastHostPush ≠ none)
    (waiting : HostByteWaiting (history.record author shared effect)) :
    (history.record author shared effect).lastHostPush ≠ none := by
  cases host : pushesHost author effect with
  | true =>
      rw [pushesHost] at host
      simp [History.record, host]
  | false =>
      rw [record_push host]
      exact pushed (waiting_of_record host waiting)

/-- The receive buffer is a queue between the arrivals and the deliveries. -/
theorem queue_of_record
    (author : Option Cpu) (effect : Effect)
    (queue :
      history.delivered.map Prod.snd ++ shared.com1.rxBuf =
        history.arrivals.map Prod.snd) :
    (history.record author shared effect).delivered.map Prod.snd ++
        (effect.apply shared).com1.rxBuf =
      (history.record author shared effect).arrivals.map Prod.snd := by
  have entries (bytes : List UInt8) :
      (bytes.map fun byte => (author, byte)).map Prod.snd = bytes := by
    rw [List.map_map]
    exact List.map_id bytes
  simp only [History.record, List.map_append, entries, List.append_assoc]
  rw [apply_queue, ← List.append_assoc, queue]

/-- After a step the last storer is its author, or the one before. -/
theorem lastStorer_of_record
    {cpu : Cpu}
    (storer : (history.record author shared effect).lastStorer = some cpu) :
    (effect.storesIer = true ∧ author = some cpu) ∨
      (effect.storesIer = false ∧ history.lastStorer = some cpu) := by
  cases stores : effect.storesIer with
  | true =>
      exact Or.inl ⟨rfl, by simpa [History.record, stores] using storer⟩
  | false =>
      exact Or.inr ⟨rfl, by rwa [(record_store stores).2] at storer⟩

theorem not_armed_fresh (irqLevel : Bool) (history : History Cpu) :
    ¬ Armed (Smp.fresh irqLevel : Smp Cpu).shared history := by
  rintro ⟨enabled, _⟩
  simp [Smp.fresh, Com1.isDataAvlSet, anySet] at enabled

theorem clocked_fresh : Clocked ({} : History Cpu) :=
  ⟨past_none _, past_none _, past_none _⟩

theorem receiveInvariant_fresh (irqLevel : Bool) :
    ReceiveInvariant (Smp.fresh irqLevel : Smp Cpu) {} where
  clocked := clocked_fresh
  queue := rfl
  pushed := by
    rintro ⟨byte, member⟩
    cases member
  unstored := fun _ => rfl
  reader := fun armed => absurd armed (not_armed_fresh irqLevel {})
  storer := by
    rintro cpu ⟨⟩

/-- The invariant, when nobody is about to signal. -/
theorem ReceiveInvariant.rose
    {state : Smp Cpu} (invariant : ReceiveInvariant state history)
    (readerQuiet : ReaderQuiet state.reader)
    (notStoring : ∀ cpu, ierStage (state.cpus cpu) = .outside)
    (enabled : state.shared.com1.isDataAvlSet = true)
    (waiting : HostByteWaiting history) :
    ∃ push rise,
      history.lastHostPush = some push ∧
        history.edges.lastRise = some rise ∧ push < rise ∧
        ∀ store, history.lastIerStore = some store → store < rise := by
  have armed : Armed state.shared history := ⟨enabled, waiting⟩
  have pushAnswered :
      Answered history.lastHostPush history.lastIerStore history.edges := by
    have owes := invariant.reader
    cases reader : state.reader with
    | blocked | returned =>
        rw [reader] at owes
        exact owes armed
    | loadIer | flapLow | flapHigh =>
        rw [reader] at readerQuiet
        exact readerQuiet.elim
  have storeAnswered :
      Answered history.lastIerStore history.lastHostPush history.edges := by
    cases storer : history.lastStorer with
    | none =>
        left
        rw [invariant.unstored storer]
        exact roseSince_none _
    | some cpu =>
        have owes := invariant.storer cpu storer
        rw [notStoring cpu] at owes
        exact owes armed
  rcases roseSince_both pushAnswered storeAnswered with
    ⟨pushRose, storeRose⟩
  rcases Option.ne_none_iff_exists'.mp (invariant.pushed waiting) with
    ⟨push, pushed⟩
  rcases pushRose push pushed with ⟨rise, recorded, afterPush⟩
  refine ⟨push, rise, pushed, recorded, afterPush, ?_⟩
  intro store stored
  rcases storeRose store stored with ⟨again, againRecorded, afterStore⟩
  cases recorded.symm.trans againRecorded
  exact afterStore

end Receive

section ReceiveRuns

variable [DecidableEq Cpu]
variable {source target : Smp Cpu} {label : Label Cpu}
variable {history : History Cpu}

/-- The storer's debt after a step of the reader. -/
theorem storer_of_reader
    (invariant : ReceiveInvariant source history)
    (author : label.author = none)
    (cpus : target.cpus = source.cpus) {cpu : Cpu}
    (storer : (observe source label history).lastStorer = some cpu) :
    StorerOwes ((effectOf source label).apply source.shared)
      (observe source label history) (ierStage (target.cpus cpu)) := by
  rcases lastStorer_of_record storer with ⟨_, mine⟩ | ⟨unstored, before⟩
  · rw [author] at mine
    cases mine
  · rw [cpus]
    exact (invariant.storer cpu before).keep invariant.clocked unstored

/-- The storer's debt after a step of a CPU. -/
theorem storer_of_cpu
    (invariant : ReceiveInvariant source history) {stepped : Cpu}
    (author : label.author = some stepped)
    (moved :
      IerMove source.shared (effectOf source label)
        (ierStage (source.cpus stepped)) (ierStage (target.cpus stepped)))
    (others : ∀ other, other ≠ stepped →
      target.cpus other = source.cpus other) {cpu : Cpu}
    (storer : (observe source label history).lastStorer = some cpu) :
    StorerOwes ((effectOf source label).apply source.shared)
      (observe source label history) (ierStage (target.cpus cpu)) := by
  by_cases same : cpu = stepped
  · subst same
    rw [observe, author]
    refine StorerOwes.step invariant.clocked invariant.queue ?_ moved
    intro unstored
    rcases lastStorer_of_record storer with ⟨stores, _⟩ | ⟨_, before⟩
    · rw [stores] at unstored
      cases unstored
    · exact invariant.storer cpu before
  · rcases lastStorer_of_record storer with ⟨_, mine⟩ | ⟨unstored, before⟩
    · rw [author] at mine
      cases mine
      exact absurd rfl same
    · rw [others cpu same]
      exact (invariant.storer cpu before).keep invariant.clocked unstored

theorem unstored_of_step
    (succeeds : label.IoctlSucceeds)
    (taken : step source label = some target)
    (before : history.lastStorer = none → history.lastIerStore = none)
    (unset : (observe source label history).lastStorer = none) :
    (observe source label history).lastIerStore = none := by
  cases stores : (effectOf source label).storesIer with
  | false =>
      rw [observe, (record_store stores).2] at unset
      rw [observe, (record_store stores).1]
      exact before unset
  | true =>
      have author : label.author = none := by
        simpa [observe, History.record, stores] using unset
      have silent := (step_reader succeeds author taken).1.silent.1
      rw [stores] at silent
      cases silent

/-- One step preserves the invariant. -/
theorem ReceiveInvariant.step
    (invariant : ReceiveInvariant source history)
    (succeeds : label.IoctlSucceeds)
    (taken : Com1Smp.step source label = some target) :
    ReceiveInvariant target (observe source label history) := by
  have shared := step_shared taken
  have unstored := unstored_of_step succeeds taken invariant.unstored
  cases author : label.author with
  | none =>
      rcases step_reader succeeds author taken with ⟨moved, cpus⟩
      refine ⟨invariant.clocked.record, ?_,
        pushed_of_record invariant.pushed, unstored, ?_, ?_⟩
      · rw [shared]
        exact queue_of_record _ _ invariant.queue
      · rw [shared, observe, author]
        exact invariant.reader.step invariant.clocked moved
      · intro cpu storer
        rw [shared]
        exact storer_of_reader invariant author cpus storer
  | some stepped =>
      rcases step_cpu succeeds author taken with
        ⟨moved, _, others, reader⟩
      refine ⟨invariant.clocked.record, ?_,
        pushed_of_record invariant.pushed, unstored, ?_, ?_⟩
      · rw [shared]
        exact queue_of_record _ _ invariant.queue
      · rw [shared, observe, author, reader]
        exact invariant.reader.keep invariant.clocked rfl
      · intro cpu storer
        rw [shared]
        exact storer_of_cpu invariant author moved others storer

/-- The invariant holds in every state a run reaches. -/
theorem receiveInvariant_run
    {irqLevel : Bool} {labels : List (Label Cpu)}
    {state : Smp Cpu}
    (run : ObservedRun irqLevel labels state history)
    (succeed : ∀ label ∈ labels, label.IoctlSucceeds) :
    ReceiveInvariant state history := by
  refine run.invariant_of_labels
    (fun reached => ReceiveInvariant reached.1 reached.2)
    Label.IoctlSucceeds (receiveInvariant_fresh irqLevel) ?_ succeed
  intro source label next succeeds invariant taken
  rcases observed_eq_some_iff.mp taken with ⟨stepped, recorded⟩
  rw [← recorded]
  exact invariant.step succeeds stepped

/--
No receive interrupt is lost, whatever the number of CPUs: with the reader quiet,
no CPU in the rest of a write to the enable register, the interrupt enabled and a
host byte waiting, IRQ 4 has risen after the last push of the reader and after the
last store to the enable register.
-/
theorem smp_receive_interrupt_not_lost
    {irqLevel : Bool} {labels : List (Label Cpu)} {state : Smp Cpu}
    (run : ObservedRun irqLevel labels state history)
    (succeed : ∀ label ∈ labels, label.IoctlSucceeds)
    (readerQuiet : ReaderQuiet state.reader)
    (notStoring : ∀ cpu, ierStage (state.cpus cpu) = .outside)
    (enabled : state.shared.com1.isDataAvlSet = true)
    (waiting : HostByteWaiting history) :
    ∃ push rise,
      history.lastHostPush = some push ∧
        history.edges.lastRise = some rise ∧ push < rise ∧
        ∀ store, history.lastIerStore = some store → store < rise :=
  (receiveInvariant_run run succeed).rose readerQuiet notStoring enabled waiting

end ReceiveRuns

/-- Every system call succeeds. -/
def willing : Answers := { write := .ok 1, irq := .ok 0 }

/-- Two CPUs enable the receive interrupt at once after a byte has arrived. -/
def racingStores : List (Label Bool) :=
  [ .host (.byte 0x41),
    .begin false (.write .ierDlh 1), .begin true (.write .ierDlh 1),
    .advance false willing, .advance true willing, .reader willing,
    .advance false willing, .advance true willing ] ++
  List.replicate 5 (.advance false willing) ++
  List.replicate 5 (.advance true willing)

/-- The byte is signalled after the later of the two stores. -/
theorem smp_receive_interrupt_not_lost_racing :
    ∃ (state : Smp Bool) (history : History Bool),
      ObservedRun false racingStores state history ∧
        ∃ push rise,
          history.lastHostPush = some push ∧
            history.edges.lastRise = some rise ∧ push < rise ∧
            ∀ store, history.lastIerStore = some store → store < rise := by
  have reached : ∃ state history,
      ObservedRun false racingStores state history ∧
        state.reader = .blocked ∧
        (∀ cpu, ierStage (state.cpus cpu) = .outside) ∧
        state.shared.com1.ier = 1 ∧
        history.arrivals = [(none, 0x41)] ∧ history.delivered = [] :=
    ⟨_, _, Run.iff_foldlM.mpr rfl, rfl, by decide, rfl, rfl, rfl⟩
  rcases reached with
    ⟨state, history, run, blocked, outside, ier, arrivals, delivered⟩
  refine ⟨state, history, run,
    smp_receive_interrupt_not_lost run ?_ ?_ outside ?_ ?_⟩
  · simp [racingStores, Label.IoctlSucceeds, willing]
  · rw [blocked]
    trivial
  · rw [Com1.isDataAvlSet, ier]
    rfl
  · exact ⟨0x41, by simp [arrivals, delivered]⟩

end Lvmm.Device.Com1SmpInterrupts
