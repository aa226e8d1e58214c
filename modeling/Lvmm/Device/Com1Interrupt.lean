import Lvmm.Device.Com1Streams

/-!
# No receive interrupt is lost

The reader pushes a byte and then tests the enable bit; the guest stores the
enable bit and then tests the buffer.  Whichever of the two publishes last finds
what the other published and flaps the line after its own publication.  The two
flaps may interleave, so the edge need not be produced by the thread that asks
for it: between the lowering and the raising half of a flap the line is low, or
it has already risen again.
-/

namespace Lvmm.Device.Com1Interrupt

open Lvmm.Device.Com1Device
open Lvmm.Device.Com1Threads
open Lvmm.Device.Com1Streams
open Lvmm.Library.LabelledRun

/-! ## The property and its vocabulary -/

/-- The receive buffer still holds a byte that came from the host. -/
def HostByteWaiting (history : History) : Prop :=
  ∃ byte, (Origin.host, byte) ∈
    history.arrivals.drop history.delivered.length

/-- The reader is not between a push and the end of the flap it decides on. -/
def ReaderQuiet : ReaderPc → Prop
  | .blocked => True
  | .returned => True
  | _ => False

/-- The guest is within a write to the interrupt-enable register. -/
def WritingIer : GuestPc → Prop
  | .ierTestRx => True
  | .ierLoadIer _ => True
  | .flapLow .ier => True
  | .flapHigh .ier => True
  | _ => False

/-- The line has gone from low to high after the marked step, if there is one. -/
def RoseAfter (mark : Option Nat) (history : History) : Prop :=
  ∀ time, mark = some time →
    ∃ rise, history.lastRise = some rise ∧ time < rise

/-- The first step happened, and the second one happened after it. -/
def Before (first second : Option Nat) : Prop :=
  ∃ early late, first = some early ∧ second = some late ∧ early < late

/-- The receive interrupt is enabled and a host byte waits for it. -/
def Armed (state : Threads) (history : History) : Prop :=
  state.com1.isDataAvlSet = true ∧ HostByteWaiting history

/-- Everything recorded happened in the past. -/
structure Clocked (history : History) : Prop where
  push : ∀ time, history.lastHostPush = some time → time < history.clock
  store : ∀ time, history.lastIerStore = some time → time < history.clock
  rise : ∀ time, history.lastRise = some time → time < history.clock

theorem Clocked.record
    {source : Threads} {label : Label} {history : History}
    (clocked : Clocked history) :
    Clocked (observe source label history) := by
  have past : ∀ (flag : Bool) (mark : Option Nat),
      (∀ time, mark = some time → time < history.clock) →
        ∀ time, (if flag then some history.clock else mark) = some time →
          time < history.clock + 1 := by
    intro flag mark markPast time recorded
    cases flag with
    | true =>
        have equal : history.clock = time := by simpa using recorded
        omega
    | false =>
        have earlier := markPast time (by simpa using recorded)
        omega
  exact
    ⟨past _ _ clocked.push, past _ _ clocked.store, past _ _ clocked.rise⟩

/-! ## How the line moves under one step -/

/-- A later rise only helps. -/
theorem RoseAfter.record
    {source : Threads} {label : Label} {history : History}
    {mark : Option Nat}
    (markPast : ∀ time, mark = some time → time < history.clock)
    (rose : RoseAfter mark history) :
    RoseAfter mark (observe source label history) := by
  intro time marked
  rcases rose time marked with ⟨rise, riseRecorded, later⟩
  cases raises : raisesLine source label with
  | true =>
      exact ⟨history.clock, by simp [observe, raises],
        markPast time marked⟩
  | false =>
      exact ⟨rise, by simpa [observe, raises] using riseRecorded, later⟩

/--
The invariant of a flap between its two halves: the line is low, or it has risen
since the mark.  Any step keeps it, whichever thread takes it.
-/
theorem lowOrRose_step
    {source target : Threads} {label : Label} {history : History}
    {mark : Option Nat}
    (markPast : ∀ time, mark = some time → time < history.clock)
    (taken : step source label = some target)
    (lowOrRose : source.irqLevel = false ∨ RoseAfter mark history) :
    target.irqLevel = false ∨
      RoseAfter mark (observe source label history) := by
  rcases lowOrRose with low | rose
  · cases level : target.irqLevel with
    | false => exact Or.inl rfl
    | true =>
        have raises : raisesLine source label = true := by
          simp [raisesLine, taken, low, level]
        right
        intro time marked
        exact ⟨history.clock, by simp [observe, raises],
          markPast time marked⟩
  · exact Or.inr (rose.record markPast)

/-! ## What a step leaves alone -/

theorem readPort_ier (com1 : Com1) (port : Com1Port) :
    (com1.readPort port).2.ier = com1.ier := by
  rw [readPort_snd]
  split <;> rfl

theorem beginWrite_ier
    (source : Threads) (port : Com1Port) (byte : UInt8)
    (unstored : storesIer source (.guestWrite port byte) = false) :
    (source.beginWrite byte port).com1.ier = source.com1.ier := by
  cases port with
  | thrRbrDll =>
      cases dlab : source.com1.isDlabSet <;>
        cases loop : source.com1.isLoopSet <;>
        simp [Threads.beginWrite, dlab, loop, Com1.pushRx]
  | ierDlh =>
      have dlab : source.com1.isDlabSet = true := by
        simpa [storesIer] using unstored
      simp [Threads.beginWrite, dlab]
  | iirFcr | lcr | mcr | lsr | msr | sr => simp [Threads.beginWrite]

/-- Only a store to the interrupt-enable register changes it. -/
theorem step_ier
    {source target : Threads} {label : Label}
    (unstored : storesIer source label = false)
    (taken : step source label = some target) :
    target.com1.ier = source.com1.ier := by
  cases label with
  | guestWrite port byte =>
      simp only [step, guestStep] at taken
      split at taken
      · cases taken
        exact beginWrite_ier source port byte unstored
      · cases taken
  | guestRead port value =>
      rcases step_guestRead taken with ⟨_, rfl⟩
      exact readPort_ier source.com1 port
  | hostByte byte | hostRetry | hostEof | readerLoadIer
  | readerIrq succeeded =>
      simp only [step, readerStep] at taken
      split at taken <;> cases taken <;> rfl
  | guestWriteFailed byte | guestTestRx | guestLoadIer
  | guestIrq succeeded =>
      simp only [step, guestStep] at taken
      split at taken <;> cases taken <;> rfl

theorem arrivedBy_origin
    {source : Threads} {label : Label}
    (notHost : pushesHost label = false) (byte : UInt8) :
    (Origin.host, byte) ∉ arrivedBy source label := by
  cases label with
  | guestWrite port value =>
      cases port <;> simp [arrivedBy]
  | hostByte value => simp [pushesHost] at notHost
  | hostRetry | hostEof | readerLoadIer | readerIrq | guestRead
  | guestWriteFailed | guestTestRx | guestLoadIer | guestIrq =>
      simp [arrivedBy]

/-- A host byte waits after a step only if one waited or arrived. -/
theorem waiting_of_observe
    {source : Threads} {label : Label} {history : History}
    (notHost : pushesHost label = false)
    (waiting : HostByteWaiting (observe source label history)) :
    HostByteWaiting history := by
  rcases waiting with ⟨byte, member⟩
  simp only [observe, List.length_append, List.drop_append] at member
  rcases List.mem_append.mp member with old | new
  · exact ⟨byte,
      (List.drop_subset_drop_left _ (Nat.le_add_right _ _)) old⟩
  · exact absurd (List.mem_of_mem_drop new)
      (arrivedBy_origin notHost byte)

theorem armed_of_step
    {source target : Threads} {label : Label} {history : History}
    (notHost : pushesHost label = false)
    (unstored : storesIer source label = false)
    (taken : step source label = some target)
    (armed : Armed target (observe source label history)) :
    Armed source history := by
  refine ⟨?_, waiting_of_observe notHost armed.2⟩
  have enabled := armed.1
  rwa [Com1.isDataAvlSet, step_ier unstored taken] at enabled

/-- An empty buffer holds no byte of the host. -/
theorem not_waiting_of_empty
    {state : Threads} {history : History}
    (queue :
      history.delivered ++ state.com1.rxBuf =
        history.arrivals.map Prod.snd)
    (empty : state.com1.rxBuf = []) :
    ¬ HostByteWaiting history := by
  rintro ⟨byte, member⟩
  have lengths := congrArg List.length queue
  simp only [empty, List.append_nil, List.length_map] at lengths
  rw [lengths, List.drop_length] at member
  cases member

/-! ## The two halves of the invariant -/

/--
The reader's half: while it flaps, the line is low or has risen since the push;
once it is quiet, an armed state has risen since the push unless the guest has
stored the enable bit after it.
-/
structure ReaderSide (state : Threads) (history : History) : Prop where
  flapping :
    state.reader = .flapHigh →
      state.irqLevel = false ∨ RoseAfter history.lastHostPush history
  quiet :
    ReaderQuiet state.reader →
      Armed state history →
        RoseAfter history.lastHostPush history ∨
          Before history.lastHostPush history.lastIerStore

/-- The line has risen since the last store, or a host byte came after it. -/
def Settled (history : History) : Prop :=
  RoseAfter history.lastIerStore history ∨
    Before history.lastIerStore history.lastHostPush

/--
The guest's half: while it flaps for a store, the line is low or has risen since
that store; a test that found the buffer empty, and a finished store, leave no
unsettled host byte.
-/
structure GuestSide (state : Threads) (history : History) : Prop where
  flapping :
    state.guest = .flapHigh .ier →
      state.irqLevel = false ∨ RoseAfter history.lastIerStore history
  tested :
    state.guest = .ierLoadIer false →
      HostByteWaiting history → Settled history
  finished :
    ¬ WritingIer state.guest → Armed state history → Settled history

/-- The invariant of a run all of whose ioctls succeed. -/
structure WakeInvariant (state : Threads) (history : History) : Prop where
  clocked : Clocked history
  queue :
    history.delivered ++ state.com1.rxBuf = history.arrivals.map Prod.snd
  pushed : HostByteWaiting history → history.lastHostPush ≠ none
  reader : ReaderSide state history
  guest : GuestSide state history

/-! ## The reader's half is preserved -/

theorem observe_lastHostPush
    {source : Threads} {label : Label} {history : History}
    (notHost : pushesHost label = false) :
    (observe source label history).lastHostPush =
      history.lastHostPush := by
  simp [observe, notHost]

theorem observe_lastIerStore
    {source : Threads} {label : Label} {history : History}
    (unstored : storesIer source label = false) :
    (observe source label history).lastIerStore =
      history.lastIerStore := by
  simp [observe, unstored]

/-- A step which pushes nothing and does not advance a flap of the reader. -/
theorem ReaderSide.keep
    {source target : Threads} {label : Label} {history : History}
    (invariant : WakeInvariant source history)
    (taken : step source label = some target)
    (notHost : pushesHost label = false)
    (flapSame : target.reader = .flapHigh → source.reader = .flapHigh)
    (quietSame : ReaderQuiet target.reader → ReaderQuiet source.reader) :
    ReaderSide target (observe source label history) := by
  constructor
  case flapping =>
    intro flapping
    rw [observe_lastHostPush notHost]
    exact lowOrRose_step invariant.clocked.push taken
      (invariant.reader.flapping (flapSame flapping))
  case quiet =>
    intro quiet armed
    rw [observe_lastHostPush notHost]
    cases stores : storesIer source label with
    | true =>
        right
        rcases Option.ne_none_iff_exists'.mp
              (invariant.pushed (waiting_of_observe notHost armed.2)) with
          ⟨push, pushed⟩
        exact ⟨push, history.clock, pushed, by simp [observe, stores],
          invariant.clocked.push push pushed⟩
    | false =>
        rw [observe_lastIerStore stores]
        have sourceArmed := armed_of_step notHost stores taken armed
        rcases invariant.reader.quiet (quietSame quiet) sourceArmed with
          rose | before
        · exact Or.inl (rose.record invariant.clocked.push)
        · exact Or.inr before

theorem guest_keeps_reader
    {source target : Threads} {label : Label}
    (taken : guestStep source label = some target) :
    target.reader = source.reader := by
  cases label with
  | guestWrite port byte =>
      simp only [guestStep] at taken
      split at taken
      · cases taken
        cases port <;> simp only [Threads.beginWrite] <;> repeat' split
        all_goals rfl
      · cases taken
  | guestRead port value | guestWriteFailed byte | guestTestRx
  | guestLoadIer | guestIrq succeeded =>
      simp only [guestStep] at taken
      split at taken <;> cases taken <;> rfl
  | hostByte | hostRetry | hostEof | readerLoadIer | readerIrq =>
      cases taken

theorem readerSide_step
    {source target : Threads} {label : Label} {history : History}
    (invariant : WakeInvariant source history)
    (succeeds : label.IoctlSucceeds)
    (taken : step source label = some target) :
    ReaderSide target (observe source label history) := by
  cases label with
  | hostByte byte =>
      simp only [step, readerStep] at taken
      split at taken
      · cases taken
        exact ⟨fun flapping => by simp at flapping, False.elim⟩
      · cases taken
  | hostRetry =>
      have stepped := taken
      simp only [step, readerStep] at stepped
      split at stepped
      · cases stepped
        exact ReaderSide.keep invariant taken rfl id id
      · cases stepped
  | hostEof =>
      have stepped := taken
      simp only [step, readerStep] at stepped
      split at stepped
      · rename_i blocked
        cases stepped
        exact ReaderSide.keep invariant taken rfl
          (fun flapping => by simp at flapping)
          (fun _ => by rw [blocked]; trivial)
      · cases stepped
  | readerLoadIer =>
      simp only [step, readerStep] at taken
      split at taken
      · cases taken
        constructor
        case flapping =>
          intro flapping
          simp only at flapping
          split at flapping <;> cases flapping
        case quiet =>
          intro quiet armed
          rw [show source.com1.isDataAvlSet = true from armed.1] at quiet
          exact quiet.elim
      · cases taken
  | readerIrq succeeded =>
      cases (show succeeded = true from succeeds)
      have stepped := taken
      simp only [step, readerStep] at stepped
      split at stepped
      · cases stepped
        exact ⟨fun _ => Or.inl rfl, False.elim⟩
      · rename_i flapping _
        cases stepped
        have lowOrRose :=
          lowOrRose_step invariant.clocked.push taken
            (invariant.reader.flapping flapping)
        refine ⟨fun blocked => by simp at blocked, fun _ _ => ?_⟩
        rw [observe_lastHostPush rfl]
        exact Or.inl (lowOrRose.resolve_left (by simp))
      · rename_i failed
        cases failed
      · rename_i failed
        cases failed
      · cases stepped
  | guestRead | guestWrite | guestWriteFailed | guestTestRx
  | guestLoadIer | guestIrq =>
      have stepped := taken
      simp only [step] at stepped
      have same := guest_keeps_reader stepped
      exact ReaderSide.keep invariant taken rfl
        (fun flapping => same ▸ flapping) (fun quiet => same ▸ quiet)

/-! ## The guest's half is preserved -/

theorem Settled.record
    {source : Threads} {label : Label} {history : History}
    (clocked : Clocked history)
    (notHost : pushesHost label = false)
    (unstored : storesIer source label = false)
    (settled : Settled history) :
    Settled (observe source label history) := by
  rw [Settled, observe_lastHostPush notHost, observe_lastIerStore unstored]
  rcases settled with rose | before
  · exact Or.inl (rose.record clocked.store)
  · exact Or.inr before

/-- A host byte settles everything stored before it: its own flap follows. -/
theorem settled_of_hostByte
    (source : Threads) (byte : UInt8) {history : History}
    (clocked : Clocked history) :
    Settled (observe source (.hostByte byte) history) := by
  rw [Settled, observe_lastIerStore rfl]
  cases stored : history.lastIerStore with
  | none =>
      left
      intro time impossible
      cases impossible
  | some store =>
      right
      exact ⟨store, history.clock, rfl, rfl, clocked.store store stored⟩

/-- A step which does not advance a flap or a store of the guest. -/
theorem GuestSide.keep
    {source target : Threads} {label : Label} {history : History}
    (invariant : WakeInvariant source history)
    (taken : step source label = some target)
    (notHost : pushesHost label = false)
    (unstored : storesIer source label = false)
    (flapSame :
      target.guest = .flapHigh .ier → source.guest = .flapHigh .ier)
    (testSame :
      target.guest = .ierLoadIer false →
        source.guest = .ierLoadIer false)
    (doneSame : ¬ WritingIer target.guest → ¬ WritingIer source.guest) :
    GuestSide target (observe source label history) := by
  constructor
  case flapping =>
    intro flapping
    rw [observe_lastIerStore unstored]
    exact lowOrRose_step invariant.clocked.store taken
      (invariant.guest.flapping (flapSame flapping))
  case tested =>
    intro tested waiting
    have settled :=
      invariant.guest.tested (testSame tested)
        (waiting_of_observe notHost waiting)
    exact settled.record invariant.clocked notHost unstored
  case finished =>
    intro done armed
    have settled :=
      invariant.guest.finished (doneSame done)
        (armed_of_step notHost unstored taken armed)
    exact settled.record invariant.clocked notHost unstored

theorem reader_keeps_guest
    {source target : Threads} {label : Label}
    (taken : readerStep source label = some target) :
    target.guest = source.guest := by
  cases label with
  | hostByte byte | hostRetry | hostEof | readerLoadIer
  | readerIrq succeeded =>
      simp only [readerStep] at taken
      split at taken <;> cases taken <;> rfl
  | guestWrite | guestRead | guestWriteFailed | guestTestRx
  | guestLoadIer | guestIrq =>
      cases taken

/-- The first step of a write other than a store leaves the guest outside one. -/
theorem beginWrite_guest
    (source : Threads) (port : Com1Port) (byte : UInt8)
    (idle : source.guest = .idle)
    (unstored : storesIer source (.guestWrite port byte) = false) :
    (source.beginWrite byte port).guest = .idle ∨
      (source.beginWrite byte port).guest = .thrLoadIer := by
  cases port with
  | thrRbrDll =>
      cases dlab : source.com1.isDlabSet <;>
        cases loop : source.com1.isLoopSet <;>
        simp [Threads.beginWrite, dlab, loop, idle]
  | ierDlh =>
      have dlab : source.com1.isDlabSet = true := by
        simpa [storesIer] using unstored
      simp [Threads.beginWrite, dlab, idle]
  | iirFcr | lcr | mcr | lsr | msr | sr =>
      simp [Threads.beginWrite, idle]

theorem beginWrite_store
    {source : Threads} {port : Com1Port} {byte : UInt8}
    (stores : storesIer source (.guestWrite port byte) = true) :
    (source.beginWrite byte port).guest = .ierTestRx := by
  cases port with
  | ierDlh =>
      have dlab : source.com1.isDlabSet = false := by
        simpa [storesIer] using stores
      simp [Threads.beginWrite, dlab]
  | thrRbrDll | iirFcr | lcr | mcr | lsr | msr | sr =>
      simp [storesIer] at stores

/-- While the guest stores, only its flap and its test carry an obligation. -/
theorem GuestSide.of_writing
    {state : Threads} {history : History}
    (writing : WritingIer state.guest)
    (flapping :
      state.guest = .flapHigh .ier →
        state.irqLevel = false ∨ RoseAfter history.lastIerStore history)
    (tested :
      state.guest = .ierLoadIer false →
        HostByteWaiting history → Settled history) :
    GuestSide state history :=
  ⟨flapping, tested, fun done => absurd writing done⟩

theorem guestSide_hostByte
    {source target : Threads} {byte : UInt8} {history : History}
    (invariant : WakeInvariant source history)
    (taken : step source (.hostByte byte) = some target) :
    GuestSide target (observe source (.hostByte byte) history) := by
  have stepped := taken
  simp only [step] at stepped
  have same := reader_keeps_guest stepped
  have settled := settled_of_hostByte source byte invariant.clocked
  constructor
  case flapping =>
    intro flapping
    rw [observe_lastIerStore rfl]
    exact lowOrRose_step invariant.clocked.store taken
      (invariant.guest.flapping (same ▸ flapping))
  case tested => exact fun _ _ => settled
  case finished => exact fun _ _ => settled

theorem guestSide_write
    {source target : Threads} {port : Com1Port} {byte : UInt8}
    {history : History}
    (invariant : WakeInvariant source history)
    (taken : step source (.guestWrite port byte) = some target) :
    GuestSide target (observe source (.guestWrite port byte) history) := by
  have stepped := taken
  simp only [step, guestStep] at stepped
  split at stepped
  case isTrue idle =>
    cases stepped
    cases stores : storesIer source (.guestWrite port byte) with
    | true =>
        have storing := beginWrite_store stores
        apply GuestSide.of_writing <;> rw [storing]
        · trivial
        · intro flapping
          cases flapping
        · intro tested
          cases tested
    | false =>
        have outside :=
          beginWrite_guest source port byte idle stores
        apply GuestSide.keep invariant taken rfl stores
        · intro flapping
          rcases outside with idle | loading <;> simp_all
        · intro tested
          rcases outside with idle | loading <;> simp_all
        · intro _
          rw [idle]
          exact id
  case isFalse => cases stepped

/-- The test under the lock: an empty buffer holds no byte of the host. -/
theorem guestSide_testRx
    {source target : Threads} {history : History}
    (invariant : WakeInvariant source history)
    (taken : step source .guestTestRx = some target) :
    GuestSide target (observe source .guestTestRx history) := by
  simp only [step, guestStep] at taken
  split at taken
  case isTrue testing =>
    cases taken
    apply GuestSide.of_writing
    · trivial
    · intro flapping
      cases flapping
    · intro tested waiting
      have empty : source.com1.rxBuf = [] := by
        simpa [Com1.rxPending] using tested
      exact absurd (waiting_of_observe rfl waiting)
        (not_waiting_of_empty invariant.queue empty)
  case isFalse => cases taken

/-- The load of the enable bit which decides whether a write flaps. -/
theorem guestSide_loadIer
    {source target : Threads} {history : History}
    (invariant : WakeInvariant source history)
    (taken : step source .guestLoadIer = some target) :
    GuestSide target (observe source .guestLoadIer history) := by
  have stepped := taken
  simp only [step, guestStep] at stepped
  split at stepped
  case h_1 loading =>
    cases stepped
    apply GuestSide.keep invariant taken rfl rfl
    · intro flapping
      simp only at flapping
      split at flapping <;> cases flapping
    · intro tested
      simp only at tested
      split at tested <;> cases tested
    · intro _
      rw [loading]
      exact id
  case h_2 rxPending loading =>
    cases stepped
    cases raise : source.com1.shouldRaise rxPending with
    | true =>
        apply GuestSide.of_writing
        · simp only [if_pos]
          trivial
        · intro flapping
          cases flapping
        · intro tested
          cases tested
    | false =>
        constructor
        case flapping =>
          intro flapping
          cases flapping
        case tested =>
          intro tested
          cases tested
        case finished =>
          intro _ armed
          have enabled : source.com1.isDataAvlSet = true := armed.1
          have foundEmpty : rxPending = false := by
            cases rxPending with
            | false => rfl
            | true => simp [Com1.shouldRaise, enabled] at raise
          subst foundEmpty
          have settled :=
            invariant.guest.tested loading
              (waiting_of_observe rfl armed.2)
          exact settled.record invariant.clocked rfl rfl
  case h_3 => cases stepped

theorem guestSide_irq
    {source target : Threads} {history : History}
    (invariant : WakeInvariant source history)
    (taken : step source (.guestIrq true) = some target) :
    GuestSide target (observe source (.guestIrq true) history) := by
  have stepped := taken
  simp only [step, guestStep] at stepped
  split at stepped
  case h_1 origin lowering _ =>
    cases stepped
    cases origin with
    | thr =>
        apply GuestSide.keep invariant taken rfl rfl
        · intro flapping
          cases flapping
        · intro tested
          cases tested
        · intro _
          rw [lowering]
          exact id
    | ier =>
        apply GuestSide.of_writing
        · trivial
        · exact fun _ => Or.inl rfl
        · intro tested
          cases tested
  case h_2 origin raising _ =>
    cases stepped
    cases origin with
    | thr =>
        apply GuestSide.keep invariant taken rfl rfl
        · intro flapping
          cases flapping
        · intro tested
          cases tested
        · intro _
          rw [raising]
          exact id
    | ier =>
        have lowOrRose :=
          lowOrRose_step invariant.clocked.store taken
            (invariant.guest.flapping raising)
        constructor
        case flapping =>
          intro flapping
          cases flapping
        case tested =>
          intro tested
          cases tested
        case finished =>
          intro _ _
          left
          rw [observe_lastIerStore rfl]
          exact lowOrRose.resolve_left (by simp)
  case h_3 failed => cases failed
  case h_4 failed => cases failed
  case h_5 => cases stepped

theorem guestSide_step
    {source target : Threads} {label : Label} {history : History}
    (invariant : WakeInvariant source history)
    (succeeds : label.IoctlSucceeds)
    (taken : step source label = some target) :
    GuestSide target (observe source label history) := by
  cases label with
  | hostByte byte => exact guestSide_hostByte invariant taken
  | guestWrite port byte => exact guestSide_write invariant taken
  | guestTestRx => exact guestSide_testRx invariant taken
  | guestLoadIer => exact guestSide_loadIer invariant taken
  | guestIrq succeeded =>
      cases (show succeeded = true from succeeds)
      exact guestSide_irq invariant taken
  | hostRetry | hostEof | readerLoadIer | readerIrq =>
      have stepped := taken
      simp only [step] at stepped
      have same := reader_keeps_guest stepped
      exact GuestSide.keep invariant taken rfl rfl
        (fun flapping => same ▸ flapping) (fun tested => same ▸ tested)
        (fun done => same ▸ done)
  | guestRead port value =>
      rcases step_guestRead taken with ⟨_, equal⟩
      have same : target.guest = source.guest := by rw [equal]
      exact GuestSide.keep invariant taken rfl rfl
        (fun flapping => same ▸ flapping) (fun tested => same ▸ tested)
        (fun done => same ▸ done)
  | guestWriteFailed byte =>
      have stepped := taken
      simp only [step, guestStep] at stepped
      split at stepped
      · cases stepped
        exact GuestSide.keep invariant taken rfl rfl id id id
      · cases stepped

/-! ## Whole runs -/

theorem pushed_of_step
    {source : Threads} {label : Label} {history : History}
    (invariant : WakeInvariant source history)
    (waiting : HostByteWaiting (observe source label history)) :
    (observe source label history).lastHostPush ≠ none := by
  cases host : pushesHost label with
  | true => simp [observe, host]
  | false =>
      rw [observe_lastHostPush host]
      exact invariant.pushed (waiting_of_observe host waiting)

/-- One step preserves the invariant. -/
theorem WakeInvariant.step
    {source target : Threads} {label : Label} {history : History}
    (invariant : WakeInvariant source history)
    (succeeds : label.IoctlSucceeds)
    (taken : Com1Threads.step source label = some target) :
    WakeInvariant target (observe source label history) where
  clocked := invariant.clocked.record
  queue := by
    simp only [observe, List.map_append, List.append_assoc]
    rw [step_queue taken, ← List.append_assoc, invariant.queue]
  pushed := pushed_of_step invariant
  reader := readerSide_step invariant succeeds taken
  guest := guestSide_step invariant succeeds taken

theorem not_armed_fresh (irqLevel : Bool) (history : History) :
    ¬ Armed (fresh irqLevel) history := by
  rintro ⟨enabled, _⟩
  simp [fresh, Com1.isDataAvlSet, anySet] at enabled

theorem wakeInvariant_fresh (irqLevel : Bool) :
    WakeInvariant (fresh irqLevel) {} where
  clocked := by constructor <;> intro time impossible <;> cases impossible
  queue := rfl
  pushed := by
    rintro ⟨byte, member⟩
    cases member
  reader :=
    ⟨fun flapping => (by cases flapping),
      fun _ armed => absurd armed (not_armed_fresh irqLevel {})⟩
  guest :=
    ⟨fun flapping => (by cases flapping), fun tested => (by cases tested),
      fun _ armed => absurd armed (not_armed_fresh irqLevel {})⟩

/-- The invariant holds in every state a run reaches. -/
theorem wakeInvariant_run
    {irqLevel : Bool} {labels : List Label}
    {state : Threads} {history : History}
    (run : ObservedRun irqLevel labels state history)
    (succeed : ∀ label ∈ labels, label.IoctlSucceeds) :
    WakeInvariant state history := by
  refine run.invariant_of_labels
    (fun reached => WakeInvariant reached.1 reached.2)
    Label.IoctlSucceeds (wakeInvariant_fresh irqLevel) ?_ succeed
  intro source label next succeeds invariant taken
  rcases observed_eq_some_iff.mp taken with ⟨stepped, recorded⟩
  rw [← recorded]
  exact invariant.step succeeds stepped

/--
No receive interrupt is lost: with both threads outside their critical stretches,
an enabled interrupt and a waiting host byte, IRQ 4 has gone from low to high
after the later of the last push and the last store to the enable register.
-/
theorem receive_interrupt_not_lost
    {irqLevel : Bool} {labels : List Label}
    {state : Threads} {history : History}
    (run : ObservedRun irqLevel labels state history)
    (succeed : ∀ label ∈ labels, label.IoctlSucceeds)
    (readerQuiet : ReaderQuiet state.reader)
    (notStoring : ¬ WritingIer state.guest)
    (enabled : state.com1.isDataAvlSet = true)
    (waiting : HostByteWaiting history) :
    ∃ rise, history.lastRise = some rise ∧
      (∀ push, history.lastHostPush = some push → push < rise) ∧
        (∀ store, history.lastIerStore = some store → store < rise) := by
  have invariant := wakeInvariant_run run succeed
  have armed : Armed state history := ⟨enabled, waiting⟩
  have settled := invariant.guest.finished notStoring armed
  rcases Option.ne_none_iff_exists'.mp (invariant.pushed waiting) with
    ⟨push, pushed⟩
  rcases invariant.reader.quiet readerQuiet armed with rosePush | pushFirst
  · rcases rosePush push pushed with ⟨rise, riseRecorded, afterPush⟩
    refine ⟨rise, riseRecorded, ?_, ?_⟩
    · intro time recorded
      cases pushed.symm.trans recorded
      exact afterPush
    · intro store stored
      rcases settled with roseStore | storeFirst
      · rcases roseStore store stored with ⟨again, againRecorded, afterStore⟩
        cases riseRecorded.symm.trans againRecorded
        exact afterStore
      · rcases storeFirst with ⟨early, late, earlyStored, latePushed, ordered⟩
        cases stored.symm.trans earlyStored
        cases pushed.symm.trans latePushed
        exact Nat.lt_trans ordered afterPush
  · rcases pushFirst with ⟨early, late, earlyPushed, lateStored, ordered⟩
    rcases settled with roseStore | storeFirst
    · rcases roseStore late lateStored with ⟨rise, riseRecorded, afterStore⟩
      refine ⟨rise, riseRecorded, ?_, ?_⟩
      · intro time recorded
        cases earlyPushed.symm.trans recorded
        exact Nat.lt_trans ordered afterStore
      · intro time recorded
        cases lateStored.symm.trans recorded
        exact afterStore
    · rcases storeFirst with
        ⟨first, second, firstStored, secondPushed, reversed⟩
      cases lateStored.symm.trans firstStored
      cases earlyPushed.symm.trans secondPushed
      exact absurd ordered (Nat.lt_asymm reversed)

/--
Two flaps of which only the reader's second half makes an edge: the store at
time 1 is answered by the rise at time 7.
-/
theorem receive_interrupt_not_lost_overlapping :
    ∃ rise, some 7 = some rise ∧
      (∀ push, some 0 = some push → push < rise) ∧
        (∀ store, some 1 = some store → store < rise) := by
  have run :
      ObservedRun false
        [.hostByte 0x41, .guestWrite .ierDlh 1, .readerLoadIer,
          .readerIrq true, .guestTestRx, .guestLoadIer, .guestIrq true,
          .readerIrq true, .guestIrq true]
        { com1 := { ier := 1, rxBuf := [0x41] }, stdout := [],
          irqLevel := true, guest := .idle, reader := .blocked }
        { clock := 9, arrivals := [(.host, 0x41)],
          lastHostPush := some 0, lastIerStore := some 1,
          lastRise := some 7 } :=
    Run.iff_foldlM.mpr rfl
  exact receive_interrupt_not_lost run (by simp [Label.IoctlSucceeds])
    trivial id rfl ⟨0x41, by simp⟩

end Lvmm.Device.Com1Interrupt
