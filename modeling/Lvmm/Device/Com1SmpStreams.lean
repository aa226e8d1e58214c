import Lvmm.Library.Dispatch
import Lvmm.Device.Com1SmpInterrupts

/-!
# Byte streams of COM1 with any number of virtual CPUs

The bytes the CPUs write and the bytes the host sends go through two queues, the
standard output and the receive buffer.  Which of the two a byte goes to depends on
a register that any CPU may change between the loads of another one's access, and
no system call has to succeed.
-/

namespace Lvmm.Device.Com1SmpStreams

open Lvmm.Vm.SysCall
open Lvmm.Device.Com1Device
open Lvmm.Device.Com1Threads (ReaderPc)
open Lvmm.Device.Com1Smp
open Lvmm.Device.Com1SmpInterrupts
open Lvmm.Device.Com1SmpMoves
open Lvmm.Library.Dispatch
open Lvmm.Library.LabelledRun

/-! ## One access -/

/-- The byte a transmitter write has not yet passed on. -/
def pendingByte : Pc → Option UInt8
  | .thrLoadLcr byte => some byte
  | .thrLoadMcr byte => some byte
  | .thrPush byte => some byte
  | .thrWrite byte => some byte
  | _ => none

/-- The byte an access is about to store in the line control register. -/
def lcrByte : Pc → Option UInt8
  | .registerStore .lcr byte => some byte
  | _ => none

/-- How a step of a CPU deals with the byte of a transmitter write. -/
inductive ByteMove (shared : Shared) (answers : Answers) :
    Effect → Option UInt8 → Option UInt8 → Prop where
  | keep {effect : Effect} {pending : Option UInt8}
      (unsent : effect.sent = []) (unpushed : effect.pushed = []) :
      ByteMove shared answers effect pending pending
  | send (byte : UInt8) :
      ByteMove shared answers (.transmit byte) (some byte) none
  | loop (byte : UInt8) :
      ByteMove shared answers (.push byte) (some byte) none
  | latch (byte : UInt8) (dlab : shared.com1.isDlabSet = true) :
      ByteMove shared answers .nothing (some byte) none
  | fail (byte : UInt8) (failed : ¬ answers.write.Succeeded) :
      ByteMove shared answers .nothing (some byte) none

section Access

variable {shared : Shared} {answers : Answers} {pc next : Pc}
variable {effect : Effect}

theorem byteMove_of_step
    (taken : pc.step shared answers = some (effect, next)) :
    ByteMove shared answers effect (pendingByte pc) (pendingByte next) := by
  cases pc with
  | returned => cases taken
  | rbrPop | ierLoad | iirTestRx | iirLoadThrEmpty | iirLoadFcr | lcrLoad
  | mcrLoad | lsrTestRx | msrLoadDtr | msrLoadRts | msrLoadOut1
  | msrLoadOut2 | srLoad | dllStore | dlhStore | registerStore | ierStore
  | ierTestRx =>
      cases taken
      exact .keep rfl rfl
  | rbrLoadLcr | ierLoadLcr | iirLoadDataAvl | msrLoadLoop | dlhLoadLcr
  | ierLoadThrEmpty =>
      cases taken
      split <;> exact .keep rfl rfl
  | thrLoadLcr byte =>
      cases taken
      cases dlab : shared.com1.isDlabSet with
      | true => exact .latch byte dlab
      | false => exact .keep rfl rfl
  | thrLoadMcr byte =>
      cases taken
      split <;> exact .keep rfl rfl
  | thrPush byte =>
      cases taken
      exact .loop byte
  | thrWrite byte =>
      simp only [Pc.step] at taken
      split at taken
      · cases taken
        exact .send byte
      · rename_i failed
        cases taken
        exact .fail byte failed
  | thrLoadIer | ierLoadDataAvl =>
      cases taken
      simp only [Pc.flapIf]
      split <;> exact .keep rfl rfl
  | flapLow origin | flapHigh origin =>
      simp only [Pc.step] at taken
      split at taken <;> cases taken <;> exact .keep rfl rfl

/-- The line control register changes by the byte an access brought to it. -/
theorem lcr_of_step
    (taken : pc.step shared answers = some (effect, next)) :
    ((effect.apply shared).com1.lcr = shared.com1.lcr ∨
        lcrByte pc = some (effect.apply shared).com1.lcr) ∧
      lcrByte next = none := by
  cases pc with
  | returned => cases taken
  | rbrPop | ierLoad | iirTestRx | iirLoadThrEmpty | iirLoadFcr | lcrLoad
  | mcrLoad | lsrTestRx | msrLoadDtr | msrLoadRts | msrLoadOut1
  | msrLoadOut2 | srLoad | dllStore | dlhStore | ierStore | ierTestRx
  | thrPush =>
      cases taken
      exact ⟨.inl rfl, rfl⟩
  | rbrLoadLcr | ierLoadLcr | iirLoadDataAvl | msrLoadLoop | dlhLoadLcr
  | ierLoadThrEmpty | thrLoadLcr | thrLoadMcr =>
      cases taken
      refine ⟨.inl rfl, ?_⟩
      split <;> rfl
  | registerStore port byte =>
      cases taken
      cases port with
      | lcr => exact ⟨.inr rfl, rfl⟩
      | thrRbrDll | ierDlh | iirFcr | mcr | lsr | msr | sr =>
          exact ⟨.inl rfl, rfl⟩
  | thrLoadIer | ierLoadDataAvl =>
      cases taken
      refine ⟨.inl rfl, ?_⟩
      simp only [Pc.flapIf]
      split <;> rfl
  | thrWrite byte =>
      simp only [Pc.step] at taken
      split at taken <;> cases taken <;> exact ⟨.inl rfl, rfl⟩
  | flapLow origin | flapHigh origin =>
      simp only [Pc.step] at taken
      split at taken <;> cases taken <;> exact ⟨.inl rfl, rfl⟩

end Access

/-! ## Who produced what -/

variable {Cpu : Type*}

/-- The bytes of one thread among recorded ones. -/
def bytesOf [DecidableEq Cpu]
    (author : Option Cpu) (entries : List (Option Cpu × UInt8)) :
    List UInt8 :=
  entries.filterMap fun entry =>
    if entry.1 = author then some entry.2 else none

/-- The byte a step takes from the host. -/
def hostByte : Label Cpu → Option UInt8
  | .host (.byte byte) => some byte
  | _ => none

/-- The byte a CPU begins to write to the transmitter. -/
def thrByte [DecidableEq Cpu] (cpu : Cpu) : Label Cpu → Option UInt8
  | .begin author (.write .thrRbrDll byte) =>
      if author = cpu then some byte else none
  | _ => none

/-- The step opens no divisor latch, and its `write` succeeds if it makes one. -/
def KeepsBytes : Label Cpu → Prop
  | .begin _ (.write .lcr byte) => anySet byte com1RegLcrDlab = false
  | .advance _ answers => answers.write.Succeeded
  | _ => True

/-- No step of a run can lose a byte. -/
def Lossless (labels : List (Label Cpu)) : Prop :=
  ∀ label ∈ labels, KeepsBytes label

/-- The divisor latch is closed, and no access is about to open it. -/
def LatchClosed (state : Smp Cpu) : Prop :=
  state.shared.com1.isDlabSet = false ∧
    ∀ cpu byte, lcrByte (state.cpus cpu) = some byte →
      anySet byte com1RegLcrDlab = false

/--
Every byte a CPU began to write is pending, or went to the standard output, to the
receive buffer or nowhere.
-/
def Accounted [DecidableEq Cpu]
    (labels : List (Label Cpu)) (state : Smp Cpu) (history : History Cpu)
    (cpu : Cpu) : Prop :=
  ∃ passed,
    labels.filterMap (thrByte cpu) =
        passed ++ (pendingByte (state.cpus cpu)).toList ∧
      Dispatched (Lossless labels) passed
        (bytesOf (some cpu) history.transmitted)
        (bytesOf (some cpu) history.arrivals)

/-- What relates the labels of a run to its state and history. -/
structure Ledger [DecidableEq Cpu]
    (labels : List (Label Cpu)) (state : Smp Cpu) (history : History Cpu) :
    Prop where
  stdout : state.shared.stdout = history.transmitted.map Prod.snd
  queue :
    history.delivered.map Prod.snd ++ state.shared.com1.rxBuf =
      history.arrivals.map Prod.snd
  host : bytesOf none history.arrivals = labels.filterMap hostByte
  reader : bytesOf none history.transmitted = []
  latch : Lossless labels → LatchClosed state
  cpus : ∀ cpu, Accounted labels state history cpu

/-- How the bytes of a run flow. -/
structure ByteStreams [DecidableEq Cpu]
    (labels : List (Label Cpu)) (state : Smp Cpu) (history : History Cpu) :
    Prop where
  /-- The standard output is what the CPUs sent. -/
  stdout : state.shared.stdout = history.transmitted.map Prod.snd
  /-- The receive buffer is a queue from those who push to those who take. -/
  queue :
    history.delivered.map Prod.snd ++ state.shared.com1.rxBuf =
      history.arrivals.map Prod.snd
  /-- The bytes of the host are pushed in the order they came. -/
  host : bytesOf none history.arrivals = labels.filterMap hostByte
  /-- The reader sends nothing. -/
  reader : bytesOf none history.transmitted = []
  /-- A CPU's bytes are sent or looped back in their order, none of them twice. -/
  cpus : ∀ cpu,
    (bytesOf (some cpu) history.transmitted).Sublist
        (labels.filterMap (thrByte cpu)) ∧
      (bytesOf (some cpu) history.arrivals).Sublist
        (labels.filterMap (thrByte cpu)) ∧
      (bytesOf (some cpu) history.transmitted ++
          bytesOf (some cpu) history.arrivals).Subperm
        (labels.filterMap (thrByte cpu))

section Steps

variable {source target : Smp Cpu} {label : Label Cpu}
variable {labels : List (Label Cpu)} {history : History Cpu}
variable {shared : Shared} {effect : Effect}

theorem Lossless.before (lossless : Lossless (labels ++ [label])) :
    Lossless labels :=
  fun earlier member => lossless earlier (List.mem_append_left _ member)

theorem Lossless.last (lossless : Lossless (labels ++ [label])) :
    KeepsBytes label :=
  lossless label (by simp)

theorem filterMap_snoc {Item : Type*} (choose : Label Cpu → Option Item) :
    (labels ++ [label]).filterMap choose =
      labels.filterMap choose ++ (choose label).toList := by
  cases chosen : choose label <;> simp [chosen]

variable [DecidableEq Cpu]

theorem bytesOf_append
    (thread author : Option Cpu) (entries : List (Option Cpu × UInt8))
    (bytes : List UInt8) :
    bytesOf thread (entries ++ bytes.map fun byte => (author, byte)) =
      bytesOf thread entries ++ if author = thread then bytes else [] := by
  by_cases same : author = thread
  · subst same
    simp [bytesOf, List.filterMap_append, List.filterMap_map]
  · simp [bytesOf, List.filterMap_append, List.filterMap_map, same]

/-- The author of a step sends and pushes what its effect says. -/
theorem bytesOf_record_own (author : Option Cpu) :
    bytesOf author (history.record author shared effect).transmitted =
        bytesOf author history.transmitted ++ effect.sent ∧
      bytesOf author (history.record author shared effect).arrivals =
        bytesOf author history.arrivals ++ effect.pushed := by
  simp [History.record, bytesOf_append]

/-- Another thread sends and pushes nothing. -/
theorem bytesOf_record_other
    {thread author : Option Cpu} (different : author ≠ thread) :
    bytesOf thread (history.record author shared effect).transmitted =
        bytesOf thread history.transmitted ∧
      bytesOf thread (history.record author shared effect).arrivals =
        bytesOf thread history.arrivals := by
  simp [History.record, bytesOf_append, different]

/-- A step that sends and pushes nothing of a CPU leaves its account alone. -/
theorem Accounted.keep
    {cpu : Cpu} (accounted : Accounted labels source history cpu)
    (unwritten : thrByte cpu label = none)
    (pending :
      pendingByte (target.cpus cpu) = pendingByte (source.cpus cpu))
    (bytes :
      bytesOf (some cpu) (observe source label history).transmitted =
          bytesOf (some cpu) history.transmitted ∧
        bytesOf (some cpu) (observe source label history).arrivals =
          bytesOf (some cpu) history.arrivals) :
    Accounted (labels ++ [label]) target (observe source label history)
      cpu := by
  rcases accounted with ⟨passed, written, dispatched⟩
  refine ⟨passed, ?_, ?_⟩
  · rw [filterMap_snoc, unwritten, pending, written]
    simp
  · rw [bytes.1, bytes.2]
    exact dispatched.weaken Lossless.before

/-- The beginning of an access puts its byte, if it has one, on account. -/
theorem Accounted.begin
    {cpu : Cpu} {access : Access}
    (accounted : Accounted labels source history cpu)
    (idle : pendingByte (source.cpus cpu) = none)
    (entered : target.cpus cpu = access.entry)
    (silent : effectOf source (.begin cpu access) = .nothing) :
    Accounted (labels ++ [.begin cpu access]) target
      (observe source (.begin cpu access) history) cpu := by
  rcases accounted with ⟨passed, written, dispatched⟩
  have bytes :
      bytesOf (some cpu)
            (observe source (.begin cpu access) history).transmitted =
          bytesOf (some cpu) history.transmitted ++ [] ∧
        bytesOf (some cpu)
            (observe source (.begin cpu access) history).arrivals =
          bytesOf (some cpu) history.arrivals ++ [] := by
    rw [observe, silent]
    exact bytesOf_record_own (some cpu)
  have added :
      thrByte cpu (.begin cpu access) = pendingByte access.entry := by
    cases access with
    | read port => cases port <;> rfl
    | write port byte =>
        cases port <;> simp [thrByte, pendingByte, Access.entry]
  refine ⟨passed, ?_, ?_⟩
  · rw [filterMap_snoc, added, entered, written, idle]
    simp
  · rw [bytes.1, bytes.2, List.append_nil, List.append_nil]
    exact dispatched.weaken Lossless.before

/-- A step of an access passes its byte on, drops it or keeps it. -/
theorem Accounted.advance
    {cpu : Cpu} {answers : Answers} {effect : Effect}
    (accounted : Accounted labels source history cpu)
    (latch : Lossless labels → LatchClosed source)
    (effect_eq : effectOf source (.advance cpu answers) = effect)
    (moved :
      ByteMove source.shared answers effect
        (pendingByte (source.cpus cpu)) (pendingByte (target.cpus cpu))) :
    Accounted (labels ++ [.advance cpu answers]) target
      (observe source (.advance cpu answers) history) cpu := by
  have bytes :
      bytesOf (some cpu)
            (observe source (.advance cpu answers) history).transmitted =
          bytesOf (some cpu) history.transmitted ++ effect.sent ∧
        bytesOf (some cpu)
            (observe source (.advance cpu answers) history).arrivals =
          bytesOf (some cpu) history.arrivals ++ effect.pushed := by
    rw [observe, effect_eq]
    exact bytesOf_record_own (some cpu)
  generalize before : pendingByte (source.cpus cpu) = pending at moved
  generalize after : pendingByte (target.cpus cpu) = left at moved
  have kept (unsent : effect.sent = []) (unpushed : effect.pushed = [])
      (same : left = pending) :
      Accounted (labels ++ [.advance cpu answers]) target
        (observe source (.advance cpu answers) history) cpu := by
    refine accounted.keep rfl (after.trans (same.trans before.symm)) ?_
    rw [bytes.1, bytes.2, unsent, unpushed]
    simp
  rcases accounted with ⟨passed, written, dispatched⟩
  rw [before] at written
  have spent (byte : UInt8) (handed : pending = some byte) (done : left = none)
      (moved :
        Dispatched (Lossless (labels ++ [.advance cpu answers]))
          (passed ++ [byte])
          (bytesOf (some cpu) history.transmitted ++ effect.sent)
          (bytesOf (some cpu) history.arrivals ++ effect.pushed)) :
      Accounted (labels ++ [.advance cpu answers]) target
        (observe source (.advance cpu answers) history) cpu := by
    refine ⟨passed ++ [byte], ?_, ?_⟩
    · rw [filterMap_snoc, written, after, handed, done]
      simp [thrByte]
    · rw [bytes.1, bytes.2]
      exact moved
  have weakened :
      Dispatched (Lossless (labels ++ [.advance cpu answers])) passed
        (bytesOf (some cpu) history.transmitted)
        (bytesOf (some cpu) history.arrivals) :=
    dispatched.weaken Lossless.before
  cases moved with
  | keep unsent unpushed => exact kept unsent unpushed rfl
  | send byte =>
      refine spent byte rfl rfl ?_
      simpa [Effect.sent, Effect.pushed] using weakened.toLeft byte
  | loop byte =>
      refine spent byte rfl rfl ?_
      simpa [Effect.sent, Effect.pushed] using weakened.toRight byte
  | latch byte dlab =>
      have lossy : ¬ Lossless (labels ++ [.advance cpu answers]) := by
        intro lossless
        have closed := (latch lossless.before).1
        exact absurd (closed.symm.trans dlab) Bool.false_ne_true
      refine spent byte rfl rfl ?_
      simpa [Effect.sent, Effect.pushed] using dispatched.drop byte lossy
  | fail byte failed =>
      have lossy : ¬ Lossless (labels ++ [.advance cpu answers]) :=
        fun lossless => failed lossless.last
      refine spent byte rfl rfl ?_
      simpa [Effect.sent, Effect.pushed] using dispatched.drop byte lossy

/-! ## Whole runs -/

/-- What the reader does to the bytes and to the line control register. -/
theorem bytes_of_reader
    (author : label.author = none)
    (taken : step source label = some target) :
    (effectOf source label).sent = [] ∧
      (effectOf source label).pushed = (hostByte label).toList ∧
      target.shared.com1.lcr = source.shared.com1.lcr ∧
      target.cpus = source.cpus := by
  rw [step_shared taken]
  cases label with
  | begin | advance => cases author
  | host result =>
      rcases host_of_step taken with ⟨_, effect, _, cpus⟩
      rw [effect]
      cases result <;> exact ⟨rfl, rfl, rfl, cpus⟩
  | reader answers =>
      rcases reader_of_step taken with ⟨stepped, cpus⟩
      generalize effectOf source (.reader answers) = effect at stepped
      generalize target.reader = after at stepped
      cases reader : source.reader with
      | blocked | returned =>
          rw [reader] at stepped
          cases stepped
      | loadIer =>
          rw [reader] at stepped
          cases stepped
          exact ⟨rfl, rfl, rfl, cpus⟩
      | flapLow | flapHigh =>
          rw [reader] at stepped
          simp only [readerStep] at stepped
          split at stepped <;> cases stepped <;> exact ⟨rfl, rfl, rfl, cpus⟩

/-- A step keeps the latch closed unless it begins to open it. -/
theorem LatchClosed.step
    (closed : LatchClosed source) (keeps : KeepsBytes label)
    (taken : Com1Smp.step source label = some target) :
    LatchClosed target := by
  have others (stepped : Cpu) (next : Pc)
      (cpus : target.cpus = Function.update source.cpus stepped next)
      (harmless : ∀ byte, lcrByte next = some byte →
        anySet byte com1RegLcrDlab = false) :
      ∀ cpu byte, lcrByte (target.cpus cpu) = some byte →
        anySet byte com1RegLcrDlab = false := by
    intro cpu byte brings
    rw [cpus] at brings
    by_cases same : cpu = stepped
    · subst same
      rw [Function.update_self] at brings
      exact harmless byte brings
    · rw [Function.update_of_ne same] at brings
      exact closed.2 cpu byte brings
  cases author : label.author with
  | none =>
      rcases bytes_of_reader author taken with ⟨_, _, lcr, cpus⟩
      refine ⟨?_, ?_⟩
      · rw [Com1.isDlabSet, lcr]
        exact closed.1
      · rw [cpus]
        exact closed.2
  | some stepped =>
      cases label with
      | host | reader => cases author
      | begin _ access =>
          cases author
          rcases begin_of_step taken with ⟨_, silent, cpus, _⟩
          refine ⟨?_, others stepped access.entry cpus ?_⟩
          · rw [step_shared taken, silent]
            exact closed.1
          · intro byte brings
            cases access with
            | read port => cases port <;> cases brings
            | write port written =>
                cases port <;> cases brings
                exact keeps
      | advance _ answers =>
          cases author
          rcases advance_of_step taken with ⟨next, moved, cpus, _⟩
          rcases lcr_of_step moved with ⟨kept | brought, nothing⟩
          · refine ⟨?_, others stepped next cpus (by simp [nothing])⟩
            rw [Com1.isDlabSet, step_shared taken, kept]
            exact closed.1
          · refine ⟨?_, others stepped next cpus (by simp [nothing])⟩
            rw [Com1.isDlabSet, step_shared taken]
            exact closed.2 stepped _ brought

/-- Every CPU's account after a step. -/
theorem accounted_of_step
    (ledger : Ledger labels source history)
    (taken : step source label = some target) (cpu : Cpu) :
    Accounted (labels ++ [label]) target (observe source label history)
      cpu := by
  have other (different : label.author ≠ some cpu)
      (unwritten : thrByte cpu label = none)
      (cpus : target.cpus cpu = source.cpus cpu) :
      Accounted (labels ++ [label]) target (observe source label history)
        cpu :=
    (ledger.cpus cpu).keep unwritten (by rw [cpus])
      (bytesOf_record_other different)
  cases label with
  | host result =>
      rcases host_of_step taken with ⟨_, _, _, cpus⟩
      exact other (by simp [Label.author]) rfl (by rw [cpus])
  | reader answers =>
      rcases reader_of_step taken with ⟨_, cpus⟩
      exact other (by simp [Label.author]) rfl (by rw [cpus])
  | begin author access =>
      rcases begin_of_step taken with ⟨⟨result, stored, pc⟩, silent, cpus, _⟩
      by_cases same : author = cpu
      · subst same
        refine (ledger.cpus author).begin (by rw [pc]; rfl) ?_ silent
        rw [cpus, Function.update_self]
      · refine other (by simpa [Label.author] using same) ?_ ?_
        · cases access with
          | read port => rfl
          | write port byte => cases port <;> simp [thrByte, same]
        · rw [cpus, Function.update_of_ne (Ne.symm same)]
  | advance author answers =>
      rcases advance_of_step taken with ⟨next, stepped, cpus, _⟩
      by_cases same : author = cpu
      · subst same
        refine (ledger.cpus author).advance ledger.latch rfl ?_
        rw [cpus, Function.update_self]
        exact byteMove_of_step stepped
      · refine other (by simpa [Label.author] using same) rfl ?_
        rw [cpus, Function.update_of_ne (Ne.symm same)]

theorem ledger_fresh (irqLevel : Bool) :
    Ledger [] (Smp.fresh irqLevel : Smp Cpu) {} where
  stdout := rfl
  queue := rfl
  host := rfl
  reader := rfl
  latch := by
    intro _
    refine ⟨by simp [Smp.fresh, Com1.isDlabSet, anySet], ?_⟩
    rintro cpu byte ⟨⟩
  cpus := fun cpu => ⟨[], rfl, .nil _⟩

/-- One step keeps the accounts. -/
theorem Ledger.step
    (ledger : Ledger labels source history)
    (taken : Com1Smp.step source label = some target) :
    Ledger (labels ++ [label]) target (observe source label history) where
  stdout := by
    have entries :
        ((effectOf source label).sent.map fun byte =>
            (label.author, byte)).map Prod.snd =
          (effectOf source label).sent := by
      rw [List.map_map]
      exact List.map_id _
    rw [step_shared taken, apply_stdout, ledger.stdout]
    simp only [observe, History.record, List.map_append, entries]
  queue := by
    rw [step_shared taken]
    exact queue_of_record _ _ ledger.queue
  host := by
    rw [filterMap_snoc, ← ledger.host]
    cases author : label.author with
    | none =>
        rcases bytes_of_reader author taken with ⟨_, pushed, _⟩
        rw [observe, author, (bytesOf_record_own none).2, pushed]
    | some stepped =>
        have notHost : hostByte label = none := by
          cases label <;> first | rfl | cases author
        rw [observe, author, (bytesOf_record_other (by simp)).2, notHost]
        simp
  reader := by
    cases author : label.author with
    | none =>
        rcases bytes_of_reader author taken with ⟨unsent, _⟩
        rw [observe, author, (bytesOf_record_own none).1, unsent,
          ledger.reader]
        rfl
    | some stepped =>
        rw [observe, author, (bytesOf_record_other (by simp)).1]
        exact ledger.reader
  latch := fun lossless =>
    (ledger.latch lossless.before).step lossless.last taken
  cpus := accounted_of_step ledger taken

/-- The accounts are kept in every run. -/
theorem ledger_run
    {irqLevel : Bool} {state : Smp Cpu}
    (run : ObservedRun irqLevel labels state history) :
    Ledger labels state history := by
  have kept {trace : List (Label Cpu)} {reached : Smp Cpu × History Cpu}
      (path : Run (observed Com1Smp.step observe)
        (Smp.fresh irqLevel, {}) trace reached) :
      Ledger trace reached.1 reached.2 := by
    induction path with
    | refl => exact ledger_fresh irqLevel
    | snoc before taken induction =>
        rcases observed_eq_some_iff.mp taken with ⟨stepped, recorded⟩
        rw [← recorded]
        exact induction.step stepped
  exact kept run

/-- What the accounts say about the streams. -/
theorem Ledger.byteStreams
    {state : Smp Cpu} (ledger : Ledger labels state history) :
    ByteStreams labels state history := by
  refine ⟨ledger.stdout, ledger.queue, ledger.host, ledger.reader, ?_⟩
  intro cpu
  rcases ledger.cpus cpu with ⟨passed, written, dispatched⟩
  have begun :
      passed.Sublist (labels.filterMap (thrByte cpu)) := by
    rw [written]
    exact List.sublist_append_left _ _
  exact ⟨dispatched.leftOrder.trans begun, dispatched.rightOrder.trans begun,
    dispatched.once.trans begun.subperm⟩

/--
Whatever the CPUs and the reader do, and whatever fails, bytes are neither invented
nor doubled, and nobody's bytes change their order.
-/
theorem smp_byte_streams
    {irqLevel : Bool} {state : Smp Cpu}
    (run : ObservedRun irqLevel labels state history) :
    ByteStreams labels state history :=
  (ledger_run run).byteStreams

/--
While no access opens the divisor latch and every `write` succeeds, a CPU which is
not about to pass a byte on has every byte it wrote on exactly one of the two ways.
-/
theorem smp_no_byte_lost
    {irqLevel : Bool} {state : Smp Cpu}
    (run : ObservedRun irqLevel labels state history)
    (lossless : Lossless labels) {cpu : Cpu}
    (idle : pendingByte (state.cpus cpu) = none) :
    (bytesOf (some cpu) history.transmitted ++
        bytesOf (some cpu) history.arrivals).Perm
      (labels.filterMap (thrByte cpu)) := by
  rcases (ledger_run run).cpus cpu with ⟨passed, written, dispatched⟩
  rw [written, idle, Option.toList_none, List.append_nil]
  exact dispatched.all lossless

end Steps

/-- One CPU turns the loopback on between two loads of the other one's write. -/
def loopedMidway : List (Label Bool) :=
  [ .host (.byte 0x61), .begin false (.write .thrRbrDll 0x41),
    .advance false willing, .begin true (.write .mcr 0x10),
    .advance true willing, .advance false willing, .advance false willing,
    .begin true (.read .thrRbrDll), .advance true willing,
    .advance true willing ]

theorem smp_byte_streams_looped :
    ∃ (state : Smp Bool) (history : History Bool),
      ObservedRun false loopedMidway state history ∧
        ByteStreams loopedMidway state history := by
  have reached : ∃ state history,
      ObservedRun false loopedMidway state history :=
    ⟨_, _, Run.iff_foldlM.mpr rfl⟩
  rcases reached with ⟨state, history, run⟩
  exact ⟨state, history, run, smp_byte_streams run⟩

/-- The byte is looped back behind the byte of the host. -/
theorem smp_no_byte_lost_looped :
    ∃ (state : Smp Bool) (history : History Bool),
      ObservedRun false loopedMidway state history ∧
        (bytesOf (some false) history.transmitted ++
            bytesOf (some false) history.arrivals).Perm [0x41] := by
  have reached : ∃ state history,
      ObservedRun false loopedMidway state history ∧
        pendingByte (state.cpus false) = none :=
    ⟨_, _, Run.iff_foldlM.mpr rfl, rfl⟩
  rcases reached with ⟨state, history, run, idle⟩
  refine ⟨state, history, run, smp_no_byte_lost run ?_ idle⟩
  simp [Lossless, loopedMidway, KeepsBytes, willing]

end Lvmm.Device.Com1SmpStreams
