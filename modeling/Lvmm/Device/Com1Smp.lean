import Mathlib.Logic.Function.Basic
import Lvmm.Device.Com1Threads
import Lvmm.Library.LineEdges

/-!
# COM1 with any number of virtual CPUs

Every virtual CPU has a thread of its own, and `COM1::Read` and `COM1::Write` take
the lock for the receive buffer only.  Here an access is a sequence of atomic
steps, one for each load or store of a register, each stretch under the lock and
each system call, and the steps of all CPUs and of the reader interleave.

A program point is what remains of an access.  An effect is what an atomic step
does to the members of the device, the standard output and the interrupt line.
-/

namespace Lvmm.Device.Com1Smp

open Lvmm.Vm.SysCall
open Lvmm.Device.Com1Device
open Lvmm.Device.Com1Threads (FlapOrigin ReaderPc)
open Lvmm.Library.LabelledRun
open Lvmm.Library.LineEdges

/-! ## Shared state and effects -/

/-- What the threads share. -/
structure Shared where
  com1 : Com1
  stdout : List UInt8
  irqLevel : Bool
deriving DecidableEq

/-- What an atomic step does to the shared state. -/
inductive Effect where
  | nothing
  | storeIer (byte : UInt8)
  | storeDll (byte : UInt8)
  | storeDlh (byte : UInt8)
  | store (port : Com1Port) (byte : UInt8)
  | push (byte : UInt8)
  | pop
  | transmit (byte : UInt8)
  | drive (level : Bool)
deriving DecidableEq, Repr

/-- The shared state after an effect. -/
@[grind =]
def Effect.apply (shared : Shared) : Effect → Shared
  | .nothing => shared
  | .storeIer byte =>
      { shared with
        com1 :=
          { shared.com1 with ier := byte &&& com1RegIerWritableMask } }
  | .storeDll byte =>
      { shared with com1 := { shared.com1 with dll := byte } }
  | .storeDlh byte =>
      { shared with com1 := { shared.com1 with dlh := byte } }
  | .store .iirFcr byte =>
      { shared with com1 := { shared.com1 with fcr := byte } }
  | .store .lcr byte =>
      { shared with com1 := { shared.com1 with lcr := byte } }
  | .store .mcr byte =>
      { shared with com1 := { shared.com1 with mcr := byte } }
  | .store .sr byte =>
      { shared with com1 := { shared.com1 with sr := byte } }
  -- the line and modem status registers are read-only
  | .store _ _ => shared
  | .push byte => { shared with com1 := shared.com1.pushRx byte }
  | .pop =>
      { shared with
        com1 := { shared.com1 with rxBuf := shared.com1.rxBuf.tail } }
  | .transmit byte => { shared with stdout := shared.stdout ++ [byte] }
  | .drive level => { shared with irqLevel := level }

/-! ## Program points of an access -/

/-- What a thread has left of an access, or what the access returned. -/
inductive Pc where
  | returned (result : Int) (stored : Option UInt8)
  -- `COM1::Read`
  | rbrLoadLcr
  | rbrPop
  | ierLoadLcr
  | ierLoad
  | iirTestRx
  | iirLoadDataAvl (rxPending : Bool)
  | iirLoadThrEmpty
  | iirLoadFcr (identification : UInt8)
  | lcrLoad
  | mcrLoad
  | lsrTestRx
  | msrLoadLoop
  | msrLoadDtr
  | msrLoadRts (status : UInt8)
  | msrLoadOut1 (status : UInt8)
  | msrLoadOut2 (status : UInt8)
  | srLoad
  -- `COM1::Write`
  | thrLoadLcr (byte : UInt8)
  | thrLoadMcr (byte : UInt8)
  | thrPush (byte : UInt8)
  | thrWrite (byte : UInt8)
  | thrLoadIer
  | dllStore (byte : UInt8)
  | dlhLoadLcr (byte : UInt8)
  | ierStore (byte : UInt8)
  | ierTestRx
  | ierLoadThrEmpty (rxPending : Bool)
  | ierLoadDataAvl (rxPending : Bool)
  | dlhStore (byte : UInt8)
  | registerStore (port : Com1Port) (byte : UInt8)
  | flapLow (origin : FlapOrigin)
  | flapHigh (origin : FlapOrigin)
deriving DecidableEq, Repr

/-- A call of `COM1::Read` or `COM1::Write`. -/
inductive Access where
  | read (port : Com1Port)
  | write (port : Com1Port) (byte : UInt8)
deriving DecidableEq, Repr

/-- Where an access begins: at the case of its port. -/
def Access.entry : Access → Pc
  | .read .thrRbrDll => .rbrLoadLcr
  | .read .ierDlh => .ierLoadLcr
  | .read .iirFcr => .iirTestRx
  | .read .lcr => .lcrLoad
  | .read .mcr => .mcrLoad
  | .read .lsr => .lsrTestRx
  | .read .msr => .msrLoadLoop
  | .read .sr => .srLoad
  | .write .thrRbrDll byte => .thrLoadLcr byte
  | .write .ierDlh byte => .dlhLoadLcr byte
  | .write port byte => .registerStore port byte

/-- The environment's answers to the system call of a step, if it makes one. -/
structure Answers where
  write : SysResult
  irq : SysResult
deriving DecidableEq

/-- The access returned zero and stored a byte. -/
def Pc.value (byte : UInt8) : Pc :=
  .returned 0 (some byte)

/-- The access returned zero and left the cell alone. -/
def Pc.done : Pc :=
  .returned 0 none

/-- Continue with the flap of a write access, or return. -/
def Pc.flapIf (origin : FlapOrigin) (raise : Bool) : Pc :=
  if raise then .flapLow origin else .done

/-- A modem status bit for a modem control bit. -/
def mirrored (mcr control status : UInt8) : UInt8 :=
  if anySet mcr control then status else 0

/-- One atomic step of an access: its effect and what is left. -/
@[grind =]
def Pc.step (shared : Shared) (answers : Answers) : Pc → Option (Effect × Pc)
  | .returned _ _ => none
  | .rbrLoadLcr =>
      some (.nothing,
        if !shared.com1.isDlabSet then .rbrPop else .value com1RegDll9600)
  | .rbrPop => some (.pop, .value (shared.com1.rxBuf.headD 0))
  | .ierLoadLcr =>
      some (.nothing,
        if !shared.com1.isDlabSet then .ierLoad else .value com1RegDlh9600)
  | .ierLoad => some (.nothing, .value shared.com1.ier)
  | .iirTestRx => some (.nothing, .iirLoadDataAvl shared.com1.rxPending)
  | .iirLoadDataAvl rxPending =>
      some (.nothing,
        if shared.com1.isDataAvlSet && rxPending then .iirLoadFcr 0b00000100
        else .iirLoadThrEmpty)
  | .iirLoadThrEmpty =>
      some (.nothing,
        .iirLoadFcr
          (if shared.com1.isThrEmptySet then 0b00000010
          else com1RegIirNoIntPend))
  | .iirLoadFcr identification =>
      some (.nothing,
        .value
          (if anySet shared.com1.fcr com1RegFcrEnable then
            identification ||| com1RegIirFifo16550A
          else identification))
  | .lcrLoad => some (.nothing, .value shared.com1.lcr)
  | .mcrLoad => some (.nothing, .value shared.com1.mcr)
  | .lsrTestRx => some (.nothing, .value shared.com1.lsr)
  | .msrLoadLoop =>
      some (.nothing,
        if shared.com1.isLoopSet then .msrLoadDtr
        else .value (com1RegMsrCts ||| com1RegMsrDsr ||| com1RegMsrDcd))
  | .msrLoadDtr =>
      some (.nothing,
        .msrLoadRts (mirrored shared.com1.mcr com1RegMcrDtr com1RegMsrDsr))
  | .msrLoadRts status =>
      some (.nothing,
        .msrLoadOut1
          (status ||| mirrored shared.com1.mcr com1RegMcrRts com1RegMsrCts))
  | .msrLoadOut1 status =>
      some (.nothing,
        .msrLoadOut2
          (status ||| mirrored shared.com1.mcr com1RegMcrOut1 com1RegMsrRi))
  | .msrLoadOut2 status =>
      some (.nothing,
        .value
          (status ||| mirrored shared.com1.mcr com1RegMcrOut2 com1RegMsrDcd))
  | .srLoad => some (.nothing, .value shared.com1.sr)
  | .thrLoadLcr byte =>
      some (.nothing,
        if !shared.com1.isDlabSet then .thrLoadMcr byte else .dllStore byte)
  | .thrLoadMcr byte =>
      some (.nothing,
        if shared.com1.isLoopSet then .thrPush byte else .thrWrite byte)
  | .thrPush byte => some (.push byte, .done)
  | .thrWrite byte =>
      if answers.write.Succeeded then some (.transmit byte, .thrLoadIer)
      else some (.nothing, .returned (-answers.write.errno) none)
  | .thrLoadIer =>
      some (.nothing, .flapIf .thr shared.com1.isThrEmptySet)
  | .dllStore byte => some (.storeDll byte, .done)
  | .dlhLoadLcr byte =>
      some (.nothing,
        if !shared.com1.isDlabSet then .ierStore byte else .dlhStore byte)
  | .ierStore byte => some (.storeIer byte, .ierTestRx)
  | .ierTestRx => some (.nothing, .ierLoadThrEmpty shared.com1.rxPending)
  | .ierLoadThrEmpty rxPending =>
      some (.nothing,
        if shared.com1.isThrEmptySet then .flapLow .ier
        else .ierLoadDataAvl rxPending)
  | .ierLoadDataAvl rxPending =>
      some (.nothing,
        .flapIf .ier (shared.com1.isDataAvlSet && rxPending))
  | .dlhStore byte => some (.storeDlh byte, .done)
  | .registerStore port byte => some (.store port byte, .done)
  | .flapLow origin =>
      if irqLine answers.irq ≠ 0 then
        some (.nothing, .returned (irqLine answers.irq) none)
      else some (.drive false, .flapHigh origin)
  | .flapHigh _ =>
      if irqLine answers.irq ≠ 0 then
        some (.nothing, .returned (irqLine answers.irq) none)
      else some (.drive true, .done)

/-! ## An access which is not interrupted -/

/-- The answer to the system call a program point makes. -/
def Pc.answers (serial : SerialAnswers) : Pc → Answers
  | .flapLow _ => { write := serial.write, irq := serial.irqLow }
  | _ => { write := serial.write, irq := serial.irqHigh }

/-- The shared state and the program point after some steps of one thread. -/
@[grind =]
def alone (serial : SerialAnswers) : Nat → Shared × Pc → Shared × Pc
  | 0, state => state
  | steps + 1, (shared, pc) =>
      match pc.step shared (pc.answers serial) with
      | none => (shared, pc)
      | some (effect, next) => alone serial steps (effect.apply shared, next)

/-- What `COM1::Write` leaves of the shared state. -/
def Shared.afterWrite (shared : Shared) (run : WriteRun) : Shared :=
  { com1 := run.com1
    stdout := shared.stdout ++ run.stdout
    irqLevel := run.irqLevels.getLast?.getD shared.irqLevel }

theorem alone_of_step
    {serial : SerialAnswers} {shared : Shared} {pc next : Pc}
    {effect : Effect} (steps : Nat)
    (taken : pc.step shared (pc.answers serial) = some (effect, next)) :
    alone serial (steps + 1) (shared, pc) =
      alone serial steps (effect.apply shared, next) := by
  rw [alone, taken]

/-- A step without an effect only moves on. -/
theorem alone_silent
    {serial : SerialAnswers} {shared : Shared} {pc next : Pc} (steps : Nat)
    (taken : pc.step shared (pc.answers serial) = some (.nothing, next)) :
    alone serial (steps + 1) (shared, pc) =
      alone serial steps (shared, next) :=
  alone_of_step steps taken

@[simp]
theorem alone_returned
    (serial : SerialAnswers) (steps : Nat) (shared : Shared)
    (result : Int) (stored : Option UInt8) :
    alone serial steps (shared, .returned result stored) =
      (shared, .returned result stored) := by
  cases steps <;> rfl

/-- A receive-buffer read returns the first byte, or zero. -/
theorem readPort_rbr_fst
    {com1 : Com1} (dlab : com1.isDlabSet = false) :
    (com1.readPort .thrRbrDll).1 = com1.rxBuf.headD 0 := by
  cases buffer : com1.rxBuf <;> simp [Com1.readPort, dlab, buffer]

/-- The steps of a read end as the function says. -/
theorem alone_read
    (shared : Shared) (serial : SerialAnswers) (port : Com1Port) :
    alone serial 7 (shared, (Access.read port).entry) =
      ({ shared with com1 := (shared.com1.readPort port).2 },
        .value (shared.com1.readPort port).1) := by
  rw [readPort_snd]
  cases port with
  | thrRbrDll =>
      cases dlab : shared.com1.isDlabSet with
      | true =>
          calc
            alone serial 7 (shared, .rbrLoadLcr)
            _ = alone serial 6 (shared, .value com1RegDll9600) :=
                alone_silent 6 (by simp [Pc.step, dlab])
            _ = _ := by simp [Pc.value, Com1.readPort, dlab]
      | false =>
          calc
            alone serial 7 (shared, .rbrLoadLcr)
            _ = alone serial 6 (shared, .rbrPop) :=
                alone_silent 6 (by simp [Pc.step, dlab])
            _ = alone serial 5
                  (Effect.apply shared .pop,
                    .value (shared.com1.rxBuf.headD 0)) :=
                alone_of_step 5 rfl
            _ = _ := by
                simp [Effect.apply, Pc.value, readPort_rbr_fst dlab]
  | ierDlh =>
      cases dlab : shared.com1.isDlabSet with
      | true =>
          calc
            alone serial 7 (shared, .ierLoadLcr)
            _ = alone serial 6 (shared, .value com1RegDlh9600) :=
                alone_silent 6 (by simp [Pc.step, dlab])
            _ = _ := by simp [Pc.value, Com1.readPort, dlab]
      | false =>
          calc
            alone serial 7 (shared, .ierLoadLcr)
            _ = alone serial 6 (shared, .ierLoad) :=
                alone_silent 6 (by simp [Pc.step, dlab])
            _ = alone serial 5 (shared, .value shared.com1.ier) :=
                alone_silent 5 rfl
            _ = _ := by simp [Pc.value, Com1.readPort, dlab]
  | iirFcr =>
      have tested :
          alone serial 7 (shared, .iirTestRx) =
            alone serial 6 (shared, .iirLoadDataAvl shared.com1.rxPending) :=
        alone_silent 6 rfl
      have identified (identification : UInt8) (steps : Nat) :
          alone serial (steps + 1) (shared, .iirLoadFcr identification) =
            (shared,
              .value
                (if anySet shared.com1.fcr com1RegFcrEnable then
                  identification ||| com1RegIirFifo16550A
                else identification)) :=
        (alone_silent steps rfl).trans (alone_returned _ _ _ _ _)
      refine tested.trans ?_
      cases received : shared.com1.isDataAvlSet && shared.com1.rxPending with
      | true =>
          calc
            alone serial 6 (shared, .iirLoadDataAvl shared.com1.rxPending)
            _ = alone serial 5 (shared, .iirLoadFcr 0b00000100) :=
                alone_silent 5 (by rw [Pc.step, received]; rfl)
            _ = _ := identified 0b00000100 4
            _ = _ := by simp only [Com1.readPort, Com1.iir, received]; rfl
      | false =>
          calc
            alone serial 6 (shared, .iirLoadDataAvl shared.com1.rxPending)
            _ = alone serial 5 (shared, .iirLoadThrEmpty) :=
                alone_silent 5 (by rw [Pc.step, received]; rfl)
            _ = alone serial 4
                  (shared,
                    .iirLoadFcr
                      (if shared.com1.isThrEmptySet then 0b00000010
                      else com1RegIirNoIntPend)) :=
                alone_silent 4 rfl
            _ = _ := identified _ 3
            _ = _ := by simp only [Com1.readPort, Com1.iir, received]; rfl
  | msr =>
      cases loop : shared.com1.isLoopSet with
      | true =>
          calc
            alone serial 7 (shared, .msrLoadLoop)
            _ = alone serial 6 (shared, .msrLoadDtr) :=
                alone_silent 6 (by rw [Pc.step, loop]; rfl)
            _ = _ := by simp only [Com1.readPort, Com1.msr, loop]; rfl
      | false =>
          calc
            alone serial 7 (shared, .msrLoadLoop)
            _ = alone serial 6
                  (shared,
                    .value (com1RegMsrCts ||| com1RegMsrDsr |||
                      com1RegMsrDcd)) :=
                alone_silent 6 (by rw [Pc.step, loop]; rfl)
            _ = _ := by simp only [Com1.readPort, Com1.msr, loop]; rfl
  | lcr | mcr | lsr | sr => rfl

/-- The two ioctls at the end of a write access, and nothing else. -/
theorem alone_flapIf
    (shared : Shared) (serial : SerialAnswers) (com1 : Com1)
    (stdout : List UInt8) (origin : FlapOrigin) (raise : Bool)
    (steps : Nat) :
    alone serial (steps + 2)
        ({ shared with com1, stdout := shared.stdout ++ stdout },
          .flapIf origin raise) =
      (shared.afterWrite (com1.flapWhen serial stdout raise),
        .returned (com1.flapWhen serial stdout raise).result none) := by
  cases raise with
  | false => simp [Pc.flapIf, Pc.done, Com1.flapWhen, Shared.afterWrite]
  | true =>
      simp only [Pc.flapIf, Com1.flapWhen, flapIrqLine, if_true]
      by_cases lowered : irqLine serial.irqLow = 0
      · by_cases raised : irqLine serial.irqHigh = 0
        · simp only [alone, Pc.step, Pc.answers, lowered, raised, ne_eq,
            not_true_eq_false, if_false, Pc.done, alone_returned]
          rfl
        · simp only [alone, Pc.step, Pc.answers, lowered, raised, ne_eq,
            not_true_eq_false, not_false_eq_true, if_false, if_true,
            alone_returned]
          rfl
      · simp only [alone, Pc.step, Pc.answers, lowered, ne_eq,
          not_false_eq_true, if_true]
        rfl

/-- After a store the steps of an interrupt-enable write test and flap. -/
theorem alone_ierTestRx
    (shared : Shared) (serial : SerialAnswers) :
    alone serial 5 (shared, .ierTestRx) =
      (shared.afterWrite
          (shared.com1.flapWhen serial []
            (shared.com1.shouldRaise shared.com1.rxPending)),
        .returned
          (shared.com1.flapWhen serial []
            (shared.com1.shouldRaise shared.com1.rxPending)).result
          none) := by
  have flap :=
    alone_flapIf shared serial shared.com1 [] .ier
      (shared.com1.shouldRaise shared.com1.rxPending)
  simp only [List.append_nil] at flap
  have tested :
      alone serial 5 (shared, .ierTestRx) =
        alone serial 4 (shared, .ierLoadThrEmpty shared.com1.rxPending) :=
    alone_silent 4 rfl
  rw [tested]
  cases thrEmpty : shared.com1.isThrEmptySet with
  | true =>
      have loaded :
          alone serial 4 (shared, .ierLoadThrEmpty shared.com1.rxPending) =
            alone serial 3 (shared, .flapLow .ier) :=
        alone_silent 3 (by simp [Pc.step, thrEmpty])
      have raise :
          shared.com1.shouldRaise shared.com1.rxPending = true := by
        simp [Com1.shouldRaise, thrEmpty]
      rw [loaded, ← flap 1, raise]
      rfl
  | false =>
      have loaded :
          alone serial 4 (shared, .ierLoadThrEmpty shared.com1.rxPending) =
            alone serial 3
              (shared, .ierLoadDataAvl shared.com1.rxPending) :=
        alone_silent 3 (by simp [Pc.step, thrEmpty])
      have raise :
          shared.com1.shouldRaise shared.com1.rxPending =
            (shared.com1.isDataAvlSet && shared.com1.rxPending) := by
        simp [Com1.shouldRaise, thrEmpty]
      rw [loaded, ← flap 0, raise]
      exact alone_silent 2 rfl

/-- The steps of a write end as the function says. -/
theorem alone_write
    (shared : Shared) (serial : SerialAnswers) (port : Com1Port)
    (byte : UInt8) :
    alone serial 7 (shared, (Access.write port byte).entry) =
      (shared.afterWrite (shared.com1.writePort serial byte port),
        .returned (shared.com1.writePort serial byte port).result none) := by
  cases port with
  | thrRbrDll =>
      by_cases dlab : shared.com1.isDlabSet = true
      · calc
          alone serial 7 (shared, .thrLoadLcr byte)
          _ = alone serial 6 (shared, .dllStore byte) :=
              alone_silent 6 (by simp [Pc.step, dlab])
          _ = alone serial 5 (Effect.apply shared (.storeDll byte), .done) :=
              alone_of_step 5 rfl
          _ = _ := by
              simp [Pc.done, Effect.apply, Com1.writePort, Shared.afterWrite,
                dlab]
      · by_cases loop : shared.com1.isLoopSet = true
        · calc
            alone serial 7 (shared, .thrLoadLcr byte)
            _ = alone serial 6 (shared, .thrLoadMcr byte) :=
                alone_silent 6 (by simp [Pc.step, dlab])
            _ = alone serial 5 (shared, .thrPush byte) :=
                alone_silent 5 (by simp [Pc.step, loop])
            _ = alone serial 4 (Effect.apply shared (.push byte), .done) :=
                alone_of_step 4 rfl
            _ = _ := by
                simp [Pc.done, Effect.apply, Com1.writePort,
                  Shared.afterWrite, dlab, loop]
        · by_cases written : serial.write.Succeeded
          · have function :
                shared.com1.writePort serial byte .thrRbrDll =
                  shared.com1.flapWhen serial [byte]
                    shared.com1.isThrEmptySet := by
              simp [Com1.writePort, dlab, loop, written]
            rw [function]
            calc
              alone serial 7 (shared, .thrLoadLcr byte)
              _ = alone serial 6 (shared, .thrLoadMcr byte) :=
                  alone_silent 6 (by simp [Pc.step, dlab])
              _ = alone serial 5 (shared, .thrWrite byte) :=
                  alone_silent 5 (by simp [Pc.step, loop])
              _ = alone serial 4
                    (Effect.apply shared (.transmit byte), .thrLoadIer) :=
                  alone_of_step 4 (by simp [Pc.step, Pc.answers, written])
              _ = alone serial 3
                    (Effect.apply shared (.transmit byte),
                      .flapIf .thr shared.com1.isThrEmptySet) :=
                  alone_silent 3 rfl
              _ = _ :=
                  alone_flapIf shared serial shared.com1 [byte] .thr
                    shared.com1.isThrEmptySet 1
          · calc
              alone serial 7 (shared, .thrLoadLcr byte)
              _ = alone serial 6 (shared, .thrLoadMcr byte) :=
                  alone_silent 6 (by simp [Pc.step, dlab])
              _ = alone serial 5 (shared, .thrWrite byte) :=
                  alone_silent 5 (by simp [Pc.step, loop])
              _ = alone serial 4
                    (shared, .returned (-serial.write.errno) none) :=
                  alone_silent 4 (by simp [Pc.step, Pc.answers, written])
              _ = _ := by
                  simp [Com1.writePort, Shared.afterWrite, dlab, loop,
                    written]
  | ierDlh =>
      by_cases dlab : shared.com1.isDlabSet = true
      · calc
          alone serial 7 (shared, .dlhLoadLcr byte)
          _ = alone serial 6 (shared, .dlhStore byte) :=
              alone_silent 6 (by simp [Pc.step, dlab])
          _ = alone serial 5 (Effect.apply shared (.storeDlh byte), .done) :=
              alone_of_step 5 rfl
          _ = _ := by
              simp [Pc.done, Effect.apply, Com1.writePort, Shared.afterWrite,
                dlab]
      · generalize stored_eq :
          Effect.apply shared (.storeIer byte) = stored
        have function :
            shared.com1.writePort serial byte .ierDlh =
              stored.com1.flapWhen serial []
                (stored.com1.shouldRaise stored.com1.rxPending) := by
          subst stored_eq
          simp [Com1.writePort, Effect.apply, dlab]
        have left (run : WriteRun) :
            stored.afterWrite run = shared.afterWrite run := by
          subst stored_eq
          rfl
        rw [function, ← left]
        calc
          alone serial 7 (shared, .dlhLoadLcr byte)
          _ = alone serial 6 (shared, .ierStore byte) :=
              alone_silent 6 (by simp [Pc.step, dlab])
          _ = alone serial 5 (stored, .ierTestRx) := by
              rw [← stored_eq]
              exact alone_of_step 5 rfl
          _ = _ := alone_ierTestRx stored serial
  | iirFcr | lcr | mcr | lsr | msr | sr =>
      simp [Access.entry, alone, Pc.step, Pc.done, Effect.apply,
        Com1.writePort, Shared.afterWrite]

/-! ## All threads -/

section Threads

variable {Cpu : Type*}

/-- The shared state and where every thread is. -/
structure Smp (Cpu : Type*) where
  shared : Shared
  cpus : Cpu → Pc
  reader : ReaderPc

/-- A fresh `COM1`, its reader started and no access in progress. -/
def Smp.fresh (irqLevel : Bool) : Smp Cpu :=
  { shared := { com1 := {}, stdout := [], irqLevel }
    cpus := fun _ => .done, reader := .blocked }

/-- What the `read` of the reader thread returned. -/
inductive HostRead where
  | byte (byte : UInt8)
  | retry
  | eof
deriving DecidableEq, Repr

/--
One step: a `read` of the reader together with its push under the lock, another
step of the reader, the beginning of an access, or a step of one.
-/
inductive Label (Cpu : Type*) where
  | host (result : HostRead)
  | reader (answers : Answers)
  | begin (cpu : Cpu) (access : Access)
  | advance (cpu : Cpu) (answers : Answers)

/-- The atomic steps of `COM1::readerLoop` after its `read`. -/
def readerStep (shared : Shared) (answers : Answers) :
    ReaderPc → Option (Effect × ReaderPc)
  | .loadIer =>
      some (.nothing,
        if shared.com1.isDataAvlSet then .flapLow else .blocked)
  | .flapLow =>
      if irqLine answers.irq ≠ 0 then some (.nothing, .blocked)
      else some (.drive false, .flapHigh)
  | .flapHigh =>
      if irqLine answers.irq ≠ 0 then some (.nothing, .blocked)
      else some (.drive true, .blocked)
  | .blocked => none
  | .returned => none

/-- What the result of a `read` does. -/
def hostStep : HostRead → Effect × ReaderPc
  | .byte byte => (.push byte, .loadIer)
  | .retry => (.nothing, .blocked)
  | .eof => (.nothing, .returned)

variable [DecidableEq Cpu]

/-- The effect of a step and where it leaves the threads. -/
def move (source : Smp Cpu) :
    Label Cpu → Option (Effect × (Cpu → Pc) × ReaderPc)
  | .host result =>
      if source.reader = .blocked then
        some ((hostStep result).1, source.cpus, (hostStep result).2)
      else none
  | .reader answers =>
      (readerStep source.shared answers source.reader).map fun moved =>
        (moved.1, source.cpus, moved.2)
  | .begin cpu access =>
      match source.cpus cpu with
      | .returned _ _ =>
          some (.nothing, Function.update source.cpus cpu access.entry,
            source.reader)
      | _ => none
  | .advance cpu answers =>
      ((source.cpus cpu).step source.shared answers).map fun moved =>
        (moved.1, Function.update source.cpus cpu moved.2, source.reader)

/-- One step of one thread. -/
def step (source : Smp Cpu) (label : Label Cpu) : Option (Smp Cpu) :=
  (move source label).map fun moved =>
    { shared := moved.1.apply source.shared
      cpus := moved.2.1, reader := moved.2.2 }

/-- The effect of a step. -/
def effectOf (source : Smp Cpu) (label : Label Cpu) : Effect :=
  ((move source label).map (·.1)).getD .nothing

/-- The CPU which takes a step; `none` is the reader. -/
def Label.author : Label Cpu → Option Cpu
  | .host _ => none
  | .reader _ => none
  | .begin cpu _ => some cpu
  | .advance cpu _ => some cpu

/-- The ioctl of the step, if it makes one, succeeds. -/
def Label.IoctlSucceeds : Label Cpu → Prop
  | .host _ => True
  | .reader answers => answers.irq.Succeeded
  | .begin _ _ => True
  | .advance _ answers => answers.irq.Succeeded

/-! ## The history of a run -/

/-- The bytes an effect adds to the receive buffer. -/
def Effect.pushed : Effect → List UInt8
  | .push byte => [byte]
  | _ => []

/-- The bytes an effect takes from the receive buffer. -/
def Effect.popped (shared : Shared) : Effect → List UInt8
  | .pop => shared.com1.rxBuf.take 1
  | _ => []

/-- The bytes an effect sends to the host. -/
def Effect.sent : Effect → List UInt8
  | .transmit byte => [byte]
  | _ => []

def Effect.storesIer : Effect → Bool
  | .storeIer _ => true
  | _ => false

/--
What an observer of a run records: the bytes sent, pushed into the receive buffer
and taken from it, each with the thread that did it, and when and by whom the
latest of certain steps was taken.  The thread `none` is the reader, whose bytes
come from the host; what a CPU pushes is looped back.
-/
structure History (Cpu : Type*) where
  edges : EdgeLog := {}
  transmitted : List (Option Cpu × UInt8) := []
  arrivals : List (Option Cpu × UInt8) := []
  delivered : List (Option Cpu × UInt8) := []
  lastHostPush : Option Nat := none
  lastIerStore : Option Nat := none
  lastStorer : Option Cpu := none
  lastTransmit : Option Nat := none
  lastTransmitter : Option Cpu := none

/-- The history after an effect of a thread. -/
def History.record
    (history : History Cpu) (author : Option Cpu) (shared : Shared)
    (effect : Effect) : History Cpu :=
  { edges :=
      history.edges.record shared.irqLevel (effect.apply shared).irqLevel
    transmitted :=
      history.transmitted ++ effect.sent.map fun byte => (author, byte)
    arrivals :=
      history.arrivals ++ effect.pushed.map fun byte => (author, byte)
    delivered :=
      history.delivered ++ (effect.popped shared).map fun byte =>
        (author, byte)
    lastHostPush :=
      if author.isNone && !effect.pushed.isEmpty then
        some history.edges.clock
      else history.lastHostPush
    lastIerStore :=
      if effect.storesIer then some history.edges.clock
      else history.lastIerStore
    lastStorer := if effect.storesIer then author else history.lastStorer
    lastTransmit :=
      if !effect.sent.isEmpty then some history.edges.clock
      else history.lastTransmit
    lastTransmitter :=
      if !effect.sent.isEmpty then author else history.lastTransmitter }

def observe
    (source : Smp Cpu) (label : Label Cpu) (history : History Cpu) :
    History Cpu :=
  history.record label.author source.shared (effectOf source label)

/-- Runs of a fresh device, with their history. -/
abbrev ObservedRun
    (irqLevel : Bool) (labels : List (Label Cpu))
    (target : Smp Cpu) (history : History Cpu) : Prop :=
  Run (observed step observe) (Smp.fresh irqLevel, {}) labels
    (target, history)

/-! ## An access among the threads which is not interrupted -/

/-- What the function of the device says an access does and returns. -/
def Access.outcome (shared : Shared) (serial : SerialAnswers) :
    Access → Shared × Pc
  | .read port =>
      ({ shared with com1 := (shared.com1.readPort port).2 },
        .value (shared.com1.readPort port).1)
  | .write port byte =>
      (shared.afterWrite (shared.com1.writePort serial byte port),
        .returned (shared.com1.writePort serial byte port).result none)

theorem alone_access
    (shared : Shared) (serial : SerialAnswers) (access : Access) :
    alone serial 7 (shared, access.entry) = access.outcome shared serial := by
  cases access with
  | read port => exact alone_read shared serial port
  | write port byte => exact alone_write shared serial port byte

/-- The steps of one thread are steps of the whole in which no other one moves. -/
theorem run_alone
    (serial : SerialAnswers) (steps : Nat) (source : Smp Cpu) (cpu : Cpu) :
    ∃ labels,
      (∀ label ∈ labels, Label.author label = some cpu) ∧
        Run step source labels
          { shared :=
              (alone serial steps (source.shared, source.cpus cpu)).1
            cpus :=
              Function.update source.cpus cpu
                (alone serial steps (source.shared, source.cpus cpu)).2
            reader := source.reader } := by
  induction steps generalizing source with
  | zero =>
      refine ⟨[], by simp, ?_⟩
      simp only [alone, Function.update_eq_self]
      exact .refl
  | succ steps induction =>
      cases taken :
          (source.cpus cpu).step source.shared
            ((source.cpus cpu).answers serial) with
      | none =>
          refine ⟨[], by simp, ?_⟩
          simp only [alone, taken, Function.update_eq_self]
          exact .refl
      | some moved =>
          rcases moved with ⟨effect, next⟩
          rcases induction
              { shared := effect.apply source.shared
                cpus := Function.update source.cpus cpu next
                reader := source.reader } with
            ⟨labels, authored, run⟩
          refine ⟨.advance cpu ((source.cpus cpu).answers serial) :: labels,
            ?_, ?_⟩
          · intro label member
            rcases List.mem_cons.mp member with rfl | later
            · rfl
            · exact authored label later
          · refine
              Run.cons_iff.mpr
                ⟨{ shared := effect.apply source.shared
                   cpus := Function.update source.cpus cpu next
                   reader := source.reader }, ?_, ?_⟩
            · simp [step, move, taken]
            · simpa only [alone, taken, Function.update_self,
                Function.update_idem] using run

/--
While no other thread moves, the atomic steps of an access end with the result
and the effect of the function, whatever state the others are in, and change
nothing of the others.
-/
theorem access_uninterrupted
    (source : Smp Cpu) (cpu : Cpu) (access : Access) (serial : SerialAnswers)
    {result : Int} {stored : Option UInt8}
    (idle : source.cpus cpu = .returned result stored) :
    ∃ labels,
      (∀ label ∈ labels, Label.author label = some cpu) ∧
        Run step source (.begin cpu access :: labels)
          { shared := (access.outcome source.shared serial).1
            cpus :=
              Function.update source.cpus cpu
                (access.outcome source.shared serial).2
            reader := source.reader } := by
  have begun :
      step source (.begin cpu access) =
        some
          { source with
            cpus := Function.update source.cpus cpu access.entry } := by
    simp [step, move, idle, Effect.apply]
  rcases run_alone serial 7
      { source with cpus := Function.update source.cpus cpu access.entry }
      cpu with
    ⟨labels, authored, run⟩
  refine ⟨labels, authored, Run.cons_iff.mpr ⟨_, begun, ?_⟩⟩
  simpa only [Function.update_self, Function.update_idem, alone_access]
    using run

end Threads

theorem access_uninterrupted_transmit :
    ∃ labels,
      (∀ label ∈ labels, Label.author label = some true) ∧
        Run step (Smp.fresh false : Smp Bool)
          (.begin true (.write .thrRbrDll 0x41) :: labels)
          { shared := { com1 := {}, stdout := [0x41], irqLevel := false }
            cpus := fun _ => .done, reader := .blocked } := by
  have run :=
    access_uninterrupted (Smp.fresh false : Smp Bool) true
      (.write .thrRbrDll 0x41) ⟨.ok 1, .ok 0, .ok 0⟩ rfl
  have everywhere :
      Function.update (fun _ => Pc.done : Bool → Pc) true .done =
        fun _ => .done :=
    Function.update_eq_self true (fun _ => Pc.done)
  have outcome :
      (Access.write .thrRbrDll 0x41).outcome
          { com1 := {}, stdout := [], irqLevel := false }
          ⟨.ok 1, .ok 0, .ok 0⟩ =
        ({ com1 := {}, stdout := [0x41], irqLevel := false }, .done) := by
    decide
  simpa only [Smp.fresh, outcome, everywhere] using run

end Lvmm.Device.Com1Smp
