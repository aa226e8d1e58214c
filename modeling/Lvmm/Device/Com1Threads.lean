import Lvmm.Device.Com1Device
import Lvmm.Library.LabelledRun

/-!
# The COM1 reader thread and the guest, step by step

`COM1::readerLoop` runs concurrently with the accesses of one vCPU.  The state
holds the shared members of the device, the host's standard output, the level of
IRQ 4 and a program point for each thread; a label is one atomic step of one
thread together with what the environment answers to it.

A history observes a run: which bytes the guest handed to the transmitter, which
bytes arrived in the receive buffer and from where, which of them were read, and
when the host last delivered a byte, the guest last stored the interrupt-enable
register and the line last rose.
-/

namespace Lvmm.Device.Com1Threads

open Lvmm.Vm.SysCall
open Lvmm.Device.Com1Device
open Lvmm.Library.LabelledRun

/-! ## States and steps -/

/-- The write access a flap of the guest belongs to. -/
inductive FlapOrigin where
  | thr
  | ier
deriving DecidableEq, Repr

/-- Where the vCPU thread is within a write access to the device. -/
inductive GuestPc where
  | idle
  | thrLoadIer
  | ierTestRx
  | ierLoadIer (rxPending : Bool)
  | flapLow (origin : FlapOrigin)
  | flapHigh (origin : FlapOrigin)
deriving DecidableEq, Repr

/-- Where the reader thread is within an iteration of its loop. -/
inductive ReaderPc where
  | blocked
  | loadIer
  | flapLow
  | flapHigh
  | returned
deriving DecidableEq, Repr

structure Threads where
  com1 : Com1
  stdout : List UInt8
  irqLevel : Bool
  guest : GuestPc
  reader : ReaderPc
deriving DecidableEq

/-- A fresh `COM1` with its reader started and the line at some level. -/
def fresh (irqLevel : Bool) : Threads :=
  { com1 := {}, stdout := [], irqLevel, guest := .idle, reader := .blocked }

/--
One atomic step.

`hostByte` is a `read` that returned a byte, together with its push under the
lock; `hostRetry` and `hostEof` are the other two results of `read`.  A guest
access is one label, labelled with the byte it returned when it is a read, and
the rest of a write access follows in `guestTestRx`, `guestLoadIer` and
`guestIrq`.  `guestWriteFailed` is a transmitter write whose `write(2)` fails.
-/
inductive Label where
  | hostByte (byte : UInt8)
  | hostRetry
  | hostEof
  | readerLoadIer
  | readerIrq (succeeded : Bool)
  | guestRead (port : Com1Port) (value : UInt8)
  | guestWrite (port : Com1Port) (byte : UInt8)
  | guestWriteFailed (byte : UInt8)
  | guestTestRx
  | guestLoadIer
  | guestIrq (succeeded : Bool)
deriving Repr

/-- The first atomic step of `COM1::Write`. -/
def Threads.beginWrite (source : Threads) (byte : UInt8) :
    Com1Port → Threads
  | .thrRbrDll =>
      if !source.com1.isDlabSet then
        if source.com1.isLoopSet then
          { source with com1 := source.com1.pushRx byte }
        else
          { source with
            stdout := source.stdout ++ [byte], guest := .thrLoadIer }
      else { source with com1 := { source.com1 with dll := byte } }
  | .ierDlh =>
      if !source.com1.isDlabSet then
        { source with
          com1 :=
            { source.com1 with ier := byte &&& com1RegIerWritableMask }
          guest := .ierTestRx }
      else { source with com1 := { source.com1 with dlh := byte } }
  | .iirFcr => { source with com1 := { source.com1 with fcr := byte } }
  | .lcr => { source with com1 := { source.com1 with lcr := byte } }
  | .mcr => { source with com1 := { source.com1 with mcr := byte } }
  | .lsr => source
  | .msr => source
  | .sr => { source with com1 := { source.com1 with sr := byte } }

/-- The atomic steps of the reader thread. -/
@[grind =]
def readerStep (source : Threads) : Label → Option Threads
  | .hostByte byte =>
      if source.reader = .blocked then
        some { source with
          com1 := source.com1.pushRx byte, reader := .loadIer }
      else none
  | .hostRetry => if source.reader = .blocked then some source else none
  | .hostEof =>
      if source.reader = .blocked then
        some { source with reader := .returned }
      else none
  | .readerLoadIer =>
      if source.reader = .loadIer then
        some { source with
          reader :=
            if source.com1.isDataAvlSet then .flapLow else .blocked }
      else none
  | .readerIrq succeeded =>
      match source.reader, succeeded with
      | .flapLow, true =>
          some { source with irqLevel := false, reader := .flapHigh }
      | .flapHigh, true =>
          some { source with irqLevel := true, reader := .blocked }
      | .flapLow, false => some { source with reader := .blocked }
      | .flapHigh, false => some { source with reader := .blocked }
      | _, _ => none
  | _ => none

/-- The atomic steps of the vCPU thread. -/
def guestStep (source : Threads) : Label → Option Threads
  | .guestRead port value =>
      if source.guest = .idle ∧ (source.com1.readPort port).1 = value then
        some { source with com1 := (source.com1.readPort port).2 }
      else none
  | .guestWrite port byte =>
      if source.guest = .idle then some (source.beginWrite byte port)
      else none
  | .guestWriteFailed _ =>
      if source.guest = .idle ∧ source.com1.isDlabSet = false ∧
          source.com1.isLoopSet = false then
        some source
      else none
  | .guestTestRx =>
      if source.guest = .ierTestRx then
        some { source with guest := .ierLoadIer source.com1.rxPending }
      else none
  | .guestLoadIer =>
      match source.guest with
      | .thrLoadIer =>
          some { source with
            guest :=
              if source.com1.isThrEmptySet then .flapLow .thr else .idle }
      | .ierLoadIer rxPending =>
          some { source with
            guest :=
              if source.com1.shouldRaise rxPending then .flapLow .ier
              else .idle }
      | _ => none
  | .guestIrq succeeded =>
      match source.guest, succeeded with
      | .flapLow origin, true =>
          some { source with irqLevel := false, guest := .flapHigh origin }
      | .flapHigh _, true =>
          some { source with irqLevel := true, guest := .idle }
      | .flapLow _, false => some { source with guest := .idle }
      | .flapHigh _, false => some { source with guest := .idle }
      | _, _ => none
  | _ => none

/-- One step of either thread. -/
@[grind =]
def step (source : Threads) (label : Label) : Option Threads :=
  match label with
  | .hostByte _ | .hostRetry | .hostEof | .readerLoadIer | .readerIrq _ =>
      readerStep source label
  | _ => guestStep source label

/-! ## The history of a run -/

/-- Where a byte of the receive buffer came from. -/
inductive Origin where
  | host
  | loopback
deriving DecidableEq, Repr

/-- The bytes which a step writes to 0x3F8 with DLAB and LOOP both clear. -/
def thrWrittenBy (source : Threads) : Label → List UInt8
  | .guestWrite .thrRbrDll byte =>
      if !source.com1.isDlabSet && !source.com1.isLoopSet then [byte] else []
  | .guestWriteFailed byte => [byte]
  | _ => []

/--
The bytes which a step adds to the arrivals: a host byte, or a byte written to
0x3F8 with DLAB clear and LOOP set.
-/
def arrivedBy (source : Threads) : Label → List (Origin × UInt8)
  | .hostByte byte => [(.host, byte)]
  | .guestWrite .thrRbrDll byte =>
      if !source.com1.isDlabSet && source.com1.isLoopSet then
        [(.loopback, byte)]
      else []
  | _ => []

/-- The step reads 0x3F8 with DLAB clear. -/
def readsRbr (source : Threads) : Label → Bool
  | .guestRead .thrRbrDll _ => !source.com1.isDlabSet
  | _ => false

/-- The bytes returned by a receive-buffer read that found the buffer filled. -/
def deliveredBy (source : Threads) (label : Label) : List UInt8 :=
  match label with
  | .guestRead _ value =>
      if readsRbr source label && source.com1.rxPending then [value] else []
  | _ => []

/-- The step pushes a byte of the host. -/
def pushesHost : Label → Bool
  | .hostByte _ => true
  | _ => false

/-- The step stores the interrupt-enable register. -/
def storesIer (source : Threads) : Label → Bool
  | .guestWrite .ierDlh _ => !source.com1.isDlabSet
  | _ => false

/-- The step takes the line from low to high. -/
def raisesLine (source : Threads) (label : Label) : Bool :=
  !source.irqLevel && ((step source label).map (·.irqLevel)).getD false

/--
What an observer of a run records.  Times count the steps of the run; the
`last` fields hold the time of the latest such step.
-/
structure History where
  clock : Nat := 0
  thrWritten : List UInt8 := []
  arrivals : List (Origin × UInt8) := []
  delivered : List UInt8 := []
  rbrReads : Nat := 0
  lastHostPush : Option Nat := none
  lastIerStore : Option Nat := none
  lastRise : Option Nat := none
deriving DecidableEq

def observe (source : Threads) (label : Label) (history : History) :
    History :=
  { clock := history.clock + 1
    thrWritten := history.thrWritten ++ thrWrittenBy source label
    arrivals := history.arrivals ++ arrivedBy source label
    delivered := history.delivered ++ deliveredBy source label
    rbrReads := history.rbrReads + (readsRbr source label).toNat
    lastHostPush :=
      if pushesHost label then some history.clock else history.lastHostPush
    lastIerStore :=
      if storesIer source label then some history.clock
      else history.lastIerStore
    lastRise :=
      if raisesLine source label then some history.clock
      else history.lastRise }

/-- Runs of a fresh device, with their history. -/
abbrev ObservedRun
    (irqLevel : Bool) (labels : List Label)
    (target : Threads) (history : History) : Prop :=
  Run (observed step observe) (fresh irqLevel, {}) labels (target, history)

/-- The `write(2)` of the step, if it makes one, writes its byte. -/
def Label.WritesByte : Label → Prop
  | .guestWriteFailed _ => False
  | _ => True

/-- The ioctl of the step, if it makes one, succeeds. -/
def Label.IoctlSucceeds : Label → Prop
  | .readerIrq succeeded => succeeded = true
  | .guestIrq succeeded => succeeded = true
  | _ => True

end Lvmm.Device.Com1Threads
