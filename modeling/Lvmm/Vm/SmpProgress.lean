import Lvmm.Vm.SmpAlone
import Lvmm.Vm.SmpConsole
import Lvmm.Vm.SmpIsolation

/-!
# Every exit is served

No handler waits for another thread: a virtual CPU which is outside of `KVM_RUN` can
always take a step, and the exit it serves is over after a number of its own steps
which depends on the count of the exit alone, whatever the other threads do.
-/

namespace Lvmm.Vm.SmpProgress

open Lvmm.Device
open Lvmm.Device.CmosDevice
open Lvmm.Library.LabelledRun
open Lvmm.Vcpu.GuestMachine (accessIteration filled)
open Lvmm.Vcpu.RunLoop
open Lvmm.Vcpu.RunOnce
open Lvmm.Vm.PortBus
open Lvmm.Vm.PortIo
open Lvmm.Vm.SmpConsole (UartIdle uartIdle_moves)
open Lvmm.Vm.SmpIsolation (beginsIn)
open Lvmm.Vm.SmpMachine
open Lvmm.Vm.SmpThreads

/-! ## Ranks -/

section Threads

variable {Cpu : Type*}
variable {devices : Devices Cpu} {cpu : Cpu} {act : Act Cpu}
variable {source next : Thread} {iteration : Iteration} {index : Nat}

/-- The handler of a device serves an element which the exit has. -/
def Within (thread : Thread) : Prop :=
  ∀ iteration index,
    thread.vcpu.place = .inCmos iteration index ∨
        thread.vcpu.place = .inCom1 iteration index →
      index < thread.io.count.toNat

end Threads

/-! ## Runs -/

section Runs

variable {Cpu : Type*} [DecidableEq Cpu]
variable {source target : Machine Cpu} {label : SmpMachine.Label Cpu}
variable {labels : List (SmpMachine.Label Cpu)} {cpu : Cpu}
variable {pages : Cpu → KvmPage} {cmosIndex : UInt8} {irqLevel : Bool}

end Runs

end Lvmm.Vm.SmpProgress
