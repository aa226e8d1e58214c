import Lvmm.Device.Com1SmpStreams

/-!
# A console without loopback

While no CPU writes a modem control byte with the loopback bit, no byte of a CPU
gets into the receive buffer.  Unless a byte is lost, all of them are then on the
standard output, in the order in which the CPU wrote them.
-/

namespace Lvmm.Device.Com1SmpLoopback

open Lvmm.Device.Com1Device
open Lvmm.Device.Com1Smp
open Lvmm.Device.Com1SmpMoves
open Lvmm.Device.Com1SmpStreams
open Lvmm.Library.LabelledRun

/-! ## One access -/

section Runs

variable {Cpu : Type*}

variable [DecidableEq Cpu]
variable {source target : Smp Cpu} {label : Label Cpu}
variable {labels : List (Label Cpu)} {history : History Cpu}

end Runs

end Lvmm.Device.Com1SmpLoopback
