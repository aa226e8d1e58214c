import Lvmm.Vcpu.FatalExit
import Lvmm.Vm.Lifecycle

/-!
# How the program ends

The program has one virtual CPU, and its `RunLoop` works on the devices which
`VM::initMachine` adds.  Where the start-up succeeds, the thread is created and the
host answers the calls of the devices, the exits of that loop decide how the
process ends.
-/

namespace Lvmm.Vm.ProgramEnd

open Lvmm.Library.LabelledRun
open Lvmm.Vcpu.RunOnce
open Lvmm.Vcpu.RunLoop (machineTable runAfter)
open Lvmm.Vcpu.GuestMachine
open Lvmm.Vcpu.FatalExit
open Lvmm.Vm.PortBus
open Lvmm.Vm.Lifecycle
open Lvmm.Vm.Main
  (Boots booted_of_boots smallEnvironment_boots vmConf)

section Program

variable {setting : Setting} {platform : Platform}
variable {source target : Process} {label : Label}

end Program

/-! ## A guest which halts -/

/-- The start, one thread, its end, the join and the exit. -/
def haltLabels : List Label :=
  [.start, .spawn true, .runLoop 0 (.returned 1), .join, .exit]

end Lvmm.Vm.ProgramEnd
