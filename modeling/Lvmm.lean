import Lvmm.Library.CellMemory
import Lvmm.Library.LittleEndian
import Lvmm.Library.PackedRecord
import Lvmm.Library.X86Paging
import Lvmm.Library.AdditiveChecksum
import Lvmm.Library.MpConfigTable
import Lvmm.Library.OverrideTable
import Lvmm.Library.LabelledRun
import Lvmm.Library.StoppingLoop
import Lvmm.Library.WhileLoop
import Lvmm.Library.LineEdges
import Lvmm.Library.Dispatch
import Lvmm.Device.Com1Device
import Lvmm.Device.CmosDevice
import Lvmm.Device.CmosAccess
import Lvmm.Device.CmosMemory
import Lvmm.Device.CmosClock
import Lvmm.Device.CmosSampling
import Lvmm.Device.PciConfig
import Lvmm.Device.IoDev
import Lvmm.Device.Com1Threads
import Lvmm.Device.Com1Access
import Lvmm.Device.Com1Streams
import Lvmm.Device.Com1Interrupt
import Lvmm.Device.Com1History
import Lvmm.Device.Com1Registers
import Lvmm.Device.Com1Signals
import Lvmm.Device.Com1Smp
import Lvmm.Device.Com1SmpMoves
import Lvmm.Device.Com1SmpInterrupts
import Lvmm.Device.Com1SmpTransmit
import Lvmm.Device.Com1SmpStreams
import Lvmm.Device.HostTerminal
import Lvmm.Vm.SysCall
import Lvmm.Vm.CreateVm
import Lvmm.Vm.KvmCaps
import Lvmm.Vm.CpuFeat
import Lvmm.Vm.IrqFlap
import Lvmm.Device.Com1Flaps
import Lvmm.Device.Com1SmpFlaps
import Lvmm.Boot.MpTables
import Lvmm.Boot.MpChecksum
import Lvmm.Boot.BootProtocol
import Lvmm.Vm.FileStream
import Lvmm.Vm.InitMachine
import Lvmm.Vm.InitRam
import Lvmm.Vm.BootLayout
import Lvmm.Vm.BootImage
import Lvmm.Vm.MemoryMap
import Lvmm.Vm.PageTable
import Lvmm.Vm.PortIo
import Lvmm.Vm.HandlerTable
import Lvmm.Vm.PortBus
import Lvmm.Vcpu.EntryState
import Lvmm.Vcpu.RegisterInit
import Lvmm.Vcpu.CpuidTable
import Lvmm.Vm.Main
import Lvmm.Vcpu.RunOnce
import Lvmm.Vcpu.StringIo
import Lvmm.Vcpu.PortRead
import Lvmm.Vcpu.RunLoop
import Lvmm.Vcpu.TraceLoop
import Lvmm.Vcpu.GuestMachine
import Lvmm.Vcpu.FatalExit
import Lvmm.Vm.Lifecycle
import Lvmm.Vm.ProgramEnd
import Lvmm.Device.CmosSmp
import Lvmm.Device.Com1SmpLoopback
import Lvmm.Vm.SmpAlone
import Lvmm.Vm.SmpConsole
import Lvmm.Vm.SmpIsolation
import Lvmm.Vm.SmpLoop
import Lvmm.Vm.SmpProgress
