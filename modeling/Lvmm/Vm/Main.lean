import Lvmm.Vm.BootImage
import Lvmm.Vm.CpuFeat
import Lvmm.Vcpu.RegisterInit

/-!
# The program up to the start of the virtual CPUs

`main` opens the KVM device, constructs `KVM`, creates the machine, initialises it,
loads guest memory and boots.  Each stage was modelled on its own; here they follow
each other as in `main`, and what the last one hands over is what the guest starts
with: the kernel at the instruction pointer and its parameters behind `rsi`.
-/

namespace Lvmm.Vm.Main

open Lvmm.Library.CellMemory
open Lvmm.Library.LittleEndian
open Lvmm.Library.PackedRecord
open Lvmm.Library.StoppingLoop
open Lvmm.Boot.BootProtocol
open Lvmm.Boot.MpTables
open Lvmm.Vm.SysCall
open Lvmm.Vm.CreateVm
open Lvmm.Vm.KvmCaps
open Lvmm.Vm.CpuFeat
open Lvmm.Vm.FileStream
open Lvmm.Vm.InitMachine
open Lvmm.Vm.InitRam
open Lvmm.Vm.BootLayout
open Lvmm.Vm.BootImage
open Lvmm.Vcpu.EntryState
open Lvmm.Vcpu.RegisterInit

/-! ## `main` -/

/--
What the program finds: the answers to its system calls, the processor, the two
files (`none` is a file that cannot be opened), and what its memory holds before
it is written.
-/
structure Environment where
  openKvm : SysResult
  processor : Processor
  kvmAnswers : KvmCall → SysResult
  unset : KvmCap
  createVm : SysResult
  kernelFile : Option (List UInt8)
  initramfsFile : Option (List UInt8)
  buf : Vector UInt8 4
  initAnswers : InitCall → SysResult
  registers : Nat → Registers
  memory : Memory UInt8

/-- How the program ends, or the machine it boots. -/
inductive Outcome where
  | exited (status : Int)
  | threw
  | aborted
  | undefined
  | booted (registers : Nat → Registers) (ram : BootState)

/-- `KVM::getKVMFD`. -/
def getKvmFd (answer : SysResult) : Int :=
  match answer with
  | .ok fd => fd
  | .error errno => -(errno.value : Int)

/-- The tests in the constructor of `VM`: whether it throws. -/
def vmThrows
    (buf : Vector UInt8 4) (kernelFile initramfsFile : Option (List UInt8)) :
    Bool :=
  match kernelFile, initramfsFile with
  | some kernelFile, some _ => (isKernelElf buf (.opened kernelFile)).1
  | _, _ => true

/-- `vm->initRAM(cmdline)` and what follows, on a machine set up so far. -/
def loadAndBoot
    (conf : VmConfig) (cmdline : List UInt8) (env : Environment) : Outcome :=
  match
    initRam conf cmdline
      (.constructed env.buf (env.kernelFile.getD [])
        (env.initramfsFile.getD []) env.memory) with
  | (.aborted, _) => .aborted
  | (.undefined, _) => .undefined
  | (.returned result, ram) =>
      if result ≠ 0 then .exited (-1)
      else
        .booted
          (registersAfter env.initAnswers conf.vcpuNum conf.is64bitBoot
            env.registers)
          ram

/-- `vm->initMachine()` and what follows. -/
def initialise
    (conf : VmConfig) (cmdline : List UInt8) (env : Environment) : Outcome :=
  match (initMachine env.initAnswers conf.vcpuNum conf.is64bitBoot).ending with
  | .threw => .threw
  | .aborted => .aborted
  | .returned result =>
      if result ≠ 0 then .exited (-1) else loadAndBoot conf cmdline env

/-- `kvm->kvmCreateVM(&vm, vm_conf)` and what follows; a result is tested first. -/
def createAndInitialise
    (conf : VmConfig) (cmdline : List UInt8) (env : Environment)
    (kvm : Kvm) : Outcome :=
  match
    kvmCreateVm kvm.cap conf.vcpuNum env.createVm
      (vmThrows env.buf env.kernelFile env.initramfsFile) with
  | .threw => .threw
  -- only a negative result keeps `main` from using an unset `vm`
  | .failed result => if result < 0 then .exited (-1) else .undefined
  | .created result =>
      if result < 0 then .exited (-1) else initialise conf cmdline env

/-- `main` for some configuration and command line, up to the virtual CPUs. -/
def main
    (conf : VmConfig) (cmdline : List UInt8) (env : Environment) : Outcome :=
  if getKvmFd env.openKvm < 0 then .exited (-1)
  else
    match construct env.processor env.kvmAnswers env.unset with
    | .error _ => .threw
    | .ok kvm => createAndInitialise conf cmdline env kvm

/-- `vm_conf` of the program. -/
def vmConf : VmConfig where
  vcpuNum := 1
  ramSize := (1 : UInt64) <<< 30
  is64bitBoot := false

/-- The command line which the program passes to `initRAM`. -/
def vmCmdline : String :=
  "console=ttyS0 earlyprintk=serial noapic noacpi nowatchdog " ++
  "nmi_watchdog=0 debug apic=debug show_lapic=all mitigations=off lapic " ++
  "rdinit=/init init=/init"

/-- The program, up to the virtual CPUs. -/
def program (env : Environment) : Outcome :=
  main vmConf vmCmdline.toUTF8.toList env

/-! ## When it boots -/

/-- Every stage of the start-up succeeds. -/
structure Boots (conf : VmConfig) (env : Environment) : Prop where
  device : env.openKvm.Succeeded
  /-- The processor is recognised; whether it has the feature is not asked. -/
  processor :
    HasVirtualisation env.processor ∨ LacksVirtualisation env.processor
  kvm : ∀ call, (env.kvmAnswers call).Succeeded
  limit : ∀ value,
    env.kvmAnswers (.checkExtension .maxVcpus) = .ok value →
      conf.vcpuNum ≤ value
  created : env.createVm.Succeeded
  kernel : ∃ kernelFile, env.kernelFile = some kernelFile ∧
    Bootable kernelFile ∧ kernelFile.take 4 ≠ elfMagic
  initramfs : ∃ initramfsFile, env.initramfsFile = some initramfsFile
  /-- No ioctl on registers is among those which have to succeed. -/
  machine : ReachesRegisters env.initAnswers conf.vcpuNum

/-! ## The stages -/

theorem getKvmFd_neg_iff (answer : SysResult) :
    getKvmFd answer < 0 ↔ ¬ answer.Succeeded :=
  kvmIoctl_neg_iff answer

/-- The loop over the capabilities throws at the first failing answer. -/
theorem succeeded_of_storeAnswers
    {ask : Capability → SysResult} {capabilities : List Capability}
    {member : Nat} {cap stored : KvmCap}
    (completed : storeAnswers ask capabilities member cap = some stored) :
    ∀ capability ∈ capabilities, (ask capability).Succeeded := by
  induction capabilities generalizing member cap with
  | nil => simp
  | cons first rest induction =>
      rw [storeAnswers] at completed
      rcases Option.bind_eq_some_iff.mp completed with
        ⟨answer, answered, continued⟩
      rcases Option.bind_eq_some_iff.mp continued with ⟨next, _, rest⟩
      intro capability inList
      rcases List.mem_cons.mp inList with rfl | later
      · cases asked : ask capability with
        | ok value => trivial
        | error errno =>
            rw [asked] at answered
            cases answered
      · exact induction rest capability later

theorem exists_values
    {Call : Type} {answers : Call → SysResult}
    (succeed : ∀ call, (answers call).Succeeded) :
    ∃ values : Call → Nat, answers = fun call => .ok (values call) := by
  have each : ∀ call, ∃ value, answers call = .ok value := by
    intro call
    have succeeded := succeed call
    cases answer : answers call with
    | ok value => exact ⟨value, rfl⟩
    | error errno =>
        rw [answer] at succeeded
        exact succeeded.elim
  choose values isValue using each
  exact ⟨values, funext isValue⟩

/-- `KVM::KVM` completes only where every ioctl of it succeeds. -/
theorem succeeded_of_construct
    {processor : Processor} {answers : KvmCall → SysResult}
    {unset : KvmCap} {kvm : Kvm}
    (constructed : construct processor answers unset = .ok kvm) :
    ∀ call, (answers call).Succeeded := by
  have ioctl {call : KvmCall} {value : Int}
      (returned : orThrow (kvmIoctlCtor (answers call)) = .ok value) :
      (answers call).Succeeded := by
    cases answer : answers call with
    | ok value => trivial
    | error errno =>
        rw [answer] at returned
        cases returned
  cases tested : cpuSupportsVm processor with
  | error what =>
      simp [construct, tested, Except.mapError, bind, Except.bind]
        at constructed
  | ok supported =>
      simp only [construct, tested, Except.mapError, bind, Except.bind,
        pure, Except.pure] at constructed
      split at constructed
      · cases constructed
      · rename_i apiVer version
        split at constructed
        · cases constructed
        · rename_i cap checked
          split at constructed
          · cases constructed
          · rename_i mmapSize mapped
            intro call
            cases call with
            | getApiVersion => exact ioctl version
            | getVcpuMmapSize => exact ioctl mapped
            | checkExtension capability =>
                cases answered :
                    kvmCapCheck
                      (fun capability =>
                        answers (.checkExtension capability)) unset with
                | none =>
                    rw [answered] at checked
                    cases checked
                | some other =>
                    rcases Option.map_eq_some_iff.mp answered with
                      ⟨stored, completed, _⟩
                    exact succeeded_of_storeAnswers completed capability
                      (by cases capability <;> decide)

/-- What `KVM::KVM` needs, and the hard limit it stores. -/
theorem construct_eq_ok_iff
    (processor : Processor) (answers : KvmCall → SysResult)
    (unset : KvmCap) :
    (∃ kvm, construct processor answers unset = .ok kvm) ↔
      (HasVirtualisation processor ∨ LacksVirtualisation processor) ∧
        ∀ call, (answers call).Succeeded := by
  have recognised :
      (∃ supported, cpuSupportsVm processor = .ok supported) ↔
        HasVirtualisation processor ∨ LacksVirtualisation processor := by
    rw [← cpuSupportsVm_true_iff, ← cpuSupportsVm_false_iff, Bool.exists_bool]
    exact or_comm
  rw [← recognised]
  constructor
  · rintro ⟨kvm, constructed⟩
    have succeed := succeeded_of_construct constructed
    rcases exists_values succeed with ⟨values, rfl⟩
    exact ⟨(construct_ok_iff processor values unset).mp ⟨kvm, constructed⟩,
      succeed⟩
  · rintro ⟨tested, succeed⟩
    rcases exists_values succeed with ⟨values, rfl⟩
    exact (construct_ok_iff processor values unset).mpr tested

theorem construct_limit
    {processor : Processor} {answers : KvmCall → SysResult}
    {unset : KvmCap} {kvm : Kvm} {value : Nat}
    (constructed : construct processor answers unset = .ok kvm)
    (reported : answers (.checkExtension .maxVcpus) = .ok value) :
    kvm.cap.hardVcpusLimit = value := by
  rcases exists_values (succeeded_of_construct constructed) with
    ⟨values, rfl⟩
  have checked :=
    kvmCapCheck_ok (fun capability => values (.checkExtension capability))
      unset
  cases reported
  cases tested : cpuSupportsVm processor with
  | error what =>
      simp [construct, tested, Except.mapError, bind, Except.bind]
        at constructed
  | ok supported =>
      simp only [construct, tested, checked, Except.mapError, orThrow,
        kvmIoctlCtor, bind, Except.bind, pure, Except.pure,
        Except.ok.injEq] at constructed
      rw [← constructed]

/-- `kvmCreateVM` creates the machine where nothing speaks against it. -/
theorem accepts_iff
    (cap : KvmCap) (vcpuNum : Int) (createVm : SysResult) (throws : Bool) :
    Accepts cap vcpuNum createVm throws ↔
      vcpuNum ≤ cap.hardVcpusLimit ∧ createVm.Succeeded ∧
        throws = false := by
  rw [Accepts, kvmCreateVm]
  have negative := kvmIoctl_neg_iff createVm
  split_ifs with exceeds failed thrown
  · simp
    omega
  · simp [negative.mp failed]
  · simp [thrown]
  · have succeeded : createVm.Succeeded :=
      not_not.mp fun unsuccessful => failed (negative.mpr unsuccessful)
    simp [succeeded, thrown]
    omega

/-- `initMachine` returns zero exactly when it gets as far as the registers. -/
theorem initMachine_returned_zero_iff
    (answers : InitCall → SysResult) (vcpuNum : Int) :
    (initMachine answers vcpuNum false).ending = .returned 0 ↔
      ReachesRegisters answers vcpuNum := by
  have loop :
      (initMachine answers vcpuNum false).ending =
        (initmachineFunc.findSome?
          (stopAfter answers vcpuNum false)).getD (.returned 0) := by
    rw [initMachine_eq, findSome?_eq_last]
    rfl
  rw [loop]
  constructor
  · intro zero
    cases stopped :
        initmachineFunc.findSome? (stopAfter answers vcpuNum false) with
    | none =>
        have passes := List.findSome?_eq_none_iff.mp stopped
        have every : executed answers vcpuNum false = initmachineFunc :=
          reached_of_forall_none passes
        have member : .initVcpuRegs ∈ executed answers vcpuNum false := by
          rw [every]
          decide
        exact initVcpuRegs_executed.mp member
    | some ending =>
        -- a step only stops the loop with a negative value
        rw [stopped, Option.getD_some] at zero
        subst zero
        rcases List.exists_of_findSome?_eq_some stopped with ⟨step, _, stop⟩
        rw [stopAfter] at stop
        cases ended : (perform answers vcpuNum false step).ending with
        | returned result =>
            rw [ended, Ending.stop] at stop
            split_ifs at stop with negative
            cases stop
            exact absurd negative (by decide)
        | threw | aborted =>
            rw [ended] at stop
            cases stop
  · intro reaches
    have last : stopAfter answers vcpuNum false .initVcpuSregs = none :=
      registerStep_stop answers vcpuNum .getSregs .setSregs
    rw [findSome?_eq_last]
    have every : executed answers vcpuNum false = initmachineFunc :=
      executed_of_reaches reaches
    rw [executed] at every
    rw [every]
    simp [initmachineFunc, last]

/-- `initRAM` returns zero exactly for the bootable files. -/
theorem initRam_returned_zero_iff
    {conf : VmConfig} (cmdline kernelFile initramfsFile : List UInt8)
    (buf : Vector UInt8 4) (memory : Memory UInt8)
    (protectedMode : conf.is64bitBoot = false)
    (few : conf.vcpuNum ≤ mpMaxVcpuNum) :
    (initRam conf cmdline
        (.constructed buf kernelFile initramfsFile memory)).1 =
          .returned 0 ↔
      Bootable kernelFile := by
  rw [← loadable_iff_bootable]
  constructor
  · intro returned
    exact (loadable_of_returned_zero returned).2.1
  · intro loadable
    rcases genEbda_of_int_le few with ⟨area, generated⟩
    rcases fillBootParams_maps conf initramfsFile.length
        (setupHeaderOf kernelFile) with
      ⟨bp, filled, -, -⟩
    rw [initRam_of_loadable cmdline buf memory generated filled loadable
      protectedMode]

/-! ## The whole program -/

section Program

variable {conf : VmConfig} {cmdline : List UInt8} {env : Environment}
variable {registers : Nat → Registers} {ram : BootState}

/-- What the constructor of `VM` leaves for `initRAM`. -/
def Environment.loaded
    (env : Environment) (conf : VmConfig) (cmdline : List UInt8) :
    InitRam.Ending × BootState :=
  initRam conf cmdline
    (.constructed env.buf (env.kernelFile.getD [])
      (env.initramfsFile.getD []) env.memory)

theorem loadAndBoot_eq_booted_iff :
    loadAndBoot conf cmdline env = .booted registers ram ↔
      env.loaded conf cmdline = (.returned 0, ram) ∧
        registers =
          registersAfter env.initAnswers conf.vcpuNum conf.is64bitBoot
            env.registers := by
  rw [loadAndBoot, ← Environment.loaded]
  rcases env.loaded conf cmdline with ⟨ending, after⟩
  cases ending with
  | aborted | undefined => simp
  | returned result =>
      by_cases zero : result = 0
      · simp [zero, eq_comm, and_comm]
      · simp [zero]

theorem initialise_eq_booted_iff :
    initialise conf cmdline env = .booted registers ram ↔
      (initMachine env.initAnswers conf.vcpuNum conf.is64bitBoot).ending =
          .returned 0 ∧
        loadAndBoot conf cmdline env = .booted registers ram := by
  rw [initialise]
  cases (initMachine env.initAnswers conf.vcpuNum conf.is64bitBoot).ending with
  | threw | aborted => simp
  | returned result =>
      by_cases zero : result = 0
      · simp [zero]
      · simp [zero]

theorem createAndInitialise_eq_booted_iff {kvm : Kvm} :
    createAndInitialise conf cmdline env kvm = .booted registers ram ↔
      Accepts kvm.cap conf.vcpuNum env.createVm
          (vmThrows env.buf env.kernelFile env.initramfsFile) ∧
        initialise conf cmdline env = .booted registers ram := by
  rw [createAndInitialise, Accepts]
  cases created :
      kvmCreateVm kvm.cap conf.vcpuNum env.createVm
        (vmThrows env.buf env.kernelFile env.initramfsFile) with
  | threw => simp
  | failed result =>
      by_cases negative : result < 0
      · simp [negative]
      · simp [negative]
  | created result =>
      have notNegative : ¬ result < 0 := by
        rw [kvmCreateVm] at created
        split_ifs at created with exceeds failed throws
        cases created
        exact failed
      simp [notNegative]

/-- The machine that is booted, stage by stage. -/
theorem main_eq_booted_iff :
    main conf cmdline env = .booted registers ram ↔
      env.openKvm.Succeeded ∧
        (∃ kvm,
          construct env.processor env.kvmAnswers env.unset = .ok kvm ∧
            Accepts kvm.cap conf.vcpuNum env.createVm
              (vmThrows env.buf env.kernelFile env.initramfsFile)) ∧
        (initMachine env.initAnswers conf.vcpuNum conf.is64bitBoot).ending =
          .returned 0 ∧
        env.loaded conf cmdline = (.returned 0, ram) ∧
        registers =
          registersAfter env.initAnswers conf.vcpuNum conf.is64bitBoot
            env.registers := by
  rw [main, ← loadAndBoot_eq_booted_iff, ← initialise_eq_booted_iff]
  by_cases opened : env.openKvm.Succeeded
  · have nonnegative : ¬ getKvmFd env.openKvm < 0 := by
      rw [getKvmFd_neg_iff]
      exact not_not_intro opened
    rw [if_neg nonnegative]
    cases constructed : construct env.processor env.kvmAnswers env.unset with
    | error thrown => simp
    | ok kvm => simp [opened, createAndInitialise_eq_booted_iff]
  · have negative : getKvmFd env.openKvm < 0 :=
      (getKvmFd_neg_iff _).mpr opened
    simp [negative, opened]

/-- The constructor of `VM` completes for two files, the first one not ELF. -/
theorem vmThrows_eq_false_iff
    {buf : Vector UInt8 4} {kernelFile initramfsFile : Option (List UInt8)} :
    vmThrows buf kernelFile initramfsFile = false ↔
      ∃ kernel initramfs, kernelFile = some kernel ∧
        initramfsFile = some initramfs ∧
        (isKernelElf buf (.opened kernel)).1 = false := by
  cases kernelFile with
  | none => simp [vmThrows]
  | some kernel =>
      cases initramfsFile with
      | none => simp [vmThrows]
      | some initramfs => simp [vmThrows]

/-- The test for an ELF file looks at the first four bytes of a bootable one. -/
theorem isKernelElf_of_bootable
    (buf : Vector UInt8 4) {kernelFile : List UInt8}
    (bootable : Bootable kernelFile) :
    (isKernelElf buf (.opened kernelFile)).1 = false ↔
      kernelFile.take 4 ≠ elfMagic := by
  have whole : 4 ≤ kernelFile.length :=
    Nat.le_trans (by decide) bootable.header
  rw [isKernelElf_opened buf whole]
  exact beq_eq_false_iff_ne

/-- Where every stage succeeds a machine is booted. -/
theorem booted_of_boots
    (cmdline : List UInt8) (protectedMode : conf.is64bitBoot = false)
    (few : conf.vcpuNum ≤ mpMaxVcpuNum) (boots : Boots conf env) :
    ∃ registers ram, main conf cmdline env = .booted registers ram := by
  rcases boots.kernel with ⟨kernelFile, kernel, bootable, notElf⟩
  rcases boots.initramfs with ⟨initramfsFile, initramfs⟩
  rcases (construct_eq_ok_iff env.processor env.kvmAnswers env.unset).mpr
      ⟨boots.processor, boots.kvm⟩ with
    ⟨kvm, constructed⟩
  have within : conf.vcpuNum ≤ kvm.cap.hardVcpusLimit := by
    have succeeded := boots.kvm (.checkExtension .maxVcpus)
    cases reported : env.kvmAnswers (.checkExtension .maxVcpus) with
    | ok value =>
        rw [construct_limit constructed reported]
        exact boots.limit value reported
    | error errno =>
        rw [reported] at succeeded
        exact succeeded.elim
  have throws :
      vmThrows env.buf env.kernelFile env.initramfsFile = false :=
    vmThrows_eq_false_iff.mpr
      ⟨kernelFile, initramfsFile, kernel, initramfs,
        (isKernelElf_of_bootable env.buf bootable).mpr notElf⟩
  have returned : (env.loaded conf cmdline).1 = .returned 0 := by
    rw [Environment.loaded, kernel, Option.getD_some]
    exact (initRam_returned_zero_iff cmdline kernelFile _ _ _ protectedMode
      few).mpr bootable
  refine ⟨_, (env.loaded conf cmdline).2, main_eq_booted_iff.mpr
    ⟨boots.device, ⟨kvm, constructed, ?_⟩, ?_, Prod.ext returned rfl, rfl⟩⟩
  · exact (accepts_iff _ _ _ _).mpr ⟨within, boots.created, throws⟩
  · rw [protectedMode]
    exact (initMachine_returned_zero_iff _ _).mpr boots.machine

/-- A virtual CPU starts in the kernel of a file, as the boot protocol says. -/
structure EntersKernel
    (kernelFile initramfsFile : List UInt8) (memory : Memory UInt8)
    (before after : Registers) : Prop where
  /-- At the instruction pointer is the part behind the setup sectors. -/
  payload : ∀ index,
    512 * (setupSectors kernelFile + 1) + index < kernelFile.length →
      memory (after.regs.rip.toNat + index) =
        fileByte kernelFile (512 * (setupSectors kernelFile + 1) + index)
  /-- `rsi` is the address of the parameters. -/
  parameters : ∀ decided ∈ decidedFields kernelFile initramfsFile,
    loadWord memory (after.regs.rsi.toNat + fieldOffset decided.1)
      (setupHeaderLayout.width decided.1) = decided.2
  flags : after.regs.rflags = 2
  kept :
    { after.regs with
      rip := before.regs.rip, rsi := before.regs.rsi
      rflags := before.regs.rflags } = before.regs
  mode : ProtectedModeEntry before.sregs after.sregs

/-- What the program hands over to the guest. -/
structure HandsOver
    (conf : VmConfig) (env : Environment)
    (kernelFile initramfsFile : List UInt8)
    (registers : Nat → Registers) (ram : BootState) : Prop where
  memory : Passes conf kernelFile initramfsFile ram.memory
  /-- A CPU whose ioctls and those before it succeed starts in the kernel. -/
  entering : ∀ cpu,
    Prefix env.initAnswers conf.vcpuNum .getRegs .setRegs cpu →
      Prefix env.initAnswers conf.vcpuNum .getSregs .setSregs cpu →
        EntersKernel kernelFile initramfsFile ram.memory
          (env.registers cpu) (registers cpu)
  /-- Any other one starts where a reset leaves it, and nobody is told. -/
  left : ∀ cpu,
    ¬ Prefix env.initAnswers conf.vcpuNum .getRegs .setRegs cpu →
      (registers cpu).regs = (env.registers cpu).regs

theorem passes_of_loaded
    {buf : Vector UInt8 4} {kernelFile initramfsFile : List UInt8}
    {memory : Memory UInt8}
    (protectedMode : conf.is64bitBoot = false)
    (few : conf.vcpuNum ≤ mpMaxVcpuNum)
    (small : initramfsFile.length < 2 ^ 32)
    (loaded :
      initRam conf cmdline
          (.constructed buf kernelFile initramfsFile memory) =
        (.returned 0, ram)) :
    Passes conf kernelFile initramfsFile ram.memory := by
  have loadable := (loadable_of_returned_zero (congrArg Prod.fst loaded)).2.1
  rcases genEbda_of_int_le few with ⟨area, generated⟩
  rcases fillBootParams_maps conf initramfsFile.length
      (setupHeaderOf kernelFile) with
    ⟨bp, filled, maps, header⟩
  rw [initRam_of_loadable cmdline buf memory generated filled loadable
    protectedMode] at loaded
  cases loaded
  exact passes_of_holds loadable.header small maps header
    (holds_bootParams memory area initramfsFile cmdline bp kernelFile)
    (holds_kernel memory area initramfsFile cmdline bp kernelFile)

/-- The machine that is booted is the one the boot protocol asks for. -/
theorem main_hands_over
    {kernelFile initramfsFile : List UInt8}
    (protectedMode : conf.is64bitBoot = false)
    (few : conf.vcpuNum ≤ mpMaxVcpuNum)
    (kernel : env.kernelFile = some kernelFile)
    (initramfs : env.initramfsFile = some initramfsFile)
    (small : initramfsFile.length < 2 ^ 32)
    (booted : main conf cmdline env = .booted registers ram) :
    HandsOver conf env kernelFile initramfsFile registers ram := by
  rcases main_eq_booted_iff.mp booted with
    ⟨-, -, ending, loaded, isRegisters⟩
  rw [Environment.loaded, kernel, initramfs, Option.getD_some,
    Option.getD_some] at loaded
  rw [protectedMode] at ending
  have reaches := (initMachine_returned_zero_iff _ _).mp ending
  have passes :=
    passes_of_loaded protectedMode few small loaded
  refine ⟨passes, ?_, ?_⟩
  · intro cpu regsSucceed sregsSucceed
    have regs :
        (registers cpu).regs =
          (env.registers cpu).regs.enteringAt highmemBase
            (.ofNat bootParamsAddr) := by
      rw [isRegisters]
      exact (registersAfter_regs reaches env.registers cpu).1 regsSucceed
    have sregs :
        (registers cpu).sregs = (env.registers cpu).sregs.protectedMode := by
      rw [isRegisters]
      exact (registersAfter_sregs reaches env.registers cpu).1 protectedMode
        sregsSucceed
    have stack : (UInt64.ofNat bootParamsAddr).toNat = bootParamsAddr := by
      decide
    constructor
    · rw [regs]
      exact passes.payload
    · intro decided member
      rw [regs, VcpuRegs.enteringAt, stack]
      exact passes.decided decided member
    · rw [regs]
      rfl
    · rw [regs]
      rfl
    · rw [sregs]
      exact protectedModeEntry _
  · intro cpu fails
    rw [isRegisters]
    exact (registersAfter_regs reaches env.registers cpu).2 fails

end Program

/-! ## A small machine -/

/-- Every call succeeds, on a processor whose VMX is switched off. -/
def smallEnvironment : Environment where
  openKvm := .ok 3
  processor := intelWithoutVmx
  kvmAnswers := fun _ => .ok 8
  unset := ⟨0, 0, 0, 0, 0, 0⟩
  createVm := .ok 4
  kernelFile := some smallKernel
  initramfsFile := some smallInitramfs
  buf := .replicate 4 0
  initAnswers := fun _ => .ok 0
  registers := fun _ =>
    { regs := ⟨0, 0, 0, 0, 0, 0, 0, 0, 0, 0, 0, 0, 0, 0, 0, 0, 0xfff0, 2⟩
      sregs := resetSregs }
  memory := fun _ => 0

theorem smallEnvironment_boots : Boots vmConf smallEnvironment where
  device := trivial
  processor := Or.inr ((cpuSupportsVm_false_iff _).mp rfl)
  kvm := fun _ => trivial
  limit := by
    rintro value ⟨⟩
    decide
  created := trivial
  kernel :=
    ⟨smallKernel, rfl,
      (loadable_iff_bootable smallKernel).mp smallKernel_loadable,
      by decide +kernel⟩
  initramfs := ⟨smallInitramfs, rfl⟩
  machine :=
    ⟨⟨trivial, trivial, trivial, trivial⟩,
      ⟨by decide, fun _ _ => ⟨trivial, trivial, trivial⟩⟩,
      trivial, trivial⟩

theorem main_hands_over_small :
    ∃ registers ram, program smallEnvironment = .booted registers ram ∧
      HandsOver vmConf smallEnvironment smallKernel smallInitramfs registers
        ram := by
  rcases booted_of_boots vmCmdline.toUTF8.toList rfl (by decide)
      smallEnvironment_boots with
    ⟨registers, ram, booted⟩
  exact ⟨registers, ram, booted,
    main_hands_over rfl (by decide) rfl rfl (by decide) booted⟩

end Lvmm.Vm.Main
