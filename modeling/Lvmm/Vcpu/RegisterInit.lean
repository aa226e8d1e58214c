import Lvmm.Vcpu.EntryState
import Lvmm.Vm.InitRam

/-!
# The registers every virtual CPU starts with

The last two steps of `VM::initMachine` go through the virtual CPUs, read the
registers of each, change them and write them back.  Both loops stop at the first
ioctl that fails, but the initialisation goes on and may still report success.
Here the steps act on the registers which the kernel holds for every virtual CPU.
-/

namespace Lvmm.Vcpu.RegisterInit

open Lvmm.Library.StoppingLoop
open Lvmm.Vm.SysCall
open Lvmm.Vm.InitMachine
open Lvmm.Vm.InitRam (bootParamsAddr highmemBase)
open Lvmm.Vcpu.EntryState

/-! ## `Vcpu::InitRegs` -/

/-- `vcpu_regs`. -/
structure VcpuRegs where
  rax : UInt64
  rbx : UInt64
  rcx : UInt64
  rdx : UInt64
  rsi : UInt64
  rdi : UInt64
  rsp : UInt64
  rbp : UInt64
  r8 : UInt64
  r9 : UInt64
  r10 : UInt64
  r11 : UInt64
  r12 : UInt64
  r13 : UInt64
  r14 : UInt64
  r15 : UInt64
  rip : UInt64
  rflags : UInt64
deriving DecidableEq

def rfInit : UInt64 := shiftedInt 1

/-- The three assignments of `Vcpu::InitRegs`. -/
def VcpuRegs.enteringAt (regs : VcpuRegs) (rip rsi : UInt64) : VcpuRegs :=
  { regs with rip, rsi, rflags := rfInit }

/-- What was passed to `KVM_SET_REGS`, and the value returned. -/
structure RegsRun where
  passed : Option VcpuRegs
  result : Int
deriving DecidableEq

/--
`Vcpu::InitRegs`, given what `KVM_GET_REGS` answers and reads and what
`KVM_SET_REGS` answers.
-/
def initRegs
    (rip rsi : UInt64) (getAnswer : SysResult) (read : VcpuRegs)
    (setAnswer : SysResult) : RegsRun :=
  if zeroOrErrno getAnswer ≠ 0 then
    { passed := none, result := zeroOrErrno getAnswer }
  else
    { passed := some (read.enteringAt rip rsi)
      result := if zeroOrErrno setAnswer ≠ 0 then zeroOrErrno setAnswer else 0 }

/-! ## The two steps -/

/-- What the kernel holds for a virtual CPU. -/
structure Registers where
  regs : VcpuRegs
  sregs : VcpuSregs
deriving DecidableEq

/-- An ioctl which succeeds stores what was passed to it. -/
def stored {Value : Type} (current : Value) (passed : Option Value)
    (answer : SysResult) : Value :=
  if answer.Succeeded then passed.getD current else current

section Steps

variable (answers : InitCall → SysResult)

/-- `(vcpus+i)->InitRegs(HIGHMEM_BASE, BOOT_PARAMS_ADDR)`. -/
def initRegsOf (cpu : Nat) (read : VcpuRegs) : RegsRun :=
  initRegs highmemBase (.ofNat bootParamsAddr) (answers (.getRegs cpu)) read
    (answers (.setRegs cpu))

/-- `(vcpus+i)->InitSregs(vm_conf.is_64bit_boot)`. -/
def initSregsOf (is64BitBoot : Bool) (cpu : Nat) (read : VcpuSregs) :
    SregsRun :=
  EntryState.initSregs is64BitBoot (answers (.getSregs cpu)) read
    (answers (.setSregs cpu))

/-- One iteration of the loop in `VM::initVcpuRegs`. -/
def regsIteration (cpu : Nat) (table : Nat → Registers) :
    (Nat → Registers) × Option Ending :=
  let run := initRegsOf answers cpu (table cpu).regs
  (Function.update table cpu
      { table cpu with
        regs :=
          stored (table cpu).regs run.passed (answers (.setRegs cpu)) },
    if run.result ≠ 0 then some (.returned 1) else none)

/-- One iteration of the loop in `VM::initVcpuSregs`. -/
def sregsIteration (is64BitBoot : Bool) (cpu : Nat)
    (table : Nat → Registers) : (Nat → Registers) × Option Ending :=
  let run := initSregsOf answers is64BitBoot cpu (table cpu).sregs
  (Function.update table cpu
      { table cpu with
        sregs :=
          stored (table cpu).sregs run.passed (answers (.setSregs cpu)) },
    if run.result ≠ 0 then some (.returned 1) else none)

/-- `VM::initVcpuRegs`: the registers after it, and how it ends. -/
def initVcpuRegs (vcpuNum : Int) (table : Nat → Registers) :
    (Nat → Registers) × Ending :=
  let (after, stopped) :=
    runUntil (regsIteration answers) (List.range vcpuNum.toNat) table
  (after, stopped.getD (.returned 0))

/-- `VM::initVcpuSregs`, which asserts that the boot is not a 64-bit one. -/
def initVcpuSregs (vcpuNum : Int) (is64BitBoot : Bool)
    (table : Nat → Registers) : (Nat → Registers) × Ending :=
  if is64BitBoot then (table, .aborted)
  else
    let (after, stopped) :=
      runUntil (sregsIteration answers is64BitBoot)
        (List.range vcpuNum.toNat) table
    (after, stopped.getD (.returned 0))

/-- The registers after a step of `initmachine_func`. -/
def registersAfterStep (vcpuNum : Int) (is64BitBoot : Bool)
    (table : Nat → Registers) : InitStep → Nat → Registers
  | .initVcpuRegs => (initVcpuRegs answers vcpuNum table).1
  | .initVcpuSregs => (initVcpuSregs answers vcpuNum is64BitBoot table).1
  | _ => table

/-- The registers after `VM::initMachine`. -/
def registersAfter (vcpuNum : Int) (is64BitBoot : Bool)
    (table : Nat → Registers) : Nat → Registers :=
  (initMachine answers vcpuNum is64BitBoot).log.foldl
    (fun table entry =>
      registersAfterStep answers vcpuNum is64BitBoot table entry.1)
    table

end Steps

/-! ## One virtual CPU -/

section Iterations

variable {answers : InitCall → SysResult} {vcpuNum : Int}

/-- Both ioctls of an iteration succeed. -/
def PairSucceeds
    (answers : InitCall → SysResult) (get set : Nat → InitCall)
    (cpu : Nat) : Prop :=
  (answers (get cpu)).Succeeded ∧ (answers (set cpu)).Succeeded

/-- How an iteration ends, as the initialisation of the machine sees it. -/
def pairStop
    (answers : InitCall → SysResult) (get set : Nat → InitCall)
    (cpu : Nat) : Option Ending :=
  (oneOnFailure (readThenWrite answers (get cpu) (set cpu))).2

theorem pairStop_eq_none_iff {get set : Nat → InitCall} {cpu : Nat} :
    pairStop answers get set cpu = none ↔
      PairSucceeds answers get set cpu := by
  rw [PairSucceeds, ← readThenWrite_eq_zero_iff, pairStop, oneOnFailure]
  by_cases zero : (readThenWrite answers (get cpu) (set cpu)).2 = 0
  · simp [zero]
  · simp [zero]

/-- What an iteration of `VM::initVcpuRegs` makes of the registers. -/
def changeRegs
    (answers : InitCall → SysResult) (cpu : Nat) (before : Registers) :
    Registers :=
  { before with
    regs :=
      stored before.regs (initRegsOf answers cpu before.regs).passed
        (answers (.setRegs cpu)) }

/-- What an iteration of `VM::initVcpuSregs` makes of the registers. -/
def changeSregs
    (answers : InitCall → SysResult) (cpu : Nat) (before : Registers) :
    Registers :=
  { before with
    sregs :=
      stored before.sregs (initSregsOf answers false cpu before.sregs).passed
        (answers (.setSregs cpu)) }

theorem initRegsOf_result (cpu : Nat) (read : VcpuRegs) :
    (initRegsOf answers cpu read).result =
      (readThenWrite answers (.getRegs cpu) (.setRegs cpu)).2 := by
  rw [initRegsOf, initRegs, readThenWrite]
  by_cases got : zeroOrErrno (answers (.getRegs cpu)) = 0
  · by_cases written : zeroOrErrno (answers (.setRegs cpu)) = 0
    · simp only [got, written, ne_eq, not_true_eq_false, if_false]
    · simp only [got, written, ne_eq, not_true_eq_false, not_false_eq_true,
        if_true, if_false]
  · simp only [got, ne_eq, not_false_eq_true, if_true]

theorem initSregsOf_result (cpu : Nat) (read : VcpuSregs) :
    (initSregsOf answers false cpu read).result =
      (readThenWrite answers (.getSregs cpu) (.setSregs cpu)).2 := by
  have calls :=
    initSregs_calls
      (rfl : EntryState.initSregs false (answers (.getSregs cpu)) read
        (answers (.setSregs cpu)) = initSregsOf answers false cpu read)
  exact (congrArg Prod.snd calls).symm

/-- An iteration changes its own entry, and only the ioctls can stop it. -/
theorem regsIteration_eq :
    regsIteration answers =
      entrywise (changeRegs answers)
        (pairStop answers .getRegs .setRegs) := by
  funext cpu table
  simp only [regsIteration, entrywise, changeRegs, initRegsOf_result,
    pairStop, oneOnFailure]

theorem sregsIteration_eq :
    sregsIteration answers false =
      entrywise (changeSregs answers)
        (pairStop answers .getSregs .setSregs) := by
  funext cpu table
  simp only [sregsIteration, entrywise, changeSregs, initSregsOf_result,
    pairStop, oneOnFailure]

theorem changeRegs_of_succeeds
    {cpu : Nat} (succeeds : PairSucceeds answers .getRegs .setRegs cpu)
    (before : Registers) :
    changeRegs answers cpu before =
      { before with
        regs :=
          before.regs.enteringAt highmemBase (.ofNat bootParamsAddr) } := by
  rcases succeeds with ⟨got, written⟩
  simp [changeRegs, initRegsOf, initRegs, stored, got, written]

theorem changeSregs_of_succeeds
    {cpu : Nat} (succeeds : PairSucceeds answers .getSregs .setSregs cpu)
    (before : Registers) :
    changeSregs answers cpu before =
      { before with sregs := before.sregs.protectedMode } := by
  rcases succeeds with ⟨got, written⟩
  simp [changeSregs, initSregsOf, EntryState.initSregs, setSregs, stored,
    got, written]

/-- An iteration one of whose ioctls fails changes nothing. -/
theorem changeRegs_of_fails
    {cpu : Nat} (fails : ¬ PairSucceeds answers .getRegs .setRegs cpu)
    (before : Registers) : changeRegs answers cpu before = before := by
  by_cases written : (answers (.setRegs cpu)).Succeeded
  · have unread : ¬ (answers (.getRegs cpu)).Succeeded :=
      fun got => fails ⟨got, written⟩
    simp [changeRegs, initRegsOf, initRegs, stored, unread]
  · simp [changeRegs, stored, written]

theorem changeSregs_of_fails
    {cpu : Nat} (fails : ¬ PairSucceeds answers .getSregs .setSregs cpu)
    (before : Registers) : changeSregs answers cpu before = before := by
  by_cases written : (answers (.setSregs cpu)).Succeeded
  · have unread : ¬ (answers (.getSregs cpu)).Succeeded :=
      fun got => fails ⟨got, written⟩
    simp [changeSregs, initSregsOf, EntryState.initSregs, stored, unread]
  · simp [changeSregs, stored, written]

end Iterations

/-! ## The whole initialisation -/

section Machine

variable {answers : InitCall → SysResult} {vcpuNum : Int}
variable {is64BitBoot : Bool}

/-- No ioctl of this virtual CPU or of one before it fails. -/
def Prefix
    (answers : InitCall → SysResult) (vcpuNum : Int)
    (get set : Nat → InitCall) (cpu : Nat) : Prop :=
  cpu < vcpuNum.toNat ∧
    ∀ earlier, earlier ≤ cpu → PairSucceeds answers get set earlier

/-- A loop over the virtual CPUs changes those before the first failure. -/
theorem registerLoop
    (answers : InitCall → SysResult) (vcpuNum : Int)
    {get set : Nat → InitCall} {change : Nat → Registers → Registers}
    (idle : ∀ cpu before, ¬ PairSucceeds answers get set cpu →
      change cpu before = before)
    (table : Nat → Registers) (cpu : Nat) :
    (Prefix answers vcpuNum get set cpu →
      (runUntil (entrywise change (pairStop answers get set))
        (List.range vcpuNum.toNat) table).1 cpu = change cpu (table cpu)) ∧
    (¬ Prefix answers vcpuNum get set cpu →
      (runUntil (entrywise change (pairStop answers get set))
        (List.range vcpuNum.toNat) table).1 cpu = table cpu) := by
  have isReached :
      cpu ∈ reached (pairStop answers get set) (List.range vcpuNum.toNat) ↔
        cpu < vcpuNum.toNat ∧
          ∀ earlier, earlier < cpu →
            PairSucceeds answers get set earlier := by
    rw [mem_reached_range]
    simp only [pairStop_eq_none_iff]
  rw [runUntil_entrywise List.nodup_range]
  constructor
  · rintro ⟨bound, succeed⟩
    exact if_pos (isReached.mpr ⟨bound, fun earlier before =>
      succeed earlier (Nat.le_of_lt before)⟩)
  · intro broken
    by_cases member :
        cpu ∈ reached (pairStop answers get set) (List.range vcpuNum.toNat)
    · rcases isReached.mp member with ⟨bound, passes⟩
      refine (if_pos member).trans (idle cpu (table cpu) ?_)
      intro succeeds
      refine broken ⟨bound, ?_⟩
      intro earlier ordered
      rcases Nat.lt_or_eq_of_le ordered with before | rfl
      · exact passes earlier before
      · exact succeeds
    · exact if_neg member

/-- The steps agree with those which only issue calls. -/
theorem initVcpuRegs_ending (table : Nat → Registers) :
    (initVcpuRegs answers vcpuNum table).2 =
      (Vm.InitMachine.initVcpuRegs answers vcpuNum).ending := by
  simp only [initVcpuRegs, regsIteration_eq,
    runUntil_entrywise List.nodup_range]
  rw [Vm.InitMachine.initVcpuRegs, forEachVcpu_eq]
  rfl

theorem initVcpuSregs_ending (table : Nat → Registers) :
    (initVcpuSregs answers vcpuNum is64BitBoot table).2 =
      (Vm.InitMachine.initVcpuSregs answers vcpuNum is64BitBoot).ending := by
  rw [initVcpuSregs, Vm.InitMachine.initVcpuSregs]
  cases is64BitBoot with
  | true => rfl
  | false =>
      simp only [Bool.false_eq_true, if_false, sregsIteration_eq,
        runUntil_entrywise List.nodup_range]
      rw [forEachVcpu_eq]
      rfl

/-- Once the registers are reached, every step is executed. -/
theorem executed_of_reaches (reaches : ReachesRegisters answers vcpuNum) :
    executed answers vcpuNum is64BitBoot = initmachineFunc := by
  have split :
      initmachineFunc =
        initmachineFunc.take 8 ++ [.initVcpuRegs, .initVcpuSregs] := rfl
  have absent :
      .initVcpuRegs ∉
        reached (stopAfter answers vcpuNum is64BitBoot)
          (initmachineFunc.take 8) :=
    fun member => absurd (mem_of_mem_reached member) (by decide)
  have member : .initVcpuRegs ∈ executed answers vcpuNum is64BitBoot :=
    initVcpuRegs_executed.mpr reaches
  rw [executed, split, mem_reached_append] at member
  rcases member with early | ⟨passes, -⟩
  · exact absurd early absent
  · have continues :
        stopAfter answers vcpuNum is64BitBoot .initVcpuRegs = none :=
      registerStep_stop answers vcpuNum .getRegs .setRegs
    rw [executed, split, reached_append passes]
    simp [reached, continues]

/-- Where the registers are not reached, no executed step touches them. -/
theorem registersAfter_of_not_reaches
    (unreached : ¬ ReachesRegisters answers vcpuNum)
    (table : Nat → Registers) :
    registersAfter answers vcpuNum is64BitBoot table = table := by
  have idle : ∀ step ∈ executed answers vcpuNum is64BitBoot,
      registersAfterStep answers vcpuNum is64BitBoot table step = table := by
    intro step member
    cases step with
    | initVcpuRegs =>
        exact absurd (initVcpuRegs_executed.mp member) unreached
    | initVcpuSregs =>
        exact absurd (initVcpuSregs_executed.mp member) unreached
    | _ => rfl
  rw [registersAfter, initMachine_eq, List.foldl_map]
  generalize executed answers vcpuNum is64BitBoot = steps at idle
  induction steps with
  | nil => rfl
  | cons step rest induction =>
      rw [List.foldl_cons, idle step List.mem_cons_self]
      exact induction fun later member =>
        idle later (List.mem_cons_of_mem _ member)

theorem registersAfter_of_reaches
    (reaches : ReachesRegisters answers vcpuNum)
    (table : Nat → Registers) :
    registersAfter answers vcpuNum is64BitBoot table =
      (initVcpuSregs answers vcpuNum is64BitBoot
        (initVcpuRegs answers vcpuNum table).1).1 := by
  rw [registersAfter, initMachine_eq, List.foldl_map,
    executed_of_reaches reaches]
  rfl

/-- The registers of a virtual CPU before and after the initialisation. -/
structure StartState
    (answers : InitCall → SysResult) (vcpuNum : Int) (is64BitBoot : Bool)
    (cpu : Nat) (before after : Registers) : Prop where
  /-- It enters the kernel with the boot parameters where no ioctl fails. -/
  entering :
    ReachesRegisters answers vcpuNum →
      Prefix answers vcpuNum .getRegs .setRegs cpu →
        after.regs =
          before.regs.enteringAt highmemBase (.ofNat bootParamsAddr)
  /-- Otherwise its registers are those of a CPU which was just created. -/
  notEntering :
    ¬ (ReachesRegisters answers vcpuNum ∧
        Prefix answers vcpuNum .getRegs .setRegs cpu) →
      after.regs = before.regs
  /-- It is in protected mode where no ioctl fails, whatever the loop before. -/
  protectedMode :
    ReachesRegisters answers vcpuNum → is64BitBoot = false →
      Prefix answers vcpuNum .getSregs .setSregs cpu →
        after.sregs = before.sregs.protectedMode
  notProtectedMode :
    ¬ (ReachesRegisters answers vcpuNum ∧ is64BitBoot = false ∧
        Prefix answers vcpuNum .getSregs .setSregs cpu) →
      after.sregs = before.sregs

/-- `VM::initVcpuRegs` acts on every virtual CPU as its loop does. -/
theorem initVcpuRegs_apply
    (answers : InitCall → SysResult) (vcpuNum : Int)
    (table : Nat → Registers) (cpu : Nat) :
    (Prefix answers vcpuNum .getRegs .setRegs cpu →
      (initVcpuRegs answers vcpuNum table).1 cpu =
        { table cpu with
          regs :=
            (table cpu).regs.enteringAt highmemBase
              (.ofNat bootParamsAddr) }) ∧
    (¬ Prefix answers vcpuNum .getRegs .setRegs cpu →
      (initVcpuRegs answers vcpuNum table).1 cpu = table cpu) := by
  have loop :=
    registerLoop answers vcpuNum
      (fun _ before fails => changeRegs_of_fails fails before) table cpu
  simp only [initVcpuRegs, regsIteration_eq]
  refine ⟨?_, loop.2⟩
  intro succeed
  rw [← changeRegs_of_succeeds (succeed.2 cpu le_rfl)]
  exact loop.1 succeed

theorem initVcpuSregs_apply
    (answers : InitCall → SysResult) (vcpuNum : Int) (is64BitBoot : Bool)
    (table : Nat → Registers) (cpu : Nat) :
    (is64BitBoot = false → Prefix answers vcpuNum .getSregs .setSregs cpu →
      (initVcpuSregs answers vcpuNum is64BitBoot table).1 cpu =
        { table cpu with sregs := (table cpu).sregs.protectedMode }) ∧
    (¬ (is64BitBoot = false ∧
        Prefix answers vcpuNum .getSregs .setSregs cpu) →
      (initVcpuSregs answers vcpuNum is64BitBoot table).1 cpu =
        table cpu) := by
  have loop :=
    registerLoop answers vcpuNum
      (fun _ before fails => changeSregs_of_fails fails before) table cpu
  cases is64BitBoot with
  | true => exact ⟨fun wrong => absurd wrong (by simp), fun _ => rfl⟩
  | false =>
      simp only [initVcpuSregs, sregsIteration_eq, Bool.false_eq_true,
        if_false, true_and, true_implies]
      refine ⟨?_, loop.2⟩
      intro succeed
      rw [← changeSregs_of_succeeds (succeed.2 cpu le_rfl)]
      exact loop.1 succeed

/-- The second loop leaves the registers which the first one set. -/
theorem registersAfter_regs
    (reaches : ReachesRegisters answers vcpuNum)
    (table : Nat → Registers) (cpu : Nat) :
    (Prefix answers vcpuNum .getRegs .setRegs cpu →
      (registersAfter answers vcpuNum is64BitBoot table cpu).regs =
        (table cpu).regs.enteringAt highmemBase (.ofNat bootParamsAddr)) ∧
    (¬ Prefix answers vcpuNum .getRegs .setRegs cpu →
      (registersAfter answers vcpuNum is64BitBoot table cpu).regs =
        (table cpu).regs) := by
  rw [registersAfter_of_reaches reaches]
  rcases initVcpuRegs_apply answers vcpuNum table cpu with ⟨entered, kept⟩
  generalize (initVcpuRegs answers vcpuNum table).1 = middle at entered kept
  rcases initVcpuSregs_apply answers vcpuNum is64BitBoot middle cpu with
    ⟨changed, unchanged⟩
  have same :
      ((initVcpuSregs answers vcpuNum is64BitBoot middle).1 cpu).regs =
        (middle cpu).regs := by
    by_cases loop : is64BitBoot = false ∧
        Prefix answers vcpuNum .getSregs .setSregs cpu
    · rw [changed loop.1 loop.2]
    · rw [unchanged loop]
  rw [same]
  exact ⟨fun succeed => by rw [entered succeed],
    fun fails => by rw [kept fails]⟩

/-- The first loop leaves the special registers which the second one reads. -/
theorem registersAfter_sregs
    (reaches : ReachesRegisters answers vcpuNum)
    (table : Nat → Registers) (cpu : Nat) :
    (is64BitBoot = false → Prefix answers vcpuNum .getSregs .setSregs cpu →
      (registersAfter answers vcpuNum is64BitBoot table cpu).sregs =
        (table cpu).sregs.protectedMode) ∧
    (¬ (is64BitBoot = false ∧
        Prefix answers vcpuNum .getSregs .setSregs cpu) →
      (registersAfter answers vcpuNum is64BitBoot table cpu).sregs =
        (table cpu).sregs) := by
  rw [registersAfter_of_reaches reaches]
  rcases initVcpuRegs_apply answers vcpuNum table cpu with ⟨entered, kept⟩
  generalize (initVcpuRegs answers vcpuNum table).1 = middle at entered kept
  rcases initVcpuSregs_apply answers vcpuNum is64BitBoot middle cpu with
    ⟨changed, unchanged⟩
  have same : (middle cpu).sregs = (table cpu).sregs := by
    by_cases loop : Prefix answers vcpuNum .getRegs .setRegs cpu
    · rw [entered loop]
    · rw [kept loop]
  rw [← same]
  exact ⟨fun is32BitBoot succeed => by rw [changed is32BitBoot succeed],
    fun fails => by rw [unchanged fails]⟩

/--
For all answers, and all registers the kernel holds at first, exactly the virtual
CPUs before the first failing ioctl of a loop get their entry state from it.  The
loops do not see each other's failures.
-/
theorem start_registers
    (answers : InitCall → SysResult) (vcpuNum : Int) (is64BitBoot : Bool)
    (table : Nat → Registers) (cpu : Nat) :
    StartState answers vcpuNum is64BitBoot cpu (table cpu)
      (registersAfter answers vcpuNum is64BitBoot table cpu) := by
  by_cases reaches : ReachesRegisters answers vcpuNum
  · rcases registersAfter_regs reaches table cpu with ⟨entered, kept⟩
    rcases registersAfter_sregs reaches table cpu with ⟨changed, unchanged⟩
    exact ⟨fun _ => entered,
      fun fails => kept fun succeed => fails ⟨reaches, succeed⟩,
      fun _ => changed,
      fun fails => unchanged fun succeed => fails ⟨reaches, succeed⟩⟩
  · rw [registersAfter_of_not_reaches reaches]
    exact ⟨fun reached => absurd reached reaches, fun _ => rfl,
      fun reached => absurd reached reaches, fun _ => rfl⟩

end Machine

end Lvmm.Vcpu.RegisterInit
