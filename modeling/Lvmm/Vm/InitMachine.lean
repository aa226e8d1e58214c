import Lvmm.Library.StoppingLoop
import Lvmm.Vm.SysCall

/-!
# Machine initialisation

`VM::initMachine` runs the ten steps of `initmachine_func` and stops at the first
one which returns a negative value.  The environment answers every ioctl and
`mmap` a step issues.  The constructor of `Vcpu` throws when `KVM_SET_CPUID2` or
its `mmap` fails and discards the result of `getSupportedCPUID`.  The two steps
which initialise the registers report a failure by 1, which is not negative.

Allocations succeed, except that `operator new[]` throws for a negative number of
virtual CPUs.
-/

namespace Lvmm.Vm.InitMachine

open Lvmm.Library.StoppingLoop
open Lvmm.Vm.SysCall

/-- The ioctls and `mmap`s which the steps issue. -/
inductive InitCall where
  | setTssAddr
  | setIdentityMapAddr
  | createIrqchip
  | createPit2
  | createVcpu (cpu : Nat)
  | getSupportedCpuid (cpu : Nat)
  | setCpuid2 (cpu : Nat)
  | mmapRun (cpu : Nat)
  | mmapRam
  | setUserMemoryRegion
  | getRegs (cpu : Nat)
  | setRegs (cpu : Nat)
  | getSregs (cpu : Nat)
  | setSregs (cpu : Nat)
deriving DecidableEq, Repr

/-- How a step, or the whole initialisation, ends. -/
inductive Ending where
  | returned (result : Int)
  | threw
  | aborted
deriving DecidableEq, Repr

/-- The calls a step issued, in order, and how it ended. -/
structure StepRun where
  calls : List InitCall
  ending : Ending
deriving DecidableEq

/-- The steps of `initmachine_func`. -/
inductive InitStep where
  | setTssAddr
  | setIdentityMapAddr
  | createIrqChip
  | createPit2
  | createVcpu
  | allocGuestRam
  | setUserMemRegion
  | initPioHandler
  | initVcpuRegs
  | initVcpuSregs
deriving DecidableEq, Repr

/-- `VM::initmachine_func`. -/
def initmachineFunc : List InitStep :=
  [.setTssAddr, .setIdentityMapAddr, .createIrqChip, .createPit2, .createVcpu,
    .allocGuestRam, .setUserMemRegion, .initPioHandler, .initVcpuRegs,
    .initVcpuSregs]

section Steps

variable (answers : InitCall → SysResult)

/-- A step which issues one ioctl and passes its value or `-errno` on. -/
def oneIoctl (call : InitCall) : StepRun :=
  { calls := [call], ending := .returned (valueOrErrno (answers call)) }

/-- `VM::setTSSAddr`. -/
def setTssAddr : StepRun := oneIoctl answers .setTssAddr

/-- `VM::setIdentityMapAddr`. -/
def setIdentityMapAddr : StepRun := oneIoctl answers .setIdentityMapAddr

/-- `VM::createIRQChip`. -/
def createIrqChip : StepRun := oneIoctl answers .createIrqchip

/-- `VM::createPIT2`. -/
def createPit2 : StepRun := oneIoctl answers .createPit2

/-- `Vcpu::Vcpu`: the calls it issues, and whether it throws. -/
def constructVcpu (cpu : Nat) : List InitCall × Bool :=
  if kvmIoctl (answers (.setCpuid2 cpu)) < 0 then
    ([.getSupportedCpuid cpu, .setCpuid2 cpu], true)
  else
    ([.getSupportedCpuid cpu, .setCpuid2 cpu, .mmapRun cpu],
      !decide (answers (.mmapRun cpu)).Succeeded)

/-- One iteration of the loop in `VM::createVcpu`. -/
def createOne (cpu : Nat) : List InitCall × Option Ending :=
  if kvmIoctl (answers (.createVcpu cpu)) < 0 then
    ([.createVcpu cpu],
      some (.returned (-(answers (.createVcpu cpu)).errno)))
  else
    (.createVcpu cpu :: (constructVcpu answers cpu).1,
      if (constructVcpu answers cpu).2 then some .threw else none)

/-- A step which runs a loop body for every virtual CPU. -/
def forEachVcpu
    (vcpuNum : Int) (body : Nat → List InitCall × Option Ending) :
    StepRun :=
  let (calls, stopped) :=
    runUntil (logged body) (List.range vcpuNum.toNat) []
  { calls, ending := stopped.getD (.returned 0) }

/-- `VM::createVcpu`. -/
def createVcpu (vcpuNum : Int) : StepRun :=
  if vcpuNum < 0 then { calls := [], ending := .threw }
  else forEachVcpu vcpuNum (createOne answers)

/-- `VM::allocGuestRAM`. -/
def allocGuestRam : StepRun :=
  { calls := [.mmapRam]
    ending :=
      .returned
        (if (answers .mmapRam).Succeeded then 0
          else -(answers .mmapRam).errno) }

/-- `VM::setUserMemRegion`. -/
def setUserMemRegion : StepRun := oneIoctl answers .setUserMemoryRegion

/-- `VM::initPIOHandler`, which issues no call. -/
def initPioHandler : StepRun := { calls := [], ending := .returned 0 }

/--
Read registers, change them and write them back: the calls issued and the value
returned.
-/
def readThenWrite (get set : InitCall) : List InitCall × Int :=
  if zeroOrErrno (answers get) ≠ 0 then
    ([get], zeroOrErrno (answers get))
  else if zeroOrErrno (answers set) ≠ 0 then
    ([get, set], zeroOrErrno (answers set))
  else ([get, set], 0)

/-- `Vcpu::InitRegs`. -/
def initRegs (cpu : Nat) : List InitCall × Int :=
  readThenWrite answers (.getRegs cpu) (.setRegs cpu)

/-- `Vcpu::InitSregs`; both boot modes issue the same calls. -/
def initSregs (cpu : Nat) : List InitCall × Int :=
  readThenWrite answers (.getSregs cpu) (.setSregs cpu)

/-- An iteration which ends the step with 1 when a value is not 0. -/
def oneOnFailure (run : List InitCall × Int) :
    List InitCall × Option Ending :=
  (run.1, if run.2 ≠ 0 then some (.returned 1) else none)

/-- `VM::initVcpuRegs`. -/
def initVcpuRegs (vcpuNum : Int) : StepRun :=
  forEachVcpu vcpuNum fun cpu => oneOnFailure (initRegs answers cpu)

/-- `VM::initVcpuSregs`, which asserts that the boot is not a 64-bit one. -/
def initVcpuSregs (vcpuNum : Int) (is64BitBoot : Bool) : StepRun :=
  if is64BitBoot then { calls := [], ending := .aborted }
  else
    forEachVcpu vcpuNum fun cpu => oneOnFailure (initSregs answers cpu)

/-- `(this->*e)()`. -/
def perform (vcpuNum : Int) (is64BitBoot : Bool) : InitStep → StepRun
  | .setTssAddr => setTssAddr answers
  | .setIdentityMapAddr => setIdentityMapAddr answers
  | .createIrqChip => createIrqChip answers
  | .createPit2 => createPit2 answers
  | .createVcpu => createVcpu answers vcpuNum
  | .allocGuestRam => allocGuestRam answers
  | .setUserMemRegion => setUserMemRegion answers
  | .initPioHandler => initPioHandler
  | .initVcpuRegs => initVcpuRegs answers vcpuNum
  | .initVcpuSregs => initVcpuSregs answers vcpuNum is64BitBoot

end Steps

/-- What the loop of `VM::initMachine` makes of the end of a step. -/
def Ending.stop : Ending → Option Ending
  | .returned result => if result < 0 then some (.returned result) else none
  | .threw => some .threw
  | .aborted => some .aborted

/-- The steps executed, each with the calls it issued, and the ending. -/
structure InitRun where
  log : List (InitStep × StepRun)
  ending : Ending
deriving DecidableEq

/-- `VM::initMachine`. -/
def initMachine
    (answers : InitCall → SysResult) (vcpuNum : Int) (is64BitBoot : Bool) :
    InitRun :=
  let (log, stopped) :=
    runUntil
      (logged fun step =>
        let run := perform answers vcpuNum is64BitBoot step
        ([(step, run)], run.ending.stop))
      initmachineFunc []
  { log, ending := stopped.getD (.returned 0) }

/-- The ending tells the caller of a failure. -/
def Ending.Reports : Ending → Prop
  | .returned result => result ≠ 0
  | .threw => True
  | .aborted => False

/--
Initialisation returns 0 only when every call succeeded, and ends with the step
one of whose calls failed, telling the caller.
-/
structure ReportsEveryFailure
    (answers : InitCall → SysResult) (run : InitRun) : Prop where
  success : run.ending = .returned 0 →
    ∀ entry ∈ run.log, ∀ call ∈ entry.2.calls, (answers call).Succeeded
  failure : ∀ entry ∈ run.log, ∀ call ∈ entry.2.calls,
    ¬ (answers call).Succeeded →
      run.ending.Reports ∧ run.log.getLast? = some entry

theorem stop_of_negative {result : Int} (negative : result < 0) :
    (Ending.returned result).stop = some (.returned result) :=
  if_pos negative

/-! ## The loops over the virtual CPUs -/

section Loops

variable {answers : InitCall → SysResult} {vcpuNum : Int}
variable {body : Nat → List InitCall × Option Ending}

theorem forEachVcpu_eq :
    forEachVcpu vcpuNum body =
      { calls :=
          (reached (fun cpu => (body cpu).2)
            (List.range vcpuNum.toNat)).flatMap fun cpu => (body cpu).1
        ending :=
          ((List.range vcpuNum.toNat).findSome?
            fun cpu => (body cpu).2).getD (.returned 0) } := by
  rw [forEachVcpu, runUntil_logged]
  rfl

/-- A loop in which no iteration stops makes the calls of all of them. -/
theorem forEachVcpu_of_passes
    (passes : ∀ cpu, cpu < vcpuNum.toNat → (body cpu).2 = none) :
    forEachVcpu vcpuNum body =
      { calls := (List.range vcpuNum.toNat).flatMap fun cpu => (body cpu).1
        ending := .returned 0 } := by
  have none : ∀ cpu ∈ List.range vcpuNum.toNat, (body cpu).2 = none :=
    fun cpu member => passes cpu (List.mem_range.mp member)
  rw [forEachVcpu_eq, reached_of_forall_none none,
    List.findSome?_eq_none_iff.mpr none]
  rfl

/-- Every call of the loop is a call of some iteration. -/
theorem forEachVcpu_calls
    {call : InitCall} (member : call ∈ (forEachVcpu vcpuNum body).calls) :
    ∃ cpu, cpu < vcpuNum.toNat ∧ call ∈ (body cpu).1 := by
  rw [forEachVcpu_eq] at member
  rcases List.mem_flatMap.mp member with ⟨cpu, executed, issued⟩
  exact ⟨cpu, List.mem_range.mp (mem_of_mem_reached executed), issued⟩

/-- A loop some iteration of which would stop ends with an executed one. -/
theorem forEachVcpu_of_stops
    (body : Nat → List InitCall × Option Ending) {cpu : Nat}
    (bound : cpu < vcpuNum.toNat)
    (stops : (body cpu).2 ≠ none) :
    ∃ last ending, last < vcpuNum.toNat ∧ (body last).2 = some ending ∧
      (forEachVcpu vcpuNum body).ending = ending ∧
      ∀ call ∈ (body last).1,
        call ∈ (forEachVcpu vcpuNum body).calls := by
  cases found :
      (List.range vcpuNum.toNat).findSome? fun cpu => (body cpu).2 with
  | none =>
      have passes := List.findSome?_eq_none_iff.mp found cpu
        (List.mem_range.mpr bound)
      exact absurd passes stops
  | some ending =>
      have atLast := found
      rw [findSome?_eq_last] at atLast
      rcases Option.bind_eq_some_iff.mp atLast with ⟨last, isLast, stopped⟩
      have executed := List.mem_of_getLast? isLast
      refine ⟨last, ending,
        List.mem_range.mp (mem_of_mem_reached executed), stopped, ?_, ?_⟩
      · rw [forEachVcpu_eq, found]
        rfl
      · intro call issued
        rw [forEachVcpu_eq]
        exact List.mem_flatMap.mpr ⟨last, executed, issued⟩

/-! ## Creating the virtual CPUs -/

/-- The constructor and the ioctl before it succeed for a virtual CPU. -/
def ConstructsOne (answers : InitCall → SysResult) (cpu : Nat) : Prop :=
  (answers (.createVcpu cpu)).Succeeded ∧
    (answers (.setCpuid2 cpu)).Succeeded ∧
    (answers (.mmapRun cpu)).Succeeded

theorem createOne_of_constructs
    {cpu : Nat} (constructs : ConstructsOne answers cpu) :
    createOne answers cpu =
      ([.createVcpu cpu, .getSupportedCpuid cpu, .setCpuid2 cpu,
        .mmapRun cpu], none) := by
  rcases constructs with ⟨created, cpuid, mapped⟩
  simp [createOne, constructVcpu, kvmIoctl_neg_iff, created, cpuid, mapped]

/-- Where one of them fails the step ends, and not with a value of 0 or more. -/
theorem createOne_of_not_constructs
    {cpu : Nat} (fails : ¬ ConstructsOne answers cpu) :
    ∃ ending, (createOne answers cpu).2 = some ending ∧
      ending.stop = some ending ∧ ending ≠ .aborted := by
  by_cases created : (answers (.createVcpu cpu)).Succeeded
  · have throws : (createOne answers cpu).2 = some .threw := by
      by_cases cpuid : (answers (.setCpuid2 cpu)).Succeeded
      · have unmapped : ¬ (answers (.mmapRun cpu)).Succeeded :=
          fun mapped => fails ⟨created, cpuid, mapped⟩
        simp [createOne, constructVcpu, kvmIoctl_neg_iff, created, cpuid,
          unmapped]
      · simp [createOne, constructVcpu, kvmIoctl_neg_iff, created, cpuid]
    exact ⟨.threw, throws, rfl, by simp⟩
  · refine ⟨.returned (-(answers (.createVcpu cpu)).errno), ?_, ?_, by simp⟩
    · simp [createOne, kvmIoctl_neg_iff, created]
    · cases answer : answers (.createVcpu cpu) with
      | ok value => simp [answer] at created
      | error errno =>
          have positive := errno.positive
          apply stop_of_negative
          simp only [SysResult.errno]
          omega

/-- Every virtual CPU is created and constructed. -/
def Constructs (answers : InitCall → SysResult) (vcpuNum : Int) : Prop :=
  ∀ cpu, cpu < vcpuNum.toNat → ConstructsOne answers cpu

theorem createVcpu_of_constructs
    (nonnegative : 0 ≤ vcpuNum) (constructs : Constructs answers vcpuNum) :
    createVcpu answers vcpuNum =
      { calls :=
          (List.range vcpuNum.toNat).flatMap fun cpu =>
            [.createVcpu cpu, .getSupportedCpuid cpu, .setCpuid2 cpu,
              .mmapRun cpu]
        ending := .returned 0 } := by
  have passes : ∀ cpu, cpu < vcpuNum.toNat →
      (createOne answers cpu).2 = none := by
    intro cpu bound
    rw [createOne_of_constructs (constructs cpu bound)]
  rw [createVcpu, if_neg (by omega), forEachVcpu_of_passes passes,
    StepRun.mk.injEq]
  refine ⟨?_, rfl⟩
  apply List.flatMap_congr
  intro cpu member
  rw [createOne_of_constructs (constructs cpu (List.mem_range.mp member))]

/-- Otherwise the step ends the initialisation, and not by the assertion. -/
theorem createVcpu_of_not_constructs
    (fails : ¬ (0 ≤ vcpuNum ∧ Constructs answers vcpuNum)) :
    ∃ ending, (createVcpu answers vcpuNum).ending = ending ∧
      ending.stop = some ending ∧ ending ≠ .aborted := by
  by_cases negative : vcpuNum < 0
  · exact ⟨.threw, by rw [createVcpu, if_pos negative], rfl, by simp⟩
  · have some : ∃ cpu, cpu < vcpuNum.toNat ∧
        ¬ ConstructsOne answers cpu := by
      by_contra all
      apply fails
      refine ⟨by omega, ?_⟩
      intro cpu bound
      by_contra one
      exact all ⟨cpu, bound, one⟩
    rcases some with ⟨cpu, bound, one⟩
    rcases createOne_of_not_constructs one with ⟨_, stops, _⟩
    have stopping : (createOne answers cpu).2 ≠ none := by
      rw [stops]
      simp
    rcases forEachVcpu_of_stops _ bound stopping with
      ⟨last, ending, _, stopped, ends, _⟩
    have unconstructed : ¬ ConstructsOne answers last := by
      intro constructs
      rw [createOne_of_constructs constructs] at stopped
      cases stopped
    rcases createOne_of_not_constructs unconstructed with
      ⟨other, otherStopped, stop, notAborted⟩
    rw [stopped, Option.some.injEq] at otherStopped
    subst otherStopped
    exact ⟨ending, by rw [createVcpu, if_neg negative, ends], stop,
      notAborted⟩

/-! ## Initialising the registers -/

theorem readThenWrite_calls
    {get set call : InitCall}
    (member : call ∈ (readThenWrite answers get set).1) :
    call = get ∨ call = set := by
  rw [readThenWrite] at member
  split_ifs at member
  · exact Or.inl (List.mem_singleton.mp member)
  · simpa using member
  · simpa using member

theorem readThenWrite_eq_zero_iff (get set : InitCall) :
    (readThenWrite answers get set).2 = 0 ↔
      (answers get).Succeeded ∧ (answers set).Succeeded := by
  rw [readThenWrite]
  by_cases got : (answers get).Succeeded
  · by_cases stored : (answers set).Succeeded <;> simp [got, stored]
  · simp [got]

theorem readThenWrite_of_ne_zero
    {get set : InitCall}
    (fails : (readThenWrite answers get set).2 ≠ 0) :
    ∃ call ∈ (readThenWrite answers get set).1,
      ¬ (answers call).Succeeded := by
  by_cases got : (answers get).Succeeded
  · have notStored : ¬ (answers set).Succeeded := fun stored =>
      fails ((readThenWrite_eq_zero_iff get set).mpr ⟨got, stored⟩)
    exact ⟨set, by simp [readThenWrite, got, notStored], notStored⟩
  · exact ⟨get, by simp [readThenWrite, got], got⟩

/-- A pair of calls succeeds for every virtual CPU. -/
def PairsSucceed
    (answers : InitCall → SysResult) (vcpuNum : Int)
    (get set : Nat → InitCall) : Prop :=
  ∀ cpu, cpu < vcpuNum.toNat →
    (answers (get cpu)).Succeeded ∧ (answers (set cpu)).Succeeded

/-- A step over the registers of every virtual CPU. -/
def registerStep
    (answers : InitCall → SysResult) (vcpuNum : Int)
    (get set : Nat → InitCall) : StepRun :=
  forEachVcpu vcpuNum fun cpu =>
    oneOnFailure (readThenWrite answers (get cpu) (set cpu))

/-- Such a step never ends the initialisation. -/
theorem registerStep_stop
    (answers : InitCall → SysResult) (vcpuNum : Int)
    (get set : Nat → InitCall) :
    (registerStep answers vcpuNum get set).ending.stop = none := by
  rw [registerStep, forEachVcpu_eq]
  cases found :
      (List.range vcpuNum.toNat).findSome? fun cpu =>
        (oneOnFailure (readThenWrite answers (get cpu) (set cpu))).2 with
  | none => rfl
  | some ending =>
      rcases List.exists_of_findSome?_eq_some found with ⟨cpu, _, stopped⟩
      simp only [oneOnFailure] at stopped
      split_ifs at stopped
      cases stopped
      rfl

/-- It issues a failing call exactly when some call fails. -/
theorem registerStep_fails_iff
    (answers : InitCall → SysResult) (vcpuNum : Int)
    (get set : Nat → InitCall) :
    (∃ call ∈ (registerStep answers vcpuNum get set).calls,
        ¬ (answers call).Succeeded) ↔
      ¬ PairsSucceed answers vcpuNum get set := by
  constructor
  · rintro ⟨call, member, fails⟩ succeed
    rcases forEachVcpu_calls member with ⟨cpu, bound, issued⟩
    rcases readThenWrite_calls issued with rfl | rfl
    · exact fails (succeed cpu bound).1
    · exact fails (succeed cpu bound).2
  · intro fails
    have some : ∃ cpu, cpu < vcpuNum.toNat ∧
        (readThenWrite answers (get cpu) (set cpu)).2 ≠ 0 := by
      by_contra all
      apply fails
      intro cpu bound
      rw [← readThenWrite_eq_zero_iff]
      by_contra one
      exact all ⟨cpu, bound, one⟩
    rcases some with ⟨cpu, bound, one⟩
    have stopping :
        (oneOnFailure (readThenWrite answers (get cpu) (set cpu))).2 ≠
          none := by
      simp [oneOnFailure, one]
    rcases forEachVcpu_of_stops
        (fun cpu => oneOnFailure (readThenWrite answers (get cpu) (set cpu)))
        bound stopping with
      ⟨last, ending, _, stopped, _, issued⟩
    have lastFails :
        (readThenWrite answers (get last) (set last)).2 ≠ 0 := by
      intro zero
      simp [oneOnFailure, zero] at stopped
    rcases readThenWrite_of_ne_zero lastFails with ⟨call, member, failing⟩
    exact ⟨call, issued call member, failing⟩

end Loops

/-! ## Steps which hide a failure -/

section Silent

variable {answers : InitCall → SysResult} {vcpuNum : Int}
variable {is64BitBoot : Bool}

/-- The step issues a failing call and does not end the initialisation. -/
def Silent
    (answers : InitCall → SysResult) (vcpuNum : Int) (is64BitBoot : Bool)
    (step : InitStep) : Prop :=
  (∃ call ∈ (perform answers vcpuNum is64BitBoot step).calls,
      ¬ (answers call).Succeeded) ∧
    (perform answers vcpuNum is64BitBoot step).ending.stop = none

theorem oneIoctl_stop (call : InitCall) :
    (oneIoctl answers call).ending.stop = none ↔
      (answers call).Succeeded := by
  rw [oneIoctl, Ending.stop]
  by_cases succeeded : (answers call).Succeeded
  · rw [if_neg (by rw [valueOrErrno_neg_iff]; exact not_not_intro succeeded)]
    simp [succeeded]
  · rw [if_pos (by rw [valueOrErrno_neg_iff]; exact succeeded)]
    simp [succeeded]

theorem oneIoctl_not_silent (call : InitCall) :
    ¬ ((∃ issued ∈ (oneIoctl answers call).calls,
        ¬ (answers issued).Succeeded) ∧
      (oneIoctl answers call).ending.stop = none) := by
  rintro ⟨⟨issued, member, fails⟩, passes⟩
  have same : issued = call := List.mem_singleton.mp member
  subst same
  exact fails ((oneIoctl_stop issued).mp passes)

theorem allocGuestRam_stop :
    (allocGuestRam answers).ending.stop = none ↔
      (answers .mmapRam).Succeeded := by
  rw [allocGuestRam]
  cases answer : answers .mmapRam with
  | ok value => simp [Ending.stop]
  | error errno =>
      have positive := errno.positive
      simp [Ending.stop, SysResult.errno]
      omega

theorem createVcpu_stop :
    (createVcpu answers vcpuNum).ending.stop = none ↔
      0 ≤ vcpuNum ∧ Constructs answers vcpuNum := by
  constructor
  · intro passes
    by_contra fails
    rcases createVcpu_of_not_constructs fails with ⟨ending, ends, stop, _⟩
    rw [ends, stop] at passes
    cases passes
  · rintro ⟨nonnegative, constructs⟩
    rw [createVcpu_of_constructs nonnegative constructs]
    rfl

/-- Every virtual CPU gets the supported CPUID values. -/
def CpuidSucceeds (answers : InitCall → SysResult) (vcpuNum : Int) : Prop :=
  ∀ cpu, cpu < vcpuNum.toNat → (answers (.getSupportedCpuid cpu)).Succeeded

/-- Creation hides exactly a failing query of the supported CPUID values. -/
theorem createVcpu_silent_iff :
    Silent answers vcpuNum is64BitBoot .createVcpu ↔
      (0 ≤ vcpuNum ∧ Constructs answers vcpuNum) ∧
        ¬ CpuidSucceeds answers vcpuNum := by
  rw [Silent, perform, createVcpu_stop, and_comm]
  apply and_congr_right
  rintro ⟨nonnegative, constructs⟩
  rw [createVcpu_of_constructs nonnegative constructs]
  constructor
  · rintro ⟨call, member, fails⟩ succeeds
    rcases List.mem_flatMap.mp member with ⟨cpu, inRange, issued⟩
    have bound := List.mem_range.mp inRange
    rcases constructs cpu bound with ⟨created, cpuid, mapped⟩
    simp only [List.mem_cons, List.not_mem_nil, or_false] at issued
    rcases issued with rfl | rfl | rfl | rfl
    · exact fails created
    · exact fails (succeeds cpu bound)
    · exact fails cpuid
    · exact fails mapped
  · intro fails
    by_contra hidden
    apply fails
    intro cpu bound
    by_contra failing
    apply hidden
    refine ⟨.getSupportedCpuid cpu, ?_, failing⟩
    exact List.mem_flatMap.mpr
      ⟨cpu, List.mem_range.mpr bound, by simp⟩

theorem initVcpuRegs_silent_iff :
    Silent answers vcpuNum is64BitBoot .initVcpuRegs ↔
      ¬ PairsSucceed answers vcpuNum .getRegs .setRegs := by
  have step :
      perform answers vcpuNum is64BitBoot .initVcpuRegs =
        registerStep answers vcpuNum .getRegs .setRegs := rfl
  rw [Silent, step, registerStep_fails_iff, registerStep_stop]
  exact and_iff_left rfl

theorem initVcpuSregs_silent_iff :
    Silent answers vcpuNum is64BitBoot .initVcpuSregs ↔
      is64BitBoot = false ∧
        ¬ PairsSucceed answers vcpuNum .getSregs .setSregs := by
  cases is64BitBoot with
  | true => simp [Silent, perform, initVcpuSregs]
  | false =>
      have step :
          perform answers vcpuNum false .initVcpuSregs =
            registerStep answers vcpuNum .getSregs .setSregs := rfl
      rw [Silent, step, registerStep_fails_iff, registerStep_stop]
      exact ⟨fun hidden => ⟨rfl, hidden.1⟩, fun hidden => ⟨hidden.2, rfl⟩⟩

end Silent

/-! ## The whole initialisation -/

section Machine

variable {answers : InitCall → SysResult} {vcpuNum : Int}
variable {is64BitBoot : Bool}

/-- How the loop of `initMachine` goes on after a step. -/
def stopAfter
    (answers : InitCall → SysResult) (vcpuNum : Int) (is64BitBoot : Bool)
    (step : InitStep) : Option Ending :=
  (perform answers vcpuNum is64BitBoot step).ending.stop

/-- The steps which `initMachine` executes. -/
def executed
    (answers : InitCall → SysResult) (vcpuNum : Int) (is64BitBoot : Bool) :
    List InitStep :=
  reached (stopAfter answers vcpuNum is64BitBoot) initmachineFunc

theorem initMachine_eq :
    initMachine answers vcpuNum is64BitBoot =
      { log :=
          (executed answers vcpuNum is64BitBoot).map fun step =>
            (step, perform answers vcpuNum is64BitBoot step)
        ending :=
          ((executed answers vcpuNum is64BitBoot).getLast?.bind
            (stopAfter answers vcpuNum is64BitBoot)).getD (.returned 0) } := by
  rw [initMachine, runUntil_logged, List.nil_append, executed,
    ← findSome?_eq_last]
  simp only [← List.map_eq_flatMap]
  rfl

/-- An assertion fails before its step issues any call. -/
theorem perform_aborted
    {step : InitStep}
    (aborted : (perform answers vcpuNum is64BitBoot step).ending = .aborted) :
    (perform answers vcpuNum is64BitBoot step).calls = [] := by
  have register (get set : Nat → InitCall) :
      (registerStep answers vcpuNum get set).ending ≠ .aborted := by
    intro wrong
    have passes := registerStep_stop answers vcpuNum get set
    rw [wrong] at passes
    cases passes
  cases step with
  | createVcpu =>
      by_cases constructs : 0 ≤ vcpuNum ∧ Constructs answers vcpuNum
      · rw [perform, createVcpu_of_constructs constructs.1 constructs.2]
          at aborted
        cases aborted
      · rcases createVcpu_of_not_constructs constructs with
          ⟨ending, ends, _, notAborted⟩
        exact absurd (ends.symm.trans aborted) notAborted
  | initVcpuRegs => exact absurd aborted (register .getRegs .setRegs)
  | initVcpuSregs =>
      cases is64BitBoot with
      | true => rfl
      | false => exact absurd aborted (register .getSregs .setSregs)
  | setTssAddr | setIdentityMapAddr | createIrqChip | createPit2
  | allocGuestRam | setUserMemRegion | initPioHandler => cases aborted

/-- What ends the initialisation after a failing call tells the caller. -/
theorem stop_reports
    {ending stopped : Ending} (stop : ending.stop = some stopped)
    (notAborted : ending ≠ .aborted) : stopped.Reports := by
  cases ending with
  | returned result =>
      rw [Ending.stop] at stop
      split_ifs at stop with negative
      cases stop
      exact Int.ne_of_lt negative
  | threw =>
      cases stop
      exact trivial
  | aborted => exact absurd rfl notAborted

/-- Failures are reported exactly when no executed step hides one. -/
theorem reportsEveryFailure_iff_silent :
    ReportsEveryFailure answers (initMachine answers vcpuNum is64BitBoot) ↔
      ∀ step ∈ executed answers vcpuNum is64BitBoot,
        ¬ Silent answers vcpuNum is64BitBoot step := by
  rw [initMachine_eq]
  constructor
  · rintro reports step member ⟨⟨call, issued, fails⟩, passes⟩
    rcases reports.failure
        (step, perform answers vcpuNum is64BitBoot step)
        (List.mem_map.mpr ⟨step, member, rfl⟩) call issued fails with
      ⟨reported, last⟩
    rw [List.getLast?_map, Option.map_eq_some_iff] at last
    rcases last with ⟨lastStep, isLast, same⟩
    have equal : lastStep = step := congrArg Prod.fst same
    subst equal
    simp only [isLast, Option.bind_some, stopAfter, passes] at reported
    exact reported rfl
  · intro loud
    have stops : ∀ entry ∈
        (executed answers vcpuNum is64BitBoot).map fun step =>
          (step, perform answers vcpuNum is64BitBoot step),
        ∀ call ∈ entry.2.calls, ¬ (answers call).Succeeded →
          ∃ ending,
            (executed answers vcpuNum is64BitBoot).getLast? =
              some entry.1 ∧
            stopAfter answers vcpuNum is64BitBoot entry.1 = some ending ∧
            ending.Reports ∧
            entry = (entry.1, perform answers vcpuNum is64BitBoot entry.1) := by
      intro entry member call issued fails
      rcases List.mem_map.mp member with ⟨step, stepMember, rfl⟩
      cases stop : stopAfter answers vcpuNum is64BitBoot step with
      | none => exact absurd ⟨⟨call, issued, fails⟩, stop⟩ (loud step stepMember)
      | some ending =>
          have last := getLast?_reached stepMember (by rw [stop]; rfl)
          have notAborted :
              (perform answers vcpuNum is64BitBoot step).ending ≠
                .aborted := by
            intro aborted
            simp only [perform_aborted aborted] at issued
            cases issued
          exact ⟨ending, last, rfl, stop_reports stop notAborted, rfl⟩
    refine ⟨?_, ?_⟩
    · intro zero entry member call issued
      by_contra fails
      rcases stops entry member call issued fails with
        ⟨ending, last, stop, reports, _⟩
      simp only [last, Option.bind_some, stop, Option.getD_some] at zero
      rw [zero] at reports
      exact reports rfl
    · intro entry member call issued fails
      rcases stops entry member call issued fails with
        ⟨ending, last, stop, reports, same⟩
      simp only [last, Option.bind_some, stop, Option.getD_some,
        List.getLast?_map, Option.map_some]
      exact ⟨reports, congrArg some same.symm⟩

/-! ## When every failure is reported -/

/-- The four ioctls before the virtual CPUs succeed. -/
def SetupSucceeds (answers : InitCall → SysResult) : Prop :=
  (answers .setTssAddr).Succeeded ∧
    (answers .setIdentityMapAddr).Succeeded ∧
    (answers .createIrqchip).Succeeded ∧
    (answers .createPit2).Succeeded

/-- Guest RAM is mapped and registered. -/
def RamSucceeds (answers : InitCall → SysResult) : Prop :=
  (answers .mmapRam).Succeeded ∧ (answers .setUserMemoryRegion).Succeeded

theorem createVcpu_executed :
    .createVcpu ∈ executed answers vcpuNum is64BitBoot ↔
      SetupSucceeds answers := by
  simp only [executed, initmachineFunc, mem_reached_cons, reduceCtorEq,
    false_or, true_or, and_true, stopAfter, perform, setTssAddr,
    setIdentityMapAddr, createIrqChip, createPit2, oneIoctl_stop,
    SetupSucceeds]

/-- Everything up to the registers succeeds. -/
def ReachesRegisters
    (answers : InitCall → SysResult) (vcpuNum : Int) : Prop :=
  SetupSucceeds answers ∧ (0 ≤ vcpuNum ∧ Constructs answers vcpuNum) ∧
    RamSucceeds answers

theorem initVcpuRegs_executed :
    .initVcpuRegs ∈ executed answers vcpuNum is64BitBoot ↔
      ReachesRegisters answers vcpuNum := by
  have pio : initPioHandler.ending.stop = none := rfl
  simp only [executed, initmachineFunc, mem_reached_cons, reduceCtorEq,
    false_or, true_or, and_true, stopAfter, perform, setTssAddr,
    setIdentityMapAddr, createIrqChip, createPit2, setUserMemRegion,
    oneIoctl_stop, createVcpu_stop, allocGuestRam_stop, pio,
    ReachesRegisters, SetupSucceeds, RamSucceeds, and_assoc]

theorem initVcpuSregs_executed :
    .initVcpuSregs ∈ executed answers vcpuNum is64BitBoot ↔
      ReachesRegisters answers vcpuNum := by
  have pio : initPioHandler.ending.stop = none := rfl
  have registers :
      (initVcpuRegs answers vcpuNum).ending.stop = none :=
    registerStep_stop answers vcpuNum .getRegs .setRegs
  simp only [executed, initmachineFunc, mem_reached_cons, reduceCtorEq,
    false_or, true_or, and_true, stopAfter, perform, setTssAddr,
    setIdentityMapAddr, createIrqChip, createPit2, setUserMemRegion,
    oneIoctl_stop, createVcpu_stop, allocGuestRam_stop, pio, registers,
    ReachesRegisters, SetupSucceeds, RamSucceeds, and_assoc]

/-- Only three steps can hide a failure. -/
theorem silent_cases
    {step : InitStep} (silent : Silent answers vcpuNum is64BitBoot step) :
    step = .createVcpu ∨ step = .initVcpuRegs ∨ step = .initVcpuSregs := by
  cases step with
  | createVcpu => exact Or.inl rfl
  | initVcpuRegs => exact Or.inr (Or.inl rfl)
  | initVcpuSregs => exact Or.inr (Or.inr rfl)
  | setTssAddr | setIdentityMapAddr | createIrqChip | createPit2
  | setUserMemRegion => exact absurd silent (oneIoctl_not_silent _)
  | allocGuestRam =>
      rcases silent with ⟨⟨call, member, fails⟩, passes⟩
      have same : call = .mmapRam := List.mem_singleton.mp member
      subst same
      exact absurd (allocGuestRam_stop.mp passes) fails
  | initPioHandler =>
      rcases silent with ⟨⟨call, member, _⟩, _⟩
      cases member

/--
Initialisation reports every failure exactly when, provided that the first four
ioctls and the construction of the virtual CPUs succeed, so do all queries of the
supported CPUID values, and, provided that guest RAM is set up as well, so do all
register accesses of the two last steps.
-/
theorem reportsEveryFailure_iff
    (answers : InitCall → SysResult) (vcpuNum : Int) (is64BitBoot : Bool) :
    ReportsEveryFailure answers (initMachine answers vcpuNum is64BitBoot) ↔
      (SetupSucceeds answers → 0 ≤ vcpuNum → Constructs answers vcpuNum →
        CpuidSucceeds answers vcpuNum ∧
          (RamSucceeds answers →
            PairsSucceed answers vcpuNum .getRegs .setRegs ∧
              (is64BitBoot = true ∨
                PairsSucceed answers vcpuNum .getSregs .setSregs))) := by
  rw [reportsEveryFailure_iff_silent]
  constructor
  · intro loud setup nonnegative constructs
    refine ⟨?_, ?_⟩
    · by_contra cpuid
      exact loud .createVcpu (createVcpu_executed.mpr setup)
        (createVcpu_silent_iff.mpr ⟨⟨nonnegative, constructs⟩, cpuid⟩)
    · intro ram
      have reaches : ReachesRegisters answers vcpuNum :=
        ⟨setup, ⟨nonnegative, constructs⟩, ram⟩
      refine ⟨?_, ?_⟩
      · by_contra registers
        exact loud .initVcpuRegs (initVcpuRegs_executed.mpr reaches)
          (initVcpuRegs_silent_iff.mpr registers)
      · cases mode : is64BitBoot with
        | true => exact Or.inl rfl
        | false =>
            right
            by_contra registers
            exact loud .initVcpuSregs (initVcpuSregs_executed.mpr reaches)
              (initVcpuSregs_silent_iff.mpr ⟨mode, registers⟩)
  · intro condition step member silent
    rcases silent_cases silent with rfl | rfl | rfl
    · have setup := createVcpu_executed.mp member
      rcases createVcpu_silent_iff.mp silent with
        ⟨⟨nonnegative, constructs⟩, cpuid⟩
      exact cpuid (condition setup nonnegative constructs).1
    · rcases initVcpuRegs_executed.mp member with
        ⟨setup, ⟨nonnegative, constructs⟩, ram⟩
      have rest := (condition setup nonnegative constructs).2 ram
      exact initVcpuRegs_silent_iff.mp silent rest.1
    · rcases initVcpuSregs_executed.mp member with
        ⟨setup, ⟨nonnegative, constructs⟩, ram⟩
      have rest := (condition setup nonnegative constructs).2 ram
      rcases initVcpuSregs_silent_iff.mp silent with ⟨mode, registers⟩
      rcases rest.2 with sixtyFour | succeed
      · rw [mode] at sixtyFour
        cases sixtyFour
      · exact registers succeed

/-- An environment in which only reading the registers of CPU 0 fails. -/
def failingGetRegs : InitCall → SysResult
  | .getRegs 0 => .error ⟨22, by decide⟩
  | _ => .ok 0

/-- That failure is followed by a step and by the return of 0. -/
theorem not_reportsEveryFailure_getRegs :
    (initMachine failingGetRegs 1 false).ending = .returned 0 ∧
      ¬ ReportsEveryFailure failingGetRegs
        (initMachine failingGetRegs 1 false) := by
  refine ⟨by decide, ?_⟩
  intro reports
  have registers :
      (InitStep.initVcpuRegs, initVcpuRegs failingGetRegs 1) ∈
        (initMachine failingGetRegs 1 false).log := by
    decide
  exact reports.success (by decide) _ registers (.getRegs 0) (by decide)

end Machine

end Lvmm.Vm.InitMachine
