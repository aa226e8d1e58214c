import Mathlib.Data.Nat.Bitwise
import Lvmm.Vm.KvmCaps

/-!
# Hardware virtualisation

`cpuSupportsVM` identifies the vendor from leaf 0 of the `CPUID` instruction,
compares the vendor's feature leaf with the largest leaf the processor reports
and tests one bit of the feature leaf.  It throws where it cannot tell and
returns the bit otherwise.  The constructor of `KVM` negates the bit and drops
the result.
-/

namespace Lvmm.Vm.CpuFeat

open Lvmm.Vm.SysCall
open Lvmm.Vm.CreateVm
open Lvmm.Vm.KvmCaps

/-- `"Genu"`, `"ineI"` and `"ntel"`. -/
def visIntelEbx : UInt32 := 0x756e6547
def visIntelEdx : UInt32 := 0x49656e69
def visIntelEcx : UInt32 := 0x6c65746e
def intelEaxFeat : UInt32 := 0x00000001
def intelFeatVmxShift : UInt32 := 5

/-- `"Auth"`, `"enti"` and `"cAMD"`. -/
def visAmdEbx : UInt32 := 0x68747541
def visAmdEdx : UInt32 := 0x69746e65
def visAmdEcx : UInt32 := 0x444d4163
def amdEaxFeat : UInt32 := 0x80000001
def amdFeatSvmShift : UInt32 := 2

/-- `cpuid_regs`. -/
structure CpuidRegs where
  eax : UInt32
  ebx : UInt32
  ecx : UInt32
  edx : UInt32
deriving DecidableEq

/-- What the processor answers to a leaf and a subleaf. -/
abbrev Processor := UInt32 → UInt32 → CpuidRegs

/-- `cpuid`, which takes the leaf and the subleaf from `regs`. -/
def cpuid (processor : Processor) (regs : CpuidRegs) : CpuidRegs :=
  processor regs.eax regs.ecx

/-! ## The test -/

/-- `std::runtime_error` as `cpuSupportsVM` throws it. -/
def runtimeError {α : Type} (what : String) : Except String α :=
  .error ("cpuSupportsVM: " ++ what)

/-- The switch over the vendor: the feature leaf and the bit in it. -/
def vendorFeature (regs : CpuidRegs) : Except String (UInt32 × UInt32) :=
  if regs.ebx = visIntelEbx then
    if regs.ecx = visIntelEcx ∧ regs.edx = visIntelEdx then
      .ok (intelEaxFeat, intelFeatVmxShift)
    else
      runtimeError
        "Invalid VIS returned. regs.ebx is from Intel, but others are not."
  else if regs.ebx = visAmdEbx then
    if regs.ecx = visAmdEcx ∧ regs.edx = visAmdEdx then
      .ok (amdEaxFeat, amdFeatSvmShift)
    else
      runtimeError
        "Invalid VIS returned. regs.ebx is from AMD, but others are not."
  else runtimeError "VIS couldn't be identified returned."

/-- The largest leaf of the range which a feature leaf belongs to. -/
def maximumLeaf
    (processor : Processor) (regs : CpuidRegs) (eaxFeat : UInt32) :
    UInt32 :=
  if eaxFeat &&& 0x80000000 ≠ 0 then
    (cpuid processor ⟨0x80000000, 0, 0, 0⟩).eax
  else regs.eax

/-- `cpuSupportsVM`. -/
def cpuSupportsVm (processor : Processor) : Except String Bool := do
  let regs := cpuid processor ⟨0, 0, 0, 0⟩
  let (eaxFeat, featVmShift) ← vendorFeature regs
  if maximumLeaf processor regs eaxFeat < eaxFeat then
    runtimeError "Getting feature information is not supported."
  else
    let regs := cpuid processor ⟨eaxFeat, 0, 0, 0⟩
    return regs.ecx &&& (1 <<< featVmShift) != 0

/-! ## The constructor of `KVM` -/

/-- The ioctls of the constructor. -/
inductive KvmCall where
  | getApiVersion
  | checkExtension (capability : Capability)
  | getVcpuMmapSize
deriving DecidableEq, Repr

/-- What the constructor throws. -/
inductive KvmThrow where
  | cpuSupportsVm (what : String)
  | kvmIoctl
deriving DecidableEq, Repr

/-- The members of `KVM`. -/
structure Kvm where
  apiVer : Int
  cap : KvmCap
  mmapSize : Int

/-- A call which throws the exception of `kvmIoctlCtor`, or has a value. -/
def orThrow {α : Type} (value : Option α) : Except KvmThrow α :=
  match value with
  | some value => .ok value
  | none => .error .kvmIoctl

/-- `KVM::KVM` over unset members; `!cpuSupportsVM();` only throws. -/
def construct
    (processor : Processor) (answers : KvmCall → SysResult)
    (unset : KvmCap) : Except KvmThrow Kvm := do
  let _ ← (cpuSupportsVm processor).mapError .cpuSupportsVm
  let apiVer ← orThrow (kvmIoctlCtor (answers .getApiVersion))
  let cap ←
    orThrow
      (kvmCapCheck (fun capability => answers (.checkExtension capability))
        unset)
  let mmapSize ← orThrow (kvmIoctlCtor (answers .getVcpuMmapSize))
  return { apiVer, cap, mmapSize }

/-! ## What the processor announces -/

/-- The vendors which `cpuSupportsVM` knows. -/
inductive Vendor where
  | intel
  | amd
deriving DecidableEq, Repr

namespace Vendor

/-- The vendor registers: `GenuineIntel` or `AuthenticAMD`. -/
def registers : Vendor → UInt32 × UInt32 × UInt32
  | .intel => (visIntelEbx, visIntelEdx, visIntelEcx)
  | .amd => (visAmdEbx, visAmdEdx, visAmdEcx)

/-- The leaf which holds the feature bit. -/
def featureLeaf : Vendor → UInt32
  | .intel => 1
  | .amd => 0x80000001

/-- The leaf which reports the largest leaf of the same range. -/
def rangeLeaf : Vendor → UInt32
  | .intel => 0
  | .amd => 0x80000000

/-- The VMX or the SVM bit. -/
def featureBit : Vendor → Nat
  | .intel => 5
  | .amd => 2

variable (vendor : Vendor) (processor : Processor)

/-- The vendor registers are exactly those of the vendor. -/
def Identified : Prop :=
  ((processor 0 0).ebx, (processor 0 0).edx, (processor 0 0).ecx) =
    vendor.registers

/-- The feature leaf does not exceed the largest leaf of its range. -/
def LeafReported : Prop :=
  vendor.featureLeaf ≤ (processor vendor.rangeLeaf 0).eax

/-- The feature bit of the feature leaf is set. -/
def FeatureSet : Prop :=
  (processor vendor.featureLeaf 0).ecx.toNat.testBit vendor.featureBit = true

end Vendor

/-- The processor announces hardware virtualisation. -/
def HasVirtualisation (processor : Processor) : Prop :=
  ∃ vendor : Vendor, vendor.Identified processor ∧
    vendor.LeafReported processor ∧ vendor.FeatureSet processor

/-- The processor answers for the feature, and answers that it lacks it. -/
def LacksVirtualisation (processor : Processor) : Prop :=
  ∃ vendor : Vendor, vendor.Identified processor ∧
    vendor.LeafReported processor ∧ ¬ vendor.FeatureSet processor

theorem Vendor.Identified.unique
    {first second : Vendor} {processor : Processor}
    (isFirst : first.Identified processor)
    (isSecond : second.Identified processor) :
    first = second := by
  have same : first.registers = second.registers :=
    isFirst.symm.trans isSecond
  cases first <;> cases second <;> first | rfl | exact absurd same (by decide)

/-! ## The test decides it -/

/-- The feature leaf and the shift of a vendor. -/
def Vendor.feature : Vendor → UInt32 × UInt32
  | .intel => (intelEaxFeat, intelFeatVmxShift)
  | .amd => (amdEaxFeat, amdFeatSvmShift)

/-- The switch finds the vendor whose registers the processor answers. -/
theorem vendorFeature_of_identified
    {vendor : Vendor} {processor : Processor}
    (identified : vendor.Identified processor) :
    vendorFeature (processor 0 0) = .ok vendor.feature := by
  cases vendor with
  | intel =>
      simp only [Vendor.Identified, Vendor.registers, Prod.mk.injEq]
        at identified
      rcases identified with ⟨ebx, edx, ecx⟩
      rw [vendorFeature, if_pos ebx, if_pos ⟨ecx, edx⟩, Vendor.feature]
  | amd =>
      simp only [Vendor.Identified, Vendor.registers, Prod.mk.injEq]
        at identified
      rcases identified with ⟨ebx, edx, ecx⟩
      have notIntel : ¬ (processor 0 0).ebx = visIntelEbx := by
        rw [ebx]
        decide
      rw [vendorFeature, if_neg notIntel, if_pos ebx, if_pos ⟨ecx, edx⟩,
        Vendor.feature]

/-- The switch throws for any other registers. -/
theorem vendorFeature_of_unidentified
    {processor : Processor}
    (unidentified : ∀ vendor : Vendor, ¬ vendor.Identified processor) :
    ∃ what, vendorFeature (processor 0 0) = .error what := by
  have notIntel := unidentified .intel
  have notAmd := unidentified .amd
  simp only [Vendor.Identified, Vendor.registers, Prod.mk.injEq]
    at notIntel notAmd
  rw [vendorFeature]
  split_ifs with intelEbx intelOthers amdEbx amdOthers
  · exact absurd ⟨intelEbx, intelOthers.2, intelOthers.1⟩ notIntel
  · exact ⟨_, rfl⟩
  · exact absurd ⟨amdEbx, amdOthers.2, amdOthers.1⟩ notAmd
  · exact ⟨_, rfl⟩
  · exact ⟨_, rfl⟩

theorem maximumLeaf_feature (vendor : Vendor) (processor : Processor) :
    maximumLeaf processor (processor 0 0) vendor.feature.1 =
      (processor vendor.rangeLeaf 0).eax := by
  cases vendor with
  | intel =>
      rw [Vendor.feature, maximumLeaf, if_neg (by decide)]
      rfl
  | amd =>
      rw [Vendor.feature, maximumLeaf, if_pos (by decide)]
      rfl

theorem feature_leaf (vendor : Vendor) :
    vendor.feature.1 = vendor.featureLeaf := by
  cases vendor <;> rfl

/-- Masking a word with a shifted one tests its bit. -/
theorem and_shift_ne_zero (vendor : Vendor) (word : UInt32) :
    (word &&& (1 <<< vendor.feature.2) != 0) =
      word.toNat.testBit vendor.featureBit := by
  have mask :
      ((1 : UInt32) <<< vendor.feature.2).toNat = 2 ^ vendor.featureBit := by
    cases vendor <;> rfl
  have masked :
      (word &&& (1 <<< vendor.feature.2)).toNat =
        (word.toNat.testBit vendor.featureBit).toNat *
          2 ^ vendor.featureBit := by
    rw [UInt32.toNat_and, mask, Nat.and_two_pow]
  cases set : word.toNat.testBit vendor.featureBit with
  | true =>
      rw [bne_iff_ne, Ne, ← UInt32.toNat_inj, masked, set]
      simp
  | false =>
      rw [bne_eq_false_iff_eq, ← UInt32.toNat_inj, masked, set]
      simp

/-- Of an identified vendor, the leaf is compared and the bit returned. -/
theorem cpuSupportsVm_of_identified
    {vendor : Vendor} {processor : Processor}
    (identified : vendor.Identified processor) :
    cpuSupportsVm processor =
      if (processor vendor.rangeLeaf 0).eax < vendor.featureLeaf then
        runtimeError "Getting feature information is not supported."
      else
        .ok ((processor vendor.featureLeaf 0).ecx.toNat.testBit
          vendor.featureBit) := by
  have leaf := maximumLeaf_feature vendor processor
  have bit :=
    and_shift_ne_zero vendor (processor vendor.featureLeaf 0).ecx
  rw [feature_leaf] at leaf
  simp only [cpuSupportsVm, cpuid, vendorFeature_of_identified identified,
    bind, Except.bind, pure, Except.pure, feature_leaf, leaf, bit]

theorem cpuSupportsVm_of_unidentified
    {processor : Processor}
    (unidentified : ∀ vendor : Vendor, ¬ vendor.Identified processor) :
    ∃ what, cpuSupportsVm processor = .error what := by
  rcases vendorFeature_of_unidentified unidentified with ⟨what, thrown⟩
  refine ⟨what, ?_⟩
  simp only [cpuSupportsVm, cpuid, thrown, bind, Except.bind]

/-- The test returns the bit of an identified vendor, or throws. -/
theorem cpuSupportsVm_eq_ok_iff (processor : Processor) (supported : Bool) :
    cpuSupportsVm processor = .ok supported ↔
      ∃ vendor : Vendor, vendor.Identified processor ∧
        vendor.LeafReported processor ∧
        (vendor.FeatureSet processor ↔ supported = true) := by
  by_cases known : ∃ vendor : Vendor, vendor.Identified processor
  · rcases known with ⟨vendor, identified⟩
    rw [cpuSupportsVm_of_identified identified]
    split_ifs with beyond
    · constructor
      · intro impossible
        cases impossible
      · rintro ⟨other, isOther, reported, -⟩
        cases identified.unique isOther
        exact absurd beyond (UInt32.not_lt.mpr reported)
    · rw [Except.ok.injEq]
      constructor
      · rintro rfl
        exact ⟨vendor, identified, UInt32.not_lt.mp beyond, Iff.rfl⟩
      · rintro ⟨other, isOther, -, set⟩
        cases identified.unique isOther
        exact Bool.eq_iff_iff.mpr set
  · have unidentified : ∀ vendor : Vendor, ¬ vendor.Identified processor :=
      fun vendor identified => known ⟨vendor, identified⟩
    rcases cpuSupportsVm_of_unidentified unidentified with ⟨what, thrown⟩
    rw [thrown]
    constructor
    · intro impossible
      cases impossible
    · rintro ⟨vendor, identified, -⟩
      exact absurd identified (unidentified vendor)

/-- The test itself is right: it returns true exactly when it should. -/
theorem cpuSupportsVm_true_iff (processor : Processor) :
    cpuSupportsVm processor = .ok true ↔ HasVirtualisation processor := by
  simp only [cpuSupportsVm_eq_ok_iff, HasVirtualisation, iff_true]

theorem cpuSupportsVm_false_iff (processor : Processor) :
    cpuSupportsVm processor = .ok false ↔ LacksVirtualisation processor := by
  simp only [cpuSupportsVm_eq_ok_iff, LacksVirtualisation,
    Bool.false_eq_true, iff_false]

/-! ## The constructor drops it -/

/-- Where the ioctls succeed, only the test can throw. -/
theorem construct_ok_iff
    (processor : Processor) (values : KvmCall → Nat) (unset : KvmCap) :
    (∃ kvm, construct processor (fun call => .ok (values call)) unset =
        .ok kvm) ↔
      ∃ supported, cpuSupportsVm processor = .ok supported := by
  have checked :=
    kvmCapCheck_ok (fun capability => values (.checkExtension capability))
      unset
  cases tested : cpuSupportsVm processor with
  | error what =>
      simp [construct, tested, Except.mapError, bind, Except.bind]
  | ok supported =>
      simp [construct, tested, checked, Except.mapError, orThrow,
        kvmIoctlCtor, bind, Except.bind, pure, Except.pure]

/--
The constructor completes exactly on processors with hardware virtualisation,
unless the processor answers that it lacks the feature: then the constructor
completes all the same.
-/
theorem construct_admits_iff
    (processor : Processor) (values : KvmCall → Nat) (unset : KvmCap) :
    ((∃ kvm, construct processor (fun call => .ok (values call)) unset =
          .ok kvm) ↔
        HasVirtualisation processor) ↔
      ¬ LacksVirtualisation processor := by
  rw [construct_ok_iff, ← cpuSupportsVm_true_iff, ← cpuSupportsVm_false_iff]
  cases tested : cpuSupportsVm processor with
  | error what => simp
  | ok supported => cases supported <;> simp

/-- An Intel processor whose VMX is switched off. -/
def intelWithoutVmx : Processor := fun leaf _ =>
  if leaf = 0 then ⟨0x16, visIntelEbx, visIntelEcx, visIntelEdx⟩
  else ⟨0, 0, 0, 0⟩

/-- The constructor completes on a processor without hardware virtualisation. -/
theorem construct_without_vmx :
    ¬ ∀ (processor : Processor) (values : KvmCall → Nat) (unset : KvmCap),
      (∃ kvm, construct processor (fun call => .ok (values call)) unset =
          .ok kvm) ↔
        HasVirtualisation processor := by
  intro claimed
  have admits := claimed intelWithoutVmx (fun _ => 1) ⟨0, 0, 0, 0, 0, 0⟩
  rw [construct_ok_iff, ← cpuSupportsVm_true_iff] at admits
  exact absurd (admits.mp ⟨false, rfl⟩) (by decide)

end Lvmm.Vm.CpuFeat
