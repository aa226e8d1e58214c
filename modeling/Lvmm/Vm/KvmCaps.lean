import Lvmm.Vm.CreateVm

/-!
# The limits which KVM reports

`KVM::kvmCapCheck` asks for six capabilities and stores the answers through a
pointer to `int` that walks over `kvm_cap`, then replaces answers of zero by
defaults.  The hard limit on virtual CPUs is announced to default to the soft
one, but nothing is assigned to it.
-/

namespace Lvmm.Vm.KvmCaps

open Lvmm.Vm.SysCall
open Lvmm.Vm.CreateVm

/-- The capabilities which `KVM_CHECK_EXTENSION` is asked for. -/
inductive Capability where
  | immediateExit
  | nrMemslots
  | multiAddressSpace
  | nrVcpus
  | maxVcpus
  | coalescedMmio
deriving DecidableEq, Repr

/-- `KVM_CAP_CHECK`. -/
def kvmCapCheckList : List Capability :=
  [.immediateExit, .nrMemslots, .multiAddressSpace, .nrVcpus, .maxVcpus,
    .coalescedMmio]

/-- `BaseClass::kvmIoctlCtor`, which throws where the call fails. -/
def kvmIoctlCtor : SysResult → Option Int
  | .ok value => some value
  | .error _ => none

/--
A store through a pointer to `int` which was moved past a number of members of
`kvm_cap`; nothing is known past its end.
-/
def storeMember (cap : KvmCap) (value : Int) : Nat → Option KvmCap
  | 0 => some { cap with immediateExit := value }
  | 1 => some { cap with nrSlots := value }
  | 2 => some { cap with nrAs := value }
  | 3 => some { cap with softVcpusLimit := value }
  | 4 => some { cap with hardVcpusLimit := value }
  | 5 => some { cap with coalescedMmio := value }
  | _ => none

/-- The loop over `KVM_CAP_CHECK`, from some member on. -/
def storeAnswers (ask : Capability → SysResult) :
    List Capability → Nat → KvmCap → Option KvmCap
  | [], _, cap => some cap
  | capability :: rest, member, cap => do
      let answer ← kvmIoctlCtor (ask capability)
      let stored ← storeMember cap answer member
      storeAnswers ask rest (member + 1) stored

/-- The tests for zero; the one for the hard limit only prints. -/
def assumeDefaults (cap : KvmCap) : KvmCap :=
  { cap with
    nrSlots := if cap.nrSlots = 0 then 32 else cap.nrSlots
    nrAs := if cap.nrAs = 0 then 1 else cap.nrAs
    softVcpusLimit :=
      if cap.softVcpusLimit = 0 then 4 else cap.softVcpusLimit }

/-- `KVM::kvmCapCheck` on a `cap` with unset members; `none` is a throw. -/
def kvmCapCheck
    (ask : Capability → SysResult) (unset : KvmCap) : Option KvmCap :=
  (storeAnswers ask kvmCapCheckList 0 unset).map assumeDefaults

/-! ## The limits that should hold -/

/-- The soft limit is reported, or 4. -/
def effectiveSoftLimit (answers : Capability → Nat) : Nat :=
  if answers .nrVcpus = 0 then 4 else answers .nrVcpus

/-- The hard limit is reported, or the soft one. -/
def effectiveHardLimit (answers : Capability → Nat) : Nat :=
  if answers .maxVcpus = 0 then effectiveSoftLimit answers
  else answers .maxVcpus

/-- Every answer reaches its own member, whatever the members held. -/
theorem kvmCapCheck_ok (answers : Capability → Nat) (unset : KvmCap) :
    kvmCapCheck (fun capability => .ok (answers capability)) unset =
      some
        { immediateExit := answers .immediateExit
          nrSlots :=
            if answers .nrMemslots = 0 then 32 else answers .nrMemslots
          nrAs :=
            if answers .multiAddressSpace = 0 then 1
            else answers .multiAddressSpace
          softVcpusLimit := effectiveSoftLimit answers
          hardVcpusLimit := answers .maxVcpus
          coalescedMmio := answers .coalescedMmio } := by
  have soft : (effectiveSoftLimit answers : Int) =
      if answers .nrVcpus = 0 then 4 else (answers .nrVcpus : Int) := by
    unfold effectiveSoftLimit
    split_ifs <;> rfl
  simp [kvmCapCheck, kvmCapCheckList, storeAnswers, kvmIoctlCtor,
    storeMember, assumeDefaults, soft]

/-! ## Admission -/

/-- `-EINVAL` comes from the hard limit or from `KVM_CREATE_VM` itself. -/
theorem kvmCreateVm_eq_einval_iff
    (cap : KvmCap) (vcpuNum : Int) (createVm : SysResult)
    (vmThrows : Bool) :
    kvmCreateVm cap vcpuNum createVm vmThrows = .failed (-einval) ↔
      cap.hardVcpusLimit < vcpuNum ∨ createVm.errno = einval := by
  unfold kvmCreateVm
  by_cases exceeds : vcpuNum > cap.hardVcpusLimit
  · simp [exceeds]
  · have within : ¬ cap.hardVcpusLimit < vcpuNum := exceeds
    cases createVm with
    | ok value =>
        have unreported : ¬ SysResult.errno (.ok value) = einval := by
          simp [SysResult.errno, einval]
        have succeeded : ¬ kvmIoctl (.ok value) < 0 := by
          simp [kvmIoctl_neg_iff]
        cases vmThrows <;> simp [within, unreported, succeeded]
    | error errno =>
        have failing : kvmIoctl (.error errno) < 0 := by
          simp [kvmIoctl_neg_iff]
        simp [within, failing]

/--
After `kvmCapCheck`, `kvmCreateVM` rejects with `-EINVAL` exactly the numbers of
virtual CPUs above the effective hard limit, when KVM reports a hard limit and
`KVM_CREATE_VM` does not itself fail that way.  Otherwise it does so only for
numbers which are above the limit.
-/
theorem rejects_iff_exceeds_iff
    (answers : Capability → Nat) (unset : KvmCap) (vcpuNum : Int)
    (positive : 0 < vcpuNum) (createVm : SysResult) (vmThrows : Bool) :
    ∃ cap,
      kvmCapCheck (fun capability => .ok (answers capability)) unset =
        some cap ∧
      ((kvmCreateVm cap vcpuNum createVm vmThrows = .failed (-einval) ↔
          effectiveHardLimit answers < vcpuNum) ↔
        answers .maxVcpus ≠ 0 ∧ createVm.errno ≠ einval ∨
          effectiveHardLimit answers < vcpuNum) := by
  refine ⟨_, kvmCapCheck_ok answers unset, ?_⟩
  rw [kvmCreateVm_eq_einval_iff]
  unfold effectiveHardLimit
  by_cases unreported : answers .maxVcpus = 0
  · simp [unreported, positive]
  · by_cases refused : createVm.errno = einval
    · simp [unreported, refused]
    · simp [unreported, refused]

/-- What KVM reports where only the hard limit is missing. -/
def onlySoftReported : Capability → Nat
  | .maxVcpus => 0
  | _ => 8

/-- One virtual CPU is rejected although eight are the effective limit. -/
theorem rejects_one_of_eight :
    ¬ ∀ (answers : Capability → Nat) (unset cap : KvmCap) (vcpuNum : Int)
        (createVm : SysResult) (vmThrows : Bool),
      0 < vcpuNum → createVm.errno ≠ einval →
      kvmCapCheck (fun capability => .ok (answers capability)) unset =
        some cap →
      (kvmCreateVm cap vcpuNum createVm vmThrows = .failed (-einval) ↔
        effectiveHardLimit answers < vcpuNum) := by
  intro claimed
  have rejected := claimed onlySoftReported ⟨0, 0, 0, 0, 0, 0⟩ _ 1 (.ok 3)
    false (by decide) (by decide) (kvmCapCheck_ok onlySoftReported _)
  exact absurd (rejected.mp rfl) (by decide)

/-- A reported limit of eight admits four. -/
theorem rejects_iff_exceeds_iff_four :
    0 < (4 : Int) ∧ ∃ cap,
      kvmCapCheck (fun _ => .ok 8) ⟨0, 0, 0, 0, 0, 0⟩ = some cap ∧
      ¬ kvmCreateVm cap 4 (.ok 3) false = .failed (-einval) := by
  have positive : 0 < (4 : Int) := by decide
  rcases rejects_iff_exceeds_iff (fun _ => 8) ⟨0, 0, 0, 0, 0, 0⟩ 4 positive
    (.ok 3) false with ⟨cap, checked, exact⟩
  have faithful := exact.mpr (Or.inl ⟨by decide, by decide⟩)
  refine ⟨positive, cap, checked, ?_⟩
  intro rejected
  exact absurd (faithful.mp rejected) (by decide)

end Lvmm.Vm.KvmCaps
