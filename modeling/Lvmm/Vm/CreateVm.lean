import Lvmm.Vm.SysCall

/-!
# Admission of a machine

`KVM::kvmCreateVM` compares the number of virtual CPUs with the limits which KVM
reported, then creates the machine.  The constructor of `VM` may throw, since it
opens the kernel and the initramfs.
-/

namespace Lvmm.Vm.CreateVm

open Lvmm.Vm.SysCall

def einval : Int := 22

/-- `kvm_cap`. -/
structure KvmCap where
  immediateExit : Int
  nrSlots : Int
  nrAs : Int
  softVcpusLimit : Int
  hardVcpusLimit : Int
  coalescedMmio : Int

/-- What `KVM::kvmCreateVM` did; `created` is the only case to set `*ptr_vm`. -/
inductive CreateRun where
  | failed (result : Int)
  | threw
  | created (result : Int)
deriving DecidableEq, Repr

/--
`KVM::kvmCreateVM`, given the answer to `KVM_CREATE_VM` and whether the
constructor of `VM` throws.  Exceeding the soft limit is only warned about.
-/
def kvmCreateVm
    (cap : KvmCap) (vcpuNum : Int) (createVm : SysResult)
    (vmThrows : Bool) : CreateRun :=
  if vcpuNum > cap.hardVcpusLimit then .failed (-einval)
  else if kvmIoctl createVm < 0 then .failed (-createVm.errno)
  else if vmThrows then .threw
  else .created (kvmIoctl createVm)

/-- The machine is created. -/
def Accepts
    (cap : KvmCap) (vcpuNum : Int) (createVm : SysResult)
    (vmThrows : Bool) : Prop :=
  ∃ result, kvmCreateVm cap vcpuNum createVm vmThrows = .created result

theorem Accepts.within
    {cap : KvmCap} {vcpuNum : Int} {createVm : SysResult} {vmThrows : Bool}
    (accepts : Accepts cap vcpuNum createVm vmThrows) :
    vcpuNum ≤ cap.hardVcpusLimit := by
  rcases accepts with ⟨result, created⟩
  rw [kvmCreateVm] at created
  split_ifs at created with exceeds
  omega

end Lvmm.Vm.CreateVm
