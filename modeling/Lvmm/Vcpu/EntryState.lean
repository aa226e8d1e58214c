import Lvmm.Vm.InitMachine

/-!
# The special registers at entry

`Vcpu::InitSregs` reads the special registers of a virtual CPU, changes them for
a 32-bit or a 64-bit boot and writes them back.  The flags of the control
registers are shifts of an `int`; the one for bit 31 is negative, so it widens to
64 bits with all upper bits set.
-/

namespace Lvmm.Vcpu.EntryState

open Lvmm.Vm.SysCall
open Lvmm.Vm.InitMachine

/-! ## Constants -/

/-- `1 << shift`, an `int`, as the initialiser of a `uint64_t`. -/
def shiftedInt (shift : Int32) : UInt64 :=
  ((1 : Int32) <<< shift).toInt64.toUInt64

def cr0Pe : UInt64 := 1
def cr0Mp : UInt64 := shiftedInt 1
def cr0Et : UInt64 := shiftedInt 4
def cr0Ne : UInt64 := shiftedInt 5
def cr0Wp : UInt64 := shiftedInt 16
def cr0Am : UInt64 := shiftedInt 18
def cr0Pg : UInt64 := shiftedInt 31
def cr4Pae : UInt64 := shiftedInt 5
def msrIa32EferLme : UInt64 := shiftedInt 8
def msrIa32EferLma : UInt64 := shiftedInt 10

def bootPagetableBase : UInt64 := 0x00030000

def segDescSelectorTiGdt : UInt16 := .ofNat (0 <<< 2)
def segDescSelectorIdxShift : UInt16 := 3
def segDescSelectorRplKernel : UInt16 := 0
def segDescTypeCodeA : UInt8 := 1
def segDescTypeCodeR : UInt8 := .ofNat (1 <<< 1)
def segDescTypeCode : UInt8 := .ofNat (1 <<< 3)
def segDescTypeDataA : UInt8 := 1
def segDescTypeDataW : UInt8 := .ofNat (1 <<< 1)
def segDescTypeData : UInt8 := .ofNat (0 <<< 3)
def segDescTypeFlagCd : UInt8 := 1
def segDescDplKernel : UInt8 := 0
def segDescDbExLset : UInt8 := 0
def segDescL64bitMode : UInt8 := 1
def segDescGran4kb : UInt8 := 1

/-! ## Records -/

/-- `kvm_segment`. -/
structure KvmSegment where
  base : UInt64
  limit : UInt32
  selector : UInt16
  type : UInt8
  present : UInt8
  dpl : UInt8
  db : UInt8
  s : UInt8
  l : UInt8
  g : UInt8
  avl : UInt8
  unusable : UInt8
  padding : UInt8
deriving DecidableEq

/-- `descriptor_table`. -/
structure DescriptorTable where
  base : UInt64
  limit : UInt16
  padding : Vector UInt16 3
deriving DecidableEq

/-- `vcpu_sregs`; there are 256 interrupts. -/
structure VcpuSregs where
  cs : KvmSegment
  ds : KvmSegment
  es : KvmSegment
  fs : KvmSegment
  gs : KvmSegment
  ss : KvmSegment
  tr : KvmSegment
  ldt : KvmSegment
  gdt : DescriptorTable
  idt : DescriptorTable
  cr0 : UInt64
  cr2 : UInt64
  cr3 : UInt64
  cr4 : UInt64
  cr8 : UInt64
  efer : UInt64
  apicBase : UInt64
  interruptBitmap : Vector UInt64 4
deriving DecidableEq

/-! ## `Vcpu::InitSregs` -/

/-- The three assignments to each segment for a 32-bit boot. -/
def KvmSegment.flat (segment : KvmSegment) : KvmSegment :=
  { segment with base := 0, limit := 0xffffffff, g := 1 }

/-- The registers for a 32-bit boot. -/
def VcpuSregs.protectedMode (sregs : VcpuSregs) : VcpuSregs :=
  { sregs with
    cs := { sregs.cs.flat with db := 1 }
    ds := sregs.ds.flat
    es := sregs.es.flat
    fs := sregs.fs.flat
    gs := sregs.gs.flat
    ss := { sregs.ss.flat with db := 1 }
    cr0 := sregs.cr0 ||| cr0Pe }

/-- `sd`. -/
def codeSegment : KvmSegment where
  base := 0
  limit := 0xffffffff
  selector :=
    1 <<< segDescSelectorIdxShift ||| segDescSelectorTiGdt |||
      segDescSelectorRplKernel
  type := segDescTypeCode ||| segDescTypeCodeA ||| segDescTypeCodeR
  present := 1
  dpl := segDescDplKernel
  db := segDescDbExLset
  s := segDescTypeFlagCd
  l := segDescL64bitMode
  g := segDescGran4kb
  avl := 0
  unusable := 0
  padding := 0

/-- `others`. -/
def dataSegment : KvmSegment :=
  { codeSegment with
    selector :=
      2 <<< segDescSelectorIdxShift ||| segDescSelectorTiGdt |||
        segDescSelectorRplKernel
    type := segDescTypeData ||| segDescTypeDataA ||| segDescTypeDataW }

/-- The registers for a 64-bit boot. -/
def VcpuSregs.longMode (sregs : VcpuSregs) : VcpuSregs :=
  { sregs with
    cr3 := bootPagetableBase
    cr4 := cr4Pae
    cr0 :=
      cr0Pe ||| cr0Mp ||| cr0Et ||| cr0Ne ||| cr0Wp ||| cr0Am ||| cr0Pg
    efer := msrIa32EferLme ||| msrIa32EferLma
    cs := codeSegment
    ds := dataSegment
    es := dataSegment
    fs := dataSegment
    gs := dataSegment
    ss := dataSegment }

/-- What was passed to `KVM_SET_SREGS`, and the value returned. -/
structure SregsRun where
  passed : Option VcpuSregs
  result : Int
deriving DecidableEq

/-- `Vcpu::SetSregs` and the return after it. -/
def setSregs (sregs : VcpuSregs) (answer : SysResult) : SregsRun :=
  { passed := some sregs
    result := if zeroOrErrno answer ≠ 0 then zeroOrErrno answer else 0 }

/--
`Vcpu::InitSregs`, given what `KVM_GET_SREGS` answers and reads and what
`KVM_SET_SREGS` answers.
-/
def initSregs
    (is64BitBoot : Bool) (getAnswer : SysResult) (read : VcpuSregs)
    (setAnswer : SysResult) : SregsRun :=
  if zeroOrErrno getAnswer ≠ 0 then
    { passed := none, result := zeroOrErrno getAnswer }
  else if !is64BitBoot then setSregs read.protectedMode setAnswer
  else setSregs read.longMode setAnswer

theorem setSregs_result (sregs : VcpuSregs) (answer : SysResult) :
    (setSregs sregs answer).result = zeroOrErrno answer := by
  rw [setSregs]
  split_ifs with failed
  · rfl
  · exact (not_not.mp failed).symm

/-- Registers that cannot be read are not written. -/
theorem initSregs_of_error
    (is64BitBoot : Bool) (errno : Errno) (read : VcpuSregs)
    (setAnswer : SysResult) :
    initSregs is64BitBoot (.error errno) read setAnswer =
      { passed := none, result := -(errno.value : Int) } := by
  rw [initSregs, if_pos (zeroOrErrno_error_ne errno), zeroOrErrno_error]

theorem initSregs_of_ok
    (is64BitBoot : Bool) (value : Nat) (read : VcpuSregs)
    (setAnswer : SysResult) :
    initSregs is64BitBoot (.ok value) read setAnswer =
      setSregs (if is64BitBoot then read.longMode else read.protectedMode)
        setAnswer := by
  rw [initSregs, zeroOrErrno_ok, if_neg (by simp)]
  cases is64BitBoot with
  | true => rfl
  | false => rfl

/-- The ioctls which a run of `Vcpu::InitSregs` issued. -/
def SregsRun.calls (run : SregsRun) (cpu : Nat) : List InitCall :=
  match run.passed with
  | none => [.getSregs cpu]
  | some _ => [.getSregs cpu, .setSregs cpu]

/-- The initialisation of the machine sees these calls and this value. -/
theorem initSregs_calls
    {answers : InitCall → SysResult} {cpu : Nat} {is64BitBoot : Bool}
    {read : VcpuSregs} {run : SregsRun}
    (ran : initSregs is64BitBoot (answers (.getSregs cpu)) read
      (answers (.setSregs cpu)) = run) :
    Vm.InitMachine.initSregs answers cpu = (run.calls cpu, run.result) := by
  subst ran
  rw [Vm.InitMachine.initSregs, readThenWrite]
  cases answers (.getSregs cpu) with
  | error errno =>
      rw [if_pos (zeroOrErrno_error_ne errno), zeroOrErrno_error,
        initSregs_of_error]
      rfl
  | ok value =>
      rw [initSregs_of_ok, setSregs_result, zeroOrErrno_ok,
        if_neg (by simp)]
      by_cases written : zeroOrErrno (answers (.setSregs cpu)) = 0
      · rw [written]
        rfl
      · rw [if_pos written]
        rfl

/-! ## What the entry state must be -/

/-- A bit of a control register is set. -/
def BitSet (word : UInt64) (bit : Nat) : Prop :=
  word.toNat.testBit bit = true

instance (word : UInt64) (bit : Nat) : Decidable (BitSet word bit) :=
  inferInstanceAs (Decidable (_ = _))

/-- Whatever differs, the registers which neither boot changes are as read. -/
structure SystemKept (read passed : VcpuSregs) : Prop where
  tr : passed.tr = read.tr
  ldt : passed.ldt = read.ldt
  gdt : passed.gdt = read.gdt
  idt : passed.idt = read.idt
  cr2 : passed.cr2 = read.cr2
  cr8 : passed.cr8 = read.cr8
  apicBase : passed.apicBase = read.apicBase
  interruptBitmap : passed.interruptBitmap = read.interruptBitmap

/-- 64-bit code with 4-level paging, but for the upper half of CR0. -/
structure PagedLongMode (read passed : VcpuSregs) : Prop where
  protection : BitSet passed.cr0 0
  paging : BitSet passed.cr0 31
  physicalAddressExtension : BitSet passed.cr4 5
  longModeEnable : BitSet passed.efer 8
  longModeActive : BitSet passed.efer 10
  pageTable : passed.cr3 = bootPagetableBase
  codeLong : passed.cs.l = 1
  codeDefault : passed.cs.db = 0
  kept : SystemKept read passed

/-- The entry state of a 64-bit boot: CR0 has no bit above 31. -/
structure LongModeEntry (read passed : VcpuSregs) : Prop where
  paged : PagedLongMode read passed
  upperHalf : ∀ bit, 32 ≤ bit → ¬ BitSet passed.cr0 bit

/-- A segment is as read, but flat over 4 GiB. -/
structure FlatSegment (read passed : KvmSegment) : Prop where
  base : passed.base = 0
  limit : passed.limit = 0xffffffff
  granularity : passed.g = 1
  kept :
    { passed with base := read.base, limit := read.limit, g := read.g } =
      read

/-- The entry state of a 32-bit boot. -/
structure ProtectedModeEntry (read passed : VcpuSregs) : Prop where
  cs : FlatSegment { read.cs with db := 1 } passed.cs
  ds : FlatSegment read.ds passed.ds
  es : FlatSegment read.es passed.es
  fs : FlatSegment read.fs passed.fs
  gs : FlatSegment read.gs passed.gs
  ss : FlatSegment { read.ss with db := 1 } passed.ss
  cr0 : passed.cr0 = read.cr0 ||| 1
  kept :
    { passed with
      cs := read.cs, ds := read.ds, es := read.es, fs := read.fs
      gs := read.gs, ss := read.ss, cr0 := read.cr0 } = read

theorem FlatSegment.of_flat (segment : KvmSegment) :
    FlatSegment segment segment.flat :=
  ⟨rfl, rfl, rfl, rfl⟩

/-! ## What is passed -/

theorem protectedModeEntry (read : VcpuSregs) :
    ProtectedModeEntry read read.protectedMode where
  cs := ⟨rfl, rfl, rfl, rfl⟩
  ds := .of_flat read.ds
  es := .of_flat read.es
  fs := .of_flat read.fs
  gs := .of_flat read.gs
  ss := ⟨rfl, rfl, rfl, rfl⟩
  cr0 := rfl
  kept := rfl

/-- The flag for bit 31 sets the upper half of CR0 as well. -/
theorem longMode_cr0 (read : VcpuSregs) :
    read.longMode.cr0 = 0xffffffff80050033 := by
  change cr0Pe ||| cr0Mp ||| cr0Et ||| cr0Ne ||| cr0Wp ||| cr0Am |||
    cr0Pg = _
  decide

theorem longMode_cr4 (read : VcpuSregs) : read.longMode.cr4 = 0x20 := by
  change cr4Pae = _
  decide

theorem longMode_efer (read : VcpuSregs) :
    read.longMode.efer = 0x500 := by
  change msrIa32EferLme ||| msrIa32EferLma = _
  decide

theorem pagedLongMode (read : VcpuSregs) :
    PagedLongMode read read.longMode where
  protection := by rw [longMode_cr0]; decide
  paging := by rw [longMode_cr0]; decide
  physicalAddressExtension := by rw [longMode_cr4]; decide
  longModeEnable := by rw [longMode_efer]; decide
  longModeActive := by rw [longMode_efer]; decide
  pageTable := rfl
  codeLong := rfl
  codeDefault := rfl
  kept := ⟨rfl, rfl, rfl, rfl, rfl, rfl, rfl, rfl⟩

/-- No 64-bit boot passes a valid entry state. -/
theorem not_longModeEntry (read : VcpuSregs) :
    ¬ LongModeEntry read read.longMode := by
  rintro ⟨-, upperHalf⟩
  apply upperHalf 63 (by decide)
  rw [longMode_cr0]
  decide

/--
With both ioctls succeeding, the state passed on is a valid entry state for the
boot; where the registers cannot be read, nothing is passed on and the error is
returned.
-/
structure BuildsEntryState
    (is64BitBoot : Bool) (getAnswer : SysResult) (read : VcpuSregs)
    (setAnswer : SysResult) : Prop where
  valid : getAnswer.Succeeded → setAnswer.Succeeded →
    ∃ passed,
      (initSregs is64BitBoot getAnswer read setAnswer).passed =
        some passed ∧
      if is64BitBoot then LongModeEntry read passed
      else ProtectedModeEntry read passed
  refused : ∀ errno, getAnswer = .error errno →
    initSregs is64BitBoot getAnswer read setAnswer =
      { passed := none, result := -(errno.value : Int) }

/--
For all registers read, the entry state is valid exactly for a 32-bit boot or
where an ioctl fails.
-/
theorem buildsEntryState_iff
    (is64BitBoot : Bool) (getAnswer : SysResult) (read : VcpuSregs)
    (setAnswer : SysResult) :
    BuildsEntryState is64BitBoot getAnswer read setAnswer ↔
      is64BitBoot = false ∨
        ¬ (getAnswer.Succeeded ∧ setAnswer.Succeeded) := by
  constructor
  · rintro ⟨valid, -⟩
    by_contra bad
    rw [not_or, not_not, Bool.not_eq_false] at bad
    rcases bad with ⟨rfl, gotten, written⟩
    rcases valid gotten written with ⟨passed, isPassed, entry⟩
    cases getAnswer with
    | error errno => exact gotten
    | ok value =>
        rw [initSregs_of_ok, setSregs, if_pos rfl,
          Option.some.injEq] at isPassed
        rw [if_pos rfl, ← isPassed] at entry
        exact not_longModeEntry read entry
  · intro good
    refine ⟨?_, ?_⟩
    · intro gotten written
      have is32BitBoot : is64BitBoot = false := by
        rcases good with is32BitBoot | failed
        · exact is32BitBoot
        · exact absurd ⟨gotten, written⟩ failed
      cases getAnswer with
      | error errno => exact absurd gotten id
      | ok value =>
          rw [is32BitBoot, initSregs_of_ok]
          exact ⟨read.protectedMode, rfl, protectedModeEntry read⟩
    · rintro errno rfl
      exact initSregs_of_error is64BitBoot errno read setAnswer

/-- Some registers of a virtual CPU which has just been reset. -/
def resetSregs : VcpuSregs where
  cs := { codeSegment with l := 0, g := 0, limit := 0xffff }
  ds := { dataSegment with l := 0, g := 0, limit := 0xffff }
  es := { dataSegment with l := 0, g := 0, limit := 0xffff }
  fs := { dataSegment with l := 0, g := 0, limit := 0xffff }
  gs := { dataSegment with l := 0, g := 0, limit := 0xffff }
  ss := { dataSegment with l := 0, g := 0, limit := 0xffff }
  tr := dataSegment
  ldt := dataSegment
  gdt := ⟨0, 0xffff, #v[0, 0, 0]⟩
  idt := ⟨0, 0xffff, #v[0, 0, 0]⟩
  cr0 := 0x60000010
  cr2 := 0
  cr3 := 0
  cr4 := 0
  cr8 := 0
  efer := 0
  apicBase := 0xfee00900
  interruptBitmap := #v[0, 0, 0, 0]

/-- A 64-bit boot from reset passes a CR0 with its upper half set. -/
theorem not_buildsEntryState_reset :
    ¬ ∀ (is64BitBoot : Bool) (getAnswer : SysResult) (read : VcpuSregs)
        (setAnswer : SysResult),
      BuildsEntryState is64BitBoot getAnswer read setAnswer := by
  intro claimed
  rcases (claimed true (.ok 0) resetSregs (.ok 0)).valid trivial trivial with
    ⟨passed, isPassed, entry⟩
  rw [if_pos rfl] at entry
  cases isPassed
  exact not_longModeEntry resetSregs entry

end Lvmm.Vcpu.EntryState
