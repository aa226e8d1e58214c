import Mathlib.Order.CompletePartialOrder
import Mathlib.Order.Interval.Set.Disjoint
import Lvmm.Vm.InitMachine
import Lvmm.Vm.InitRam

/-!
# The physical memory map

Several methods of `VM` place ranges in the guest's physical address space: the
memory slot, the entries of the E820 map, the EBDA and the pages which KVM and
the MP tables reserve.  Only `ram_size` relates them, and nothing checks it.
-/

namespace Lvmm.Vm.MemoryMap

open Lvmm.Boot.BootProtocol
open Lvmm.Boot.MpTables
open Lvmm.Vm.InitRam
open Lvmm.Vm.SysCall

def tssBase : UInt64 := 0xf8000000
def identityMapBase : UInt64 := 0xf8003000
def pageSize : Nat := 0x1000

/-- A range of addresses, of a start and a size. -/
def range (start size : Nat) : Set Nat :=
  Set.Ico start (start + size)

/-- `kvm_userspace_memory_region`. -/
structure UserMemoryRegion where
  slot : UInt32
  flags : UInt32
  guestPhysAddr : UInt64
  memorySize : UInt64
  userspaceAddr : UInt64

/-- The region and the return value of `VM::setUserMemRegion`. -/
def setUserMemRegion
    (conf : VmConfig) (ramStart : UInt64) (answer : SysResult) :
    UserMemoryRegion × Int :=
  ( { slot := 0
      flags := 0
      guestPhysAddr := 0
      memorySize := conf.ramSize
      userspaceAddr := ramStart },
    valueOrErrno answer )

/-- The guest-physical addresses of a region. -/
def UserMemoryRegion.addresses (region : UserMemoryRegion) : Set Nat :=
  range region.guestPhysAddr.toNat region.memorySize.toNat

/-- The addresses which an entry of the map describes. -/
def entryAddresses (entry : E820entry) : Set Nat :=
  range entry.addr.toNat entry.size.toNat

/-- The addresses of the EBDA which `initRAM` writes. -/
def ebdaAddresses (area : Ebda) : Set Nat :=
  range ebdaStart.toNat area.bytes.length

/-- The map of a guest agrees with its memory. -/
structure MapAgrees
    (region : UserMemoryRegion) (area : Ebda) (entries : List E820entry) :
    Prop where
  ascending : entries.Pairwise fun lower upper => lower.addr < upper.addr
  disjoint : entries.Pairwise fun lower upper =>
    Disjoint (entryAddresses lower) (entryAddresses upper)
  noWrap : ∀ entry ∈ entries, entry.addr.toNat + entry.size.toNat < 2 ^ 64
  backed : ∀ entry ∈ entries, entry.type = bootE820TypeRam →
    entryAddresses entry ⊆ region.addresses
  ebda : ∀ entry ∈ entries, entry.type = bootE820TypeRam →
    Disjoint (ebdaAddresses area) (entryAddresses entry)

/--
The pages of `VM::setTSSAddr`, of `VM::setIdentityMapAddr` and of the local APIC
in the MP tables.
-/
def reservedPages (area : Ebda) : List (Set Nat) :=
  [ range tssBase.toNat (3 * pageSize),
    range identityMapBase.toNat pageSize,
    range area.ctable.addrLocalApic.toNat pageSize ]

/-- Guest memory covers no reserved page. -/
def ReservedClear
    (region : UserMemoryRegion) (area : Ebda) (entries : List E820entry) :
    Prop :=
  ∀ pages ∈ reservedPages area,
    Disjoint region.addresses pages ∧
    ∀ entry ∈ entries, entry.type = bootE820TypeRam →
      Disjoint (entryAddresses entry) pages

/-! ## Ranges -/

theorem mem_range {start size address : Nat} :
    address ∈ range start size ↔
      start ≤ address ∧ address < start + size :=
  Set.mem_Ico

theorem disjoint_range {start size start' size' : Nat}
    (before : start + size ≤ start') :
    Disjoint (range start size) (range start' size') := by
  rw [Set.disjoint_left]
  intro address lower upper
  rw [mem_range] at lower upper
  omega

theorem range_subset {start size start' size' : Nat}
    (left : start' ≤ start) (right : start + size ≤ start' + size') :
    range start size ⊆ range start' size' :=
  Set.Ico_subset_Ico left right

/-- The step of `VM::initMachine` registers this region. -/
theorem setUserMemRegion_step
    (conf : VmConfig) (ramStart : UInt64)
    (answers : InitMachine.InitCall → SysResult) :
    InitMachine.setUserMemRegion answers =
      { calls := [.setUserMemoryRegion]
        ending := .returned
          (setUserMemRegion conf ramStart
            (answers .setUserMemoryRegion)).2 } :=
  rfl

/-! ## The four entries -/

/-- Each entry ends before the next one begins, whatever the last one's size. -/
theorem memoryMap_ordered (conf : VmConfig) :
    (memoryMap conf).Pairwise fun lower upper =>
      lower.addr.toNat + lower.size.toNat ≤ upper.addr.toNat := by
  simp only [memoryMap, List.pairwise_cons, List.mem_cons,
    List.not_mem_nil, or_false, forall_eq_or_imp, forall_eq,
    List.Pairwise.nil, false_imp_iff, implies_true, and_true]
  decide

theorem memoryMap_ascending (conf : VmConfig) :
    (memoryMap conf).Pairwise fun lower upper =>
      lower.addr < upper.addr := by
  simp only [memoryMap, List.pairwise_cons, List.mem_cons,
    List.not_mem_nil, or_false, forall_eq_or_imp, forall_eq,
    List.Pairwise.nil, false_imp_iff, implies_true, and_true]
  decide

/-- The RAM of the map is conventional memory and high memory. -/
theorem mem_memoryMap_ram
    {conf : VmConfig} {entry : E820entry}
    (member : entry ∈ memoryMap conf)
    (ram : entry.type = bootE820TypeRam) :
    entryAddresses entry = range 0 ebdaStart.toNat ∨
      entryAddresses entry =
        range highmemBase.toNat (conf.ramSize - highmemBase).toNat := by
  have differs : ¬ bootE820TypeReserved = bootE820TypeRam := by decide
  simp only [memoryMap, List.mem_cons, List.not_mem_nil, or_false] at member
  rcases member with rfl | rfl | rfl | rfl
  · left
    rfl
  · exact absurd ram differs
  · exact absurd ram differs
  · right
    rfl

theorem highmem_size
    {conf : VmConfig} (large : highmemBase ≤ conf.ramSize) :
    highmemBase.toNat + (conf.ramSize - highmemBase).toNat =
      conf.ramSize.toNat := by
  have order : highmemBase.toNat ≤ conf.ramSize.toNat := large
  rw [UInt64.toNat_sub_of_le _ _ large]
  omega

/-- The RAM of the map lies in the slot, if the slot reaches high memory. -/
theorem memoryMap_backed
    {conf : VmConfig} (large : highmemBase ≤ conf.ramSize)
    (ramStart : UInt64) (answer : SysResult)
    {entry : E820entry} (member : entry ∈ memoryMap conf)
    (ram : entry.type = bootE820TypeRam) :
    entryAddresses entry ⊆
      (setUserMemRegion conf ramStart answer).1.addresses := by
  have order : highmemBase.toNat ≤ conf.ramSize.toNat := large
  have value : highmemBase.toNat = 0x100000 := rfl
  have ebda : ebdaStart.toNat = 0x9fc00 := rfl
  rcases mem_memoryMap_ram member ram with low | high
  · rw [low]
    refine range_subset (Nat.zero_le _) ?_
    change 0 + ebdaStart.toNat ≤ 0 + conf.ramSize.toNat
    omega
  · rw [high]
    refine range_subset (Nat.zero_le _) ?_
    change _ ≤ 0 + conf.ramSize.toNat
    rw [highmem_size large, Nat.zero_add]

/-! ## Agreement with the slot -/

/-- Below high memory the size of the last entry wraps, and so does its end. -/
theorem not_noWrap_of_small
    {conf : VmConfig} (small : ¬ highmemBase ≤ conf.ramSize) :
    ¬ ∀ entry ∈ memoryMap conf,
      entry.addr.toNat + entry.size.toNat < 2 ^ 64 := by
  intro noWrap
  have last := noWrap
    { addr := highmemBase, size := conf.ramSize - highmemBase,
      type := bootE820TypeRam }
    (by simp [memoryMap])
  have order : conf.ramSize.toNat < highmemBase.toNat := not_le.mp small
  have value : highmemBase.toNat = 0x100000 := rfl
  change highmemBase.toNat + (conf.ramSize - highmemBase).toNat < 2 ^ 64
    at last
  rw [UInt64.toNat_sub, value] at last
  omega

/--
The map which `initRAM` builds agrees with the slot exactly from a memory size
on which reaches high memory.
-/
theorem mapAgrees_iff
    (conf : VmConfig) (ramStart : UInt64) (answer : SysResult)
    (area : Ebda) (ramdiskSize : Int) (header : SetupHeader) :
    ∃ bp, fillBootParams conf ramdiskSize header = some bp ∧
      (MapAgrees (setUserMemRegion conf ramStart answer).1 area bp.entries ↔
        highmemBase ≤ conf.ramSize) := by
  rcases fillBootParams_maps conf ramdiskSize header with
    ⟨bp, filled, maps, -⟩
  refine ⟨bp, filled, ?_⟩
  rw [maps.entries_eq]
  constructor
  · intro agrees
    by_contra small
    exact not_noWrap_of_small small agrees.noWrap
  · intro large
    refine ⟨memoryMap_ascending conf, ?_, ?_, ?_, ?_⟩
    · exact (memoryMap_ordered conf).imp disjoint_range
    · intro entry member
      have size := conf.ramSize.toNat_lt
      have last := highmem_size large
      simp only [memoryMap, List.mem_cons, List.not_mem_nil, or_false]
        at member
      rcases member with rfl | rfl | rfl | rfl
      · decide
      · decide
      · decide
      · change highmemBase.toNat + (conf.ramSize - highmemBase).toNat < 2 ^ 64
        omega
    · intro entry member ram
      exact memoryMap_backed large ramStart answer member ram
    · intro entry member ram
      rcases mem_memoryMap_ram member ram with low | high
      · rw [low]
        exact (disjoint_range (Nat.zero_add _).le).symm
      · rw [high]
        refine disjoint_range ?_
        rw [area.bytes_length]
        decide

/-- A guest of 640 KiB is told about nearly 2^64 bytes of high memory. -/
theorem not_mapAgrees_640K :
    ¬ ∀ (conf : VmConfig) (ramStart : UInt64) (answer : SysResult)
        (area : Ebda) (ramdiskSize : Int) (header : SetupHeader)
        (bp : BootParams),
      fillBootParams conf ramdiskSize header = some bp →
      MapAgrees (setUserMemRegion conf ramStart answer).1 area
        bp.entries := by
  intro claimed
  rcases genEbda_of_le (show 1 ≤ mpMaxVcpuNum by decide) with ⟨area, -⟩
  rcases fillBootParams_maps ⟨1, 0xa0000, false⟩ 0
      (.zero setupHeaderLayout) with
    ⟨bp, filled, maps, -⟩
  have agrees := claimed _ 0 (.ok 0) area _ _ bp filled
  rw [maps.entries_eq] at agrees
  exact not_noWrap_of_small (by decide) agrees.noWrap

/-! ## Reserved pages -/

theorem genEbda_addrLocalApic
    {vcpuNum : Int} {area : Ebda} (generated : genEbda vcpuNum = some area) :
    area.ctable.addrLocalApic.toNat = apicBase.toNat := by
  rw [genEbda] at generated
  cases entries : processorEntryInit (fun _ => {}) vcpuNum with
  | none => simp [entries] at generated
  | some entries' =>
      simp only [entries, Option.some.injEq] at generated
      rw [← generated]
      rfl

/-- Every reserved page lies at or above the base of the TSS. -/
theorem reservedPages_above
    {vcpuNum : Int} {area : Ebda} (generated : genEbda vcpuNum = some area)
    {start size : Nat} (below : start + size ≤ tssBase.toNat)
    {pages : Set Nat} (reserved : pages ∈ reservedPages area) :
    Disjoint (range start size) pages := by
  have tss : tssBase.toNat = 0xf8000000 := rfl
  have identity : identityMapBase.toNat = 0xf8003000 := rfl
  have apic : apicBase.toNat = 0xfee00000 := rfl
  simp only [reservedPages, List.mem_cons, List.not_mem_nil, or_false,
    genEbda_addrLocalApic generated] at reserved
  rcases reserved with rfl | rfl | rfl
  · exact disjoint_range below
  · exact disjoint_range (by omega)
  · exact disjoint_range (by omega)

/--
From a memory size on which reaches high memory, guest memory is clear of the
reserved pages exactly up to the base of the TSS.
-/
theorem reservedClear_iff
    (conf : VmConfig) (large : highmemBase ≤ conf.ramSize)
    (ramStart : UInt64) (answer : SysResult) (area : Ebda)
    (generated : genEbda conf.vcpuNum = some area)
    (ramdiskSize : Int) (header : SetupHeader) :
    ∃ bp, fillBootParams conf ramdiskSize header = some bp ∧
      (ReservedClear (setUserMemRegion conf ramStart answer).1 area
          bp.entries ↔
        conf.ramSize ≤ tssBase) := by
  rcases fillBootParams_maps conf ramdiskSize header with
    ⟨bp, filled, maps, -⟩
  refine ⟨bp, filled, ?_⟩
  rw [maps.entries_eq]
  constructor
  · intro clear
    by_contra beyond
    have order : tssBase.toNat < conf.ramSize.toNat := not_le.mp beyond
    have tss := (clear (range tssBase.toNat (3 * pageSize))
      (by simp [reservedPages])).1
    have inSlot : tssBase.toNat ∈
        (setUserMemRegion conf ramStart answer).1.addresses := by
      refine mem_range.mpr ⟨Nat.zero_le _, ?_⟩
      change tssBase.toNat < 0 + conf.ramSize.toNat
      omega
    have inPages : tssBase.toNat ∈
        range tssBase.toNat (3 * pageSize) :=
      mem_range.mpr ⟨le_refl _, by decide⟩
    exact Set.disjoint_left.mp tss inSlot inPages
  · intro fits pages reserved
    have order : conf.ramSize.toNat ≤ tssBase.toNat := fits
    have slotClear : Disjoint
        (setUserMemRegion conf ramStart answer).1.addresses pages := by
      refine reservedPages_above generated ?_ reserved
      change 0 + conf.ramSize.toNat ≤ tssBase.toNat
      omega
    refine ⟨slotClear, ?_⟩
    intro entry member ram
    exact slotClear.mono_left
      (memoryMap_backed large ramStart answer member ram)

/-- The default guest of 1 GiB is clear of them. -/
theorem reservedClear_iff_default :
    ∃ area bp, genEbda 1 = some area ∧
      fillBootParams ⟨1, 0x40000000, false⟩ 0 (.zero setupHeaderLayout) =
        some bp ∧
      ReservedClear (setUserMemRegion ⟨1, 0x40000000, false⟩ 0 (.ok 0)).1
        area bp.entries := by
  rcases genEbda_of_le (show 1 ≤ mpMaxVcpuNum by decide) with
    ⟨area, generated, -⟩
  rcases reservedClear_iff ⟨1, 0x40000000, false⟩ (by decide) 0 (.ok 0)
      area generated 0 (.zero setupHeaderLayout) with
    ⟨bp, filled, clear⟩
  exact ⟨area, bp, generated, filled, clear.mpr (by decide)⟩

/-- The slot of a guest of 4 GiB covers the pages of the TSS. -/
theorem not_reservedClear_4G :
    ¬ ∀ (conf : VmConfig) (ramStart : UInt64) (answer : SysResult)
        (area : Ebda) (ramdiskSize : Int) (header : SetupHeader)
        (bp : BootParams),
      highmemBase ≤ conf.ramSize → genEbda conf.vcpuNum = some area →
      fillBootParams conf ramdiskSize header = some bp →
      ReservedClear (setUserMemRegion conf ramStart answer).1 area
        bp.entries := by
  intro claimed
  rcases genEbda_of_le (show 1 ≤ mpMaxVcpuNum by decide) with
    ⟨area, generated, -⟩
  rcases fillBootParams_maps ⟨1, 0x100000000, false⟩ 0
      (.zero setupHeaderLayout) with
    ⟨bp, filled, -, -⟩
  have clear := claimed ⟨1, 0x100000000, false⟩ 0 (.ok 0) area 0 _ bp
    (by decide) generated filled
  have tss := (clear (range tssBase.toNat (3 * pageSize))
    (by simp [reservedPages])).1
  have inSlot : tssBase.toNat ∈
      (setUserMemRegion ⟨1, 0x100000000, false⟩ 0 (.ok 0)).1.addresses :=
    mem_range.mpr (by decide)
  have inPages : tssBase.toNat ∈ range tssBase.toNat (3 * pageSize) :=
    mem_range.mpr (by decide)
  exact Set.disjoint_left.mp tss inSlot inPages

end Lvmm.Vm.MemoryMap
