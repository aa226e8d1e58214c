import Lvmm.Library.X86Paging

/-!
# The boot page table

`VM::createPageTable` over guest memory, addressed by guest-physical address.
It clears six pages, then writes one PML4 entry, four entries of the
page-directory-pointer table and 2048 entries of four page directories.  The
arithmetic on entries is that of `uint64_t`.  The assertion of the source, that
the host address of the tables is not null, holds for every mapped guest RAM.

The tables are compared with the architecture's own walk.
-/

namespace Lvmm.Vm.PageTable

open Lvmm.Library.CellMemory
open Lvmm.Library.LittleEndian
open Lvmm.Library.X86Paging

abbrev PTE := UInt64

def pageFlagP : UInt64 := 1
def pageFlagRw : UInt64 := (1 : UInt64) <<< 1
def pageFlagPcd : UInt64 := (1 : UInt64) <<< 4
def pageFlagPs : UInt64 := (1 : UInt64) <<< 7
def pageFlagG : UInt64 := (1 : UInt64) <<< 8

def pageShift4kb : UInt32 := 12
def pageShift2mb : UInt32 := 21
def pageSize4kb : UInt32 := 2 <<< (pageShift4kb - 1)
def pageSize2mb : UInt32 := 2 <<< (pageShift2mb - 1)
def bootPagetableSize : UInt32 := pageSize4kb * 6

def bootPdpteNum : Nat := 4
def bootPdeNum : Nat := 2048

/-- `*(start + index) = entry` for a pointer to entries. -/
def storePte
    (start index : Nat) (entry : PTE) (memory : Memory UInt8) :
    Memory UInt8 :=
  storeWord memory (start + 8 * index) 8 entry.toNat

/-- `std::memset(start, 0, BOOT_PAGETABLE_SIZE)`. -/
def clearTables (start : Nat) (memory : Memory UInt8) : Memory UInt8 :=
  store memory ⟨start, List.replicate bootPagetableSize.toNat 0⟩

/-- The loop over the page-directory-pointer table, with the last entry. -/
def storePdptes
    (pdpteStart : Nat) (pdpte : PTE) (count : Nat)
    (memory : Memory UInt8) : PTE × Memory UInt8 :=
  (List.range count).foldl
    (fun (entry, current) index =>
      let next := entry + pageSize4kb.toUInt64
      (next, storePte pdpteStart index next current))
    (pdpte, memory)

/-- The loop over the page directories, with the entry after the last one. -/
def storePdes
    (pdeStart : Nat) (pde : PTE) (count : Nat)
    (memory : Memory UInt8) : PTE × Memory UInt8 :=
  (List.range count).foldl
    (fun (entry, current) index =>
      (entry + pageSize2mb.toUInt64,
        storePte pdeStart index entry current))
    (pde, memory)

/-- `VM::createPageTable`, which always returns 0. -/
def createPageTable
    (bootPgtableBase : UInt64) (memory : Memory UInt8) : Memory UInt8 :=
  let pagetableStart := bootPgtableBase.toNat
  let pml4Start := pagetableStart
  let pdpteStart := pagetableStart + pageSize4kb.toNat
  let pdeStart := pagetableStart + pageSize4kb.toNat * 2
  let pml4StartGpa := bootPgtableBase
  let pdpteStartGpa := bootPgtableBase + pageSize4kb.toUInt64
  let pml4e :=
    (pageFlagPcd ||| pageFlagRw ||| pageFlagP) +
      (pml4StartGpa + pageSize4kb.toUInt64)
  let pdpte :=
    (pageFlagPcd ||| pageFlagRw ||| pageFlagP) + pdpteStartGpa
  let pde := pageFlagG ||| pageFlagPs ||| pageFlagRw ||| pageFlagP
  let cleared := clearTables pagetableStart memory
  let withPml4 := storePte pml4Start 0 pml4e cleared
  let withPdpt := (storePdptes pdpteStart pdpte bootPdpteNum withPml4).2
  (storePdes pdeStart pde bootPdeNum withPdpt).2

/-! ## The loops as tables of words -/

theorem add_step (start step : PTE) (count : Nat) :
    start + .ofNat count * step + step =
      start + .ofNat (count + 1) * step := by
  rw [UInt64.ofNat_add, UInt64.add_mul, UInt64.add_assoc,
    show UInt64.ofNat 1 = 1 from rfl, UInt64.one_mul]

theorem storePdptes_eq
    (pdpteStart : Nat) (pdpte : PTE) (count : Nat)
    (memory : Memory UInt8) :
    storePdptes pdpteStart pdpte count memory =
      (pdpte + .ofNat count * pageSize4kb.toUInt64,
        storeTable pdpteStart 8
          (fun index =>
            (pdpte + .ofNat (index + 1) * pageSize4kb.toUInt64).toNat)
          count memory) := by
  induction count with
  | zero => simp [storePdptes, storeTable]
  | succ count induction =>
      rw [storePdptes] at induction ⊢
      rw [List.range_succ, List.foldl_append, induction]
      simp only [List.foldl_cons, List.foldl_nil, add_step,
        storeTable_succ, storePte]

theorem storePdes_eq
    (pdeStart : Nat) (pde : PTE) (count : Nat)
    (memory : Memory UInt8) :
    storePdes pdeStart pde count memory =
      (pde + .ofNat count * pageSize2mb.toUInt64,
        storeTable pdeStart 8
          (fun index =>
            (pde + .ofNat index * pageSize2mb.toUInt64).toNat)
          count memory) := by
  induction count with
  | zero => simp [storePdes, storeTable]
  | succ count induction =>
      rw [storePdes] at induction ⊢
      rw [List.range_succ, List.foldl_append, induction]
      simp only [List.foldl_cons, List.foldl_nil, add_step,
        storeTable_succ, storePte]

/-! ## The entries of the tables -/

/-- The entry of the PML4 at its first index. -/
def pml4Entry (base : UInt64) : PTE :=
  0x13 + (base + 0x1000)

/-- The entry of the page-directory-pointer table at an index. -/
def pdptEntry (base : UInt64) (index : Nat) : PTE :=
  0x13 + (base + 0x1000) + .ofNat (index + 1) * 0x1000

/-- The entry at an index of the four page directories. -/
def pdEntry (index : Nat) : PTE :=
  0x183 + .ofNat index * 0x200000

/-- The memory which holds the tables, as three layers over cleared pages. -/
theorem createPageTable_eq (base : UInt64) (memory : Memory UInt8) :
    createPageTable base memory =
      storeTable (base.toNat + 0x2000) 8
        (fun index => (pdEntry index).toNat) 2048
        (storeTable (base.toNat + 0x1000) 8
          (fun index => (pdptEntry base index).toNat) 4
          (storeWord
            (store memory ⟨base.toNat, List.replicate 0x6000 0⟩)
            base.toNat 8 (pml4Entry base).toNat)) := by
  simp only [createPageTable, storePdptes_eq, storePdes_eq]
  rfl

section Entries

variable {base : UInt64} (memory : Memory UInt8)

theorem pml4Entry_toNat
    (aligned : base.toNat % 0x1000 = 0)
    (fits : base.toNat + 0x6000 ≤ 2 ^ 52) :
    (pml4Entry base).toNat =
      2 ^ 12 * (base.toNat / 2 ^ 12 + 1) + 0x13 := by
  simp only [pml4Entry, UInt64.toNat_add, UInt64.reduceToNat]
  omega

theorem pdptEntry_toNat
    (aligned : base.toNat % 0x1000 = 0)
    (fits : base.toNat + 0x6000 ≤ 2 ^ 52)
    {index : Nat} (bound : index < 4) :
    (pdptEntry base index).toNat =
      2 ^ 12 * (base.toNat / 2 ^ 12 + 2 + index) + 0x13 := by
  simp only [pdptEntry, UInt64.toNat_add, UInt64.toNat_mul,
    UInt64.toNat_ofNat', UInt64.reduceToNat]
  omega

theorem entry_mod (entry : PTE) : entry.toNat % 256 ^ 8 = entry.toNat :=
  Nat.mod_eq_of_lt entry.toNat_lt

theorem pdEntry_toNat {index : Nat} (bound : index < 2048) :
    (pdEntry index).toNat = 2 ^ 21 * index + 0x183 := by
  simp only [pdEntry, UInt64.toNat_add, UInt64.toNat_mul,
    UInt64.toNat_ofNat', UInt64.reduceToNat]
  omega

/-! ## The entries in memory -/

/-- Everything outside the six pages keeps its contents. -/
theorem createPageTable_outside
    (address : Nat)
    (outside :
      address < base.toNat ∨ base.toNat + 0x6000 ≤ address) :
    createPageTable base memory address = memory address := by
  rw [createPageTable_eq, storeTable_outside _ _ _ _ _ _ (by omega),
    storeTable_outside _ _ _ _ _ _ (by omega),
    storeWord_outside _ _ _ _ _ (by omega)]
  apply store_outside
  rw [List.length_replicate]
  exact outside

/-- A word of the six pages which no store of an entry reaches is zero. -/
theorem entry_of_cleared
    {address : Nat}
    (above : base.toNat ≤ address) (below : address + 8 ≤ base.toNat + 0x6000)
    (afterPml4 : base.toNat + 8 ≤ address)
    (outsidePdpt :
      address + 8 ≤ base.toNat + 0x1000 ∨
        base.toNat + 0x1000 + 8 * 4 ≤ address)
    (beforePd : address + 8 ≤ base.toNat + 0x2000) :
    loadWord (createPageTable base memory) address 8 = 0 := by
  apply loadWord_of_zeros
  intro offset offsetBound
  rw [createPageTable_eq, storeTable_outside _ _ _ _ _ _ (by omega),
    storeTable_outside _ _ _ _ _ _ (by omega),
    storeWord_outside _ _ _ _ _ (by omega)]
  exact store_replicate _ _ _ _ (by omega) (by omega)

theorem entryAt_pml4_zero :
    entryAt (createPageTable base memory) base.toNat 0 =
      (pml4Entry base).toNat := by
  have stored :=
    loadWord_storeWord
      (store memory ⟨base.toNat, List.replicate 0x6000 0⟩)
      base.toNat 8 (pml4Entry base).toNat
  rw [entry_mod] at stored
  rw [← stored, entryAt, Nat.mul_zero, Nat.add_zero]
  apply loadWord_congr
  intro offset offsetBound
  rw [createPageTable_eq, storeTable_outside _ _ _ _ _ _ (by omega),
    storeTable_outside _ _ _ _ _ _ (by omega)]

theorem entryAt_pml4_of_pos
    {index : Nat} (positive : 0 < index) (bound : index < 512) :
    entryAt (createPageTable base memory) base.toNat index = 0 :=
  entry_of_cleared memory (by omega) (by omega) (by omega) (by omega)
    (by omega)

theorem entryAt_pdpt_of_lt
    {index : Nat} (bound : index < 4) :
    entryAt (createPageTable base memory) (base.toNat + 0x1000) index =
      (pdptEntry base index).toNat := by
  have stored :=
    loadWord_storeTable (base.toNat + 0x1000) 8
      (fun index => (pdptEntry base index).toNat) 4
      (storeWord
        (store memory ⟨base.toNat, List.replicate 0x6000 0⟩)
        base.toNat 8 (pml4Entry base).toNat)
      bound
  rw [entry_mod] at stored
  rw [← stored, entryAt]
  apply loadWord_congr
  intro offset offsetBound
  rw [createPageTable_eq, storeTable_outside _ _ _ _ _ _ (by omega)]

theorem entryAt_pdpt_of_ge
    {index : Nat} (above : 4 ≤ index) (bound : index < 512) :
    entryAt (createPageTable base memory) (base.toNat + 0x1000) index = 0 :=
  entry_of_cleared memory (by omega) (by omega) (by omega) (by omega)
    (by omega)

/-- The four directories lie one after another. -/
theorem entryAt_pd
    {directory index : Nat} (directoryBound : directory < 4)
    (bound : index < 512) :
    entryAt (createPageTable base memory)
        (base.toNat + 0x2000 + 0x1000 * directory) index =
      (pdEntry (512 * directory + index)).toNat := by
  have position :
      base.toNat + 0x2000 + 0x1000 * directory + 8 * index =
        base.toNat + 0x2000 + 8 * (512 * directory + index) := by
    omega
  rw [entryAt, position, createPageTable_eq,
    loadWord_storeTable _ _ _ _ _ (by omega),
    entry_mod]

/-! ## The walk -/

section Walk

variable {physicalBits : Nat}

/-- The first entry of the PML4 leads to the page-directory-pointer table. -/
theorem walk_pml4
    (aligned : base.toNat % 0x1000 = 0)
    (widthBound : physicalBits ≤ 52)
    (fits : base.toNat + 0x6000 ≤ 2 ^ physicalBits)
    {linear : Nat} (index : tableIndex 3 linear = 0) :
    translate (createPageTable base memory) physicalBits base.toNat linear =
      walk (createPageTable base memory) physicalBits linear 2
        (base.toNat + 0x1000) true := by
  have wide : 2 ^ physicalBits ≤ 2 ^ 52 :=
    Nat.pow_le_pow_right (by decide) widthBound
  have value := pml4Entry_toNat aligned (by omega)
  have table : 2 ^ 12 * (base.toNat / 2 ^ 12 + 1) = base.toNat + 0x1000 := by
    omega
  rw [Lvmm.Library.X86Paging.translate,
    walk_of_pointer (by rw [index]; exact entryAt_pml4_zero memory) value
      (by decide) (by omega) widthBound (by decide) (by decide),
    table]
  rfl

/-- An entry of the page-directory-pointer table leads to its directory. -/
theorem walk_pdpt
    (aligned : base.toNat % 0x1000 = 0)
    (widthBound : physicalBits ≤ 52)
    (fits : base.toNat + 0x6000 ≤ 2 ^ physicalBits)
    {linear : Nat} (index : tableIndex 2 linear < 4) :
    walk (createPageTable base memory) physicalBits linear 2
        (base.toNat + 0x1000) true =
      walk (createPageTable base memory) physicalBits linear 1
        (base.toNat + 0x2000 + 0x1000 * tableIndex 2 linear) true := by
  have wide : 2 ^ physicalBits ≤ 2 ^ 52 :=
    Nat.pow_le_pow_right (by decide) widthBound
  have value := pdptEntry_toNat aligned (by omega) index
  have table :
      2 ^ 12 * (base.toNat / 2 ^ 12 + 2 + tableIndex 2 linear) =
        base.toNat + 0x2000 + 0x1000 * tableIndex 2 linear := by
    omega
  have small :
      (pdptEntry base (tableIndex 2 linear)).toNat < 2 ^ physicalBits := by
    omega
  rw [walk_of_pointer (entryAt_pdpt_of_lt memory index) value
      (by decide) small widthBound (by decide) (by decide),
    table]
  rfl

/-- An entry of a directory maps the linear addresses onto themselves. -/
theorem walk_pd
    (widthBound : physicalBits ≤ 52) (wide : 32 ≤ physicalBits)
    {linear : Nat} (below : linear < 2 ^ 32) :
    walk (createPageTable base memory) physicalBits linear 1
        (base.toNat + 0x2000 + 0x1000 * tableIndex 2 linear) true =
      .mapped linear true := by
  have directory : tableIndex 2 linear < 4 := by
    simp only [tableIndex, levelShift]
    omega
  have page :
      512 * tableIndex 2 linear + tableIndex 1 linear = linear / 2 ^ 21 := by
    simp only [tableIndex, levelShift]
    omega
  have value :=
    pdEntry_toNat (show linear / 2 ^ 21 < 2048 by omega)
  have entry :
      entryAt (createPageTable base memory)
          (base.toNat + 0x2000 + 0x1000 * tableIndex 2 linear)
          (tableIndex 1 linear) =
        (pdEntry (linear / 2 ^ 21)).toNat := by
    rw [entryAt_pd memory directory (tableIndex_lt 1 linear), page]
  have small : (pdEntry (linear / 2 ^ 21)).toNat < 2 ^ physicalBits := by
    have narrow : 2 ^ 32 ≤ 2 ^ physicalBits :=
      Nat.pow_le_pow_right (by decide) wide
    omega
  have whole : 2 ^ 21 * (linear / 2 ^ 21) + linear % 2 ^ 21 = linear := by
    omega
  rw [walk_of_page2mb entry value (by decide) small widthBound
      (by decide) (by decide),
    whole]
  rfl

end Walk

end Entries

/--
The tables map the low 4 GiB onto themselves by writable pages and no other
linear address, and `createPageTable` writes nothing but the tables.  This holds
for every width of physical addresses from 32 to 52 bits which covers the
tables.
-/
theorem createPageTable_identity
    (memory : Memory UInt8) (base : UInt64) (physicalBits : Nat)
    (aligned : base.toNat % 0x1000 = 0)
    (narrow : 32 ≤ physicalBits) (widthBound : physicalBits ≤ 52)
    (fits : base.toNat + 0x6000 ≤ 2 ^ physicalBits) :
    (∀ linear, linear < 2 ^ 32 →
      translate (createPageTable base memory) physicalBits
        base.toNat linear = .mapped linear true) ∧
    (∀ linear, 2 ^ 32 ≤ linear → linear < 2 ^ 48 →
      translate (createPageTable base memory) physicalBits
        base.toNat linear = .notPresent) ∧
    ∀ address,
      address < base.toNat ∨ base.toNat + 0x6000 ≤ address →
        createPageTable base memory address = memory address := by
  refine ⟨?_, ?_, ?_⟩
  · intro linear below
    have pml4Index : tableIndex 3 linear = 0 := by
      simp only [tableIndex, levelShift]
      omega
    have pdptIndex : tableIndex 2 linear < 4 := by
      simp only [tableIndex, levelShift]
      omega
    rw [walk_pml4 memory aligned widthBound fits pml4Index,
      walk_pdpt memory aligned widthBound fits pdptIndex,
      walk_pd memory widthBound narrow below]
  · intro linear above below
    by_cases pml4Index : tableIndex 3 linear = 0
    · have pdptIndex : 4 ≤ tableIndex 2 linear := by
        simp only [tableIndex, levelShift] at pml4Index ⊢
        omega
      rw [walk_pml4 memory aligned widthBound fits pml4Index]
      exact walk_of_zero
        (entryAt_pdpt_of_ge memory pdptIndex (tableIndex_lt 2 linear))
    · exact walk_of_zero
        (entryAt_pml4_of_pos memory (Nat.pos_of_ne_zero pml4Index)
          (tableIndex_lt 3 linear))
  · intro address outside
    exact createPageTable_outside memory address outside

/-- The tables at the base which the boot code uses, over zeroed memory. -/
theorem createPageTable_identity_boot :
    (∀ linear, linear < 2 ^ 32 →
      translate (createPageTable 0x30000 fun _ => 0) 52
        (0x30000 : UInt64).toNat linear = .mapped linear true) ∧
    (∀ linear, 2 ^ 32 ≤ linear → linear < 2 ^ 48 →
      translate (createPageTable 0x30000 fun _ => 0) 52
        (0x30000 : UInt64).toNat linear = .notPresent) ∧
    ∀ address,
      address < (0x30000 : UInt64).toNat ∨
          (0x30000 : UInt64).toNat + 0x6000 ≤ address →
        createPageTable 0x30000 (fun _ => 0) address = 0 :=
  createPageTable_identity (fun _ => 0) 0x30000 52
    (by decide) (by decide) (by decide) (by decide)

end Lvmm.Vm.PageTable
