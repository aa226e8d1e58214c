import Mathlib.Data.Nat.Bitwise
import Lvmm.Library.LittleEndian

/-!
# Four-level address translation

The page walk of the x86-64 architecture over a byte memory.  Level 3 is the
PML4, level 2 the page-directory-pointer table, level 1 the page directory and
level 0 the page table.  Entries of the levels 2 and 1 map a large page when
their PS bit is set.

Bit 63 counts as reserved, as it does while the execute-disable feature is off;
the other attribute bits do not take part in the translation.
-/

namespace Lvmm.Library.X86Paging

open Lvmm.Library.CellMemory
open Lvmm.Library.LittleEndian

/-- The lowest bit of a linear address which selects an entry of a level. -/
def levelShift (level : Nat) : Nat := 12 + 9 * level

/-- The entry of a table which a linear address selects. -/
def tableIndex (level linear : Nat) : Nat :=
  linear / 2 ^ levelShift level % 512

/-- The 64-bit entry with an index of the table at an address. -/
def entryAt (memory : Memory UInt8) (table index : Nat) : Nat :=
  loadWord memory (table + 8 * index) 8

/-- The number in bits `low` to `low + width - 1` of an entry. -/
def field (entry low width : Nat) : Nat :=
  entry / 2 ^ low % 2 ^ width

def isPresent (entry : Nat) : Bool := entry.testBit 0
def isWritable (entry : Nat) : Bool := entry.testBit 1
def hasPageSize (entry : Nat) : Bool := entry.testBit 7

/-- The entry maps a page rather than pointing to a table. -/
def isLeaf (level entry : Nat) : Bool :=
  level == 0 || (decide (level < 3) && hasPageSize entry)

/--
No reserved bit of the entry is set: none of the address bits above the width
of physical addresses, not bit 63, not the PS bit of a PML4 entry and none of
the bits between the attributes and the address of a large page.
-/
def reservedClear (physicalBits level entry : Nat) : Bool :=
  field entry physicalBits (52 - physicalBits) == 0 &&
    !entry.testBit 63 &&
    (decide (level < 3) || !hasPageSize entry) &&
    (!isLeaf level entry ||
      field entry 13 (levelShift level - 13) == 0)

/-- The table to which an entry points. -/
def nextTable (entry : Nat) : Nat :=
  2 ^ 12 * field entry 12 40

/-- The page which a leaf of a level maps. -/
def pageFrame (level entry : Nat) : Nat :=
  2 ^ levelShift level * field entry (levelShift level) (52 - levelShift level)

/-- The outcome of a walk. -/
inductive Translation where
  | mapped (physical : Nat) (writable : Bool)
  | notPresent
  | reservedBit
deriving DecidableEq, Repr

/-- An entry may fault before the walk goes on. -/
def visit
    (physicalBits level entry : Nat) (passed : Translation) :
    Translation :=
  if !isPresent entry then .notPresent
  else if !reservedClear physicalBits level entry then .reservedBit
  else passed

/-- The translation by a leaf, given whether all entries above it are writable. -/
def mapPage (level entry linear : Nat) (writable : Bool) : Translation :=
  .mapped (pageFrame level entry + linear % 2 ^ levelShift level)
    (writable && isWritable entry)

/-- The walk from the table of a level down. -/
def walk
    (memory : Memory UInt8) (physicalBits linear : Nat) :
    Nat → Nat → Bool → Translation
  | 0, table, writable =>
      let entry := entryAt memory table (tableIndex 0 linear)
      visit physicalBits 0 entry (mapPage 0 entry linear writable)
  | level + 1, table, writable =>
      let entry := entryAt memory table (tableIndex (level + 1) linear)
      visit physicalBits (level + 1) entry
        (if isLeaf (level + 1) entry then
          mapPage (level + 1) entry linear writable
        else
          walk memory physicalBits linear level (nextTable entry)
            (writable && isWritable entry))

/-- Translate a linear address with the PML4 at a root. -/
def translate
    (memory : Memory UInt8) (physicalBits root linear : Nat) :
    Translation :=
  walk memory physicalBits linear 3 root true

theorem tableIndex_lt (level linear : Nat) :
    tableIndex level linear < 512 :=
  Nat.mod_lt _ (by decide)

/-! ## Steps of a walk -/

section Steps

variable {memory : Memory UInt8} {physicalBits linear level table : Nat}
variable {writable : Bool}

/-- A walk ends at an entry of zero. -/
theorem walk_of_zero
    (entry : entryAt memory table (tableIndex level linear) = 0) :
    walk memory physicalBits linear level table writable =
      .notPresent := by
  cases level with
  | zero => simp [walk, visit, entry, isPresent]
  | succ level => simp [walk, visit, entry, isPresent]

/-- The address bits of an entry below the physical-address width are legal. -/
theorem field_above_width
    {entry : Nat} (small : entry < 2 ^ physicalBits) (width : Nat) :
    field entry physicalBits width = 0 := by
  rw [field, Nat.div_eq_of_lt small, Nat.zero_mod]

theorem testBit_63
    {entry : Nat} (small : entry < 2 ^ physicalBits)
    (widthBound : physicalBits ≤ 52) : entry.testBit 63 = false :=
  Nat.testBit_lt_two_pow
    (lt_of_lt_of_le small (Nat.pow_le_pow_right (by decide) (by omega)))

/-- A walk follows an entry which consists of a page number and plain flags. -/
theorem walk_of_pointer
    {value page flags : Nat}
    (entry :
      entryAt memory table (tableIndex (level + 1) linear) = value)
    (shape : value = 2 ^ 12 * page + flags)
    (flagsSmall : flags < 2 ^ 12)
    (valueSmall : value < 2 ^ physicalBits)
    (widthBound : physicalBits ≤ 52)
    (present : isPresent flags = true)
    (noPageSize : hasPageSize flags = false) :
    walk memory physicalBits linear (level + 1) table writable =
      walk memory physicalBits linear level (2 ^ 12 * page)
        (writable && isWritable flags) := by
  have low (position : Nat) (below : position < 12) :
      value.testBit position = flags.testBit position := by
    rw [shape, Nat.testBit_two_pow_mul_add page flagsSmall, if_pos below]
  have presentValue : isPresent value = true := by
    rw [isPresent, low 0 (by decide)]
    exact present
  have writableValue : isWritable value = isWritable flags :=
    low 1 (by decide)
  have pageSizeValue : hasPageSize value = false := by
    rw [hasPageSize, low 7 (by decide)]
    exact noPageSize
  have pointer : isLeaf (level + 1) value = false := by
    simp [isLeaf, pageSizeValue]
  have clear : reservedClear physicalBits (level + 1) value = true := by
    simp [reservedClear, field_above_width valueSmall,
      testBit_63 valueSmall widthBound, pageSizeValue, pointer]
  have target : nextTable value = 2 ^ 12 * page := by
    have bound : value < 2 ^ 52 :=
      lt_of_lt_of_le valueSmall
        (Nat.pow_le_pow_right (by decide) widthBound)
    simp only [nextTable, field]
    omega
  simp only [walk, visit, entry, presentValue, clear, pointer, target,
    writableValue, Bool.not_true, Bool.false_eq_true, if_false]

/-- A walk ends at an entry which maps a 2 MiB page. -/
theorem walk_of_page2mb
    {value page flags : Nat}
    (entry : entryAt memory table (tableIndex 1 linear) = value)
    (shape : value = 2 ^ 21 * page + flags)
    (flagsSmall : flags < 2 ^ 13)
    (valueSmall : value < 2 ^ physicalBits)
    (widthBound : physicalBits ≤ 52)
    (present : isPresent flags = true)
    (pageSize : hasPageSize flags = true) :
    walk memory physicalBits linear 1 table writable =
      .mapped (2 ^ 21 * page + linear % 2 ^ 21)
        (writable && isWritable flags) := by
  have flagsBelow : flags < 2 ^ 21 :=
    lt_of_lt_of_le flagsSmall (by decide)
  have low (position : Nat) (below : position < 21) :
      value.testBit position = flags.testBit position := by
    rw [shape, Nat.testBit_two_pow_mul_add page flagsBelow, if_pos below]
  have presentValue : isPresent value = true := by
    rw [isPresent, low 0 (by decide)]
    exact present
  have writableValue : isWritable value = isWritable flags :=
    low 1 (by decide)
  have pageSizeValue : hasPageSize value = true := by
    rw [hasPageSize, low 7 (by decide)]
    exact pageSize
  have leaf : isLeaf 1 value = true := by
    simp [isLeaf, pageSizeValue]
  have between : field value 13 8 = 0 := by
    simp only [field]
    omega
  have clear : reservedClear physicalBits 1 value = true := by
    simp [reservedClear, field_above_width valueSmall,
      testBit_63 valueSmall widthBound, levelShift, between]
  have frame : pageFrame 1 value = 2 ^ 21 * page := by
    have bound : value < 2 ^ 52 :=
      lt_of_lt_of_le valueSmall
        (Nat.pow_le_pow_right (by decide) widthBound)
    simp only [pageFrame, field, levelShift]
    omega
  simp only [walk, visit, entry, presentValue, clear, leaf, mapPage, frame,
    writableValue, Bool.not_true, Bool.false_eq_true, if_false, if_true,
    levelShift]

end Steps

end Lvmm.Library.X86Paging
