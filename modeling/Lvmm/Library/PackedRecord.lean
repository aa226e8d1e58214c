import Lvmm.Library.LittleEndian

/-!
# Packed records

A packed record lays its fields out one after another without gaps, in the order
of their declaration.  Its bytes are the only data: reading a field decodes the
bytes in the field's range, assigning a field encodes into them, and raw bytes
from elsewhere may be laid over any part of the record.
-/

namespace Lvmm.Library.PackedRecord

open Lvmm.Library.CellMemory
open Lvmm.Library.LittleEndian

universe u

variable {Field : Type u}

/-- The declared fields with their widths in bytes, in order. -/
abbrev Layout (Field : Type u) := List (Field × Nat)

namespace Layout

/-- The number of bytes of a record. -/
def size : Layout Field → Nat
  | [] => 0
  | (_, width) :: rest => width + size rest

variable [DecidableEq Field]

/-- The number of bytes declared before a field. -/
def offset (layout : Layout Field) (field : Field) : Nat :=
  match layout with
  | [] => 0
  | (head, width) :: rest =>
      if head = field then 0 else width + offset rest field

/-- The width of a field; a field which is not declared has none. -/
def width (layout : Layout Field) (field : Field) : Nat :=
  match layout with
  | [] => 0
  | (head, width) :: rest =>
      if head = field then width else Layout.width rest field

/-- Every field lies inside the record. -/
theorem offset_add_width_le (layout : Layout Field) (field : Field) :
    layout.offset field + layout.width field ≤ layout.size := by
  induction layout with
  | nil => simp [offset, width, size]
  | cons entry rest induction =>
      rw [offset, width, size]
      split_ifs with same
      · omega
      · omega

/-- Different fields share no byte. -/
theorem disjoint
    (layout : Layout Field) {first second : Field}
    (different : first ≠ second) :
    layout.offset first + layout.width first ≤ layout.offset second ∨
      layout.offset second + layout.width second ≤
        layout.offset first := by
  induction layout with
  | nil => simp [offset, width]
  | cons entry rest induction =>
      rw [offset, offset, width, width]
      split_ifs with isFirst isSecond isSecond
      · exact absurd (isFirst.symm.trans isSecond) different
      · left
        omega
      · right
        omega
      · omega

end Layout

/-- The bytes of a record with a layout. -/
structure Record (layout : Layout Field) where
  bytes : Vector UInt8 layout.size
deriving DecidableEq

namespace Record

variable {layout : Layout Field}

/-- A record of zero bytes. -/
def zero (layout : Layout Field) : Record layout :=
  ⟨.replicate layout.size 0⟩

/-- The bytes of the record, as a memory which is zero beyond its end. -/
def byteAt (record : Record layout) : Memory UInt8 :=
  fun index => record.bytes[index]?.getD 0

/-- Lay bytes over the record; what reaches beyond its end is dropped. -/
def overlay (record : Record layout) (copy : Copy UInt8) :
    Record layout :=
  ⟨.ofFn fun index => store record.byteAt copy index⟩

theorem byteAt_overlay
    (record : Record layout) (copy : Copy UInt8) {index : Nat}
    (inside : index < layout.size) :
    (record.overlay copy).byteAt index =
      store record.byteAt copy index := by
  simp [byteAt, overlay, inside]

variable [DecidableEq Field]

/-- The value of a field. -/
def get (record : Record layout) (field : Field) : Nat :=
  loadWord record.byteAt (layout.offset field) (layout.width field)

/-- Assign a field, which truncates the value to the field's width. -/
def set (record : Record layout) (field : Field) (value : Nat) :
    Record layout :=
  record.overlay
    ⟨layout.offset field, bytesOfNat (layout.width field) value⟩

/-- Reading a field looks only at the bytes of the record. -/
theorem get_congr
    {left right : Record layout} {field : Field}
    (agree : ∀ index, index < layout.width field →
      left.byteAt (layout.offset field + index) =
        right.byteAt (layout.offset field + index)) :
    left.get field = right.get field :=
  loadWord_congr agree

/-- An assigned field reads back, truncated to its width. -/
theorem get_set_same
    (record : Record layout) (field : Field) (value : Nat) :
    (record.set field value).get field =
      value % 256 ^ layout.width field := by
  rw [← loadWord_storeWord record.byteAt (layout.offset field)
    (layout.width field) value]
  apply loadWord_congr
  intro index bound
  have within := layout.offset_add_width_le field
  exact byteAt_overlay record _ (by omega)

/-- Bytes outside an assigned field are left alone. -/
theorem byteAt_set_outside
    (record : Record layout) (field : Field) (value : Nat) {index : Nat}
    (outside :
      index < layout.offset field ∨
        layout.offset field + layout.width field ≤ index) :
    (record.set field value).byteAt index = record.byteAt index := by
  by_cases inside : index < layout.size
  · rw [set, byteAt_overlay record _ inside]
    apply store_outside
    simpa using outside
  · simp [byteAt, inside]

/-- Assigning one field leaves the others alone. -/
theorem get_set_other
    (record : Record layout) {field other : Field} (value : Nat)
    (different : other ≠ field) :
    (record.set field value).get other = record.get other := by
  apply get_congr
  intro index bound
  apply byteAt_set_outside
  have apart := layout.disjoint different
  omega

end Record

end Lvmm.Library.PackedRecord
