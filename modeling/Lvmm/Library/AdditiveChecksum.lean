import Mathlib.Data.List.Basic

/-!
# Additive byte checksums

A structure carries a byte which makes the sum of all its bytes zero modulo 256.
The complement of the sum, taken while the byte holds zero, is such a byte.
-/

namespace Lvmm.Library.AdditiveChecksum

/-- The sum of bytes modulo 256. -/
def byteSum (bytes : List UInt8) : UInt8 :=
  bytes.foldl (fun sum byte => sum + byte) 0

theorem foldl_add (bytes : List UInt8) (start : UInt8) :
    bytes.foldl (fun sum byte => sum + byte) start =
      start + byteSum bytes := by
  induction bytes generalizing start with
  | nil => simp [byteSum]
  | cons byte rest induction =>
      rw [byteSum, List.foldl_cons, List.foldl_cons, induction, induction]
      grind

theorem byteSum_cons (byte : UInt8) (rest : List UInt8) :
    byteSum (byte :: rest) = byte + byteSum rest := by
  rw [byteSum, List.foldl_cons, foldl_add, UInt8.zero_add]

theorem byteSum_append (front back : List UInt8) :
    byteSum (front ++ back) = byteSum front + byteSum back := by
  rw [byteSum, List.foldl_append, foldl_add]
  rfl

/-- The two's complement as it is usually written: inverted bits plus one. -/
theorem complement_eq_neg (sum : UInt8) : (sum ^^^ 0xFF) + 1 = -sum := by
  rw [show (0xFF : UInt8) = -1 from rfl, UInt8.xor_neg_one,
    UInt8.neg_eq_not_add]

/--
Storing the complement of the sum into one slot leaves the complement of what the
slot held as the new sum.
-/
theorem byteSum_complement_slot (front back : List UInt8) (held : UInt8) :
    byteSum (front ++ -byteSum (front ++ held :: back) :: back) = -held := by
  simp only [byteSum_append, byteSum_cons]
  grind

/-- Two byte strings are equal but for the value of one byte. -/
def DifferInOneByte (left right : List UInt8) : Prop :=
  ∃ front back leftByte rightByte,
    left = front ++ leftByte :: back ∧
      right = front ++ rightByte :: back ∧ leftByte ≠ rightByte

theorem DifferInOneByte.length_eq
    {left right : List UInt8} (differ : DifferInOneByte left right) :
    left.length = right.length := by
  rcases differ with ⟨front, back, leftByte, rightByte, rfl, rfl, -⟩
  simp

/-- A change of one byte changes the sum. -/
theorem byteSum_ne_of_differInOneByte
    {left right : List UInt8} (differ : DifferInOneByte left right) :
    byteSum left ≠ byteSum right := by
  rcases differ with
    ⟨front, back, leftByte, rightByte, rfl, rfl, different⟩
  intro sameSum
  simp only [byteSum_append, byteSum_cons] at sameSum
  apply different
  grind

/-! ## Records with a checksum -/

/-- A record type whose layout has one byte for the checksum. -/
structure ChecksummedLayout (Record : Type*) where
  bytes : Record → List UInt8
  checksum : Record → UInt8
  store : Record → UInt8 → Record
  slot : ∀ record, ∃ front back,
    bytes record = front ++ checksum record :: back ∧
      ∀ byte, bytes (store record byte) = front ++ byte :: back

/-- A stored complement is right exactly when it was taken over a zero. -/
theorem ChecksummedLayout.byteSum_store_iff
    {Record : Type*} (layout : ChecksummedLayout Record)
    (record : Record) :
    byteSum
        (layout.bytes
          (layout.store record (-byteSum (layout.bytes record)))) = 0 ↔
      layout.checksum record = 0 := by
  rcases layout.slot record with ⟨front, back, before, after⟩
  rw [after, before, byteSum_complement_slot]
  grind

end Lvmm.Library.AdditiveChecksum
