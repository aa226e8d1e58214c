import Lvmm.Boot.MpTables

/-!
# The checksums of the MP structures

Any 16 bytes are an `mpfps` and any 684 bytes an `mpctable`.  Over all of these
contents, a generated checksum is accepted exactly when the checksum field was
zero, and a structure which is accepted no longer is when one byte changes.
-/

namespace Lvmm.Boot.MpChecksum

open Lvmm.Library.AdditiveChecksum
open Lvmm.Library.LittleEndian
open Lvmm.Library.MpConfigTable
open Lvmm.Boot.MpTables

/-! ## Structures over arbitrary bytes -/

/-- The bytes from an offset on. -/
def slice (bytes : List UInt8) (offset width : Nat) : List UInt8 :=
  (bytes.drop offset).take width

/-- The `mpfps` which a pointer to 16 bytes points to. -/
def mpfpsOf (bytes : List UInt8) : Mpfps where
  signature := .ofNat (numberAt bytes 0 4)
  physAddrPtr := .ofNat (numberAt bytes 4 4)
  length := .ofNat (numberAt bytes 8 1)
  specRev := .ofNat (numberAt bytes 9 1)
  checksum := .ofNat (numberAt bytes 10 1)
  featInfoByte1 := .ofNat (numberAt bytes 11 1)
  featInfoByte2 := .ofNat (numberAt bytes 12 1)
  featInfoByte3 := .ofNat (numberAt bytes 13 1)
  featInfoByte4 := .ofNat (numberAt bytes 14 1)
  featInfoByte5 := .ofNat (numberAt bytes 15 1)

/-- The processor entry of 20 bytes. -/
def processorEntryOf (bytes : List UInt8) : MpctableProcessorEntry where
  entryType := .ofNat (numberAt bytes 0 1)
  localApicId := .ofNat (numberAt bytes 1 1)
  localApicVer := .ofNat (numberAt bytes 2 1)
  cpuFlags := .ofNat (numberAt bytes 3 1)
  cpuSig := .ofNat (numberAt bytes 4 4)
  featFlags := .ofNat (numberAt bytes 8 4)
  reserved := .ofNat (numberAt bytes 12 8)

/-- The `mpctable` which a pointer to its bytes points to. -/
def mpctableOf (bytes : List UInt8) : Mpctable where
  signature := .ofNat (numberAt bytes 0 4)
  length := .ofNat (numberAt bytes 4 2)
  specRev := .ofNat (numberAt bytes 6 1)
  checksum := .ofNat (numberAt bytes 7 1)
  oemId := .ofNat (numberAt bytes 8 8)
  prodId := .ofFn fun index => .ofNat (numberAt bytes (16 + index) 1)
  oemTablePtr := .ofNat (numberAt bytes 28 4)
  oemTableSize := .ofNat (numberAt bytes 32 2)
  entryCount := .ofNat (numberAt bytes 34 2)
  addrLocalApic := .ofNat (numberAt bytes 36 4)
  extdTableLength := .ofNat (numberAt bytes 40 2)
  extdTableChecksum := .ofNat (numberAt bytes 42 1)
  reserved := .ofNat (numberAt bytes 43 1)
  processorEntry index :=
    processorEntryOf (slice bytes (44 + 20 * index) 20)

theorem slice_length
    {bytes : List UInt8} {offset width : Nat}
    (inside : offset + width ≤ bytes.length) :
    (slice bytes offset width).length = width := by
  rw [slice, List.length_take, List.length_drop]
  omega

theorem numberAt_lt
    {bytes : List UInt8} {offset width : Nat}
    (inside : offset + width ≤ bytes.length) :
    numberAt bytes offset width < 256 ^ width := by
  have bound := natOfBytes_lt (slice bytes offset width)
  rw [slice_length inside] at bound
  exact bound

/-- Adjacent slices join. -/
theorem slice_append
    (bytes : List UInt8) (offset width : Nat) {next more : Nat}
    (adjacent : offset + width = next) :
    slice bytes offset width ++ slice bytes next more =
      slice bytes offset (width + more) := by
  rw [slice, slice, slice, List.take_add, List.drop_drop, adjacent]

theorem bytesOfNat_numberAt
    {bytes : List UInt8} {offset width : Nat}
    (inside : offset + width ≤ bytes.length) :
    bytesOfNat width (numberAt bytes offset width) =
      slice bytes offset width := by
  have laid := bytesOfNat_natOfBytes (slice bytes offset width)
  rw [slice_length inside] at laid
  exact laid

theorem cons_numberAt
    {bytes rest : List UInt8} {offset : Nat}
    (inside : offset + 1 ≤ bytes.length) :
    UInt8.ofNat (numberAt bytes offset 1) :: rest =
      slice bytes offset 1 ++ rest := by
  rw [← bytesOfNat_numberAt inside]
  rfl

theorem slice_whole
    {bytes : List UInt8} {width : Nat} (length : bytes.length = width) :
    slice bytes 0 width = bytes := by
  rw [slice, List.drop_zero, ← length, List.take_length]

theorem toNat_word
    {bytes : List UInt8} {offset : Nat}
    (inside : offset + 4 ≤ bytes.length) :
    (UInt32.ofNat (numberAt bytes offset 4)).toNat =
      numberAt bytes offset 4 :=
  UInt32.toNat_ofNat_of_lt' (numberAt_lt inside)

theorem toNat_short
    {bytes : List UInt8} {offset : Nat}
    (inside : offset + 2 ≤ bytes.length) :
    (UInt16.ofNat (numberAt bytes offset 2)).toNat =
      numberAt bytes offset 2 :=
  UInt16.toNat_ofNat_of_lt' (numberAt_lt inside)

theorem toNat_long
    {bytes : List UInt8} {offset : Nat}
    (inside : offset + 8 ≤ bytes.length) :
    (UInt64.ofNat (numberAt bytes offset 8)).toNat =
      numberAt bytes offset 8 :=
  UInt64.toNat_ofNat_of_lt' (numberAt_lt inside)

theorem bytes_mpfpsOf
    {bytes : List UInt8} (length : bytes.length = 16) :
    (mpfpsOf bytes).bytes = bytes := by
  simp (disch := omega) only [Mpfps.bytes, mpfpsOf, toNat_word,
    bytesOfNat_numberAt, cons_numberAt, slice_append,
    List.append_nil]
  exact slice_whole length

theorem bytes_processorEntryOf
    {bytes : List UInt8} (length : bytes.length = 20) :
    (processorEntryOf bytes).bytes = bytes := by
  simp (disch := omega) only [MpctableProcessorEntry.bytes,
    processorEntryOf, toNat_word, toNat_long, bytesOfNat_numberAt,
    cons_numberAt, slice_append, List.append_nil]
  exact slice_whole length

/-- The entries of an array, one after another, are the array's bytes. -/
theorem flatten_slices
    (bytes : List UInt8) (offset width count : Nat) :
    (List.ofFn fun index : Fin count =>
        slice bytes (offset + width * index) width).flatten =
      slice bytes offset (width * count) := by
  induction count with
  | zero => simp [slice]
  | succ count induction =>
      rw [List.ofFn_succ_last, List.flatten_append]
      simp only [Fin.val_castSucc, induction, Fin.val_last,
        List.flatten_cons, List.flatten_nil, List.append_nil]
      rw [slice_append bytes offset (width * count) rfl, Nat.mul_succ]

theorem entriesBytes_mpctableOf
    {bytes : List UInt8} (length : bytes.length = mpctableSize) :
    (entriesBytes (mpctableOf bytes).processorEntry).flatten =
      slice bytes 44 (20 * mpMaxVcpuNum) := by
  rw [← flatten_slices, entriesBytes]
  congr 2
  funext index
  apply bytes_processorEntryOf
  apply slice_length
  have bound : index.val < 32 := index.isLt
  have size : bytes.length = 684 := length
  omega

theorem prodId_mpctableOf
    {bytes : List UInt8} (length : bytes.length = mpctableSize) :
    (mpctableOf bytes).prodId.toList = slice bytes 16 12 := by
  have size : bytes.length = 684 := length
  have single : ∀ index : Fin 12,
      [UInt8.ofNat (numberAt bytes (16 + index) 1)] =
        slice bytes (16 + 1 * index) 1 := by
    intro index
    rw [cons_numberAt (by omega), List.append_nil, Nat.one_mul]
  have pieces := flatten_slices bytes 16 1 12
  simp only [← single] at pieces
  rw [← pieces, mpctableOf, Vector.toList_ofFn]
  rfl

theorem bytes_mpctableOf
    {bytes : List UInt8} (length : bytes.length = mpctableSize) :
    (mpctableOf bytes).bytes = bytes := by
  have size : bytes.length = 684 := length
  simp (disch := omega) only [Mpctable.bytes,
    Mpctable.bytesBeforeChecksum, Mpctable.bytesAfterChecksum,
    prodId_mpctableOf length, entriesBytes_mpctableOf length]
  simp (disch := omega) only [mpctableOf, toNat_word, toNat_short,
    toNat_long, bytesOfNat_numberAt, cons_numberAt, slice_append,
    List.append_nil]
  exact slice_whole length

/-! ## Generation and test -/

section Guards

variable {Record : Type} (layout : ChecksummedLayout Record)
variable (mpCalcChecksum : Record → UInt8) (ofBytes : List UInt8 → Record)

/--
A generated checksum is accepted exactly when it was generated over a zero, and a
structure which is accepted is no longer when any one byte changes.
-/
structure ChecksumGuards : Prop where
  generated : ∀ record,
    isMpChecksumValid
        (mpCalcChecksum
          (layout.store record (mpGenChecksum (mpCalcChecksum record)))) =
          true ↔
      layout.checksum record = 0
  detected : ∀ record bytes,
    isMpChecksumValid (mpCalcChecksum record) = true →
      DifferInOneByte (layout.bytes record) bytes →
        layout.bytes (ofBytes bytes) = bytes ∧
          isMpChecksumValid (mpCalcChecksum (ofBytes bytes)) = false

variable {layout mpCalcChecksum ofBytes}

/-- The sum over a layout that realises all bytes of its size guards it. -/
theorem checksumGuards_of_byteSum
    {size : Nat}
    (sum : ∀ record, mpCalcChecksum record = byteSum (layout.bytes record))
    (length : ∀ record, (layout.bytes record).length = size)
    (realised : ∀ bytes, bytes.length = size →
      layout.bytes (ofBytes bytes) = bytes) :
    ChecksumGuards layout mpCalcChecksum ofBytes where
  generated record := by
    rw [sum, sum, mpGenChecksum_eq, isMpChecksumValid, beq_iff_eq]
    exact layout.byteSum_store_iff record
  detected record bytes accepted differ := by
    have same : layout.bytes (ofBytes bytes) = bytes :=
      realised bytes (differ.length_eq.symm.trans (length record))
    refine ⟨same, ?_⟩
    rw [isMpChecksumValid, sum, beq_iff_eq] at accepted
    rw [isMpChecksumValid, sum, same, beq_eq_false_iff_ne, ← accepted]
    exact (byteSum_ne_of_differInOneByte differ).symm

end Guards

/-- The checksums of both structures guard all of their bytes. -/
theorem mp_checksums_guard :
    ChecksumGuards mpfpsLayout Mpfps.mpCalcChecksum mpfpsOf ∧
      ChecksumGuards mpctableLayout Mpctable.mpCalcChecksum mpctableOf :=
  ⟨checksumGuards_of_byteSum Mpfps.mpCalcChecksum_eq Mpfps.bytes_length
      fun _ => bytes_mpfpsOf,
    checksumGuards_of_byteSum Mpctable.mpCalcChecksum_eq
      Mpctable.bytes_length fun _ => bytes_mpctableOf⟩

end Lvmm.Boot.MpChecksum
