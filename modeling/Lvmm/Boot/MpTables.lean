import Mathlib.Logic.Function.Basic
import Lvmm.Library.AdditiveChecksum
import Lvmm.Library.LittleEndian
import Lvmm.Library.MpConfigTable
import Lvmm.Vm.CreateVm

/-!
# The MP tables

The structures `mpfps`, `mpctable` and `ebda` with their packed layout, their
checksums and `gen_ebda`.  The configuration table has a fixed array of processor
entries, and `processor_entry_init` fills one for every virtual CPU; an index
beyond the array is a write outside the structure, which the array ends.
-/

namespace Lvmm.Boot.MpTables

open Lvmm.Library.AdditiveChecksum
open Lvmm.Library.LittleEndian
open Lvmm.Library.MpConfigTable
open Lvmm.Vm.CreateVm
open Lvmm.Vm.SysCall

def paragraphSize : Nat := 16
def ebdaStart : UInt64 := 0x9fc00
def apicBase : UInt64 := 0xfee00000
def ebdaPaddingSize : Nat := 16 * 3

def mpMaxVcpuNum : Nat := 32
def mpSpecRev14 : UInt8 := 4
def mpfpsIntelSignature : UInt32 := 0x5f504d5f
def mpfpsLength : UInt8 := 1
def mpctableIntelSignature : UInt32 := 0x504d4350
def mpctableOemId : UInt64 := 0x5453455447494d4c
def mpcteEntryTypeProc : UInt8 := 0
def mpcteProcApicVer : UInt8 := 0x14
def mpcteProcCpuflagsEn : UInt8 := 0b00000001
def mpcteProcCpuflagsBp : UInt8 := 0b00000010
def mpcteProcFeatflagsFpu : UInt32 := 0x00000001
def mpcteProcFeatflagsApic : UInt32 := 0x00000200
def mpcteProcCpusignature : UInt32 := (0x0600 : UInt32) <<< 16

/-- `mpfps`, without the default of `phys_addr_ptr`, which has none. -/
structure Mpfps where
  signature : UInt32 := mpfpsIntelSignature
  physAddrPtr : UInt32
  length : UInt8 := mpfpsLength
  specRev : UInt8 := mpSpecRev14
  checksum : UInt8 := 0
  featInfoByte1 : UInt8 := 0
  featInfoByte2 : UInt8 := 0
  featInfoByte3 : UInt8 := 0
  featInfoByte4 : UInt8 := 0
  featInfoByte5 : UInt8 := 0
deriving DecidableEq

/-- `mpctable_processor_entry`. -/
structure MpctableProcessorEntry where
  entryType : UInt8 := 0
  localApicId : UInt8 := 0
  localApicVer : UInt8 := 0
  cpuFlags : UInt8 := 0
  cpuSig : UInt32 := 0
  featFlags : UInt32 := 0
  reserved : UInt64 := 0
deriving DecidableEq

/-- The bytes of a processor entry. -/
def MpctableProcessorEntry.bytes
    (entry : MpctableProcessorEntry) : List UInt8 :=
  [entry.entryType, entry.localApicId, entry.localApicVer,
    entry.cpuFlags] ++
    bytesOfNat 4 entry.cpuSig.toNat ++
    bytesOfNat 4 entry.featFlags.toNat ++
    bytesOfNat 8 entry.reserved.toNat

/-- `mpctable_processor_entry processor_entry[MP_MAX_VCPU_NUM]`. -/
abbrev ProcessorEntries := Fin mpMaxVcpuNum → MpctableProcessorEntry

/-- `sizeof(mpctable)`. -/
def mpctableSize : Nat := 44 + 20 * mpMaxVcpuNum

/-- `mpctable`. -/
structure Mpctable where
  signature : UInt32 := mpctableIntelSignature
  length : UInt16 := .ofNat mpctableSize
  specRev : UInt8 := mpSpecRev14
  checksum : UInt8 := 0
  oemId : UInt64 := mpctableOemId
  prodId : Vector UInt8 12 := .replicate 12 0
  oemTablePtr : UInt32 := 0
  oemTableSize : UInt16 := 0
  entryCount : UInt16 := .ofNat mpMaxVcpuNum
  addrLocalApic : UInt32 := apicBase.toUInt32
  extdTableLength : UInt16 := 0
  extdTableChecksum : UInt8 := 0
  reserved : UInt8 := 0
  processorEntry : ProcessorEntries := fun _ => {}

/-- The header up to the checksum. -/
def Mpctable.bytesBeforeChecksum (table : Mpctable) : List UInt8 :=
  bytesOfNat 4 table.signature.toNat ++
    bytesOfNat 2 table.length.toNat ++ [table.specRev]

/-- The header after the checksum. -/
def Mpctable.bytesAfterChecksum (table : Mpctable) : List UInt8 :=
  bytesOfNat 8 table.oemId.toNat ++ table.prodId.toList ++
    bytesOfNat 4 table.oemTablePtr.toNat ++
    bytesOfNat 2 table.oemTableSize.toNat ++
    bytesOfNat 2 table.entryCount.toNat ++
    bytesOfNat 4 table.addrLocalApic.toNat ++
    bytesOfNat 2 table.extdTableLength.toNat ++
    [table.extdTableChecksum, table.reserved]

/-- The bytes of the array. -/
def entriesBytes (entries : ProcessorEntries) : List (List UInt8) :=
  List.ofFn fun index => (entries index).bytes

/-- The bytes of a configuration table. -/
def Mpctable.bytes (table : Mpctable) : List UInt8 :=
  table.bytesBeforeChecksum ++
    table.checksum ::
      (table.bytesAfterChecksum ++
        (entriesBytes table.processorEntry).flatten)

/-- The bytes of a floating pointer structure, around its checksum. -/
def Mpfps.bytes (fps : Mpfps) : List UInt8 :=
  (bytesOfNat 4 fps.signature.toNat ++
    bytesOfNat 4 fps.physAddrPtr.toNat ++ [fps.length, fps.specRev]) ++
    fps.checksum ::
      [fps.featInfoByte1, fps.featInfoByte2, fps.featInfoByte3,
        fps.featInfoByte4, fps.featInfoByte5]

/-- `_mp_calc_checksum_inline`. -/
def mpCalcChecksumInline (bytes : List UInt8) (length : Nat) : UInt8 :=
  (bytes.take length).foldl (fun checksum byte => checksum + byte) 0

/-- `mp_calc_checksum<mpfps*>`. -/
def Mpfps.mpCalcChecksum (fps : Mpfps) : UInt8 :=
  mpCalcChecksumInline fps.bytes (mpfpsLength.toNat * paragraphSize)

/-- `mp_calc_checksum<mpctable*>`. -/
def Mpctable.mpCalcChecksum (table : Mpctable) : UInt8 :=
  mpCalcChecksumInline table.bytes mpctableSize

/-- `mp_gen_checksum`, from the sum. -/
def mpGenChecksum (checksum : UInt8) : UInt8 :=
  (checksum ^^^ 0xFF) + 0x1

/-- `is_mp_checksum_valid`, from the sum. -/
def isMpChecksumValid (checksum : UInt8) : Bool :=
  checksum == 0

/-- `ebda`. -/
structure Ebda where
  padding : Vector UInt8 ebdaPaddingSize := .replicate ebdaPaddingSize 0
  fps : Mpfps
  ctable : Mpctable := {}

/-- The bytes of the extended BIOS data area. -/
def Ebda.bytes (area : Ebda) : List UInt8 :=
  area.padding.toList ++ area.fps.bytes ++ area.ctable.bytes

/-- One iteration of the loop in `processor_entry_init`. -/
def processorEntryInitOne
    (index : Nat) (entry : MpctableProcessorEntry) :
    MpctableProcessorEntry :=
  { entry with
    entryType := mpcteEntryTypeProc
    localApicId := .ofNat index
    localApicVer := mpcteProcApicVer
    cpuFlags :=
      entry.cpuFlags ||| mpcteProcCpuflagsEn |||
        (if index = 0 then mpcteProcCpuflagsBp else 0)
    cpuSig := mpcteProcCpusignature
    featFlags := mpcteProcFeatflagsFpu ||| mpcteProcFeatflagsApic }

/--
`processor_entry_init`.  The outcome is `none` when an iteration writes beyond
the array.
-/
def processorEntryInit
    (entryArray : ProcessorEntries) (vcpuNum : Int) :
    Option ProcessorEntries :=
  (List.range vcpuNum.toNat).foldlM
    (fun current index =>
      if inside : index < mpMaxVcpuNum then
        some
          (Function.update current ⟨index, inside⟩
            (processorEntryInitOne index (current ⟨index, inside⟩)))
      else none)
    entryArray

/-- `gen_ebda`. -/
def genEbda (vcpuNum : Int) : Option Ebda :=
  let fps : Mpfps := { physAddrPtr := (ebdaStart + 0x40).toUInt32 }
  let fps := { fps with checksum := mpGenChecksum fps.mpCalcChecksum }
  match processorEntryInit (fun _ => {}) vcpuNum with
  | some entries =>
      let ctable : Mpctable := { processorEntry := entries }
      some
        { fps
          ctable :=
            { ctable with
              checksum := mpGenChecksum ctable.mpCalcChecksum } }
  | none => none

/-! ## Layout -/

@[simp]
theorem MpctableProcessorEntry.bytes_length
    (entry : MpctableProcessorEntry) : entry.bytes.length = 20 := by
  simp [MpctableProcessorEntry.bytes]

@[simp]
theorem Mpfps.bytes_length (fps : Mpfps) : fps.bytes.length = 16 := by
  simp [Mpfps.bytes]

theorem entriesBytes_length (entries : ProcessorEntries) :
    (entriesBytes entries).length = mpMaxVcpuNum := by
  simp [entriesBytes]

theorem entriesBytes_flatten_length (entries : ProcessorEntries) :
    (entriesBytes entries).flatten.length = 20 * mpMaxVcpuNum := by
  rw [List.length_flatten]
  have lengths :
      (entriesBytes entries).map List.length =
        List.replicate mpMaxVcpuNum 20 := by
    apply List.eq_replicate_iff.mpr
    simp [entriesBytes]
  rw [lengths]
  rfl

@[simp]
theorem Mpctable.bytes_length (table : Mpctable) :
    table.bytes.length = mpctableSize := by
  rw [Mpctable.bytes, List.length_append, List.length_cons,
    List.length_append, entriesBytes_flatten_length]
  simp [Mpctable.bytesBeforeChecksum, Mpctable.bytesAfterChecksum,
    mpctableSize]
  omega

/-- `sizeof(ebda)`. -/
@[simp]
theorem Ebda.bytes_length (area : Ebda) : area.bytes.length = 748 := by
  have padding : area.padding.toList.length = 48 :=
    Vector.length_toList
  simp [Ebda.bytes, padding, mpctableSize, mpMaxVcpuNum]

/-! ## Checksums -/

theorem mpCalcChecksumInline_eq
    {bytes : List UInt8} {length : Nat} (whole : bytes.length = length) :
    mpCalcChecksumInline bytes length = byteSum bytes := by
  rw [mpCalcChecksumInline, List.take_of_length_le (by omega)]
  rfl

theorem mpGenChecksum_eq (checksum : UInt8) :
    mpGenChecksum checksum = -checksum :=
  complement_eq_neg checksum

theorem Mpfps.mpCalcChecksum_eq (fps : Mpfps) :
    fps.mpCalcChecksum = byteSum fps.bytes :=
  mpCalcChecksumInline_eq fps.bytes_length

theorem Mpctable.mpCalcChecksum_eq (table : Mpctable) :
    table.mpCalcChecksum = byteSum table.bytes :=
  mpCalcChecksumInline_eq table.bytes_length

/-- `mpfps` with its checksum. -/
def mpfpsLayout : ChecksummedLayout Mpfps where
  bytes := Mpfps.bytes
  checksum := Mpfps.checksum
  store fps checksum := { fps with checksum }
  slot _ := ⟨_, _, rfl, fun _ => rfl⟩

/-- `mpctable` with its checksum. -/
def mpctableLayout : ChecksummedLayout Mpctable where
  bytes := Mpctable.bytes
  checksum := Mpctable.checksum
  store table checksum := { table with checksum }
  slot _ := ⟨_, _, rfl, fun _ => rfl⟩

/-- A generated checksum is valid exactly when it was generated over zero. -/
theorem Mpfps.isMpChecksumValid_gen (fps : Mpfps) :
    isMpChecksumValid
        ({ fps with
          checksum := mpGenChecksum fps.mpCalcChecksum } :
            Mpfps).mpCalcChecksum = true ↔
      fps.checksum = 0 := by
  rw [mpCalcChecksum_eq, mpCalcChecksum_eq, mpGenChecksum_eq,
    isMpChecksumValid, beq_iff_eq]
  exact mpfpsLayout.byteSum_store_iff fps

theorem Mpctable.isMpChecksumValid_gen (table : Mpctable) :
    isMpChecksumValid
        ({ table with
          checksum := mpGenChecksum table.mpCalcChecksum } :
            Mpctable).mpCalcChecksum = true ↔
      table.checksum = 0 := by
  rw [mpCalcChecksum_eq, mpCalcChecksum_eq, mpGenChecksum_eq,
    isMpChecksumValid, beq_iff_eq]
  exact mpctableLayout.byteSum_store_iff table

/-! ## The processor entries -/

/-- The array after the first iterations of `processor_entry_init`. -/
def initialised
    (entryArray : ProcessorEntries) (count : Nat) : ProcessorEntries :=
  fun index =>
    if index.val < count then
      processorEntryInitOne index (entryArray index)
    else entryArray index

theorem initialised_succ
    (entryArray : ProcessorEntries) {count : Nat}
    (inside : count < mpMaxVcpuNum) :
    Function.update (initialised entryArray count) ⟨count, inside⟩
        (processorEntryInitOne count
          (initialised entryArray count ⟨count, inside⟩)) =
      initialised entryArray (count + 1) := by
  funext index
  by_cases same : index = ⟨count, inside⟩
  · subst same
    simp [initialised]
  · have different : index.val ≠ count := fun equal => same (Fin.ext equal)
    rw [Function.update_of_ne same]
    have iff : index.val < count + 1 ↔ index.val < count := by omega
    simp only [initialised, iff]

theorem foldlM_processorEntryInit
    (entryArray : ProcessorEntries) {count : Nat}
    (within : count ≤ mpMaxVcpuNum) :
    processorEntryInit entryArray count =
      some (initialised entryArray count) := by
  induction count with
  | zero =>
      have untouched : initialised entryArray 0 = entryArray := by
        funext index
        simp [initialised]
      rw [untouched]
      rfl
  | succ count induction =>
      have earlier := induction (by omega)
      rw [processorEntryInit, Int.toNat_natCast] at earlier ⊢
      rw [List.range_succ, List.foldlM_append, earlier]
      simp only [Option.bind_eq_bind, Option.bind_some, List.foldlM_cons,
        List.foldlM_nil]
      rw [dif_pos (by omega), initialised_succ]
      rfl

/-- One virtual CPU too many is a write beyond the array. -/
theorem processorEntryInit_of_gt
    (entryArray : ProcessorEntries) {count : Nat}
    (beyond : mpMaxVcpuNum < count) :
    processorEntryInit entryArray count = none := by
  induction count with
  | zero => cases beyond
  | succ count induction =>
      by_cases atEnd : count = mpMaxVcpuNum
      · have earlier :=
          foldlM_processorEntryInit entryArray (le_of_eq atEnd)
        rw [processorEntryInit, Int.toNat_natCast] at earlier ⊢
        rw [List.range_succ, List.foldlM_append, earlier]
        simp [atEnd]
      · have earlier := induction (by omega)
        rw [processorEntryInit, Int.toNat_natCast] at earlier ⊢
        rw [List.range_succ, List.foldlM_append, earlier]
        rfl

/-! ## The table as the specification reads it -/

/-- The entries of a table for a number of virtual CPUs. -/
def processors (count : Nat) : ProcessorEntries :=
  initialised (fun _ => {}) count

/-- The configuration table of `gen_ebda`, but for its checksum. -/
def tableOf (count : Nat) (checksum : UInt8) : Mpctable :=
  { checksum, processorEntry := processors count }

theorem processors_wellFormed
    (count : Nat) {entry : List UInt8}
    (member : entry ∈ entriesBytes (processors count)) :
    WellFormed entry := by
  rcases List.mem_ofFn.mp member with ⟨index, rfl⟩
  refine ⟨0, ?_, ?_⟩
  · by_cases initial : index.val < count <;>
      simp [processors, initialised, initial, processorEntryInitOne,
        MpctableProcessorEntry.bytes, mpcteEntryTypeProc]
  · rw [MpctableProcessorEntry.bytes_length]
    rfl

/-- The specification finds all entries of the array in the table. -/
theorem parse_tableOf (count : Nat) (checksum : UInt8) :
    parse (tableOf count checksum).bytes =
      some (entriesBytes (processors count)) := by
  have split :
      (tableOf count checksum).bytes =
        ((tableOf count checksum).bytesBeforeChecksum ++
          checksum :: (tableOf count checksum).bytesAfterChecksum) ++
          (entriesBytes (processors count)).flatten := by
    simp [Mpctable.bytes, tableOf]
  rw [split]
  have length :
      numberAt
          ((tableOf count checksum).bytesBeforeChecksum ++
            checksum :: (tableOf count checksum).bytesAfterChecksum) 4 2 =
        mpctableSize :=
    numberAt_field (bytesOfNat 4 mpctableIntelSignature.toNat)
      (by
        rw [Mpctable.bytesBeforeChecksum]
        simp only [List.append_assoc]
        rfl)
      (bytesOfNat_length 4 _) (by decide)
  have entryCount :
      numberAt
          ((tableOf count checksum).bytesBeforeChecksum ++
            checksum :: (tableOf count checksum).bytesAfterChecksum) 34 2 =
        mpMaxVcpuNum :=
    numberAt_field
      ((tableOf count checksum).bytesBeforeChecksum ++
        checksum ::
          (bytesOfNat 8 mpctableOemId.toNat ++
            (Vector.replicate 12 (0 : UInt8)).toList ++
            bytesOfNat 4 0 ++ bytesOfNat 2 0))
      (by
        rw [Mpctable.bytesAfterChecksum]
        simp only [List.append_assoc, List.cons_append]
        rfl)
      (by simp [Mpctable.bytesBeforeChecksum]) (by decide)
  apply parse_of_header
  · rfl
  · intro entry member
    exact processors_wellFormed count member
  · rw [entriesBytes_flatten_length]
    exact length
  · rw [entriesBytes_length]
    exact entryCount

/-- The bytes of the entry with an index. -/
def entryBytes (count index : Nat) : List UInt8 :=
  (if index < count then processorEntryInitOne index {} else {}).bytes

theorem entriesBytes_eq_map (count : Nat) :
    entriesBytes (processors count) =
      (List.range mpMaxVcpuNum).map (entryBytes count) := by
  apply List.ext_getElem (by simp [entriesBytes])
  intro index leftBound rightBound
  simp [entriesBytes, processors, initialised, entryBytes]

theorem entryBytes_of_lt {count index : Nat} (initial : index < count) :
    entryBytes count index = (processorEntryInitOne index {}).bytes := by
  rw [entryBytes, if_pos initial]

theorem enabled_entryBytes (count index : Nat) :
    (isProcessor (entryBytes count index) &&
        isEnabled (entryBytes count index)) =
      decide (index < count) := by
  by_cases initial : index < count
  · rw [entryBytes_of_lt initial, decide_eq_true initial]
    by_cases boot : index = 0
    · subst boot
      rfl
    · simp [processorEntryInitOne, boot, MpctableProcessorEntry.bytes,
        isProcessor, isEnabled]
      decide
  · rw [entryBytes, if_neg initial, decide_eq_false initial]
    rfl

theorem isBootProcessor_entryBytes
    {count index : Nat} (initial : index < count) :
    isBootProcessor (entryBytes count index) = decide (index = 0) := by
  rw [entryBytes_of_lt initial]
  by_cases boot : index = 0
  · subst boot
    rfl
  · simp [processorEntryInitOne, boot, MpctableProcessorEntry.bytes,
      isBootProcessor]
    decide

theorem localApicId_entryBytes
    {count index : Nat} (initial : index < count)
    (within : count ≤ mpMaxVcpuNum) :
    localApicId (entryBytes count index) = index := by
  have small : index < 256 := by
    have bound : count ≤ 32 := within
    omega
  rw [entryBytes_of_lt initial]
  simp [processorEntryInitOne, MpctableProcessorEntry.bytes, localApicId]
  omega

/-- The enabled processors are the first entries of the array. -/
theorem enabledProcessors_entriesBytes
    {count : Nat} (within : count ≤ mpMaxVcpuNum) :
    enabledProcessors (entriesBytes (processors count)) =
      (List.range count).map (entryBytes count) := by
  have split :
      List.range mpMaxVcpuNum =
        List.range count ++
          (List.range (mpMaxVcpuNum - count)).map (count + ·) := by
    rw [← List.range_add]
    congr 1
    omega
  have first :
      (List.range count).filter (fun index => decide (index < count)) =
        List.range count :=
    List.filter_eq_self.mpr fun index member =>
      decide_eq_true (List.mem_range.mp member)
  have last :
      ((List.range (mpMaxVcpuNum - count)).map (count + ·)).filter
        (fun index => decide (index < count)) = [] := by
    apply List.filter_eq_nil_iff.mpr
    intro index member
    rcases List.mem_map.mp member with ⟨offset, _, rfl⟩
    simp
  rw [enabledProcessors, entriesBytes_eq_map, List.filter_map]
  simp only [Function.comp_def, enabled_entryBytes]
  rw [split, List.filter_append, first, last, List.append_nil]

/-! ## The tables describe the machine -/

/--
Both checksums are valid, the floating pointer structure points to the table, and
the table parses to as many enabled processors as there are virtual CPUs, numbered
from 0, exactly one of which is the boot processor.
-/
structure DescribesMachine (vcpuNum : Int) (area : Ebda) : Prop where
  fpsValid : isMpChecksumValid area.fps.mpCalcChecksum = true
  ctableValid : isMpChecksumValid area.ctable.mpCalcChecksum = true
  pointer :
    area.fps.physAddrPtr.toNat =
      ebdaStart.toNat + (area.padding.toList ++ area.fps.bytes).length
  parsed : ∃ entries,
    parse area.ctable.bytes = some entries ∧
      (enabledProcessors entries).map localApicId =
        List.range vcpuNum.toNat ∧
      ((enabledProcessors entries).filter isBootProcessor).length = 1

/-- `gen_ebda` stays inside its structure and describes the machine. -/
def TablesCorrect (vcpuNum : Int) : Prop :=
  ∃ area, genEbda vcpuNum = some area ∧ DescribesMachine vcpuNum area

theorem genEbda_of_le
    {count : Nat} (within : count ≤ mpMaxVcpuNum) :
    ∃ area, genEbda count = some area ∧
      area.padding = .replicate ebdaPaddingSize 0 ∧
      area.fps.physAddrPtr = (ebdaStart + 0x40).toUInt32 ∧
      isMpChecksumValid area.fps.mpCalcChecksum = true ∧
      isMpChecksumValid area.ctable.mpCalcChecksum = true ∧
      ∃ checksum, area.ctable = tableOf count checksum := by
  rw [genEbda, foldlM_processorEntryInit _ within]
  exact
    ⟨_, rfl, rfl, rfl,
      (Mpfps.isMpChecksumValid_gen
        { physAddrPtr := (ebdaStart + 0x40).toUInt32 }).mpr rfl,
      (Mpctable.isMpChecksumValid_gen
        { processorEntry := processors count }).mpr rfl,
      _, rfl⟩

/-- A number of virtual CPUs which is not positive fills no entry. -/
theorem genEbda_of_int_le
    {vcpuNum : Int} (within : vcpuNum ≤ mpMaxVcpuNum) :
    ∃ area, genEbda vcpuNum = some area := by
  have same : genEbda vcpuNum = genEbda vcpuNum.toNat := by
    simp only [genEbda, processorEntryInit, Int.toNat_natCast]
  have few : vcpuNum.toNat ≤ mpMaxVcpuNum := by omega
  rcases genEbda_of_le few with ⟨area, generated, -⟩
  exact ⟨area, same.trans generated⟩

/-- The area begins with its padding. -/
theorem genEbda_first_byte
    {count : Nat} (within : count ≤ mpMaxVcpuNum) :
    ∃ area, genEbda count = some area ∧ area.bytes[0]? = some 0 := by
  rcases genEbda_of_le within with ⟨area, generated, padding, _⟩
  refine ⟨area, generated, ?_⟩
  rw [Ebda.bytes, padding]
  rfl

theorem tablesCorrect_of_le
    {count : Nat} (positive : 0 < count) (within : count ≤ mpMaxVcpuNum) :
    TablesCorrect count := by
  rcases genEbda_of_le within with
    ⟨area, generated, padding, pointer, fpsValid, ctableValid, checksum,
      table⟩
  refine ⟨area, generated, fpsValid, ctableValid, ?_, ?_⟩
  · rw [pointer, padding, List.length_append, Mpfps.bytes_length,
      Vector.length_toList]
    rfl
  · refine ⟨entriesBytes (processors count), ?_, ?_, ?_⟩
    · rw [table]
      exact parse_tableOf count checksum
    · rw [enabledProcessors_entriesBytes within, List.map_map,
        Int.toNat_natCast]
      have ids : ∀ index ∈ List.range count,
          (localApicId ∘ entryBytes count) index = index :=
        fun index member =>
          localApicId_entryBytes (List.mem_range.mp member) within
      rw [List.map_congr_left ids, List.map_id']
    · rw [enabledProcessors_entriesBytes within, List.filter_map,
        List.length_map]
      have boot : ∀ index ∈ List.range count,
          (isBootProcessor ∘ entryBytes count) index =
            decide (index = 0) :=
        fun index member =>
          isBootProcessor_entryBytes (List.mem_range.mp member)
      rw [List.filter_congr boot]
      cases count with
      | zero => cases positive
      | succ count => simp [List.range_succ_eq_map, List.filter_map]

theorem not_tablesCorrect_of_gt
    {count : Nat} (beyond : mpMaxVcpuNum < count) :
    ¬ TablesCorrect count := by
  rintro ⟨area, generated, _⟩
  rw [genEbda, processorEntryInit_of_gt _ beyond] at generated
  cases generated

/--
For every machine which `kvmCreateVM` admits, the MP tables are correct exactly
when the virtual CPUs fit the array of processor entries.
-/
theorem tablesCorrect_iff
    (cap : KvmCap) (vcpuNum : Int) (createVm : SysResult) (vmThrows : Bool)
    (accepts : Accepts cap vcpuNum createVm vmThrows)
    (positive : 1 ≤ vcpuNum) :
    TablesCorrect vcpuNum ↔ vcpuNum ≤ mpMaxVcpuNum := by
  rcases Int.eq_ofNat_of_zero_le (by omega : 0 ≤ vcpuNum) with
    ⟨count, rfl⟩
  constructor
  · intro correct
    by_contra beyond
    exact not_tablesCorrect_of_gt (by omega) correct
  · intro within
    exact tablesCorrect_of_le (by omega) (by omega)

/-- The limits a host may report: 8 recommended and 288 possible CPUs. -/
def hostCap : KvmCap :=
  { immediateExit := 1, nrSlots := 32, nrAs := 1, softVcpusLimit := 8
    hardVcpusLimit := 288, coalescedMmio := 1 }

/-- The default machine has one virtual CPU. -/
theorem tablesCorrect_iff_default :
    TablesCorrect 1 ↔ (1 : Int) ≤ mpMaxVcpuNum :=
  tablesCorrect_iff hostCap 1 (.ok 4) false ⟨4, rfl⟩ (by decide)

/-- A machine with 33 virtual CPUs is admitted without correct tables. -/
theorem not_tablesCorrect_33 :
    Accepts hostCap 33 (.ok 4) false ∧ ¬ TablesCorrect 33 :=
  ⟨⟨4, rfl⟩, not_tablesCorrect_of_gt (by decide : mpMaxVcpuNum < 33)⟩

end Lvmm.Boot.MpTables
