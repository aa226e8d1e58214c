import Lvmm.Vm.BootLayout

/-!
# Which kernel images are loaded, and what the kernel is told

A kernel file is described here by its bytes alone: its length, the magic at
0x202 and the number of setup sectors at 0x1f1.  A load succeeds exactly for the
files this admits.  The page of boot parameters then holds the header of the
file, with the fields that `initRAM` decides replaced, the memory map and zeros.
-/

namespace Lvmm.Vm.BootImage

open Lvmm.Library.CellMemory
open Lvmm.Library.LittleEndian
open Lvmm.Library.PackedRecord
open Lvmm.Boot.BootProtocol
open Lvmm.Boot.MpTables
open Lvmm.Vm.FileStream
open Lvmm.Vm.InitRam
open Lvmm.Vm.BootLayout

/-- The byte of a file at an offset, or zero beyond its end. -/
def fileByte (file : List UInt8) (offset : Nat) : UInt8 :=
  file[offset]?.getD 0

/-- The number of setup sectors which a kernel file announces. -/
def setupSectors (kernelFile : List UInt8) : Nat :=
  if fileByte kernelFile 0x1f1 = 0 then 4
  else (fileByte kernelFile 0x1f1).toNat

/-- A kernel file with a whole header, the magic and all its setup sectors. -/
structure Bootable (kernelFile : List UInt8) : Prop where
  header : 0x26c ≤ kernelFile.length
  magic : (kernelFile.drop 0x202).take 4 = [0x48, 0x64, 0x72, 0x53]
  sectors : 512 * (setupSectors kernelFile + 1) ≤ kernelFile.length

/-- The header fields which `initRAM` decides, with their values. -/
def decidedFields (kernelFile initramfsFile : List UInt8) :
    List (SetupHeaderField × Nat) :=
  [ (.setupSects, setupSectors kernelFile),
    (.vidMode, bootHdrVidModeNml),
    (.typeOfLoader, bootHdrBltUndefined),
    (.loadflags, bootHdrLfHigh ||| bootHdrLfKeepSgmt ||| bootHdrLfHeap),
    (.ramdiskImage, initramfsAddr),
    (.ramdiskSize, initramfsFile.length),
    (.heapEndPtr, bootParamsAddr - bootHdrHeapendOffset),
    (.cmdLinePtr, commandlineAddr) ]

/-- The offset of a header field in the file and in `boot_params`. -/
def fieldOffset (field : SetupHeaderField) : Nat :=
  setupHeaderAddr + setupHeaderLayout.offset field

example :
    (decidedFields [] []).map (fun decided => fieldOffset decided.1) =
      [0x1f1, 0x1fa, 0x210, 0x211, 0x218, 0x21c, 0x224, 0x228] := by
  decide

/-- An offset which lies in none of some fields. -/
def OutsideFields
    (decided : List (SetupHeaderField × Nat)) (offset : Nat) : Prop :=
  ∀ field ∈ decided.map Prod.fst,
    offset < fieldOffset field ∨
      fieldOffset field + setupHeaderLayout.width field ≤ offset

/-- Memory passes the kernel its payload and its header. -/
structure Passes
    (conf : VmConfig) (kernelFile initramfsFile : List UInt8)
    (memory : Memory UInt8) : Prop where
  payload : ∀ index,
    512 * (setupSectors kernelFile + 1) + index < kernelFile.length →
      memory (highmemBase.toNat + index) =
        fileByte kernelFile (512 * (setupSectors kernelFile + 1) + index)
  decided : ∀ decided ∈ decidedFields kernelFile initramfsFile,
    loadWord memory (bootParamsAddr + fieldOffset decided.1)
      (setupHeaderLayout.width decided.1) = decided.2
  kept : ∀ offset, 0x1f1 ≤ offset → offset < 0x26c →
    OutsideFields (decidedFields kernelFile initramfsFile) offset →
      memory (bootParamsAddr + offset) = fileByte kernelFile offset
  mapCount : memory (bootParamsAddr + 0x1e8) = 4
  mapEntries : load memory (bootParamsAddr + 0x2d0) 80 =
    (memoryMap conf).flatMap E820entry.bytes
  blank : ∀ offset, offset < 0xcd0 → offset ≠ 0x1e8 →
    (offset < 0x1f1 ∨ 0x26c ≤ offset) →
    (offset < 0x2d0 ∨ 0x2d0 + 80 ≤ offset) →
      memory (bootParamsAddr + offset) = 0

/-! ## The header of a file -/

/-- The header is the part of the file at its offset. -/
theorem byteAt_setupHeaderOf
    {kernelFile : List UInt8} (whole : 0x26c ≤ kernelFile.length)
    {index : Nat} (inside : index < setupHeaderLayout.size) :
    (setupHeaderOf kernelFile).byteAt index =
      fileByte kernelFile (setupHeaderAddr + index) := by
  have bound := inside
  rw [setupHeaderLayout_size] at bound
  have present : setupHeaderAddr + index < kernelFile.length := by
    rw [setupHeaderAddr]
    omega
  rw [setupHeaderOf, Record.byteAt_overlay _ _ inside, fileByte,
    List.getElem?_eq_getElem present]
  apply store_of_some
  rw [Copy.cellAt, if_pos (Nat.zero_le _), Nat.sub_zero,
    List.getElem?_take_of_lt inside, List.getElem?_drop,
    List.getElem?_eq_getElem present]
  rfl

/-- A field of the header, as a part of the file. -/
theorem get_setupHeaderOf
    {kernelFile : List UInt8} (whole : 0x26c ≤ kernelFile.length)
    (field : SetupHeaderField) :
    (setupHeaderOf kernelFile).get field =
      natOfBytes
        ((kernelFile.drop (fieldOffset field)).take
          (setupHeaderLayout.width field)) := by
  have within := setupHeaderLayout.offset_add_width_le field
  have size := setupHeaderLayout_size
  have length : fieldOffset field + setupHeaderLayout.width field ≤
      kernelFile.length := by
    rw [fieldOffset, setupHeaderAddr]
    omega
  rw [Record.get, loadWord]
  congr 1
  apply List.ext_getElem (by simp; omega)
  intro index leftBound rightBound
  rw [load_length] at leftBound
  rw [load_getElem, byteAt_setupHeaderOf whole (by omega), fileByte,
    ← Nat.add_assoc, List.getElem_take, List.getElem_drop]
  rw [List.getElem?_eq_getElem (by rw [fieldOffset] at length; omega)]
  rfl

theorem setupSectors_eq
    {kernelFile : List UInt8} (whole : 0x26c ≤ kernelFile.length) :
    (setupHeaderOf kernelFile).checkSetupSects.2.get .setupSects =
      setupSectors kernelFile := by
  have first := byteAt_setupHeaderOf whole
    (show 0 < setupHeaderLayout.size by decide)
  have sects : (setupHeaderOf kernelFile).get .setupSects =
      (fileByte kernelFile 0x1f1).toNat := by
    change natOfBytes [(setupHeaderOf kernelFile).byteAt 0] = _
    rw [first]
    simp [natOfBytes, setupHeaderAddr]
  rw [SetupHeader.setupSects_checkSetupSects, sects, setupSectors]
  by_cases missing : fileByte kernelFile 0x1f1 = 0
  · rw [missing]
    rfl
  · have nonzero : ¬ (fileByte kernelFile 0x1f1).toNat = 0 := by
      intro zero
      exact missing (UInt8.toNat_inj.mp zero)
    rw [if_neg missing, if_neg nonzero]

theorem isValid_iff
    {kernelFile : List UInt8} (whole : 0x26c ≤ kernelFile.length) :
    (setupHeaderOf kernelFile).isValid = true ↔
      (kernelFile.drop 0x202).take 4 = [0x48, 0x64, 0x72, 0x53] := by
  have magic : bootHdrMagic = natOfBytes [0x48, 0x64, 0x72, 0x53] := rfl
  have length : ((kernelFile.drop 0x202).take 4).length =
      [(0x48 : UInt8), 0x64, 0x72, 0x53].length := by
    rw [List.length_take, List.length_drop]
    change min 4 _ = 4
    omega
  rw [SetupHeader.isValid, beq_iff_eq, get_setupHeaderOf whole, magic]
  exact natOfBytes_inj length

theorem payloadOffset_eq
    {kernelFile : List UInt8} (whole : 0x26c ≤ kernelFile.length) :
    payloadOffset kernelFile = 512 * (setupSectors kernelFile + 1) := by
  rw [payloadOffset, kernelLoadOffset, setupSectors_eq whole, sectSize,
    Nat.mul_comm]

/-- The two descriptions of an acceptable file agree. -/
theorem loadable_iff_bootable (kernelFile : List UInt8) :
    Loadable kernelFile ↔ Bootable kernelFile := by
  constructor
  · rintro ⟨whole, magic, sectors⟩
    rw [payloadOffset_eq whole] at sectors
    exact ⟨whole, (isValid_iff whole).mp magic, sectors⟩
  · rintro ⟨whole, magic, sectors⟩
    rw [← payloadOffset_eq whole] at sectors
    exact ⟨whole, (isValid_iff whole).mpr magic, sectors⟩

/-! ## The header of `boot_params` -/

/-- Every decided field has its value in the header which is passed on. -/
theorem get_decided
    {kernelFile initramfsFile : List UInt8}
    (whole : 0x26c ≤ kernelFile.length)
    (small : initramfsFile.length < 2 ^ 32)
    {decided : SetupHeaderField × Nat}
    (member : decided ∈ decidedFields kernelFile initramfsFile) :
    (assignHeader initramfsFile.length
        (setupHeaderOf kernelFile).checkSetupSects.2).get decided.1 =
      decided.2 := by
  have exactSize :
      ((initramfsFile.length : Int) % 2 ^ 32).toNat =
        initramfsFile.length := by
    omega
  simp only [decidedFields, List.mem_cons, List.not_mem_nil, or_false]
    at member
  rcases member with rfl | rfl | rfl | rfl | rfl | rfl | rfl | rfl
  all_goals
    simp only [assignHeader, ne_eq, reduceCtorEq, not_false_eq_true,
      Record.get_set_other, Record.get_set_same, setupSectors_eq whole,
      exactSize]
  all_goals
    first
    | rfl
    | exact Nat.mod_eq_of_lt small

/-- The other bytes of that header come from the file. -/
theorem byteAt_kept
    {kernelFile initramfsFile : List UInt8}
    (whole : 0x26c ≤ kernelFile.length)
    {index : Nat} (inside : index < setupHeaderLayout.size)
    (outside : OutsideFields (decidedFields kernelFile initramfsFile)
      (setupHeaderAddr + index)) :
    (assignHeader initramfsFile.length
        (setupHeaderOf kernelFile).checkSetupSects.2).byteAt index =
      fileByte kernelFile (setupHeaderAddr + index) := by
  have apart : ∀ field ∈
      (decidedFields kernelFile initramfsFile).map Prod.fst,
      index < setupHeaderLayout.offset field ∨
        setupHeaderLayout.offset field + setupHeaderLayout.width field ≤
          index := by
    intro field member
    have separate := outside field member
    rw [fieldOffset] at separate
    omega
  have checked :
      (setupHeaderOf kernelFile).checkSetupSects.2.byteAt index =
        (setupHeaderOf kernelFile).byteAt index := by
    rw [SetupHeader.checkSetupSects]
    split_ifs
    · exact Record.byteAt_set_outside _ _ _
        (apart .setupSects (by simp [decidedFields]))
    · rfl
  rw [assignHeader]
  rw [Record.byteAt_set_outside _ _ _
      (apart .cmdLinePtr (by simp [decidedFields])),
    Record.byteAt_set_outside _ _ _
      (apart .heapEndPtr (by simp [decidedFields])),
    Record.byteAt_set_outside _ _ _
      (apart .ramdiskSize (by simp [decidedFields])),
    Record.byteAt_set_outside _ _ _
      (apart .ramdiskImage (by simp [decidedFields])),
    Record.byteAt_set_outside _ _ _
      (apart .loadflags (by simp [decidedFields])),
    Record.byteAt_set_outside _ _ _
      (apart .typeOfLoader (by simp [decidedFields])),
    Record.byteAt_set_outside _ _ _
      (apart .vidMode (by simp [decidedFields])),
    checked, byteAt_setupHeaderOf whole inside]

/-! ## Memory after a load -/

section Copies

variable
  (memory : Memory UInt8) (area : Ebda)
  (initramfsFile cmdline : List UInt8) (bp : BootParams)
  (kernelFile : List UInt8)

/-- The two last copies are `boot_params` and the payload. -/
theorem copiesOf_eq_append :
    copiesOf area initramfsFile cmdline bp kernelFile =
      earlyCopies area initramfsFile cmdline ++ [bootParamsCopy bp] ++
        [kernelCopy kernelFile] :=
  rfl

/-- The page of boot parameters is not overwritten. -/
theorem holds_bootParams :
    Holds
      (storeAll memory (copiesOf area initramfsFile cmdline bp kernelFile))
      (bootParamsCopy bp) := by
  rw [copiesOf_eq_append, storeAll_append, storeAll_append]
  exact (holds_store _ _).store (compatible_bootParams_kernel bp kernelFile)

/-- The payload is the last piece to be stored. -/
theorem holds_kernel :
    Holds
      (storeAll memory (copiesOf area initramfsFile cmdline bp kernelFile))
      (kernelCopy kernelFile) := by
  rw [copiesOf_eq_append, storeAll_append]
  exact holds_store _ _

end Copies

/-- A byte of the stored `boot_params`. -/
theorem memory_of_holds
    {memory : Memory UInt8} {bp : BootParams}
    (holds : Holds memory (bootParamsCopy bp))
    {index : Nat} {byte : UInt8} (stored : bp.bytes[index]? = some byte) :
    memory (bootParamsAddr + index) = byte := by
  rcases List.getElem?_eq_some_iff.mp stored with ⟨bound, rfl⟩
  exact holds index bound

theorem passes_of_holds
    {conf : VmConfig} {kernelFile initramfsFile : List UInt8}
    {memory : Memory UInt8} {bp : BootParams}
    (whole : 0x26c ≤ kernelFile.length)
    (small : initramfsFile.length < 2 ^ 32)
    (maps : bp.Maps (memoryMap conf))
    (header : bp.header =
      assignHeader initramfsFile.length
        (setupHeaderOf kernelFile).checkSetupSects.2)
    (bootParams : Holds memory (bootParamsCopy bp))
    (kernel : Holds memory (kernelCopy kernelFile)) :
    Passes conf kernelFile initramfsFile memory := by
  have headerByte : ∀ index, index < setupHeaderLayout.size →
      memory (bootParamsAddr + (setupHeaderAddr + index)) =
        (assignHeader initramfsFile.length
          (setupHeaderOf kernelFile).checkSetupSects.2).byteAt index := by
    intro index inside
    rw [← header]
    exact memory_of_holds bootParams (maps.getElem?_header inside)
  constructor
  case payload =>
    intro index inside
    have position := payloadOffset_eq whole
    have bound : index < (payloadOf kernelFile).length := by
      rw [payloadOf, List.length_drop, position]
      omega
    rw [fileByte, List.getElem?_eq_getElem inside]
    refine (kernel index bound).trans ?_
    simp [kernelCopy, payloadOf, position]
  case decided =>
    intro decided member
    rw [← get_decided whole small member, Record.get]
    apply loadWord_congr
    intro index bound
    have within := setupHeaderLayout.offset_add_width_le decided.1
    rw [← headerByte _ (by omega), fieldOffset]
    simp only [Nat.add_assoc]
  case kept =>
    intro offset above below outside
    have position : offset = setupHeaderAddr + (offset - 0x1f1) := by
      rw [setupHeaderAddr]
      omega
    have size := setupHeaderLayout_size
    rw [position, headerByte _ (by omega)]
    rw [position] at outside
    exact byteAt_kept whole (by omega) outside
  case mapCount =>
    have count : bp.e820Entries = 4 := UInt8.toNat_inj.mp maps.count
    rw [← count]
    exact memory_of_holds bootParams maps.getElem?_count
  case mapEntries =>
    have length : ((memoryMap conf).flatMap E820entry.bytes).length = 80 :=
      flatMap_bytes_length (memoryMap conf)
    apply List.ext_getElem (by rw [load_length, length])
    intro index leftBound rightBound
    rw [load_getElem, Nat.add_assoc]
    apply memory_of_holds bootParams
    rw [load_length] at leftBound
    rw [maps.getElem?_entries leftBound,
      List.getElem?_eq_getElem rightBound]
  case blank =>
    intro offset inside notCount notHeader notEntries
    exact memory_of_holds bootParams
      (maps.getElem?_blank inside notCount notHeader notEntries)

/--
On a machine which boots in protected mode, `initRAM` returns zero exactly for
the bootable files, and then passes the kernel its payload and its header.
-/
theorem initRam_loads_iff
    {conf : VmConfig} (cmdline kernelFile initramfsFile : List UInt8)
    (buf : Vector UInt8 4) (memory : Memory UInt8)
    (protectedMode : conf.is64bitBoot = false)
    (few : conf.vcpuNum ≤ mpMaxVcpuNum)
    (small : initramfsFile.length < 2 ^ 32) :
    ((initRam conf cmdline
        (.constructed buf kernelFile initramfsFile memory)).1 =
          .returned 0 ↔
      Bootable kernelFile) ∧
    ((initRam conf cmdline
        (.constructed buf kernelFile initramfsFile memory)).1 =
          .returned 0 →
      Passes conf kernelFile initramfsFile
        (initRam conf cmdline
          (.constructed buf kernelFile initramfsFile memory)).2.memory) := by
  rcases genEbda_of_int_le few with ⟨area, generated⟩
  rcases fillBootParams_maps conf initramfsFile.length
      (setupHeaderOf kernelFile) with
    ⟨bp, filled, maps, header⟩
  have loads (loadable : Loadable kernelFile) :=
    initRam_of_loadable cmdline buf memory generated filled loadable
      protectedMode
  constructor
  · rw [← loadable_iff_bootable]
    constructor
    · intro returned
      exact (loadable_of_returned_zero returned).2.1
    · intro loadable
      rw [loads loadable]
  · intro returned
    have loadable := (loadable_of_returned_zero returned).2.1
    rw [loads loadable]
    exact passes_of_holds loadable.header small maps header
      (holds_bootParams memory area initramfsFile cmdline bp kernelFile)
      (holds_kernel memory area initramfsFile cmdline bp kernelFile)

/-- The small machine's kernel is loaded and told the size of its initramfs. -/
theorem initRam_loads_iff_small :
    (initRam (smallConf 0x10000000) [0x61] smallBoot).1 = .returned 0 ∧
      Passes (smallConf 0x10000000) smallKernel smallInitramfs
        (initRam (smallConf 0x10000000) [0x61] smallBoot).2.memory := by
  have short : smallInitramfs.length < 2 ^ 32 := by
    simp [smallInitramfs]
  have loads :=
    @initRam_loads_iff (smallConf 0x10000000) [0x61] smallKernel
      smallInitramfs (.replicate 4 0) (fun _ => 0) rfl (by decide) short
  have returned := loads.1.mpr
    ((loadable_iff_bootable smallKernel).mp smallKernel_loadable)
  rw [smallBoot]
  exact ⟨returned, loads.2 returned⟩

end Lvmm.Vm.BootImage
