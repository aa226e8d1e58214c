import Lvmm.Boot.BootProtocol
import Lvmm.Boot.MpTables
import Lvmm.Vm.FileStream

/-!
# Loading guest memory

`VM::initRAM` over guest memory, addressed by guest-physical address, and the two
file streams which the constructor of `VM` opened.  The state records every copy
that was made.  An address from `ram_size` on lies outside the mapping; the copy
there is recorded like any other.

The assertion on a 64-bit boot ends the program, so that the boot page table
behind it is never built here.

The five pieces of a boot have lengths of their own and fixed addresses.  The main
theorem says for which lengths and contents a successful load leaves all of them
in place.
-/

namespace Lvmm.Vm.InitRam

open Lvmm.Library.CellMemory
open Lvmm.Library.PackedRecord
open Lvmm.Boot.BootProtocol
open Lvmm.Boot.MpTables
open Lvmm.Vm.FileStream

def sectSize : Nat := 512
def realmodeIvtStart : UInt64 := 0x0
def bootParamsAddr : Nat := 0x10000
def commandlineAddr : Nat := 0x20000
def vgaramStart : UInt64 := 0xa0000
def mbbiosStart : UInt64 := 0xf0000
def highmemBase : UInt64 := 0x100000
def initramfsAddr : Nat := 0xf000000
def mbbiosSize : UInt32 := 0xffff

def setupHeaderAddr : Nat := 0x1f1
def bootHdrVidModeNml : Nat := 0xffff
def bootHdrBltUndefined : Nat := 0xff
def bootHdrLfHigh : Nat := 0b00000001
def bootHdrLfKeepSgmt : Nat := 0b01000000
def bootHdrLfHeap : Nat := 0b10000000
def bootHdrHeapendOffset : Nat := 0x200

/-- The members of `vm_config` which `initRAM` reads. -/
structure VmConfig where
  vcpuNum : Int
  ramSize : UInt64
  is64bitBoot : Bool

/-- How `initRAM` ended; `undefined` is a write beyond a local array. -/
inductive Ending where
  | returned (result : Int)
  | aborted
  | undefined
deriving DecidableEq

/-- Guest memory with the copies made to it, and the streams of `VM`. -/
structure BootState where
  memory : Memory UInt8
  written : List (Copy UInt8)
  kernel : IfStream
  initramfs : IfStream

namespace BootState

/--
The state in which the constructor of `VM` leaves the streams of two files; the
first argument is the uninitialised buffer of its test for an ELF file.
-/
def constructed
    (buf : Vector UInt8 4) (kernelFile initramfsFile : List UInt8)
    (memory : Memory UInt8) : BootState where
  memory := memory
  written := []
  kernel := (isKernelElf buf (.opened kernelFile)).2
  initramfs := .opened initramfsFile

/-- `std::copy_n` to guest memory. -/
def copyN (boot : BootState) (start : Nat) (cells : List UInt8) :
    BootState :=
  { boot with
    memory := store boot.memory ⟨start, cells⟩
    written := boot.written ++ [⟨start, cells⟩] }

/-- The initramfs, with the size which was asked for. -/
def copyInitramfs (boot : BootState) : Int × BootState :=
  let (ramdiskSize, initramfs) := getIfsSize boot.initramfs
  let (stored, initramfs) := initramfs.read ramdiskSize
  (ramdiskSize, { boot.copyN initramfsAddr stored with initramfs })

/-- The command line and its terminating NUL. -/
def copyCmdline (boot : BootState) (cmdline : List UInt8) : BootState :=
  (boot.copyN commandlineAddr cmdline).copyN
    (commandlineAddr + cmdline.length) [0]

end BootState

/-- The setup header of the kernel file, if it could be read. -/
def readSetupHeader (kernel : IfStream) : Option SetupHeader × IfStream :=
  let (stored, kernel) :=
    (kernel.seekg setupHeaderAddr).read setupHeaderLayout.size
  let header := (Record.zero setupHeaderLayout).overlay ⟨0, stored⟩
  (if kernel.failbit then none else some header, kernel.seekg 0)

/-- The members of the header which `initRAM` assigns. -/
def assignHeader (ramdiskSize : Int) (header : SetupHeader) : SetupHeader :=
  header
    |>.set .vidMode bootHdrVidModeNml
    |>.set .typeOfLoader bootHdrBltUndefined
    |>.set .loadflags (bootHdrLfHigh ||| bootHdrLfKeepSgmt ||| bootHdrLfHeap)
    |>.set .ramdiskImage initramfsAddr
    |>.set .ramdiskSize (ramdiskSize % 2 ^ 32).toNat
    |>.set .heapEndPtr (bootParamsAddr - bootHdrHeapendOffset)
    |>.set .cmdLinePtr commandlineAddr

/-- The local `bp`, from a valid header to its copy. -/
def fillBootParams
    (conf : VmConfig) (ramdiskSize : Int) (header : SetupHeader) :
    Option BootParams := do
  let bp : BootParams := { header := header.checkSetupSects.2 }
  let bp ←
    bp.addE820Entry realmodeIvtStart (ebdaStart - realmodeIvtStart)
      bootE820TypeRam
  let bp ←
    bp.addE820Entry ebdaStart (vgaramStart - ebdaStart)
      bootE820TypeReserved
  let bp ←
    bp.addE820Entry mbbiosStart mbbiosSize.toUInt64 bootE820TypeReserved
  let bp ←
    bp.addE820Entry highmemBase (conf.ramSize - highmemBase)
      bootE820TypeRam
  some { bp with header := assignHeader ramdiskSize bp.header }

/-- `kernel_load_offset`. -/
def kernelLoadOffset (header : SetupHeader) : Nat :=
  (header.get .setupSects + 1) * sectSize

/-- The kernel behind its setup sectors, and whether it could be read. -/
def BootState.copyKernel (boot : BootState) (header : SetupHeader) :
    Bool × BootState :=
  let loadOffset : Int := kernelLoadOffset header
  let (fileSize, kernel) := getIfsSize (boot.kernel.seekg loadOffset)
  let (stored, kernel) := kernel.read (fileSize - loadOffset)
  (!kernel.failbit, { boot.copyN highmemBase.toNat stored with kernel })

/-- `initRAM` from the copy of `boot_params` on. -/
def loadKernel (conf : VmConfig) (bp : BootParams) (boot : BootState) :
    Ending × BootState :=
  let boot := boot.copyN bootParamsAddr bp.bytes
  if conf.is64bitBoot then (.aborted, boot)
  else
    let (loaded, boot) := boot.copyKernel bp.header
    if !loaded then (.returned 1, boot)
    else (.returned 0, { boot with kernel := boot.kernel.seekg 0 })

/-- `initRAM` from the setup header on. -/
def loadBootParams
    (conf : VmConfig) (ramdiskSize : Int) (boot : BootState) :
    Ending × BootState :=
  let (read, kernel) := readSetupHeader boot.kernel
  let boot := { boot with kernel }
  match read with
  | none => (.returned 1, boot)
  | some header =>
      if !header.isValid then (.returned 1, boot)
      else
        match fillBootParams conf ramdiskSize header with
        | none => (.undefined, boot)
        | some bp => loadKernel conf bp boot

/-- `VM::initRAM`. -/
def initRam
    (conf : VmConfig) (cmdline : List UInt8) (boot : BootState) :
    Ending × BootState :=
  match genEbda conf.vcpuNum with
  | none => (.undefined, boot)
  | some ebdaData =>
      let boot := boot.copyN ebdaStart.toNat ebdaData.bytes
      let (ramdiskSize, boot) := boot.copyInitramfs
      if boot.initramfs.failbit then (.returned 1, boot)
      else loadBootParams conf ramdiskSize (boot.copyCmdline cmdline)

/-! ## Each part on streams in good state -/

/-- Memory after some copies, with the streams as they stand. -/
def BootState.after
    (memory : Memory UInt8) (copies : List (Copy UInt8))
    (kernel initramfs : IfStream) : BootState where
  memory := storeAll memory copies
  written := copies
  kernel := kernel
  initramfs := initramfs

theorem BootState.after_copyN
    (memory : Memory UInt8) (copies : List (Copy UInt8))
    (kernel initramfs : IfStream) (start : Nat) (cells : List UInt8) :
    (BootState.after memory copies kernel initramfs).copyN start cells =
      .after memory (copies ++ [⟨start, cells⟩]) kernel initramfs := by
  simp only [BootState.copyN, BootState.after, storeAll_append]
  rfl

/-- The setup header of a kernel file. -/
def setupHeaderOf (kernelFile : List UInt8) : SetupHeader :=
  (Record.zero setupHeaderLayout).overlay
    ⟨0, (kernelFile.drop setupHeaderAddr).take setupHeaderLayout.size⟩

/-- Where the protected-mode kernel begins in a kernel file. -/
def payloadOffset (kernelFile : List UInt8) : Nat :=
  kernelLoadOffset (setupHeaderOf kernelFile).checkSetupSects.2

/-- The protected-mode kernel of a kernel file. -/
def payloadOf (kernelFile : List UInt8) : List UInt8 :=
  kernelFile.drop (payloadOffset kernelFile)

theorem copyInitramfs_after
    (memory : Memory UInt8) (copies : List (Copy UInt8))
    (kernel : IfStream) (initramfsFile : List UInt8) :
    (BootState.after memory copies kernel
        (.opened initramfsFile)).copyInitramfs =
      ((initramfsFile.length : Int),
        BootState.after memory
          (copies ++ [⟨initramfsAddr, initramfsFile⟩]) kernel
          (.At initramfsFile initramfsFile.length)) := by
  have whole :
      (IfStream.At initramfsFile 0).read initramfsFile.length =
        (initramfsFile, .At initramfsFile initramfsFile.length) := by
    rw [IfStream.read_at (by omega), Nat.zero_add, List.drop_zero,
      List.take_length]
  have size :
      getIfsSize
          (BootState.after memory copies kernel
            (.opened initramfsFile)).initramfs =
        ((initramfsFile.length : Int), IfStream.At initramfsFile 0) :=
    getIfsSize_at initramfsFile 0
  simp only [BootState.copyInitramfs, size, whole, BootState.after_copyN]
  rfl

theorem copyCmdline_after
    (memory : Memory UInt8) (copies : List (Copy UInt8))
    (kernel initramfs : IfStream) (cmdline : List UInt8) :
    (BootState.after memory copies kernel initramfs).copyCmdline cmdline =
      .after memory
        (copies ++
          [⟨commandlineAddr, cmdline⟩,
            ⟨commandlineAddr + cmdline.length, [0]⟩])
        kernel initramfs := by
  simp only [BootState.copyCmdline, BootState.after_copyN,
    List.append_assoc, List.cons_append, List.nil_append]

theorem readSetupHeader_at
    {kernelFile : List UInt8} (whole : 0x26c ≤ kernelFile.length) :
    readSetupHeader (.At kernelFile 0) =
      (some (setupHeaderOf kernelFile), IfStream.At kernelFile 0) := by
  have stored :
      (IfStream.At kernelFile setupHeaderAddr).read
          setupHeaderLayout.size =
        ((kernelFile.drop setupHeaderAddr).take setupHeaderLayout.size,
          .At kernelFile (setupHeaderAddr + setupHeaderLayout.size)) :=
    IfStream.read_at whole
  have rewound (position : Nat) :
      (IfStream.At kernelFile position).seekg 0 = .At kernelFile 0 :=
    IfStream.seekg_at kernelFile position 0
  simp only [readSetupHeader, IfStream.seekg_at, stored, rewound,
    IfStream.at_failbit, Bool.false_eq_true, if_false, setupHeaderOf]

theorem readSetupHeader_short
    {kernelFile : List UInt8} (short : kernelFile.length < 0x26c) :
    (readSetupHeader (.At kernelFile 0)).1 = none := by
  have failed :
      ((IfStream.At kernelFile setupHeaderAddr).read
        setupHeaderLayout.size).2.failbit = true := by
    apply IfStream.read_at_failbit
    rw [setupHeaderLayout_size, setupHeaderAddr]
    omega
  simp only [readSetupHeader, IfStream.seekg_at, failed, if_true]

theorem readSetupHeader_failed
    {kernel : IfStream} (failed : kernel.failbit = true) :
    (readSetupHeader kernel).1 = none := by
  have stillFailed :=
    IfStream.read_failbit
      (IfStream.seekg_failbit failed setupHeaderAddr)
      setupHeaderLayout.size
  simp only [readSetupHeader, stillFailed, if_true]

/-- The entries which `initRAM` adds to the map. -/
def memoryMap (conf : VmConfig) : List E820entry :=
  [ { addr := realmodeIvtStart, size := ebdaStart - realmodeIvtStart,
      type := bootE820TypeRam },
    { addr := ebdaStart, size := vgaramStart - ebdaStart,
      type := bootE820TypeReserved },
    { addr := mbbiosStart, size := mbbiosSize.toUInt64,
      type := bootE820TypeReserved },
    { addr := highmemBase, size := conf.ramSize - highmemBase,
      type := bootE820TypeRam } ]

/-- The memory map has room for its four entries. -/
theorem fillBootParams_maps
    (conf : VmConfig) (ramdiskSize : Int) (header : SetupHeader) :
    ∃ bp, fillBootParams conf ramdiskSize header = some bp ∧
      bp.Maps (memoryMap conf) ∧
      bp.header = assignHeader ramdiskSize header.checkSetupSects.2 := by
  have empty := BootParams.Maps.nil header.checkSetupSects.2
  rcases empty.addE820Entry realmodeIvtStart
      (ebdaStart - realmodeIvtStart) bootE820TypeRam (by decide) with
    ⟨first, firstAdded, firstMaps, firstHeader⟩
  rcases firstMaps.addE820Entry ebdaStart (vgaramStart - ebdaStart)
      bootE820TypeReserved (by decide) with
    ⟨second, secondAdded, secondMaps, secondHeader⟩
  rcases secondMaps.addE820Entry mbbiosStart mbbiosSize.toUInt64
      bootE820TypeReserved (by decide) with
    ⟨third, thirdAdded, thirdMaps, thirdHeader⟩
  rcases thirdMaps.addE820Entry highmemBase (conf.ramSize - highmemBase)
      bootE820TypeRam (by decide) with
    ⟨fourth, fourthAdded, fourthMaps, fourthHeader⟩
  refine
    ⟨{ fourth with header := assignHeader ramdiskSize fourth.header },
      ?_, ?_, ?_⟩
  · simp only [fillBootParams, Option.bind_eq_bind]
    rw [firstAdded, Option.bind_some, secondAdded, Option.bind_some,
      thirdAdded, Option.bind_some, fourthAdded, Option.bind_some]
  · exact fourthMaps.withHeader _
  · rw [fourthHeader, thirdHeader, secondHeader, firstHeader]

/-- The assignments keep the number of setup sectors. -/
theorem kernelLoadOffset_assignHeader
    (ramdiskSize : Int) (header : SetupHeader) :
    kernelLoadOffset (assignHeader ramdiskSize header) =
      kernelLoadOffset header := by
  simp only [kernelLoadOffset, assignHeader, ne_eq, reduceCtorEq,
    not_false_eq_true, Record.get_set_other]

/-- The payload begins where the header of the file says. -/
theorem kernelLoadOffset_of_filled
    {conf : VmConfig} {ramdiskSize : Int} {kernelFile : List UInt8}
    {bp : BootParams}
    (filled :
      fillBootParams conf ramdiskSize (setupHeaderOf kernelFile) =
        some bp) :
    kernelLoadOffset bp.header = payloadOffset kernelFile := by
  rcases fillBootParams_maps conf ramdiskSize
      (setupHeaderOf kernelFile) with
    ⟨other, otherFilled, -, header⟩
  have same : bp = other := Option.some.inj (filled.symm.trans otherFilled)
  rw [same, header, kernelLoadOffset_assignHeader, payloadOffset]

theorem copyKernel_after
    (memory : Memory UInt8) (copies : List (Copy UInt8))
    {kernelFile : List UInt8} (initramfs : IfStream)
    {header : SetupHeader}
    (within : kernelLoadOffset header ≤ kernelFile.length) :
    (BootState.after memory copies (.At kernelFile 0)
        initramfs).copyKernel header =
      (true,
        BootState.after memory
          (copies ++
            [⟨highmemBase.toNat,
              kernelFile.drop (kernelLoadOffset header)⟩])
          (.At kernelFile kernelFile.length) initramfs) := by
  have difference :
      (kernelFile.length : Int) - kernelLoadOffset header =
        (kernelFile.length - kernelLoadOffset header : Nat) := by
    omega
  have rest :
      (IfStream.At kernelFile (kernelLoadOffset header)).read
          (kernelFile.length - kernelLoadOffset header : Nat) =
        (kernelFile.drop (kernelLoadOffset header),
          .At kernelFile kernelFile.length) := by
    rw [IfStream.read_at (by omega), List.take_of_length_le (by simp),
      Nat.add_sub_cancel' within]
  have sought :
      (BootState.after memory copies (.At kernelFile 0)
          initramfs).kernel.seekg (kernelLoadOffset header) =
        .At kernelFile (kernelLoadOffset header) :=
    IfStream.seekg_at kernelFile 0 (kernelLoadOffset header)
  simp only [BootState.copyKernel, sought, getIfsSize_at, difference,
    rest, IfStream.at_failbit, Bool.not_false, BootState.after_copyN]
  rfl

theorem copyKernel_short
    (memory : Memory UInt8) (copies : List (Copy UInt8))
    {kernelFile : List UInt8} (initramfs : IfStream)
    {header : SetupHeader}
    (short : kernelFile.length < kernelLoadOffset header) :
    ((BootState.after memory copies (.At kernelFile 0)
      initramfs).copyKernel header).1 = false := by
  have failed :
      ((IfStream.At kernelFile (kernelLoadOffset header)).read
        (kernelFile.length - kernelLoadOffset header : Int)).2.failbit =
          true := by
    apply IfStream.read_at_failbit
    omega
  have sought :
      (BootState.after memory copies (.At kernelFile 0)
          initramfs).kernel.seekg (kernelLoadOffset header) =
        .At kernelFile (kernelLoadOffset header) :=
    IfStream.seekg_at kernelFile 0 (kernelLoadOffset header)
  simp only [BootState.copyKernel, sought, getIfsSize_at, failed,
    Bool.not_true]

/-! ## Whole loads -/

/-- A kernel file which `initRAM` can load. -/
structure Loadable (kernelFile : List UInt8) : Prop where
  header : 0x26c ≤ kernelFile.length
  magic : (setupHeaderOf kernelFile).isValid = true
  sectors : payloadOffset kernelFile ≤ kernelFile.length

/-- The copies of a successful load, in order. -/
def copiesOf
    (area : Ebda) (initramfsFile cmdline : List UInt8) (bp : BootParams)
    (kernelFile : List UInt8) : List (Copy UInt8) :=
  [ ⟨ebdaStart.toNat, area.bytes⟩,
    ⟨initramfsAddr, initramfsFile⟩,
    ⟨commandlineAddr, cmdline⟩,
    ⟨commandlineAddr + cmdline.length, [0]⟩,
    ⟨bootParamsAddr, bp.bytes⟩,
    ⟨highmemBase.toNat, payloadOf kernelFile⟩ ]

/-- The setup header can only be read from a file which holds it whole. -/
theorem readSetupHeader_constructed
    (buf : Vector UInt8 4) {kernelFile : List UInt8}
    (short : kernelFile.length < 0x26c) :
    (readSetupHeader (isKernelElf buf (.opened kernelFile)).2).1 =
      none := by
  by_cases whole : 4 ≤ kernelFile.length
  · rw [isKernelElf_opened buf whole]
    exact readSetupHeader_short short
  · exact readSetupHeader_failed
      (isKernelElf_opened_short buf (by omega))

/-- What follows the copy of `boot_params` depends on the file's length. -/
theorem loadKernel_after
    (conf : VmConfig) (bp : BootParams) (memory : Memory UInt8)
    (copies : List (Copy UInt8)) (kernelFile : List UInt8)
    (initramfs : IfStream)
    (within : kernelLoadOffset bp.header ≤ kernelFile.length)
    (protectedMode : conf.is64bitBoot = false) :
    loadKernel conf bp
        (.after memory copies (.At kernelFile 0) initramfs) =
      (.returned 0,
        BootState.after memory
          (copies ++
            [⟨bootParamsAddr, bp.bytes⟩,
              ⟨highmemBase.toNat,
                kernelFile.drop (kernelLoadOffset bp.header)⟩])
          (.At kernelFile 0) initramfs) := by
  have rewound :
      (IfStream.At kernelFile kernelFile.length).seekg 0 =
        .At kernelFile 0 :=
    IfStream.seekg_at kernelFile kernelFile.length 0
  simp only [loadKernel, BootState.after_copyN, protectedMode,
    Bool.false_eq_true, if_false, copyKernel_after _ _ _ within,
    Bool.not_true, List.append_assoc, List.cons_append, List.nil_append]
  simp only [BootState.after, rewound]

theorem loadKernel_returned_zero
    {conf : VmConfig} {bp : BootParams} {memory : Memory UInt8}
    {copies : List (Copy UInt8)} {kernelFile : List UInt8}
    {initramfs : IfStream}
    (returned :
      (loadKernel conf bp
        (.after memory copies (.At kernelFile 0) initramfs)).1 =
          .returned 0) :
    conf.is64bitBoot = false ∧
      kernelLoadOffset bp.header ≤ kernelFile.length := by
  by_cases protectedMode : conf.is64bitBoot = false
  · refine ⟨protectedMode, ?_⟩
    by_contra short
    have failed :=
      copyKernel_short memory (copies ++ [⟨bootParamsAddr, bp.bytes⟩])
        initramfs (Nat.lt_of_not_le short)
    simp [loadKernel, BootState.after_copyN, protectedMode, failed]
      at returned
  · simp [loadKernel, protectedMode] at returned

/-- The copies before the setup header is read. -/
def earlyCopies
    (area : Ebda) (initramfsFile cmdline : List UInt8) :
    List (Copy UInt8) :=
  [ ⟨ebdaStart.toNat, area.bytes⟩,
    ⟨initramfsAddr, initramfsFile⟩,
    ⟨commandlineAddr, cmdline⟩,
    ⟨commandlineAddr + cmdline.length, [0]⟩ ]

/-- Nothing can fail before the setup header is read. -/
theorem initRam_constructed
    {conf : VmConfig} {area : Ebda} (cmdline : List UInt8)
    (buf : Vector UInt8 4) (kernelFile initramfsFile : List UInt8)
    (memory : Memory UInt8)
    (generated : genEbda conf.vcpuNum = some area) :
    initRam conf cmdline
        (.constructed buf kernelFile initramfsFile memory) =
      loadBootParams conf initramfsFile.length
        (.after memory (earlyCopies area initramfsFile cmdline)
          (isKernelElf buf (.opened kernelFile)).2
          (.At initramfsFile initramfsFile.length)) := by
  have opened :
      BootState.constructed buf kernelFile initramfsFile memory =
        .after memory [] (isKernelElf buf (.opened kernelFile)).2
          (.opened initramfsFile) :=
    rfl
  have readable (copies : List (Copy UInt8)) (kernel : IfStream) :
      (BootState.after memory copies kernel
        (.At initramfsFile initramfsFile.length)).initramfs.failbit =
          false :=
    rfl
  simp only [initRam, generated, opened, BootState.after_copyN,
    copyInitramfs_after, copyCmdline_after, readable, Bool.false_eq_true,
    if_false, earlyCopies, List.cons_append, List.nil_append]

/-- A valid header which was read is completed and passed on. -/
theorem loadBootParams_after
    {conf : VmConfig} {ramdiskSize : Int} {bp : BootParams}
    (memory : Memory UInt8) (copies : List (Copy UInt8))
    {kernelFile : List UInt8} (initramfs : IfStream)
    (whole : 0x26c ≤ kernelFile.length)
    (magic : (setupHeaderOf kernelFile).isValid = true)
    (filled :
      fillBootParams conf ramdiskSize (setupHeaderOf kernelFile) =
        some bp) :
    loadBootParams conf ramdiskSize
        (.after memory copies (.At kernelFile 0) initramfs) =
      loadKernel conf bp
        (.after memory copies (.At kernelFile 0) initramfs) := by
  simp only [loadBootParams, BootState.after, readSetupHeader_at whole,
    magic, filled, Bool.not_true, Bool.false_eq_true, if_false]

/-- A loadable kernel is loaded. -/
theorem initRam_of_loadable
    {conf : VmConfig} {area : Ebda} {bp : BootParams}
    (cmdline : List UInt8) (buf : Vector UInt8 4)
    {kernelFile initramfsFile : List UInt8} (memory : Memory UInt8)
    (generated : genEbda conf.vcpuNum = some area)
    (filled :
      fillBootParams conf initramfsFile.length
        (setupHeaderOf kernelFile) = some bp)
    (loadable : Loadable kernelFile)
    (protectedMode : conf.is64bitBoot = false) :
    initRam conf cmdline
        (.constructed buf kernelFile initramfsFile memory) =
      (.returned 0,
        BootState.after memory
          (copiesOf area initramfsFile cmdline bp kernelFile)
          (.At kernelFile 0)
          (.At initramfsFile initramfsFile.length)) := by
  rcases loadable with ⟨whole, magic, sectors⟩
  have payload : kernelLoadOffset bp.header = payloadOffset kernelFile :=
    kernelLoadOffset_of_filled filled
  have within : kernelLoadOffset bp.header ≤ kernelFile.length := by
    rw [payload]
    exact sectors
  rw [initRam_constructed _ _ _ _ _ generated,
    isKernelElf_opened buf (by omega),
    loadBootParams_after _ _ _ whole magic filled,
    loadKernel_after _ _ _ _ _ _ within protectedMode, payload]
  rfl

/-- Only a loadable kernel is loaded. -/
theorem loadable_of_returned_zero
    {conf : VmConfig} {cmdline : List UInt8} {buf : Vector UInt8 4}
    {kernelFile initramfsFile : List UInt8} {memory : Memory UInt8}
    (returned :
      (initRam conf cmdline
        (.constructed buf kernelFile initramfsFile memory)).1 =
          .returned 0) :
    (∃ area, genEbda conf.vcpuNum = some area) ∧
      Loadable kernelFile ∧ conf.is64bitBoot = false := by
  cases generated : genEbda conf.vcpuNum with
  | none => simp [initRam, generated] at returned
  | some area =>
      rw [initRam_constructed _ _ _ _ _ generated] at returned
      have whole : 0x26c ≤ kernelFile.length := by
        by_contra short
        have unread :=
          readSetupHeader_constructed buf (Nat.lt_of_not_le short)
        simp [loadBootParams, BootState.after, unread] at returned
      rw [isKernelElf_opened buf (by omega)] at returned
      have magic : (setupHeaderOf kernelFile).isValid = true := by
        by_contra invalid
        rw [Bool.not_eq_true] at invalid
        simp only [loadBootParams, BootState.after,
          readSetupHeader_at whole, invalid, Bool.not_false, if_true]
          at returned
        exact absurd returned (by decide)
      rcases fillBootParams_maps conf initramfsFile.length
          (setupHeaderOf kernelFile) with
        ⟨bp, filled, -, -⟩
      rw [loadBootParams_after _ _ _ whole magic filled] at returned
      have kernelRead := loadKernel_returned_zero returned
      rw [kernelLoadOffset_of_filled filled] at kernelRead
      exact ⟨⟨area, rfl⟩, ⟨whole, magic, kernelRead.2⟩, kernelRead.1⟩

end Lvmm.Vm.InitRam
