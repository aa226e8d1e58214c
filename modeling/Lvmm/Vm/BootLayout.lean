import Lvmm.Vm.InitRam

/-!
# The layout of a loaded guest

The five pieces of a boot are copied to fixed addresses, and only the extended
BIOS data area and `boot_params` have fixed sizes.  A successful load leaves all
pieces in place exactly when each fits below `ram_size` and the three others
agree with their neighbours wherever they run into them.
-/

namespace Lvmm.Vm.BootLayout

open Lvmm.Library.CellMemory
open Lvmm.Boot.BootProtocol
open Lvmm.Boot.MpTables
open Lvmm.Vm.FileStream
open Lvmm.Vm.InitRam

/-! ## The pieces -/

def ebdaCopy (area : Ebda) : Copy UInt8 :=
  ⟨ebdaStart.toNat, area.bytes⟩

def initramfsCopy (initramfsFile : List UInt8) : Copy UInt8 :=
  ⟨initramfsAddr, initramfsFile⟩

/-- The command line with its terminating NUL. -/
def commandLineCopy (cmdline : List UInt8) : Copy UInt8 :=
  ⟨commandlineAddr, cmdline ++ [0]⟩

def bootParamsCopy (bp : BootParams) : Copy UInt8 :=
  ⟨bootParamsAddr, bp.bytes⟩

def kernelCopy (kernelFile : List UInt8) : Copy UInt8 :=
  ⟨highmemBase.toNat, payloadOf kernelFile⟩

/-- The pieces in the order of their copies. -/
def piecesOf
    (area : Ebda) (initramfsFile cmdline : List UInt8) (bp : BootParams)
    (kernelFile : List UInt8) : List (Copy UInt8) :=
  [ ebdaCopy area,
    initramfsCopy initramfsFile,
    commandLineCopy cmdline,
    bootParamsCopy bp,
    kernelCopy kernelFile ]

/--
Everything was written inside guest memory, which holds all pieces at once.
-/
structure Intact
    (conf : VmConfig) (cmdline kernelFile initramfsFile : List UInt8)
    (boot : BootState) : Prop where
  insideRam : ∀ copy ∈ boot.written, copy.Below conf.ramSize.toNat
  ebda :
    ∃ area, genEbda conf.vcpuNum = some area ∧
      Holds boot.memory (ebdaCopy area)
  initramfs : Holds boot.memory (initramfsCopy initramfsFile)
  commandLine : Holds boot.memory (commandLineCopy cmdline)
  bootParams :
    ∃ bp,
      fillBootParams conf initramfsFile.length
          (setupHeaderOf kernelFile) = some bp ∧
        Holds boot.memory (bootParamsCopy bp)
  kernel : Holds boot.memory (kernelCopy kernelFile)

/--
Each piece fits below `ram_size`, and a piece which runs into the next one is
continued by it.
-/
structure PiecesFit
    (conf : VmConfig) (cmdline kernelFile initramfsFile : List UInt8) :
    Prop where
  ebdaFits : ebdaStart.toNat + 748 ≤ conf.ramSize.toNat
  commandLineFits :
    commandlineAddr + cmdline.length + 1 ≤ conf.ramSize.toNat
  initramfsFits :
    initramfsFile = [] ∨
      initramfsAddr + initramfsFile.length ≤ conf.ramSize.toNat
  kernelFits :
    payloadOf kernelFile = [] ∨
      highmemBase.toNat + (payloadOf kernelFile).length ≤
        conf.ramSize.toNat
  commandLineIntoEbda :
    ∀ area, genEbda conf.vcpuNum = some area →
      Agree ((cmdline ++ [0]).drop (ebdaStart.toNat - commandlineAddr))
        area.bytes
  commandLineIntoKernel :
    Agree ((cmdline ++ [0]).drop (highmemBase.toNat - commandlineAddr))
      (payloadOf kernelFile)
  commandLineIntoInitramfs :
    Agree ((cmdline ++ [0]).drop (initramfsAddr - commandlineAddr))
      initramfsFile
  kernelIntoInitramfs :
    Agree
      ((payloadOf kernelFile).drop (initramfsAddr - highmemBase.toNat))
      initramfsFile

/-! ## Which pieces can meet -/

theorem compatible_ebda_initramfs
    (area : Ebda) (initramfsFile : List UInt8) :
    Compatible (ebdaCopy area) (initramfsCopy initramfsFile) :=
  Compatible.of_disjoint (by
    simp [ebdaCopy, initramfsCopy, ebdaStart, initramfsAddr])

theorem compatible_ebda_bootParams (area : Ebda) (bp : BootParams) :
    Compatible (ebdaCopy area) (bootParamsCopy bp) :=
  Compatible.of_disjoint (by
    simp [ebdaCopy, bootParamsCopy, ebdaStart, bootParamsAddr])

theorem compatible_ebda_kernel
    (area : Ebda) (kernelFile : List UInt8) :
    Compatible (ebdaCopy area) (kernelCopy kernelFile) :=
  Compatible.of_disjoint (by
    simp [ebdaCopy, kernelCopy, ebdaStart, highmemBase])

theorem compatible_initramfs_bootParams
    (initramfsFile : List UInt8) (bp : BootParams) :
    Compatible (initramfsCopy initramfsFile) (bootParamsCopy bp) :=
  Compatible.of_disjoint (by
    simp [initramfsCopy, bootParamsCopy, initramfsAddr, bootParamsAddr])

theorem compatible_commandLine_bootParams
    (cmdline : List UInt8) (bp : BootParams) :
    Compatible (commandLineCopy cmdline) (bootParamsCopy bp) :=
  Compatible.of_disjoint (by
    simp [commandLineCopy, bootParamsCopy, commandlineAddr,
      bootParamsAddr])

theorem compatible_bootParams_kernel
    (bp : BootParams) (kernelFile : List UInt8) :
    Compatible (bootParamsCopy bp) (kernelCopy kernelFile) :=
  Compatible.of_disjoint (by
    simp [bootParamsCopy, kernelCopy, bootParamsAddr, highmemBase])

theorem compatible_ebda_commandLine_iff
    (area : Ebda) (cmdline : List UInt8) :
    Compatible (ebdaCopy area) (commandLineCopy cmdline) ↔
      Agree ((cmdline ++ [0]).drop (ebdaStart.toNat - commandlineAddr))
        area.bytes := by
  have order : commandlineAddr ≤ ebdaStart.toNat := by decide
  rw [compatible_comm]
  exact compatible_iff_agree order

theorem compatible_initramfs_commandLine_iff
    (initramfsFile cmdline : List UInt8) :
    Compatible (initramfsCopy initramfsFile) (commandLineCopy cmdline) ↔
      Agree ((cmdline ++ [0]).drop (initramfsAddr - commandlineAddr))
        initramfsFile := by
  have order : commandlineAddr ≤ initramfsAddr := by decide
  rw [compatible_comm]
  exact compatible_iff_agree order

theorem compatible_initramfs_kernel_iff
    (initramfsFile kernelFile : List UInt8) :
    Compatible (initramfsCopy initramfsFile) (kernelCopy kernelFile) ↔
      Agree
        ((payloadOf kernelFile).drop (initramfsAddr - highmemBase.toNat))
        initramfsFile := by
  have order : highmemBase.toNat ≤ initramfsAddr := by decide
  rw [compatible_comm]
  exact compatible_iff_agree order

theorem compatible_commandLine_kernel_iff
    (cmdline kernelFile : List UInt8) :
    Compatible (commandLineCopy cmdline) (kernelCopy kernelFile) ↔
      Agree ((cmdline ++ [0]).drop (highmemBase.toNat - commandlineAddr))
        (payloadOf kernelFile) := by
  have order : commandlineAddr ≤ highmemBase.toNat := by decide
  exact compatible_iff_agree order

/-- Only four pairs of pieces can meet. -/
theorem pairwise_piecesOf_iff
    (area : Ebda) (initramfsFile cmdline : List UInt8) (bp : BootParams)
    (kernelFile : List UInt8) :
    (piecesOf area initramfsFile cmdline bp kernelFile).Pairwise
        Compatible ↔
      Compatible (ebdaCopy area) (commandLineCopy cmdline) ∧
        Compatible (initramfsCopy initramfsFile)
          (commandLineCopy cmdline) ∧
        Compatible (initramfsCopy initramfsFile)
          (kernelCopy kernelFile) ∧
        Compatible (commandLineCopy cmdline) (kernelCopy kernelFile) := by
  simp [piecesOf, compatible_ebda_initramfs, compatible_ebda_bootParams,
    compatible_ebda_kernel, compatible_initramfs_bootParams,
    compatible_commandLine_bootParams, compatible_bootParams_kernel]
  tauto

/-- The command line and its NUL may be stored as one piece. -/
theorem storeAll_copiesOf
    (memory : Memory UInt8) (area : Ebda)
    (initramfsFile cmdline : List UInt8) (bp : BootParams)
    (kernelFile : List UInt8) :
    storeAll memory (copiesOf area initramfsFile cmdline bp kernelFile) =
      storeAll memory
        (piecesOf area initramfsFile cmdline bp kernelFile) := by
  simp only [storeAll, copiesOf, piecesOf, List.foldl_cons,
    List.foldl_nil, store_append]
  rfl

theorem below_copiesOf_iff
    (limit : Nat) (area : Ebda) (initramfsFile cmdline : List UInt8)
    (bp : BootParams) (kernelFile : List UInt8) :
    (∀ copy ∈ copiesOf area initramfsFile cmdline bp kernelFile,
        copy.Below limit) ↔
      ebdaStart.toNat + 748 ≤ limit ∧
        commandlineAddr + cmdline.length + 1 ≤ limit ∧
        (initramfsFile = [] ∨
          initramfsAddr + initramfsFile.length ≤ limit) ∧
        (payloadOf kernelFile = [] ∨
          highmemBase.toNat + (payloadOf kernelFile).length ≤
            limit) := by
  have area_ne : area.bytes ≠ [] := by
    rw [← List.length_pos_iff, Ebda.bytes_length]
    decide
  have bp_ne : bp.bytes ≠ [] := by
    rw [← List.length_pos_iff, BootParams.bytes_length]
    decide
  simp only [copiesOf, List.mem_cons, List.not_mem_nil, or_false,
    forall_eq_or_imp, forall_eq, Copy.below_iff, area_ne, bp_ne,
    false_or, Ebda.bytes_length, BootParams.bytes_length,
    List.length_singleton, List.cons_ne_nil]
  have bootParamsLower :
      bootParamsAddr + 0xcd0 ≤ ebdaStart.toNat + 748 := by
    decide
  constructor
  · rintro ⟨ebda, initramfs, _, commandLine, _, kernel⟩
    exact ⟨ebda, commandLine, initramfs, kernel⟩
  · rintro ⟨ebda, commandLine, initramfs, kernel⟩
    exact
      ⟨ebda, initramfs, Or.inr (Nat.le_of_succ_le commandLine),
        commandLine, Nat.le_trans bootParamsLower ebda, kernel⟩

theorem agree_nil (right : List UInt8) : Agree [] right :=
  Or.inl List.nil_prefix

/-- The documented layout: no piece reaches the start of the next one. -/
theorem PiecesFit.of_bounds
    {conf : VmConfig} {cmdline kernelFile initramfsFile : List UInt8}
    (lineShort : commandlineAddr + cmdline.length < ebdaStart.toNat)
    (payloadShort :
      highmemBase.toNat + (payloadOf kernelFile).length ≤ initramfsAddr)
    (ramdiskFits :
      initramfsAddr + initramfsFile.length ≤ conf.ramSize.toNat) :
    PiecesFit conf cmdline kernelFile initramfsFile := by
  have ebdaValue : ebdaStart.toNat = 0x9fc00 := rfl
  have highmemValue : highmemBase.toNat = 0x100000 := rfl
  have initramfsValue : initramfsAddr = 0xf000000 := rfl
  rw [ebdaValue] at lineShort
  rw [highmemValue, initramfsValue] at payloadShort
  rw [initramfsValue] at ramdiskFits
  have lineDropped (start : Nat) (above : 0x9fc00 ≤ start) :
      (cmdline ++ [0]).drop (start - commandlineAddr) = [] := by
    apply List.drop_of_length_le
    rw [List.length_append, List.length_singleton]
    omega
  have payloadDropped :
      (payloadOf kernelFile).drop (initramfsAddr - highmemBase.toNat) =
        [] := by
    apply List.drop_of_length_le
    rw [highmemValue, initramfsValue]
    omega
  constructor
  · rw [ebdaValue]
    omega
  · omega
  · exact Or.inr ramdiskFits
  · rw [highmemValue]
    exact Or.inr (by omega)
  · intro area _
    rw [lineDropped _ (Nat.le_of_eq ebdaValue.symm)]
    exact agree_nil _
  · rw [lineDropped _ (by rw [highmemValue]; omega)]
    exact agree_nil _
  · rw [lineDropped _ (by rw [initramfsValue]; omega)]
    exact agree_nil _
  · rw [payloadDropped]
    exact agree_nil _

/-- A command line which reaches the data area with another byte breaks it. -/
theorem not_piecesFit_of_long_line
    {conf : VmConfig} {area : Ebda}
    {cmdline kernelFile initramfsFile : List UInt8} {byte : UInt8}
    (generated : genEbda conf.vcpuNum = some area)
    (reaches :
      cmdline[ebdaStart.toNat - commandlineAddr]? = some byte)
    (differs : area.bytes[0]? ≠ some byte) :
    ¬ PiecesFit conf cmdline kernelFile initramfsFile := by
  intro fit
  have agree := fit.commandLineIntoEbda area generated
  rw [agree_iff_getElem?] at agree
  have bound : 0 < area.bytes.length := by
    rw [Ebda.bytes_length]
    decide
  have first : area.bytes[0]? = some area.bytes[0] :=
    List.getElem?_eq_getElem bound
  have inLine :
      ((cmdline ++ [0]).drop (ebdaStart.toNat - commandlineAddr))[0]? =
        some byte := by
    rw [List.getElem?_drop, Nat.add_zero, List.getElem?_append_left, reaches]
    exact (List.getElem?_eq_some_iff.mp reaches).1
  have equal := agree 0 byte area.bytes[0] inLine first
  exact differs (by rw [first, equal])

/-! ## Successful loads -/

/-- After the copies of a load, its pieces are all in place if they fit. -/
theorem intact_after_iff
    {conf : VmConfig} {area : Ebda} {bp : BootParams}
    (cmdline kernelFile initramfsFile : List UInt8)
    (memory : Memory UInt8) (kernel initramfs : IfStream)
    (generated : genEbda conf.vcpuNum = some area)
    (filled :
      fillBootParams conf initramfsFile.length
        (setupHeaderOf kernelFile) = some bp) :
    Intact conf cmdline kernelFile initramfsFile
        (.after memory
          (copiesOf area initramfsFile cmdline bp kernelFile)
          kernel initramfs) ↔
      PiecesFit conf cmdline kernelFile initramfsFile := by
  have inside :=
    below_copiesOf_iff conf.ramSize.toNat area initramfsFile cmdline bp
      kernelFile
  have held :=
    (holds_storeAll_iff memory
      (piecesOf area initramfsFile cmdline bp kernelFile)).trans
        (pairwise_piecesOf_iff area initramfsFile cmdline bp kernelFile)
  rw [← storeAll_copiesOf, compatible_ebda_commandLine_iff,
    compatible_initramfs_commandLine_iff,
    compatible_initramfs_kernel_iff,
    compatible_commandLine_kernel_iff] at held
  constructor
  · intro intact
    rcases intact.ebda with ⟨_, sameGenerated, ebdaHolds⟩
    rcases intact.bootParams with ⟨_, sameFilled, bootParamsHold⟩
    rcases Option.some.inj (generated.symm.trans sameGenerated) with rfl
    rcases Option.some.inj (filled.symm.trans sameFilled) with rfl
    have fits := inside.mp intact.insideRam
    have agree := held.mp (by
      simp only [piecesOf, List.mem_cons, List.not_mem_nil, or_false,
        forall_eq_or_imp, forall_eq]
      exact
        ⟨ebdaHolds, intact.initramfs, intact.commandLine, bootParamsHold,
          intact.kernel⟩)
    exact
      { ebdaFits := fits.1
        commandLineFits := fits.2.1
        initramfsFits := fits.2.2.1
        kernelFits := fits.2.2.2
        commandLineIntoEbda := fun other otherGenerated => by
          rcases Option.some.inj (generated.symm.trans otherGenerated)
            with rfl
          exact agree.1
        commandLineIntoInitramfs := agree.2.1
        kernelIntoInitramfs := agree.2.2.1
        commandLineIntoKernel := agree.2.2.2 }
  · intro fit
    have holds := held.mpr
      ⟨fit.commandLineIntoEbda area generated,
        fit.commandLineIntoInitramfs, fit.kernelIntoInitramfs,
        fit.commandLineIntoKernel⟩
    exact
      { insideRam := inside.mpr
          ⟨fit.ebdaFits, fit.commandLineFits, fit.initramfsFits,
            fit.kernelFits⟩
        ebda := ⟨area, generated, holds _ (by simp [piecesOf])⟩
        initramfs := holds _ (by simp [piecesOf])
        commandLine := holds _ (by simp [piecesOf])
        bootParams := ⟨bp, filled, holds _ (by simp [piecesOf])⟩
        kernel := holds _ (by simp [piecesOf]) }

/-- A successful load leaves everything in place exactly when the pieces fit. -/
theorem initRam_intact_iff
    {conf : VmConfig} {buf : Vector UInt8 4}
    {cmdline kernelFile initramfsFile : List UInt8}
    {memory : Memory UInt8}
    (returned :
      (initRam conf cmdline
        (.constructed buf kernelFile initramfsFile memory)).1 =
          .returned 0) :
    Intact conf cmdline kernelFile initramfsFile
        (initRam conf cmdline
          (.constructed buf kernelFile initramfsFile memory)).2 ↔
      PiecesFit conf cmdline kernelFile initramfsFile := by
  rcases loadable_of_returned_zero returned with
    ⟨⟨area, generated⟩, loadable, protectedMode⟩
  rcases fillBootParams_maps conf initramfsFile.length
      (setupHeaderOf kernelFile) with
    ⟨bp, filled, -, -⟩
  rw [initRam_of_loadable cmdline buf memory generated filled loadable
    protectedMode]
  exact intact_after_iff cmdline kernelFile initramfsFile memory _ _
    generated filled

/-- A kernel file of one setup sector and a short payload. -/
def smallKernel : List UInt8 :=
  List.replicate 0x1f1 0 ++ [1] ++ List.replicate 16 0 ++
    [0x48, 0x64, 0x72, 0x53] ++ List.replicate 600 0

theorem smallKernel_loadable : Loadable smallKernel := by
  constructor
  · decide +kernel
  · decide +kernel
  · decide +kernel

/-- A machine of one virtual CPU. -/
def smallConf (ramSize : UInt64) : VmConfig where
  vcpuNum := 1
  ramSize := ramSize
  is64bitBoot := false

/-- The initramfs of the small machine. -/
def smallInitramfs : List UInt8 := [1, 2, 3]

/-- The files which the small machine boots from. -/
def smallBoot : BootState :=
  .constructed (.replicate 4 0) smallKernel smallInitramfs fun _ => 0

theorem smallBoot_generated (ramSize : UInt64) :
    ∃ area, genEbda (smallConf ramSize).vcpuNum = some area ∧
      area.bytes[0]? = some 0 :=
  have within : 1 ≤ mpMaxVcpuNum := by decide
  genEbda_first_byte within

theorem smallBoot_returned (ramSize : UInt64) (cmdline : List UInt8) :
    (initRam (smallConf ramSize) cmdline smallBoot).1 = .returned 0 := by
  rcases smallBoot_generated ramSize with ⟨area, generated, _⟩
  rcases fillBootParams_maps (smallConf ramSize) smallInitramfs.length
      (setupHeaderOf smallKernel) with
    ⟨bp, filled, -, -⟩
  rw [smallBoot, initRam_of_loadable cmdline _ _ generated filled
    smallKernel_loadable rfl]

/-- The small machine boots with everything in place. -/
theorem smallBoot_intact :
    (initRam (smallConf 0x10000000) [0x61] smallBoot).1 = .returned 0 ∧
      Intact (smallConf 0x10000000) [0x61] smallKernel smallInitramfs
        (initRam (smallConf 0x10000000) [0x61] smallBoot).2 :=
  ⟨smallBoot_returned _ _,
    (initRam_intact_iff (smallBoot_returned _ _)).mpr
      (.of_bounds (by decide) (by decide +kernel) (by decide))⟩

/-- A command line one byte too long for the space below the data area. -/
def longLine : List UInt8 :=
  List.replicate 0x7fc01 0x61

/-- The load succeeds, but the command line has overwritten the data area. -/
theorem smallBoot_not_intact :
    (initRam (smallConf 0x40000000) longLine smallBoot).1 = .returned 0 ∧
      ¬ Intact (smallConf 0x40000000) longLine smallKernel smallInitramfs
          (initRam (smallConf 0x40000000) longLine smallBoot).2 := by
  refine ⟨smallBoot_returned _ _, ?_⟩
  rcases smallBoot_generated 0x40000000 with ⟨area, generated, first⟩
  rcases fillBootParams_maps (smallConf 0x40000000) smallInitramfs.length
      (setupHeaderOf smallKernel) with
    ⟨bp, filled, -, -⟩
  have inside : ebdaStart.toNat - commandlineAddr < 0x7fc01 := by decide
  have reaches :
      longLine[ebdaStart.toNat - commandlineAddr]? = some 0x61 := by
    rw [longLine, List.getElem?_replicate, if_pos inside]
  rw [smallBoot, initRam_of_loadable longLine _ _ generated filled
    smallKernel_loadable rfl,
    intact_after_iff _ _ _ _ _ _ generated filled]
  apply not_piecesFit_of_long_line generated reaches
  rw [first]
  decide

end Lvmm.Vm.BootLayout
