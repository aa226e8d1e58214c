import Lvmm.Library.PackedRecord

/-!
# The records of the boot protocol

`setup_header`, `e820entry` and `boot_params` with their packed layout.  The setup
header is read as raw bytes from the kernel file, so it is a packed record over
its declared fields; `boot_params` embeds it.  `add_e820_entry` indexes a fixed
array by a counter; an index beyond the array is a write outside it.
-/

namespace Lvmm.Boot.BootProtocol

open Lvmm.Library.LittleEndian
open Lvmm.Library.PackedRecord

def bootEddMbrSigMax : Nat := 16
def bootE820MapMax : Nat := 128
def bootE820TypeRam : UInt32 := 1
def bootE820TypeReserved : UInt32 := 2
def bootHdrMagic : Nat := 0x53726448

/-- The fields of `setup_header`. -/
inductive SetupHeaderField where
  | setupSects
  | rootFlags
  | sysSize
  | ramSize
  | vidMode
  | rootDev
  | bootFlag
  | jump
  | header
  | version
  | realmodeSwtch
  | startSysSeg
  | kernelVersion
  | typeOfLoader
  | loadflags
  | setupMoveSize
  | code32Start
  | ramdiskImage
  | ramdiskSize
  | bootsectKludge
  | heapEndPtr
  | extLoaderVer
  | extLoaderType
  | cmdLinePtr
  | initrdAddrMax
  | kernelAlignmnet
  | relocatableKernel
  | minAlignment
  | xloadflags
  | cmdlineSize
  | hardwareSubarch
  | hardwareSubarchData
  | paylopadOffset
  | payloadLength
  | setupData
  | prefAddress
  | initSize
  | handoverOffset
  | kernelInfoOffset
deriving DecidableEq

/-- `setup_header` as declared. -/
def setupHeaderLayout : Layout SetupHeaderField :=
  [ (.setupSects, 1),
    (.rootFlags, 2),
    (.sysSize, 4),
    (.ramSize, 2),
    (.vidMode, 2),
    (.rootDev, 2),
    (.bootFlag, 2),
    (.jump, 2),
    (.header, 4),
    (.version, 2),
    (.realmodeSwtch, 4),
    (.startSysSeg, 2),
    (.kernelVersion, 2),
    (.typeOfLoader, 1),
    (.loadflags, 1),
    (.setupMoveSize, 2),
    (.code32Start, 4),
    (.ramdiskImage, 4),
    (.ramdiskSize, 4),
    (.bootsectKludge, 4),
    (.heapEndPtr, 2),
    (.extLoaderVer, 1),
    (.extLoaderType, 1),
    (.cmdLinePtr, 4),
    (.initrdAddrMax, 4),
    (.kernelAlignmnet, 4),
    (.relocatableKernel, 1),
    (.minAlignment, 1),
    (.xloadflags, 2),
    (.cmdlineSize, 4),
    (.hardwareSubarch, 4),
    (.hardwareSubarchData, 8),
    (.paylopadOffset, 4),
    (.payloadLength, 4),
    (.setupData, 8),
    (.prefAddress, 8),
    (.initSize, 4),
    (.handoverOffset, 4),
    (.kernelInfoOffset, 4) ]

/-- `setup_header`. -/
abbrev SetupHeader := Record setupHeaderLayout

/-- `sizeof(setup_header)`. -/
theorem setupHeaderLayout_size : setupHeaderLayout.size = 123 :=
  rfl

/-- `setup_header::is_valid`. -/
def SetupHeader.isValid (header : SetupHeader) : Bool :=
  header.get .header == bootHdrMagic

/-- `setup_header::check_setup_sects`. -/
def SetupHeader.checkSetupSects (header : SetupHeader) : Bool × SetupHeader :=
  if header.get .setupSects = 0 then (true, header.set .setupSects 4)
  else (false, header)

/-- `e820entry`. -/
structure E820entry where
  addr : UInt64 := 0
  size : UInt64 := 0
  type : UInt32 := 0
deriving DecidableEq

/-- The bytes of a memory map entry. -/
def E820entry.bytes (entry : E820entry) : List UInt8 :=
  bytesOfNat 8 entry.addr.toNat ++ bytesOfNat 8 entry.size.toNat ++
    bytesOfNat 4 entry.type.toNat

/-- The length of `padding2`. -/
def padding2Size : Nat := 0x290 - 0x1f1 - setupHeaderLayout.size

/-- `boot_params`. -/
structure BootParams where
  padding0 : Vector UInt8 0x1e8 := .replicate 0x1e8 0
  e820Entries : UInt8 := 0
  eddBufEntries : UInt8 := 0
  eddMbrSigBufEntries : UInt8 := 0
  kbdStatus : UInt8 := 0
  padding1 : Vector UInt8 0x5 := .replicate 0x5 0
  header : SetupHeader := .zero setupHeaderLayout
  padding2 : Vector UInt8 padding2Size := .replicate padding2Size 0
  eddMbrSigBuf : Vector UInt32 bootEddMbrSigMax :=
    .replicate bootEddMbrSigMax 0
  e820map : Vector E820entry bootE820MapMax :=
    .replicate bootE820MapMax {}

/-- The bytes of `boot_params`. -/
def BootParams.bytes (bp : BootParams) : List UInt8 :=
  bp.padding0.toList ++
    [bp.e820Entries, bp.eddBufEntries, bp.eddMbrSigBufEntries,
      bp.kbdStatus] ++
    bp.padding1.toList ++
    bp.header.bytes.toList ++
    bp.padding2.toList ++
    bp.eddMbrSigBuf.toList.flatMap
      (fun signature => bytesOfNat 4 signature.toNat) ++
    bp.e820map.toList.flatMap E820entry.bytes

/--
`boot_params::add_e820_entry`.  The outcome is `none` when the entry would be
written beyond the map.
-/
def BootParams.addE820Entry
    (bp : BootParams) (addr size : UInt64) (type : UInt32) :
    Option BootParams :=
  if inside : bp.e820Entries.toNat < bootE820MapMax then
    some
      { bp with
        e820map :=
          bp.e820map.set bp.e820Entries.toNat { addr, size, type } inside
        e820Entries := bp.e820Entries + 1 }
  else none

/-! ## Sizes -/

@[simp]
theorem E820entry.bytes_length (entry : E820entry) :
    entry.bytes.length = 20 := by
  simp [E820entry.bytes]

/-- `sizeof(boot_params)`, a page less its tail. -/
@[simp]
theorem BootParams.bytes_length (bp : BootParams) :
    bp.bytes.length = 0xcd0 := by
  have header : bp.header.bytes.toList.length = 123 :=
    Vector.length_toList
  have padding2 : bp.padding2.toList.length = 36 :=
    Vector.length_toList
  have signatures :
      (bp.eddMbrSigBuf.toList.flatMap
        fun signature => bytesOfNat 4 signature.toNat).length = 64 := by
    have count : bp.eddMbrSigBuf.toList.length = 16 :=
      Vector.length_toList
    simp [List.length_flatMap, List.map_const', count]
  have entries :
      (bp.e820map.toList.flatMap E820entry.bytes).length = 2560 := by
    have count : bp.e820map.toList.length = 128 :=
      Vector.length_toList
    simp [List.length_flatMap, List.map_const', count]
  simp only [BootParams.bytes, List.length_append, header, padding2,
    signatures, entries, Vector.length_toList, List.length_cons,
    List.length_nil]

/-! ## Setup sectors -/

/-- A header without a number of setup sectors gets the default one. -/
theorem SetupHeader.setupSects_checkSetupSects (header : SetupHeader) :
    header.checkSetupSects.2.get .setupSects =
      if header.get .setupSects = 0 then 4
      else header.get .setupSects := by
  rw [SetupHeader.checkSetupSects]
  split_ifs with missing
  · exact Record.get_set_same header .setupSects 4
  · rfl

/-! ## The memory map -/

/-- The entries which were added to the map. -/
def BootParams.entries (bp : BootParams) : List E820entry :=
  bp.e820map.toList.take bp.e820Entries.toNat

/-- The members besides the header and the map are zero. -/
structure BootParams.Blank (bp : BootParams) : Prop where
  padding0 : bp.padding0 = .replicate 0x1e8 0
  eddBufEntries : bp.eddBufEntries = 0
  eddMbrSigBufEntries : bp.eddMbrSigBufEntries = 0
  kbdStatus : bp.kbdStatus = 0
  padding1 : bp.padding1 = .replicate 0x5 0
  padding2 : bp.padding2 = .replicate padding2Size 0
  eddMbrSigBuf : bp.eddMbrSigBuf = .replicate bootEddMbrSigMax 0

/-- Nothing was stored but a header and the leading entries of the map. -/
structure BootParams.Maps
    (bp : BootParams) (entries : List E820entry) : Prop where
  count : bp.e820Entries.toNat = entries.length
  stored : bp.e820map.toList =
    entries ++
      List.replicate (bootE820MapMax - entries.length) ({} : E820entry)
  blank : bp.Blank

theorem BootParams.Maps.nil (header : SetupHeader) :
    BootParams.Maps { header } [] :=
  ⟨rfl, rfl, ⟨rfl, rfl, rfl, rfl, rfl, rfl, rfl⟩⟩

theorem BootParams.Maps.withHeader
    {bp : BootParams} {entries : List E820entry} (maps : bp.Maps entries)
    (header : SetupHeader) :
    BootParams.Maps { bp with header } entries :=
  ⟨maps.count, maps.stored,
    ⟨maps.blank.padding0, maps.blank.eddBufEntries,
      maps.blank.eddMbrSigBufEntries, maps.blank.kbdStatus,
      maps.blank.padding1, maps.blank.padding2,
      maps.blank.eddMbrSigBuf⟩⟩

theorem BootParams.Maps.entries_eq
    {bp : BootParams} {entries : List E820entry} (maps : bp.Maps entries) :
    bp.entries = entries := by
  rw [BootParams.entries, maps.count, maps.stored, List.take_left]

/-- An entry is added behind the others whenever the map has room. -/
theorem BootParams.Maps.addE820Entry
    {bp : BootParams} {entries : List E820entry} (maps : bp.Maps entries)
    (addr size : UInt64) (type : UInt32)
    (room : entries.length < bootE820MapMax) :
    ∃ after, bp.addE820Entry addr size type = some after ∧
      after.Maps (entries ++ [(⟨addr, size, type⟩ : E820entry)]) ∧
      after.header = bp.header := by
  rcases maps with ⟨count, stored, blank⟩
  have inside : bp.e820Entries.toNat < bootE820MapMax := by
    rw [count]
    exact room
  refine ⟨_, dif_pos inside, ⟨?_, ?_, ?_⟩, rfl⟩
  · rw [UInt8.toNat_add, count, List.length_append]
    rw [bootE820MapMax] at room
    exact Nat.mod_eq_of_lt (by simp; omega)
  · have spare : bootE820MapMax - entries.length =
        bootE820MapMax - (entries.length + 1) + 1 := by
      omega
    rw [Vector.toList_set, stored, count, spare, List.replicate_succ,
      List.set_append_right _ _ (Nat.le_refl _)]
    simp
  · exact ⟨blank.padding0, blank.eddBufEntries, blank.eddMbrSigBufEntries,
      blank.kbdStatus, blank.padding1, blank.padding2, blank.eddMbrSigBuf⟩

/-! ## The bytes of `boot_params` -/

theorem flatMap_bytes_length (entries : List E820entry) :
    (entries.flatMap E820entry.bytes).length = 20 * entries.length := by
  induction entries with
  | nil => rfl
  | cons entry rest induction =>
      rw [List.flatMap_cons, List.length_append, induction,
        E820entry.bytes_length, List.length_cons]
      omega

theorem flatMap_bytes_unused (count : Nat) :
    (List.replicate count ({} : E820entry)).flatMap E820entry.bytes =
      List.replicate (20 * count) 0 := by
  have blank : E820entry.bytes {} = List.replicate 20 0 := by decide
  induction count with
  | zero => rfl
  | succ count induction =>
      rw [List.replicate_succ, List.flatMap_cons, induction, blank,
        List.replicate_append_replicate, Nat.mul_succ, Nat.add_comm]

/-- The bytes of a `boot_params` whose map has some entries. -/
theorem BootParams.Maps.bytes_eq
    {bp : BootParams} {entries : List E820entry} (maps : bp.Maps entries) :
    bp.bytes =
      List.replicate 0x1e8 0 ++
        ([bp.e820Entries] ++
          (List.replicate 8 0 ++
            (bp.header.bytes.toList ++
              (List.replicate 100 0 ++
                (entries.flatMap E820entry.bytes ++
                  List.replicate
                    (20 * (bootE820MapMax - entries.length)) 0))))) := by
  rcases maps with ⟨count, stored, blank⟩
  have signatures :
      (List.replicate bootEddMbrSigMax (0 : UInt32)).flatMap
          (fun signature => bytesOfNat 4 signature.toNat) =
        List.replicate 64 0 := by
    decide
  have padding : List.replicate 100 (0 : UInt8) =
      List.replicate padding2Size 0 ++ List.replicate 64 0 := by
    decide
  rw [BootParams.bytes, blank.padding0, blank.eddBufEntries,
    blank.eddMbrSigBufEntries, blank.kbdStatus, blank.padding1,
    blank.padding2, blank.eddMbrSigBuf, stored]
  simp only [Vector.toList_replicate, signatures, padding,
    List.flatMap_append, flatMap_bytes_unused, List.append_assoc,
    List.cons_append, List.nil_append]
  rfl

/-- Skip a front of known length. -/
theorem getElem?_append_skip
    {front back : List UInt8} {skip : Nat} (length : front.length = skip)
    (index : Nat) :
    (front ++ back)[skip + index]? = back[index]? := by
  rw [List.getElem?_append_right (by omega), length,
    Nat.add_sub_cancel_left]

theorem getElem?_append_zeros
    {count index : Nat} (inside : index < count) (back : List UInt8) :
    (List.replicate count 0 ++ back)[index]? = some 0 := by
  rw [List.getElem?_append_left (by rwa [List.length_replicate]),
    List.getElem?_replicate_of_lt inside]

theorem BootParams.header_bytes_length (bp : BootParams) :
    bp.header.bytes.toList.length = 123 :=
  Vector.length_toList

section Bytes

variable {bp : BootParams} {entries : List E820entry}

theorem BootParams.Maps.getElem?_count (maps : bp.Maps entries) :
    bp.bytes[0x1e8]? = some bp.e820Entries := by
  have position : 0x1e8 = 0x1e8 + 0 := rfl
  rw [maps.bytes_eq, position, getElem?_append_skip List.length_replicate]
  rfl

/-- The bytes from the header on. -/
theorem BootParams.Maps.getElem?_from_header
    (maps : bp.Maps entries) (index : Nat) :
    bp.bytes[0x1f1 + index]? =
      (bp.header.bytes.toList ++
        (List.replicate 100 0 ++
          (entries.flatMap E820entry.bytes ++
            List.replicate
              (20 * (bootE820MapMax - entries.length)) 0)))[index]? := by
  have position : 0x1f1 + index = 0x1e8 + (1 + (8 + index)) := by omega
  rw [maps.bytes_eq, position, getElem?_append_skip List.length_replicate,
    getElem?_append_skip List.length_singleton,
    getElem?_append_skip List.length_replicate]

/-- The bytes from the map on. -/
theorem BootParams.Maps.getElem?_from_map
    (maps : bp.Maps entries) (index : Nat) :
    bp.bytes[0x2d0 + index]? =
      (entries.flatMap E820entry.bytes ++
        List.replicate (20 * (bootE820MapMax - entries.length)) 0)[index]? := by
  have position : 0x2d0 + index = 0x1f1 + (123 + (100 + index)) := by omega
  rw [position, maps.getElem?_from_header,
    getElem?_append_skip bp.header_bytes_length,
    getElem?_append_skip List.length_replicate]

/-- The header lies at its offset. -/
theorem BootParams.Maps.getElem?_header
    (maps : bp.Maps entries) {index : Nat}
    (inside : index < setupHeaderLayout.size) :
    bp.bytes[0x1f1 + index]? = some (bp.header.byteAt index) := by
  rw [maps.getElem?_from_header,
    List.getElem?_append_left (by rwa [bp.header_bytes_length])]
  simp [Record.byteAt, inside]

/-- The entries of the map lie behind one another. -/
theorem BootParams.Maps.getElem?_entries
    (maps : bp.Maps entries) {index : Nat}
    (inside : index < 20 * entries.length) :
    bp.bytes[0x2d0 + index]? =
      (entries.flatMap E820entry.bytes)[index]? := by
  rw [maps.getElem?_from_map,
    List.getElem?_append_left (by rwa [flatMap_bytes_length])]

/-- Everything else is zero. -/
theorem BootParams.Maps.getElem?_blank
    (maps : bp.Maps entries) {index : Nat}
    (inside : index < 0xcd0) (notCount : index ≠ 0x1e8)
    (notHeader : index < 0x1f1 ∨ 0x26c ≤ index)
    (notEntries : index < 0x2d0 ∨ 0x2d0 + 20 * entries.length ≤ index) :
    bp.bytes[index]? = some 0 := by
  have regions : index < 0x1e8 ∨
      (∃ offset, offset < 8 ∧ index = 0x1e8 + (1 + offset)) ∨
      (∃ offset, offset < 100 ∧ index = 0x1f1 + (123 + offset)) ∨
      ∃ offset, offset < 20 * (bootE820MapMax - entries.length) ∧
        index = 0x2d0 + (20 * entries.length + offset) := by
    by_cases front : index < 0x1e8
    · exact .inl front
    · by_cases padding : index < 0x1f1
      · exact .inr (.inl ⟨index - 0x1e9, by omega, by omega⟩)
      · by_cases behind : index < 0x2d0
        · exact .inr (.inr (.inl ⟨index - 0x26c, by omega, by omega⟩))
        · exact .inr (.inr (.inr
            ⟨index - (0x2d0 + 20 * entries.length),
              by rw [bootE820MapMax]; omega, by omega⟩))
  rcases regions with front | ⟨offset, bound, rfl⟩ | ⟨offset, bound, rfl⟩ |
    ⟨offset, bound, rfl⟩
  · rw [maps.bytes_eq, getElem?_append_zeros front]
  · rw [maps.bytes_eq, getElem?_append_skip List.length_replicate,
      getElem?_append_skip List.length_singleton, getElem?_append_zeros bound]
  · rw [maps.getElem?_from_header,
      getElem?_append_skip bp.header_bytes_length,
      getElem?_append_zeros bound]
  · rw [maps.getElem?_from_map,
      getElem?_append_skip (flatMap_bytes_length entries),
      List.getElem?_replicate_of_lt bound]

end Bytes

end Lvmm.Boot.BootProtocol
