import Lvmm.Library.LittleEndian

/-!
# The PCI configuration address

`PCI::config_addr_out` latches the four bytes at `data_ptr`.
`PCI::config_addr_in` loads the same four bytes and stores the lowest of them
back, so it leaves the buffer as it was and never consults the latch.
-/

namespace Lvmm.Device.PciConfig

open Lvmm.Library.LittleEndian

def pciAddrSize : UInt8 := 4

def pciAddrOffsetMask : UInt32 := 0x000000FC
def pciAddrFuncMask : UInt32 := 0x00000700
def pciAddrDevMask : UInt32 := 0x0000F800
def pciAddrBusMask : UInt32 := 0x00FF0000

def pciAddrFuncBit : UInt32 := 8
def pciAddrDevBit : UInt32 := 11
def pciAddrBusBit : UInt32 := 16
def pciAddrEnableBit : UInt32 := 31

/-- `PCI`; nothing reads the list of its devices. -/
structure Pci where
  addr : UInt32
deriving DecidableEq

namespace Pci

/-- `PCI::is_addr_enable`. -/
def isAddrEnable (pci : Pci) : Bool :=
  ((pci.addr >>> pciAddrEnableBit) &&& 1) == 1

/-- `PCI::get_offset`. -/
def getOffset (pci : Pci) : UInt32 :=
  pci.addr &&& pciAddrOffsetMask

/-- `PCI::get_func`. -/
def getFunc (pci : Pci) : UInt32 :=
  (pci.addr &&& pciAddrFuncMask) >>> pciAddrFuncBit

/-- `PCI::get_dev`. -/
def getDev (pci : Pci) : UInt32 :=
  (pci.addr &&& pciAddrDevMask) >>> pciAddrDevBit

/-- `PCI::get_bus`. -/
def getBus (pci : Pci) : UInt32 :=
  (pci.addr &&& pciAddrBusMask) >>> pciAddrBusBit

end Pci

/-- The four bytes at `data_ptr`. -/
abbrev Buffer := Vector UInt8 4

/-- `*addr_ptr`, where `addr_ptr` is `data_ptr` as a `uint32_t*`. -/
def Buffer.word (buffer : Buffer) : UInt32 :=
  .ofNat (natOfBytes buffer.toList)

/-- What a call returned, and what it left in the buffer and the latch. -/
structure CallRun where
  result : Int
  buffer : Buffer
  pci : Pci
deriving DecidableEq

/-- `PCI::config_addr_in`: `*data_ptr = *addr_ptr` stores one byte. -/
def Pci.configAddrIn (pci : Pci) (buffer : Buffer) (size : UInt8) :
    CallRun :=
  if size ≠ pciAddrSize then { result := 1, buffer, pci }
  else
    { result := 0, pci
      buffer := buffer.set 0 buffer.word.toUInt8 (Nat.succ_pos 3) }

/-- `PCI::config_addr_out`. -/
def Pci.configAddrOut (pci : Pci) (buffer : Buffer) (size : UInt8) :
    CallRun :=
  if size ≠ pciAddrSize then { result := 1, buffer, pci }
  else { result := 0, buffer, pci := { addr := buffer.word } }

/-- One call, with the contents of its buffer. -/
inductive PciCall where
  | configAddrIn (buffer : Buffer) (size : UInt8)
  | configAddrOut (buffer : Buffer) (size : UInt8)
deriving DecidableEq

namespace PciCall

def run (call : PciCall) (pci : Pci) : CallRun :=
  match call with
  | .configAddrIn buffer size => pci.configAddrIn buffer size
  | .configAddrOut buffer size => pci.configAddrOut buffer size

def buffer : PciCall → Buffer
  | .configAddrIn buffer _ => buffer
  | .configAddrOut buffer _ => buffer

def size : PciCall → UInt8
  | .configAddrIn _ size => size
  | .configAddrOut _ size => size

/-- The value which a `config_addr_out` of size 4 writes. -/
def written : PciCall → Option UInt32
  | .configAddrIn .. => none
  | .configAddrOut buffer size =>
      if size = pciAddrSize then some buffer.word else none

end PciCall

/-- The latch after a sequence of calls. -/
def afterCalls (pci : Pci) (calls : List PciCall) : Pci :=
  calls.foldl (fun current call => (call.run current).pci) pci

/-- The value of the last `config_addr_out` of size 4. -/
def lastWritten (calls : List PciCall) : Option UInt32 :=
  calls.reverse.findSome? PciCall.written

/-! ## One call -/

theorem Buffer.toNat_word (buffer : Buffer) :
    buffer.word.toNat = natOfBytes buffer.toList := by
  have bound := natOfBytes_lt buffer.toList
  rw [Vector.length_toList] at bound
  exact UInt32.toNat_ofNat_of_lt' bound

/-- The word of a buffer, laid out, is the buffer. -/
theorem Buffer.bytesOfNat_word (buffer : Buffer) :
    bytesOfNat 4 buffer.word.toNat = buffer.toList := by
  have laid := bytesOfNat_natOfBytes buffer.toList
  rw [Vector.length_toList] at laid
  rw [toNat_word, laid]

/-- Storing the lowest byte of the buffer's own word changes nothing. -/
theorem Buffer.set_word (buffer : Buffer) :
    buffer.set 0 buffer.word.toUInt8 = buffer := by
  have lowest : buffer.word.toUInt8 = buffer[0] := by
    have first : bytesOfNat 4 buffer.word.toNat =
        buffer.word.toUInt8 :: bytesOfNat 3 (buffer.word.toNat / 256) := rfl
    rw [bytesOfNat_word] at first
    have head := congrArg (fun bytes => bytes[0]?) first
    simpa using head.symm
  rw [lowest, Vector.set_getElem_self]

/-- Reading the address returns 0 and does nothing. -/
theorem configAddrIn_eq (pci : Pci) (buffer : Buffer) :
    pci.configAddrIn buffer pciAddrSize = { result := 0, buffer, pci } := by
  rw [Pci.configAddrIn, if_neg (by simp), Buffer.set_word]

/-- A call of another size fails and changes nothing. -/
theorem run_of_refused
    {call : PciCall} (refused : call.size ≠ pciAddrSize) (pci : Pci) :
    call.run pci = { result := 1, buffer := call.buffer, pci } := by
  cases call with
  | configAddrIn buffer size => exact if_pos refused
  | configAddrOut buffer size => exact if_pos refused

/-- The latch takes what a call writes, and stays as it is otherwise. -/
theorem run_pci_addr (call : PciCall) (pci : Pci) :
    (call.run pci).pci.addr = call.written.getD pci.addr := by
  cases call with
  | configAddrIn buffer size =>
      simp only [PciCall.run, Pci.configAddrIn, PciCall.written]
      split_ifs
      · rfl
      · rfl
  | configAddrOut buffer size =>
      by_cases whole : size = pciAddrSize
      · simp [PciCall.run, Pci.configAddrOut, PciCall.written, whole]
      · simp [PciCall.run, Pci.configAddrOut, PciCall.written, whole]

/-! ## Sequences of calls -/

theorem lastWritten_append (calls : List PciCall) (call : PciCall) :
    lastWritten (calls ++ [call]) =
      call.written.or (lastWritten calls) := by
  rw [lastWritten, List.reverse_append, List.reverse_singleton,
    List.singleton_append, List.findSome?_cons, lastWritten]
  cases call.written with
  | some value => rfl
  | none => rfl

/-- The latch holds the value of the last whole write. -/
theorem addr_afterCalls (pci : Pci) (calls : List PciCall) :
    (afterCalls pci calls).addr = (lastWritten calls).getD pci.addr := by
  induction calls using List.reverseRecOn with
  | nil => rfl
  | append_singleton front last induction =>
      have final :
          afterCalls pci (front ++ [last]) =
            (last.run (afterCalls pci front)).pci := by
        rw [afterCalls, List.foldl_append]
        rfl
      rw [final, run_pci_addr, induction, lastWritten_append]
      cases last.written with
      | some value => rfl
      | none => rfl

/--
Over a sequence of calls, every whole read after a whole write returns 0, fills
its buffer with the value of the last such write and leaves the latch alone;
every call of another size fails and changes nothing.
-/
def ReadsBack (start : Pci) (calls : List PciCall) : Prop :=
  ∀ before call later, calls = before ++ call :: later →
    (∀ buffer value, call = .configAddrIn buffer pciAddrSize →
      lastWritten before = some value →
        (call.run (afterCalls start before)).result = 0 ∧
          (call.run (afterCalls start before)).buffer.toList =
            bytesOfNat 4 value.toNat ∧
          (call.run (afterCalls start before)).pci =
            afterCalls start before) ∧
      (call.size ≠ pciAddrSize →
        (call.run (afterCalls start before)).result ≠ 0 ∧
          (call.run (afterCalls start before)).buffer = call.buffer ∧
          (call.run (afterCalls start before)).pci =
            afterCalls start before)

/--
The address reads back exactly when the buffer of every whole read after a whole
write holds the value of the last such write before the call.
-/
theorem readsBack_iff (start : Pci) (calls : List PciCall) :
    ReadsBack start calls ↔
      ∀ before buffer later value,
        calls = before ++ .configAddrIn buffer pciAddrSize :: later →
          lastWritten before = some value →
            buffer.word = value := by
  constructor
  · intro readsBack before buffer later value split last
    rcases (readsBack before _ later split).1 buffer value rfl last with
      ⟨-, filled, -⟩
    rw [PciCall.run, configAddrIn_eq, ← Buffer.bytesOfNat_word] at filled
    have sameNumber := congrArg natOfBytes filled
    rw [natOfBytes_bytesOfNat_of_lt buffer.word.toNat_lt,
      natOfBytes_bytesOfNat_of_lt value.toNat_lt] at sameNumber
    exact UInt32.toNat_inj.mp sameNumber
  · intro holding before call later split
    refine ⟨?_, ?_⟩
    · rintro buffer value rfl last
      have word : buffer.word = value :=
        holding before buffer later value split last
      rw [PciCall.run, configAddrIn_eq]
      refine ⟨rfl, ?_, rfl⟩
      rw [← word, Buffer.bytesOfNat_word]
    · intro refused
      rw [run_of_refused refused]
      exact ⟨Int.one_ne_zero, rfl, rfl⟩

/-- An address which is written, then read into an empty buffer. -/
def writeThenRead : List PciCall :=
  [.configAddrOut #v[0x00, 0x00, 0x00, 0x80] 4,
    .configAddrIn #v[0, 0, 0, 0] 4]

/-- The written address does not read back. -/
theorem not_readsBack_writeThenRead :
    ¬ ∀ (start : Pci) (calls : List PciCall), ReadsBack start calls := by
  intro claimed
  have reads :=
    (claimed ⟨0⟩ writeThenRead
      [.configAddrOut #v[0x00, 0x00, 0x00, 0x80] 4]
      (.configAddrIn #v[0, 0, 0, 0] 4) [] rfl).1
      #v[0, 0, 0, 0] 0x80000000 rfl (by decide)
  exact absurd reads.2.1 (by decide)

/-! ## The fields of the address -/

/-- Masking and shifting cuts a range of bits out of a word. -/
theorem toNat_and_shiftRight
    (word : UInt32) {mask shift : UInt32} {position width : Nat}
    (masks : mask.toNat = (2 ^ width - 1) <<< position)
    (shifts : shift.toNat = position) (inside : position < 32) :
    ((word &&& mask) >>> shift).toNat =
      word.toNat / 2 ^ position % 2 ^ width := by
  rw [UInt32.toNat_shiftRight, UInt32.toNat_and, shifts, masks,
    Nat.mod_eq_of_lt inside, Nat.shiftRight_and_distrib,
    Nat.shiftLeft_shiftRight, Nat.and_two_pow_sub_one_eq_mod,
    Nat.shiftRight_eq_div_pow]

section Fields

variable (pci : Pci)

theorem getFunc_toNat :
    pci.getFunc.toNat = pci.addr.toNat / 2 ^ 8 % 2 ^ 3 :=
  toNat_and_shiftRight pci.addr rfl rfl (by decide)

theorem getDev_toNat :
    pci.getDev.toNat = pci.addr.toNat / 2 ^ 11 % 2 ^ 5 :=
  toNat_and_shiftRight pci.addr rfl rfl (by decide)

theorem getBus_toNat :
    pci.getBus.toNat = pci.addr.toNat / 2 ^ 16 % 2 ^ 8 :=
  toNat_and_shiftRight pci.addr rfl rfl (by decide)

/-- The offset is not shifted: it counts bytes, in steps of four. -/
theorem getOffset_toNat :
    pci.getOffset.toNat = pci.addr.toNat / 2 ^ 2 % 2 ^ 6 * 2 ^ 2 := by
  have cut :
      (pci.addr.toNat &&& pciAddrOffsetMask.toNat) >>> 2 =
        pci.addr.toNat / 2 ^ 2 % 2 ^ 6 := by
    rw [Nat.shiftRight_and_distrib, Nat.shiftRight_eq_div_pow]
    exact Nat.and_two_pow_sub_one_eq_mod _ 6
  have aligned :
      (pci.addr.toNat &&& pciAddrOffsetMask.toNat) % 2 ^ 2 = 0 := by
    rw [← Nat.and_two_pow_sub_one_eq_mod, Nat.and_assoc]
    exact Nat.and_zero _
  rw [Pci.getOffset, UInt32.toNat_and, ← cut, Nat.shiftRight_eq_div_pow]
  omega

theorem isAddrEnable_toNat :
    pci.isAddrEnable.toNat = pci.addr.toNat / 2 ^ 31 := by
  have top :
      ((pci.addr >>> pciAddrEnableBit) &&& 1).toNat =
        pci.addr.toNat / 2 ^ 31 % 2 := by
    rw [UInt32.toNat_and, UInt32.toNat_shiftRight]
    exact (Nat.and_two_pow_sub_one_eq_mod _ 1).trans
      (by rw [Nat.shiftRight_eq_div_pow]; rfl)
  have small := pci.addr.toNat_lt
  have bit : pci.addr.toNat / 2 ^ 31 = 0 ∨ pci.addr.toNat / 2 ^ 31 = 1 := by
    omega
  rw [Pci.isAddrEnable]
  rcases bit with clear | set
  · rw [clear] at top ⊢
    rw [show _ = (0 : UInt32) from UInt32.toNat_inj.mp top]
    rfl
  · rw [set] at top ⊢
    rw [show _ = (1 : UInt32) from UInt32.toNat_inj.mp top]
    rfl

/-- The fields tile the address, but for seven reserved bits and the lowest two. -/
theorem addr_eq_fields :
    pci.addr.toNat =
      pci.isAddrEnable.toNat * 2 ^ 31 +
        pci.addr.toNat / 2 ^ 24 % 2 ^ 7 * 2 ^ 24 +
        pci.getBus.toNat * 2 ^ 16 + pci.getDev.toNat * 2 ^ 11 +
        pci.getFunc.toNat * 2 ^ 8 + pci.getOffset.toNat +
        pci.addr.toNat % 2 ^ 2 := by
  rw [isAddrEnable_toNat, getBus_toNat, getDev_toNat, getFunc_toNat,
    getOffset_toNat]
  omega

end Fields

end Lvmm.Device.PciConfig
