import Mathlib.Algebra.Order.Group.Nat
import Mathlib.Data.Nat.ModEq
import Mathlib.Tactic.Ring
import Lvmm.Library.CellMemory

/-!
# Little-endian words in byte memory

A number is laid out as a fixed number of bytes, least significant first.  The
two directions are inverse up to truncation, and words stored one after another
can be read back individually.
-/

namespace Lvmm.Library.LittleEndian

open Lvmm.Library.CellMemory

/-- The lowest `width` bytes of a number, least significant first. -/
@[grind =]
def bytesOfNat : Nat → Nat → List UInt8
  | 0, _ => []
  | width + 1, value =>
      UInt8.ofNat value :: bytesOfNat width (value / 256)

/-- The number which a list of bytes denotes. -/
@[grind =]
def natOfBytes : List UInt8 → Nat
  | [] => 0
  | byte :: rest => byte.toNat + 256 * natOfBytes rest

@[simp]
theorem bytesOfNat_length (width value : Nat) :
    (bytesOfNat width value).length = width := by
  induction width generalizing value with
  | zero => rfl
  | succ width induction => simp [bytesOfNat, induction]

/-- Reading a laid-out number back truncates it to its width. -/
theorem natOfBytes_bytesOfNat (width value : Nat) :
    natOfBytes (bytesOfNat width value) = value % 256 ^ width := by
  induction width generalizing value with
  | zero => simp [bytesOfNat, natOfBytes, Nat.mod_one]
  | succ width induction =>
      rw [bytesOfNat, natOfBytes, induction, Nat.pow_succ', Nat.mod_mul]
      simp

theorem natOfBytes_bytesOfNat_of_lt
    {width value : Nat} (bound : value < 256 ^ width) :
    natOfBytes (bytesOfNat width value) = value := by
  rw [natOfBytes_bytesOfNat, Nat.mod_eq_of_lt bound]

/-- A list of bytes is the number it denotes, laid out to its length. -/
theorem bytesOfNat_natOfBytes (bytes : List UInt8) :
    bytesOfNat bytes.length (natOfBytes bytes) = bytes := by
  induction bytes with
  | nil => rfl
  | cons byte rest induction =>
      have low : UInt8.ofNat (natOfBytes (byte :: rest)) = byte := by
        apply UInt8.toNat_inj.mp
        have small := byte.toNat_lt
        simp only [natOfBytes, UInt8.toNat_ofNat']
        omega
      have high : natOfBytes (byte :: rest) / 256 = natOfBytes rest := by
        have small := byte.toNat_lt
        rw [natOfBytes]
        omega
      rw [List.length_cons, bytesOfNat, low, high, induction]

theorem natOfBytes_lt (bytes : List UInt8) :
    natOfBytes bytes < 256 ^ bytes.length := by
  have truncated :=
    natOfBytes_bytesOfNat bytes.length (natOfBytes bytes)
  rw [bytesOfNat_natOfBytes] at truncated
  rw [truncated]
  exact Nat.mod_lt _ (Nat.pow_pos (by decide))

/-- Lists of one length denote different numbers. -/
theorem natOfBytes_inj
    {left right : List UInt8} (length : left.length = right.length) :
    natOfBytes left = natOfBytes right ↔ left = right := by
  constructor
  · intro equal
    rw [← bytesOfNat_natOfBytes left, equal, length,
      bytesOfNat_natOfBytes]
  · intro equal
    rw [equal]

/-! ## Words in memory -/

/-- Store one word. -/
def storeWord
    (memory : Memory UInt8) (address width value : Nat) :
    Memory UInt8 :=
  store memory ⟨address, bytesOfNat width value⟩

/-- Read one word. -/
def loadWord (memory : Memory UInt8) (address width : Nat) : Nat :=
  natOfBytes (load memory address width)

theorem loadWord_congr
    {left right : Memory UInt8} {address other width : Nat}
    (agree : ∀ index, index < width →
      left (address + index) = right (other + index)) :
    loadWord left address width = loadWord right other width := by
  rw [loadWord, loadWord, load_congr agree]

theorem natOfBytes_replicate_zero (width : Nat) :
    natOfBytes (List.replicate width 0) = 0 := by
  induction width with
  | zero => rfl
  | succ width induction =>
      rw [List.replicate_succ, natOfBytes, induction]
      rfl

/-- A word of zero bytes is zero. -/
theorem loadWord_of_zeros
    {memory : Memory UInt8} {address width : Nat}
    (zeros : ∀ index, index < width → memory (address + index) = 0) :
    loadWord memory address width = 0 := by
  have loaded : load memory address width = List.replicate width 0 := by
    apply List.ext_getElem (by simp)
    intro index leftBound rightBound
    rw [load_getElem, List.getElem_replicate]
    exact zeros index (by simpa using leftBound)
  rw [loadWord, loaded, natOfBytes_replicate_zero]

theorem storeWord_outside
    (memory : Memory UInt8) (address width value query : Nat)
    (outside : query < address ∨ address + width ≤ query) :
    storeWord memory address width value query = memory query := by
  apply store_outside
  simpa using outside

theorem loadWord_storeWord
    (memory : Memory UInt8) (address width value : Nat) :
    loadWord (storeWord memory address width value) address width =
      value % 256 ^ width := by
  have held :=
    (holds_iff_load _ _).mp
      (holds_store memory ⟨address, bytesOfNat width value⟩)
  rw [bytesOfNat_length] at held
  rw [loadWord, storeWord, held, natOfBytes_bytesOfNat]

/-! ## Tables of words -/

/-- The loop which stores word `value index` at every index below a count. -/
def storeTable
    (address width : Nat) (value : Nat → Nat)
    (count : Nat) (memory : Memory UInt8) : Memory UInt8 :=
  (List.range count).foldl
    (fun current index =>
      storeWord current (address + width * index) width (value index))
    memory

theorem storeTable_succ
    (address width : Nat) (value : Nat → Nat)
    (count : Nat) (memory : Memory UInt8) :
    storeTable address width value (count + 1) memory =
      storeWord (storeTable address width value count memory)
        (address + width * count) width (value count) := by
  simp [storeTable, List.range_succ]

theorem storeTable_outside
    (address width : Nat) (value : Nat → Nat)
    (count : Nat) (memory : Memory UInt8) (query : Nat)
    (outside : query < address ∨ address + width * count ≤ query) :
    storeTable address width value count memory query = memory query := by
  induction count with
  | zero => rfl
  | succ count induction =>
      rw [Nat.mul_succ] at outside
      rw [storeTable_succ, storeWord_outside _ _ _ _ _ (by omega),
        induction (by omega)]

/-- Every word of a stored table can be read back at its own index. -/
theorem loadWord_storeTable
    (address width : Nat) (value : Nat → Nat)
    (count : Nat) (memory : Memory UInt8)
    {index : Nat} (bound : index < count) :
    loadWord (storeTable address width value count memory)
        (address + width * index) width =
      value index % 256 ^ width := by
  induction count with
  | zero => exact absurd bound (Nat.not_lt_zero index)
  | succ count induction =>
      rw [storeTable_succ]
      by_cases last : index = count
      · subst last
        exact loadWord_storeWord _ _ _ _
      · have earlier : index < count := by omega
        rw [← induction earlier]
        apply loadWord_congr
        intro offset offsetBound
        apply storeWord_outside
        left
        calc
          address + width * index + offset
              < address + width * (index + 1) := by
                rw [Nat.mul_succ]
                omega
          _ ≤ address + width * count :=
                Nat.add_le_add_left (Nat.mul_le_mul_left width earlier) _

end Lvmm.Library.LittleEndian
