import Mathlib.Data.Int.Basic
import Mathlib.Data.List.Basic

/-!
# Binary input file streams

`std::ifstream` over a regular file which is already open: the read position and
the `eofbit` and `failbit`.  An operation on a stream which is not good sets
`failbit` and does nothing, except that seeking clears `eofbit` first; seeking
beyond the end of the file is allowed, and reading fewer characters than asked
for sets both bits.

`get_ifs_size` and `is_kernel_elf` are the helpers of `util.hpp`.
-/

namespace Lvmm.Vm.FileStream

/-- An open `std::ifstream`. -/
structure IfStream where
  content : List UInt8
  position : Nat
  eofbit : Bool
  failbit : Bool
deriving DecidableEq

namespace IfStream

/-- The stream as `open` leaves it. -/
def opened (content : List UInt8) : IfStream where
  content := content
  position := 0
  eofbit := false
  failbit := false

/-- `good()`. -/
def good (file : IfStream) : Bool :=
  !file.eofbit && !file.failbit

/-- The sentry of an unformatted input function. -/
def sentry (file : IfStream) : IfStream :=
  if file.good then file else { file with failbit := true }

/-- `tellg()`. -/
def tellg (file : IfStream) : Int × IfStream :=
  if file.sentry.failbit then (-1, file.sentry)
  else (file.sentry.position, file.sentry)

/-- `seekg(position, std::ios::beg)`. -/
def seekg (file : IfStream) (position : Int) : IfStream :=
  let file := { file with eofbit := false }.sentry
  if file.failbit then file
  else if position < 0 then { file with failbit := true }
  else { file with position := position.toNat }

/-- `seekg(0, std::ios::end)`. -/
def seekgEnd (file : IfStream) : IfStream :=
  file.seekg file.content.length

/-- `read(s, count)`: the characters stored at `s`, and the stream after. -/
def read (file : IfStream) (count : Int) : List UInt8 × IfStream :=
  if file.good then
    let stored := (file.content.drop file.position).take count.toNat
    if (stored.length : Int) = count then
      (stored, { file with position := file.position + stored.length })
    else
      (stored,
        { file with
          position := file.position + stored.length
          eofbit := true
          failbit := true })
  else ([], file.sentry)

/-! ## Streams in good state -/

/-- The stream is good and about to read at a position. -/
def At (content : List UInt8) (position : Nat) : IfStream :=
  { opened content with position := position }

theorem opened_eq_at (content : List UInt8) :
    opened content = At content 0 :=
  rfl

@[simp]
theorem at_failbit (content : List UInt8) (position : Nat) :
    (At content position).failbit = false :=
  rfl

@[simp]
theorem tellg_at (content : List UInt8) (position : Nat) :
    (At content position).tellg =
      ((position : Int), At content position) :=
  rfl

@[simp]
theorem seekg_at (content : List UInt8) (position target : Nat) :
    (At content position).seekg target = At content target := by
  have nonnegative : ¬ (target : Int) < 0 := by omega
  simp [seekg, At, opened, sentry, good]

@[simp]
theorem seekgEnd_at (content : List UInt8) (position : Nat) :
    (At content position).seekgEnd = At content content.length :=
  seekg_at content position content.length

/-- A read within the file stores exactly the characters asked for. -/
theorem read_at
    {content : List UInt8} {position count : Nat}
    (within : position + count ≤ content.length) :
    (At content position).read count =
      ((content.drop position).take count,
        At content (position + count)) := by
  have stored : min count (content.length - position) = count := by
    omega
  simp [read, At, opened, good, stored]

/-- A read of characters beyond the end of the file fails. -/
theorem read_at_failbit
    {content : List UInt8} {position : Nat} {count : Int}
    (beyond : content.length < position + count ∧ 0 < count ∨ count < 0) :
    ((At content position).read count).2.failbit = true := by
  have good : (At content position).good = true := rfl
  have short :
      ¬ (((content.drop position).take count.toNat).length : Int) =
        count := by
    rw [List.length_take, List.length_drop]
    omega
  rw [read, if_pos good]
  change
    (if (((content.drop position).take count.toNat).length : Int) = count
      then _ else _ : List UInt8 × IfStream).2.failbit = true
  rw [if_neg short]

/-! ## Streams which have failed -/

theorem seekg_failbit
    {file : IfStream} (failed : file.failbit = true) (position : Int) :
    (file.seekg position).failbit = true := by
  simp [seekg, sentry, good, failed]

theorem read_failbit
    {file : IfStream} (failed : file.failbit = true) (count : Int) :
    (file.read count).2.failbit = true := by
  simp [read, sentry, good, failed]

end IfStream

/-! ## `util.hpp` -/

def elfMagic : List UInt8 := [0x7f, 0x45, 0x4c, 0x46]

/-- `get_ifs_size`, which answers `false` for a stream it cannot use. -/
def getIfsSize (file : IfStream) : Int × IfStream :=
  let (originalPos, file) := file.tellg
  if file.failbit then (0, file)
  else
    let (size, file) := file.seekgEnd.tellg
    (size, file.seekg originalPos)

/--
`is_kernel_elf`.  The first argument is what its uninitialised buffer holds; a
short read overwrites only a part of it.
-/
def isKernelElf (buf : Vector UInt8 4) (kernel : IfStream) :
    Bool × IfStream :=
  let (originalPos, kernel) := kernel.tellg
  if kernel.failbit then (false, kernel)
  else
    let (stored, kernel) := (kernel.seekg 0).read 4
    let kernel := kernel.seekg originalPos
    (stored ++ buf.toList.drop stored.length == elfMagic, kernel)

@[simp]
theorem getIfsSize_at (content : List UInt8) (position : Nat) :
    getIfsSize (.At content position) =
      ((content.length : Int), IfStream.At content position) := by
  simp [getIfsSize]

/-- The test leaves the stream of a file with a whole magic as it was opened. -/
theorem isKernelElf_opened
    (buf : Vector UInt8 4) {content : List UInt8}
    (whole : 4 ≤ content.length) :
    isKernelElf buf (.opened content) =
      (content.take 4 == elfMagic, .At content 0) := by
  have stored :
      (IfStream.At content 0).read 4 = (content.take 4, .At content 4) :=
    IfStream.read_at (by omega)
  have rewound (position : Nat) :
      (IfStream.At content position).seekg 0 = .At content 0 :=
    IfStream.seekg_at content position 0
  have full : buf.toList.drop (content.take 4).length = [] := by
    simp [whole]
  simp only [isKernelElf, IfStream.opened_eq_at, IfStream.tellg_at,
    IfStream.at_failbit, Bool.false_eq_true, if_false, Int.ofNat_zero,
    rewound, stored, full, List.append_nil]

/-- The test leaves the stream of a shorter file failed. -/
theorem isKernelElf_opened_short
    (buf : Vector UInt8 4) {content : List UInt8}
    (short : content.length < 4) :
    (isKernelElf buf (.opened content)).2.failbit = true := by
  have failed : ((IfStream.At content 0).read 4).2.failbit = true :=
    IfStream.read_at_failbit (by omega)
  have rewound : (IfStream.At content 0).seekg 0 = .At content 0 :=
    IfStream.seekg_at content 0 0
  simp only [isKernelElf, IfStream.opened_eq_at, IfStream.tellg_at,
    IfStream.at_failbit, Bool.false_eq_true, if_false, Int.ofNat_zero,
    rewound]
  exact IfStream.seekg_failbit failed 0

end Lvmm.Vm.FileStream
