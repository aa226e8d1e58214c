import Lvmm.Library.LittleEndian

/-!
# MP configuration tables

The base table of the MultiProcessor specification, read from its bytes.  A header
of 44 bytes gives the length of the table and the number of entries.  The first
byte of an entry is its type, which determines its length: 20 bytes for a
processor, 8 bytes for a bus, an I/O APIC and an interrupt assignment.
-/

namespace Lvmm.Library.MpConfigTable

open Lvmm.Library.LittleEndian

def headerLength : Nat := 44

/-- The length of an entry, by its type. -/
def entryLength (entryType : UInt8) : Option Nat :=
  if entryType = 0 then some 20
  else if entryType ≤ 4 then some 8
  else none

/-- Cut a number of entries off the front of some bytes. -/
def walkEntries :
    Nat → List UInt8 → Option (List (List UInt8) × List UInt8)
  | 0, bytes => some ([], bytes)
  | count + 1, bytes => do
      let entryType ← bytes.head?
      let length ← entryLength entryType
      if bytes.length < length then none
      else
        let (entries, rest) ← walkEntries count (bytes.drop length)
        some (bytes.take length :: entries, rest)

/-- The number in `width` bytes at an offset. -/
def numberAt (table : List UInt8) (offset width : Nat) : Nat :=
  natOfBytes ((table.drop offset).take width)

/-- A number laid out between other bytes is read back. -/
theorem numberAt_field
    (front : List UInt8) {bytes back : List UInt8}
    {offset width value : Nat}
    (shape : bytes = front ++ (bytesOfNat width value ++ back))
    (position : front.length = offset)
    (bound : value < 256 ^ width) :
    numberAt bytes offset width = value := by
  have field :
      (bytesOfNat width value ++ back).take width =
        bytesOfNat width value := by
    rw [List.take_append_of_le_length (by simp),
      List.take_of_length_le (by simp)]
  rw [numberAt, shape, ← position, List.drop_left, field,
    natOfBytes_bytesOfNat_of_lt bound]

/--
The entries of a table: those which its header counts, when they end exactly at
the length the header gives.
-/
def parse (table : List UInt8) : Option (List (List UInt8)) :=
  let length := numberAt table 4 2
  let entryCount := numberAt table 34 2
  if table.length < length then none
  else
    match walkEntries entryCount ((table.take length).drop headerLength) with
    | some (entries, []) => some entries
    | _ => none

/-- An entry describes a processor. -/
def isProcessor (entry : List UInt8) : Bool :=
  entry[0]? == some 0

/-- A processor entry is enabled. -/
def isEnabled (entry : List UInt8) : Bool :=
  (entry[3]?.getD 0) &&& 1 != 0

/-- A processor entry is the boot processor. -/
def isBootProcessor (entry : List UInt8) : Bool :=
  (entry[3]?.getD 0) &&& 2 != 0

/-- The local APIC id of a processor entry. -/
def localApicId (entry : List UInt8) : Nat :=
  (entry[1]?.getD 0).toNat

/-- The enabled processors of a table. -/
def enabledProcessors (entries : List (List UInt8)) : List (List UInt8) :=
  entries.filter fun entry => isProcessor entry && isEnabled entry

/-- An entry has the length which its type asks for. -/
def WellFormed (entry : List UInt8) : Prop :=
  ∃ entryType, entry.head? = some entryType ∧
    entryLength entryType = some entry.length

/-- Walking over well-formed entries finds them again. -/
theorem walkEntries_flatten
    {entries : List (List UInt8)}
    (wellFormed : ∀ entry ∈ entries, WellFormed entry)
    (rest : List UInt8) :
    walkEntries entries.length (entries.flatten ++ rest) =
      some (entries, rest) := by
  induction entries with
  | nil => rfl
  | cons entry others induction =>
      rcases wellFormed entry List.mem_cons_self with
        ⟨entryType, first, length⟩
      have othersFound :=
        induction fun other member =>
          wellFormed other (List.mem_cons_of_mem _ member)
      have head :
          ((entry :: others).flatten ++ rest).head? = some entryType := by
        cases entry with
        | nil => cases first
        | cons byte bytes => exact first
      have enough :
          ¬ ((entry :: others).flatten ++ rest).length < entry.length := by
        simp
      have front :
          ((entry :: others).flatten ++ rest).take entry.length = entry := by
        simp
      have back :
          ((entry :: others).flatten ++ rest).drop entry.length =
            others.flatten ++ rest := by
        simp
      simp only [List.length_cons, walkEntries, head, length, enough, back,
        othersFound, front, Option.bind_eq_bind, Option.bind_some, if_false]

/-- A table whose header describes its well-formed entries parses to them. -/
theorem parse_of_header
    {header : List UInt8} {entries : List (List UInt8)}
    (headerBytes : header.length = headerLength)
    (wellFormed : ∀ entry ∈ entries, WellFormed entry)
    (length :
      numberAt header 4 2 = headerLength + entries.flatten.length)
    (entryCount : numberAt header 34 2 = entries.length) :
    parse (header ++ entries.flatten) = some entries := by
  have inHeader (offset width : Nat) (inside : offset + width ≤ 44) :
      numberAt (header ++ entries.flatten) offset width =
        numberAt header offset width := by
    have bound : header.length = 44 := headerBytes
    rw [numberAt, numberAt, List.drop_append_of_le_length (by omega),
      List.take_append_of_le_length (by rw [List.length_drop]; omega)]
  have total :
      (header ++ entries.flatten).length =
        headerLength + entries.flatten.length := by
    rw [List.length_append, headerBytes]
  have walked := walkEntries_flatten wellFormed []
  rw [List.append_nil] at walked
  have body :
      ((header ++ entries.flatten).take
        (headerLength + entries.flatten.length)).drop headerLength =
          entries.flatten := by
    rw [List.take_of_length_le (by rw [total]), ← headerBytes,
      List.drop_left]
  simp only [parse, inHeader 4 2 (by decide), inHeader 34 2 (by decide),
    length, entryCount, total, lt_irrefl, if_false, body, walked]

end Lvmm.Library.MpConfigTable
