import Lvmm.Device.CmosDevice
import Lvmm.Library.LabelledRun

/-!
# Guest accesses to the CMOS device

A sequence of accesses of any port, size and value is a run of the device.  The
index byte is masked when it is selected and reset by every data access, so the
array is left only through the value which the constructor leaves unset.
-/

namespace Lvmm.Device.CmosAccess

open Lvmm.Library.LabelledRun
open Lvmm.Device.CmosDevice

/-- One guest access, with the host's time and the byte at `*data_ptr`. -/
inductive Access where
  | read (now : Tm) (port : UInt16) (cell size : UInt8)
  | write (port : UInt16) (cell size : UInt8)

namespace Access

/-- The device's answer to an access. -/
def run (access : Access) (cmos : Cmos) : CmosRun :=
  match access with
  | .read now port cell size => cmos.read now port cell size
  | .write port cell size => cmos.write port cell size

/-- The byte at `*data_ptr` before the access. -/
def cell : Access → UInt8
  | .read _ _ cell _ => cell
  | .write _ cell _ => cell

def port : Access → UInt16
  | .read _ port _ _ => port
  | .write port _ _ => port

def size : Access → UInt8
  | .read _ _ _ size => size
  | .write _ _ size => size

/-- A one-byte access to the data port. -/
def touchesData (access : Access) : Bool :=
  access.size == 1 && access.port == pioPortCmosData

/-- The register which a one-byte write to the index port selects. -/
def selects : Access → Option UInt8
  | .read .. => none
  | .write port cell size =>
      if size = 1 ∧ port = pioPortCmosIndex then
        some (cell &&& cmosIndexMask)
      else none

/-- The byte which a one-byte write to the data port carries. -/
def carries : Access → Option UInt8
  | .read .. => none
  | .write port cell size =>
      if size = 1 ∧ port = pioPortCmosData then some cell else none

end Access

/-- The device after an access; nothing is known outside the array. -/
def afterAccess (cmos : Cmos) (access : Access) : Option Cmos :=
  match access.run cmos with
  | .returned _ _ next => some next
  | .outOfBounds => none

/-! ## One access -/

theorem and_indexMask_lt (byte : UInt8) :
    (byte &&& cmosIndexMask).toNat < cmosMemSize := by
  have masked : (byte &&& cmosIndexMask).toNat ≤ cmosIndexMask.toNat := by
    rw [UInt8.toNat_and]
    exact Nat.and_le_right
  exact Nat.lt_succ_of_le masked

/-- Only a one-byte write to the index port selects a register. -/
theorem eq_write_of_selects
    {access : Access} {register : UInt8}
    (selects : access.selects = some register) :
    ∃ byte, access = .write pioPortCmosIndex byte 1 ∧
      register = byte &&& cmosIndexMask := by
  cases access with
  | read => simp [Access.selects] at selects
  | write port byte size =>
      simp only [Access.selects] at selects
      split_ifs at selects with addressed
      rcases addressed with ⟨rfl, rfl⟩
      cases selects
      exact ⟨byte, rfl, rfl⟩

theorem inside_of_selects
    {access : Access} {register : UInt8}
    (selects : access.selects = some register) :
    register.toNat < cmosMemSize := by
  rcases eq_write_of_selects selects with ⟨byte, -, rfl⟩
  exact and_indexMask_lt byte

/-- Every synthesised register lies inside the array. -/
theorem synthesised_eq_none_of_outside
    {index : UInt8} (outside : cmosMemSize ≤ index.toNat) (now : Tm) :
    synthesised index now = none := by
  have differs : ∀ register : UInt8,
      register.toNat < cmosMemSize → ¬ index = register := by
    rintro register inside rfl
    omega
  rw [synthesised]
  repeat rw [if_neg (differs _ (by decide))]

theorem dataAt_eq_none_iff (cmos : Cmos) :
    cmos.dataAt = none ↔ cmosMemSize ≤ cmos.index.toNat := by
  unfold Cmos.dataAt
  split_ifs with inside
  · simp [inside]
  · simpa using inside

theorem setData_eq_none_iff (cmos : Cmos) (byte : UInt8) :
    cmos.setData byte = none ↔ cmosMemSize ≤ cmos.index.toNat := by
  unfold Cmos.setData
  split_ifs with inside
  · simp [inside]
  · simpa using inside

/-- An access that is too wide or addresses another port is refused. -/
theorem run_of_refused
    (access : Access) (cmos : Cmos)
    (refused : access.size ≠ 1 ∨
      access.port ≠ pioPortCmosIndex ∧ access.port ≠ pioPortCmosData) :
    access.run cmos = .returned 1 access.cell cmos := by
  cases access with
  | read now port cell size =>
      rcases refused with wide | ⟨notIndex, notData⟩
      · exact if_pos wide
      · simp only [Access.port] at notIndex notData
        simp [Access.run, Access.cell, Cmos.read, notIndex, notData]
  | write port cell size =>
      rcases refused with wide | ⟨notIndex, notData⟩
      · exact if_pos wide
      · simp only [Access.port] at notIndex notData
        simp [Access.run, Access.cell, Cmos.write, notIndex, notData]

theorem afterAccess_of_selects
    {access : Access} {register : UInt8} (cmos : Cmos)
    (selects : access.selects = some register) :
    afterAccess cmos access = some { cmos with index := register } := by
  rcases eq_write_of_selects selects with ⟨byte, rfl, rfl⟩
  rfl

/-- Any other access that leaves the data port alone changes nothing. -/
theorem afterAccess_of_untouched
    {access : Access} (cmos : Cmos)
    (selects : access.selects = none)
    (untouched : access.touchesData = false) :
    afterAccess cmos access = some cmos := by
  by_cases refused : access.size ≠ 1 ∨
      access.port ≠ pioPortCmosIndex ∧ access.port ≠ pioPortCmosData
  · rw [afterAccess, run_of_refused access cmos refused]
  · have oneByte : access.size = 1 := by
      by_contra wide
      exact refused (.inl wide)
    have notData : ¬ access.port = pioPortCmosData := by
      intro atData
      rw [Access.touchesData, oneByte, atData] at untouched
      cases untouched
    have atIndex : access.port = pioPortCmosIndex := by
      by_contra notIndex
      exact refused (.inr ⟨notIndex, notData⟩)
    cases access with
    | read now port cell size =>
        simp only [Access.size, Access.port] at oneByte atIndex
        subst oneByte atIndex
        rfl
    | write port cell size =>
        simp only [Access.size, Access.port] at oneByte atIndex
        simp [Access.selects, oneByte, atIndex] at selects

/-- A one-byte data access is a read or a write of the data port. -/
theorem cases_of_touchesData
    {access : Access} (touches : access.touchesData = true) :
    (∃ now cell, access = .read now pioPortCmosData cell 1) ∨
      ∃ byte, access = .write pioPortCmosData byte 1 := by
  rw [Access.touchesData, Bool.and_eq_true, beq_iff_eq, beq_iff_eq] at touches
  rcases touches with ⟨oneByte, atData⟩
  cases access with
  | read now port cell size =>
      simp only [Access.size, Access.port] at oneByte atData
      subst oneByte atData
      exact Or.inl ⟨now, cell, rfl⟩
  | write port byte size =>
      simp only [Access.size, Access.port] at oneByte atData
      subst oneByte atData
      exact Or.inr ⟨byte, rfl⟩

/-- A data read stores a synthesised byte or a byte of the array. -/
theorem run_read_data
    (cmos : Cmos) (now : Tm) (cell : UInt8) :
    (Access.read now pioPortCmosData cell 1).run cmos =
      match (synthesised cmos.index now).or cmos.dataAt with
      | some byte => .returned 0 byte cmos.resetIndex
      | none => .outOfBounds := by
  simp only [Access.run, Cmos.read, ne_eq, not_true_eq_false, if_false,
    data_ne_index, if_true]
  cases synthesised cmos.index now with
  | some byte => rfl
  | none =>
      cases cmos.dataAt with
      | some byte => rfl
      | none => rfl

/-- A data write stores its byte, or discards a zero for a shutdown. -/
theorem run_write_data (cmos : Cmos) (byte : UInt8) :
    (Access.write pioPortCmosData byte 1).run cmos =
      if cmos.index = cmosRegShutdown ∧ byte = 0 then
        .returned 0 byte cmos.resetIndex
      else
        match cmos.setData byte with
        | some stored => .returned 0 byte stored.resetIndex
        | none => .outOfBounds := by
  by_cases discarded : cmos.index = cmosRegShutdown ∧ byte = 0
  · simp [Access.run, Cmos.write, data_ne_index, discarded]
  · cases stored : cmos.setData byte with
    | some next =>
        simp [Access.run, Cmos.write, data_ne_index, discarded, stored]
    | none =>
        simp [Access.run, Cmos.write, data_ne_index, discarded, stored]

/-- A data access inside the array returns zero and resets the selection. -/
theorem run_of_touchesData
    {access : Access} {cmos : Cmos}
    (touches : access.touchesData = true)
    (inside : cmos.index.toNat < cmosMemSize) :
    ∃ cell next, access.run cmos = .returned 0 cell next ∧
      next.index = cmosRegStatD := by
  rcases cases_of_touchesData touches with ⟨now, cell, rfl⟩ | ⟨byte, rfl⟩
  · rw [run_read_data, Cmos.dataAt, dif_pos inside]
    cases synthesised cmos.index now with
    | some byte => exact ⟨byte, cmos.resetIndex, rfl, rfl⟩
    | none => exact ⟨_, cmos.resetIndex, rfl, rfl⟩
  · rw [run_write_data, Cmos.setData, dif_pos inside]
    split_ifs
    · exact ⟨byte, cmos.resetIndex, rfl, rfl⟩
    · exact ⟨byte, _, rfl, rfl⟩

theorem afterAccess_eq_none_iff (cmos : Cmos) (access : Access) :
    afterAccess cmos access = none ↔ access.run cmos = .outOfBounds := by
  rw [afterAccess]
  cases access.run cmos with
  | returned => simp
  | outOfBounds => simp

/-- A data access outside the array is the only one with no defined result. -/
theorem run_eq_outOfBounds_iff (access : Access) (cmos : Cmos) :
    access.run cmos = .outOfBounds ↔
      access.touchesData = true ∧ cmosMemSize ≤ cmos.index.toNat := by
  constructor
  · intro lost
    cases touches : access.touchesData with
    | false =>
        rw [← afterAccess_eq_none_iff] at lost
        cases selects : access.selects with
        | some register => simp [afterAccess_of_selects cmos selects] at lost
        | none =>
            simp [afterAccess_of_untouched cmos selects touches] at lost
    | true =>
        refine ⟨rfl, ?_⟩
        by_contra inside
        rcases run_of_touchesData touches (not_le.mp inside) with
          ⟨cell, next, returned, -⟩
        rw [returned] at lost
        cases lost
  · rintro ⟨touches, outside⟩
    rcases cases_of_touchesData touches with ⟨now, cell, rfl⟩ | ⟨byte, rfl⟩
    · rw [run_read_data, synthesised_eq_none_of_outside outside,
        (dataAt_eq_none_iff cmos).mpr outside]
      rfl
    · have notShutdown : ¬ cmos.index = cmosRegShutdown := by
        intro shutdown
        rw [shutdown] at outside
        exact absurd outside (by decide)
      rw [run_write_data, if_neg (fun both => notShutdown both.1),
        (setData_eq_none_iff cmos byte).mpr outside]

/-- An index inside the array stays there. -/
theorem inside_afterAccess
    {cmos next : Cmos} {access : Access}
    (inside : cmos.index.toNat < cmosMemSize)
    (taken : afterAccess cmos access = some next) :
    next.index.toNat < cmosMemSize := by
  cases touches : access.touchesData with
  | true =>
      rcases run_of_touchesData touches inside with
        ⟨cell, reached, returned, reset⟩
      simp only [afterAccess, returned, Option.some.injEq] at taken
      rw [← taken, reset]
      decide
  | false =>
      cases selects : access.selects with
      | none =>
          rw [afterAccess_of_untouched cmos selects touches] at taken
          cases taken
          exact inside
      | some register =>
          rw [afterAccess_of_selects cmos selects] at taken
          cases taken
          exact inside_of_selects selects

/-! ## Bounds over whole sequences -/

/-- No access of a sequence evaluates `data[index]` outside the array. -/
def WithinBounds (start : Cmos) (accesses : List Access) : Prop :=
  ∀ before access later cmos, accesses = before ++ access :: later →
    Run afterAccess start before cmos → access.run cmos ≠ .outOfBounds

theorem withinBounds_nil (start : Cmos) : WithinBounds start [] := by
  intro before access later cmos split
  simp at split

theorem withinBounds_cons
    (start : Cmos) (access : Access) (later : List Access) :
    WithinBounds start (access :: later) ↔
      ∃ next, afterAccess start access = some next ∧
        WithinBounds next later := by
  constructor
  · intro within
    cases taken : afterAccess start access with
    | none =>
        exact absurd ((afterAccess_eq_none_iff start access).mp taken)
          (within [] access later start rfl .refl)
    | some next =>
        refine ⟨next, rfl, ?_⟩
        rintro before other rest cmos rfl run
        exact within (access :: before) other rest cmos rfl
          (Run.cons_iff.mpr ⟨next, taken, run⟩)
  · rintro ⟨next, taken, within⟩ before other rest cmos split run
    cases before with
    | nil =>
        simp only [List.nil_append, List.cons.injEq] at split
        rcases split with ⟨rfl, rfl⟩
        have atStart : cmos = start := by
          simpa using (Run.iff_foldlM.mp run).symm
        rw [Ne, ← afterAccess_eq_none_iff, atStart, taken]
        simp
    | cons first others =>
        simp only [List.cons_append, List.cons.injEq] at split
        rcases split with ⟨rfl, rfl⟩
        rcases Run.cons_iff.mp run with ⟨middle, reached, continued⟩
        rw [taken] at reached
        cases reached
        exact within others other rest cmos rfl continued

theorem withinBounds_of_inside
    {start : Cmos} (inside : start.index.toNat < cmosMemSize)
    (accesses : List Access) :
    WithinBounds start accesses := by
  induction accesses generalizing start with
  | nil => exact withinBounds_nil start
  | cons access later induction =>
      rw [withinBounds_cons]
      cases taken : afterAccess start access with
      | none =>
          rw [afterAccess_eq_none_iff, run_eq_outOfBounds_iff] at taken
          omega
      | some next =>
          exact ⟨next, rfl, induction (inside_afterAccess inside taken)⟩

/-- The accesses of a sequence before its first selection. -/
def beforeSelection (accesses : List Access) : List Access :=
  accesses.takeWhile fun access => access.selects.isNone

/--
From an index outside the array, a sequence is safe exactly when it selects a
register before it touches the data port.
-/
theorem withinBounds_iff_of_outside
    {start : Cmos} (outside : cmosMemSize ≤ start.index.toNat)
    (accesses : List Access) :
    WithinBounds start accesses ↔
      ∀ access ∈ beforeSelection accesses, access.touchesData = false := by
  induction accesses with
  | nil => simp [withinBounds_nil, beforeSelection]
  | cons access later induction =>
      rw [withinBounds_cons]
      cases selects : access.selects with
      | some register =>
          have safe : WithinBounds { start with index := register } later :=
            withinBounds_of_inside (inside_of_selects selects) later
          simp [beforeSelection, selects,
            afterAccess_of_selects start selects, safe]
      | none =>
          cases touches : access.touchesData with
          | true =>
              have lost := (afterAccess_eq_none_iff start access).mpr
                ((run_eq_outOfBounds_iff access start).mpr
                  ⟨touches, outside⟩)
              simp [beforeSelection, selects, lost, touches]
          | false =>
              rw [beforeSelection] at induction
              simp [beforeSelection, selects, touches, induction,
                afterAccess_of_untouched start selects touches]

/--
A constructed device stays inside its array over a sequence of accesses exactly
when its unset index byte happens to lie inside, or the sequence selects a
register before its first data access.
-/
theorem construct_withinBounds_iff (unset : UInt8) (accesses : List Access) :
    WithinBounds (.construct unset) accesses ↔
      unset.toNat < cmosMemSize ∨
        ∀ access ∈ beforeSelection accesses,
          access.touchesData = false := by
  by_cases inside : unset.toNat < cmosMemSize
  · simp only [inside, true_or, iff_true]
    have start : (Cmos.construct unset).index.toNat < cmosMemSize := inside
    exact withinBounds_of_inside start accesses
  · simp only [inside, false_or]
    have start : cmosMemSize ≤ (Cmos.construct unset).index.toNat :=
      not_lt.mp inside
    exact withinBounds_iff_of_outside start accesses

/-- A first data access finds whatever the index byte held. -/
theorem construct_not_withinBounds :
    ¬ ∀ (unset : UInt8) (accesses : List Access),
      WithinBounds (.construct unset) accesses := by
  intro claimed
  exact claimed 0xFF [.write pioPortCmosData 0x2A 1] [] _ [] _ rfl .refl rfl

end Lvmm.Device.CmosAccess
