import Lvmm.Device.CmosAccess

/-!
# The CMOS RAM as a memory

A history of accesses says which register is selected and which bytes were
written while it was.  The device holds the last of these bytes for every
register; only the shutdown register discards a byte, zero.

Histories are lists of accesses, newest first.
-/

namespace Lvmm.Device.CmosMemory

open Lvmm.Library.LabelledRun
open Lvmm.Device.CmosDevice
open Lvmm.Device.CmosAccess

/-! ## What a history says -/

/--
The selected register: the last index byte without its NMI bit, or status
register D where a data access followed.
-/
@[grind =]
def selected : List Access → Option UInt8
  | [] => none
  | access :: earlier =>
      if access.touchesData then some cmosRegStatD
      else
        match access.selects with
        | some register => some register
        | none => selected earlier

/-- The bytes written while a register was selected, newest first. -/
@[grind =]
def written (register : UInt8) : List Access → List UInt8
  | [] => []
  | access :: earlier =>
      match access.carries with
      | some byte =>
          if selected earlier = some register then
            byte :: written register earlier
          else written register earlier
      | none => written register earlier

/-- The last byte written while a register was selected, or zero. -/
def lastWritten (register : UInt8) (history : List Access) : UInt8 :=
  (written register history).headD 0

/-- The last byte other than zero written to a register, or zero. -/
def lastNonzeroWritten (register : UInt8) (history : List Access) : UInt8 :=
  ((written register history).find? (· != 0)).getD 0

/-- What the device should hold for a register. -/
def remembered (register : UInt8) (history : List Access) : UInt8 :=
  if register = cmosRegShutdown then lastNonzeroWritten register history
  else lastWritten register history

/-- The registers which a data read synthesises. -/
def clockAndStatus : List UInt8 :=
  [cmosRegSec, cmosRegMin, cmosRegHour, cmosRegWeekd, cmosRegMday,
    cmosRegMonth, cmosRegYear, cmosRegStatA, cmosRegStatB, cmosRegStatC,
    cmosRegStatD, cmosRegCentury]

theorem synthesised_of_not_mem
    {register : UInt8} (plain : register ∉ clockAndStatus) (now : Tm) :
    synthesised register now = none := by
  have differs : ∀ other ∈ clockAndStatus, ¬ register = other := by
    rintro other member rfl
    exact plain member
  rw [synthesised]
  repeat rw [if_neg (differs _ (by decide))]

theorem remembered_of_silent
    {access : Access} (silent : access.carries = none)
    (register : UInt8) (history : List Access) :
    remembered register (access :: history) = remembered register history := by
  simp [remembered, lastWritten, lastNonzeroWritten, written, silent]

/-- A written byte is remembered unless the shutdown register discards it. -/
theorem remembered_of_carries
    {access : Access} {byte : UInt8} (carries : access.carries = some byte)
    (register : UInt8) (history : List Access) :
    remembered register (access :: history) =
      if selected history = some register ∧
          ¬ (register = cmosRegShutdown ∧ byte = 0) then byte
      else remembered register history := by
  by_cases current : selected history = some register
  · by_cases shutdown : register = cmosRegShutdown
    · by_cases zero : byte = 0
      · simp [remembered, lastNonzeroWritten, written, carries, current,
          shutdown, zero]
      · simp [remembered, lastNonzeroWritten, written, carries,
          shutdown ▸ current, shutdown, zero]
    · simp [remembered, lastWritten, written, carries, current, shutdown]
  · simp [remembered, lastWritten, lastNonzeroWritten, written, carries,
      current]

/-! ## The device follows its history -/

/-- The device selects and holds what the history says. -/
structure Represents (history : List Access) (cmos : Cmos) : Prop where
  selection : selected history = some cmos.index
  inside : cmos.index.toNat < cmosMemSize
  contents : ∀ register (within : register.toNat < cmosMemSize),
    cmos.data ⟨register.toNat, within⟩ = remembered register history

theorem silent_of_selects
    {access : Access} {register : UInt8}
    (selects : access.selects = some register) :
    access.carries = none ∧ access.touchesData = false := by
  rcases eq_write_of_selects selects with ⟨byte, rfl, rfl⟩
  exact ⟨rfl, rfl⟩

theorem eq_write_of_carries
    {access : Access} {byte : UInt8} (carries : access.carries = some byte) :
    access = .write pioPortCmosData byte 1 := by
  cases access with
  | read => simp [Access.carries] at carries
  | write port cell size =>
      simp only [Access.carries] at carries
      split_ifs at carries with addressed
      rcases addressed with ⟨rfl, rfl⟩
      cases carries
      rfl

theorem eq_read_of_silent
    {access : Access} (touches : access.touchesData = true)
    (silent : access.carries = none) :
    ∃ now cell, access = .read now pioPortCmosData cell 1 := by
  rcases cases_of_touchesData touches with read | ⟨byte, rfl⟩
  · exact read
  · cases silent

/-- A data read resets the selection and nothing else. -/
theorem afterAccess_read
    {cmos : Cmos} (inside : cmos.index.toNat < cmosMemSize)
    (now : Tm) (cell : UInt8) :
    afterAccess cmos (.read now pioPortCmosData cell 1) =
      some cmos.resetIndex := by
  rw [afterAccess, run_read_data, Cmos.dataAt, dif_pos inside]
  cases synthesised cmos.index now with
  | some byte => rfl
  | none => rfl

/-- A data write changes the selected cell only. -/
theorem afterAccess_write
    {cmos : Cmos} (inside : cmos.index.toNat < cmosMemSize) (byte : UInt8) :
    ∃ next, afterAccess cmos (.write pioPortCmosData byte 1) = some next ∧
      next.index = cmosRegStatD ∧
      ∀ register (within : register.toNat < cmosMemSize),
        next.data ⟨register.toNat, within⟩ =
          if cmos.index = register ∧
              ¬ (register = cmosRegShutdown ∧ byte = 0) then byte
          else cmos.data ⟨register.toNat, within⟩ := by
  rw [afterAccess, run_write_data, Cmos.setData, dif_pos inside]
  split_ifs with discarded
  · refine ⟨cmos.resetIndex, rfl, rfl, ?_⟩
    intro register within
    rw [if_neg]
    · rfl
    · rintro ⟨rfl, kept⟩
      exact kept discarded
  · refine ⟨_, rfl, rfl, ?_⟩
    intro register within
    by_cases same : cmos.index = register
    · subst same
      simp [Cmos.resetIndex, discarded]
    · have apart : register.toNat ≠ cmos.index.toNat := by
        intro equal
        exact same (UInt8.toNat_inj.mp equal).symm
      simp [Cmos.resetIndex, same, apart]

theorem represents_step
    {history : List Access} {cmos : Cmos} (access : Access)
    (represents : Represents history cmos) :
    ∃ next, afterAccess cmos access = some next ∧
      Represents (access :: history) next := by
  rcases represents with ⟨selection, inside, contents⟩
  cases selects : access.selects with
  | some register =>
      rcases silent_of_selects selects with ⟨silent, untouched⟩
      refine ⟨_, afterAccess_of_selects cmos selects, ?_,
        inside_of_selects selects, ?_⟩
      · simp [selected, selects, untouched]
      · intro other within
        rw [remembered_of_silent silent]
        exact contents other within
  | none =>
      cases touches : access.touchesData with
      | false =>
          have silent : access.carries = none := by
            cases carries : access.carries with
            | none => rfl
            | some byte =>
                rw [eq_write_of_carries carries] at touches
                cases touches
          refine ⟨cmos, afterAccess_of_untouched cmos selects touches,
            ?_, inside, ?_⟩
          · simpa [selected, selects, touches] using selection
          · intro other within
            rw [remembered_of_silent silent]
            exact contents other within
      | true =>
          have reset : selected (access :: history) = some cmosRegStatD := by
            simp [selected, touches]
          cases carries : access.carries with
          | none =>
              rcases eq_read_of_silent touches carries with ⟨now, cell, rfl⟩
              refine ⟨_, afterAccess_read inside now cell, reset,
                show cmosRegStatD.toNat < cmosMemSize by decide, ?_⟩
              intro other within
              rw [remembered_of_silent carries]
              exact contents other within
          | some byte =>
              rcases afterAccess_write inside byte with
                ⟨next, taken, index, stored⟩
              rw [← eq_write_of_carries carries] at taken
              refine ⟨next, taken, ?_, ?_, ?_⟩
              · rw [reset, index]
              · rw [index]
                decide
              · intro other within
                rw [stored, remembered_of_carries carries, selection,
                  contents]
                simp

theorem represents_run
    {history : List Access} {cmos : Cmos} (accesses : List Access)
    (represents : Represents history cmos) :
    ∃ next, Run afterAccess cmos accesses next ∧
      Represents (accesses.reverse ++ history) next := by
  induction accesses generalizing history cmos with
  | nil => exact ⟨cmos, .refl, represents⟩
  | cons access later induction =>
      rcases represents_step access represents with ⟨middle, taken, holds⟩
      rcases induction holds with ⟨next, run, reached⟩
      refine ⟨next, Run.cons_iff.mpr ⟨middle, taken, run⟩, ?_⟩
      simpa using reached

/-! ## Sequences that begin with a selection -/

/-- The access which selects a register. -/
def selecting (byte : UInt8) : Access :=
  .write pioPortCmosIndex byte 1

/-- A selection makes a constructed device represent its history. -/
theorem represents_selecting (unset byte : UInt8) :
    ∃ cmos, afterAccess (.construct unset) (selecting byte) = some cmos ∧
      Represents [selecting byte] cmos := by
  have selects : (selecting byte).selects = some (byte &&& cmosIndexMask) :=
    rfl
  refine ⟨_, afterAccess_of_selects _ selects, ?_,
    and_indexMask_lt byte, ?_⟩
  · rfl
  · intro register within
    rw [remembered_of_silent (silent_of_selects selects).1]
    simp [remembered, lastWritten, lastNonzeroWritten, written,
      Cmos.construct]

/--
Over every sequence that begins with a selection, a data read returns what the
history remembers for the selected register, and every data access selects
status register D again.  Refused accesses change nothing in any state.
-/
theorem data_port_remembers
    (unset byte : UInt8) (accesses : List Access) :
    (∃ cmos,
      Run afterAccess (.construct unset) (selecting byte :: accesses) cmos ∧
      (∀ register now cell,
        selected (selecting byte :: accesses).reverse = some register →
        register ∉ clockAndStatus →
          cmos.read now pioPortCmosData cell 1 =
            .returned 0
              (remembered register (selecting byte :: accesses).reverse)
              cmos.resetIndex) ∧
      ∀ access : Access, access.touchesData = true →
        ∃ cell next, access.run cmos = .returned 0 cell next ∧
          next.index = cmosRegStatD) ∧
    ∀ (access : Access) (cmos : Cmos),
      (access.size ≠ 1 ∨
        access.port ≠ pioPortCmosIndex ∧ access.port ≠ pioPortCmosData) →
      access.run cmos = .returned 1 access.cell cmos := by
  refine ⟨?_, run_of_refused⟩
  rcases represents_selecting unset byte with ⟨start, taken, holds⟩
  rcases represents_run accesses holds with
    ⟨cmos, run, selection, inside, contents⟩
  rw [← List.reverse_cons] at selection contents
  refine ⟨cmos, Run.cons_iff.mpr ⟨start, taken, run⟩, ?_, ?_⟩
  · intro register now cell current plain
    rw [selection, Option.some.injEq] at current
    subst current
    refine (run_read_data cmos now cell).trans ?_
    rw [synthesised_of_not_mem plain, Cmos.dataAt, dif_pos inside,
      contents _ inside]
    rfl
  · intro access touches
    exact run_of_touchesData touches inside

/-- A byte survives an unrelated write and a selection with the NMI bit set. -/
theorem data_port_remembers_diagnostic :
    ∃ cmos,
      Run afterAccess (.construct 0xFF)
        [selecting 0x0E, .write pioPortCmosData 0x2A 1, selecting 0x0F,
          .write pioPortCmosData 0x05 1, selecting 0x8E] cmos ∧
      cmos.read ⟨0, 0, 0, 1, 0, 70, 4⟩ pioPortCmosData 0 1 =
        .returned 0 0x2A cmos.resetIndex := by
  rcases (data_port_remembers 0xFF 0x0E
    [.write pioPortCmosData 0x2A 1, selecting 0x0F,
      .write pioPortCmosData 0x05 1, selecting 0x8E]).1 with
    ⟨cmos, run, reads, -⟩
  exact ⟨cmos, run, reads 0x0E _ _ (by decide) (by decide)⟩

/-- The shutdown register still reads 5 after a zero was written to it. -/
theorem data_port_forgets_shutdown_zero :
    ¬ ∀ (unset byte : UInt8) (accesses : List Access) (cmos : Cmos)
        (register : UInt8) (now : Tm) (cell : UInt8),
      Run afterAccess (.construct unset) (selecting byte :: accesses) cmos →
      selected (selecting byte :: accesses).reverse = some register →
      register ∉ clockAndStatus →
        cmos.read now pioPortCmosData cell 1 =
          .returned 0
            (lastWritten register (selecting byte :: accesses).reverse)
            cmos.resetIndex := by
  intro claimed
  have read := claimed 0 cmosRegShutdown
    [.write pioPortCmosData 5 1, selecting cmosRegShutdown,
      .write pioPortCmosData 0 1, selecting cmosRegShutdown]
    _ cmosRegShutdown ⟨0, 0, 0, 1, 0, 70, 4⟩ 0
    (Run.iff_foldlM.mpr rfl) (by decide) (by decide)
  injection read with _ sameByte
  exact absurd sameByte (by decide)

end Lvmm.Device.CmosMemory
