import Mathlib.Logic.Function.Basic
import Lvmm.Device.CmosAccess

/-!
# The CMOS with any number of virtual CPUs

`CMOS::Read` and `CMOS::Write` take no lock.  Here an access is a sequence of
atomic steps, one for each load or store of the index byte and of the data array,
and the steps of all virtual CPUs interleave.

The source writes `index` anew in a test, in a subscript and on the left of an
assignment, and each of them is a load or store of its own: between two of them
another CPU may select another register.
-/

namespace Lvmm.Device.CmosSmp

open Lvmm.Device.CmosAccess
open Lvmm.Device.CmosDevice
open Lvmm.Library.LabelledRun

/-! ## Program points of an access -/

/-- What an atomic step does to the device. -/
inductive Effect where
  | nothing
  | select (index : UInt8)
  | store (register : Fin cmosMemSize) (byte : UInt8)
deriving DecidableEq

/-- The device after an effect. -/
@[grind =]
def Effect.apply (cmos : Cmos) : Effect → Cmos
  | .nothing => cmos
  | .select index => { cmos with index }
  | .store register byte =>
      { cmos with data := Function.update cmos.data register byte }

/-- What a thread has left of an access, or how the access ended. -/
inductive Pc where
  | returned (result : Int) (stored : Option UInt8)
  | outOfBounds
  -- `CMOS::Read`
  | readIndex
  | readSwitch (now : Tm)
  | readSubscript
  | readData (index : UInt8)
  | readReset (byte : UInt8)
  -- `CMOS::Write`
  | writeIndex (byte : UInt8)
  | writeTest (byte : UInt8)
  | writeSubscript (byte : UInt8)
  | writeData (index byte : UInt8)
  | writeReset
deriving DecidableEq

/-- Where an access begins: at the case of its port, if its size is one byte. -/
@[grind =]
def Pc.entry : Access → Pc
  | .read now port _ size =>
      if size ≠ 1 then .returned 1 none
      else if port = pioPortCmosIndex then .readIndex
      else if port = pioPortCmosData then .readSwitch now
      else .returned 1 none
  | .write port cell size =>
      if size ≠ 1 then .returned 1 none
      else if port = pioPortCmosIndex then .writeIndex cell
      else if port = pioPortCmosData then .writeTest cell
      else .returned 1 none

/-- One atomic step of an access: its effect and what is left. -/
@[grind =]
def Pc.step (cmos : Cmos) : Pc → Option (Effect × Pc)
  | .returned _ _ => none
  | .outOfBounds => none
  | .readIndex => some (.nothing, .returned 0 (some cmos.index))
  | .readSwitch now =>
      some (.nothing,
        match synthesised cmos.index now with
        | some byte => .readReset byte
        | none => .readSubscript)
  | .readSubscript => some (.nothing, .readData cmos.index)
  | .readData index =>
      some (.nothing,
        if inside : index.toNat < cmosMemSize then
          .readReset (cmos.data ⟨index.toNat, inside⟩)
        else .outOfBounds)
  | .readReset byte => some (.select cmosRegStatD, .returned 0 (some byte))
  | .writeIndex byte =>
      some (.select (byte &&& cmosIndexMask), .returned 0 none)
  | .writeTest byte =>
      some (.nothing,
        if cmos.index = cmosRegShutdown ∧ byte = 0 then .writeReset
        else .writeSubscript byte)
  | .writeSubscript byte => some (.nothing, .writeData cmos.index byte)
  | .writeData index byte =>
      if inside : index.toNat < cmosMemSize then
        some (.store ⟨index.toNat, inside⟩ byte, .writeReset)
      else some (.nothing, .outOfBounds)
  | .writeReset => some (.select cmosRegStatD, .returned 0 none)

/-! ## An access which is not interrupted -/

/-- The device and the program point after some steps of one thread. -/
@[grind =]
def alone : Nat → Cmos × Pc → Cmos × Pc
  | 0, state => state
  | steps + 1, (cmos, pc) =>
      match pc.step cmos with
      | none => (cmos, pc)
      | some (effect, next) => alone steps (effect.apply cmos, next)

/-- The steps ended as the run of the whole access, whose cell was offered. -/
def EndsAs (offered : UInt8) (before : Cmos) (left : Cmos × Pc) :
    CmosRun → Prop
  | .returned result cell cmos =>
      ∃ stored, left = (cmos, .returned result stored) ∧
        stored.getD offered = cell
  | .outOfBounds => left = (before, .outOfBounds)

theorem alone_read
    (cmos : Cmos) (now : Tm) (port : UInt16) (cell size : UInt8) :
    EndsAs cell cmos (alone 4 (cmos, .entry (.read now port cell size)))
      (cmos.read now port cell size) := by
  by_cases oneByte : size = 1
  · by_cases atIndex : port = pioPortCmosIndex
    · simp [Pc.entry, Cmos.read, oneByte, atIndex, alone, Pc.step,
        Effect.apply, EndsAs]
    · by_cases atData : port = pioPortCmosData
      · cases fixed : synthesised cmos.index now with
        | some byte =>
            simp [Pc.entry, Cmos.read, oneByte, atData, data_ne_index, alone,
              Pc.step, fixed, Effect.apply, EndsAs, Cmos.resetIndex]
        | none =>
            by_cases inside : cmos.index.toNat < cmosMemSize
            · simp [Pc.entry, Cmos.read, oneByte, atData, data_ne_index,
                alone, Pc.step, fixed, Effect.apply, EndsAs, Cmos.resetIndex,
                Cmos.dataAt, inside]
            · simp [Pc.entry, Cmos.read, oneByte, atData, data_ne_index,
                alone, Pc.step, fixed, Effect.apply, EndsAs, Cmos.dataAt,
                inside]
      · simp [Pc.entry, Cmos.read, oneByte, atIndex, atData, alone, Pc.step,
          EndsAs]
  · simp [Pc.entry, Cmos.read, oneByte, alone, Pc.step, EndsAs]

theorem alone_write
    (cmos : Cmos) (port : UInt16) (cell size : UInt8) :
    EndsAs cell cmos (alone 4 (cmos, .entry (.write port cell size)))
      (cmos.write port cell size) := by
  by_cases oneByte : size = 1
  · by_cases atIndex : port = pioPortCmosIndex
    · simp [Pc.entry, Cmos.write, oneByte, atIndex, alone, Pc.step,
        Effect.apply, EndsAs]
    · by_cases atData : port = pioPortCmosData
      · by_cases shutdown : cmos.index = cmosRegShutdown ∧ cell = 0
        · simp [Pc.entry, Cmos.write, oneByte, atData, data_ne_index, alone,
            Pc.step, shutdown, Effect.apply, EndsAs, Cmos.resetIndex]
        · by_cases inside : cmos.index.toNat < cmosMemSize
          · have stored :
                (fun register =>
                    if register = ⟨cmos.index.toNat, inside⟩ then cell
                    else cmos.data register) =
                  Function.update cmos.data ⟨cmos.index.toNat, inside⟩
                    cell := by
              funext register
              rw [Function.update_apply]
            simp [Pc.entry, Cmos.write, oneByte, atData, data_ne_index,
              alone, Pc.step, shutdown, Effect.apply, EndsAs,
              Cmos.resetIndex, Cmos.setData, inside, stored]
          · simp [Pc.entry, Cmos.write, oneByte, atData, data_ne_index,
              alone, Pc.step, shutdown, Effect.apply, EndsAs, Cmos.setData,
              inside]
      · simp [Pc.entry, Cmos.write, oneByte, atIndex, atData, alone, Pc.step,
          EndsAs]
  · simp [Pc.entry, Cmos.write, oneByte, alone, Pc.step, EndsAs]

/-- The atomic steps of an access, taken alone, do what the function does. -/
theorem alone_access (cmos : Cmos) (access : Access) :
    EndsAs access.cell cmos (alone 4 (cmos, .entry access)) (access.run cmos) := by
  cases access with
  | read now port cell size => exact alone_read cmos now port cell size
  | write port cell size => exact alone_write cmos port cell size

/-! ## Writes store nothing in the cell -/

/-- The program point of a write access. -/
def Pc.Writing : Pc → Prop
  | .returned _ stored => stored = none
  | .outOfBounds | .writeIndex _ | .writeTest _ | .writeSubscript _
  | .writeData _ _ | .writeReset => True
  | .readIndex | .readSwitch _ | .readSubscript | .readData _
  | .readReset _ => False

theorem writing_entry (port : UInt16) (cell size : UInt8) :
    (Pc.entry (.write port cell size)).Writing := by
  simp only [Pc.entry]
  split_ifs <;> trivial

theorem writing_step
    {cmos : Cmos} {pc next : Pc} {effect : Effect} (writing : pc.Writing)
    (taken : pc.step cmos = some (effect, next)) : next.Writing := by
  cases pc with
  | returned | outOfBounds => cases taken
  | readIndex | readSwitch | readSubscript | readData | readReset =>
      exact writing.elim
  | writeIndex | writeSubscript | writeReset =>
      cases taken
      trivial
  | writeTest byte =>
      cases taken
      split_ifs <;> trivial
  | writeData index byte =>
      simp only [Pc.step] at taken
      split_ifs at taken <;> cases taken <;> trivial

/-! ## All threads -/

section Threads

variable {Cpu : Type*}

/-- The device and where every thread is. -/
structure Smp (Cpu : Type*) where
  cmos : Cmos
  cpus : Cpu → Pc

/-- A constructed device and no access in progress. -/
def Smp.fresh (index : UInt8) : Smp Cpu :=
  { cmos := .construct index, cpus := fun _ => .returned 0 none }

/-- The beginning of an access, or a step of one. -/
inductive Label (Cpu : Type*) where
  | begin (cpu : Cpu) (access : Access)
  | advance (cpu : Cpu)

variable [DecidableEq Cpu]

/-- One step of one thread. -/
@[grind =]
def step (source : Smp Cpu) : Label Cpu → Option (Smp Cpu)
  | .begin cpu access =>
      match source.cpus cpu with
      | .returned _ _ =>
          some
            { source with
              cpus := Function.update source.cpus cpu (.entry access) }
      | _ => none
  | .advance cpu =>
      ((source.cpus cpu).step source.cmos).map fun moved =>
        { cmos := moved.1.apply source.cmos
          cpus := Function.update source.cpus cpu moved.2 }

section Steps

variable {source target : Smp Cpu} {cpu : Cpu}

/-- The beginning of an access, on a CPU whose last one has returned. -/
theorem begin_of_step
    {access : Access}
    (taken : step source (.begin cpu access) = some target) :
    (∃ result stored, source.cpus cpu = .returned result stored) ∧
      target.cmos = source.cmos ∧
      target.cpus = Function.update source.cpus cpu (.entry access) := by
  rw [step] at taken
  split at taken
  · rename_i result stored pc
    cases taken
    exact ⟨⟨result, stored, pc⟩, rfl, rfl⟩
  · cases taken

/-- A step of an access. -/
theorem advance_of_step
    (taken : step source (.advance cpu) = some target) :
    ∃ effect next,
      (source.cpus cpu).step source.cmos = some (effect, next) ∧
        target.cmos = effect.apply source.cmos ∧
        target.cpus = Function.update source.cpus cpu next := by
  rcases Option.map_eq_some_iff.mp taken with ⟨⟨effect, next⟩, ran, rfl⟩
  exact ⟨effect, next, ran, rfl, rfl⟩

end Steps

/-! ## The array is not left -/

/-- The thread is not outside the array, nor about to leave it. -/
def Pc.Inside : Pc → Prop
  | .outOfBounds => False
  | .readData index => index.toNat < cmosMemSize
  | .writeData index _ => index.toNat < cmosMemSize
  | _ => True

/-- The index byte is inside the array, and so is every loaded one. -/
structure Inside (state : Smp Cpu) : Prop where
  index : state.cmos.index.toNat < cmosMemSize
  cpus : ∀ cpu, (state.cpus cpu).Inside

omit [DecidableEq Cpu] in
theorem inside_fresh {index : UInt8} (inside : index.toNat < cmosMemSize) :
    Inside (Smp.fresh index : Smp Cpu) :=
  ⟨inside, fun _ => trivial⟩

theorem entry_inside (access : Access) : (Pc.entry access).Inside := by
  cases access <;> simp only [Pc.entry] <;> split_ifs <;> trivial

/-- A step stays inside and leaves an index byte which is. -/
theorem inside_of_step
    {cmos : Cmos} {pc next : Pc} {effect : Effect}
    (index : cmos.index.toNat < cmosMemSize) (pcInside : pc.Inside)
    (taken : pc.step cmos = some (effect, next)) :
    (effect.apply cmos).index.toNat < cmosMemSize ∧ next.Inside := by
  cases pc with
  | returned result stored => cases taken
  | outOfBounds => cases taken
  | readIndex =>
      cases taken
      exact ⟨index, trivial⟩
  | readSwitch now =>
      cases taken
      refine ⟨index, ?_⟩
      cases synthesised cmos.index now <;> trivial
  | readSubscript =>
      cases taken
      exact ⟨index, index⟩
  | readData loaded =>
      simp only [Pc.step, dif_pos (show loaded.toNat < cmosMemSize from
        pcInside)] at taken
      cases taken
      exact ⟨index, trivial⟩
  | readReset byte =>
      cases taken
      exact ⟨show 0x0D < 128 by decide, trivial⟩
  | writeIndex byte =>
      cases taken
      exact ⟨and_indexMask_lt byte, trivial⟩
  | writeTest byte =>
      cases taken
      refine ⟨index, ?_⟩
      split_ifs <;> trivial
  | writeSubscript byte =>
      cases taken
      exact ⟨index, index⟩
  | writeData loaded byte =>
      simp only [Pc.step, dif_pos (show loaded.toNat < cmosMemSize from
        pcInside)] at taken
      cases taken
      exact ⟨index, trivial⟩
  | writeReset =>
      cases taken
      exact ⟨show 0x0D < 128 by decide, trivial⟩

/-- No step of any thread leads outside the array. -/
theorem inside_step
    {source target : Smp Cpu} {label : Label Cpu} (inside : Inside source)
    (taken : step source label = some target) : Inside target := by
  have moved (cpu : Cpu) (cmos : Cmos) (pc : Pc)
      (index : cmos.index.toNat < cmosMemSize) (pcInside : pc.Inside) :
      Inside { cmos, cpus := Function.update source.cpus cpu pc } := by
    refine ⟨index, ?_⟩
    change ∀ other, (Function.update source.cpus cpu pc other).Inside
    intro other
    by_cases same : other = cpu
    · subst same
      rwa [Function.update_self]
    · rw [Function.update_of_ne same]
      exact inside.cpus other
  rcases target with ⟨cmos, cpus⟩
  cases label with
  | begin cpu access =>
      rcases begin_of_step taken with ⟨_, rfl, rfl⟩
      exact moved cpu _ _ inside.index (entry_inside access)
  | advance cpu =>
      rcases advance_of_step taken with ⟨effect, next, ran, rfl, rfl⟩
      have kept := inside_of_step inside.index (inside.cpus cpu) ran
      exact moved cpu _ next kept.1 kept.2

end Threads

end Lvmm.Device.CmosSmp
