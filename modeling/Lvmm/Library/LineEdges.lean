import Mathlib.Logic.Basic
import Mathlib.Order.Basic

/-!
# Edges of a line

An observer counts the steps of a system and notes when a line last went from low
to high.  A mark is the time of some event.  A party that lowers the line after a
mark and raises it again later has answered the mark, although the edge may be the
work of another one which raised the line in between.

Two events, each of which is answered unless the other one comes after it, are
both answered: the later of the two is not followed by the other.
-/

namespace Lvmm.Library.LineEdges

/-- The number of steps so far and the time of the last rise. -/
structure EdgeLog where
  clock : Nat := 0
  lastRise : Option Nat := none
deriving DecidableEq

/-- The log after a step which took the line from one level to another. -/
def EdgeLog.record (log : EdgeLog) (before after : Bool) : EdgeLog :=
  { clock := log.clock + 1
    lastRise := if !before && after then some log.clock else log.lastRise }

/-- The marked event, if there is one, has happened. -/
def Past (mark : Option Nat) (log : EdgeLog) : Prop :=
  ∀ time, mark = some time → time < log.clock

/-- The line has risen after the marked event, if there is one. -/
def RoseSince (mark : Option Nat) (log : EdgeLog) : Prop :=
  ∀ time, mark = some time →
    ∃ rise, log.lastRise = some rise ∧ time < rise

/-- Both events happened, the first one earlier. -/
def Before (first second : Option Nat) : Prop :=
  ∃ early late, first = some early ∧ second = some late ∧ early < late

/-- The line has risen after the event, or the other event came after it. -/
def Answered (mark other : Option Nat) (log : EdgeLog) : Prop :=
  RoseSince mark log ∨ Before mark other

/-- The line is low, or it has risen after the event. -/
def LowOrRose (line : Bool) (mark : Option Nat) (log : EdgeLog) : Prop :=
  line = false ∨ RoseSince mark log

variable {log : EdgeLog} {mark other : Option Nat} {before after : Bool}

/-! ## One step -/

theorem past_none (log : EdgeLog) : Past none log := by
  rintro time ⟨⟩

theorem Past.record (past : Past mark log) (before after : Bool) :
    Past mark (log.record before after) :=
  fun time marked => Nat.lt_succ_of_lt (past time marked)

/-- An event of the step itself has happened once the step is recorded. -/
theorem past_now (log : EdgeLog) (before after : Bool) :
    Past (some log.clock) (log.record before after) := by
  rintro time ⟨⟩
  exact Nat.lt_succ_self _

theorem roseSince_none (log : EdgeLog) : RoseSince none log := by
  rintro time ⟨⟩

/-- A later rise only helps. -/
theorem RoseSince.record
    (rose : RoseSince mark log) (past : Past mark log)
    (before after : Bool) :
    RoseSince mark (log.record before after) := by
  intro time marked
  rcases rose time marked with ⟨rise, recorded, later⟩
  cases rises : !before && after with
  | true =>
      exact ⟨log.clock, by simp [EdgeLog.record, rises], past time marked⟩
  | false => exact ⟨rise, by simpa [EdgeLog.record, rises], later⟩

/-- Between the halves of a flap every step keeps the line low or risen. -/
theorem LowOrRose.record
    (lowOrRose : LowOrRose before mark log) (past : Past mark log)
    (after : Bool) :
    LowOrRose after mark (log.record before after) := by
  rcases lowOrRose with low | rose
  · subst low
    cases after with
    | false => exact Or.inl rfl
    | true =>
        right
        intro time marked
        exact ⟨log.clock, rfl, past time marked⟩
  · exact Or.inr (rose.record past before after)

/-- The raising half of a flap answers the event. -/
theorem LowOrRose.raised
    (lowOrRose : LowOrRose before mark log) (past : Past mark log) :
    RoseSince mark (log.record before true) :=
  (lowOrRose.record past true).resolve_left (by simp)

theorem Answered.record
    (answered : Answered mark other log) (past : Past mark log)
    (before after : Bool) :
    Answered mark other (log.record before after) :=
  answered.imp_left fun rose => rose.record past before after

/-- The other event, happening now, comes after every earlier one. -/
theorem answered_now
    (past : Past mark log) (record : EdgeLog) :
    Answered mark (some log.clock) record := by
  cases mark with
  | none => exact Or.inl (roseSince_none record)
  | some time => exact Or.inr ⟨time, log.clock, rfl, rfl, past time rfl⟩

/-! ## Two events -/

/-- A rise after a later event is one after the earlier event. -/
theorem RoseSince.earlier
    (rose : RoseSince other log) (ordered : Before mark other) :
    RoseSince mark log := by
  rcases ordered with ⟨early, late, earlyMarked, lateMarked, order⟩
  rcases rose late lateMarked with ⟨rise, recorded, later⟩
  intro time marked
  cases earlyMarked.symm.trans marked
  exact ⟨rise, recorded, Nat.lt_trans order later⟩

theorem Before.asymm (ordered : Before mark other) :
    ¬ Before other mark := by
  rcases ordered with ⟨early, late, rfl, rfl, order⟩
  rintro ⟨first, second, firstMarked, secondMarked, reversed⟩
  cases firstMarked
  cases secondMarked
  exact Nat.lt_asymm order reversed

/-- Two events, each answered unless the other one follows it, are answered. -/
theorem roseSince_both
    (first : Answered mark other log) (second : Answered other mark log) :
    RoseSince mark log ∧ RoseSince other log := by
  rcases first with rose | ordered
  · rcases second with otherRose | reversed
    · exact ⟨rose, otherRose⟩
    · exact ⟨rose, rose.earlier reversed⟩
  · rcases second with otherRose | reversed
    · exact ⟨otherRose.earlier ordered, otherRose⟩
    · exact absurd reversed ordered.asymm

end Lvmm.Library.LineEdges
