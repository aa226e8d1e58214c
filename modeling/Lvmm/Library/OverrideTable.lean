import Mathlib.Data.List.Basic

/-!
# Tables filled by overlapping updates

An update overwrites the keys it covers.  After any sequence of updates, a key
holds what the last update covering it put there, and what it held before when
none covers it.
-/

namespace Lvmm.Library.OverrideTable

universe u v w

variable {Key : Type u} {Value : Type v} {Item : Type w}

/-! ## The last matching item of a list -/

/-- The last item which satisfies a test. -/
@[grind =]
def lastWhere (test : Item → Bool) : List Item → Option Item
  | [] => none
  | item :: rest =>
      match lastWhere test rest with
      | some later => some later
      | none => if test item then some item else none

theorem lastWhere_append
    (test : Item → Bool) (front back : List Item) :
    lastWhere test (front ++ back) =
      (lastWhere test back).or (lastWhere test front) := by
  induction front with
  | nil => simp [lastWhere]
  | cons item rest induction =>
      rw [List.cons_append, lastWhere, induction]
      cases later : lastWhere test back with
      | some found => simp
      | none =>
          rw [lastWhere]
          simp

theorem lastWhere_some
    {test : Item → Bool} {items : List Item} {found : Item}
    (last : lastWhere test items = some found) :
    found ∈ items ∧ test found = true := by
  induction items with
  | nil => cases last
  | cons item rest induction =>
      rw [lastWhere] at last
      cases later : lastWhere test rest with
      | some other =>
          rw [later] at last
          cases last
          rcases induction later with ⟨member, passes⟩
          exact ⟨List.mem_cons_of_mem _ member, passes⟩
      | none =>
          rw [later] at last
          by_cases passes : test item = true
          · simp only [passes, if_true, Option.some.injEq] at last
            subst last
            exact ⟨List.mem_cons_self, passes⟩
          · simp [passes] at last

theorem lastWhere_eq_none_iff
    {test : Item → Bool} {items : List Item} :
    lastWhere test items = none ↔
      ∀ item ∈ items, test item = false := by
  induction items with
  | nil => simp [lastWhere]
  | cons item rest induction =>
      rw [lastWhere]
      cases later : lastWhere test rest with
      | some found =>
          rcases lastWhere_some later with ⟨member, passes⟩
          constructor
          · intro impossible
            cases impossible
          · intro allFail
            have fails := allFail found (List.mem_cons_of_mem _ member)
            rw [passes] at fails
            cases fails
      | none =>
          have restFails := induction.mp later
          by_cases passes : test item = true
          · simp [passes]
          · simpa [passes] using restFails

/-- A stronger test finds the same item as soon as that item passes it. -/
theorem lastWhere_of_stronger
    {weak strong : Item → Bool} {items : List Item} {found : Item}
    (stronger : ∀ item ∈ items, strong item = true → weak item = true)
    (last : lastWhere weak items = some found)
    (passes : strong found = true) :
    lastWhere strong items = some found := by
  induction items with
  | nil => cases last
  | cons item rest induction =>
      have restStronger : ∀ other ∈ rest,
          strong other = true → weak other = true :=
        fun other member =>
          stronger other (List.mem_cons_of_mem _ member)
      rw [lastWhere] at last
      rw [lastWhere]
      cases later : lastWhere weak rest with
      | some other =>
          rw [later] at last
          cases last
          rw [induction restStronger later]
      | none =>
          rw [later] at last
          have strongNone : lastWhere strong rest = none := by
            rw [lastWhere_eq_none_iff] at later ⊢
            intro other member
            cases passesOther : strong other with
            | false => rfl
            | true =>
                have impossible := restStronger other member passesOther
                rw [later other member] at impossible
                cases impossible
          have same : item = found := by
            by_cases weakPasses : weak item = true
            · simpa [weakPasses] using last
            · simp [weakPasses] at last
          rw [strongNone, same, if_pos passes]

theorem lastWhere_map
    {Source : Type*} (test : Item → Bool) (convert : Source → Item)
    (items : List Source) :
    lastWhere test (items.map convert) =
      (lastWhere (fun item => test (convert item)) items).map convert := by
  induction items with
  | nil => rfl
  | cons item rest induction =>
      rw [List.map_cons, lastWhere, induction, lastWhere]
      cases lastWhere (fun item => test (convert item)) rest with
      | some later => rfl
      | none =>
          by_cases passes : test (convert item) = true <;>
            simp [passes]

/-! ## Updates -/

/-- An update of a table: the keys it covers and what it puts there. -/
structure Update (Key : Type u) (Value : Type v) where
  covers : Key → Bool
  value : Key → Value

def Update.apply (update : Update Key Value) (table : Key → Value) :
    Key → Value :=
  fun key => if update.covers key then update.value key else table key

/-- Apply several updates, the first one first. -/
def applyAll (table : Key → Value) (updates : List (Update Key Value)) :
    Key → Value :=
  updates.foldl (fun current update => update.apply current) table

/-- Overlapping updates resolve by recency at every key. -/
theorem applyAll_eq
    (table : Key → Value) (updates : List (Update Key Value)) (key : Key) :
    applyAll table updates key =
      match lastWhere (fun update => update.covers key) updates with
      | some update => update.value key
      | none => table key := by
  induction updates generalizing table with
  | nil => rfl
  | cons update rest induction =>
      change applyAll (update.apply table) rest key = _
      rw [induction, lastWhere]
      cases lastWhere (fun update => update.covers key) rest with
      | some later => rfl
      | none =>
          by_cases covered : update.covers key = true <;>
            simp [Update.apply, covered]

end Lvmm.Library.OverrideTable
