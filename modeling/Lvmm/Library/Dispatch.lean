import Mathlib.Data.List.Perm.Subperm

/-!
# Items sent to one of two outlets

A producer hands over items one after another.  Each of them goes to the left
outlet, to the right one, or is dropped.
-/

namespace Lvmm.Library.Dispatch

variable {Item : Type*}

/--
Each outlet got items in the order they were handed over, and no item went to
both.  Nothing is missing when nothing may be dropped.
-/
structure Dispatched
    (lossless : Prop) (items left right : List Item) : Prop where
  leftOrder : left.Sublist items
  rightOrder : right.Sublist items
  once : (left ++ right).Subperm items
  all : lossless → (left ++ right).Perm items

namespace Dispatched

variable {before after : Prop} {items left right : List Item}

theorem nil (lossless : Prop) :
    Dispatched lossless ([] : List Item) [] [] :=
  ⟨.slnil, .slnil, .refl [], fun _ => .refl []⟩

theorem weaken
    (weaker : after → before) (dispatched : Dispatched before items left right) :
    Dispatched after items left right :=
  { dispatched with all := fun lossless => dispatched.all (weaker lossless) }

theorem toLeft
    (dispatched : Dispatched before items left right) (item : Item) :
    Dispatched before (items ++ [item]) (left ++ [item]) right := by
  have moved :
      (left ++ [item] ++ right).Perm (left ++ right ++ [item]) := by
    rw [List.append_assoc, List.append_assoc]
    exact List.Perm.append_left left List.perm_append_comm
  refine ⟨dispatched.leftOrder.append_right [item],
    dispatched.rightOrder.trans (List.sublist_append_left items [item]), ?_, ?_⟩
  · exact moved.subperm.trans
      ((List.subperm_append_right [item]).mpr dispatched.once)
  · intro lossless
    exact moved.trans ((dispatched.all lossless).append_right [item])

theorem toRight
    (dispatched : Dispatched before items left right) (item : Item) :
    Dispatched before (items ++ [item]) left (right ++ [item]) := by
  refine ⟨dispatched.leftOrder.trans (List.sublist_append_left items [item]),
    dispatched.rightOrder.append_right [item], ?_, ?_⟩
  · rw [← List.append_assoc]
    exact (List.subperm_append_right [item]).mpr dispatched.once
  · intro lossless
    rw [← List.append_assoc]
    exact (dispatched.all lossless).append_right [item]

/-- A dropped item counts against losslessness. -/
theorem drop
    (dispatched : Dispatched before items left right) (item : Item)
    (lossy : ¬ after) :
    Dispatched after (items ++ [item]) left right where
  leftOrder :=
    dispatched.leftOrder.trans (List.sublist_append_left items [item])
  rightOrder :=
    dispatched.rightOrder.trans (List.sublist_append_left items [item])
  once :=
    dispatched.once.trans (List.sublist_append_left items [item]).subperm
  all := fun lossless => absurd lossless lossy

end Dispatched

end Lvmm.Library.Dispatch
