import Mathlib.Data.List.Induction

/-!
# Cell-addressed memory and bulk copies

A memory assigns one cell to every natural address.  A copy places a block of
cells at consecutive addresses, and a program that loads several blocks is the
fold of its copies.

The main theorem characterises when every block of such a program survives to
its end: exactly when any two blocks agree on the addresses they share.  No
bound on sizes and no order of the blocks is assumed.
-/

namespace Lvmm.Library.CellMemory

universe u

variable {Cell : Type u}

/-- A memory assigns a cell to every address. -/
abbrev Memory (Cell : Type u) := Nat → Cell

/-- A block of cells and the address of its first cell. -/
structure Copy (Cell : Type u) where
  start : Nat
  cells : List Cell

/-- The cell which a copy places at an address, if it covers the address. -/
def Copy.cellAt (copy : Copy Cell) (address : Nat) : Option Cell :=
  if copy.start ≤ address then copy.cells[address - copy.start]? else none

/-- Every cell of the copy lies below a limit. -/
def Copy.Below (copy : Copy Cell) (limit : Nat) : Prop :=
  ∀ index, index < copy.cells.length → copy.start + index < limit

theorem Copy.cellAt_index
    (copy : Copy Cell) (index : Nat)
    (bound : index < copy.cells.length) :
    copy.cellAt (copy.start + index) = some copy.cells[index] := by
  simp [Copy.cellAt, bound]

theorem Copy.cellAt_eq_some_iff
    (copy : Copy Cell) (address : Nat) (cell : Cell) :
    copy.cellAt address = some cell ↔
      ∃ index, ∃ bound : index < copy.cells.length,
        address = copy.start + index ∧ copy.cells[index] = cell := by
  constructor
  · intro covered
    by_cases above : copy.start ≤ address
    · rw [Copy.cellAt, if_pos above] at covered
      rcases List.getElem?_eq_some_iff.mp covered with ⟨bound, equal⟩
      exact ⟨address - copy.start, bound, by omega, equal⟩
    · simp [Copy.cellAt, above] at covered
  · rintro ⟨index, bound, rfl, rfl⟩
    exact copy.cellAt_index index bound

theorem Copy.cellAt_eq_none_iff
    (copy : Copy Cell) (address : Nat) :
    copy.cellAt address = none ↔
      address < copy.start ∨ copy.start + copy.cells.length ≤ address := by
  by_cases above : copy.start ≤ address
  · rw [Copy.cellAt, if_pos above, List.getElem?_eq_none_iff]
    omega
  · simp only [Copy.cellAt, if_neg above, true_iff]
    omega

theorem Copy.below_iff
    (copy : Copy Cell) (limit : Nat) :
    copy.Below limit ↔
      copy.cells = [] ∨ copy.start + copy.cells.length ≤ limit := by
  constructor
  · intro below
    by_cases empty : copy.cells = []
    · exact Or.inl empty
    · have positive : 0 < copy.cells.length :=
        List.length_pos_iff.mpr empty
      have last := below (copy.cells.length - 1) (by omega)
      exact Or.inr (by omega)
  · rintro (empty | fits) index bound
    · simp [empty] at bound
    · omega

/-- Store a block of cells. -/
def store (memory : Memory Cell) (copy : Copy Cell) : Memory Cell :=
  fun address => (copy.cellAt address).getD (memory address)

/-- Store several blocks, the first one first. -/
def storeAll (memory : Memory Cell) (copies : List (Copy Cell)) :
    Memory Cell :=
  copies.foldl store memory

/-- The memory holds the block. -/
def Holds (memory : Memory Cell) (copy : Copy Cell) : Prop :=
  ∀ index, ∀ bound : index < copy.cells.length,
    memory (copy.start + index) = copy.cells[index]

/-- Two blocks place the same cell at every address they share. -/
def Compatible (first second : Copy Cell) : Prop :=
  ∀ address left right,
    first.cellAt address = some left →
      second.cellAt address = some right → left = right

/-- The cells at `count` consecutive addresses. -/
def load (memory : Memory Cell) (start count : Nat) : List Cell :=
  (List.range count).map fun index => memory (start + index)

@[simp]
theorem load_length (memory : Memory Cell) (start count : Nat) :
    (load memory start count).length = count := by
  simp [load]

@[simp]
theorem load_getElem
    (memory : Memory Cell) (start count index : Nat)
    (bound : index < (load memory start count).length) :
    (load memory start count)[index] = memory (start + index) := by
  simp [load]

theorem load_congr
    {left right : Memory Cell} {start other count : Nat}
    (agree : ∀ index, index < count →
      left (start + index) = right (other + index)) :
    load left start count = load right other count := by
  apply List.map_congr_left
  intro index member
  exact agree index (List.mem_range.mp member)

theorem holds_iff_load (memory : Memory Cell) (copy : Copy Cell) :
    Holds memory copy ↔
      load memory copy.start copy.cells.length = copy.cells := by
  constructor
  · intro holds
    apply List.ext_getElem (by simp)
    intro index leftBound rightBound
    rw [load_getElem]
    exact holds index rightBound
  · intro loaded index bound
    have entry := congrArg (fun cells => cells[index]?) loaded
    simpa [load, bound] using entry

theorem holds_iff_cellAt (memory : Memory Cell) (copy : Copy Cell) :
    Holds memory copy ↔
      ∀ address cell,
        copy.cellAt address = some cell → memory address = cell := by
  constructor
  · intro holds address cell covered
    rcases (copy.cellAt_eq_some_iff address cell).mp covered with
      ⟨index, bound, rfl, rfl⟩
    exact holds index bound
  · intro agree index bound
    exact agree _ _ (copy.cellAt_index index bound)

theorem store_of_some
    {memory : Memory Cell} {copy : Copy Cell} {address : Nat} {cell : Cell}
    (covered : copy.cellAt address = some cell) :
    store memory copy address = cell := by
  simp [store, covered]

theorem store_of_none
    {memory : Memory Cell} {copy : Copy Cell} {address : Nat}
    (missed : copy.cellAt address = none) :
    store memory copy address = memory address := by
  simp [store, missed]

/-- A store leaves every address outside its block alone. -/
theorem store_outside
    (memory : Memory Cell) (copy : Copy Cell) (address : Nat)
    (outside :
      address < copy.start ∨
        copy.start + copy.cells.length ≤ address) :
    store memory copy address = memory address :=
  store_of_none ((copy.cellAt_eq_none_iff address).mpr outside)

/-- Inside a block of equal cells a store leaves that cell. -/
theorem store_replicate
    (memory : Memory Cell) (start count : Nat) (cell : Cell)
    {address : Nat}
    (above : start ≤ address) (below : address < start + count) :
    store memory ⟨start, List.replicate count cell⟩ address = cell := by
  apply store_of_some
  have inside : address - start < count := by omega
  simp [Copy.cellAt, above, inside]

/-- Two adjacent blocks may be stored as one. -/
theorem store_append
    (memory : Memory Cell) (start : Nat) (front back : List Cell) :
    store (store memory ⟨start, front⟩) ⟨start + front.length, back⟩ =
      store memory ⟨start, front ++ back⟩ := by
  funext address
  by_cases inFront : address < start + front.length
  · have missed :
        Copy.cellAt ⟨start + front.length, back⟩ address = none :=
      (Copy.cellAt_eq_none_iff _ _).mpr (Or.inl inFront)
    rw [store_of_none missed]
    by_cases above : start ≤ address
    · have bound : address - start < front.length := by omega
      simp [store, Copy.cellAt, above, List.getElem?_append_left bound]
    · simp [store, Copy.cellAt, above]
  · have beyond : front.length ≤ address - start := by omega
    have above : start ≤ address := by omega
    have aboveBack : start + front.length ≤ address := by omega
    have shifted :
        address - (start + front.length) =
          address - start - front.length := by
      omega
    simp [store, Copy.cellAt, above, aboveBack, shifted,
      List.getElem?_append_right beyond,
      List.getElem?_eq_none_iff.mpr beyond]

/-- A block just stored can be read back. -/
theorem holds_store (memory : Memory Cell) (copy : Copy Cell) :
    Holds (store memory copy) copy := by
  rw [holds_iff_cellAt]
  intro address cell covered
  exact store_of_some covered

/-- Two blocks held by one memory agree wherever they overlap. -/
theorem compatible_of_holds
    {memory : Memory Cell} {first second : Copy Cell}
    (firstHolds : Holds memory first)
    (secondHolds : Holds memory second) :
    Compatible first second := by
  intro address left right leftCovered rightCovered
  rw [holds_iff_cellAt] at firstHolds secondHolds
  rw [← firstHolds address left leftCovered,
    ← secondHolds address right rightCovered]

/-- A compatible store keeps a block which the memory holds. -/
theorem Holds.store
    {memory : Memory Cell} {first second : Copy Cell}
    (firstHolds : Holds memory first)
    (compatible : Compatible first second) :
    Holds (store memory second) first := by
  rw [holds_iff_cellAt] at firstHolds ⊢
  intro address cell covered
  cases overwritten : second.cellAt address with
  | none =>
      rw [store_of_none overwritten]
      exact firstHolds address cell covered
  | some other =>
      rw [store_of_some overwritten]
      exact (compatible address cell other covered overwritten).symm

theorem Compatible.of_disjoint
    {first second : Copy Cell}
    (disjoint :
      first.start + first.cells.length ≤ second.start ∨
        second.start + second.cells.length ≤ first.start) :
    Compatible first second := by
  intro address left right leftCovered rightCovered
  rcases (first.cellAt_eq_some_iff address left).mp leftCovered with
    ⟨leftIndex, leftBound, leftEqual, _⟩
  rcases (second.cellAt_eq_some_iff address right).mp rightCovered with
    ⟨rightIndex, rightBound, rightEqual, _⟩
  omega

theorem Compatible.symm
    {first second : Copy Cell} (compatible : Compatible first second) :
    Compatible second first := by
  intro address left right leftCovered rightCovered
  exact
    (compatible address right left rightCovered leftCovered).symm

theorem compatible_comm {first second : Copy Cell} :
    Compatible first second ↔ Compatible second first :=
  ⟨Compatible.symm, Compatible.symm⟩

/-- One list continues the other: what both have, they have alike. -/
def Agree (left right : List Cell) : Prop :=
  left <+: right ∨ right <+: left

theorem agree_iff_getElem? (left right : List Cell) :
    Agree left right ↔
      ∀ (index : Nat) (leftCell rightCell : Cell),
        left[index]? = some leftCell →
          right[index]? = some rightCell → leftCell = rightCell := by
  constructor
  · rintro (isPrefix | isPrefix) index leftCell rightCell inLeft inRight
    · rw [List.prefix_iff_getElem?] at isPrefix
      rcases List.getElem?_eq_some_iff.mp inLeft with ⟨bound, rfl⟩
      exact Option.some.inj ((isPrefix index bound).symm.trans inRight)
    · rw [List.prefix_iff_getElem?] at isPrefix
      rcases List.getElem?_eq_some_iff.mp inRight with ⟨bound, rfl⟩
      exact Option.some.inj (inLeft.symm.trans (isPrefix index bound))
  · intro alike
    rcases Nat.le_total left.length right.length with shorter | shorter
    · left
      rw [List.prefix_iff_getElem?]
      intro index bound
      have inRight :=
        List.getElem?_eq_getElem (Nat.lt_of_lt_of_le bound shorter)
      rw [inRight,
        alike index _ _ (List.getElem?_eq_getElem bound) inRight]
    · right
      rw [List.prefix_iff_getElem?]
      intro index bound
      have inLeft :=
        List.getElem?_eq_getElem (Nat.lt_of_lt_of_le bound shorter)
      rw [inLeft,
        alike index _ _ inLeft (List.getElem?_eq_getElem bound)]

/-- A block is compatible with a later one exactly when it runs on as that. -/
theorem compatible_iff_agree
    {first second : Copy Cell} (order : first.start ≤ second.start) :
    Compatible first second ↔
      Agree (first.cells.drop (second.start - first.start))
        second.cells := by
  rw [agree_iff_getElem?]
  have firstCell (index : Nat) :
      first.cellAt (second.start + index) =
        (first.cells.drop (second.start - first.start))[index]? := by
    have above : first.start ≤ second.start + index := by omega
    have shifted :
        second.start + index - first.start =
          second.start - first.start + index := by
      omega
    rw [Copy.cellAt, if_pos above, shifted, List.getElem?_drop]
  have secondCell (index : Nat) :
      second.cellAt (second.start + index) = second.cells[index]? := by
    rw [Copy.cellAt, if_pos (Nat.le_add_right _ _),
      Nat.add_sub_cancel_left]
  constructor
  · intro compatible index left right inFirst inSecond
    rw [← firstCell] at inFirst
    rw [← secondCell] at inSecond
    exact compatible _ _ _ inFirst inSecond
  · intro alike address left right leftCovered rightCovered
    rcases (second.cellAt_eq_some_iff address right).mp rightCovered with
      ⟨index, _, rfl, _⟩
    rw [firstCell] at leftCovered
    rw [secondCell] at rightCovered
    exact alike index left right leftCovered rightCovered

theorem storeAll_append
    (memory : Memory Cell) (front back : List (Copy Cell)) :
    storeAll memory (front ++ back) =
      storeAll (storeAll memory front) back := by
  simp [storeAll]

/--
Every block stored by a program is still there at its end exactly when the
blocks agree pairwise on the addresses they share.
-/
theorem holds_storeAll_iff
    (memory : Memory Cell) (copies : List (Copy Cell)) :
    (∀ copy ∈ copies, Holds (storeAll memory copies) copy) ↔
      copies.Pairwise Compatible := by
  constructor
  · intro holds
    refine List.Pairwise.imp_of_mem ?_
      (List.pairwise_of_forall fun _ _ => trivial)
    intro first second firstMember secondMember _
    exact compatible_of_holds
      (holds first firstMember) (holds second secondMember)
  · intro pairwise
    induction copies using List.reverseRecOn with
    | nil => simp
    | append_singleton front last induction =>
        rw [List.pairwise_append] at pairwise
        rcases pairwise with ⟨frontPairwise, _, across⟩
        intro copy member
        rw [storeAll_append]
        change Holds (store (storeAll memory front) last) copy
        rcases List.mem_append.mp member with inFront | isLast
        · exact (induction frontPairwise copy inFront).store
            (across copy inFront last (by simp))
        · have equal : copy = last := by simpa using isLast
          subst copy
          exact holds_store _ _

end Lvmm.Library.CellMemory
