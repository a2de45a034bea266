/-
This file is about naming cycles. A cycle is a list up to rotation, and its name
is the least of its rotations in the lexicographic order. Two lists have the
same name exactly when one is a rotation of the other, also when elements repeat
and several starts give the least rotation.

A program compares rotations element by element, with positions taken modulo
the length; this is the comparison of the rotated lists.
-/

import Mathlib.Data.List.Rotate
import DexArbitrage.Lib.Sorting

namespace DexArbitrage

open Std

/-! ### Rotations -/

section Rotations

variable {Element : Type}

/-- Lists whose images under an injective function are rotations of each other are so themselves. -/
theorem isRotated_map_iff {Image : Type} {image : Element → Image}
    (injective : Function.Injective image) {elements others : List Element} :
    (elements.map image).IsRotated (others.map image) ↔ elements.IsRotated others := by
  constructor
  · rintro ⟨start, same⟩
    rw [← List.map_rotate] at same
    exact ⟨start, List.map_injective_iff.mpr injective same⟩
  · exact fun isRotated => isRotated.map image

/-- The element at an offset from a start, when positions wrap around. -/
def cyclicEntry (elements : List Element) (start offset : Nat) : Option Element :=
  elements[(start + offset) % elements.length]?

theorem exists_cyclicEntry {elements : List Element} (nonempty : elements ≠ [])
    (start offset : Nat) : ∃ element, cyclicEntry elements start offset = some element :=
  ⟨_, List.getElem?_eq_getElem (Nat.mod_lt _ (List.length_pos_of_ne_nil nonempty))⟩

theorem filterMap_getElem? (elements : List Element) :
    (List.range elements.length).filterMap (fun position => elements[position]?) = elements := by
  induction elements with
  | nil => rfl
  | cons element rest inductionHypothesis =>
    have first : (element :: rest)[0]? = some element := rfl
    rw [List.length_cons, List.range_succ_eq_map, List.filterMap_cons_some first,
      List.filterMap_map]
    exact congrArg (element :: ·) inductionHypothesis

/-- Reading all offsets from a start is rotating the list. -/
theorem filterMap_cyclicEntry (elements : List Element) (start : Nat) :
    (List.range elements.length).filterMap (cyclicEntry elements start) =
      elements.rotate start := by
  have asRotated : ∀ offset ∈ List.range elements.length,
      cyclicEntry elements start offset = (elements.rotate start)[offset]? := by
    intro offset inRange
    rw [List.getElem?_rotate (List.mem_range.mp inRange), Nat.add_comm]
    rfl
  have whole := filterMap_getElem? (elements.rotate start)
  rw [List.length_rotate] at whole
  rw [List.filterMap_congr asRotated, whole]

end Rotations

/-! ### The least rotation -/

section LeastRotation

variable {Element : Type} [Ord Element]

/-- The position where the least rotation starts, the first one when there are several. -/
def leastStart (elements : List Element) : Nat :=
  (minBy (compareOn elements.rotate) (List.range elements.length)).getD 0

def leastRotation (elements : List Element) : List Element :=
  elements.rotate (leastStart elements)

theorem leastRotation_isRotated (elements : List Element) :
    (leastRotation elements).IsRotated elements :=
  List.IsRotated.forall elements _

theorem leastStart_spec [TransOrd Element] {elements : List Element} (nonempty : elements ≠ []) :
    leastStart elements < elements.length ∧ ∀ start < elements.length,
      (compare (leastRotation elements) (elements.rotate start)).isLE := by
  have someStart : List.range elements.length ≠ [] := by
    rw [Ne, List.range_eq_nil]
    exact fun empty => nonempty (List.length_eq_zero_iff.mp empty)
  obtain ⟨best, found, inRange, smallest⟩ :=
    exists_minBy (compareOn elements.rotate) someStart
  have isBest : leastStart elements = best := by
    unfold leastStart
    rw [found, Option.getD_some]
  unfold leastRotation
  rw [isBest]
  exact ⟨List.mem_range.mp inRange, fun start within => smallest start (List.mem_range.mpr within)⟩

/-- The least rotation is not above any rotation. -/
theorem isLE_leastRotation [TransOrd Element] {elements rotated : List Element}
    (isRotated : rotated.IsRotated elements) :
    (compare (leastRotation elements) rotated).isLE := by
  by_cases empty : elements = []
  · rw [empty] at isRotated ⊢
    rw [List.isRotated_nil_iff.mp isRotated]
    exact ReflOrd.isLE_rfl
  · obtain ⟨start, within, rfl⟩ := List.isRotated_iff_mod.mp isRotated.symm
    rw [← List.rotate_mod]
    exact (leastStart_spec empty).2 _ (Nat.mod_lt _ (List.length_pos_of_ne_nil empty))

/-- Two lists are rotations of each other exactly when their least rotations are equal. -/
theorem leastRotation_eq_iff [TransOrd Element] [LawfulEqOrd Element]
    {elements others : List Element} :
    leastRotation elements = leastRotation others ↔ elements.IsRotated others := by
  constructor
  · intro same
    exact (leastRotation_isRotated elements).symm.trans (same ▸ leastRotation_isRotated others)
  · intro isRotated
    refine LawfulEqCmp.compare_eq_iff_eq.mp (OrientedCmp.isLE_antisymm
      (isLE_leastRotation ?_) (isLE_leastRotation ?_))
    · exact (leastRotation_isRotated others).trans isRotated.symm
    · exact (leastRotation_isRotated elements).trans isRotated

/-- The comparison of the elements at some offsets from two starts, which ends with the first pair
that differs. -/
def compareOffsets (elements : List Element) (left right : Nat) : List Nat → Ordering
  | [] => .eq
  | offset :: rest =>
    match compare (cyclicEntry elements left offset) (cyclicEntry elements right offset) with
    | .eq => compareOffsets elements left right rest
    | different => different

theorem compareOffsets_cons (elements : List Element) (left right offset : Nat)
    (rest : List Nat) :
    compareOffsets elements left right (offset :: rest) =
      (compare (cyclicEntry elements left offset) (cyclicEntry elements right offset)).then
        (compareOffsets elements left right rest) := by
  rw [compareOffsets]
  cases compare (cyclicEntry elements left offset) (cyclicEntry elements right offset) <;> rfl

theorem compareOffsets_eq {elements : List Element} (nonempty : elements ≠ [])
    (left right : Nat) (offsets : List Nat) :
    compareOffsets elements left right offsets =
      compare (offsets.filterMap (cyclicEntry elements left))
        (offsets.filterMap (cyclicEntry elements right)) := by
  induction offsets with
  | nil => rfl
  | cons offset rest inductionHypothesis =>
    obtain ⟨leftEntry, atLeft⟩ := exists_cyclicEntry nonempty left offset
    obtain ⟨rightEntry, atRight⟩ := exists_cyclicEntry nonempty right offset
    rw [compareOffsets_cons, inductionHypothesis, List.filterMap_cons_some atLeft,
      List.filterMap_cons_some atRight, List.compare_cons_cons, atLeft, atRight]
    rfl

/-- The comparison of all offsets is the comparison of the rotated lists. -/
theorem compareOffsets_range (elements : List Element) (left right : Nat) :
    compareOffsets elements left right (List.range elements.length) =
      compare (elements.rotate left) (elements.rotate right) := by
  by_cases empty : elements = []
  · rw [empty]
    rfl
  · rw [compareOffsets_eq empty, filterMap_cyclicEntry, filterMap_cyclicEntry]

end LeastRotation

end DexArbitrage
