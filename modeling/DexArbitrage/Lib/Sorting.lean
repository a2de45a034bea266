/-
This file fixes the stable sort by a comparison, which is how the program ranks
everything, the cut to the best few that usually follows it, and the first
minimum by a comparison. None of them brings in a new element; sorting loses
none.
-/

import Mathlib.Data.List.Sort

namespace DexArbitrage

section Sorting

variable {Element : Type}

/-- Stable sort by a comparison. -/
def sortBy (order : Element → Element → Ordering) (elements : List Element) : List Element :=
  elements.insertionSort fun left right => (order left right).isLE

/-- The first elements in the order of a comparison. -/
def keepBest (order : Element → Element → Ordering) (count : Nat) (elements : List Element) :
    List Element :=
  (sortBy order elements).take count

/-- The first of the smallest elements. -/
def minBy (order : Element → Element → Ordering) : List Element → Option Element
  | [] => none
  | first :: rest =>
    some (rest.foldl (fun best next => if (order best next).isGT then next else best) first)

theorem perm_sortBy (order : Element → Element → Ordering) (elements : List Element) :
    (sortBy order elements).Perm elements :=
  List.perm_insertionSort _ elements

@[simp] theorem mem_sortBy (order : Element → Element → Ordering) (elements : List Element)
    (element : Element) : element ∈ sortBy order elements ↔ element ∈ elements :=
  (perm_sortBy order elements).mem_iff

theorem mem_of_mem_keepBest {order : Element → Element → Ordering} {count : Nat}
    {elements : List Element} {element : Element} (kept : element ∈ keepBest order count elements) :
    element ∈ elements :=
  (mem_sortBy order elements element).mp (List.mem_of_mem_take kept)

/-- What is not more than the count is kept. -/
theorem perm_keepBest {order : Element → Element → Ordering} {count : Nat}
    {elements : List Element} (few : elements.length ≤ count) :
    (keepBest order count elements).Perm elements := by
  unfold keepBest
  rw [List.take_of_length_le ((perm_sortBy order elements).length_eq.trans_le few)]
  exact perm_sortBy order elements

section Ordered

open Std

variable {order : Element → Element → Ordering} [TransCmp order]

/-- No element of a sorted list is above a later one. -/
theorem pairwise_sortBy (elements : List Element) :
    (sortBy order elements).Pairwise fun left right => (order left right).isLE := by
  have total : Std.Total fun left right => (order left right).isLE = true := by
    refine ⟨fun left right => ?_⟩
    by_cases below : (order left right).isLE = true
    · exact .inl below
    · exact .inr (Ordering.isLE_of_eq_lt (OrientedCmp.lt_of_not_isLE below))
  have trans : IsTrans Element fun left right => (order left right).isLE = true :=
    ⟨fun _ _ _ => TransCmp.isLE_trans⟩
  exact List.pairwise_insertionSort _ elements

theorem foldl_minBy (first : Element) (rest : List Element) :
    rest.foldl (fun best next => if (order best next).isGT then next else best) first ∈
        first :: rest ∧
      ∀ element ∈ first :: rest,
        (order (rest.foldl (fun best next => if (order best next).isGT then next else best) first)
          element).isLE := by
  induction rest generalizing first with
  | nil =>
    refine ⟨List.mem_cons_self, fun element member => ?_⟩
    rw [List.mem_singleton.mp member]
    exact ReflCmp.isLE_rfl
  | cons next rest inductionHypothesis =>
    rw [List.foldl_cons, List.forall_mem_cons, List.forall_mem_cons]
    split
    · rename_i later
      obtain ⟨member, smallest⟩ := inductionHypothesis next
      rw [List.forall_mem_cons] at smallest
      have less : (order next first).isLE := by
        rw [← OrientedCmp.isGE_iff_isLE, Ordering.isGE_eq_isGT_or_isEq, later]
        rfl
      exact ⟨List.mem_cons_of_mem _ member, TransCmp.isLE_trans smallest.1 less, smallest.1,
        smallest.2⟩
    · rename_i notLater
      obtain ⟨member, smallest⟩ := inductionHypothesis first
      rw [List.forall_mem_cons] at smallest
      have less : (order first next).isLE := by
        rw [← Ordering.not_isGT_eq_isLE, Bool.eq_false_of_not_eq_true notLater]
        rfl
      refine ⟨?_, smallest.1, TransCmp.isLE_trans smallest.1 less, smallest.2⟩
      rcases List.mem_cons.mp member with same | later
      · exact List.mem_cons.mpr (.inl same)
      · exact List.mem_cons_of_mem _ (List.mem_cons_of_mem _ later)

variable (order) in
/-- There is a minimum, which is an element that is not above any other one. -/
theorem exists_minBy {elements : List Element} (nonempty : elements ≠ []) :
    ∃ best, minBy order elements = some best ∧ best ∈ elements ∧
      ∀ element ∈ elements, (order best element).isLE := by
  cases elements with
  | nil => exact absurd rfl nonempty
  | cons first rest => exact ⟨_, rfl, foldl_minBy first rest⟩

end Ordered

/-- The first element of a sorted list is related to every element. -/
theorem first_insertionSort {related : Element → Element → Prop} [DecidableRel related]
    [total : Std.Total related] [IsTrans Element related] {elements rest : List Element}
    {first : Element} (sorted : elements.insertionSort related = first :: rest) :
    ∀ element ∈ elements, related first element := by
  intro element member
  have pairwise := List.pairwise_insertionSort related elements
  rw [← (List.perm_insertionSort related elements).mem_iff, sorted] at member
  rw [sorted] at pairwise
  rcases List.mem_cons.mp member with same | later
  · rw [same]
    exact (total.total first first).elim id id
  · exact (List.pairwise_cons.mp pairwise).1 element later

end Sorting

end DexArbitrage
