/-
This file is about sorting what was visited in an unknown order. The sort is
stable: elements that tie stay in the order in which they came. Two lists in
which the elements that tie with any given one come in the same order are
therefore sorted alike, whatever the order of the rest; and when no two elements
tie, sorting undoes every rearrangement.

The parts that a list is put together from may be rearranged as well, as long as
only one of them contributes.
-/

import DexArbitrage.Lib.HashMap
import DexArbitrage.Lib.Sorting

namespace DexArbitrage

section StableSort

open Std

variable {Element : Type}

/-- The elements that a comparison does not tell apart from a given one. -/
def tiedWith (order : Element → Element → Ordering) (element : Element)
    (elements : List Element) : List Element :=
  elements.filter fun other => (order element other).isEq

theorem mem_tiedWith_iff {order : Element → Element → Ordering} {element other : Element}
    {elements : List Element} :
    other ∈ tiedWith order element elements ↔ other ∈ elements ∧ order element other = .eq := by
  unfold tiedWith
  rw [List.mem_filter, Ordering.isEq_iff_eq_eq]

theorem tiedWith_cons_of_tied {order : Element → Element → Ordering} {element other : Element}
    (tied : order element other = .eq) (rest : List Element) :
    tiedWith order element (other :: rest) = other :: tiedWith order element rest :=
  List.filter_cons_of_pos (Ordering.isEq_iff_eq_eq.mpr tied)

theorem tiedWith_append (order : Element → Element → Ordering) (element : Element)
    (first second : List Element) :
    tiedWith order element (first ++ second) =
      tiedWith order element first ++ tiedWith order element second :=
  List.filter_append first second

/-- Elements that may stand in either order keep the one they have. -/
theorem filter_sortBy {order : Element → Element → Ordering} (test : Element → Bool)
    {elements : List Element}
    (either : ∀ left ∈ elements, ∀ right ∈ elements, test left = true → test right = true →
      (order left right).isLE) :
    (sortBy order elements).filter test = elements.filter test := by
  have inOrder : (elements.filter test).Pairwise fun left right => (order left right).isLE := by
    refine List.pairwise_of_forall_mem_list fun left inLeft right inRight => ?_
    obtain ⟨leftListed, leftTest⟩ := List.mem_filter.mp inLeft
    obtain ⟨rightListed, rightTest⟩ := List.mem_filter.mp inRight
    exact either left leftListed right rightListed leftTest rightTest
  have kept : (elements.filter test).Sublist (sortBy order elements) :=
    List.sublist_insertionSort inOrder List.filter_sublist
  have filtered := kept.filter test
  rw [List.filter_filter] at filtered
  simp only [Bool.and_self] at filtered
  exact (filtered.eq_of_length ((perm_sortBy order elements).filter test).length_eq.symm).symm

variable {order : Element → Element → Ordering} [TransCmp order]

@[simp] theorem tiedWith_sortBy (element : Element) (elements : List Element) :
    tiedWith order element (sortBy order elements) = tiedWith order element elements := by
  refine filter_sortBy _ fun left _ right _ leftTied rightTied => ?_
  rw [Ordering.isEq_iff_eq_eq] at leftTied rightTied
  have below : (order left element).isLE := by
    rw [OrientedCmp.eq_comm.mp leftTied]
    rfl
  have above : (order element right).isLE := by
    rw [rightTied]
    rfl
  exact TransCmp.isLE_trans below above

/-- A sorted list is determined by the order of its ties. -/
theorem eq_of_tiedWith_eq {first second : List Element}
    (firstSorted : first.Pairwise fun left right => (order left right).isLE)
    (secondSorted : second.Pairwise fun left right => (order left right).isLE)
    (ties : ∀ element, tiedWith order element first = tiedWith order element second) :
    first = second := by
  induction first generalizing second with
  | nil =>
    cases second with
    | nil => rfl
    | cons head tail =>
      have listed : head ∈ tiedWith order head (head :: tail) :=
        mem_tiedWith_iff.mpr ⟨List.mem_cons_self, ReflCmp.compare_self⟩
      rw [← ties head] at listed
      cases listed
  | cons head tail inductionHypothesis =>
    have headListed : head ∈ tiedWith order head second := by
      rw [← ties head]
      exact mem_tiedWith_iff.mpr ⟨List.mem_cons_self, ReflCmp.compare_self⟩
    cases second with
    | nil => cases headListed
    | cons other rest =>
      have otherListed : other ∈ tiedWith order other (head :: tail) := by
        rw [ties other]
        exact mem_tiedWith_iff.mpr ⟨List.mem_cons_self, ReflCmp.compare_self⟩
      rw [List.pairwise_cons] at firstSorted secondSorted
      -- Each of the two heads is in the other list, hence not below the head of that list.
      have headFirst : (order head other).isLE := by
        rcases List.mem_cons.mp (mem_tiedWith_iff.mp otherListed).1 with same | later
        · rw [same]
          exact ReflCmp.isLE_rfl
        · exact firstSorted.1 other later
      have otherFirst : (order other head).isLE := by
        rcases List.mem_cons.mp (mem_tiedWith_iff.mp headListed).1 with same | later
        · rw [same]
          exact ReflCmp.isLE_rfl
        · exact secondSorted.1 head later
      have tied : order head other = .eq := OrientedCmp.isLE_antisymm headFirst otherFirst
      have heads := ties head
      rw [tiedWith_cons_of_tied ReflCmp.compare_self, tiedWith_cons_of_tied tied] at heads
      injection heads with sameHead _
      subst sameHead
      refine congrArg (head :: ·)
        (inductionHypothesis firstSorted.2 secondSorted.2 fun element => ?_)
      have atElement : tiedWith order element ([head] ++ tail) =
          tiedWith order element ([head] ++ rest) := ties element
      rw [tiedWith_append, tiedWith_append] at atElement
      exact List.append_cancel_left atElement

theorem sortBy_eq_of_tiedWith {first second : List Element}
    (ties : ∀ element, tiedWith order element first = tiedWith order element second) :
    sortBy order first = sortBy order second := by
  refine eq_of_tiedWith_eq (pairwise_sortBy first) (pairwise_sortBy second) fun element => ?_
  rw [tiedWith_sortBy, tiedWith_sortBy, ties element]

/-- When no two elements tie, their order does not matter. -/
theorem sortBy_eq_of_perm {first second : List Element} (perm : first.Perm second)
    (told : ∀ left ∈ first, ∀ right ∈ first, order left right = .eq → left = right) :
    sortBy order first = sortBy order second := by
  have sorted : (sortBy order first).Perm (sortBy order second) :=
    (perm_sortBy order first).trans (perm.trans (perm_sortBy order second).symm)
  refine List.Perm.eq_of_pairwise ?_ (pairwise_sortBy first) (pairwise_sortBy second) sorted
  intro left right inFirst inSecond below above
  exact told left ((mem_sortBy _ _ _).mp inFirst) right
    (perm.mem_iff.mpr ((mem_sortBy _ _ _).mp inSecond)) (OrientedCmp.isLE_antisymm below above)

end StableSort

/-! ### Rearranged parts -/

section Parts

variable {Part Element : Type} {parts : Part → List Element}

/-- When all parts that contribute are the same, their order does not matter. -/
theorem flatMap_eq_of_perm {first second : List Part} (perm : first.Perm second)
    (single : ∀ left ∈ first, ∀ right ∈ first, parts left ≠ [] → parts right ≠ [] →
      left = right) : first.flatMap parts = second.flatMap parts := by
  induction perm with
  | nil => rfl
  | cons part _ inductionHypothesis =>
    rw [List.flatMap_cons, List.flatMap_cons, inductionHypothesis fun left inLeft right inRight =>
      single left (List.mem_cons_of_mem _ inLeft) right (List.mem_cons_of_mem _ inRight)]
  | swap left right rest =>
    simp only [List.flatMap_cons]
    by_cases leftEmpty : parts left = []
    · simp [leftEmpty]
    · by_cases rightEmpty : parts right = []
      · simp [rightEmpty]
      · rw [single left (by simp) right (by simp) leftEmpty rightEmpty]
  | trans firstPerm _ firstEqual secondEqual =>
    refine (firstEqual single).trans (secondEqual fun left inLeft right inRight => ?_)
    exact single left (firstPerm.mem_iff.mpr inLeft) right (firstPerm.mem_iff.mpr inRight)

end Parts

namespace HashMap

variable {Key Value Element : Type} [DecidableEq Key] {parts : Value → List Element}

/-- When only the value at one key contributes, the order of the values does not matter. -/
theorem flatMap_values_eq (map : HashMap Key Value) {values : List Value}
    (perm : values.Perm map.values) (key : Key)
    (others : ∀ other value, map.lookup other = some value → other ≠ key → parts value = []) :
    values.flatMap parts = ((map.lookup key).map parts).getD [] := by
  have only : ∀ value ∈ values, parts value ≠ [] → map.lookup key = some value := by
    intro value member contributes
    obtain ⟨other, found⟩ := (mem_values map value).mp (perm.mem_iff.mp member)
    by_cases same : other = key
    · rw [← same]
      exact found
    · exact absurd (others other value found same) contributes
  cases found : map.lookup key with
  | none =>
    refine List.flatMap_eq_nil_iff.mpr fun value member => ?_
    by_contra contributes
    rw [found] at only
    exact nomatch only value member contributes
  | some stored =>
    obtain ⟨before, after, split⟩ := List.append_of_mem
      ((lookup_eq_some_iff map key stored).mp found)
    have keys : (map.entries.map Sigma.fst).Nodup := map.nodupKeys
    have rest : ∀ entry ∈ before ++ after, parts entry.2 = [] := by
      intro entry member
      have listed : entry ∈ map.entries := by
        rw [split]
        exact List.perm_middle.mem_iff.mpr (List.mem_cons_of_mem _ member)
      refine others entry.1 entry.2 ((lookup_eq_some_iff map entry.1 entry.2).mpr listed) ?_
      rw [split, (List.perm_middle.map Sigma.fst).nodup_iff, List.map_cons, List.nodup_cons] at keys
      intro same
      exact keys.1 (List.mem_map.mpr ⟨entry, member, same⟩)
    have stored' : map.values.flatMap parts = parts stored := by
      show (map.entries.map Sigma.snd).flatMap parts = parts stored
      rw [split, List.flatMap_map, List.flatMap_append, List.flatMap_cons,
        List.flatMap_eq_nil_iff.mpr fun entry member => rest entry (List.mem_append_left _ member),
        List.flatMap_eq_nil_iff.mpr fun entry member => rest entry (List.mem_append_right _ member)]
      simp
    rw [Option.map_some, Option.getD_some, ← stored']
    refine flatMap_eq_of_perm perm fun left inLeft right inRight leftPart rightPart => ?_
    have same := (only left inLeft leftPart).symm.trans (only right inRight rightPart)
    injection same

theorem lookup_group {Entry : Type} (pairs : List (Key × Entry)) (key : Key) :
    ((group pairs).lookup key).getD [] =
      (pairs.filter fun pair => pair.1 = key).map Prod.snd := by
  suffices generalized : ∀ map : HashMap Key (List Entry),
      ((pairs.foldl (fun map pair => map.push pair.1 pair.2) map).lookup key).getD [] =
        (map.lookup key).getD [] ++ (pairs.filter fun pair => pair.1 = key).map Prod.snd from
    generalized ∅
  induction pairs with
  | nil => exact fun map => (List.append_nil _).symm
  | cons pair rest inductionHypothesis =>
    intro map
    rw [List.foldl_cons, inductionHypothesis, lookup_push]
    by_cases same : key = pair.1
    · subst same
      simp
    · rw [if_neg same, List.filter_cons_of_neg (by simpa using Ne.symm same)]

end HashMap

end DexArbitrage
