/-
This file keeps the best of the elements that are offered one after another, at
most as many as a capacity. While there is room every element is kept; after
that an element is kept only in the place of the worst one, and only if it ranks
before it.

What is kept is sorted, as many as were offered or as have room, and nothing
that was dropped ranks before something that is kept. The last of these is
preserved because the worst kept element only gets better.
-/

import DexArbitrage.Lib.Sorting

namespace DexArbitrage

section Keeping

variable {Element : Type} (order : Element → Element → Ordering) (capacity : Nat)

/-- What is kept after one more element is offered. -/
def keepOneMore (kept : List Element) (element : Element) : List Element :=
  if kept.length < capacity then
    sortBy order (kept ++ [element])
  else
    match kept.getLast? with
    | none => kept
    | some worst =>
      if (order element worst).isLT then
        sortBy order (kept.dropLast ++ [element])
      else
        kept

/-- The best of what was offered are kept: in order, as many as have room, and none of the others
ranks before one of them. -/
structure KeepsBest (offered kept : List Element) : Prop where
  sorted : kept.Pairwise fun left right => (order left right).isLE
  length : kept.length = min offered.length capacity
  best : ∃ dropped, offered.Perm (kept ++ dropped) ∧
    ∀ left ∈ dropped, ∀ stays ∈ kept, order left stays ≠ .lt

theorem keepsBest_nil : KeepsBest order capacity [] [] where
  sorted := List.Pairwise.nil
  length := by simp
  best := ⟨[], List.Perm.refl _, fun _ none => absurd none List.not_mem_nil⟩

variable {order capacity} {offered kept : List Element}

open Std

theorem sorted_keepOneMore [TransCmp order]
    (sorted : kept.Pairwise fun left right => (order left right).isLE) (element : Element) :
    (keepOneMore order capacity kept element).Pairwise
      fun left right => (order left right).isLE := by
  unfold keepOneMore
  split
  · exact pairwise_sortBy _
  · split
    · exact sorted
    · split
      · exact pairwise_sortBy _
      · exact sorted

/-- The length grows by one while there is room, and stays as it is afterwards. -/
theorem length_keepOneMore (element : Element) :
    (keepOneMore order capacity kept element).length =
      if kept.length < capacity then kept.length + 1 else kept.length := by
  unfold keepOneMore
  split
  · rw [(perm_sortBy _ _).length_eq, List.length_append, List.length_singleton]
  · split
    · rfl
    · rename_i worst isWorst
      split
      · have nonempty : 0 < kept.length :=
          List.length_pos_of_mem (List.mem_of_getLast? isWorst)
        rw [(perm_sortBy _ _).length_eq, List.length_append, List.length_singleton,
          List.length_dropLast, Nat.sub_add_cancel nonempty]
      · rfl

/-- Nothing has been dropped while there is room. -/
theorem KeepsBest.perm_of_room (keeps : KeepsBest order capacity offered kept)
    (room : kept.length < capacity) : offered.Perm kept := by
  obtain ⟨dropped, perm, _⟩ := keeps.best
  have lengths := perm.length_eq
  have length := keeps.length
  rw [List.length_append] at lengths
  have nothing : dropped = [] := List.eq_nil_of_length_eq_zero (by omega)
  rwa [nothing, List.append_nil] at perm

variable [TransCmp order]

/-- The last of a sorted list is its worst element. -/
theorem isLE_getLast_of_sorted (sorted : kept.Pairwise fun left right => (order left right).isLE)
    {worst : Element} (isWorst : kept.getLast? = some worst) {stays : Element}
    (member : stays ∈ kept) : (order stays worst).isLE := by
  obtain ⟨before, rfl⟩ := List.getLast?_eq_some_iff.mp isWorst
  rcases List.mem_append.mp member with earlier | last
  · exact (List.pairwise_append.mp sorted).2.2 stays earlier worst (List.mem_singleton_self worst)
  · have tied : order worst worst = .eq := ReflCmp.compare_self
    rw [List.mem_singleton.mp last, tied]
    rfl

/-- An element that does not rank before the worst one ranks before none. -/
theorem KeepsBest.leaveOut (keeps : KeepsBest order capacity offered kept) {worst element : Element}
    (isWorst : kept.getLast? = some worst) (notBetter : order element worst ≠ .lt) :
    ∃ dropped, (offered ++ [element]).Perm (kept ++ dropped) ∧
      ∀ left ∈ dropped, ∀ stays ∈ kept, order left stays ≠ .lt := by
  obtain ⟨dropped, perm, best⟩ := keeps.best
  refine ⟨dropped ++ [element], ?_, fun left member stays inKept => ?_⟩
  · rw [← List.append_assoc]
    exact perm.append_right _
  rcases List.mem_append.mp member with earlier | new
  · exact best left earlier stays inKept
  · rw [List.mem_singleton.mp new]
    exact fun before => notBetter (TransCmp.lt_of_lt_of_isLE before
      (isLE_getLast_of_sorted keeps.sorted isWorst inKept))

/-- An element that takes the place of the worst one ranks before all that were dropped. -/
theorem KeepsBest.replaceWorst (keeps : KeepsBest order capacity offered kept)
    {worst element : Element} (isWorst : kept.getLast? = some worst)
    (better : order element worst = .lt) :
    ∃ dropped, (offered ++ [element]).Perm (sortBy order (kept.dropLast ++ [element]) ++ dropped) ∧
      ∀ left ∈ dropped, ∀ stays ∈ sortBy order (kept.dropLast ++ [element]),
        order left stays ≠ .lt := by
  obtain ⟨dropped, perm, best⟩ := keeps.best
  have split : kept.dropLast ++ [worst] = kept := List.dropLast_append_getLast? worst isWorst
  have worstStays : worst ∈ kept := List.mem_of_getLast? isWorst
  refine ⟨worst :: dropped, ?_, fun left member stays inNew => ?_⟩
  · have moved : (kept ++ dropped ++ [element]).Perm
        (kept.dropLast ++ [element] ++ worst :: dropped) := by
      conv_lhs => rw [← split]
      rw [List.append_assoc, List.append_assoc, List.append_assoc]
      exact List.Perm.append_left _ (List.perm_append_singleton element (worst :: dropped))
    exact (perm.append_right _).trans (moved.trans ((perm_sortBy _ _).symm.append_right _))
  have notAfter : order left worst ≠ .lt := by
    rcases List.mem_cons.mp member with same | earlier
    · have tied : order worst worst = .eq := ReflCmp.compare_self
      rw [same, tied]
      nofun
    · exact best left earlier worst worstStays
  rw [mem_sortBy] at inNew
  rcases List.mem_append.mp inNew with old | new
  · have inKept : stays ∈ kept := (List.dropLast_sublist kept).subset old
    rcases List.mem_cons.mp member with rfl | earlier
    · intro below
      have above := isLE_getLast_of_sorted keeps.sorted isWorst inKept
      rw [OrientedCmp.gt_of_lt below] at above
      cases above
    · exact best left earlier stays inKept
  · rw [List.mem_singleton.mp new]
    exact fun below => notAfter (TransCmp.lt_trans below better)

theorem KeepsBest.keepOneMore (positive : 1 ≤ capacity)
    (keeps : KeepsBest order capacity offered kept) (element : Element) :
    KeepsBest order capacity (offered ++ [element]) (keepOneMore order capacity kept element) where
  sorted := sorted_keepOneMore keeps.sorted element
  length := by
    have length := keeps.length
    rw [length_keepOneMore, List.length_append, List.length_singleton]
    split <;> omega
  best := by
    unfold DexArbitrage.keepOneMore
    split
    · rename_i room
      refine ⟨[], ?_, fun _ none => absurd none List.not_mem_nil⟩
      rw [List.append_nil]
      exact ((keeps.perm_of_room room).append_right _).trans (perm_sortBy _ _).symm
    · rename_i full
      split
      · rename_i empty
        rw [List.getLast?_eq_none_iff.mp empty] at full
        exact absurd positive full
      · rename_i worst isWorst
        split
        · rename_i better
          exact keeps.replaceWorst isWorst (Ordering.isLT_iff_eq_lt.mp better)
        · rename_i notBetter
          exact keeps.leaveOut isWorst fun before => notBetter (by rw [before]; rfl)

theorem KeepsBest.foldl (positive : 1 ≤ capacity) (keeps : KeepsBest order capacity offered kept)
    (elements : List Element) :
    KeepsBest order capacity (offered ++ elements)
      (elements.foldl (DexArbitrage.keepOneMore order capacity) kept) := by
  induction elements generalizing offered kept with
  | nil => rwa [List.append_nil]
  | cons element elements inductionHypothesis =>
    rw [List.append_cons]
    exact inductionHypothesis (keeps.keepOneMore positive element)

end Keeping

end DexArbitrage
