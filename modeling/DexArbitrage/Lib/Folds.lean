/-
This file is about loops that go over a list and change a state: what every round
keeps, what one round brings about and the others keep, and what no round
touches.
-/

import Mathlib.Data.List.Basic

namespace DexArbitrage

section Folds

variable {State Item View : Type} {step : State → Item → State} {items : List Item}

/-- What every round keeps holds after the loop. -/
theorem foldl_keeps (holds : State → Prop)
    (keeps : ∀ item ∈ items, ∀ state, holds state → holds (step state item)) {start : State}
    (atStart : holds start) : holds (items.foldl step start) :=
  List.foldlRecOn items step atStart fun state holdsNow item member =>
    keeps item member state holdsNow

/-- What one round brings about, and every round keeps, holds after the loop. -/
theorem foldl_establishes (invariant holds : State → Prop)
    (invariantKept : ∀ item ∈ items, ∀ state, invariant state → invariant (step state item))
    (keeps : ∀ item ∈ items, ∀ state, invariant state → holds state → holds (step state item))
    {item : Item} (member : item ∈ items)
    (established : ∀ state, invariant state → holds (step state item)) {start : State}
    (atStart : invariant start) : holds (items.foldl step start) := by
  obtain ⟨before, after, same⟩ := List.append_of_mem member
  rw [same, List.foldl_append, List.foldl_cons]
  have inBefore : ∀ other ∈ before, other ∈ items := fun other isBefore => by
    rw [same]
    exact List.mem_append_left _ isBefore
  have inAfter : ∀ other ∈ after, other ∈ items := fun other isAfter => by
    rw [same]
    exact List.mem_append_right _ (List.mem_cons_of_mem _ isAfter)
  have reached : invariant (before.foldl step start) :=
    foldl_keeps invariant
      (fun other isBefore => invariantKept other (inBefore other isBefore)) atStart
  have keepsBoth : ∀ other ∈ after, ∀ state, (invariant state ∧ holds state) →
      (invariant (step state other) ∧ holds (step state other)) := fun other isAfter state now =>
    ⟨invariantKept other (inAfter other isAfter) state now.1,
      keeps other (inAfter other isAfter) state now.1 now.2⟩
  exact (foldl_keeps (fun state => invariant state ∧ holds state) keepsBoth
    ⟨invariantKept item member _ reached, established _ reached⟩).2

theorem foldl_reaches (holds : State → Prop)
    (keeps : ∀ item ∈ items, ∀ state, holds state → holds (step state item)) {item : Item}
    (member : item ∈ items) (established : ∀ state, holds (step state item)) (start : State) :
    holds (items.foldl step start) :=
  foldl_establishes (fun _ => True) holds (fun _ _ _ _ => trivial)
    (fun other isOther state _ now => keeps other isOther state now) member
    (fun state _ => established state) trivial

/-- What no round touches is as it was. -/
theorem foldl_untouched (view : State → View)
    (untouched : ∀ item ∈ items, ∀ state, view (step state item) = view state) (start : State) :
    view (items.foldl step start) = view start :=
  foldl_keeps (fun state => view state = view start)
    (fun item member state same => (untouched item member state).trans same) rfl

end Folds

end DexArbitrage
