/-
This file proves that bringing proposed allocations to the total is exact. Where
the proposal respects the capacities and adds up to a `u128`, no subtraction
falls below zero and no sum overflows, the capacities stay respected, and the
total is reached unless the capacities together cannot hold it.

Neither pass needs its order for this. The orders are those that comparisons of
marginal rates induce, and any permutation of the positions would do: each pass
visits every position once, so what it has moved at a position is final.
-/

import Mathlib.Algebra.BigOperators.Group.List.Basic
import DexArbitrage.Lib.Checked
import DexArbitrage.Router.V2Split

namespace DexArbitrage

/-! ### Rebalancing with every operation checked -/

/-- An order in which a pass visits the positions of the allocations. -/
structure VisitOrder where
  order : List Nat → List Nat
  perm : ∀ allocations, (order allocations).Perm (List.range allocations.length)

/-- The sum of `u128` amounts, which must not overflow. -/
def checkedSum (amounts : List Nat) : Option Nat :=
  amounts.foldlM (Checked.add u128Max) 0

def removeExcessChecked : List Nat → Nat → List Nat → Option (List Nat)
  | [], _, allocations => some allocations
  | idx :: order, excess, allocations =>
    if excess = 0 then
      some allocations
    else do
      let allocation ← allocations[idx]?
      let removed := min allocation excess
      let kept ← Checked.sub allocation removed
      removeExcessChecked order (← Checked.sub excess removed) (allocations.set idx kept)

section Checked

variable (legs : List V2AllocationLeg)

def addRemainingChecked : List Nat → Nat → List Nat → Option (List Nat)
  | [], _, allocations => some allocations
  | idx :: order, remaining, allocations =>
    if remaining = 0 then
      some allocations
    else do
      let leg ← legs[idx]?
      let allocation ← allocations[idx]?
      let added := min (leg.capacityRemaining allocation) remaining
      addRemainingChecked order (← Checked.sub remaining added)
        (allocations.set idx (saturatingAdd u128Max allocation added))

def lowerToTotalChecked (worstFirst : VisitOrder) (allocations : List Nat) (totalIn : Nat) :
    Option (List Nat) :=
  (checkedSum allocations).bind fun allocated =>
    if totalIn < allocated then
      (Checked.sub allocated totalIn).bind fun excess =>
        removeExcessChecked (worstFirst.order allocations) excess allocations
    else
      some allocations

def raiseToTotalChecked (bestFirst : VisitOrder) (allocations : List Nat) (totalIn : Nat) :
    Option (List Nat) :=
  (checkedSum allocations).bind fun allocated =>
    if allocated < totalIn then
      (Checked.sub totalIn allocated).bind fun remaining =>
        addRemainingChecked legs (bestFirst.order allocations) remaining allocations
    else
      some allocations

/-- The allocations that `rebalance_to_total` leaves behind and whether it reports success; nothing
where an operation has no result. -/
def rebalanceChecked (worstFirst bestFirst : VisitOrder) (allocations : List Nat) (totalIn : Nat) :
    Option (List Nat × Option Unit) := do
  let lowered ← lowerToTotalChecked worstFirst allocations totalIn
  let raised ← raiseToTotalChecked legs bestFirst lowered totalIn
  let total ← checkedSum raised
  return (raised, if total = totalIn then some () else none)

end Checked

/-- Where no operation fails, the sum is the sum. -/
theorem checkedSum_of_le {amounts : List Nat} (fits : amounts.sum ≤ u128Max) :
    checkedSum amounts = some amounts.sum := by
  suffices generalized : ∀ (amounts : List Nat) (start : Nat), start + amounts.sum ≤ u128Max →
      amounts.foldlM (Checked.add u128Max) start = some (start + amounts.sum) by
    rw [checkedSum, generalized amounts 0 (by rwa [Nat.zero_add]), Nat.zero_add]
  clear fits
  intro amounts
  induction amounts with
  | nil => exact fun start _ => rfl
  | cons amount amounts inductionHypothesis =>
    intro start fits
    rw [List.sum_cons, ← Nat.add_assoc] at fits
    have first : Checked.add u128Max start amount = some (start + amount) :=
      Checked.add_eq_some_iff.mpr ⟨(Nat.le_add_right _ _).trans fits, rfl⟩
    rw [List.foldlM_cons, first, List.sum_cons, ← Nat.add_assoc]
    exact inductionHypothesis (start + amount) fits

/-! ### Positions and sums -/

theorem sum_set_add {amounts : List Nat} {idx : Nat} (inRange : idx < amounts.length)
    (value : Nat) : (amounts.set idx value).sum + amounts.getD idx 0 = amounts.sum + value := by
  induction amounts generalizing idx with
  | nil => cases inRange
  | cons amount amounts inductionHypothesis =>
    cases idx with
    | zero =>
      rw [List.set_cons_zero, List.getD_cons_zero, List.sum_cons, List.sum_cons]
      omega
    | succ idx =>
      have rest := inductionHypothesis (Nat.lt_of_succ_lt_succ inRange)
      rw [List.set_cons_succ, List.getD_cons_succ, List.sum_cons, List.sum_cons, Nat.add_assoc,
        rest, Nat.add_assoc]

/-- The amounts, visited in any order, add up to their sum. -/
theorem sum_map_getD {amounts order : List Nat} (perm : order.Perm (List.range amounts.length)) :
    (order.map fun idx => amounts.getD idx 0).sum = amounts.sum := by
  have inPlace : ((List.range amounts.length).map fun idx => amounts.getD idx 0) = amounts := by
    refine List.ext_getElem (by simp) fun idx _ inRange => ?_
    simp [inRange]
  rw [(perm.map _).sum_eq, inPlace]

/-! ### The capacities -/

/-- No leg is allocated more than it may take. -/
def WithinCapacities (legs : List V2AllocationLeg) (allocations : List Nat) : Prop :=
  ∀ (idx : Nat) (leg : V2AllocationLeg), legs[idx]? = some leg →
    ∀ capacity, leg.capacity = some capacity → allocations.getD idx 0 ≤ capacity

theorem getD_set (allocations : List Nat) (idx position amount : Nat) :
    (allocations.set idx amount).getD position 0 = allocations.getD position 0 ∨
      idx = position ∧ (allocations.set idx amount).getD position 0 = amount := by
  rw [List.getD_eq_getElem?_getD, List.getD_eq_getElem?_getD, List.getElem?_set]
  by_cases same : idx = position
  · by_cases inside : idx < allocations.length
    · right
      simp [same, same ▸ inside]
    · left
      simp [same, same ▸ inside]
  · left
    rw [if_neg same]

section Capacities

variable {solver : WaterFill} {legs : List V2AllocationLeg}

theorem withinCapacities_set {allocations : List Nat} {idx amount : Nat}
    (within : WithinCapacities legs allocations)
    (fits : ∀ leg, legs[idx]? = some leg → ∀ capacity, leg.capacity = some capacity →
      amount ≤ capacity) :
    WithinCapacities legs (allocations.set idx amount) := by
  intro position leg found capacity isCapacity
  rcases getD_set allocations idx position amount with unchanged | ⟨same, changed⟩
  · rw [unchanged]
    exact within position leg found capacity isCapacity
  · rw [changed]
    exact fits leg (same ▸ found) capacity isCapacity

theorem withinCapacities_removeExcess (order : List Nat) (excess : Nat)
    {allocations : List Nat} (within : WithinCapacities legs allocations) :
    WithinCapacities legs (removeExcess order excess allocations) := by
  induction order generalizing excess allocations with
  | nil => exact within
  | cons idx order inductionHypothesis =>
    unfold removeExcess
    split
    · exact within
    · refine inductionHypothesis _ (withinCapacities_set within fun leg found capacity same => ?_)
      exact (Nat.sub_le _ _).trans (within idx leg found capacity same)

/-- A leg takes no more than it still may. -/
theorem V2AllocationLeg.add_taken_le {leg : V2AllocationLeg} {capacity amount remaining : Nat}
    (isCapacity : leg.capacity = some capacity) (fits : amount ≤ capacity) :
    amount + min (leg.capacityRemaining amount) remaining ≤ capacity := by
  have room : leg.capacityRemaining amount = capacity - amount := by
    simp [V2AllocationLeg.capacityRemaining, isCapacity]
  calc amount + min (leg.capacityRemaining amount) remaining
      ≤ amount + (capacity - amount) := Nat.add_le_add_left (room ▸ Nat.min_le_left _ _) amount
    _ = capacity := Nat.add_sub_of_le fits

theorem withinCapacities_addRemaining (order : List Nat) (remaining : Nat)
    {allocations : List Nat} (within : WithinCapacities legs allocations) :
    WithinCapacities legs (addRemaining legs order remaining allocations) := by
  induction order generalizing remaining allocations with
  | nil => exact within
  | cons idx order inductionHypothesis =>
    unfold addRemaining
    split
    · exact within
    · refine inductionHypothesis _ (withinCapacities_set within fun leg found capacity same => ?_)
      rw [found]
      exact (Nat.min_le_left _ _).trans
        (V2AllocationLeg.add_taken_le same (within idx leg found capacity same))

theorem withinCapacities_rebalanceToTotal {allocations rebalanced : List Nat} {totalIn : Nat}
    (within : WithinCapacities legs allocations)
    (rebalances : rebalanceToTotal solver legs allocations totalIn = some rebalanced) :
    WithinCapacities legs rebalanced := by
  have lowered : WithinCapacities legs (lowerToTotal solver legs allocations totalIn) := by
    unfold lowerToTotal
    split
    · exact withinCapacities_removeExcess _ _ within
    · exact within
  have raised : ∀ amounts, WithinCapacities legs amounts →
      WithinCapacities legs (raiseToTotal solver legs amounts totalIn) := by
    intro amounts withinAmounts
    unfold raiseToTotal
    split
    · exact withinCapacities_addRemaining _ _ withinAmounts
    · exact withinAmounts
  unfold rebalanceToTotal at rebalances
  obtain ⟨_, same⟩ := Option.ite_none_right_eq_some.mp rebalances
  injection same with same
  exact same ▸ raised _ lowered

/-- What a leg is proposed is cut to its capacity. -/
theorem withinCapacities_proposal (legs : List V2AllocationLeg)
    (propose : V2AllocationLeg → Nat) :
    WithinCapacities legs (legs.map fun leg => min (propose leg) (leg.capacity.getD u128Max)) := by
  intro idx leg found capacity isCapacity
  rw [List.getD_eq_getElem?_getD, List.getElem?_map, found, Option.map_some, Option.getD_some,
    isCapacity]
  exact Nat.min_le_right _ _

theorem withinCapacities_solveAllocations {allocations : List Nat} {totalIn : Nat}
    (solves : solveAllocations solver legs totalIn = some allocations) :
    WithinCapacities legs allocations := by
  unfold solveAllocations at solves
  split at solves
  · cases solves
  · rename_i single
    split at solves
    · cases solves
    · rename_i fits
      injection solves with same
      intro idx leg found capacity isCapacity
      obtain ⟨rfl, rfl⟩ : idx = 0 ∧ single = leg := by
        rw [List.getElem?_singleton] at found
        split at found
        · rename_i first
          injection found with own
          exact ⟨first, own⟩
        · cases found
      rw [isCapacity, Option.any_some, decide_eq_true_eq] at fits
      rw [← same]
      exact Nat.le_of_not_lt fits
  · split at solves
    · cases solves
    · split at solves
      · cases solves
      · obtain ⟨rebalances, _⟩ := Option.filter_eq_some_iff.mp solves
        exact withinCapacities_rebalanceToTotal (withinCapacities_proposal _ _) rebalances

end Capacities

section Passes

variable {legs : List V2AllocationLeg} {allocations order : List Nat} {idx excess remaining : Nat}

/-! ### The removing pass -/

theorem removeExcessChecked_eq (inRange : ∀ idx ∈ order, idx < allocations.length) :
    removeExcessChecked order excess allocations =
      some (removeExcess order excess allocations) := by
  induction order generalizing excess allocations with
  | nil => rfl
  | cons idx order inductionHypothesis =>
    unfold removeExcessChecked removeExcess
    split
    · rfl
    · have first : allocations[idx]? = some (allocations.getD idx 0) := by
        simp [inRange idx List.mem_cons_self]
      rw [first]
      simp only [Option.bind_eq_bind, Option.bind_some, Checked.sub, Nat.min_le_left,
        Nat.min_le_right, if_true]
      refine inductionHypothesis fun other member => ?_
      rw [List.length_set]
      exact inRange other (List.mem_cons_of_mem _ member)

/-- What is at other positions than the one that is set stays. -/
theorem map_getD_set (absent : idx ∉ order) (amount : Nat) :
    (order.map fun other => (allocations.set idx amount).getD other 0) =
      order.map fun other => allocations.getD other 0 := by
  refine List.map_congr_left fun other member => ?_
  have different : idx ≠ other := fun same => absent (same ▸ member)
  simp [List.getD_eq_getElem?_getD, List.getElem?_set_ne different]

/-- The pass removes the excess, as far as there is something to remove it from. -/
theorem sum_removeExcess (nodup : order.Nodup) (inRange : ∀ idx ∈ order, idx < allocations.length) :
    (removeExcess order excess allocations).sum +
        min excess (order.map fun idx => allocations.getD idx 0).sum = allocations.sum := by
  induction order generalizing excess allocations with
  | nil => simp [removeExcess]
  | cons idx order inductionHypothesis =>
    rw [List.nodup_cons] at nodup
    unfold removeExcess
    split
    · rename_i done
      rw [done, Nat.zero_min, Nat.add_zero]
    · let removed := min (allocations.getD idx 0) excess
      let kept := allocations.set idx (allocations.getD idx 0 - removed)
      have keptSum : kept.sum + allocations.getD idx 0 =
          allocations.sum + (allocations.getD idx 0 - removed) :=
        sum_set_add (inRange idx List.mem_cons_self) _
      have rest : (removeExcess order (excess - removed) kept).sum +
          min (excess - removed) (order.map fun other => kept.getD other 0).sum = kept.sum := by
        refine inductionHypothesis nodup.2 fun other member => ?_
        rw [List.length_set]
        exact inRange other (List.mem_cons_of_mem _ member)
      rw [map_getD_set nodup.1] at rest
      rw [List.map_cons, List.sum_cons]
      show (removeExcess order (excess - removed) kept).sum + _ = _
      omega

/-- Removing an excess that is there leaves the rest. -/
theorem sum_removeExcess_of_perm (perm : order.Perm (List.range allocations.length))
    (le : excess ≤ allocations.sum) :
    (removeExcess order excess allocations).sum = allocations.sum - excess := by
  have sum : (removeExcess order excess allocations).sum +
      min excess (order.map fun idx => allocations.getD idx 0).sum = allocations.sum :=
    sum_removeExcess (perm.nodup_iff.mpr List.nodup_range)
      fun idx member => List.mem_range.mp (perm.mem_iff.mp member)
  rw [sum_map_getD perm, Nat.min_eq_left le] at sum
  exact Nat.eq_sub_of_add_eq sum

/-! ### The filling pass -/

/-- A leg can take nothing more. -/
def V2AllocationLeg.Full (leg : V2AllocationLeg) (amount : Nat) : Prop :=
  leg.capacity = some amount

theorem getElem?_addRemaining (absent : idx ∉ order) :
    (addRemaining legs order remaining allocations)[idx]? = allocations[idx]? := by
  induction order generalizing remaining allocations with
  | nil => rfl
  | cons other order inductionHypothesis =>
    rw [List.mem_cons, not_or] at absent
    unfold addRemaining
    split
    · rfl
    · dsimp only
      rw [inductionHypothesis absent.2, List.getElem?_set_ne (Ne.symm absent.1)]

/-- A leg that does not take all that is left is full afterwards. -/
theorem V2AllocationLeg.full_of_capacityRemaining_lt {leg : V2AllocationLeg} {amount left : Nat}
    (allows : ∀ capacity, leg.capacity = some capacity → amount ≤ capacity)
    (isU128 : left ≤ u128Max)
    (less : leg.capacityRemaining amount < left) :
    leg.Full (amount + leg.capacityRemaining amount) := by
  unfold V2AllocationLeg.capacityRemaining at less ⊢
  cases isCapacity : leg.capacity with
  | none =>
    rw [isCapacity] at less
    exact absurd less (Nat.not_lt.mpr isU128)
  | some capacity =>
    rw [V2AllocationLeg.Full, isCapacity, Nat.add_sub_of_le (allows capacity isCapacity)]

/-- What the filling pass leaves over is nothing, or every visited leg is full. -/
structure Filled (legs : List V2AllocationLeg) (order : List Nat) (remaining : Nat)
    (allocations filled : List Nat) (left : Nat) : Prop where
  sum : filled.sum + left = allocations.sum + remaining
  le : left ≤ remaining
  full : left ≠ 0 → ∀ idx ∈ order, ∃ leg amount, legs[idx]? = some leg ∧
    filled[idx]? = some amount ∧ leg.Full amount

theorem addRemainingChecked_eq (inRange : ∀ idx ∈ order, idx < allocations.length)
    (sameLength : legs.length = allocations.length) :
    addRemainingChecked legs order remaining allocations =
      some (addRemaining legs order remaining allocations) := by
  induction order generalizing remaining allocations with
  | nil => rfl
  | cons idx order inductionHypothesis =>
    unfold addRemainingChecked addRemaining
    split
    · rfl
    · have first := inRange idx List.mem_cons_self
      have atIdx : allocations[idx]? = some (allocations.getD idx 0) := by simp [first]
      obtain ⟨leg, atLeg⟩ : ∃ leg, legs[idx]? = some leg :=
        ⟨_, List.getElem?_eq_getElem (sameLength ▸ first)⟩
      rw [atIdx, atLeg]
      simp only [Option.bind_eq_bind, Option.bind_some, Checked.sub, Nat.min_le_right, if_true]
      refine inductionHypothesis (fun other member => ?_) ?_
      · rw [List.length_set]
        exact inRange other (List.mem_cons_of_mem _ member)
      · rw [List.length_set, sameLength]

/-- One visit, where the sum stays a `u128`: the leg takes what it can of what remains. -/
theorem addRemaining_cons {leg : V2AllocationLeg} {amount added : Nat}
    (atLeg : legs[idx]? = some leg) (atIdx : allocations[idx]? = some amount)
    (positive : remaining ≠ 0) (isU128 : amount + remaining ≤ u128Max)
    (takes : added = min (leg.capacityRemaining amount) remaining) :
    addRemaining legs (idx :: order) remaining allocations =
      addRemaining legs order (remaining - added) (allocations.set idx (amount + added)) := by
  have noSaturation : saturatingAdd u128Max amount added = amount + added :=
    Nat.min_eq_left ((Nat.add_le_add_left (takes ▸ Nat.min_le_right _ _) amount).trans isU128)
  have isAmount : allocations.getD idx 0 = amount := by
    rw [List.getD_eq_getElem?_getD, atIdx, Option.getD_some]
  rw [addRemaining, if_neg positive, isAmount, atLeg]
  dsimp only
  rw [← takes, noSaturation]

theorem filled_addRemaining (within : WithinCapacities legs allocations)
    (sameLength : allocations.length = legs.length) (nodup : order.Nodup)
    (inRange : ∀ idx ∈ order, idx < allocations.length)
    (isU128 : allocations.sum + remaining ≤ u128Max) :
    ∃ left, Filled legs order remaining allocations
      (addRemaining legs order remaining allocations) left := by
  induction order generalizing remaining allocations with
  | nil => exact ⟨remaining, rfl, Nat.le_refl _, fun _ _ none => absurd none List.not_mem_nil⟩
  | cons idx order inductionHypothesis =>
    rw [List.nodup_cons] at nodup
    by_cases done : remaining = 0
    · rw [addRemaining, if_pos done]
      exact ⟨0, by rw [done], Nat.zero_le _, fun nonzero => absurd rfl nonzero⟩
    have first := inRange idx List.mem_cons_self
    obtain ⟨leg, atLeg⟩ : ∃ leg, legs[idx]? = some leg :=
      ⟨_, List.getElem?_eq_getElem (sameLength ▸ first)⟩
    obtain ⟨amount, atIdx⟩ : ∃ amount, allocations[idx]? = some amount :=
      ⟨_, List.getElem?_eq_getElem first⟩
    have isAmount : allocations.getD idx 0 = amount := by
      rw [List.getD_eq_getElem?_getD, atIdx, Option.getD_some]
    have allows : ∀ capacity, leg.capacity = some capacity → amount ≤ capacity := by
      rw [← isAmount]
      exact within idx leg atLeg
    have setSum : ∀ value, (allocations.set idx value).sum + amount = allocations.sum + value := by
      intro value
      rw [← isAmount]
      exact sum_set_add first value
    have amountLe : amount ≤ allocations.sum := (Nat.le_add_left _ _).trans_eq (setSum 0)
    obtain ⟨added, takes⟩ : ∃ added, added = min (leg.capacityRemaining amount) remaining :=
      ⟨_, rfl⟩
    have addedLe : added ≤ remaining := takes ▸ Nat.min_le_right _ _
    have addedSum := setSum (amount + added)
    rw [addRemaining_cons atLeg atIdx done (by omega) takes]
    obtain ⟨left, filled⟩ : ∃ left, Filled legs order (remaining - added)
        (allocations.set idx (amount + added))
        (addRemaining legs order (remaining - added) (allocations.set idx (amount + added)))
        left := by
      refine inductionHypothesis ?_ ?_ nodup.2 (fun other member => ?_) (by omega)
      · refine withinCapacities_set within fun other atOther capacity isCapacity => ?_
        rw [atLeg] at atOther
        injection atOther with same
        rw [← same] at isCapacity
        rw [takes]
        exact V2AllocationLeg.add_taken_le isCapacity (allows capacity isCapacity)
      · rw [List.length_set, sameLength]
      · rw [List.length_set]
        exact inRange other (List.mem_cons_of_mem _ member)
    have restSum := filled.sum
    have leftLe := filled.le
    refine ⟨left, by omega, by omega, fun nonzero other member => ?_⟩
    rcases List.mem_cons.mp member with rfl | later
    · refine ⟨leg, amount + added, atLeg, ?_, ?_⟩
      · rw [getElem?_addRemaining nodup.1, List.getElem?_set_self first]
      · have less : leg.capacityRemaining amount < remaining := by omega
        rw [takes, Nat.min_eq_left less.le]
        exact V2AllocationLeg.full_of_capacityRemaining_lt allows
          ((Nat.le_add_left _ _).trans isU128) less
    · exact filled.full nonzero other later

/-! ### The whole function -/

/-- The removing pass, where it is needed. -/
def lowerInOrder (worstFirst : VisitOrder) (allocations : List Nat) (totalIn : Nat) : List Nat :=
  if totalIn < allocations.sum then
    removeExcess (worstFirst.order allocations) (allocations.sum - totalIn) allocations
  else
    allocations

/-- The filling pass, where it is needed. -/
def raiseInOrder (legs : List V2AllocationLeg) (bestFirst : VisitOrder) (allocations : List Nat)
    (totalIn : Nat) : List Nat :=
  if allocations.sum < totalIn then
    addRemaining legs (bestFirst.order allocations) (totalIn - allocations.sum) allocations
  else
    allocations

theorem VisitOrder.nodup (visit : VisitOrder) (allocations : List Nat) :
    (visit.order allocations).Nodup :=
  (visit.perm allocations).nodup_iff.mpr List.nodup_range

theorem VisitOrder.mem_iff (visit : VisitOrder) {allocations : List Nat} :
    idx ∈ visit.order allocations ↔ idx < allocations.length :=
  (visit.perm allocations).mem_iff.trans List.mem_range

theorem withinCapacities_lowerInOrder (within : WithinCapacities legs allocations)
    (worstFirst : VisitOrder) (totalIn : Nat) :
    WithinCapacities legs (lowerInOrder worstFirst allocations totalIn) := by
  unfold lowerInOrder
  split
  · exact withinCapacities_removeExcess _ _ within
  · exact within

theorem withinCapacities_raiseInOrder (within : WithinCapacities legs allocations)
    (bestFirst : VisitOrder) (totalIn : Nat) :
    WithinCapacities legs (raiseInOrder legs bestFirst allocations totalIn) := by
  unfold raiseInOrder
  split
  · exact withinCapacities_addRemaining _ _ within
  · exact within

@[simp] theorem length_lowerInOrder (worstFirst : VisitOrder) (allocations : List Nat)
    (totalIn : Nat) :
    (lowerInOrder worstFirst allocations totalIn).length = allocations.length := by
  unfold lowerInOrder
  split <;> simp

@[simp] theorem length_raiseInOrder (legs : List V2AllocationLeg) (bestFirst : VisitOrder)
    (allocations : List Nat) (totalIn : Nat) :
    (raiseInOrder legs bestFirst allocations totalIn).length = allocations.length := by
  unfold raiseInOrder
  split <;> simp

theorem sum_lowerInOrder (worstFirst : VisitOrder) (allocations : List Nat) (totalIn : Nat) :
    (lowerInOrder worstFirst allocations totalIn).sum = min allocations.sum totalIn := by
  unfold lowerInOrder
  split
  · rename_i tooMuch
    rw [sum_removeExcess_of_perm (worstFirst.perm allocations) (Nat.sub_le _ _),
      Nat.sub_sub_self tooMuch.le, Nat.min_eq_right tooMuch.le]
  · rename_i notTooMuch
    exact (Nat.min_eq_left (Nat.not_lt.mp notTooMuch)).symm

/-- What the filling pass leaves over of what is missing. -/
theorem filled_raiseInOrder (within : WithinCapacities legs allocations)
    (sameLength : allocations.length = legs.length) (bestFirst : VisitOrder) {totalIn : Nat}
    (le : allocations.sum ≤ totalIn) (isU128 : totalIn ≤ u128Max) :
    ∃ left, Filled legs (bestFirst.order allocations) (totalIn - allocations.sum) allocations
      (raiseInOrder legs bestFirst allocations totalIn) left := by
  unfold raiseInOrder
  split
  · exact filled_addRemaining within sameLength (bestFirst.nodup allocations)
      (fun idx member => bestFirst.mem_iff.mp member) (by rwa [Nat.add_sub_of_le le])
  · rename_i enough
    refine ⟨0, ?_, Nat.zero_le _, fun nonzero => absurd rfl nonzero⟩
    rw [Nat.sub_eq_zero_of_le (Nat.not_lt.mp enough)]

/-- The sum of the capacities, of which an unlimited one counts as nothing. -/
def capacitySum (legs : List V2AllocationLeg) : Nat :=
  (legs.map fun leg => leg.capacity.getD 0).sum

/-- Where every leg is full, the allocations are the capacities. -/
theorem sum_eq_capacitySum (sameLength : allocations.length = legs.length)
    (full : ∀ idx < allocations.length, ∃ leg amount, legs[idx]? = some leg ∧
      allocations[idx]? = some amount ∧ leg.Full amount) :
    allocations.sum = capacitySum legs ∧ ∀ leg ∈ legs, leg.capacity ≠ none := by
  have same : legs.map V2AllocationLeg.capacity = allocations.map some := by
    refine List.ext_getElem? fun idx => ?_
    rw [List.getElem?_map, List.getElem?_map]
    by_cases inRange : idx < allocations.length
    · obtain ⟨leg, amount, atLeg, atIdx, isFull⟩ := full idx inRange
      rw [atLeg, atIdx, Option.map_some, Option.map_some, isFull]
    · rw [List.getElem?_eq_none (Nat.not_lt.mp inRange),
        List.getElem?_eq_none (sameLength ▸ Nat.not_lt.mp inRange)]
      rfl
  constructor
  · have values := congrArg (List.map fun value => Option.getD value 0) same
    rw [List.map_map, List.map_map] at values
    rw [capacitySum]
    exact congrArg List.sum ((List.map_id allocations).symm.trans values.symm)
  · intro leg member unlimited
    have inMap : none ∈ allocations.map some := same ▸ List.mem_map.mpr ⟨leg, member, unlimited⟩
    simp at inMap

/-- What is left behind: allocations within the capacities, which add up to the total if success is
reported. Success is reported unless the capacities cannot hold the total. -/
structure Rebalanced (legs : List V2AllocationLeg) (totalIn : Nat)
    (outcome : List Nat × Option Unit) : Prop where
  sameLength : outcome.1.length = legs.length
  within : WithinCapacities legs outcome.1
  exactTotal : outcome.2 = some () → outcome.1.sum = totalIn
  complete : (∃ leg ∈ legs, leg.capacity = none) ∨ totalIn ≤ capacitySum legs →
    outcome.2 = some ()

section Whole

variable {totalIn : Nat} {lowered raised : List Nat} {worstFirst bestFirst : VisitOrder}

theorem sum_le_of_lowerInOrder (lowers : lowered = lowerInOrder worstFirst allocations totalIn) :
    lowered.sum ≤ totalIn := by
  rw [lowers, sum_lowerInOrder]
  exact Nat.min_le_right _ _

/-- No operation fails, and the passes do what they do on natural numbers. -/
theorem rebalanceChecked_eq (within : WithinCapacities legs allocations)
    (sameLength : allocations.length = legs.length) (isU128 : totalIn ≤ u128Max)
    (proposal : allocations.sum ≤ u128Max)
    (lowers : lowered = lowerInOrder worstFirst allocations totalIn)
    (raises : raised = raiseInOrder legs bestFirst lowered totalIn) :
    rebalanceChecked legs worstFirst bestFirst allocations totalIn =
      some (raised, if raised.sum = totalIn then some () else none) := by
  have lowering : lowerToTotalChecked worstFirst allocations totalIn = some lowered := by
    rw [lowerToTotalChecked, checkedSum_of_le proposal, lowers, lowerInOrder, Option.bind_some]
    split
    · rename_i tooMuch
      rw [Checked.sub, if_pos tooMuch.le]
      exact removeExcessChecked_eq fun idx member => worstFirst.mem_iff.mp member
    · rfl
  have loweredLe : lowered.sum ≤ totalIn := sum_le_of_lowerInOrder lowers
  have loweredLength : lowered.length = legs.length := by
    rw [lowers, length_lowerInOrder, sameLength]
  have raising : raiseToTotalChecked legs bestFirst lowered totalIn = some raised := by
    rw [raiseToTotalChecked, checkedSum_of_le (loweredLe.trans isU128), raises, raiseInOrder,
      Option.bind_some]
    split
    · rw [Checked.sub, if_pos loweredLe]
      exact addRemainingChecked_eq (fun idx member => bestFirst.mem_iff.mp member)
        loweredLength.symm
    · rfl
  have raisedLe : raised.sum ≤ totalIn := by
    obtain ⟨left, filled⟩ := filled_raiseInOrder
      (lowers ▸ withinCapacities_lowerInOrder within worstFirst totalIn) loweredLength bestFirst
      loweredLe isU128
    rw [← raises] at filled
    have sum := filled.sum
    omega
  rw [rebalanceChecked, lowering, Option.bind_eq_bind, Option.bind_some, raising,
    Option.bind_eq_bind, Option.bind_some, checkedSum_of_le (raisedLe.trans isU128)]
  rfl

theorem rebalanced_of_raises (within : WithinCapacities legs allocations)
    (sameLength : allocations.length = legs.length) (isU128 : totalIn ≤ u128Max)
    (lowers : lowered = lowerInOrder worstFirst allocations totalIn)
    (raises : raised = raiseInOrder legs bestFirst lowered totalIn) :
    Rebalanced legs totalIn (raised, if raised.sum = totalIn then some () else none) := by
  have loweredWithin : WithinCapacities legs lowered :=
    lowers ▸ withinCapacities_lowerInOrder within worstFirst totalIn
  have loweredLength : lowered.length = legs.length := by
    rw [lowers, length_lowerInOrder, sameLength]
  have raisedLength : raised.length = legs.length := by
    rw [raises, length_raiseInOrder, loweredLength]
  have loweredLe : lowered.sum ≤ totalIn := sum_le_of_lowerInOrder lowers
  obtain ⟨left, filled⟩ :=
    filled_raiseInOrder loweredWithin loweredLength bestFirst loweredLe isU128
  rw [← raises] at filled
  have sum : raised.sum + left = totalIn := by rw [filled.sum, Nat.add_sub_of_le loweredLe]
  refine ⟨raisedLength, raises ▸ withinCapacities_raiseInOrder loweredWithin bestFirst totalIn,
    fun success => (Option.ite_none_right_eq_some.mp success).1, fun holds => ?_⟩
  suffices nothingLeft : left = 0 by
    rw [if_pos (by rw [← sum, nothingLeft, Nat.add_zero])]
  by_contra nonzero
  obtain ⟨allFull, allLimited⟩ := sum_eq_capacitySum raisedLength fun idx inRange =>
    filled.full nonzero idx (bestFirst.mem_iff.mpr (by rwa [loweredLength, ← raisedLength]))
  rcases holds with ⟨leg, member, unlimited⟩ | enough
  · exact allLimited leg member unlimited
  · omega

end Whole

/-! ### The orders of the solver -/

def WaterFill.worstFirst (solver : WaterFill) (legs : List V2AllocationLeg) : VisitOrder where
  order allocations := (List.range allocations.length).insertionSort fun a b =>
    marginalOf solver legs allocations a ≤ marginalOf solver legs allocations b
  perm _ := List.perm_insertionSort _ _

def WaterFill.bestFirst (solver : WaterFill) (legs : List V2AllocationLeg) : VisitOrder where
  order allocations := (List.range allocations.length).insertionSort fun a b =>
    marginalOf solver legs allocations b ≤ marginalOf solver legs allocations a
  perm _ := List.perm_insertionSort _ _

theorem wrappingSum_of_le (fits : allocations.sum ≤ u128Max) :
    wrappingSum allocations = allocations.sum :=
  Nat.mod_eq_of_lt (Nat.lt_of_le_of_lt fits (by decide))

/-- The solver rebalances as the checked function does in the orders of its rates. -/
theorem rebalanceToTotal_eq (solver : WaterFill) (within : WithinCapacities legs allocations)
    (sameLength : allocations.length = legs.length) {totalIn : Nat} (isU128 : totalIn ≤ u128Max)
    (proposal : allocations.sum ≤ u128Max) :
    rebalanceToTotal solver legs allocations totalIn =
      (rebalanceChecked legs (solver.worstFirst legs) (solver.bestFirst legs) allocations
        totalIn).bind fun outcome => outcome.2.map fun _ => outcome.1 := by
  rw [rebalanceChecked_eq within sameLength isU128 proposal rfl rfl]
  have lowers : lowerToTotal solver legs allocations totalIn =
      lowerInOrder (solver.worstFirst legs) allocations totalIn := by
    rw [lowerToTotal, wrappingSum_of_le proposal]
    rfl
  have loweredLe := sum_le_of_lowerInOrder lowers
  have raises : raiseToTotal solver legs (lowerToTotal solver legs allocations totalIn) totalIn =
      raiseInOrder legs (solver.bestFirst legs)
        (lowerToTotal solver legs allocations totalIn) totalIn := by
    rw [raiseToTotal, wrappingSum_of_le (loweredLe.trans isU128)]
    rfl
  have raisedLe :
      (raiseToTotal solver legs (lowerToTotal solver legs allocations totalIn) totalIn).sum ≤
        totalIn := by
    obtain ⟨left, filled⟩ := filled_raiseInOrder
      (withinCapacities_lowerInOrder within (solver.worstFirst legs) totalIn)
      (by rw [length_lowerInOrder, sameLength]) (solver.bestFirst legs) (lowers ▸ loweredLe) isU128
    have sum := filled.sum
    rw [raises, lowers]
    rw [lowers] at loweredLe
    omega
  rw [rebalanceToTotal, Option.bind_some]
  dsimp only
  rw [wrappingSum_of_le (raisedLe.trans isU128), raises, lowers]
  split
  · rfl
  · rfl

/-- A solution of which the rounded amounts are a proposal adds up to the total exactly. -/
theorem sum_of_solveAllocations {solver : WaterFill} {totalIn : Nat} (isU128 : totalIn ≤ u128Max)
    (proposal : (legs.map fun leg => min (solver.roundedAllocation legs totalIn leg)
      (leg.capacity.getD u128Max)).sum ≤ u128Max)
    (solves : solveAllocations solver legs totalIn = some allocations) :
    allocations.sum = totalIn := by
  unfold solveAllocations at solves
  split at solves
  · cases solves
  · split at solves
    · cases solves
    · injection solves with same
      rw [← same, List.sum_singleton]
  · split at solves
    · cases solves
    · split at solves
      · cases solves
      · obtain ⟨rebalances, _⟩ := Option.filter_eq_some_iff.mp solves
        have within := withinCapacities_proposal legs (solver.roundedAllocation legs totalIn)
        rw [rebalanceToTotal_eq solver within (List.length_map _) isU128 proposal,
          rebalanceChecked_eq within (List.length_map _) isU128 proposal rfl rfl,
          Option.bind_some] at rebalances
        obtain ⟨_, success, same⟩ := Option.map_eq_some_iff.mp rebalances
        rw [← same]
        exact (Option.ite_none_right_eq_some.mp success).1

end Passes

/-- Rebalancing in any order: no operation fails, the capacities are respected, success means that
the total is reached, and it is reported whenever the legs can take the total. -/
theorem rebalance_reachesTotal (legs : List V2AllocationLeg) (worstFirst bestFirst : VisitOrder)
    (allocations : List Nat) (totalIn : Nat) (isU128 : totalIn ≤ u128Max)
    (sameLength : allocations.length = legs.length) (within : WithinCapacities legs allocations)
    (proposal : allocations.sum < 2 ^ 128) :
    ∃ outcome, rebalanceChecked legs worstFirst bestFirst allocations totalIn = some outcome ∧
      Rebalanced legs totalIn outcome :=
  ⟨_, rebalanceChecked_eq within sameLength isU128 (Nat.le_of_lt_succ proposal) rfl rfl,
    rebalanced_of_raises within sameLength isU128 rfl rfl⟩

def byPosition : VisitOrder where
  order allocations := List.range allocations.length
  perm _ := List.Perm.refl _

def cappedLegs : List V2AllocationLeg :=
  [{ reserveIn := 1000, reserveOut := 1100, feePpm := 0, capacity := some 100 },
    { reserveIn := 10000, reserveOut := 10500, feePpm := 0, capacity := none }]

/-- The first leg is full already, so the second one gets all that is missing. -/
theorem rebalance_reachesTotal_cappedLegs :
    rebalanceChecked cappedLegs byPosition byPosition [100, 50] 1000 =
        some ([100, 900], some ()) ∧
      ∃ outcome, rebalanceChecked cappedLegs byPosition byPosition [100, 50] 1000 = some outcome ∧
        Rebalanced cappedLegs 1000 outcome := by
  refine ⟨by decide, rebalance_reachesTotal cappedLegs byPosition byPosition [100, 50] 1000
    (by decide) rfl ?_ (by decide)⟩
  intro idx leg found capacity isCapacity
  match idx with
  | 0 =>
    cases found
    cases isCapacity
    exact Nat.le_refl _
  | 1 =>
    cases found
    cases isCapacity
  | _ + 2 => cases found

end DexArbitrage
