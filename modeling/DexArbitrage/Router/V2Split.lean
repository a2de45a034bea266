/-
This file models `src/router/v2_split.rs`: the allocation of an input over
constant-product pools of one pair. The solver looks in floating point for a
common marginal rate and rounds what each pool takes at that rate; the rounded
amounts are then brought to the total in integers, which is modelled here.

The floating-point part is a parameter, `WaterFill`. Its rates are finite
doubles, hence multiples of the smallest positive one, so they are integers.
-/

import Mathlib.Data.List.Forall2
import Mathlib.Data.List.Sort
import DexArbitrage.Graph.Model

namespace DexArbitrage

/-- The pool of one leg as the solver sees it: its reserves in the direction of the swap, its
fee, and how much it may take. -/
structure V2AllocationLeg where
  reserveIn : Nat
  reserveOut : Nat
  feePpm : Nat
  capacity : Option Nat
  deriving DecidableEq, Repr

/-- The floating-point part of the solver: the marginal rate of a leg that has been allocated an
amount, and the rounded amount that a leg takes at the common rate found for a total. -/
structure WaterFill where
  marginalAt : V2AllocationLeg → Nat → Int
  roundedAllocation : List V2AllocationLeg → Nat → V2AllocationLeg → Nat

namespace V2AllocationLeg

def fromState (state : V2PoolState) (tokens : List Address) (tokenIn tokenOut : Address)
    (capacity : Option Nat) : Option V2AllocationLeg :=
  match tokens with
  | token0 :: token1 :: _ =>
    let leg? : Option V2AllocationLeg :=
      if token0 = tokenIn ∧ token1 = tokenOut then
        some { reserveIn := state.reserve0, reserveOut := state.reserve1
               feePpm := state.feePpm, capacity }
      else if token1 = tokenIn ∧ token0 = tokenOut then
        some { reserveIn := state.reserve1, reserveOut := state.reserve0
               feePpm := state.feePpm, capacity }
      else
        none
    leg?.filter fun leg =>
      ! (leg.reserveIn = 0 || leg.reserveOut = 0 || decide (1000000 ≤ state.feePpm))
  | _ => none

def capacityRemaining (leg : V2AllocationLeg) (allocated : Nat) : Nat :=
  match leg.capacity with
  | some capacity => capacity - allocated
  | none => u128Max

end V2AllocationLeg

/-- The sum of `u128` amounts, as a release build computes it. -/
def wrappingSum (amounts : List Nat) : Nat :=
  amounts.sum % 2 ^ 128

/-! ### Bringing the allocations to the total -/

section Rebalance

variable (solver : WaterFill) (legs : List V2AllocationLeg)

/-- The marginal rate of the leg at a position, at its present allocation. -/
def marginalOf (allocations : List Nat) (idx : Nat) : Int :=
  match legs[idx]?, allocations[idx]? with
  | some leg, some amount => solver.marginalAt leg amount
  | _, _ => 0

def removeExcess : List Nat → Nat → List Nat → List Nat
  | [], _, allocations => allocations
  | idx :: order, excess, allocations =>
    if excess = 0 then
      allocations
    else
      let allocation := allocations.getD idx 0
      let removed := min allocation excess
      removeExcess order (excess - removed) (allocations.set idx (allocation - removed))

def addRemaining : List Nat → Nat → List Nat → List Nat
  | [], _, allocations => allocations
  | idx :: order, remaining, allocations =>
    if remaining = 0 then
      allocations
    else
      let allocation := allocations.getD idx 0
      let room := match legs[idx]? with
        | some leg => leg.capacityRemaining allocation
        | none => 0
      let added := min room remaining
      addRemaining order (remaining - added)
        (allocations.set idx (saturatingAdd u128Max allocation added))

/-- Take what is too much from the legs with the worst rates. -/
def lowerToTotal (allocations : List Nat) (totalIn : Nat) : List Nat :=
  if totalIn < wrappingSum allocations then
    let order := (List.range allocations.length).insertionSort fun a b =>
      marginalOf solver legs allocations a ≤ marginalOf solver legs allocations b
    removeExcess order (wrappingSum allocations - totalIn) allocations
  else
    allocations

/-- Give what is missing to the legs with the best rates. -/
def raiseToTotal (allocations : List Nat) (totalIn : Nat) : List Nat :=
  if wrappingSum allocations < totalIn then
    let order := (List.range allocations.length).insertionSort fun a b =>
      marginalOf solver legs allocations b ≤ marginalOf solver legs allocations a
    addRemaining legs order (totalIn - wrappingSum allocations) allocations
  else
    allocations

def rebalanceToTotal (allocations : List Nat) (totalIn : Nat) : Option (List Nat) :=
  let lowered := lowerToTotal solver legs allocations totalIn
  let raised := raiseToTotal solver legs lowered totalIn
  if wrappingSum raised = totalIn then some raised else none

/-- The sum of the capacities, when every leg has one. -/
def finiteCapacitySum : Option Nat :=
  legs.foldlM (fun sum leg => leg.capacity.map (saturatingAdd u128Max sum)) 0

def solveAllocations (totalIn : Nat) : Option (List Nat) :=
  match legs with
  | [] => none
  | [leg] => if leg.capacity.any (· < totalIn) then none else some [totalIn]
  | legs =>
    if (finiteCapacitySum legs).any (· < totalIn) then
      none
    else if (legs.map fun leg => solver.marginalAt leg 0).foldl max 0 ≤ 0 then
      none
    else
      let allocations := legs.map fun leg =>
        min (solver.roundedAllocation legs totalIn leg) (leg.capacity.getD u128Max)
      (rebalanceToTotal solver legs allocations totalIn).filter fun allocations =>
        allocations.any (0 < ·)

end Rebalance

/-! ### The legs of a pair -/

def allocationLeg (snapshot : GraphSnapshot) (tokenIn tokenOut : Address) (edgeRef : EdgeRef) :
    Option V2AllocationLeg := do
  let edge ← snapshot.edge edgeRef
  let pool ← snapshot.pool edge.poolId
  match pool.state with
  | .uniswapV2Like state =>
    V2AllocationLeg.fromState state pool.tokenAddresses tokenIn tokenOut
      (if 0 < edge.liquidity.safeCapacityIn then some edge.liquidity.safeCapacityIn else none)
  | _ => none

def optimalV2Allocations (solver : WaterFill) (snapshot : GraphSnapshot)
    (edgeRefs : List EdgeRef) (tokenIn tokenOut : Address) (totalIn : Nat) :
    Option (List Nat) :=
  if totalIn = 0 ∨ edgeRefs = [] then
    none
  else do
    let legs ← edgeRefs.mapM (allocationLeg snapshot tokenIn tokenOut)
    solveAllocations solver legs totalIn

/-! ### What a solution looks like -/

@[simp] theorem length_removeExcess (order : List Nat) (excess : Nat) (allocations : List Nat) :
    (removeExcess order excess allocations).length = allocations.length := by
  induction order generalizing excess allocations with
  | nil => rfl
  | cons idx order inductionHypothesis =>
    unfold removeExcess
    split
    · rfl
    · rw [inductionHypothesis, List.length_set]

@[simp] theorem length_addRemaining (legs : List V2AllocationLeg) (order : List Nat)
    (remaining : Nat) (allocations : List Nat) :
    (addRemaining legs order remaining allocations).length = allocations.length := by
  induction order generalizing remaining allocations with
  | nil => rfl
  | cons idx order inductionHypothesis =>
    unfold addRemaining
    split
    · rfl
    · simp only [inductionHypothesis, List.length_set]

/-- The rebalanced allocations add up to the total, one for each leg. -/
theorem rebalanceToTotal_some {solver : WaterFill} {legs : List V2AllocationLeg}
    {allocations rebalanced : List Nat} {totalIn : Nat}
    (rebalances : rebalanceToTotal solver legs allocations totalIn = some rebalanced) :
    wrappingSum rebalanced = totalIn ∧ rebalanced.length = allocations.length := by
  have lowered : (lowerToTotal solver legs allocations totalIn).length = allocations.length := by
    unfold lowerToTotal
    split
    · exact length_removeExcess _ _ _
    · rfl
  have raised : ∀ amounts, (raiseToTotal solver legs amounts totalIn).length = amounts.length := by
    intro amounts
    unfold raiseToTotal
    split
    · exact length_addRemaining _ _ _ _
    · rfl
  unfold rebalanceToTotal at rebalances
  obtain ⟨total, same⟩ := Option.ite_none_right_eq_some.mp rebalances
  injection same with same
  rw [← same]
  exact ⟨total, (raised _).trans lowered⟩

/-- A solution has one allocation for each leg, and the allocations add up to the total. -/
theorem solveAllocations_some {solver : WaterFill} {legs : List V2AllocationLeg}
    {allocations : List Nat} {totalIn : Nat} (fits : totalIn ≤ u128Max)
    (solves : solveAllocations solver legs totalIn = some allocations) :
    wrappingSum allocations = totalIn ∧ allocations.length = legs.length := by
  unfold solveAllocations at solves
  split at solves
  · cases solves
  · split at solves
    · cases solves
    · injection solves with same
      subst same
      have small : totalIn < 2 ^ 128 := Nat.lt_of_le_of_lt fits (by decide)
      refine ⟨?_, rfl⟩
      unfold wrappingSum
      rw [List.sum_singleton]
      exact Nat.mod_eq_of_lt small
  · split at solves
    · cases solves
    · split at solves
      · cases solves
      · obtain ⟨rebalances, _⟩ := Option.filter_eq_some_iff.mp solves
        have result := rebalanceToTotal_some rebalances
        rw [List.length_map] at result
        exact result

end DexArbitrage
