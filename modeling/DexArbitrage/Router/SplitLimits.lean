/-
This file proves the limits of a split. Whatever the water-filling solver
proposes and whatever the quoter answers, the splits of a hop are on pairwise
different edges of the pair, there are at most as many as parallel pools are
allowed, and none is above the capacity of its edge.

The three ways keep to the capacity differently: one pool is asked for the
whole input only if it can take it, an allocation of the solver is cut to the
capacity and rebalanced within it, and a slice is added only if the allocation
stays within the capacity with it.
-/

import Mathlib.Data.List.Perm.Basic
import DexArbitrage.Router.PairSplits
import DexArbitrage.Router.Rebalance

namespace DexArbitrage

/-! ### Allocations of edges -/

/-- The amount is not above the capacity of the edge, if it has one. -/
def WithinCapacity (snapshot : GraphSnapshot) (edgeRef : EdgeRef) (amount : Nat) : Prop :=
  ∀ edge, snapshot.edge edgeRef = some edge → edge.liquidity.safeCapacityIn ≠ 0 →
    amount ≤ edge.liquidity.safeCapacityIn

theorem withinCapacity_of_not_exceedsCapacity {snapshot : GraphSnapshot} {edgeRef : EdgeRef}
    {edge : Edge} {amount : Nat} (resolves : snapshot.edge edgeRef = some edge)
    (fits : ¬ edge.exceedsCapacity amount) : WithinCapacity snapshot edgeRef amount := by
  intro other found positive
  rw [resolves] at found
  injection found with same
  subst same
  by_contra above
  refine fits ?_
  unfold Edge.exceedsCapacity
  rw [Bool.and_eq_true, decide_eq_true_eq, decide_eq_true_eq]
  exact ⟨Nat.pos_of_ne_zero positive, Nat.lt_of_not_le above⟩

theorem withinCapacity_zero (snapshot : GraphSnapshot) (edgeRef : EdgeRef) :
    WithinCapacity snapshot edgeRef 0 := fun _ _ _ => Nat.zero_le _

/-- Every allocation, with all its slices, is within the capacity of its edge. -/
def AllWithinCapacity (snapshot : GraphSnapshot) (allocations : List Allocation) : Prop :=
  ∀ allocation ∈ allocations, WithinCapacity snapshot allocation.edgeRef allocation.amount

/-- The leg of an edge has the capacity of the edge. -/
theorem capacity_allocationLeg {snapshot : GraphSnapshot} {tokenIn tokenOut : Address}
    {edgeRef : EdgeRef} {leg : V2AllocationLeg}
    (found : allocationLeg snapshot tokenIn tokenOut edgeRef = some leg) {edge : Edge}
    (resolves : snapshot.edge edgeRef = some edge) (positive : edge.liquidity.safeCapacityIn ≠ 0) :
    leg.capacity = some edge.liquidity.safeCapacityIn := by
  obtain ⟨other, same, found⟩ := Option.bind_eq_some_iff.mp found
  rw [resolves] at same
  injection same with same
  subst same
  obtain ⟨pool, _, found⟩ := Option.bind_eq_some_iff.mp found
  rw [if_pos (Nat.pos_of_ne_zero positive)] at found
  split at found
  · unfold V2AllocationLeg.fromState at found
    split at found
    · obtain ⟨found, _⟩ := Option.filter_eq_some_iff.mp found
      split at found
      · injection found with same
        rw [← same]
      · split at found
        · injection found with same
          rw [← same]
        · cases found
    · cases found
  · cases found

theorem withinCapacity_optimalV2Allocations {solver : WaterFill} {snapshot : GraphSnapshot}
    {edgeRefs : List EdgeRef} {tokenIn tokenOut : Address} {totalIn : Nat} {amounts : List Nat}
    (solves : optimalV2Allocations solver snapshot edgeRefs tokenIn tokenOut totalIn =
      some amounts) :
    AllWithinCapacity snapshot (unquotedAllocations edgeRefs amounts) := by
  unfold optimalV2Allocations at solves
  split at solves
  · cases solves
  · obtain ⟨legs, isLegs, solves⟩ := Option.bind_eq_some_iff.mp solves
    have within := withinCapacities_solveAllocations solves
    have related := forall₂_of_mapM isLegs
    intro allocation member
    obtain ⟨pair, listed, same⟩ := List.mem_map.mp member
    obtain ⟨idx, found⟩ := List.mem_iff_getElem?.mp listed
    obtain ⟨isRef, isAmount⟩ := List.getElem?_zip_eq_some.mp found
    intro edge resolves positive
    rw [← same] at resolves ⊢
    obtain ⟨insideRefs, isRef⟩ := List.getElem?_eq_some_iff.mp isRef
    have insideLegs : idx < legs.length := related.length_eq ▸ insideRefs
    have isLeg : allocationLeg snapshot tokenIn tokenOut pair.1 = some legs[idx] :=
      isRef ▸ related.get insideRefs insideLegs
    have capacity := capacity_allocationLeg isLeg resolves positive
    have fits := within idx legs[idx] (List.getElem?_eq_getElem insideLegs) _ capacity
    rwa [List.getD_eq_getElem?_getD, isAmount] at fits

/-! ### The splits of a pair -/

/-- The split is on the edge and within its capacity. -/
def SplitOnEdge (snapshot : GraphSnapshot) (edgeRef : EdgeRef) (split : SplitPlan) : Prop :=
  ∃ pool, snapshot.edgePool edgeRef = some pool ∧ split.poolId = pool.poolId ∧
    WithinCapacity snapshot edgeRef split.amountIn

/-- The splits are on pairwise different edges of the pair, each within the capacity of its edge,
and there are at most as many as the limit. -/
def SplitsWithinLimits (snapshot : GraphSnapshot) (tokenIn tokenOut : Address)
    (maxParallelPools : Nat) (splits : List SplitPlan) : Prop :=
  splits.length ≤ maxParallelPools ∧ ∃ edgeRefs : List EdgeRef, edgeRefs.Nodup ∧
    (∀ edgeRef ∈ edgeRefs, edgeRef ∈ snapshot.pairEdges tokenIn tokenOut) ∧
    List.Forall₂ (SplitOnEdge snapshot) edgeRefs splits

section Pair

variable {State : Type} {optimizer : SplitOptimizer} {solver : WaterFill}
  {quoter : Quoter State} {snapshot : GraphSnapshot} {tokenIn tokenOut : Address}

theorem sound_any (quoter : Quoter State) (snapshot : GraphSnapshot)
    (tokenIn tokenOut : Address) :
    quoter.Sound snapshot tokenIn tokenOut (fun _ => True) fun _ _ _ => True :=
  fun _ _ _ _ _ _ _ _ _ => ⟨trivial, trivial⟩

theorem splitsWithinLimits_nil (maxParallelPools : Nat) :
    SplitsWithinLimits snapshot tokenIn tokenOut maxParallelPools [] :=
  ⟨Nat.zero_le _, [], List.nodup_nil, by simp, List.Forall₂.nil⟩

/-- Splits of allocations that keep to the limits keep to them. -/
theorem ensures_materialized_limits {allocations : List Allocation}
    (nodup : (allocations.map Allocation.edgeRef).Nodup)
    (listed : ∀ allocation ∈ allocations,
      allocation.edgeRef ∈ snapshot.pairEdges tokenIn tokenOut)
    (active : activeCount allocations ≤ optimizer.maxParallelPools)
    (within : AllWithinCapacity snapshot allocations)
    (quoted : ∀ allocation ∈ allocations,
      QuotedAllocation snapshot (fun _ _ _ => True) allocation) (start : State) :
    Ensures (materializeAllocationsWithQuotes optimizer quoter snapshot tokenIn tokenOut
      allocations) start fun result _ =>
        SplitsWithinLimits snapshot tokenIn tokenOut optimizer.maxParallelPools result.1 := by
  refine (ensures_materializedSplits (sound_any quoter snapshot tokenIn tokenOut) quoted
    trivial).mono ?_
  rintro result finish ⟨_, used, unsorted, sublist, related, sorted, _⟩
  have usedWithin : ∀ allocation ∈ used,
      WithinCapacity snapshot allocation.edgeRef allocation.amount :=
    fun allocation member => within allocation (sublist.subset member)
  have onEdges : List.Forall₂ (flip (SplitOnEdge snapshot)) unsorted
      (used.map Allocation.edgeRef) := by
    rw [List.forall₂_map_right_iff]
    refine ((List.forall₂_and_left _ _).mpr ⟨usedWithin, related⟩).flip.imp ?_
    rintro split allocation ⟨fits, pool, edgePool, _, _, planned⟩
    obtain ⟨_, _, poolId, _, _, amountIn, _⟩ := splitPlan_some planned
    exact ⟨pool, edgePool, poolId, amountIn ▸ fits⟩
  obtain ⟨edgeRefs, onSorted, perm⟩ := List.perm_comp_forall₂ sorted onEdges
  refine ⟨?_, edgeRefs, perm.nodup_iff.mpr (nodup.sublist (sublist.map _)), ?_, onSorted.flip⟩
  · rw [sorted.length_eq, ← related.length_eq]
    exact (length_le_activeCount sublist related).trans active
  · intro edgeRef member
    obtain ⟨allocation, inUsed, same⟩ := List.mem_map.mp (perm.mem_iff.mp member)
    exact same ▸ listed allocation (sublist.subset inUsed)

theorem mem_singleBestJobs_within {totalIn : Nat} {edgeRefs : List EdgeRef}
    {job : QuoteJob EdgeRef} (member : job ∈ singleBestJobs snapshot totalIn edgeRefs) :
    WithinCapacity snapshot job.label totalIn := by
  obtain ⟨edgeRef, _, found⟩ := List.mem_filterMap.mp member
  obtain ⟨edge, resolves, kept⟩ := Option.bind_eq_some_iff.mp found
  split at kept
  · cases kept
  · rename_i fits
    injection kept with same
    rw [← same]
    exact withinCapacity_of_not_exceedsCapacity resolves fits

theorem ensures_singleBest_limits (totalIn : Nat) {edgeRefs : List EdgeRef}
    (listed : ∀ edgeRef ∈ edgeRefs, edgeRef ∈ snapshot.pairEdges tokenIn tokenOut)
    (start : State) :
    Ensures (singleBest optimizer quoter snapshot tokenIn tokenOut totalIn edgeRefs) start
      fun result _ =>
        SplitsWithinLimits snapshot tokenIn tokenOut optimizer.maxParallelPools result.1 := by
  unfold singleBest
  rw [ensures_bind]
  refine (ensures_quoteJobs (sound_any quoter snapshot tokenIn tokenOut)
    (singleBestJobs snapshot totalIn edgeRefs) trivial).mono ?_
  rintro quotes middle ⟨_, results⟩
  split
  · rename_i edgeRef out best
    obtain ⟨job, isJob, isResult⟩ := results _ (bestQuote_some best).1
    obtain ⟨inRefs, amount, edge, resolves, samePool⟩ := mem_singleBestJobs isJob
    have label : edgeRef = job.label := isResult.1
    have quoted := quotedAllocation_of_jobResult isResult resolves samePool
    rw [← label, amount] at quoted
    refine ensures_materialized_limits ?_ ?_ ?_ ?_ ?_ middle
    · exact List.nodup_singleton edgeRef
    · intro allocation member
      rw [List.mem_singleton.mp member]
      exact listed edgeRef (label ▸ inRefs)
    · exact (List.countP_le_length).trans optimizer.maxParallelPools_range.1
    · intro allocation member
      rw [List.mem_singleton.mp member]
      exact label ▸ mem_singleBestJobs_within isJob
    · intro allocation member
      rw [List.mem_singleton.mp member]
      exact quoted
  · rw [ensures_pure]
    exact splitsWithinLimits_nil _

/-! ### Slice by slice -/

theorem mem_greedyJobs_within {slice : Nat} {state : GreedyState} {job : QuoteJob Nat}
    (member : job ∈ greedyJobs optimizer snapshot slice state) {allocation : Allocation}
    (found : state.allocations[job.label]? = some allocation) :
    WithinCapacity snapshot allocation.edgeRef
      (saturatingAdd u128Max allocation.amount slice) := by
  obtain ⟨⟨other, idx⟩, listed, made⟩ := List.mem_filterMap.mp member
  rw [List.mem_zipIdx_iff_getElem?] at listed
  simp only at made
  split at made
  · cases made
  · obtain ⟨edge, resolves, kept⟩ := Option.bind_eq_some_iff.mp made
    split at kept
    · cases kept
    · rename_i fits
      injection kept with same
      subst same
      have own : some other = some allocation := listed.symm.trans found
      injection own with own
      rw [← own]
      exact withinCapacity_of_not_exceedsCapacity resolves fits

theorem allWithinCapacity_assignSlice {slice : Nat} {state : GreedyState}
    (within : AllWithinCapacity snapshot state.allocations) {quotes : List (Nat × Nat)}
    (results : ∀ result ∈ quotes, ∃ job ∈ greedyJobs optimizer snapshot slice state,
      JobResult snapshot (fun _ _ _ => True) job result)
    {winner : RankedQuote} (best : bestMarginal state quotes = some winner) :
    AllWithinCapacity snapshot (assignSlice slice winner state).allocations := by
  obtain ⟨quoted, listed, same⟩ := bestMarginal_some best
  obtain ⟨job, isJob, isResult⟩ := results quoted listed
  have label : winner.idx = job.label := by
    rw [same]
    exact isResult.1
  intro allocation member
  rcases mem_modify member with old | ⟨before, stored, changed⟩
  · exact within allocation old
  · rw [changed]
    exact mem_greedyJobs_within isJob (label ▸ stored)

theorem ensures_greedyLoop_within (totalIn minSlice fuel : Nat) {state : GreedyState}
    (within : AllWithinCapacity snapshot state.allocations) (start : State) :
    Ensures (greedyLoop optimizer quoter snapshot tokenIn tokenOut totalIn minSlice fuel state)
      start fun final _ => AllWithinCapacity snapshot final.allocations := by
  induction fuel generalizing state start with
  | zero =>
    unfold greedyLoop
    rw [ensures_pure]
    exact within
  | succ fuel inductionHypothesis =>
    unfold greedyLoop
    split
    · rw [ensures_bind]
      refine (ensures_quoteJobs (sound_any quoter snapshot tokenIn tokenOut) _ trivial).mono ?_
      rintro quotes middle ⟨_, results⟩
      split
      · rename_i winner best
        split
        · rw [ensures_pure]
          exact within
        · exact inductionHypothesis (allWithinCapacity_assignSlice within results best) middle
      · rw [ensures_pure]
        exact within
    · rw [ensures_pure]
      exact within

theorem ensures_greedySplit_limits (totalIn : Nat) {minSlice : Nat} (positive : 0 < minSlice)
    {edgeRefs : List EdgeRef} (nodup : edgeRefs.Nodup)
    (listed : ∀ edgeRef ∈ edgeRefs, edgeRef ∈ snapshot.pairEdges tokenIn tokenOut)
    (start : State) :
    Ensures (greedySplit optimizer quoter snapshot tokenIn tokenOut totalIn minSlice edgeRefs)
      start fun result _ =>
        SplitsWithinLimits snapshot tokenIn tokenOut optimizer.maxParallelPools result.1 := by
  have within : AllWithinCapacity snapshot (edgeRefs.map fun edgeRef =>
      { edgeRef, amount := 0, quoted := 0 }) := by
    intro allocation member
    obtain ⟨edgeRef, _, same⟩ := List.mem_map.mp member
    exact same ▸ withinCapacity_zero snapshot edgeRef
  unfold greedySplit
  rw [ensures_bind]
  refine ((ensures_greedyLoop (sound_any quoter snapshot tokenIn tokenOut) totalIn positive totalIn
    (greedyInvariant_unassigned edgeRefs) trivial).and
      (ensures_greedyLoop_within totalIn minSlice totalIn within start)).mono ?_
  rintro final middle ⟨⟨_, kept⟩, keptWithin⟩
  refine ensures_materialized_limits ?_ ?_ (kept.active.trans kept.bounded) keptWithin
    kept.quoted middle
  · rw [kept.edgeRefs]
    exact nodup
  · intro allocation member
    refine listed allocation.edgeRef ?_
    rw [← kept.edgeRefs]
    exact List.mem_map_of_mem member

/-! ### Every way -/

theorem ensures_v2Split_limits (totalIn : Nat) {edgeRefs : List EdgeRef} (nodup : edgeRefs.Nodup)
    (listed : ∀ edgeRef ∈ edgeRefs, edgeRef ∈ snapshot.pairEdges tokenIn tokenOut)
    (atMost : edgeRefs.length ≤ optimizer.maxParallelPools) (start : State) :
    Ensures (v2Split optimizer solver quoter snapshot tokenIn tokenOut totalIn edgeRefs) start
      fun result _ =>
        SplitsWithinLimits snapshot tokenIn tokenOut optimizer.maxParallelPools result.1 := by
  unfold v2Split
  split
  · rename_i amounts solves
    obtain ⟨refsNodup, refsListed, active, quoted⟩ :=
      unquotedAllocations_spec amounts nodup listed atMost
    exact ensures_materialized_limits refsNodup refsListed active
      (withinCapacity_optimalV2Allocations solves) quoted start
  · rw [ensures_pure]
    exact splitsWithinLimits_nil _

/-- Whatever the solver proposes and the quoter answers, the splits keep to the limits. -/
theorem ensures_splitsWithinLimits (optimizer : SplitOptimizer) (solver : WaterFill)
    (quoter : Quoter State) (snapshot : GraphSnapshot) (tokenIn tokenOut : Address)
    (totalIn : Nat) (start : State) :
    Ensures (optimizePair optimizer solver quoter snapshot tokenIn tokenOut totalIn) start
      fun result _ =>
        SplitsWithinLimits snapshot tokenIn tokenOut optimizer.maxParallelPools result.1 := by
  obtain ⟨rankedNodup, listed⟩ := rankedPairEdges_spec snapshot
    (snapshot.pairEdges tokenIn tokenOut) optimizer.pairEdgeScanLimit totalIn
  unfold optimizePair
  simp only
  split
  · rw [ensures_pure]
    exact splitsWithinLimits_nil _
  · split
    · exact ensures_singleBest_limits totalIn listed start
    · rw [ensures_bind]
      refine (ensures_v2Split_limits totalIn (rankedNodup.sublist (List.take_sublist _ _))
        (fun edgeRef member => listed edgeRef (List.mem_of_mem_take member))
        (List.length_take_le _ _) start).mono ?_
      intro materialized middle limits
      split
      · exact ensures_greedySplit_limits totalIn
          (Nat.lt_of_lt_of_le Nat.one_pos (Nat.le_max_right _ _)) rankedNodup listed middle
      · rw [ensures_pure]
        exact limits

end Pair

end DexArbitrage
