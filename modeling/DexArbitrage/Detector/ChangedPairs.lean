/-
This file says what the list of the changed pairs depends on. Every pair of a
changed edge is filed with a changed edge of the least rate; the list is ranked
by these rates and then by the pairs themselves, which are all different, so
neither the order of the changed edges nor the order in which the pairs are
visited shows in it.
-/

import DexArbitrage.Detector.HashOrders

namespace DexArbitrage

open Std

/-! ### The least rate of a pair -/

def edgeScore (snapshot : GraphSnapshot) (edgeRef : EdgeRef) : Int :=
  match snapshot.edge edgeRef with
  | some edge => edge.weightLogQ32
  | none => i64Max

/-- A pair with the rate of its edge. -/
def scored (snapshot : GraphSnapshot) (changed : (Nat × Nat) × EdgeRef) : (Nat × Nat) × Int :=
  (changed.1, edgeScore snapshot changed.2)

def compareScored (left right : (Nat × Nat) × Int) : Ordering :=
  (compare left.2 right.2).then <|
    (compare left.1.1 right.1.1).then <| compare left.1.2 right.1.2

theorem compareScored_eq :
    compareScored =
      compareLex (compareOn Prod.snd)
        (compareLex (compareOn fun changed => changed.1.1)
          (compareOn fun changed => changed.1.2)) := rfl

instance : TransCmp compareScored := by
  rw [compareScored_eq]
  infer_instance

theorem eq_of_compareScored_eq {left right : (Nat × Nat) × Int}
    (tied : compareScored left right = .eq) : left = right := by
  unfold compareScored at tied
  simp only [Ordering.then_eq_eq] at tied
  exact Prod.ext
    (Prod.ext (LawfulEqCmp.eq_of_compare tied.2.1) (LawfulEqCmp.eq_of_compare tied.2.2))
    (LawfulEqCmp.eq_of_compare tied.1)

section Noted

variable {snapshot : GraphSnapshot} {changedEdges : List EdgeRef}

theorem edgeScore_of_resolves {edgeRef : EdgeRef} {edge : Edge}
    (resolves : snapshot.edge edgeRef = some edge) :
    edgeScore snapshot edgeRef = edge.weightLogQ32 := by
  unfold edgeScore
  rw [resolves]

/-- Every pair is filed with one of its changed edges, and no changed edge of it has a lower
rate. -/
structure BestNoted (snapshot : GraphSnapshot) (changedEdges : List EdgeRef)
    (byPair : HashMap (Nat × Nat) EdgeRef) : Prop where
  noted : PairsNoted snapshot changedEdges byPair
  least : ∀ edgeRef ∈ changedEdges, ∀ edge, snapshot.edge edgeRef = some edge →
    ∃ best, byPair.lookup (edge.fromIdx, edge.toIdx) = some best ∧
      edgeScore snapshot best ≤ edge.weightLogQ32

theorem PairsNoted.concat {byPair : HashMap (Nat × Nat) EdgeRef}
    (noted : PairsNoted snapshot changedEdges byPair) (edgeRef : EdgeRef) :
    PairsNoted snapshot (changedEdges ++ [edgeRef]) byPair := by
  intro pair found atPair
  obtain ⟨changed, isEdge⟩ := noted pair found atPair
  exact ⟨List.mem_append_left _ changed, isEdge⟩

/-- The better of two edges has no higher rate. -/
theorem edgeScore_le_of_betterEdgeRef {left right : EdgeRef} {leftEdge rightEdge : Edge}
    (leftResolves : snapshot.edge left = some leftEdge)
    (rightResolves : snapshot.edge right = some rightEdge) :
    (betterEdgeRef snapshot left right = true →
      leftEdge.weightLogQ32 ≤ rightEdge.weightLogQ32) ∧
    (¬ betterEdgeRef snapshot left right = true →
      rightEdge.weightLogQ32 ≤ leftEdge.weightLogQ32) := by
  unfold betterEdgeRef
  rw [compareEdgeRefs_of_resolves leftResolves rightResolves]
  unfold compareEdges
  rcases Int.lt_trichotomy leftEdge.weightLogQ32 rightEdge.weightLogQ32 with lower | same | higher
  · rw [Int.compare_eq_lt.mpr lower]
    exact ⟨fun _ => lower.le, fun notBetter => (notBetter rfl).elim⟩
  · exact ⟨fun _ => same.le, fun _ => same.ge⟩
  · rw [Int.compare_eq_gt.mpr higher]
    exact ⟨fun better => (nomatch better), fun _ => higher.le⟩

/-- The edge filed under the pair of an edge has no higher rate than that edge. -/
def LeastAt (snapshot : GraphSnapshot) (byPair : HashMap (Nat × Nat) EdgeRef) (edge : Edge) :
    Prop :=
  ∃ best, byPair.lookup (edge.fromIdx, edge.toIdx) = some best ∧
    edgeScore snapshot best ≤ edge.weightLogQ32

/-- Filing an edge is right for the edges of its pair that are not below it, and of no consequence
for those of other pairs. -/
theorem leastAt_insert {byPair : HashMap (Nat × Nat) EdgeRef} {edgeRef : EdgeRef}
    {added edge : Edge} (resolves : snapshot.edge edgeRef = some added)
    (ownPair : (edge.fromIdx, edge.toIdx) = (added.fromIdx, added.toIdx) →
      added.weightLogQ32 ≤ edge.weightLogQ32)
    (otherPair : (edge.fromIdx, edge.toIdx) ≠ (added.fromIdx, added.toIdx) →
      LeastAt snapshot byPair edge) :
    LeastAt snapshot (byPair.insert (added.fromIdx, added.toIdx) edgeRef) edge := by
  unfold LeastAt
  rw [HashMap.lookup_insert]
  by_cases own : (edge.fromIdx, edge.toIdx) = (added.fromIdx, added.toIdx)
  · rw [if_pos own]
    exact ⟨edgeRef, rfl, (edgeScore_of_resolves resolves).trans_le (ownPair own)⟩
  · rw [if_neg own]
    exact otherPair own

theorem leastAt_concat {byPair : HashMap (Nat × Nat) EdgeRef} {edgeRef : EdgeRef}
    (sofar : ∀ other ∈ changedEdges, ∀ edge, snapshot.edge other = some edge →
      LeastAt snapshot byPair edge)
    (added : ∀ edge, snapshot.edge edgeRef = some edge → LeastAt snapshot byPair edge) :
    ∀ other ∈ changedEdges ++ [edgeRef], ∀ edge, snapshot.edge other = some edge →
      LeastAt snapshot byPair edge := by
  intro other member edge isEdge
  rcases List.mem_append.mp member with old | new
  · exact sofar other old edge isEdge
  · rw [List.mem_singleton.mp new] at isEdge
    exact added edge isEdge

theorem bestNoted_notePair {byPair : HashMap (Nat × Nat) EdgeRef}
    (bestNoted : BestNoted snapshot changedEdges byPair) (edgeRef : EdgeRef) :
    BestNoted snapshot (changedEdges ++ [edgeRef]) (notePair snapshot byPair edgeRef) where
  noted := pairsNoted_notePair (bestNoted.noted.concat edgeRef)
    (List.mem_append_right _ List.mem_cons_self)
  least := by
    unfold notePair
    cases resolves : snapshot.edge edgeRef with
    | none =>
      refine leastAt_concat bestNoted.least fun edge isEdge => ?_
      rw [resolves] at isEdge
      cases isEdge
    | some added =>
      -- Filing the edge is right when it is not above those of its pair so far.
      have filed : (∀ other ∈ changedEdges, ∀ edge, snapshot.edge other = some edge →
            (edge.fromIdx, edge.toIdx) = (added.fromIdx, added.toIdx) →
            added.weightLogQ32 ≤ edge.weightLogQ32) →
          ∀ other ∈ changedEdges ++ [edgeRef], ∀ edge, snapshot.edge other = some edge →
            LeastAt snapshot (byPair.insert (added.fromIdx, added.toIdx) edgeRef) edge := by
        intro lowest
        refine leastAt_concat (fun other member edge isEdge => ?_) fun edge isEdge => ?_
        · exact leastAt_insert resolves (lowest other member edge isEdge)
            fun _ => bestNoted.least other member edge isEdge
        · rw [resolves] at isEdge
          injection isEdge with same
          subst same
          exact leastAt_insert resolves (fun _ => Int.le_refl _) fun notOwn => (notOwn rfl).elim
      dsimp only
      cases stored : byPair.lookup (added.fromIdx, added.toIdx) with
      | none =>
        refine filed fun other member edge isEdge samePair => ?_
        obtain ⟨best, found, _⟩ := bestNoted.least other member edge isEdge
        rw [samePair, stored] at found
        cases found
      | some current =>
        obtain ⟨_, currentEdge, currentResolves, _⟩ := bestNoted.noted _ current stored
        have currentScore := edgeScore_of_resolves currentResolves
        obtain ⟨better, notBetter⟩ := edgeScore_le_of_betterEdgeRef resolves currentResolves
        have lowest : ∀ other ∈ changedEdges, ∀ edge, snapshot.edge other = some edge →
            (edge.fromIdx, edge.toIdx) = (added.fromIdx, added.toIdx) →
            currentEdge.weightLogQ32 ≤ edge.weightLogQ32 := by
          intro other member edge isEdge samePair
          obtain ⟨best, found, below⟩ := bestNoted.least other member edge isEdge
          rw [samePair, stored] at found
          injection found with same
          rwa [← same, currentScore] at below
        dsimp only
        split
        · rename_i isBetter
          exact filed fun other member edge isEdge samePair =>
            (better isBetter).trans (lowest other member edge isEdge samePair)
        · rename_i isNotBetter
          refine leastAt_concat bestNoted.least fun edge isEdge => ?_
          rw [resolves] at isEdge
          injection isEdge with same
          subst same
          exact ⟨current, stored, currentScore ▸ notBetter isNotBetter⟩

theorem bestNoted_foldl (rest : List EdgeRef) {byPair : HashMap (Nat × Nat) EdgeRef}
    (bestNoted : BestNoted snapshot changedEdges byPair) :
    BestNoted snapshot (changedEdges ++ rest) (rest.foldl (notePair snapshot) byPair) := by
  induction rest generalizing changedEdges byPair with
  | nil => simpa using bestNoted
  | cons edgeRef rest inductionHypothesis =>
    rw [List.foldl_cons, List.append_cons]
    exact inductionHypothesis (bestNoted_notePair bestNoted edgeRef)

theorem bestNoted_changedEdges (snapshot : GraphSnapshot) (changedEdges : List EdgeRef) :
    BestNoted snapshot changedEdges (changedEdges.foldl (notePair snapshot) ∅) := by
  have empty : BestNoted snapshot [] ∅ :=
    ⟨fun _ _ found => (nomatch found), fun _ member => (nomatch member)⟩
  exact bestNoted_foldl changedEdges empty

/-! ### The list of the pairs -/

/-- The pair has changed edges, and the rate is the least one of them. -/
def IsLeastRate (snapshot : GraphSnapshot) (changedEdges : List EdgeRef)
    (changed : (Nat × Nat) × Int) : Prop :=
  (∃ edgeRef ∈ changedEdges, ∃ edge, snapshot.edge edgeRef = some edge ∧
    (edge.fromIdx, edge.toIdx) = changed.1 ∧ edge.weightLogQ32 = changed.2) ∧
  ∀ edgeRef ∈ changedEdges, ∀ edge, snapshot.edge edgeRef = some edge →
    (edge.fromIdx, edge.toIdx) = changed.1 → changed.2 ≤ edge.weightLogQ32

theorem BestNoted.isLeastRate_iff {byPair : HashMap (Nat × Nat) EdgeRef}
    (bestNoted : BestNoted snapshot changedEdges byPair) (changed : (Nat × Nat) × Int) :
    (∃ edgeRef, byPair.lookup changed.1 = some edgeRef ∧ edgeScore snapshot edgeRef = changed.2) ↔
      IsLeastRate snapshot changedEdges changed := by
  constructor
  · rintro ⟨edgeRef, stored, score⟩
    obtain ⟨isChanged, edge, resolves, pair⟩ := bestNoted.noted _ edgeRef stored
    rw [edgeScore_of_resolves resolves] at score
    refine ⟨⟨edgeRef, isChanged, edge, resolves, pair, score⟩, ?_⟩
    intro other otherChanged otherEdge otherResolves otherPair
    obtain ⟨best, found, below⟩ := bestNoted.least other otherChanged otherEdge otherResolves
    rw [otherPair, stored] at found
    injection found with same
    rwa [← same, edgeScore_of_resolves resolves, score] at below
  · rintro ⟨⟨edgeRef, isChanged, edge, resolves, pair, weight⟩, least⟩
    obtain ⟨best, stored, below⟩ := bestNoted.least edgeRef isChanged edge resolves
    rw [pair] at stored
    obtain ⟨bestChanged, bestEdge, bestResolves, bestPair⟩ := bestNoted.noted _ best stored
    rw [edgeScore_of_resolves bestResolves, weight] at below
    refine ⟨best, stored, ?_⟩
    rw [edgeScore_of_resolves bestResolves]
    exact Int.le_antisymm below (least best bestChanged bestEdge bestResolves bestPair)

theorem changedVirtualPairs_eq (context : SearchContext) (snapshot : GraphSnapshot)
    (changedEdges : List EdgeRef) :
    changedVirtualPairs context snapshot changedEdges =
      sortBy (fun left right => compareScored (scored snapshot left) (scored snapshot right))
        (context.pairsOrder.order
          ((changedEdges.foldl (notePair snapshot) ∅).entries.map fun entry =>
            (entry.1, entry.2))) := rfl

/-- The pairs with their rates, as they are ranked. -/
theorem map_scored_changedVirtualPairs (context : SearchContext) (snapshot : GraphSnapshot)
    (changedEdges : List EdgeRef) :
    (changedVirtualPairs context snapshot changedEdges).map (scored snapshot) =
      sortBy compareScored ((context.pairsOrder.order
        ((changedEdges.foldl (notePair snapshot) ∅).entries.map fun entry =>
          (entry.1, entry.2))).map (scored snapshot)) := by
  rw [changedVirtualPairs_eq]
  exact List.map_insertionSort _ _ _ _ fun left _ right _ => Iff.rfl

theorem mem_scored_iff (context : SearchContext) (changed : (Nat × Nat) × Int) :
    changed ∈ (context.pairsOrder.order
        ((changedEdges.foldl (notePair snapshot) ∅).entries.map fun entry =>
          (entry.1, entry.2))).map (scored snapshot) ↔
      IsLeastRate snapshot changedEdges changed := by
  rw [← (bestNoted_changedEdges snapshot changedEdges).isLeastRate_iff,
    ((context.pairsOrder.perm _).map (scored snapshot)).mem_iff, List.map_map, List.mem_map]
  constructor
  · rintro ⟨entry, listed, rfl⟩
    exact ⟨entry.2, (HashMap.lookup_eq_some_iff _ _ _).mpr listed, rfl⟩
  · rintro ⟨edgeRef, stored, score⟩
    refine ⟨⟨changed.1, edgeRef⟩, (HashMap.lookup_eq_some_iff _ _ _).mp stored, ?_⟩
    exact Prod.ext rfl score

theorem nodup_scored (context : SearchContext) :
    ((context.pairsOrder.order
      ((changedEdges.foldl (notePair snapshot) ∅).entries.map fun entry =>
        (entry.1, entry.2))).map (scored snapshot)).Nodup := by
  rw [((context.pairsOrder.perm _).map (scored snapshot)).nodup_iff, List.map_map]
  have keys : ((changedEdges.foldl (notePair snapshot) ∅).entries.map Sigma.fst).Nodup :=
    (changedEdges.foldl (notePair snapshot) ∅).nodupKeys
  refine List.pairwise_map.mpr ((List.pairwise_map.mp keys).imp fun different same => different ?_)
  exact congrArg Prod.fst same

end Noted

/-- Changed edges with the same least rates have the same pairs, in the same order. -/
theorem map_scored_changedVirtualPairs_eq {firstContext secondContext : SearchContext}
    {firstSnapshot secondSnapshot : GraphSnapshot} {firstEdges secondEdges : List EdgeRef}
    (sameRates : ∀ changed, IsLeastRate firstSnapshot firstEdges changed ↔
      IsLeastRate secondSnapshot secondEdges changed) :
    (changedVirtualPairs firstContext firstSnapshot firstEdges).map (scored firstSnapshot) =
      (changedVirtualPairs secondContext secondSnapshot secondEdges).map
        (scored secondSnapshot) := by
  rw [map_scored_changedVirtualPairs, map_scored_changedVirtualPairs]
  refine sortBy_eq_of_perm ?_ fun left _ right _ => eq_of_compareScored_eq
  refine (List.perm_ext_iff_of_nodup (nodup_scored firstContext)
    (nodup_scored secondContext)).mpr fun changed => ?_
  rw [mem_scored_iff, mem_scored_iff, sameRates changed]

namespace Detection

variable {detection : Detection} {orders : HashOrders detection}

/-- The changed edges are the edges of the changed pools. -/
theorem exists_changedEdge_iff (orders : HashOrders detection) (edge : Edge) :
    (∃ edgeRef ∈ detection.changedEdges orders,
        (detection.snapshot orders).edge edgeRef = some edge) ↔
      edge ∈ detection.builtEdges orders ∧ edge.poolId ∈ detection.changedPools := by
  have agree := GraphSnapshot.agree_build detection.rates detection.snapshotId detection.blockRef
    detection.tokens orders.pools
  have filed : ∀ poolId edgeRef,
      edgeRef ∈ ((detection.snapshot orders).poolToEdges.lookup poolId).getD [] ↔
        ∃ edge, (detection.snapshot orders).edge edgeRef = some edge ∧ edge.poolId = poolId :=
    agree.byPool.mem_iff
  unfold changedEdges
  simp only [List.mem_flatMap, filed]
  constructor
  · rintro ⟨edgeRef, ⟨poolId, isChanged, found, foundResolves, ofPool⟩, resolves⟩
    rw [resolves] at foundResolves
    injection foundResolves with same
    subst same
    exact ⟨mem_builtEdges_of_resolves resolves, ofPool ▸ isChanged⟩
  · rintro ⟨isBuilt, isChanged⟩
    have referred : ∃ edgeRef, (detection.snapshot orders).edge edgeRef = some edge :=
      (GraphSnapshot.exists_edge_build_iff edge).mpr isBuilt
    obtain ⟨edgeRef, resolves⟩ := referred
    exact ⟨edgeRef, ⟨edge.poolId, isChanged, edge, resolves, rfl⟩, resolves⟩

theorem isLeastRate_iff (changed : (Nat × Nat) × Int) :
    IsLeastRate (detection.snapshot orders) (detection.changedEdges orders) changed ↔
      (∃ edge, (edge ∈ detection.builtEdges orders ∧ edge.poolId ∈ detection.changedPools) ∧
        (edge.fromIdx, edge.toIdx) = changed.1 ∧ edge.weightLogQ32 = changed.2) ∧
      ∀ edge, edge ∈ detection.builtEdges orders ∧ edge.poolId ∈ detection.changedPools →
        (edge.fromIdx, edge.toIdx) = changed.1 → changed.2 ≤ edge.weightLogQ32 := by
  simp only [← exists_changedEdge_iff orders]
  unfold IsLeastRate
  constructor
  · rintro ⟨⟨edgeRef, isChanged, edge, resolves, rest⟩, least⟩
    exact ⟨⟨edge, ⟨edgeRef, isChanged, resolves⟩, rest⟩,
      fun other ⟨otherRef, otherChanged, otherResolves⟩ =>
        least otherRef otherChanged other otherResolves⟩
  · rintro ⟨⟨edge, ⟨edgeRef, isChanged, resolves⟩, rest⟩, least⟩
    exact ⟨⟨edgeRef, isChanged, edge, resolves, rest⟩,
      fun otherRef otherChanged other otherResolves =>
        least other ⟨otherRef, otherChanged, otherResolves⟩⟩

/-- Every run lists the same changed pairs, with the same rates and in the same order. -/
theorem sameChangedPairs (first second : HashOrders detection) :
    (changedVirtualPairs (detection.context first) (detection.snapshot first)
        (detection.changedEdges first)).map (scored (detection.snapshot first)) =
      (changedVirtualPairs (detection.context second) (detection.snapshot second)
        (detection.changedEdges second)).map (scored (detection.snapshot second)) := by
  refine map_scored_changedVirtualPairs_eq fun changed => ?_
  rw [isLeastRate_iff, isLeastRate_iff]
  simp only [(builtEdges_perm first second).mem_iff]

theorem length_changedEdges (first second : HashOrders detection) :
    (detection.changedEdges first).length = (detection.changedEdges second).length := by
  have lengths : ∀ orders : HashOrders detection, ∀ poolId,
      (((detection.snapshot orders).poolToEdges.lookup poolId).getD []).length =
        ((detection.builtEdges orders).filter fun edge => edge.poolId = poolId).length :=
    fun orders poolId => GraphSnapshot.length_poolRefs_build poolId
  unfold changedEdges
  rw [List.length_flatMap, List.length_flatMap]
  refine congrArg List.sum (List.map_congr_left fun poolId _ => ?_)
  rw [lengths first, lengths second]
  exact ((builtEdges_perm first second).filter _).length_eq

end Detection

end DexArbitrage
