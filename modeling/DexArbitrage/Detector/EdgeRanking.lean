/-
This file compares the lists of edges that two runs of the search work with. An
edge reference is a place in a row, which depends on the order in which the rows
were filled; the comparisons of the search, however, only look at the edges, so
a list of references is ranked as the list of the edges they resolve to.

Where the ranked edges were visited in the order of a hash map, only edges that
tie can come in an order of the map's own.
-/

import DexArbitrage.Lib.SideBySide
import DexArbitrage.Lib.StableSort
import DexArbitrage.Detector.EdgeLists
import DexArbitrage.Graph.BuildOrder

namespace DexArbitrage

open Std

/-! ### The comparisons of edges -/

/-- How the search ranks edges: by rate, then the larger capacity first, then the higher confidence,
then by pool. -/
def compareEdges (left right : Edge) : Ordering :=
  (compare left.weightLogQ32 right.weightLogQ32).then <|
    (compare right.liquidity.safeCapacityIn left.liquidity.safeCapacityIn).then <|
      (compare right.poolHealth.confidenceBps left.poolHealth.confidenceBps).then <|
        compare left.poolId.toNat right.poolId.toNat

/-- How the edges that leave a token are ranked. -/
def compareRanked (left right : Edge) : Ordering :=
  (compare right.poolHealth.confidenceBps left.poolHealth.confidenceBps).then <|
    (compare right.liquidity.safeCapacityIn left.liquidity.safeCapacityIn).then <|
      compare left.weightLogQ32 right.weightLogQ32

theorem compareEdges_eq :
    compareEdges =
      compareLex (compareOn Edge.weightLogQ32)
        (compareLex (fun left right => compareOn (fun edge : Edge => edge.liquidity.safeCapacityIn)
            right left)
          (compareLex
            (fun left right =>
              compareOn (fun edge : Edge => edge.poolHealth.confidenceBps) right left)
            (compareOn fun edge : Edge => edge.poolId.toNat))) := rfl

instance : TransCmp compareEdges := by
  rw [compareEdges_eq]
  infer_instance

theorem poolId_eq_of_compareEdges_eq {left right : Edge}
    (tied : compareEdges left right = .eq) : left.poolId.toNat = right.poolId.toNat := by
  unfold compareEdges at tied
  simp only [Ordering.then_eq_eq] at tied
  exact Std.LawfulEqCmp.eq_of_compare tied.2.2.2

/-- Edges that tie in the one comparison tie in the other one. -/
theorem compareRanked_eq_of_compareEdges_eq {left right : Edge}
    (tied : compareEdges left right = .eq) : compareRanked left right = .eq := by
  unfold compareEdges at tied
  simp only [Ordering.then_eq_eq] at tied
  obtain ⟨weights, capacities, confidences, _⟩ := tied
  unfold compareRanked
  simp [weights, capacities, confidences]

/-! ### References and the edges they resolve to -/

/-- The references resolve, in order, to the edges. -/
def GraphSnapshot.Resolves (snapshot : GraphSnapshot) (edgeRefs : List EdgeRef)
    (edges : List Edge) : Prop :=
  List.Forall₂ (fun edgeRef edge => snapshot.edge edgeRef = some edge) edgeRefs edges

section Resolves

variable {snapshot : GraphSnapshot} {edgeRefs : List EdgeRef} {edges : List Edge}

theorem compareEdgeRefs_of_resolves {left right : EdgeRef} {leftEdge rightEdge : Edge}
    (leftResolves : snapshot.edge left = some leftEdge)
    (rightResolves : snapshot.edge right = some rightEdge) :
    PathFinder.compareEdgeRefs snapshot left right = compareEdges leftEdge rightEdge := by
  unfold PathFinder.compareEdgeRefs
  rw [leftResolves, rightResolves]
  rfl

theorem resolves_of_map (same : edgeRefs.map snapshot.edge = edges.map some) :
    snapshot.Resolves edgeRefs edges :=
  forall₂_of_map_eq_some same

theorem GraphSnapshot.Resolves.sorted (resolves : snapshot.Resolves edgeRefs edges) :
    snapshot.Resolves (sortBy (PathFinder.compareEdgeRefs snapshot) edgeRefs)
      (sortBy compareEdges edges) := by
  refine forall₂_sortBy (fun left left' right right' leftResolves rightResolves => ?_) resolves
  exact compareEdgeRefs_of_resolves leftResolves rightResolves

theorem GraphSnapshot.Resolves.best (resolves : snapshot.Resolves edgeRefs edges)
    (count : Nat) :
    snapshot.Resolves (keepBest (PathFinder.compareEdgeRefs snapshot) count edgeRefs)
      (keepBest compareEdges count edges) := by
  refine forall₂_keepBest (fun left left' right right' leftResolves rightResolves => ?_) count
    resolves
  exact compareEdgeRefs_of_resolves leftResolves rightResolves

theorem GraphSnapshot.Resolves.filterMap_edge (resolves : snapshot.Resolves edgeRefs edges) :
    edgeRefs.filterMap snapshot.edge = edges := by
  induction resolves with
  | nil => rfl
  | cons head _ inductionHypothesis => rw [List.filterMap_cons_some head, inductionHypothesis]

theorem resolves_filterMap_edge
    (all : ∀ edgeRef ∈ edgeRefs, ∃ edge, snapshot.edge edgeRef = some edge) :
    snapshot.Resolves edgeRefs (edgeRefs.filterMap snapshot.edge) := by
  induction edgeRefs with
  | nil => exact .nil
  | cons edgeRef rest inductionHypothesis =>
    rw [List.forall_mem_cons] at all
    obtain ⟨edge, found⟩ := all.1
    rw [List.filterMap_cons_some found]
    exact .cons found (inductionHypothesis all.2)

/-- What has been filed under the pair of an edge, and the edges of this pair. -/
theorem resolves_pairRefs {rates : FloatRates} {snapshotId : Nat} {blockRef : Option BlockRef}
    {tokens : List TokenInfo} {pools : HashMap Address PoolState} (pair : Nat × Nat) :
    (GraphSnapshot.build rates snapshotId blockRef tokens pools).Resolves
      ((GraphSnapshot.build rates snapshotId blockRef tokens pools).pairRefs pair)
      (edgesBetween pair (GraphSnapshot.builtEdges rates tokens pools)) := by
  have filled : (GraphSnapshot.build rates snapshotId blockRef tokens pools).tables.Holds
      tokens.length (GraphSnapshot.builtEdges rates tokens pools) := GraphSnapshot.holds_build
  exact resolves_of_map (filled.resolves pair)

/-- The edges that leave a token, as they are ranked. -/
theorem resolves_rankedOutgoing (snapshot : GraphSnapshot) (vertex : Nat) :
    snapshot.Resolves (rankedOutgoing snapshot vertex)
      (sortBy compareRanked (snapshot.adjacency[vertex]?.getD [])) := by
  unfold GraphSnapshot.Resolves rankedOutgoing
  rw [List.forall₂_map_left_iff]
  have places : List.Forall₂
      (fun (place : Edge × Nat) edge => place.1 = edge ∧
        snapshot.edge { fromIdx := vertex, edgeIdx := place.2 } = some edge)
      (snapshot.adjacency[vertex]?.getD []).zipIdx (snapshot.adjacency[vertex]?.getD []) := by
    conv => rhs; rw [← List.zipIdx_map_fst 0 (snapshot.adjacency[vertex]?.getD [])]
    rw [List.forall₂_map_right_iff, List.forall₂_same]
    rintro ⟨edge, position⟩ member
    refine ⟨rfl, ?_⟩
    rw [List.mem_zipIdx_iff_getElem?] at member
    unfold GraphSnapshot.edge
    dsimp only at member ⊢
    cases row : snapshot.adjacency[vertex]? with
    | none =>
      rw [row] at member
      cases member
    | some edges =>
      rw [row] at member
      exact member
  refine (forall₂_sortBy (fun left left' right right' leftAlike rightAlike => ?_) places).imp
    fun _ _ alike => alike.2
  rw [← leftAlike.1, ← rightAlike.1]
  rfl

end Resolves

end DexArbitrage
