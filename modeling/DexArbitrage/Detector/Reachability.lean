/-
This file proves that the marks of the distance cache are exact: on a built
snapshot both searches end, and they mark the tokens on the walks from an anchor
and those on the walks to one. A token is marked because walks are followed to
their end, and only such tokens are, because every mark extends a walk by one
edge.

The detector skips a changed pair when the marks say that no cycle through an
anchor can use it. Since they are exact, no such pair lies on a cycle.
-/

import DexArbitrage.Detector.PathFinder
import DexArbitrage.Graph.BuildOrder

namespace DexArbitrage

namespace GraphSnapshot

/-! ### Walks over the edges of a snapshot -/

/-- A walk of any length over edges of the snapshot. -/
structure WalksOver (snapshot : GraphSnapshot) (start : Nat) (edges : List Edge) (finish : Nat) :
    Prop where
  resolve : ∀ edge ∈ edges, ∃ edgeRef, snapshot.edge edgeRef = some edge
  walk : IsWalk Edge.fromIdx Edge.toIdx start edges finish

def Reaches (snapshot : GraphSnapshot) (start finish : Nat) : Prop :=
  ∃ edges, snapshot.WalksOver start edges finish

/-- Some walk from an anchor back to itself takes the edge. -/
def OnAnchorCycle (snapshot : GraphSnapshot) (edge : Edge) : Prop :=
  ∃ anchor ∈ snapshot.cycleAnchorIndices, ∃ edges,
    snapshot.WalksOver anchor edges anchor ∧ edge ∈ edges

variable {snapshot : GraphSnapshot} {start middle finish : Nat} {edge : Edge}

theorem reaches_self (token : Nat) : snapshot.Reaches token token :=
  ⟨[], fun _ member => (nomatch member), isWalk_nil token⟩

theorem reaches_of_edge {edgeRef : EdgeRef} (resolves : snapshot.edge edgeRef = some edge) :
    snapshot.Reaches edge.fromIdx edge.toIdx := by
  refine ⟨[edge], fun other member => ?_, isWalk_singleton rfl rfl⟩
  rw [List.mem_singleton.mp member]
  exact ⟨edgeRef, resolves⟩

theorem Reaches.trans (first : snapshot.Reaches start middle)
    (second : snapshot.Reaches middle finish) : snapshot.Reaches start finish := by
  obtain ⟨edges, resolve, walk⟩ := first
  obtain ⟨others, resolveOthers, further⟩ := second
  refine ⟨edges ++ others, fun edge member => ?_, walk.append further⟩
  exact (List.mem_append.mp member).elim (resolve edge) (resolveOthers edge)

/-- An edge of a closed walk is reached from its anchor and leads back to it. -/
theorem OnAnchorCycle.reaches (onCycle : snapshot.OnAnchorCycle edge) :
    ∃ anchor ∈ snapshot.cycleAnchorIndices, snapshot.Reaches anchor edge.fromIdx ∧
      snapshot.Reaches edge.toIdx anchor := by
  obtain ⟨anchor, isAnchor, edges, ⟨resolve, walk⟩, member⟩ := onCycle
  obtain ⟨before, after, rfl⟩ := List.append_of_mem member
  obtain ⟨middle, walkBefore, leaves, walkAfter⟩ := walk.exists_middle
  refine ⟨anchor, isAnchor, ⟨before, fun other listed => ?_, leaves ▸ walkBefore⟩, after,
    fun other listed => ?_, walkAfter⟩
  · exact resolve other (List.mem_append_left _ listed)
  · exact resolve other (List.mem_append_right _ (List.mem_cons_of_mem _ listed))

end GraphSnapshot

/-! ### The marks are exact -/

/-- The marks are those of the tokens on a walk from an anchor, and on a walk to one. -/
structure DistanceCache.ExactFor (cache : DistanceCache) (snapshot : GraphSnapshot) : Prop where
  fromLength : cache.reachableFromAnchor.length = snapshot.tokens.length
  toLength : cache.reachableToAnchor.length = snapshot.tokens.length
  fromAnchor : ∀ token : Nat, cache.reachableFromAnchor[token]? = some true ↔
    ∃ anchor ∈ snapshot.cycleAnchorIndices, snapshot.Reaches anchor token
  toAnchor : ∀ token : Nat, cache.reachableToAnchor[token]? = some true ↔
    ∃ anchor ∈ snapshot.cycleAnchorIndices, snapshot.Reaches token anchor

namespace GraphSnapshot

section Build

variable {rates : FloatRates} {snapshotId : Nat} {blockRef : Option BlockRef}
  {tokens : List TokenInfo} {pools : HashMap Address PoolState}

theorem reaches_of_mem_successors {token successor : Nat} {next : List Nat}
    (isNext : (build rates snapshotId blockRef tokens pools).successors token = some next)
    (member : successor ∈ next) :
    (build rates snapshotId blockRef tokens pools).Reaches token successor := by
  obtain ⟨edge, isBuilt, rfl, rfl⟩ := (mem_successors_iff isNext).mp member
  obtain ⟨edgeRef, resolves⟩ := (exists_edge_build_iff edge).mpr isBuilt
  exact reaches_of_edge resolves

theorem reaches_of_mem_predecessors {token predecessor : Nat} {next : List Nat}
    (isNext : (build rates snapshotId blockRef tokens pools).predecessors token = some next)
    (member : predecessor ∈ next) :
    (build rates snapshotId blockRef tokens pools).Reaches predecessor token := by
  obtain ⟨edge, isBuilt, rfl, rfl⟩ := (mem_predecessors_iff isNext).mp member
  obtain ⟨edgeRef, resolves⟩ := (exists_edge_build_iff edge).mpr isBuilt
  exact reaches_of_edge resolves

/-- Nothing is marked but what a walk from an anchor reaches. -/
theorem reaches_of_isMarked_from {marked : List Bool}
    (marks : markReachable (build rates snapshotId blockRef tokens pools).successors tokens.length
      (build rates snapshotId blockRef tokens pools).cycleAnchorIndices = some marked) :
    ∀ token : Nat, marked[token]? = some true →
      ∃ anchor ∈ (build rates snapshotId blockRef tokens pools).cycleAnchorIndices,
        (build rates snapshotId blockRef tokens pools).Reaches anchor token := by
  refine holds_of_markReachable (fun anchor isAnchor => ?_) (fun vertex next reached isNext => ?_)
    marks
  · exact ⟨anchor, isAnchor, reaches_self anchor⟩
  · obtain ⟨anchor, isAnchor, reaches⟩ := reached
    exact fun successor member =>
      ⟨anchor, isAnchor, reaches.trans (reaches_of_mem_successors isNext member)⟩

/-- Nothing is marked but that from which a walk leads to an anchor. -/
theorem reaches_of_isMarked_to {marked : List Bool}
    (marks : markReachable (build rates snapshotId blockRef tokens pools).predecessors
      tokens.length (build rates snapshotId blockRef tokens pools).cycleAnchorIndices =
        some marked) :
    ∀ token : Nat, marked[token]? = some true →
      ∃ anchor ∈ (build rates snapshotId blockRef tokens pools).cycleAnchorIndices,
        (build rates snapshotId blockRef tokens pools).Reaches token anchor := by
  refine holds_of_markReachable (fun anchor isAnchor => ?_) (fun vertex next reached isNext => ?_)
    marks
  · exact ⟨anchor, isAnchor, reaches_self anchor⟩
  · obtain ⟨anchor, isAnchor, reaches⟩ := reached
    exact fun predecessor member =>
      ⟨anchor, isAnchor, (reaches_of_mem_predecessors isNext member).trans reaches⟩

/-- On a built snapshot the searches end with exact marks. -/
theorem exists_exactFor_recompute :
    ∃ cache, DistanceCache.recompute (build rates snapshotId blockRef tokens pools) =
      some cache ∧ cache.ExactFor (build rates snapshotId blockRef tokens pools) := by
  obtain ⟨cache, recomputed, fromMarks, toMarks⟩ :=
    @exists_recompute rates snapshotId blockRef tokens pools
  obtain ⟨fromAnchor, fromEnds, rest⟩ := Option.bind_eq_some_iff.mp recomputed
  obtain ⟨toAnchor, toEnds, same⟩ := Option.bind_eq_some_iff.mp rest
  injection same with same
  refine ⟨cache, recomputed, fromMarks.length, toMarks.length,
    fun token => ⟨fun isMarked => ?_, ?_⟩, fun token => ⟨fun isMarked => ?_, ?_⟩⟩
  · rw [← same] at isMarked
    exact reaches_of_isMarked_from fromEnds token isMarked
  · rintro ⟨anchor, isAnchor, edges, resolve, walk⟩
    exact fromMarks.of_walk walk resolve (fromMarks.anchors anchor isAnchor)
  · rw [← same] at isMarked
    exact reaches_of_isMarked_to toEnds token isMarked
  · rintro ⟨anchor, isAnchor, edges, resolve, walk⟩
    exact toMarks.of_walk_back walk resolve (toMarks.anchors anchor isAnchor)

end Build

end GraphSnapshot

/-! ### What the detector skips -/

section Prune

variable (finder : PathFinder) (context : SearchContext) (snapshot : GraphSnapshot)
  (changedEdges : List EdgeRef)

/-- The search for the cycles over a changed pair. -/
def searchPair (progress : SearchProgress) (changed : (Nat × Nat) × EdgeRef) :
    Except SearchEnd SearchProgress :=
  let changedCandidateEdges := candidatePairEdges finder context snapshot
    (minTradeRawByToken snapshot finder.minTradeUsdE8) changed.1.1 changed.1.2
  if changedCandidateEdges.isEmpty then
    .ok progress
  else
    snapshot.cycleAnchorIndices.foldlM
      (visitAnchor finder context snapshot changedEdges changed.1.1 changed.1.2 changed.2
        changedCandidateEdges) progress

/-- Exact marks skip no pair of an edge on a cycle through an anchor. -/
theorem visitPair_of_onAnchorCycle {cache : DistanceCache} (exact : cache.ExactFor snapshot)
    {edge : Edge} (onCycle : snapshot.OnAnchorCycle edge) (progress : SearchProgress)
    (changedRef : EdgeRef) :
    visitPair finder context snapshot changedEdges cache progress
        ((edge.fromIdx, edge.toIdx), changedRef) =
      searchPair finder context snapshot changedEdges progress
        ((edge.fromIdx, edge.toIdx), changedRef) := by
  obtain ⟨anchor, isAnchor, toEdge, fromEdge⟩ := onCycle.reaches
  have markedFrom := (exact.fromAnchor edge.fromIdx).mpr ⟨anchor, isAnchor, toEdge⟩
  have markedTo := (exact.toAnchor edge.toIdx).mpr ⟨anchor, isAnchor, fromEdge⟩
  unfold visitPair
  rw [markedFrom]
  dsimp only
  rw [markedTo]
  rfl

end Prune

/-- The searches of the distance cache end with exact marks on every built snapshot, and the
detector searches the pair of every edge on a cycle through an anchor. -/
theorem anchorReachability (rates : FloatRates) (snapshotId : Nat) (blockRef : Option BlockRef)
    (tokens : List TokenInfo) (pools : HashMap Address PoolState) :
    ∃ cache, DistanceCache.recompute (GraphSnapshot.build rates snapshotId blockRef tokens pools) =
        some cache ∧
      cache.ExactFor (GraphSnapshot.build rates snapshotId blockRef tokens pools) ∧
      ∀ finder context changedEdges progress edge changedRef,
        (GraphSnapshot.build rates snapshotId blockRef tokens pools).OnAnchorCycle edge →
        visitPair finder context
            (GraphSnapshot.build rates snapshotId blockRef tokens pools) changedEdges cache
            progress ((edge.fromIdx, edge.toIdx), changedRef) =
          searchPair finder context
            (GraphSnapshot.build rates snapshotId blockRef tokens pools) changedEdges progress
            ((edge.fromIdx, edge.toIdx), changedRef) := by
  obtain ⟨cache, recomputed, exact⟩ := GraphSnapshot.exists_exactFor_recompute
  exact ⟨cache, recomputed, exact, fun finder context changedEdges progress _ changedRef onCycle =>
    visitPair_of_onAnchorCycle finder context _ changedEdges exact onCycle progress changedRef⟩

end DexArbitrage
