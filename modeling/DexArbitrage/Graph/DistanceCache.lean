/-
This file models `src/graph/distance_cache.rs`: which tokens can be reached from
an anchor of the cycles, along the edges of the snapshot, and which can reach
one, along the table of the incoming edges.

Filling the edge tables files every edge under the token it leads to, so on a
built snapshot both searches come to their end and mark every token on every
walk that starts, respectively ends, at an anchor.
-/

import DexArbitrage.Lib.Marking
import DexArbitrage.Lib.Walk
import DexArbitrage.Graph.Indexes

namespace DexArbitrage

deriving instance DecidableEq for DistanceCache

/-- The tokens that the edges of a token lead to. -/
def GraphSnapshot.successors (snapshot : GraphSnapshot) (node : Nat) : Option (List Nat) :=
  (snapshot.adjacency[node]?).map fun edges => edges.map Edge.toIdx

/-- The tokens that the edges to a token come from. -/
def GraphSnapshot.predecessors (snapshot : GraphSnapshot) (node : Nat) : Option (List Nat) :=
  (snapshot.reverseAdj[node]?).map fun edgeRefs => edgeRefs.map EdgeRef.fromIdx

/-- The answer is `none` when an index is out of range, which panics. -/
def DistanceCache.recompute (snapshot : GraphSnapshot) : Option DistanceCache := do
  let reachableFromAnchor ←
    markReachable snapshot.successors snapshot.tokens.length snapshot.cycleAnchorIndices
  let reachableToAnchor ←
    markReachable snapshot.predecessors snapshot.tokens.length snapshot.cycleAnchorIndices
  return { snapshotId := snapshot.snapshotId, reachableFromAnchor, reachableToAnchor }

/-! ### The table of the incoming edges -/

namespace EdgeTables

/-- Every edge is filed under the token it leads to, and what is filed there is an edge. -/
structure ReverseFiled (tables : EdgeTables) (tokenCount : Nat) : Prop where
  rows : tables.adjacency.length = tokenCount
  reverseRows : tables.reverseAdj.length = tokenCount
  filed : ∀ edgeRef edge, tables.edge edgeRef = some edge →
    ∃ row, tables.reverseAdj[edge.toIdx]? = some row ∧ edgeRef ∈ row
  resolves : ∀ position row, tables.reverseAdj[position]? = some row → ∀ edgeRef ∈ row,
    ∃ edge, tables.edge edgeRef = some edge ∧ edge.toIdx = position

/-- The tables agree when every edge is in its own row, and so they do row by row. -/
theorem Agree.reverseFiled {tables : EdgeTables} {tokenCount : Nat}
    (agree : tables.Agree tokenCount) : tables.ReverseFiled tokenCount where
  rows := agree.rows
  reverseRows := agree.reverseRows
  filed := by
    intro edgeRef edge resolves
    have listed := (agree.byTarget.mem_iff edge.toIdx edgeRef).mpr ⟨edge, resolves, rfl⟩
    have inRange : edge.toIdx < tables.reverseAdj.length :=
      agree.reverseRows ▸ (agree.inRange edgeRef edge resolves).2
    unfold reverseRefs at listed
    rw [List.getElem?_eq_getElem inRange] at listed
    exact ⟨_, List.getElem?_eq_getElem inRange, listed⟩
  resolves := by
    intro position row atPosition edgeRef member
    refine (agree.byTarget.mem_iff position edgeRef).mp ?_
    unfold reverseRefs
    rw [atPosition]
    exact member

end EdgeTables

/-! ### The marks of a built snapshot -/

namespace GraphSnapshot

section Build

variable {rates : FloatRates} {snapshotId : Nat} {blockRef : Option BlockRef}
  {tokens : List TokenInfo} {pools : HashMap Address PoolState}

theorem reverseFiled_build :
    (build rates snapshotId blockRef tokens pools).tables.ReverseFiled tokens.length :=
  (agree_build rates snapshotId blockRef tokens pools).reverseFiled

theorem lt_of_mem_tokenPositions {test : TokenInfo → Bool} {position : Nat}
    (member : position ∈ tokenPositions test tokens) : position < tokens.length := by
  obtain ⟨⟨token, idx⟩, listed, kept⟩ := List.mem_filterMap.mp member
  rw [List.mem_zipIdx_iff_getElem?] at listed
  dsimp only at kept
  split at kept
  · injection kept with same
    exact same ▸ (List.getElem?_eq_some_iff.mp listed).1
  · cases kept

theorem inRange_of_edge {edgeRef : EdgeRef} {edge : Edge}
    (resolves : (build rates snapshotId blockRef tokens pools).edge edgeRef = some edge) :
    edge.fromIdx < tokens.length ∧ edge.toIdx < tokens.length :=
  (agree_build rates snapshotId blockRef tokens pools).inRange edgeRef edge resolves

theorem defined_successors :
    Marking.Defined (build rates snapshotId blockRef tokens pools).successors tokens.length := by
  intro node inRange
  have reverse : (build rates snapshotId blockRef tokens pools).tables.ReverseFiled
      tokens.length := reverseFiled_build
  have rows : (build rates snapshotId blockRef tokens pools).adjacency.length = tokens.length :=
    reverse.rows
  obtain ⟨row, inTables⟩ : ∃ row,
      (build rates snapshotId blockRef tokens pools).adjacency[node]? = some row :=
    ⟨_, List.getElem?_eq_getElem (rows ▸ inRange)⟩
  unfold successors
  rw [inTables]
  refine ⟨_, rfl, fun successor member => ?_⟩
  obtain ⟨edge, listed, same⟩ := List.mem_map.mp member
  obtain ⟨position, atPosition⟩ := List.mem_iff_getElem?.mp listed
  have resolves : (build rates snapshotId blockRef tokens pools).edge
      { fromIdx := node, edgeIdx := position } = some edge :=
    Option.bind_eq_some_iff.mpr ⟨row, inTables, atPosition⟩
  exact same ▸ (inRange_of_edge resolves).2

theorem defined_predecessors :
    Marking.Defined (build rates snapshotId blockRef tokens pools).predecessors
      tokens.length := by
  intro node inRange
  have reverse : (build rates snapshotId blockRef tokens pools).tables.ReverseFiled
      tokens.length := reverseFiled_build
  have rows : (build rates snapshotId blockRef tokens pools).reverseAdj.length = tokens.length :=
    reverse.reverseRows
  obtain ⟨row, inTables⟩ : ∃ row,
      (build rates snapshotId blockRef tokens pools).reverseAdj[node]? = some row :=
    ⟨_, List.getElem?_eq_getElem (rows ▸ inRange)⟩
  unfold predecessors
  rw [inTables]
  refine ⟨_, rfl, fun predecessor member => ?_⟩
  obtain ⟨edgeRef, listed, same⟩ := List.mem_map.mp member
  obtain ⟨edge, inReverse, _⟩ := reverse.resolves node row inTables edgeRef listed
  have resolves : (build rates snapshotId blockRef tokens pools).edge edgeRef = some edge :=
    inReverse
  rw [← same, ← wellIndexed_build.rowsOwned edgeRef edge resolves]
  exact (inRange_of_edge resolves).1

/-- Marks that hold the anchors and are closed along the edges, in one direction. -/
structure AnchorMarks (snapshot : GraphSnapshot) (source target : Edge → Nat)
    (marked : List Bool) : Prop where
  length : marked.length = snapshot.tokens.length
  anchors : ∀ anchor ∈ snapshot.cycleAnchorIndices, marked[anchor]? = some true
  closed : ∀ edgeRef edge, snapshot.edge edgeRef = some edge → marked[source edge]? = some true →
    marked[target edge]? = some true

/-- On a built snapshot the searches come to their end, one of them along the edges and the other
one against them. -/
theorem exists_recompute :
    ∃ cache, DistanceCache.recompute (build rates snapshotId blockRef tokens pools) = some cache ∧
      AnchorMarks (build rates snapshotId blockRef tokens pools) Edge.fromIdx Edge.toIdx
        cache.reachableFromAnchor ∧
      AnchorMarks (build rates snapshotId blockRef tokens pools) Edge.toIdx Edge.fromIdx
        cache.reachableToAnchor := by
  have anchorsInRange : ∀ anchor ∈
      (build rates snapshotId blockRef tokens pools).cycleAnchorIndices, anchor < tokens.length :=
    fun anchor member => lt_of_mem_tokenPositions member
  obtain ⟨fromAnchor, fromEnds, fromLength, fromAnchors, fromClosed⟩ :=
    exists_markReachable defined_successors anchorsInRange
  obtain ⟨toAnchor, toEnds, toLength, toAnchors, toClosed⟩ :=
    exists_markReachable defined_predecessors anchorsInRange
  refine ⟨{ snapshotId := snapshotId, reachableFromAnchor := fromAnchor
            reachableToAnchor := toAnchor }, ?_, ⟨fromLength, fromAnchors, ?_⟩,
    toLength, toAnchors, ?_⟩
  · exact Option.bind_eq_some_iff.mpr ⟨fromAnchor, fromEnds,
      Option.bind_eq_some_iff.mpr ⟨toAnchor, toEnds, rfl⟩⟩
  · intro edgeRef edge resolves isMarked
    obtain ⟨row, inTables, entry⟩ := Option.bind_eq_some_iff.mp resolves
    refine fromClosed edge.fromIdx (row.map Edge.toIdx) isMarked ?_ edge.toIdx
      (List.mem_map_of_mem (List.mem_of_getElem? entry))
    unfold successors
    rw [wellIndexed_build.rowsOwned edgeRef edge resolves, inTables, Option.map_some]
  · intro edgeRef edge resolves isMarked
    have reverse : (build rates snapshotId blockRef tokens pools).tables.ReverseFiled
        tokens.length := reverseFiled_build
    obtain ⟨row, inTables, member⟩ := reverse.filed edgeRef edge resolves
    have found : (build rates snapshotId blockRef tokens pools).reverseAdj[edge.toIdx]? =
        some row := inTables
    refine toClosed edge.toIdx (row.map EdgeRef.fromIdx) isMarked ?_ edge.fromIdx ?_
    · unfold predecessors
      rw [found, Option.map_some]
    · rw [wellIndexed_build.rowsOwned edgeRef edge resolves]
      exact List.mem_map_of_mem member

end Build

/-- The marks along a walk: when its first token is marked, so is its last one. -/
theorem AnchorMarks.of_walk {snapshot : GraphSnapshot} {marked : List Bool}
    (marks : snapshot.AnchorMarks Edge.fromIdx Edge.toIdx marked) {start finish : Nat}
    {edges : List Edge} (walk : IsWalk Edge.fromIdx Edge.toIdx start edges finish)
    (resolve : ∀ edge ∈ edges, ∃ edgeRef, snapshot.edge edgeRef = some edge)
    (isMarked : marked[start]? = some true) : marked[finish]? = some true := by
  induction edges generalizing start with
  | nil =>
    cases walk
    exact isMarked
  | cons edge rest inductionHypothesis =>
    obtain ⟨edgeRef, resolves⟩ := resolve edge List.mem_cons_self
    refine inductionHypothesis walk.2
      (fun other member => resolve other (List.mem_cons_of_mem _ member))
      (marks.closed edgeRef edge resolves ?_)
    rw [walk.1]
    exact isMarked

/-- When the last token of a walk is marked by the search against the edges, so is its first
one. -/
theorem AnchorMarks.of_walk_back {snapshot : GraphSnapshot} {marked : List Bool}
    (marks : snapshot.AnchorMarks Edge.toIdx Edge.fromIdx marked) {start finish : Nat}
    {edges : List Edge} (walk : IsWalk Edge.fromIdx Edge.toIdx start edges finish)
    (resolve : ∀ edge ∈ edges, ∃ edgeRef, snapshot.edge edgeRef = some edge)
    (isMarked : marked[finish]? = some true) : marked[start]? = some true := by
  induction edges generalizing start with
  | nil =>
    cases walk
    exact isMarked
  | cons edge rest inductionHypothesis =>
    obtain ⟨edgeRef, resolves⟩ := resolve edge List.mem_cons_self
    rw [← walk.1]
    exact marks.closed edgeRef edge resolves
      (inductionHypothesis walk.2 fun other member => resolve other (List.mem_cons_of_mem _ member))

end GraphSnapshot

end DexArbitrage
