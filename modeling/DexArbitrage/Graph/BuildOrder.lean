/-
This file says what a built snapshot owes to the order in which the map of the
pools was visited. The tables are filled edge by edge, pool after pool, so
another order rearranges the rows and the lists of the pools, and nothing else:
the edges are the same, every list keeps its length, and what the searches from
and to the anchors mark stays as it is. Edges of one pool stay in their order,
so that a selection of edges that all belong to one pool comes out the same.
-/

import DexArbitrage.Lib.StableSort
import DexArbitrage.Graph.DistanceCache

namespace DexArbitrage

namespace EdgeTables

/-- Add an edge to the list of its own pool. -/
def addOwn (tables : EdgeTables) (edge : Edge) : EdgeTables :=
  tables.addEdge edge.poolId edge

def empty (tokenCount : Nat) : EdgeTables where
  adjacency := List.replicate tokenCount []
  reverseAdj := List.replicate tokenCount []
  poolToEdges := ∅
  pairToEdges := ∅

/-- The edges that leave a token. -/
def row (tables : EdgeTables) (position : Nat) : List Edge :=
  (tables.adjacency[position]?).getD []

/-- Adding pool after pool is adding the edges of all of them. -/
theorem foldl_addPool_eq (rates : FloatRates) (tokenToIndex : HashMap Address Nat)
    (pools : List PoolState) (tables : EdgeTables) :
    pools.foldl (EdgeTables.addPool rates tokenToIndex) tables =
      (pools.flatMap fun pool => buildEdgesForPool rates pool tokenToIndex).foldl addOwn
        tables := by
  induction pools generalizing tables with
  | nil => rfl
  | cons pool rest inductionHypothesis =>
    rw [List.foldl_cons, inductionHypothesis, List.flatMap_cons, List.foldl_append]
    refine congrArg (List.foldl addOwn · _) ?_
    refine List.foldl_ext _ _ _ fun tables edge member => ?_
    show tables.addEdge pool.poolId edge = tables.addEdge edge.poolId edge
    rw [GraphSnapshot.poolId_of_mem_buildEdgesForPool member]

theorem row_addOwn {tables : EdgeTables} {added : Edge}
    (inRange : added.fromIdx < tables.adjacency.length) (position : Nat) :
    (tables.addOwn added).row position =
      tables.row position ++ [added].filter fun edge => edge.fromIdx = position := by
  unfold row addOwn
  rw [row_addEdge]
  by_cases own : added.fromIdx = position
  · rw [← own, List.getElem?_eq_getElem inRange]
    simp
  · cases tables.adjacency[position]? <;> simp [own]

/-- A row holds the added edges that leave its token, in the order in which they were added. -/
theorem row_foldl_addOwn {edges : List Edge} {tables : EdgeTables}
    (inRange : ∀ edge ∈ edges, edge.fromIdx < tables.adjacency.length) (position : Nat) :
    (edges.foldl addOwn tables).row position =
      tables.row position ++ edges.filter fun edge => edge.fromIdx = position := by
  induction edges generalizing tables with
  | nil => exact (List.append_nil _).symm
  | cons edge rest inductionHypothesis =>
    have sameLength : (tables.addOwn edge).adjacency.length = tables.adjacency.length :=
      List.length_modify _ _ _
    have restInRange : ∀ other ∈ rest, other.fromIdx < (tables.addOwn edge).adjacency.length :=
      fun other member => sameLength ▸ inRange other (List.mem_cons_of_mem _ member)
    rw [List.foldl_cons, inductionHypothesis restInRange,
      row_addOwn (inRange edge List.mem_cons_self), List.append_assoc, ← List.filter_append]
    rfl

theorem length_poolRefs_foldl_addOwn (edges : List Edge) (tables : EdgeTables)
    (poolId : Address) :
    ((edges.foldl addOwn tables).poolRefs poolId).length =
      (tables.poolRefs poolId).length + (edges.filter fun edge => edge.poolId = poolId).length := by
  induction edges generalizing tables with
  | nil => rfl
  | cons edge rest inductionHypothesis =>
    rw [List.foldl_cons, inductionHypothesis]
    unfold addOwn
    rw [poolRefs_addEdge]
    by_cases own : edge.poolId = poolId
    · simp [own]
      omega
    · simp [own]

end EdgeTables

namespace GraphSnapshot

section Build

variable {rates : FloatRates} {snapshotId : Nat} {blockRef : Option BlockRef}
  {tokens : List TokenInfo} {pools reordered : HashMap Address PoolState}

theorem tables_build : (build rates snapshotId blockRef tokens pools).tables =
    (builtEdges rates tokens pools).foldl EdgeTables.addOwn (.empty tokens.length) :=
  EdgeTables.foldl_addPool_eq rates _ pools.values _

theorem inRange_of_mem_builtEdges {edge : Edge} (member : edge ∈ builtEdges rates tokens pools) :
    edge.fromIdx < tokens.length ∧ edge.toIdx < tokens.length := by
  have isBuilt : ∃ edgeRef, (build rates 0 none tokens pools).edge edgeRef = some edge :=
    (exists_edge_build_iff edge).mpr member
  obtain ⟨edgeRef, resolves⟩ := isBuilt
  exact inRange_of_edge resolves

/-- The row of a token, as it was filled. -/
theorem row_build (position : Nat) :
    ((build rates snapshotId blockRef tokens pools).adjacency[position]?).getD [] =
      (builtEdges rates tokens pools).filter fun edge => edge.fromIdx = position := by
  show (build rates snapshotId blockRef tokens pools).tables.row position = _
  have inRange : ∀ edge ∈ builtEdges rates tokens pools,
      edge.fromIdx < (EdgeTables.empty tokens.length).adjacency.length := by
    intro edge member
    rw [EdgeTables.empty, List.length_replicate]
    exact (inRange_of_mem_builtEdges member).1
  have start : (EdgeTables.empty tokens.length).row position = [] := by
    show ((List.replicate tokens.length ([] : List Edge))[position]?).getD [] = []
    rw [List.getElem?_replicate]
    split <;> rfl
  rw [tables_build, EdgeTables.row_foldl_addOwn inRange, start, List.nil_append]

theorem length_poolRefs_build (poolId : Address) :
    ((build rates snapshotId blockRef tokens pools).poolRefs poolId).length =
      ((builtEdges rates tokens pools).filter fun edge => edge.poolId = poolId).length := by
  show ((build rates snapshotId blockRef tokens pools).tables.poolRefs poolId).length = _
  rw [tables_build, EdgeTables.length_poolRefs_foldl_addOwn]
  exact Nat.zero_add _

/-! ### Another order of the pools -/

theorem perm_builtEdges (samePools : pools.entries.Perm reordered.entries) :
    (builtEdges rates tokens pools).Perm (builtEdges rates tokens reordered) := by
  have sameValues : pools.values.Perm reordered.values :=
    samePools.map (Sigma.snd : (Sigma fun _ : Address => PoolState) → PoolState)
  exact sameValues.flatMap_right _

/-- Two edges of the graph that satisfy a test belong to one entry of the map of the pools. -/
def FromOnePool (rates : FloatRates) (tokens : List TokenInfo) (pools : HashMap Address PoolState)
    (test : Edge → Bool) : Prop :=
  ∀ leftId left rightId right, pools.lookup leftId = some left → pools.lookup rightId = some right →
    (∃ edge ∈ buildEdgesForPool rates left
      (HashMap.ofList (tokens.zipIdx.map fun (token, idx) => (token.address, idx))),
      test edge = true) →
    (∃ edge ∈ buildEdgesForPool rates right
      (HashMap.ofList (tokens.zipIdx.map fun (token, idx) => (token.address, idx))),
      test edge = true) → leftId = rightId

/-- The edges of one pool come in the order in which the pool lists them. -/
theorem filter_builtEdges_eq (samePools : pools.entries.Perm reordered.entries)
    {test : Edge → Bool} (onePool : FromOnePool rates tokens pools test) :
    (builtEdges rates tokens pools).filter test =
      (builtEdges rates tokens reordered).filter test := by
  unfold builtEdges HashMap.values
  rw [List.flatMap_map, List.flatMap_map, List.filter_flatMap, List.filter_flatMap]
  refine flatMap_eq_of_perm samePools fun left inLeft right inRight leftPart rightPart => ?_
  have leftFound := (HashMap.lookup_eq_some_iff pools left.1 left.2).mpr inLeft
  have rightFound := (HashMap.lookup_eq_some_iff pools right.1 right.2).mpr inRight
  obtain ⟨edge, leftEdge⟩ := List.exists_mem_of_ne_nil _ leftPart
  obtain ⟨other, rightEdge⟩ := List.exists_mem_of_ne_nil _ rightPart
  have sameKey : left.1 = right.1 := onePool left.1 left.2 right.1 right.2 leftFound rightFound
    ⟨edge, List.mem_filter.mp leftEdge⟩ ⟨other, List.mem_filter.mp rightEdge⟩
  rw [sameKey, rightFound] at leftFound
  injection leftFound with sameValue
  exact Sigma.ext sameKey (heq_of_eq sameValue.symm)

theorem mem_successors_iff {vertex successor : Nat} {next : List Nat}
    (isNext : (build rates snapshotId blockRef tokens pools).successors vertex = some next) :
    successor ∈ next ↔ ∃ edge ∈ builtEdges rates tokens pools,
      edge.fromIdx = vertex ∧ edge.toIdx = successor := by
  obtain ⟨row, atVertex, same⟩ := Option.map_eq_some_iff.mp isNext
  have filled : ((build rates snapshotId blockRef tokens pools).adjacency[vertex]?).getD [] =
      (builtEdges rates tokens pools).filter fun edge => edge.fromIdx = vertex := row_build vertex
  rw [atVertex, Option.getD_some] at filled
  rw [← same, filled, List.mem_map]
  constructor
  · rintro ⟨edge, listed, arrives⟩
    obtain ⟨isBuilt, leaves⟩ := List.mem_filter.mp listed
    exact ⟨edge, isBuilt, of_decide_eq_true leaves, arrives⟩
  · rintro ⟨edge, isBuilt, leaves, arrives⟩
    exact ⟨edge, List.mem_filter.mpr ⟨isBuilt, decide_eq_true leaves⟩, arrives⟩

theorem mem_predecessors_iff {vertex predecessor : Nat} {next : List Nat}
    (isNext : (build rates snapshotId blockRef tokens pools).predecessors vertex = some next) :
    predecessor ∈ next ↔ ∃ edge ∈ builtEdges rates tokens pools,
      edge.toIdx = vertex ∧ edge.fromIdx = predecessor := by
  obtain ⟨edgeRefs, atVertex, same⟩ := Option.map_eq_some_iff.mp isNext
  have agree := agree_build rates snapshotId blockRef tokens pools
  have filed : ∀ edgeRef, edgeRef ∈ edgeRefs ↔
      ∃ edge, (build rates snapshotId blockRef tokens pools).edge edgeRef = some edge ∧
        edge.toIdx = vertex := by
    intro edgeRef
    have atRow : (build rates snapshotId blockRef tokens pools).tables.reverseRefs vertex =
        edgeRefs := by
      show ((build rates snapshotId blockRef tokens pools).reverseAdj[vertex]?).getD [] = edgeRefs
      rw [atVertex]
      rfl
    rw [← atRow]
    exact agree.byTarget.mem_iff vertex edgeRef
  rw [← same, List.mem_map]
  constructor
  · rintro ⟨edgeRef, listed, leaves⟩
    obtain ⟨edge, resolves, arrives⟩ := (filed edgeRef).mp listed
    have owned : edge.fromIdx = edgeRef.fromIdx := agree.rowsOwned edgeRef edge resolves
    exact ⟨edge, (exists_edge_build_iff edge).mp ⟨edgeRef, resolves⟩, arrives,
      owned.trans leaves⟩
  · rintro ⟨edge, isBuilt, arrives, leaves⟩
    obtain ⟨edgeRef, resolves⟩ := (exists_edge_build_iff edge).mpr isBuilt
    have owned : edge.fromIdx = edgeRef.fromIdx := agree.rowsOwned edgeRef edge resolves
    exact ⟨edgeRef, (filed edgeRef).mpr ⟨edge, resolves, arrives⟩, owned.symm.trans leaves⟩

/-- The marks from and to the anchors do not depend on the order of the pools. -/
theorem recompute_build_eq (samePools : pools.entries.Perm reordered.entries) :
    DistanceCache.recompute (build rates snapshotId blockRef tokens pools) =
      DistanceCache.recompute (build rates snapshotId blockRef tokens reordered) := by
  have anchorsInRange : ∀ anchor ∈
      (build rates snapshotId blockRef tokens pools).cycleAnchorIndices, anchor < tokens.length :=
    fun anchor member => lt_of_mem_tokenPositions member
  have fromAnchors : markReachable (build rates snapshotId blockRef tokens pools).successors
      tokens.length (build rates snapshotId blockRef tokens pools).cycleAnchorIndices =
      markReachable (build rates snapshotId blockRef tokens reordered).successors
        tokens.length (build rates snapshotId blockRef tokens pools).cycleAnchorIndices := by
    refine markReachable_eq defined_successors defined_successors
      (fun vertex next other isNext isOther successor => ?_) anchorsInRange
    rw [mem_successors_iff isNext, mem_successors_iff isOther]
    simp only [(perm_builtEdges samePools).mem_iff]
  have toAnchors : markReachable (build rates snapshotId blockRef tokens pools).predecessors
      tokens.length (build rates snapshotId blockRef tokens pools).cycleAnchorIndices =
      markReachable (build rates snapshotId blockRef tokens reordered).predecessors
        tokens.length (build rates snapshotId blockRef tokens pools).cycleAnchorIndices := by
    refine markReachable_eq defined_predecessors defined_predecessors
      (fun vertex next other isNext isOther predecessor => ?_) anchorsInRange
    rw [mem_predecessors_iff isNext, mem_predecessors_iff isOther]
    simp only [(perm_builtEdges samePools).mem_iff]
  unfold DistanceCache.recompute
  show (markReachable (build rates snapshotId blockRef tokens pools).successors tokens.length
    (build rates snapshotId blockRef tokens pools).cycleAnchorIndices).bind _ = _
  rw [fromAnchors]
  refine congrArg _ (funext fun marked => ?_)
  show (markReachable (build rates snapshotId blockRef tokens pools).predecessors tokens.length
    (build rates snapshotId blockRef tokens pools).cycleAnchorIndices).bind _ = _
  rw [toAnchors]
  rfl

end Build

end GraphSnapshot

end DexArbitrage
