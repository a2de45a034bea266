/-
This file proves that the indexes of a built snapshot agree. Besides the rows of
the edges there are three of them, over the tokens the edges lead to, the pools
they belong to and the pairs of their tokens. Each files a reference under one
key of its edge; adding an edge appends its reference to the one entry of each
index that its key selects, so that every reference is filed exactly once.
-/

import DexArbitrage.Graph.DistinctEdges

namespace DexArbitrage

namespace EdgeTables

def reverseRefs (tables : EdgeTables) (position : Nat) : List EdgeRef :=
  (tables.reverseAdj[position]?).getD []

def poolRefs (tables : EdgeTables) (poolId : Address) : List EdgeRef :=
  (tables.poolToEdges.lookup poolId).getD []

/-! ### One index -/

/-- The index files under each key the references of the edges with that key, and none twice. -/
structure IndexesBy {Key : Type} (tables : EdgeTables) (refs : Key → List EdgeRef)
    (keyOf : Edge → Key) : Prop where
  mem_iff : ∀ key edgeRef, edgeRef ∈ refs key ↔
    ∃ edge, tables.edge edgeRef = some edge ∧ keyOf edge = key
  nodup : ∀ key, (refs key).Nodup

section Index

variable {Key : Type} [DecidableEq Key] {tables : EdgeTables} {refs refsAfter : Key → List EdgeRef}
  {keyOf : Edge → Key}

theorem IndexesBy.count_eq (indexed : tables.IndexesBy refs keyOf) {edgeRef : EdgeRef}
    {edge : Edge} (resolves : tables.edge edgeRef = some edge) (key : Key) :
    (refs key).count edgeRef = if key = keyOf edge then 1 else 0 := by
  split
  · rename_i isKey
    have filed : edgeRef ∈ refs key :=
      (indexed.mem_iff key edgeRef).mpr ⟨edge, resolves, isKey.symm⟩
    exact List.count_eq_one_of_mem (indexed.nodup key) filed
  · rename_i otherKey
    refine List.count_eq_zero.mpr fun filed => otherKey ?_
    obtain ⟨found, resolvesToo, isKey⟩ := (indexed.mem_iff key edgeRef).mp filed
    rw [resolves] at resolvesToo
    injection resolvesToo with same
    rw [← isKey, same]

theorem edge_addEdge_iff {poolId : Address} {added edge : Edge}
    (inRange : added.fromIdx < tables.adjacency.length) (edgeRef : EdgeRef) :
    (tables.addEdge poolId added).edge edgeRef = some edge ↔
      tables.edge edgeRef = some edge ∨ edgeRef = tables.nextRef added ∧ edge = added := by
  constructor
  · exact edge_addEdge_cases
  · rintro (old | ⟨rfl, rfl⟩)
    · exact edge_addEdge_of_some old poolId added
    · exact edge_addEdge_nextRef inRange poolId

/-- Adding an edge keeps an index that appends the new reference to the entry of its key. -/
theorem IndexesBy.addEdge (indexed : tables.IndexesBy refs keyOf) {poolId : Address} {added : Edge}
    (inRange : added.fromIdx < tables.adjacency.length)
    (appended : ∀ key, refsAfter key =
      if keyOf added = key then refs key ++ [tables.nextRef added] else refs key) :
    (tables.addEdge poolId added).IndexesBy refsAfter keyOf where
  mem_iff := by
    intro key edgeRef
    simp only [edge_addEdge_iff inRange]
    rw [appended]
    constructor
    · intro filed
      have old : edgeRef ∈ refs key → ∃ edge, (tables.edge edgeRef = some edge ∨
          edgeRef = tables.nextRef added ∧ edge = added) ∧ keyOf edge = key := by
        intro inIndex
        obtain ⟨edge, resolves, isKey⟩ := (indexed.mem_iff key edgeRef).mp inIndex
        exact ⟨edge, Or.inl resolves, isKey⟩
      split at filed
      · rename_i isKey
        rcases List.mem_append.mp filed with inIndex | new
        · exact old inIndex
        · exact ⟨added, Or.inr ⟨List.mem_singleton.mp new, rfl⟩, isKey⟩
      · exact old filed
    · rintro ⟨edge, resolves | ⟨isNext, rfl⟩, isKey⟩
      · have inIndex := (indexed.mem_iff key edgeRef).mpr ⟨edge, resolves, isKey⟩
        split
        · exact List.mem_append_left _ inIndex
        · exact inIndex
      · rw [if_pos isKey, isNext]
        exact List.mem_append_right _ List.mem_cons_self
  nodup := by
    intro key
    have fresh : tables.nextRef added ∉ refs key := by
      intro inIndex
      obtain ⟨edge, resolves, _⟩ := (indexed.mem_iff key _).mp inIndex
      rw [edge_nextRef] at resolves
      cases resolves
    rw [appended]
    split
    · exact List.Nodup.append (indexed.nodup key) (List.nodup_singleton _)
        (List.disjoint_singleton.mpr fresh)
    · exact indexed.nodup key

end Index

/-! ### The three indexes -/

/-- The row of the edges that lead to a token, after an edge has been added. -/
theorem reverseRow_addEdge (tables : EdgeTables) (poolId : Address) (added : Edge)
    (position : Nat) :
    (tables.addEdge poolId added).reverseAdj[position]? =
      (tables.reverseAdj[position]?).map fun row =>
        if added.toIdx = position then row ++ [tables.nextRef added] else row := by
  show (tables.reverseAdj.modify added.toIdx (· ++ [tables.nextRef added]))[position]? = _
  rw [List.getElem?_modify]
  rfl

theorem reverseRefs_addEdge {tables : EdgeTables} (poolId : Address) {added : Edge}
    (inRange : added.toIdx < tables.reverseAdj.length) (position : Nat) :
    (tables.addEdge poolId added).reverseRefs position =
      if added.toIdx = position then
        tables.reverseRefs position ++ [tables.nextRef added]
      else
        tables.reverseRefs position := by
  unfold reverseRefs
  rw [reverseRow_addEdge]
  by_cases isTarget : added.toIdx = position
  · rw [← isTarget, List.getElem?_eq_getElem inRange]
    simp
  · cases tables.reverseAdj[position]? <;> simp [isTarget]

theorem poolRefs_addEdge (tables : EdgeTables) (added : Edge) (poolId : Address) :
    (tables.addEdge added.poolId added).poolRefs poolId =
      if added.poolId = poolId then
        tables.poolRefs poolId ++ [tables.nextRef added]
      else
        tables.poolRefs poolId := by
  show ((tables.poolToEdges.push added.poolId (tables.nextRef added)).lookup poolId).getD [] = _
  rw [HashMap.lookup_push]
  by_cases same : poolId = added.poolId
  · rw [if_pos same, if_pos same.symm, same]
    rfl
  · rw [if_neg same, if_neg (Ne.symm same)]
    rfl

/-- The tables over a number of tokens: every edge is in its own row and goes from token to token,
and the three indexes file it under its target, its pool and its pair. -/
structure Agree (tables : EdgeTables) (tokenCount : Nat) : Prop where
  rows : tables.adjacency.length = tokenCount
  reverseRows : tables.reverseAdj.length = tokenCount
  rowsOwned : tables.RowsOwned
  inRange : ∀ edgeRef edge, tables.edge edgeRef = some edge →
    edge.fromIdx < tokenCount ∧ edge.toIdx < tokenCount
  byTarget : tables.IndexesBy tables.reverseRefs Edge.toIdx
  byPool : tables.IndexesBy tables.poolRefs Edge.poolId
  byPair : tables.IndexesBy tables.pairRefs fun edge => (edge.fromIdx, edge.toIdx)

theorem Agree.addEdge {tables : EdgeTables} {tokenCount : Nat} (agree : tables.Agree tokenCount)
    {added : Edge} (fromInRange : added.fromIdx < tokenCount)
    (toInRange : added.toIdx < tokenCount) :
    (tables.addEdge added.poolId added).Agree tokenCount where
  rows := (List.length_modify _ _ _).trans agree.rows
  reverseRows := (List.length_modify _ _ _).trans agree.reverseRows
  rowsOwned := rowsOwned_addEdge agree.rowsOwned added.poolId added
  inRange := by
    intro edgeRef edge resolves
    rcases edge_addEdge_cases resolves with old | ⟨_, rfl⟩
    · exact agree.inRange edgeRef edge old
    · exact ⟨fromInRange, toInRange⟩
  byTarget := agree.byTarget.addEdge (agree.rows ▸ fromInRange)
    (reverseRefs_addEdge added.poolId (agree.reverseRows ▸ toInRange))
  byPool := agree.byPool.addEdge (agree.rows ▸ fromInRange) (poolRefs_addEdge tables added)
  byPair := agree.byPair.addEdge (agree.rows ▸ fromInRange)
    (pairRefs_addEdge tables added.poolId added)

theorem Agree.foldl_addPool {rates : FloatRates} {tokenToIndex : HashMap Address Nat}
    {tables : EdgeTables} {tokenCount : Nat} (agree : tables.Agree tokenCount)
    (pools : List PoolState)
    (inRange : ∀ pool ∈ pools, ∀ edge ∈ buildEdgesForPool rates pool tokenToIndex,
      edge.fromIdx < tokenCount ∧ edge.toIdx < tokenCount) :
    (pools.foldl (EdgeTables.addPool rates tokenToIndex) tables).Agree tokenCount := by
  refine foldl_addPool_induction (motive := fun tables => tables.Agree tokenCount)
    (fun tables pool member edge inPool agree => ?_) agree
  obtain ⟨fromInRange, toInRange⟩ := inRange pool member edge inPool
  rw [← GraphSnapshot.poolId_of_mem_buildEdgesForPool inPool]
  exact agree.addEdge fromInRange toInRange

theorem agree_empty (tokenCount : Nat) : EdgeTables.Agree
    { adjacency := List.replicate tokenCount []
      reverseAdj := List.replicate tokenCount []
      poolToEdges := ∅
      pairToEdges := ∅ } tokenCount where
  rows := List.length_replicate
  reverseRows := List.length_replicate
  rowsOwned := by
    intro edgeRef edge resolves
    rw [GraphSnapshot.edge_replicate] at resolves
    cases resolves
  inRange := by
    intro edgeRef edge resolves
    rw [GraphSnapshot.edge_replicate] at resolves
    cases resolves
  byTarget := by
    have empty : ∀ position : Nat,
        ((List.replicate tokenCount ([] : List EdgeRef))[position]?).getD [] = [] := by
      intro position
      rw [List.getElem?_replicate]
      split <;> rfl
    refine ⟨fun position edgeRef => ?_, fun position => ?_⟩
    · simp only [reverseRefs, empty, GraphSnapshot.edge_replicate]
      simp
    · simp only [reverseRefs, empty]
      exact List.nodup_nil
  byPool := by
    refine ⟨fun poolId edgeRef => ?_, fun poolId => List.nodup_nil⟩
    simp only [GraphSnapshot.edge_replicate]
    simp [poolRefs]
  byPair := by
    refine ⟨fun pair edgeRef => ?_, fun pair => List.nodup_nil⟩
    simp only [GraphSnapshot.edge_replicate]
    simp [pairRefs]

end EdgeTables

/-! ### The indexes of a built snapshot -/

namespace GraphSnapshot

/-- The references filed under a target, a pool and a pair of positions. -/
def reverseRefs (snapshot : GraphSnapshot) (position : Nat) : List EdgeRef :=
  (snapshot.reverseAdj[position]?).getD []

def poolRefs (snapshot : GraphSnapshot) (poolId : Address) : List EdgeRef :=
  (snapshot.poolToEdges.lookup poolId).getD []

def pairRefs (snapshot : GraphSnapshot) (pair : Nat × Nat) : List EdgeRef :=
  (snapshot.pairToEdges.lookup pair).getD []

theorem agree_build (rates : FloatRates) (snapshotId : Nat) (blockRef : Option BlockRef)
    (tokens : List TokenInfo) (pools : HashMap Address PoolState) :
    (build rates snapshotId blockRef tokens pools).tables.Agree tokens.length := by
  have inRange : ∀ pool ∈ pools.values, ∀ edge ∈ buildEdgesForPool rates pool
      (build rates snapshotId blockRef tokens pools).tokenToIndex,
      edge.fromIdx < tokens.length ∧ edge.toIdx < tokens.length :=
    fun _ _ _ => inRange_of_mem_buildEdgesForPool
  exact (EdgeTables.agree_empty tokens.length).foldl_addPool pools.values inRange

/-- What the indexes of a snapshot say about its edges, and the edges about the indexes. -/
structure IndexesConsistent (snapshot : GraphSnapshot) : Prop where
  reverseResolves : ∀ position, ∀ edgeRef ∈ snapshot.reverseRefs position,
    ∃ edge, snapshot.edge edgeRef = some edge ∧ edge.toIdx = position
  poolResolves : ∀ poolId, ∀ edgeRef ∈ snapshot.poolRefs poolId,
    ∃ edge, snapshot.edge edgeRef = some edge ∧ edge.poolId = poolId
  pairResolves : ∀ pair, ∀ edgeRef ∈ snapshot.pairRefs pair,
    ∃ edge, snapshot.edge edgeRef = some edge ∧ (edge.fromIdx, edge.toIdx) = pair
  reverseOnce : ∀ edgeRef edge, snapshot.edge edgeRef = some edge → ∀ position,
    (snapshot.reverseRefs position).count edgeRef = if position = edge.toIdx then 1 else 0
  poolOnce : ∀ edgeRef edge, snapshot.edge edgeRef = some edge → ∀ poolId,
    (snapshot.poolRefs poolId).count edgeRef = if poolId = edge.poolId then 1 else 0
  pairOnce : ∀ edgeRef edge, snapshot.edge edgeRef = some edge → ∀ pair,
    (snapshot.pairRefs pair).count edgeRef = if pair = (edge.fromIdx, edge.toIdx) then 1 else 0
  ownRow : ∀ edgeRef edge, snapshot.edge edgeRef = some edge → edge.fromIdx = edgeRef.fromIdx
  validEndpoints : ∀ edgeRef edge, snapshot.edge edgeRef = some edge →
    edge.fromIdx < snapshot.tokens.length ∧ edge.toIdx < snapshot.tokens.length

/-- The indexes of a built snapshot agree, whatever the tokens and the pools. -/
theorem indexesConsistent_build (rates : FloatRates) (snapshotId : Nat)
    (blockRef : Option BlockRef) (tokens : List TokenInfo) (pools : HashMap Address PoolState) :
    (build rates snapshotId blockRef tokens pools).IndexesConsistent := by
  have agree := agree_build rates snapshotId blockRef tokens pools
  exact {
    reverseResolves := fun position edgeRef => (agree.byTarget.mem_iff position edgeRef).mp
    poolResolves := fun poolId edgeRef => (agree.byPool.mem_iff poolId edgeRef).mp
    pairResolves := fun pair edgeRef => (agree.byPair.mem_iff pair edgeRef).mp
    reverseOnce := fun _ _ resolves => agree.byTarget.count_eq resolves
    poolOnce := fun _ _ resolves => agree.byPool.count_eq resolves
    pairOnce := fun _ _ resolves => agree.byPair.count_eq resolves
    ownRow := agree.rowsOwned
    validEndpoints := agree.inRange }

end GraphSnapshot

end DexArbitrage
