/-
This file is about snapshots whose pools list no token twice. Such a pool has at
most one edge from one token to another and none from a token to itself, so an
edge of the snapshot is known by the tokens it connects and by its pool.
-/

import Mathlib.Data.List.GetD
import DexArbitrage.Graph.PairIndex

namespace DexArbitrage

/-- No pool of the map lists a token twice. -/
def TokensDistinct (pools : HashMap Address PoolState) : Prop :=
  ∀ poolId pool, pools.lookup poolId = some pool → pool.tokenAddresses.Nodup

/-- Tokens at the same position are the same. -/
def IndexInjective (tokenToIndex : HashMap Address Nat) : Prop :=
  ∀ first second idx, tokenToIndex.lookup first = some idx → tokenToIndex.lookup second = some idx →
    first = second

/-! ### The edges of one pool -/

section Pool

variable {rates : FloatRates} {pool : PoolState} {tokenToIndex : HashMap Address Nat}

/-- The positions of a token among the tokens of its pool are known by its index. -/
theorem position_eq_of_index (distinct : pool.tokenAddresses.Nodup)
    (injective : IndexInjective tokenToIndex) {i j idx : Nat}
    (firstListed : i < pool.tokenAddresses.length) (secondListed : j < pool.tokenAddresses.length)
    (firstFound : tokenToIndex.lookup (pool.tokenAddresses.getD i 0) = some idx)
    (secondFound : tokenToIndex.lookup (pool.tokenAddresses.getD j 0) = some idx) : i = j := by
  have same := injective _ _ _ firstFound secondFound
  rw [List.getD_eq_getElem _ _ firstListed, List.getD_eq_getElem _ _ secondListed] at same
  exact distinct.getElem_inj_iff.mp same

theorem EdgeOfPool.fromIdx_ne_toIdx (distinct : pool.tokenAddresses.Nodup)
    (injective : IndexInjective tokenToIndex) {i j : Nat} {edge : Edge}
    (ofPool : EdgeOfPool rates pool tokenToIndex i j edge) : edge.fromIdx ≠ edge.toIdx := by
  intro same
  exact ofPool.different (position_eq_of_index distinct injective ofPool.fromListed
    ofPool.toListed ofPool.fromFound (same ▸ ofPool.toFound))

/-- Edges whose ends are not both the same. -/
def EndsDiffer (first second : Edge) : Prop :=
  (first.fromIdx, first.toIdx) ≠ (second.fromIdx, second.toIdx)

theorem length_edgesBetween_le_one_of_pairwise {edges : List Edge}
    (pairwise : edges.Pairwise EndsDiffer) (pair : Nat × Nat) :
    (edgesBetween pair edges).length ≤ 1 := by
  by_contra several
  have filtered : (edgesBetween pair edges).Pairwise EndsDiffer := pairwise.filter _
  have between : ∀ position (inRange : position < (edgesBetween pair edges).length),
      ((edgesBetween pair edges)[position].fromIdx, (edgesBetween pair edges)[position].toIdx) =
        pair :=
    fun position inRange => of_decide_eq_true (List.mem_filter.mp (List.getElem_mem inRange)).2
  have first : 0 < (edgesBetween pair edges).length := by omega
  have second : 1 < (edgesBetween pair edges).length := by omega
  exact List.pairwise_iff_getElem.mp filtered 0 1 first second Nat.zero_lt_one
    ((between 0 first).trans (between 1 second).symm)

theorem pairwise_endsDiffer_buildNTokenEdges (distinct : pool.tokenAddresses.Nodup)
    (injective : IndexInjective tokenToIndex) :
    (buildNTokenEdges rates pool tokenToIndex).Pairwise EndsDiffer := by
  have positions : (List.range pool.tokenAddresses.length).Pairwise (· ≠ ·) := List.nodup_range
  refine List.pairwise_flatMap.mpr ⟨fun i fromListed => ?_, ?_⟩
  · refine List.pairwise_filterMap.mpr (positions.imp_of_mem ?_)
    intro j k jListed kListed different edge isEdge other isOther sameEnds
    have first := edgeOfPool_of_listed fromListed jListed isEdge
    have second := edgeOfPool_of_listed fromListed kListed isOther
    injection sameEnds with _ sameTo
    exact different (position_eq_of_index distinct injective first.toListed second.toListed
      first.toFound (sameTo ▸ second.toFound))
  · refine positions.imp_of_mem ?_
    intro i k iListed kListed different edge isEdge other isOther sameEnds
    obtain ⟨j, jListed, fromFirst⟩ := List.mem_filterMap.mp isEdge
    obtain ⟨l, lListed, fromSecond⟩ := List.mem_filterMap.mp isOther
    have first := edgeOfPool_of_listed iListed jListed fromFirst
    have second := edgeOfPool_of_listed kListed lListed fromSecond
    injection sameEnds with sameFrom _
    exact different (position_eq_of_index distinct injective first.fromListed second.fromListed
      first.fromFound (sameFrom ▸ second.fromFound))

theorem pairwise_endsDiffer_buildTwoTokenEdges (distinct : pool.tokenAddresses.Nodup)
    (injective : IndexInjective tokenToIndex) :
    (buildTwoTokenEdges rates pool tokenToIndex).Pairwise EndsDiffer := by
  unfold buildTwoTokenEdges
  split
  · rename_i first second tokens
    split
    · rename_i a b firstIdx secondIdx
      refine List.pairwise_pair.mpr fun sameEnds => ?_
      injection sameEnds with sameFrom _
      have sameIdx : a = b := sameFrom
      have same := injective first second a firstIdx (sameIdx ▸ secondIdx)
      rw [tokens, same] at distinct
      exact (List.nodup_cons.mp distinct).1 List.mem_cons_self
    · exact List.Pairwise.nil
  · exact List.Pairwise.nil

/-- A pool that lists no token twice has at most one edge from one token to another. -/
theorem length_edgesBetween_le_one_of_distinct (distinct : pool.tokenAddresses.Nodup)
    (injective : IndexInjective tokenToIndex) (pair : Nat × Nat) :
    (edgesBetween pair (buildEdgesForPool rates pool tokenToIndex)).length ≤ 1 := by
  refine length_edgesBetween_le_one_of_pairwise ?_ pair
  unfold buildEdgesForPool
  split
  · exact pairwise_endsDiffer_buildTwoTokenEdges distinct injective
  · exact pairwise_endsDiffer_buildTwoTokenEdges distinct injective
  · exact pairwise_endsDiffer_buildTwoTokenEdges distinct injective
  · exact pairwise_endsDiffer_buildTwoTokenEdges distinct injective
  · exact pairwise_endsDiffer_buildNTokenEdges distinct injective
  · exact pairwise_endsDiffer_buildNTokenEdges distinct injective

end Pool

/-! ### The edges of a built snapshot -/

namespace GraphSnapshot

section Build

variable {rates : FloatRates} {snapshotId : Nat} {blockRef : Option BlockRef}
  {tokens : List TokenInfo} {pools : HashMap Address PoolState}

theorem indexInjective_build :
    IndexInjective (build rates snapshotId blockRef tokens pools).tokenToIndex :=
  fun _ _ _ firstIdx secondIdx => tokenIndex_injective firstIdx secondIdx

/-- Every edge of a built snapshot is an edge of one of its pools. -/
theorem exists_edgeOfPool {edgeRef : EdgeRef} {edge : Edge}
    (resolves : (build rates snapshotId blockRef tokens pools).edge edgeRef = some edge) :
    ∃ pool ∈ pools.values, ∃ i j, EdgeOfPool rates pool
      (build rates snapshotId blockRef tokens pools).tokenToIndex i j edge := by
  obtain ⟨pool, member, inPool⟩ :=
    List.mem_flatMap.mp ((exists_edge_build_iff edge).mp ⟨edgeRef, resolves⟩)
  exact ⟨pool, member, mem_buildEdgesForPool inPool⟩

theorem tokens_of_edge {edgeRef : EdgeRef} {edge : Edge}
    (resolves : (build rates snapshotId blockRef tokens pools).edge edgeRef = some edge) :
    (∃ token, tokens[edge.fromIdx]? = some token ∧
      (build rates snapshotId blockRef tokens pools).tokenIndex token.address =
        some edge.fromIdx) ∧
    ∃ token, tokens[edge.toIdx]? = some token ∧
      (build rates snapshotId blockRef tokens pools).tokenIndex token.address =
        some edge.toIdx := by
  obtain ⟨pool, _, i, j, ofPool⟩ := exists_edgeOfPool resolves
  obtain ⟨fromToken, atFrom, isFrom⟩ := token_of_tokenIndex ofPool.fromFound
  obtain ⟨toToken, atTo, isTo⟩ := token_of_tokenIndex ofPool.toFound
  exact ⟨⟨fromToken, atFrom, isFrom ▸ ofPool.fromFound⟩, toToken, atTo, isTo ▸ ofPool.toFound⟩

theorem distinct_of_mem_values (distinct : TokensDistinct pools) {pool : PoolState}
    (member : pool ∈ pools.values) : pool.tokenAddresses.Nodup := by
  obtain ⟨key, found⟩ := (HashMap.mem_values pools pool).mp member
  exact distinct key pool found

theorem fromIdx_ne_toIdx (distinct : TokensDistinct pools) {edgeRef : EdgeRef} {edge : Edge}
    (resolves : (build rates snapshotId blockRef tokens pools).edge edgeRef = some edge) :
    edge.fromIdx ≠ edge.toIdx := by
  obtain ⟨pool, member, i, j, ofPool⟩ := exists_edgeOfPool resolves
  exact ofPool.fromIdx_ne_toIdx (distinct_of_mem_values distinct member) indexInjective_build

/-- An edge is known by its ends and its pool. -/
theorem edgeRef_eq_of_sameHop (filed : PoolsFiled pools) (distinct : TokensDistinct pools)
    {first second : EdgeRef} {edge other : Edge}
    (resolves : (build rates snapshotId blockRef tokens pools).edge first = some edge)
    (resolvesOther : (build rates snapshotId blockRef tokens pools).edge second = some other)
    (sameFrom : edge.fromIdx = other.fromIdx) (sameTo : edge.toIdx = other.toIdx)
    (samePool : edge.poolId = other.poolId) : first = second := by
  have atMostOne : ∀ pool ∈ pools.values, (edgesBetween (edge.fromIdx, edge.toIdx)
      (buildEdgesForPool rates pool
        (build rates snapshotId blockRef tokens pools).tokenToIndex)).length ≤ 1 :=
    fun pool member => length_edgesBetween_le_one_of_distinct
      (distinct_of_mem_values distinct member) indexInjective_build (edge.fromIdx, edge.toIdx)
  have poolIds : (((build rates snapshotId blockRef tokens pools).tables.pairRefs
      (edge.fromIdx, edge.toIdx)).map fun edgeRef =>
        ((build rates snapshotId blockRef tokens pools).edge edgeRef).map Edge.poolId).Nodup :=
    nodup_poolIds_pairRefs filed (edge.fromIdx, edge.toIdx) atMostOne
  have firstFiled : first ∈ (build rates snapshotId blockRef tokens pools).tables.pairRefs
      (edge.fromIdx, edge.toIdx) := refsFiled_build first edge resolves
  have secondFiled : second ∈ (build rates snapshotId blockRef tokens pools).tables.pairRefs
      (edge.fromIdx, edge.toIdx) := by
    rw [sameFrom, sameTo]
    exact refsFiled_build second other resolvesOther
  refine List.inj_on_of_nodup_map poolIds firstFiled secondFiled ?_
  rw [resolves, resolvesOther, Option.map_some, Option.map_some, samePool]

end Build

end GraphSnapshot

end DexArbitrage
