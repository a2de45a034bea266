/-
This file says what the edge tables of a built snapshot hold. Filling the
tables edge by edge keeps them in step with the list of the edges added so far:
the references filed under a pair of positions are pairwise different and
resolve, in order, to the edges between these positions. A constant-product
pool has at most one edge from one token to another, so the edges of a pair of
such pools belong to pairwise different pools.
-/

import DexArbitrage.Lib.Related
import DexArbitrage.Graph.Model

namespace DexArbitrage

/-- The edges from one position to another, among the given ones. -/
def edgesBetween (pair : Nat × Nat) (edges : List Edge) : List Edge :=
  edges.filter fun edge => (edge.fromIdx, edge.toIdx) = pair

theorem edgesBetween_append (pair : Nat × Nat) (first second : List Edge) :
    edgesBetween pair (first ++ second) = edgesBetween pair first ++ edgesBetween pair second :=
  List.filter_append first second

namespace EdgeTables

def edge (tables : EdgeTables) (edgeRef : EdgeRef) : Option Edge :=
  (tables.adjacency[edgeRef.fromIdx]?).bind fun edges => edges[edgeRef.edgeIdx]?

def pairRefs (tables : EdgeTables) (pair : Nat × Nat) : List EdgeRef :=
  (tables.pairToEdges.lookup pair).getD []

/-- The reference that the next edge from the same token gets. -/
def nextRef (tables : EdgeTables) (edge : Edge) : EdgeRef where
  fromIdx := edge.fromIdx
  edgeIdx := (tables.adjacency.getD edge.fromIdx []).length

/-! ### Adding one edge -/

/-- The row that a reference points into, after an edge has been added. -/
theorem row_addEdge (tables : EdgeTables) (poolId : Address) (added : Edge) (position : Nat) :
    (tables.addEdge poolId added).adjacency[position]? =
      (tables.adjacency[position]?).map fun row =>
        if added.fromIdx = position then row ++ [added] else row := by
  show (tables.adjacency.modify added.fromIdx (· ++ [added]))[position]? = _
  rw [List.getElem?_modify]
  rfl

theorem edge_addEdge_of_some {tables : EdgeTables} {edgeRef : EdgeRef} {found : Edge}
    (resolves : tables.edge edgeRef = some found) (poolId : Address) (added : Edge) :
    (tables.addEdge poolId added).edge edgeRef = some found := by
  obtain ⟨row, inTables, entry⟩ := Option.bind_eq_some_iff.mp resolves
  have inRow : edgeRef.edgeIdx < row.length := (List.getElem?_eq_some_iff.mp entry).1
  unfold edge
  rw [row_addEdge, inTables, Option.map_some, Option.bind_some]
  split
  · rw [List.getElem?_append_left inRow, entry]
  · exact entry

theorem edge_nextRef (tables : EdgeTables) (added : Edge) :
    tables.edge (tables.nextRef added) = none := by
  show ((tables.adjacency[added.fromIdx]?).bind fun edges =>
    edges[(tables.adjacency.getD added.fromIdx []).length]?) = none
  rw [List.getD_eq_getElem?_getD]
  cases tables.adjacency[added.fromIdx]? with
  | none => rfl
  | some edges => exact List.getElem?_eq_none (Nat.le_refl _)

theorem edge_addEdge_nextRef {tables : EdgeTables} {added : Edge}
    (inRange : added.fromIdx < tables.adjacency.length) (poolId : Address) :
    (tables.addEdge poolId added).edge (tables.nextRef added) = some added := by
  have row : tables.adjacency[added.fromIdx]? = some tables.adjacency[added.fromIdx] :=
    List.getElem?_eq_getElem inRange
  unfold edge nextRef
  rw [row_addEdge, row, Option.map_some, Option.bind_some, if_pos rfl,
    List.getD_eq_getElem?_getD, row]
  exact List.getElem?_concat_length

theorem pairRefs_addEdge (tables : EdgeTables) (poolId : Address) (added : Edge)
    (pair : Nat × Nat) :
    (tables.addEdge poolId added).pairRefs pair =
      if (added.fromIdx, added.toIdx) = pair then
        tables.pairRefs pair ++ [tables.nextRef added]
      else
        tables.pairRefs pair := by
  show ((tables.pairToEdges.push (added.fromIdx, added.toIdx)
    (tables.nextRef added)).lookup pair).getD [] = _
  rw [HashMap.lookup_push]
  by_cases same : pair = (added.fromIdx, added.toIdx)
  · rw [if_pos same, if_pos same.symm, same]
    rfl
  · rw [if_neg same, if_neg (Ne.symm same)]
    rfl

/-- What resolves after an edge was added is an old edge, or the added one. -/
theorem edge_addEdge_cases {tables : EdgeTables} {poolId : Address} {added edge : Edge}
    {edgeRef : EdgeRef} (resolves : (tables.addEdge poolId added).edge edgeRef = some edge) :
    tables.edge edgeRef = some edge ∨ edgeRef = tables.nextRef added ∧ edge = added := by
  obtain ⟨row, inTables, entry⟩ := Option.bind_eq_some_iff.mp resolves
  rw [row_addEdge] at inTables
  obtain ⟨before, wasThere, appended⟩ := Option.map_eq_some_iff.mp inTables
  have old : before[edgeRef.edgeIdx]? = some edge → tables.edge edgeRef = some edge :=
    fun found => Option.bind_eq_some_iff.mpr ⟨before, wasThere, found⟩
  split at appended
  · rename_i ownRow
    rw [← appended] at entry
    rcases Nat.lt_trichotomy edgeRef.edgeIdx before.length with inside | last | beyond
    · rw [List.getElem?_append_left inside] at entry
      exact Or.inl (old entry)
    · rw [last, List.getElem?_concat_length] at entry
      injection entry with same
      refine Or.inr ⟨?_, same.symm⟩
      have rowLength : (tables.adjacency.getD added.fromIdx []).length = before.length := by
        rw [ownRow, List.getD_eq_getElem?_getD, wasThere, Option.getD_some]
      unfold nextRef
      rw [rowLength, ← last, ownRow]
    · rw [List.getElem?_eq_none (by rw [List.length_append, List.length_singleton]; exact beyond)]
        at entry
      cases entry
  · rw [← appended] at entry
    exact Or.inl (old entry)

/-- Every reference that resolves is filed under the pair of its edge. -/
def RefsFiled (tables : EdgeTables) : Prop :=
  ∀ edgeRef edge, tables.edge edgeRef = some edge →
    edgeRef ∈ tables.pairRefs (edge.fromIdx, edge.toIdx)

theorem refsFiled_addEdge {tables : EdgeTables} (filed : tables.RefsFiled) (poolId : Address)
    (added : Edge) : (tables.addEdge poolId added).RefsFiled := by
  intro edgeRef edge resolves
  rw [pairRefs_addEdge]
  rcases edge_addEdge_cases resolves with old | ⟨isNext, isAdded⟩
  · have inTables := filed edgeRef edge old
    split
    · exact List.mem_append_left _ inTables
    · exact inTables
  · rw [isAdded, if_pos rfl, isNext]
    exact List.mem_append_right _ List.mem_cons_self

/-- Every edge is stored in the row of the token it leaves. -/
def RowsOwned (tables : EdgeTables) : Prop :=
  ∀ edgeRef edge, tables.edge edgeRef = some edge → edge.fromIdx = edgeRef.fromIdx

theorem rowsOwned_addEdge {tables : EdgeTables} (owned : tables.RowsOwned) (poolId : Address)
    (added : Edge) : (tables.addEdge poolId added).RowsOwned := by
  intro edgeRef edge resolves
  obtain ⟨row, inTables, entry⟩ := Option.bind_eq_some_iff.mp resolves
  rw [row_addEdge] at inTables
  obtain ⟨before, wasThere, appended⟩ := Option.map_eq_some_iff.mp inTables
  have listed := List.mem_of_getElem? entry
  have old : edge ∈ before → edge.fromIdx = edgeRef.fromIdx := by
    intro inRow
    obtain ⟨position, found⟩ := List.mem_iff_getElem?.mp inRow
    refine owned { fromIdx := edgeRef.fromIdx, edgeIdx := position } edge ?_
    exact Option.bind_eq_some_iff.mpr ⟨before, wasThere, found⟩
  split at appended
  · rename_i ownRow
    rw [← appended] at listed
    rcases List.mem_append.mp listed with inRow | new
    · exact old inRow
    · rw [List.mem_singleton.mp new]
      exact ownRow
  · rw [← appended] at listed
    exact old listed

/-! ### Adding the edges of all pools -/

/-- What the addition of every edge of the pools preserves holds of the filled tables. -/
theorem foldl_addPool_induction {rates : FloatRates} {tokenToIndex : HashMap Address Nat}
    {motive : EdgeTables → Prop} {pools : List PoolState}
    (added : ∀ tables, ∀ pool ∈ pools, ∀ edge ∈ buildEdgesForPool rates pool tokenToIndex,
      motive tables → motive (tables.addEdge pool.poolId edge))
    {tables : EdgeTables} (start : motive tables) :
    motive (pools.foldl (EdgeTables.addPool rates tokenToIndex) tables) := by
  refine List.foldlRecOn (motive := motive) pools _ start fun tables held pool member => ?_
  exact List.foldlRecOn (motive := motive) (buildEdgesForPool rates pool tokenToIndex) _ held
    fun tables held edge inPool => added tables pool member edge inPool held

/-- The tables hold the given edges, over a number of tokens. -/
structure Holds (tables : EdgeTables) (tokenCount : Nat) (edges : List Edge) : Prop where
  rows : tables.adjacency.length = tokenCount
  resolves : ∀ pair, (tables.pairRefs pair).map tables.edge = (edgesBetween pair edges).map some
  nodup : ∀ pair, (tables.pairRefs pair).Nodup

theorem Holds.resolves_of_mem {tables : EdgeTables} {tokenCount : Nat} {edges : List Edge}
    (holds : tables.Holds tokenCount edges) {pair : Nat × Nat} {edgeRef : EdgeRef}
    (member : edgeRef ∈ tables.pairRefs pair) :
    ∃ edge ∈ edgesBetween pair edges, tables.edge edgeRef = some edge :=
  exists_value_of_mem (holds.resolves pair) member

theorem holds_addEdge {tables : EdgeTables} {tokenCount : Nat} {edges : List Edge}
    (holds : tables.Holds tokenCount edges) (poolId : Address) {added : Edge}
    (inRange : added.fromIdx < tokenCount) :
    (tables.addEdge poolId added).Holds tokenCount (edges ++ [added]) := by
  have kept : ∀ pair, (tables.pairRefs pair).map (tables.addEdge poolId added).edge =
      (tables.pairRefs pair).map tables.edge := by
    intro pair
    refine List.map_congr_left fun edgeRef member => ?_
    obtain ⟨edge, _, resolves⟩ := holds.resolves_of_mem member
    rw [resolves, edge_addEdge_of_some resolves]
  have fresh : ∀ pair, tables.nextRef added ∉ tables.pairRefs pair := by
    intro pair member
    obtain ⟨edge, _, resolves⟩ := holds.resolves_of_mem member
    rw [edge_nextRef] at resolves
    cases resolves
  refine ⟨(List.length_modify _ _ _).trans holds.rows, fun pair => ?_, fun pair => ?_⟩
  · rw [pairRefs_addEdge, edgesBetween_append, List.map_append, ← holds.resolves pair,
      ← kept pair]
    by_cases same : (added.fromIdx, added.toIdx) = pair
    · rw [if_pos same, List.map_append, List.map_singleton,
        edge_addEdge_nextRef (holds.rows ▸ inRange)]
      simp [edgesBetween, same]
    · rw [if_neg same]
      simp [edgesBetween, same]
  · rw [pairRefs_addEdge]
    split
    · exact List.Nodup.append (holds.nodup pair) (List.nodup_singleton _)
        (List.disjoint_singleton.mpr (fresh pair))
    · exact holds.nodup pair

theorem holds_foldl_addEdge {tables : EdgeTables} {tokenCount : Nat} {edges added : List Edge}
    (holds : tables.Holds tokenCount edges) (poolId : Address)
    (inRange : ∀ edge ∈ added, edge.fromIdx < tokenCount) :
    (added.foldl (EdgeTables.addEdge poolId) tables).Holds tokenCount (edges ++ added) := by
  induction added generalizing tables edges with
  | nil => simpa using holds
  | cons edge rest inductionHypothesis =>
    have one := holds_addEdge holds poolId (inRange edge List.mem_cons_self)
    have all := inductionHypothesis one fun edge member =>
      inRange edge (List.mem_cons_of_mem _ member)
    rwa [List.append_assoc] at all

theorem holds_foldl_addPool (rates : FloatRates) (tokenToIndex : HashMap Address Nat)
    {tables : EdgeTables} {tokenCount : Nat} {edges : List Edge}
    (holds : tables.Holds tokenCount edges) (pools : List PoolState)
    (inRange : ∀ pool ∈ pools, ∀ edge ∈ buildEdgesForPool rates pool tokenToIndex,
      edge.fromIdx < tokenCount) :
    (pools.foldl (EdgeTables.addPool rates tokenToIndex) tables).Holds tokenCount
      (edges ++ pools.flatMap fun pool => buildEdgesForPool rates pool tokenToIndex) := by
  induction pools generalizing tables edges with
  | nil => simpa using holds
  | cons pool rest inductionHypothesis =>
    have one := holds_foldl_addEdge holds pool.poolId (inRange pool List.mem_cons_self)
    have all := inductionHypothesis one fun pool member =>
      inRange pool (List.mem_cons_of_mem _ member)
    rwa [List.append_assoc] at all

end EdgeTables

/-! ### The edges of one pool -/

/-- The edge goes from one token of the pool to another of them, both with positions of their
own. -/
structure EdgeOfPool (rates : FloatRates) (pool : PoolState)
    (tokenToIndex : HashMap Address Nat) (i j : Nat) (edge : Edge) : Prop where
  different : i ≠ j
  fromListed : i < pool.tokenAddresses.length
  toListed : j < pool.tokenAddresses.length
  fromFound : tokenToIndex.lookup (pool.tokenAddresses.getD i 0) = some edge.fromIdx
  toFound : tokenToIndex.lookup (pool.tokenAddresses.getD j 0) = some edge.toIdx
  isPoolEdge : edge = poolEdge rates pool edge.fromIdx edge.toIdx i j

theorem edgeOfPool_of_mem_buildTwoTokenEdges {rates : FloatRates} {pool : PoolState}
    {tokenToIndex : HashMap Address Nat} {edge : Edge}
    (member : edge ∈ buildTwoTokenEdges rates pool tokenToIndex) :
    ∃ i j, EdgeOfPool rates pool tokenToIndex i j edge := by
  unfold buildTwoTokenEdges at member
  split at member
  · rename_i first second tokens
    split at member
    · rename_i a b firstIdx secondIdx
      have listed : ∀ i, i < 2 → i < pool.tokenAddresses.length := by
        rw [tokens]
        exact fun i below => below
      rcases List.mem_pair.mp member with forwards | backwards
      · refine ⟨0, 1, by decide, listed 0 (by decide), listed 1 (by decide), ?_, ?_, ?_⟩
        · rw [tokens, forwards]
          exact firstIdx
        · rw [tokens, forwards]
          exact secondIdx
        · rw [forwards]
          rfl
      · refine ⟨1, 0, by decide, listed 1 (by decide), listed 0 (by decide), ?_, ?_, ?_⟩
        · rw [tokens, backwards]
          exact secondIdx
        · rw [tokens, backwards]
          exact firstIdx
        · rw [backwards]
          rfl
    · cases member
  · cases member

theorem edgeOfPool_of_listed {rates : FloatRates} {pool : PoolState}
    {tokenToIndex : HashMap Address Nat} {i j : Nat} {edge : Edge}
    (fromListed : i ∈ List.range pool.tokenAddresses.length)
    (toListed : j ∈ List.range pool.tokenAddresses.length)
    (listed : (if i = j then
        none
      else do
        let fromIdx ← tokenToIndex.lookup (pool.tokenAddresses.getD i 0)
        let toIdx ← tokenToIndex.lookup (pool.tokenAddresses.getD j 0)
        return poolEdge rates pool fromIdx toIdx i j) = some edge) :
    EdgeOfPool rates pool tokenToIndex i j edge := by
  split at listed
  · cases listed
  · rename_i different
    obtain ⟨fromIdx, fromFound, rest⟩ := Option.bind_eq_some_iff.mp listed
    obtain ⟨toIdx, toFound, same⟩ := Option.bind_eq_some_iff.mp rest
    injection same with same
    rw [← same]
    exact ⟨different, List.mem_range.mp fromListed, List.mem_range.mp toListed, fromFound, toFound,
      rfl⟩

/-- Every edge of a pool goes from one of its tokens to another of them. -/
theorem mem_buildEdgesForPool {rates : FloatRates} {pool : PoolState}
    {tokenToIndex : HashMap Address Nat} {edge : Edge}
    (member : edge ∈ buildEdgesForPool rates pool tokenToIndex) :
    ∃ i j, EdgeOfPool rates pool tokenToIndex i j edge := by
  have nTokens : edge ∈ buildNTokenEdges rates pool tokenToIndex →
      ∃ i j, EdgeOfPool rates pool tokenToIndex i j edge := by
    intro member
    obtain ⟨i, fromListed, fromFirst⟩ := List.mem_flatMap.mp member
    obtain ⟨j, toListed, found⟩ := List.mem_filterMap.mp fromFirst
    exact ⟨i, j, edgeOfPool_of_listed fromListed toListed found⟩
  unfold buildEdgesForPool at member
  split at member
  · exact edgeOfPool_of_mem_buildTwoTokenEdges member
  · exact edgeOfPool_of_mem_buildTwoTokenEdges member
  · exact edgeOfPool_of_mem_buildTwoTokenEdges member
  · exact edgeOfPool_of_mem_buildTwoTokenEdges member
  · exact nTokens member
  · exact nTokens member

/-- The pool is a constant-product pair. -/
def PoolState.IsV2Like (pool : PoolState) : Prop :=
  match pool.state with
  | .uniswapV2Like _ => True
  | _ => False

/-- A constant-product pool has at most one edge from one token to another. -/
theorem length_edgesBetween_le_one (rates : FloatRates) {pool : PoolState}
    (tokenToIndex : HashMap Address Nat) (v2Like : pool.IsV2Like) {pair : Nat × Nat}
    (different : pair.1 ≠ pair.2) :
    (edgesBetween pair (buildEdgesForPool rates pool tokenToIndex)).length ≤ 1 := by
  have twoTokens : buildEdgesForPool rates pool tokenToIndex =
      buildTwoTokenEdges rates pool tokenToIndex := by
    unfold PoolState.IsV2Like at v2Like
    unfold buildEdgesForPool
    split at v2Like
    · rename_i state isV2
      rw [isV2]
    · exact v2Like.elim
  rw [twoTokens]
  unfold buildTwoTokenEdges
  split
  · split
    · rename_i a b _ _
      by_cases forwards : (a, b) = pair
      · have notBackwards : (b, a) ≠ pair := by
          intro backwards
          have swapped := forwards.trans backwards.symm
          injection swapped with first _
          exact different (by rw [← forwards, first])
        simp [edgesBetween, poolEdge, forwards, notBackwards]
      · have atMost : edgesBetween pair [poolEdge rates pool a b 0 1, poolEdge rates pool b a 1 0] =
            edgesBetween pair [poolEdge rates pool b a 1 0] :=
          List.filter_cons_of_neg (by
            rw [decide_eq_true_eq]
            exact forwards)
        rw [atMost]
        exact List.length_filter_le _ _
    · exact Nat.zero_le 1
  · exact Nat.zero_le 1

/-! ### The tables of a built snapshot -/

namespace GraphSnapshot

section Build

variable {rates : FloatRates} {snapshotId : Nat} {blockRef : Option BlockRef}
  {tokens : List TokenInfo} {pools : HashMap Address PoolState}

theorem token_of_tokenIndex {address : Address} {idx : Nat}
    (found : (build rates snapshotId blockRef tokens pools).tokenIndex address = some idx) :
    ∃ token, tokens[idx]? = some token ∧ token.address = address := by
  have member := HashMap.mem_of_lookup_ofList found
  obtain ⟨⟨token, position⟩, listed, same⟩ := List.mem_map.mp member
  injection same with sameAddress samePosition
  rw [List.mem_zipIdx_iff_getElem?] at listed
  exact ⟨token, samePosition ▸ listed, sameAddress⟩

/-- The edges of a pool go between positions of tokens. -/
theorem inRange_of_mem_buildEdgesForPool {pool : PoolState} {edge : Edge}
    (inPool : edge ∈ buildEdgesForPool rates pool
      (build rates snapshotId blockRef tokens pools).tokenToIndex) :
    edge.fromIdx < tokens.length ∧ edge.toIdx < tokens.length := by
  obtain ⟨i, j, ofPool⟩ := mem_buildEdgesForPool inPool
  obtain ⟨_, atFrom, _⟩ := token_of_tokenIndex ofPool.fromFound
  obtain ⟨_, atTo, _⟩ := token_of_tokenIndex ofPool.toFound
  exact ⟨(List.getElem?_eq_some_iff.mp atFrom).1, (List.getElem?_eq_some_iff.mp atTo).1⟩

/-- Different tokens have different positions. -/
theorem tokenIndex_injective {first second : Address} {idx : Nat}
    (firstIdx : (build rates snapshotId blockRef tokens pools).tokenIndex first = some idx)
    (secondIdx : (build rates snapshotId blockRef tokens pools).tokenIndex second = some idx) :
    first = second := by
  obtain ⟨token, atIdx, isFirst⟩ := token_of_tokenIndex firstIdx
  obtain ⟨other, alsoAtIdx, isSecond⟩ := token_of_tokenIndex secondIdx
  rw [atIdx] at alsoAtIdx
  injection alsoAtIdx with same
  rw [← isFirst, ← isSecond, same]

/-- The edges of a built snapshot, in the order in which they are added. -/
def builtEdges (rates : FloatRates) (tokens : List TokenInfo)
    (pools : HashMap Address PoolState) : List Edge :=
  pools.values.flatMap fun pool => buildEdgesForPool rates pool
    (HashMap.ofList (tokens.zipIdx.map fun (token, idx) => (token.address, idx)))

/-- The edge tables of a snapshot. -/
def tables (snapshot : GraphSnapshot) : EdgeTables where
  adjacency := snapshot.adjacency
  reverseAdj := snapshot.reverseAdj
  poolToEdges := snapshot.poolToEdges
  pairToEdges := snapshot.pairToEdges

/-- The tables before the first edge is added. -/
theorem edge_replicate (tokenCount : Nat) (edgeRef : EdgeRef) :
    EdgeTables.edge
      { adjacency := List.replicate tokenCount []
        reverseAdj := List.replicate tokenCount []
        poolToEdges := ∅
        pairToEdges := ∅ } edgeRef = none := by
  show ((List.replicate tokenCount [])[edgeRef.fromIdx]?).bind _ = none
  rw [List.getElem?_replicate]
  split <;> rfl

theorem holds_build : (build rates snapshotId blockRef tokens pools).tables.Holds tokens.length
    (builtEdges rates tokens pools) := by
  have start : EdgeTables.Holds
      { adjacency := List.replicate tokens.length []
        reverseAdj := List.replicate tokens.length []
        poolToEdges := ∅
        pairToEdges := ∅ } tokens.length [] :=
    ⟨List.length_replicate, fun pair => rfl, fun pair => List.nodup_nil⟩
  exact EdgeTables.holds_foldl_addPool rates
    (build rates snapshotId blockRef tokens pools).tokenToIndex start pools.values
    fun _ _ _ inPool => (inRange_of_mem_buildEdgesForPool inPool).1

theorem refsFiled_build : (build rates snapshotId blockRef tokens pools).tables.RefsFiled := by
  refine EdgeTables.foldl_addPool_induction (motive := EdgeTables.RefsFiled)
    (fun _ pool _ edge _ filed => EdgeTables.refsFiled_addEdge filed pool.poolId edge)
    fun edgeRef edge resolves => ?_
  rw [edge_replicate] at resolves
  cases resolves

/-- The edges that a snapshot refers to are those it was built from. -/
theorem exists_edge_build_iff (edge : Edge) :
    (∃ edgeRef, (build rates snapshotId blockRef tokens pools).edge edgeRef = some edge) ↔
      edge ∈ builtEdges rates tokens pools := by
  have filled : (build rates snapshotId blockRef tokens pools).tables.Holds tokens.length
      (builtEdges rates tokens pools) := holds_build
  constructor
  · rintro ⟨edgeRef, resolves⟩
    obtain ⟨found, between, same⟩ :=
      filled.resolves_of_mem (refsFiled_build edgeRef edge resolves)
    have equal : some found = some edge := same.symm.trans resolves
    injection equal with equal
    exact equal ▸ (List.mem_filter.mp between).1
  · intro member
    have between : edge ∈ edgesBetween (edge.fromIdx, edge.toIdx)
        (builtEdges rates tokens pools) := List.mem_filter.mpr ⟨member, decide_eq_true rfl⟩
    obtain ⟨edgeRef, _, resolves⟩ := exists_element_of_mem (filled.resolves _) between
    exact ⟨edgeRef, resolves⟩

/-- The references of a pair are pairwise different and resolve to its edges. -/
theorem pairEdges_build {tokenIn tokenOut : Address} {fromIdx toIdx : Nat}
    (fromFound : (build rates snapshotId blockRef tokens pools).tokenIndex tokenIn = some fromIdx)
    (toFound : (build rates snapshotId blockRef tokens pools).tokenIndex tokenOut = some toIdx) :
    ((build rates snapshotId blockRef tokens pools).pairEdges tokenIn tokenOut).Nodup ∧
      ((build rates snapshotId blockRef tokens pools).pairEdges tokenIn tokenOut).map
          (build rates snapshotId blockRef tokens pools).edge =
        (edgesBetween (fromIdx, toIdx) (builtEdges rates tokens pools)).map some := by
  have filled : (build rates snapshotId blockRef tokens pools).tables.Holds tokens.length
      (builtEdges rates tokens pools) := holds_build
  have filedUnder : (build rates snapshotId blockRef tokens pools).pairEdges tokenIn tokenOut =
      ((build rates snapshotId blockRef tokens pools).pairToEdges.lookup
        (fromIdx, toIdx)).getD [] := by
    unfold pairEdges
    rw [fromFound, toFound]
  rw [filedUnder]
  exact ⟨filled.nodup (fromIdx, toIdx), filled.resolves (fromIdx, toIdx)⟩

/-- Every edge is stored in the row of the token it leaves, and what is filed under a pair of
positions resolves to an edge between them. -/
structure WellIndexed (snapshot : GraphSnapshot) : Prop where
  rowsOwned : ∀ edgeRef edge, snapshot.edge edgeRef = some edge → edge.fromIdx = edgeRef.fromIdx
  pairsResolve : ∀ pair edgeRefs, snapshot.pairToEdges.lookup pair = some edgeRefs →
    ∀ edgeRef ∈ edgeRefs, ∃ edge, snapshot.edge edgeRef = some edge ∧
      (edge.fromIdx, edge.toIdx) = pair

theorem wellIndexed_build : (build rates snapshotId blockRef tokens pools).WellIndexed where
  rowsOwned := by
    refine EdgeTables.foldl_addPool_induction (motive := EdgeTables.RowsOwned)
      (fun _ pool _ edge _ owned => EdgeTables.rowsOwned_addEdge owned pool.poolId edge)
      fun edgeRef edge resolves => ?_
    rw [edge_replicate] at resolves
    cases resolves
  pairsResolve := by
    intro pair edgeRefs filed edgeRef member
    have inTables :
        edgeRef ∈ (build rates snapshotId blockRef tokens pools).tables.pairRefs pair := by
      unfold EdgeTables.pairRefs
      show edgeRef ∈ (((build rates snapshotId blockRef tokens pools).pairToEdges).lookup
        pair).getD []
      rw [filed]
      exact member
    obtain ⟨edge, between, resolves⟩ := holds_build.resolves_of_mem inTables
    exact ⟨edge, resolves, of_decide_eq_true (List.mem_filter.mp between).2⟩

/-- Every edge is filed under its pair, and no reference twice. -/
structure FilesAll (snapshot : GraphSnapshot) : Prop where
  filed : ∀ edgeRef edge, snapshot.edge edgeRef = some edge → ∃ edgeRefs,
    snapshot.pairToEdges.lookup (edge.fromIdx, edge.toIdx) = some edgeRefs ∧ edgeRef ∈ edgeRefs
  nodup : ∀ pair edgeRefs, snapshot.pairToEdges.lookup pair = some edgeRefs → edgeRefs.Nodup

theorem filesAll_build : (build rates snapshotId blockRef tokens pools).FilesAll where
  filed := by
    intro edgeRef edge resolves
    have inTables : (build rates snapshotId blockRef tokens pools).tables.RefsFiled :=
      refsFiled_build
    have listed : edgeRef ∈ ((build rates snapshotId blockRef tokens pools).pairToEdges.lookup
        (edge.fromIdx, edge.toIdx)).getD [] := inTables edgeRef edge resolves
    cases found : (build rates snapshotId blockRef tokens pools).pairToEdges.lookup
        (edge.fromIdx, edge.toIdx) with
    | none =>
      rw [found] at listed
      cases listed
    | some edgeRefs =>
      rw [found] at listed
      exact ⟨edgeRefs, rfl, listed⟩
  nodup := by
    intro pair edgeRefs found
    have filled : (build rates snapshotId blockRef tokens pools).tables.Holds tokens.length
        (builtEdges rates tokens pools) := holds_build
    have distinct : (((build rates snapshotId blockRef tokens pools).pairToEdges.lookup
        pair).getD []).Nodup := filled.nodup pair
    rw [found] at distinct
    exact distinct

/-- Every pool that an edge of the pair belongs to is a constant-product pair. -/
def PairIsV2Like (snapshot : GraphSnapshot) (tokenIn tokenOut : Address) : Prop :=
  ∀ edgeRef ∈ snapshot.pairEdges tokenIn tokenOut, ∀ edge, snapshot.edge edgeRef = some edge →
    ∀ pool, snapshot.pool edge.poolId = some pool → pool.IsV2Like

theorem poolId_of_mem_buildEdgesForPool {pool : PoolState}
    {tokenToIndex : HashMap Address Nat} {edge : Edge}
    (member : edge ∈ buildEdgesForPool rates pool tokenToIndex) : edge.poolId = pool.poolId := by
  obtain ⟨i, j, ofPool⟩ := mem_buildEdgesForPool member
  rw [ofPool.isPoolEdge]
  rfl

theorem nodup_poolIds_values (filed : PoolsFiled pools) :
    (pools.values.map PoolState.poolId).Nodup := by
  have keys : pools.values.map PoolState.poolId = pools.entries.map Sigma.fst := by
    unfold HashMap.values
    rw [List.map_map]
    refine List.map_congr_left fun entry member => ?_
    exact filed entry.1 entry.2 ((HashMap.lookup_eq_some_iff pools entry.1 entry.2).mpr member)
  rw [keys]
  exact pools.nodupKeys

theorem lookup_of_mem_values (filed : PoolsFiled pools) {pool : PoolState}
    (member : pool ∈ pools.values) : pools.lookup pool.poolId = some pool := by
  obtain ⟨key, found⟩ := (HashMap.mem_values pools pool).mp member
  rw [filed key pool found]
  exact found

/-- When no pool has two edges from one token to another, these edges belong to pairwise different
pools. -/
theorem nodup_poolIds_edgesBetween (rates : FloatRates) (tokens : List TokenInfo)
    (filed : PoolsFiled pools) (pair : Nat × Nat)
    (atMostOne : ∀ pool ∈ pools.values, (edgesBetween pair (buildEdgesForPool rates pool
      (HashMap.ofList (tokens.zipIdx.map fun (token, idx) => (token.address, idx))))).length ≤ 1) :
    ((edgesBetween pair (builtEdges rates tokens pools)).map Edge.poolId).Nodup := by
  unfold edgesBetween builtEdges at *
  rw [List.filter_flatMap]
  refine List.pairwise_map.mpr (List.pairwise_flatMap.mpr ⟨fun pool member => ?_, ?_⟩)
  · refine List.pairwise_iff_getElem.mpr fun first second firstIn secondIn before => ?_
    have few := atMostOne pool member
    omega
  · refine (List.pairwise_map.mp (nodup_poolIds_values filed)).imp ?_
    intro first second differentPools edge inFirst other inSecond same
    rw [poolId_of_mem_buildEdgesForPool (List.mem_filter.mp inFirst).1,
      poolId_of_mem_buildEdgesForPool (List.mem_filter.mp inSecond).1] at same
    exact differentPools same

/-- The edges of a pair belong to pairwise different pools, when no pool has two of them. -/
theorem nodup_poolIds_pairRefs (filed : PoolsFiled pools) (pair : Nat × Nat)
    (atMostOne : ∀ pool ∈ pools.values, (edgesBetween pair (buildEdgesForPool rates pool
      (HashMap.ofList (tokens.zipIdx.map fun (token, idx) => (token.address, idx))))).length ≤ 1) :
    (((build rates snapshotId blockRef tokens pools).tables.pairRefs pair).map fun edgeRef =>
      ((build rates snapshotId blockRef tokens pools).edge edgeRef).map Edge.poolId).Nodup := by
  have filled : (build rates snapshotId blockRef tokens pools).tables.Holds tokens.length
      (builtEdges rates tokens pools) := holds_build
  have inOrder : (((build rates snapshotId blockRef tokens pools).tables.pairRefs pair).map
      fun edgeRef => ((build rates snapshotId blockRef tokens pools).edge edgeRef).map
        Edge.poolId) =
      ((edgesBetween pair (builtEdges rates tokens pools)).map Edge.poolId).map some := by
    have composed := congrArg (List.map (Option.map Edge.poolId)) (filled.resolves pair)
    rw [List.map_map, List.map_map] at composed
    rw [List.map_map]
    exact composed
  rw [inOrder]
  exact (nodup_poolIds_edgesBetween rates tokens filed pair atMostOne).map
    fun first second same => Option.some.inj same

theorem nodup_poolIds_pairEdges (filed : PoolsFiled pools) {tokenIn tokenOut : Address}
    (different : tokenIn ≠ tokenOut)
    (v2Like : (build rates snapshotId blockRef tokens pools).PairIsV2Like tokenIn tokenOut) :
    (((build rates snapshotId blockRef tokens pools).pairEdges tokenIn tokenOut).map fun edgeRef =>
      ((build rates snapshotId blockRef tokens pools).edge edgeRef).map Edge.poolId).Nodup := by
  have unlisted : ∀ (absent : (build rates snapshotId blockRef tokens pools).pairEdges tokenIn
      tokenOut = []), (((build rates snapshotId blockRef tokens pools).pairEdges tokenIn
      tokenOut).map fun edgeRef =>
        ((build rates snapshotId blockRef tokens pools).edge edgeRef).map Edge.poolId).Nodup := by
    intro absent
    rw [absent]
    exact List.nodup_nil
  cases fromFound : (build rates snapshotId blockRef tokens pools).tokenIndex tokenIn with
  | none => exact unlisted (by unfold pairEdges; rw [fromFound])
  | some fromIdx =>
    cases toFound : (build rates snapshotId blockRef tokens pools).tokenIndex tokenOut with
    | none => exact unlisted (by unfold pairEdges; rw [fromFound, toFound])
    | some toIdx =>
      obtain ⟨_, resolves⟩ := pairEdges_build fromFound toFound
      have positions : fromIdx ≠ toIdx := by
        intro same
        exact different (tokenIndex_injective fromFound (same ▸ toFound))
      have atMostOne : ∀ pool ∈ pools.values, (edgesBetween (fromIdx, toIdx) (buildEdgesForPool
          rates pool (build rates snapshotId blockRef tokens pools).tokenToIndex)).length ≤ 1 := by
        intro pool member
        cases between : edgesBetween (fromIdx, toIdx) (buildEdgesForPool rates pool
            (build rates snapshotId blockRef tokens pools).tokenToIndex) with
        | nil => exact Nat.zero_le 1
        | cons edge rest =>
          have listed : edge ∈ edgesBetween (fromIdx, toIdx) (buildEdgesForPool rates pool
              (build rates snapshotId blockRef tokens pools).tokenToIndex) := by
            rw [between]
            exact List.mem_cons_self
          obtain ⟨inPool, inPair⟩ := List.mem_filter.mp listed
          have isBetween : edge ∈ edgesBetween (fromIdx, toIdx) (builtEdges rates tokens pools) :=
            List.mem_filter.mpr ⟨List.mem_flatMap.mpr ⟨pool, member, inPool⟩, inPair⟩
          obtain ⟨edgeRef, isPairEdge, resolved⟩ := exists_element_of_mem resolves isBetween
          have isV2Like := v2Like edgeRef isPairEdge edge resolved pool
            (by rw [poolId_of_mem_buildEdgesForPool inPool]
                exact lookup_of_mem_values filed member)
          rw [← between]
          exact length_edgesBetween_le_one rates _ isV2Like positions
      have pairRefs : (build rates snapshotId blockRef tokens pools).pairEdges tokenIn tokenOut =
          (build rates snapshotId blockRef tokens pools).tables.pairRefs (fromIdx, toIdx) := by
        unfold pairEdges
        rw [fromFound, toFound]
        rfl
      rw [pairRefs]
      exact nodup_poolIds_pairRefs filed (fromIdx, toIdx) atMostOne

end Build

end GraphSnapshot

end DexArbitrage
