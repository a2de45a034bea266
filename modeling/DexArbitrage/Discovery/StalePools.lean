/-
This file is about the pools that a refresh was asked to fetch again. A pool
whose fetch yields nothing, or yields a state that is not admitted, keeps its
old entry: it stays usable for the detector exactly when the old entry is.
-/

import DexArbitrage.Detector.PathSearch
import DexArbitrage.Graph.SpotRates

namespace DexArbitrage

section Refresh

variable {rates : FloatRates} {admission : AdmissionFilter} {replies : RefreshReplies}
  {currentSnapshotId : Nat} {tokens : List TokenInfo} {currentPools : HashMap Address PoolState}
  {changedSpecs : List DiscoveredPool} {patches : List PoolStatePatch}
  {blockRef : Option BlockRef}

/-- Every edge of the pool fails the test. -/
def EdgesFail (usable : Edge → Bool) (snapshot : GraphSnapshot) (poolId : Address) : Prop :=
  ∀ edgeRef edge, snapshot.edge edgeRef = some edge → edge.poolId = poolId → usable edge = false

/-- Every pool asked for is replaced by a fetched and admitted state, removed, or unusable. -/
def KeepsNoStalePool (usable : Edge → Bool) (admission : AdmissionFilter)
    (replies : RefreshReplies) (changedSpecs : List DiscoveredPool) (snapshot : GraphSnapshot) :
    Prop :=
  ∀ spec ∈ changedSpecs,
    (∃ pool, FetchedAndAdmitted admission replies changedSpecs spec.address pool ∧
      snapshot.pool spec.address = some pool) ∨
    snapshot.pool spec.address = none ∨ EdgesFail usable snapshot spec.address

/-- Every pool asked for is fetched and admitted, unless there was no such pool before, or its old
state with the patches of the batch has no usable edge. -/
def FetchedOrUnusable (usable : Edge → Bool) (rates : FloatRates) (admission : AdmissionFilter)
    (replies : RefreshReplies) (tokenToIndex : HashMap Address Nat)
    (currentPools : HashMap Address PoolState) (changedSpecs : List DiscoveredPool)
    (patches : List PoolStatePatch) (blockRef : Option BlockRef) : Prop :=
  ∀ spec ∈ changedSpecs,
    (∃ pool, FetchedAndAdmitted admission replies changedSpecs spec.address pool) ∨
    ∀ old, (poolsAfterPatches replies currentPools patches blockRef).lookup spec.address =
        some old →
      ∀ edge ∈ buildEdgesForPool rates old tokenToIndex, usable edge = false

/-- The edges of a built snapshot that belong to a pool are those of the pool filed under its
id. -/
theorem edgesFail_build_iff {usable : Edge → Bool} {snapshotId : Nat}
    {pools : HashMap Address PoolState} (filed : PoolsFiled pools) (poolId : Address) :
    EdgesFail usable (GraphSnapshot.build rates snapshotId blockRef tokens pools) poolId ↔
      ∀ pool, pools.lookup poolId = some pool →
        ∀ edge ∈ buildEdgesForPool rates pool
          (GraphSnapshot.build rates snapshotId blockRef tokens pools).tokenToIndex,
          usable edge = false := by
  constructor
  · intro fails pool stored edge member
    have built : edge ∈ GraphSnapshot.builtEdges rates tokens pools :=
      List.mem_flatMap.mpr ⟨pool, (HashMap.mem_values pools pool).mpr ⟨poolId, stored⟩, member⟩
    obtain ⟨edgeRef, resolves⟩ : ∃ edgeRef,
        (GraphSnapshot.build rates snapshotId blockRef tokens pools).edge edgeRef = some edge :=
      (GraphSnapshot.exists_edge_build_iff edge).mpr built
    refine fails edgeRef edge resolves ?_
    rw [GraphSnapshot.poolId_of_mem_buildEdgesForPool member, filed poolId pool stored]
  · intro unusable edgeRef edge resolves own
    have built := (GraphSnapshot.exists_edge_build_iff edge).mp ⟨edgeRef, resolves⟩
    obtain ⟨pool, inPools, member⟩ := List.mem_flatMap.mp built
    have stored := GraphSnapshot.lookup_of_mem_values filed inPools
    rw [← GraphSnapshot.poolId_of_mem_buildEdgesForPool member, own] at stored
    exact unusable pool stored edge member

/-- After a refresh that succeeds, no pool that was asked for is stale and usable, exactly when
each of them was fetched and admitted or had no usable edge before. -/
theorem keepsNoStalePool_iff (finder : PathFinder) (minTradeRawByToken : List (Option Nat))
    (now : SystemTime) (filed : PoolsFiled currentPools) {snapshot : GraphSnapshot}
    {changed : List Address}
    (refreshed : refreshPools rates admission replies currentSnapshotId tokens currentPools
      changedSpecs patches blockRef = .ok (snapshot, changed)) :
    KeepsNoStalePool (edgeIsUsable finder minTradeRawByToken now) admission replies changedSpecs
        snapshot ↔
      FetchedOrUnusable (edgeIsUsable finder minTradeRawByToken now) rates admission replies
        snapshot.tokenToIndex currentPools changedSpecs patches blockRef := by
  obtain ⟨patched, fetched, extended, fetch, same⟩ := exists_fetchAll_of_refreshPools refreshed
  have filedAfter : PoolsFiled fetched.1 :=
    poolsFiled_fetchAll (poolsFiled_applyPatches filed _ _) fetch
  refine forall₂_congr fun spec _ => ?_
  rw [same, edgesFail_build_iff filedAfter]
  rcases lookup_fetchAll fetch spec.address with ⟨pool, found, stored⟩ | ⟨notFetched, kept⟩
  · exact iff_of_true (Or.inl ⟨pool, found, stored⟩) (Or.inl ⟨pool, found⟩)
  · rw [← kept]
    constructor
    · rintro (⟨pool, found, _⟩ | removed | fails)
      · exact absurd found (notFetched pool)
      · refine Or.inr fun old stored => ?_
        have clash : some old = none := stored.symm.trans removed
        cases clash
      · exact Or.inr fails
    · rintro (⟨pool, found⟩ | fails)
      · exact absurd found (notFetched pool)
      · exact Or.inr (Or.inr fails)

end Refresh

/-! ### A drained pool -/

/-- A pair of two tokens with the given reserves. -/
def pairWithReserves (reserve0 reserve1 : Nat) : PoolState where
  poolId := 10
  dexName := "uniswap_v2"
  kind := .uniswapV2Like
  tokenAddresses := [1, 2]
  factory := none
  registry := none
  vault := none
  quoter := none
  admissionStatus := .allowed
  health :=
    { stale := false, paused := false, quarantined := false, confidenceBps := 10000
      lastSuccessfulRefreshBlock := 100, lastRefreshAt := 0, recentRevertCount := 0 }
  state := .uniswapV2Like { reserve0, reserve1, feePpm := 3000 }
  lastUpdatedBlock := 100

def pairToken (address : Address) : TokenInfo where
  address := address
  symbol := ""
  decimals := 18
  isStable := false
  isCycleAnchor := true
  flashLoanEnabled := false
  allowSelfFunded := true
  manualPriceUsdE8 := none
  maxPositionUsdE8 := none
  maxFlashLoanUsdE8 := none

def pairAdmission : AdmissionFilter where
  minConfidenceBps := 5000
  stalenessTimeout := 1000

def pairFinder : PathFinder where
  maxHops := 3
  screeningCutoffQ32 := 0
  minPoolConfidenceBps := 5000
  stalenessTimeout := 1000
  minTradeUsdE8 := 0
  tuning :=
    { topKPathsPerSide := 4, maxVirtualBranchesPerNode := 4, pathBeamWidth := 4
      maxCandidatesPerRefresh := 4, candidateSelectionBufferMultiplier := 1
      dedupTokenPaths := true, maxPairEdgesPerPair := 2, poolVariantsPerTokenPath := 3
      canonicalVariantsPerCycle := 3, anchorVariantsPerCycle := 1 }

/-- Every fetch is answered with the given pool. -/
def pairReplies (fetched : Option PoolState) : RefreshReplies where
  patchClock _ := 500
  admitClock := 500
  fetchPool _ := .ok fetched
  extendTokens tokens _ := .ok tokens

/-- A Curve pool of the same two tokens. -/
def curvePool : PoolState :=
  { pairWithReserves 0 0 with
    dexName := "curve"
    kind := .curvePlain
    state := .curvePlain
      { balances := [1000, 1000], amp := 100, fee := 400, supportsUnderlying := false } }

/-- A map that holds the pool alone. -/
def filedPool (pool : PoolState) : HashMap Address PoolState :=
  (∅ : HashMap Address PoolState).insert pool.poolId pool

theorem poolsFiled_filedPool (pool : PoolState) : PoolsFiled (filedPool pool) :=
  poolsFiled_insert (fun _ _ stored => by rw [AList.lookup_empty] at stored; cases stored) pool

/-- The refresh of the filed pool, whose fetch is answered with the given one. -/
def poolRefresh (old : PoolState) (fetched : Option PoolState) :
    Except RpcError (GraphSnapshot × List Address) :=
  refreshPools ratioRates pairAdmission (pairReplies fetched) 1 [pairToken 1, pairToken 2]
    (filedPool old) [poolToSpec old] [] none

/-- A pair that is fetched with new reserves is replaced. -/
theorem keepsNoStalePool_fetched :
    ∃ snapshot changed, poolRefresh (pairWithReserves 1000 1000)
        (some (pairWithReserves 3000 3000)) = .ok (snapshot, changed) ∧
      KeepsNoStalePool (edgeIsUsable pairFinder [] 600) pairAdmission
        (pairReplies (some (pairWithReserves 3000 3000)))
        [poolToSpec (pairWithReserves 1000 1000)] snapshot := by
  refine ⟨_, _, rfl, ?_⟩
  refine (keepsNoStalePool_iff pairFinder [] 600 (poolsFiled_filedPool _) rfl).mpr ?_
  intro spec member
  rw [List.mem_singleton.mp member]
  exact Or.inl ⟨_, _, List.mem_singleton_self _, rfl, by decide +kernel, rfl⟩

/-- The snapshot that still has the old pool. -/
def oldSnapshot (old : PoolState) : GraphSnapshot :=
  GraphSnapshot.build ratioRates 2 none [pairToken 1, pairToken 2] (filedPool old)

/-- A pool with a usable edge is kept only when it is fetched with a state that is admitted. -/
theorem admitted_of_keepsNoStalePool {old : PoolState} {fetched : Option PoolState}
    (stored : (oldSnapshot old).pool old.poolId = some old) {edgeRef : EdgeRef} {edge : Edge}
    (found : (oldSnapshot old).edge edgeRef = some edge) (ofPool : edge.poolId = old.poolId)
    (usable : edgeIsUsable pairFinder [] 600 edge = true)
    (keeps : KeepsNoStalePool (edgeIsUsable pairFinder [] 600) pairAdmission
      (pairReplies fetched) [poolToSpec old] (oldSnapshot old)) :
    ∃ pool, fetched = some pool ∧ pairAdmission.admit pool 500 = true := by
  have spec : (poolToSpec old).address = old.poolId := rfl
  rcases keeps _ (List.mem_singleton_self _) with ⟨pool, isFetched, _⟩ | removed | fails
  · obtain ⟨_, _, reply, admitted, _⟩ := isFetched
    injection reply with same
    exact ⟨pool, same, admitted⟩
  · rw [spec, stored] at removed
    cases removed
  · rw [fails edgeRef edge found ofPool] at usable
    cases usable

/-- A Curve pool whose fetch yields nothing, and a pair whose fetch yields a drained one, stay
usable with their old reserves. -/
theorem not_keepsNoStalePool_drained :
    (∃ snapshot changed, poolRefresh curvePool none = .ok (snapshot, changed) ∧
      ¬ KeepsNoStalePool (edgeIsUsable pairFinder [] 600) pairAdmission (pairReplies none)
        [poolToSpec curvePool] snapshot) ∧
    (∃ snapshot changed, poolRefresh (pairWithReserves 1000 1000)
        (some (pairWithReserves 0 0)) = .ok (snapshot, changed) ∧
      ¬ KeepsNoStalePool (edgeIsUsable pairFinder [] 600) pairAdmission
        (pairReplies (some (pairWithReserves 0 0)))
        [poolToSpec (pairWithReserves 1000 1000)] snapshot) := by
  refine ⟨⟨oldSnapshot curvePool, [], rfl, fun keeps => ?_⟩,
    ⟨oldSnapshot (pairWithReserves 1000 1000), [], rfl, fun keeps => ?_⟩⟩
  · have stored : (oldSnapshot curvePool).pool curvePool.poolId = some curvePool := rfl
    have found : (oldSnapshot curvePool).edge { fromIdx := 0, edgeIdx := 0 } =
        some (poolEdge ratioRates curvePool 0 1 0 1) := rfl
    obtain ⟨pool, nothing, _⟩ :=
      admitted_of_keepsNoStalePool stored found rfl (by decide +kernel) keeps
    cases nothing
  · have stored : (oldSnapshot (pairWithReserves 1000 1000)).pool 10 =
        some (pairWithReserves 1000 1000) := rfl
    have found : (oldSnapshot (pairWithReserves 1000 1000)).edge { fromIdx := 0, edgeIdx := 0 } =
        some (poolEdge ratioRates (pairWithReserves 1000 1000) 0 1 0 1) := rfl
    obtain ⟨pool, isDrained, admitted⟩ :=
      admitted_of_keepsNoStalePool stored found rfl (by decide +kernel) keeps
    injection isDrained with isDrained
    rw [← isDrained] at admitted
    exact absurd admitted (by decide +kernel)

end DexArbitrage
