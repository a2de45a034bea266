/-
This file models how the pools are brought up: `bootstrap` of
`src/discovery/mod.rs`. It keeps what the cache of an earlier run has of the
discovered pools, fetches the others, and replays the events of the blocks since
the oldest cached state.

What a bootstrap reads from outside comes as `BootstrapReplies`. It fetches pools
in two rounds, before and after the replay, and a request of the second round
need not end as the same one of the first. The checkpoints that are saved on the
way are left out; the cache that is saved at the end is part of the result.
-/

import DexArbitrage.Discovery.PollModes
import DexArbitrage.Discovery.PoolFetch
import DexArbitrage.Discovery.PriceDerivation

namespace DexArbitrage

/-! ### The cache of an earlier run -/

structure SkippedPoolCacheEntry where
  spec : DiscoveredPool
  reason : String
  skippedAtUnixSecs : Nat
  deriving DecidableEq, Repr

structure PoolStateCache where
  version : Nat
  chainId : Nat
  savedAtBlock : Option Nat
  savedAtUnixSecs : Option Nat
  pools : List PoolState
  skippedPools : List SkippedPoolCacheEntry
  deriving DecidableEq, Repr

/-- The block of the pool whose state is the oldest, not counting those of an unknown block. -/
def oldestBlock (pools : List PoolState) : Option Nat :=
  (pools.filterMap fun pool =>
    if 0 < pool.lastUpdatedBlock then some pool.lastUpdatedBlock else none).min?

namespace PoolStateCache

def fromParts (chainId nowUnixSecs : Nat) (pools : List PoolState)
    (skippedPools : List SkippedPoolCacheEntry) : PoolStateCache where
  version := 1
  chainId
  savedAtBlock := oldestBlock pools
  savedAtUnixSecs := some nowUnixSecs
  pools
  skippedPools

def anchorBlock (cache : PoolStateCache) : Option Nat :=
  match cache.savedAtBlock, oldestBlock cache.pools with
  | some saved, some poolAnchor => some (min saved poolAnchor)
  | some saved, none => some saved
  | none, some poolAnchor => some poolAnchor
  | none, none => none

def validate (cache : PoolStateCache) (chainId : Nat) : Except RpcError Unit :=
  if cache.version ≠ 1 ∨ cache.chainId ≠ chainId then
    .error "pool state cache version or chain id mismatch"
  else
    .ok ()

end PoolStateCache

def poolMatchesSpec (pool : PoolState) (spec : DiscoveredPool) : Bool :=
  pool.poolId = spec.address && pool.dexName = spec.dexName && pool.kind = spec.ammKind &&
    pool.factory = spec.factory && pool.registry = spec.registry && pool.vault = spec.vault &&
    pool.quoter = spec.quoter

def discoveredPoolMatchesSpec (left right : DiscoveredPool) : Bool :=
  left.address = right.address && left.dexName = right.dexName && left.ammKind = right.ammKind &&
    left.factory = right.factory && left.registry = right.registry && left.vault = right.vault &&
    left.quoter = right.quoter && left.balancerPoolId = right.balancerPoolId

def skippedPoolMatchesSpec (entry : SkippedPoolCacheEntry) (spec : DiscoveredPool) : Bool :=
  discoveredPoolMatchesSpec entry.spec spec

/-- A pool of priority is left out only for a reason that is not a failed request. -/
def skippedPoolCacheAppliesToSpec (entry : SkippedPoolCacheEntry) (spec : DiscoveredPool) : Bool :=
  if ! spec.priority then
    true
  else
    entry.reason ∈ ["v2_zero_liquidity", "aerodrome_v2_zero_liquidity", "v3_zero_liquidity",
      "curve_fetch_returned_none", "balancer_fetch_returned_none"]

def isHighCardinalityPoolKind (kind : AmmKind) : Bool :=
  kind ∈ [.uniswapV2Like, .aerodromeV2Like, .uniswapV3Like]

/-- A cached pool that is worth another look, although it is not admitted as it is. -/
def AdmissionFilter.shouldRefreshCached (admission : AdmissionFilter) (pool : PoolState) : Bool :=
  poolHasAdmissibleShape pool && ! pool.health.paused && ! pool.health.quarantined &&
    admission.minConfidenceBps ≤ pool.health.confidenceBps

/-! ### Settings and replies -/

/-- The settings of a bootstrap, most of them from the environment. -/
structure BootstrapEnv where
  chainId : Nat
  disablePoolStateCache : Option String
  discoveryFetchUnseenPools : Option String
  bootstrapReplayCachedPoolStates : Option String
  replayMaxBlocks : Option Nat
  disableSkippedPoolCache : Option String
  skippedPoolCacheTtlSecs : Option Nat
  eventBackfillBlocks : Nat
  admission : AdmissionFilter
  fetcher : PoolFetcher
  signatureHash : String → B256
  rates : FloatRates
  derivePoolPrices : Bool
  priceEstimators : PriceEstimators

/-- The rounds in which a bootstrap fetches pools. -/
inductive FetchPhase
  | planned
  | replay
  deriving DecidableEq, Repr

/-- What a bootstrap reads from outside. A pool that is fetched on its own reads with
`otherReads`, by its position and the attempt. -/
structure BootstrapReplies where
  flashReserves : Except RpcError (List Address)
  scanAll : Except RpcError (List DiscoveredPool)
  latestBlock : Except RpcError Nat
  poolStateCache : Except RpcError PoolStateCache
  admitClock : Address → SystemTime
  unixClock : Address → Nat
  batchReads : FetchPhase → PoolFetcher.BatchKind → BatchMoment → PoolReads
  otherReads : FetchPhase → Nat → Nat → PoolReads
  reconcileLogs : List Address → List B256 → Nat → Nat → Except RpcError (List RpcLog)
  triggerOrder : List RefreshTrigger → List RefreshTrigger
  patchClock : Nat → SystemTime
  replayClock : Address → SystemTime
  discoverTokens : HashMap Address PoolState → List Address → Except RpcError (List TokenInfo)
  priceOrders : Nat → IterationOrder (Address × List Nat)
  blockRef : Except RpcError BlockRef
  saveClock : Nat

def envFlag (value : Option String) : Bool :=
  value.any fun text => text ∈ ["1", "true", "TRUE", "yes", "YES"]

/-- A flag that is set unless it is switched off. -/
def envFlagUnlessOff (value : Option String) : Bool :=
  ! value.any fun text => text ∈ ["0", "false", "FALSE", "no", "NO"]

namespace BootstrapEnv

variable (env : BootstrapEnv) (replies : BootstrapReplies)

def poolStateCacheDisabled : Bool :=
  envFlag env.disablePoolStateCache

def fetchUnseenPoolsOnBootstrap : Bool :=
  envFlag env.discoveryFetchUnseenPools

def bootstrapReplayMaxBlocks : Option Nat :=
  env.replayMaxBlocks.filter (0 < ·)

def skippedPoolCacheEntryActive (entry : SkippedPoolCacheEntry) : Bool :=
  if envFlag env.disableSkippedPoolCache then
    false
  else
    replies.unixClock entry.spec.address - entry.skippedAtUnixSecs ≤
      env.skippedPoolCacheTtlSecs.getD 86400

def admitPool (pool : PoolState) : Bool :=
  env.admission.admit pool (replies.admitClock pool.poolId)

/-! ### What the cache brings -/

/-- The caches that a bootstrap starts from. -/
structure Start where
  cachedPools : HashMap Address PoolState
  skippedPools : HashMap Address SkippedPoolCacheEntry
  cacheLoaded : Bool
  anchorBlock : Option Nat

def Start.empty : Start where
  cachedPools := ∅
  skippedPools := ∅
  cacheLoaded := false
  anchorBlock := none

def loadCache : Except RpcError PoolStateCache := do
  let cache ← replies.poolStateCache
  cache.validate env.chainId
  return cache

def start : Start :=
  if env.poolStateCacheDisabled then
    .empty
  else
    match env.loadCache replies with
    | .ok cache =>
      { cachedPools := HashMap.ofList (cache.pools.map fun pool => (pool.poolId, pool))
        skippedPools := HashMap.ofList
          ((cache.skippedPools.filter (env.skippedPoolCacheEntryActive replies)).map fun entry =>
            (entry.spec.address, entry))
        cacheLoaded := true
        anchorBlock := cache.anchorBlock }
    | .error _ => .empty

def fetchesUnseen (start : Start) : Bool :=
  env.fetchUnseenPoolsOnBootstrap || ! start.cacheLoaded

/-- Whether the cached states are brought up by a replay of events. -/
def replaysCached (start : Start) (latest : Nat) : Bool :=
  envFlagUnlessOff env.bootstrapReplayCachedPoolStates && start.cacheLoaded &&
    match start.anchorBlock with
    | none => false
    | some anchor => env.bootstrapReplayMaxBlocks.all fun most => latest - anchor ≤ most

/-! ### What is fetched -/

/-- The specs to fetch, by how they are fetched. -/
structure FetchPlan where
  v2 : List DiscoveredPool
  aerodromeV2 : List DiscoveredPool
  v3 : List DiscoveredPool
  traderJoeLb : List DiscoveredPool
  other : List DiscoveredPool
  deriving DecidableEq, Repr

def FetchPlan.empty : FetchPlan where
  v2 := []
  aerodromeV2 := []
  v3 := []
  traderJoeLb := []
  other := []

def pushFetchSpec (plan : FetchPlan) (spec : DiscoveredPool) : FetchPlan :=
  match spec.ammKind with
  | .uniswapV2Like => { plan with v2 := plan.v2 ++ [spec] }
  | .aerodromeV2Like => { plan with aerodromeV2 := plan.aerodromeV2 ++ [spec] }
  | .uniswapV3Like => { plan with v3 := plan.v3 ++ [spec] }
  | .traderJoeLb => { plan with traderJoeLb := plan.traderJoeLb ++ [spec] }
  | .curvePlain | .balancerWeighted => { plan with other := plan.other ++ [spec] }

/-- A round of fetches. -/
structure FetchRound where
  phase : FetchPhase
  blockNumber : Option Nat
  toFetch : FetchPlan

/-- The pools held, and the list of those that are left out. -/
structure PoolStore where
  pools : HashMap Address PoolState
  skippedPools : HashMap Address SkippedPoolCacheEntry

/-- The state of the loop over the discovered pools. -/
structure Planning where
  store : PoolStore
  cachedPools : HashMap Address PoolState
  toFetch : FetchPlan

/-- A pool that no cache knows. -/
def planUnseen (start : Start) (planning : Planning) (spec : DiscoveredPool) : Planning :=
  if ! env.fetchesUnseen start && isHighCardinalityPoolKind spec.ammKind && ! spec.priority then
    planning
  else
    { planning with toFetch := pushFetchSpec planning.toFetch spec }

def PoolStore.insertPool (store : PoolStore) (pool : PoolState) : PoolStore :=
  { store with pools := store.pools.insert pool.poolId pool }

def planCached (replay : Bool) (planning : Planning) (spec : DiscoveredPool) (pool : PoolState) :
    Planning :=
  if env.admitPool replies pool then
    { planning with store := planning.store.insertPool pool }
  else if replay && ! pool.health.stale && env.admission.shouldRefreshCached pool then
    { planning with store := planning.store.insertPool pool }
  else if env.admission.shouldRefreshCached pool then
    { planning with toFetch := pushFetchSpec planning.toFetch spec }
  else
    planning

/-- One round of the loop over the discovered pools. -/
def planSpec (start : Start) (replay : Bool) (planning : Planning) (spec : DiscoveredPool) :
    Planning :=
  let cached := (planning.cachedPools.lookup spec.address).filter (poolMatchesSpec · spec)
  let planning := { planning with cachedPools := planning.cachedPools.erase spec.address }
  match cached with
  | some pool => env.planCached replies replay planning spec pool
  | none =>
    match planning.store.skippedPools.lookup spec.address with
    | some entry =>
      if skippedPoolMatchesSpec entry spec && skippedPoolCacheAppliesToSpec entry spec then
        planning
      else
        let skippedPools := planning.store.skippedPools.erase spec.address
        env.planUnseen start { planning with store := { planning.store with skippedPools } } spec
    | none => env.planUnseen start planning spec

def plan (start : Start) (replay : Bool) (discovered : List DiscoveredPool) : Planning :=
  discovered.foldl (env.planSpec replies start replay)
    { store := { pools := ∅, skippedPools := start.skippedPools }
      cachedPools := start.cachedPools
      toFetch := .empty }

/-! ### Fetching -/

def insertSkippedPoolReason (store : PoolStore) (spec : DiscoveredPool) (reason : String) :
    PoolStore :=
  { store with
    skippedPools := store.skippedPools.insert spec.address
      { spec, reason, skippedAtUnixSecs := replies.unixClock spec.address } }

def insertSkippedPool (store : PoolStore) (skipped : SkippedPoolFetch) : PoolStore :=
  insertSkippedPoolReason replies store skipped.spec skipped.reason

def keepPool (store : PoolStore) (pool : PoolState) : PoolStore :=
  PoolStore.insertPool { store with skippedPools := store.skippedPools.erase pool.poolId } pool

def keepIfAdmitted (store : PoolStore) (pool : PoolState) : PoolStore :=
  if env.admitPool replies pool then keepPool store pool else store

def storeBatch (store : PoolStore) (batch : PoolFetchBatch) : PoolStore :=
  batch.pools.foldl (env.keepIfAdmitted replies)
    (batch.skipped.foldl (insertSkippedPool replies) store)

/-- A pool that is fetched on its own, with its retries. -/
def fetchOther (round : FetchRound) (placed : PlacedSpec) : Except RpcError (Option PoolState) :=
  env.fetcher.fetchPoolWithRetries round.blockNumber (replies.otherReads round.phase placed.2)
    placed.1

def storeOther (round : FetchRound) (store : PoolStore) (placed : PlacedSpec) : PoolStore :=
  match env.fetchOther replies round placed with
  | .ok (some pool) => env.keepIfAdmitted replies store pool
  | .ok none => insertSkippedPoolReason replies store placed.1 "non_v2_v3_fetch_returned_none"
  | .error _ => insertSkippedPoolReason replies store placed.1 "non_v2_v3_fetch_failed"

/-- The requests of the batch of a kind. -/
def FetchRound.reads (round : FetchRound) (kind : PoolFetcher.BatchKind) :
    BatchMoment → PoolReads :=
  replies.batchReads round.phase kind

def fetchPlanned (round : FetchRound) (store : PoolStore) : Except RpcError PoolStore := do
  let store := env.storeBatch replies store
    (← env.fetcher.fetchV2Batch (round.reads replies .v2) round.blockNumber round.toFetch.v2)
  let store := env.storeBatch replies store
    (← env.fetcher.fetchAerodromeV2Batch (round.reads replies .aerodromeV2) round.blockNumber
      round.toFetch.aerodromeV2)
  let store := env.storeBatch replies store
    (← env.fetcher.fetchV3Batch (round.reads replies .v3) round.blockNumber round.toFetch.v3)
  let store := env.storeBatch replies store
    (← env.fetcher.fetchTraderJoeLbBatch (round.reads replies .traderJoeLb) round.blockNumber
      round.toFetch.traderJoeLb)
  return round.toFetch.other.zipIdx.foldl (env.storeOther replies round) store

/-! ### Replaying events -/

/-- The store while pools are fetched again, and the pools for which that failed. -/
structure Refetching where
  store : PoolStore
  failed : List Address

def Refetching.fail (refetching : Refetching) (spec : DiscoveredPool) (reason : String) :
    Refetching where
  store := insertSkippedPoolReason replies refetching.store spec reason
  failed := refetching.failed.insert spec.address

def Refetching.keep (refetching : Refetching) (pool : PoolState) : Refetching where
  store := keepPool refetching.store pool
  failed := refetching.failed.filter (· ≠ pool.poolId)

def Refetching.storeBatch (refetching : Refetching) (batch : PoolFetchBatch) : Refetching :=
  batch.pools.foldl Refetching.keep
    (batch.skipped.foldl (fun refetching skipped =>
      refetching.fail replies skipped.spec skipped.reason) refetching)

def Refetching.storeOther (round : FetchRound) (refetching : Refetching) (placed : PlacedSpec) :
    Refetching :=
  match env.fetchOther replies round placed with
  | .ok (some pool) =>
    if env.admitPool replies pool then refetching.keep pool
    else refetching.fail replies placed.1 "replay_full_refresh_returned_none"
  | .ok none => refetching.fail replies placed.1 "replay_full_refresh_returned_none"
  | .error _ => refetching.fail replies placed.1 "replay_full_refresh_failed"

/-- The round of fetches that a replay asks for. -/
def replayRound (specs : List DiscoveredPool) (latest : Nat) : FetchRound where
  phase := .replay
  blockNumber := some latest
  toFetch := specs.foldl pushFetchSpec .empty

def fetchReplayFullRefreshPools (specs : List DiscoveredPool) (latest : Nat)
    (refetching : Refetching) : Except RpcError Refetching := do
  let round := replayRound specs latest
  let refetching := refetching.storeBatch replies
    (← env.fetcher.fetchV2Batch (round.reads replies .v2) round.blockNumber round.toFetch.v2)
  let refetching := refetching.storeBatch replies
    (← env.fetcher.fetchAerodromeV2Batch (round.reads replies .aerodromeV2) round.blockNumber
      round.toFetch.aerodromeV2)
  let refetching := refetching.storeBatch replies
    (← env.fetcher.fetchV3Batch (round.reads replies .v3) round.blockNumber round.toFetch.v3)
  let refetching := refetching.storeBatch replies
    (← env.fetcher.fetchTraderJoeLbBatch (round.reads replies .traderJoeLb) round.blockNumber
      round.toFetch.traderJoeLb)
  return round.toFetch.other.zipIdx.foldl (Refetching.storeOther env replies round) refetching

def collectReplayPatches (batch : RefreshBatch) : List PoolStatePatch :=
  collectPatches batch

def collectReplayFullRefreshSpecs (pools : HashMap Address PoolState) (batch : RefreshBatch) :
    List DiscoveredPool :=
  (((batch.triggers.filter RefreshTrigger.fullRefresh).filterMap
    RefreshTrigger.poolId).eraseDups.filterMap pools.lookup).map poolToSpec

def markReplayed (blockNumber : Nat) (pool : PoolState) : PoolState :=
  markReplayedPoolCurrent pool blockNumber (replies.replayClock pool.poolId)

def markReplayedPoolsCurrent (blockNumber : Nat) (pools : HashMap Address PoolState) :
    HashMap Address PoolState :=
  pools.mapValues (markReplayed replies blockNumber)

def markStale (pool : PoolState) : PoolState :=
  { pool with health := { pool.health with stale := true } }

/-- The batch of the events of a range of blocks. -/
def backfillOnce (snapshot : GraphSnapshot) (fromBlock toBlock : Nat) :
    Except RpcError RefreshBatch :=
  let addresses := watchedAddresses snapshot
  if addresses.isEmpty || toBlock < fromBlock then
    .ok { triggers := [] }
  else do
    let logs ← replies.reconcileLogs addresses (eventTopics env.signatureHash) fromBlock toBlock
    return buildRefreshBatch env.signatureHash replies.triggerOrder snapshot logs

/-- The patches of a batch, each with the reading of the clock when it is applied. -/
def stampPatches (batch : RefreshBatch) : List (PoolStatePatch × SystemTime) :=
  (collectReplayPatches batch).zipIdx.map fun entry => (entry.1, replies.patchClock entry.2)

/-- All pools are marked current, but for those that could not be fetched again. -/
def markRefetched (latest : Nat) (refetched : Refetching) : PoolStore :=
  { refetched.store with
    pools := refetched.failed.foldl (fun pools poolId => pools.update poolId markStale)
      (markReplayedPoolsCurrent replies latest refetched.store.pools) }

def replayCachedPoolStateEvents (anchor latest : Nat) (store : PoolStore) :
    Except RpcError PoolStore :=
  if latest = 0 ∨ latest ≤ anchor then
    .ok { store with pools := markReplayedPoolsCurrent replies (max latest anchor) store.pools }
  else do
    let batch ← env.backfillOnce replies (GraphSnapshot.build env.rates 0 none [] store.pools)
      (anchor - env.eventBackfillBlocks) latest
    let patched := applyPatches (some latest) store.pools (stampPatches replies batch)
    let refetched ← env.fetchReplayFullRefreshPools replies
      (collectReplayFullRefreshSpecs store.pools batch) latest
      { store := { store with pools := patched }, failed := [] }
    return markRefetched replies latest refetched

/-! ### The whole bootstrap -/

structure DiscoveryOutput where
  tokens : List TokenInfo
  pools : HashMap Address PoolState
  snapshot : GraphSnapshot

def fetchBlockNumber (latest : Nat) : Option Nat :=
  if 0 < latest then some latest else none

/-- What a bootstrap plans for the discovered pools. -/
def planning (start : Start) (discovered : List DiscoveredPool) (latest : Nat) : Planning :=
  env.plan replies start (env.replaysCached start latest) discovered

/-- The round of fetches that was planned. -/
def plannedRound (start : Start) (discovered : List DiscoveredPool) (latest : Nat) :
    FetchRound where
  phase := .planned
  blockNumber := fetchBlockNumber latest
  toFetch := (env.planning replies start discovered latest).toFetch

/-- The store after the planned fetches. -/
def gather (start : Start) (discovered : List DiscoveredPool) (latest : Nat) :
    Except RpcError PoolStore :=
  env.fetchPlanned replies (env.plannedRound replies start discovered latest)
    (env.planning replies start discovered latest).store

/-- The store after the planned fetches and the replay. -/
def bringUp (discovered : List DiscoveredPool) (latest : Nat) : Except RpcError PoolStore := do
  let start := env.start replies
  let store ← env.gather replies start discovered latest
  match start.anchorBlock with
  | some anchor =>
    if env.replaysCached start latest then
      env.replayCachedPoolStateEvents replies anchor latest store
    else
      return store
  | none => return store

/-- The cache that is written, if one is. -/
def savedCache (store : PoolStore) : Option PoolStateCache :=
  if env.poolStateCacheDisabled then
    none
  else
    some (PoolStateCache.fromParts env.chainId replies.saveClock store.pools.values
      store.skippedPools.values)

/-- The tokens of the pools, with the prices that follow from the pools, if they are asked for. -/
def discoverTokens (pools : HashMap Address PoolState) (flashReserves : List Address) :
    Except RpcError (List TokenInfo) := do
  let tokens ← replies.discoverTokens pools flashReserves
  if env.derivePoolPrices then
    return deriveMissingPricesFromPools env.priceEstimators replies.priceOrders tokens pools
  else
    return tokens

/-- The latest block, or 0 if it cannot be read. -/
def latestAtBootstrap : Nat :=
  replies.latestBlock.toOption.getD 0

/-- The pools with their tokens, and the cache that is saved. -/
def bootstrap : Except RpcError (DiscoveryOutput × Option PoolStateCache) := do
  let flashReserves ← replies.flashReserves
  let discovered ← replies.scanAll
  let latest := latestAtBootstrap replies
  let store ← env.bringUp replies discovered latest
  let tokens ← env.discoverTokens replies store.pools flashReserves
  let blockRef := if 0 < latest then replies.blockRef.toOption else none
  return ({ tokens, pools := store.pools
            snapshot := GraphSnapshot.build env.rates 0 blockRef tokens store.pools },
    env.savedCache replies store)

end BootstrapEnv

end DexArbitrage
