/-
This file models how the state of pools is read from the chain: the batches of
`src/discovery/pool_fetcher.rs` for the kinds of pool of which there are many,
and the fetch of one pool, which is what a batch falls back on when its
multicall fails.

What the chain returns is bytes, and the decoders of the returned values are
parameters, as they are not part of the repository. A multicall returns one
result for each of its calls; `none` is a call that failed. Two requests that are
the same need not end alike, so a batch reads with other `PoolReads` at each of
its moments.
-/

import DexArbitrage.Discovery.ChunkedLogs
import DexArbitrage.Discovery.Refresh
import DexArbitrage.Lib.Chunks
import DexArbitrage.Lib.Related

namespace DexArbitrage

/-! ### Reading the chain -/

/-- The view functions that are read. -/
inductive PoolCall
  | token0
  | token1
  | getReserves
  | fee
  | tickSpacing
  | liquidity
  | slot0
  | tokenX
  | tokenY
  | binStep
  | activeId
  | lbReserves
  | metadata
  | getFee (pool : Address) (stable : Bool)
  | amplification
  | coins (position : Nat)
  | balances (position : Nat)
  | getPoolId
  | getPoolTokens (poolId : B256)
  | getNormalizedWeights
  | getSwapFeePercentage
  | getPausedState
  deriving DecidableEq, Repr

/-- What is returned for a number of calls, and for one. -/
structure PoolReads where
  aggregate3 : List (Address × PoolCall) → Except RpcError (List (Option Bytes))
  ethCall : Address → PoolCall → Except RpcError Bytes

/-- When a batch reads the chain: for a chunk, which is told by the positions of its specs in the
batch, and for one spec after the multicall of its chunk has failed. -/
inductive BatchMoment
  | chunk (positions : List Nat)
  | spec (position : Nat)
  deriving DecidableEq, Repr

/-- A spec and its position in a batch. -/
abbrev PlacedSpec := DiscoveredPool × Nat

structure AerodromeV2Metadata where
  decimals0 : Nat
  decimals1 : Nat
  reserve0 : Nat
  reserve1 : Nat
  stable : Bool
  token0 : Address
  token1 : Address
  deriving DecidableEq, Repr

/-- The decoders of returned values. -/
structure PoolDecoder where
  address : Bytes → Except RpcError Address
  getReserves : Bytes → Except RpcError (Nat × Nat)
  fee : Bytes → Except RpcError Nat
  tickSpacing : Bytes → Except RpcError Int
  liquidity : Bytes → Except RpcError Nat
  slot0 : Bool → Bytes → Except RpcError (Nat × Int)
  binStep : Bytes → Except RpcError Nat
  activeId : Bytes → Except RpcError Nat
  lbReserves : Bytes → Except RpcError (Nat × Nat)
  metadata : Bytes → Except RpcError AerodromeV2Metadata
  feeBps : Bytes → Except RpcError Nat
  number : Bytes → Except RpcError Nat
  poolId : Bytes → Except RpcError B256
  poolTokens : Bytes → Except RpcError (List Address × List Nat)
  weights : Bytes → Except RpcError (List Nat)
  paused : Bytes → Except RpcError Bool

structure PoolFetcher where
  dexFeePpm : List (String × Nat)
  dexVault : List (String × Option Address)
  multicallChunkSize : Option Nat
  decoder : PoolDecoder
  clock : Address → SystemTime
  maxRetries : Option Nat
  otherMaxRetries : Option Nat

structure SkippedPoolFetch where
  spec : DiscoveredPool
  reason : String
  deriving DecidableEq, Repr

structure PoolFetchBatch where
  pools : List PoolState
  skipped : List SkippedPoolFetch
  deriving DecidableEq, Repr

def u32Max : Nat := 2 ^ 32 - 1

/-- A number that is too large counts as the largest one. -/
def u256ToU128Saturating (value : Nat) : Nat :=
  min value u128Max

/-- A number that is no `i32` counts as zero. -/
def i32OrZero (value : Int) : Int :=
  if -2 ^ 31 ≤ value ∧ value < 2 ^ 31 then value else 0

namespace PoolFetcher

variable (fetcher : PoolFetcher) (reads : PoolReads)

def chunkSize : Nat :=
  envUsize fetcher.multicallChunkSize 150

/-- The result of a call at a position, decoded; a missing result is an error with a text. -/
def resultAt {Value : Type} (results : List (Option Bytes)) (position : Nat) (missing : RpcError)
    (decode : Bytes → Except RpcError Value) : Except RpcError Value :=
  match results[position]?.join with
  | some raw => decode raw
  | none => .error missing

def lowAddress (raw : Bytes) : Address :=
  BitVec.ofNat 160 (fromBigEndian ((raw.drop 12).take 20))

def callAddress (target : Address) (call : PoolCall) : Except RpcError Address := do
  let raw ← reads.ethCall target call
  if raw.length < 32 then
    throw "address return too short"
  return lowAddress raw

def freshHealth (confidenceBps : Nat) (paused : Bool) (now : SystemTime) : PoolHealth where
  stale := false
  paused
  quarantined := false
  confidenceBps
  lastSuccessfulRefreshBlock := 0
  lastRefreshAt := now
  recentRevertCount := 0

/-- A pool of a spec, as each of the fetches builds it. -/
def buildPool (spec : DiscoveredPool) (tokenAddresses : List Address) (state : PoolSpecificState)
    (blockNumber : Option Nat) : PoolState where
  poolId := spec.address
  dexName := spec.dexName
  kind := spec.ammKind
  tokenAddresses
  factory := spec.factory
  registry := spec.registry
  vault := spec.vault
  quoter := spec.quoter
  admissionStatus := .allowed
  health := freshHealth 10000 false (fetcher.clock spec.address)
  state
  lastUpdatedBlock := blockNumber.getD 0

/-! ### Uniswap V2 -/

def v2Calls (pool : Address) : List (Address × PoolCall) :=
  [(pool, .token0), (pool, .token1), (pool, .getReserves)]

def fetchV2Multicall (pool : Address) : Except RpcError (Address × Address × Nat × Nat) := do
  let results ← reads.aggregate3 (v2Calls pool)
  let token0 ← resultAt results 0 "multicall token0 failed" fetcher.decoder.address
  let token1 ← resultAt results 1 "multicall token1 failed" fetcher.decoder.address
  let reserves ← resultAt results 2 "multicall getReserves failed" fetcher.decoder.getReserves
  return (token0, token1, u256ToU128Saturating reserves.1, u256ToU128Saturating reserves.2)

def fetchV2Sequential (pool : Address) : Except RpcError (Address × Address × Nat × Nat) := do
  let token0 ← callAddress reads pool .token0
  let token1 ← callAddress reads pool .token1
  let reserves ← fetcher.decoder.getReserves (← reads.ethCall pool .getReserves)
  return (token0, token1, u256ToU128Saturating reserves.1, u256ToU128Saturating reserves.2)

def buildV2Pool (spec : DiscoveredPool) (values : Address × Address × Nat × Nat)
    (blockNumber : Option Nat) : PoolState :=
  fetcher.buildPool spec [values.1, values.2.1]
    (.uniswapV2Like
      { reserve0 := values.2.2.1
        reserve1 := values.2.2.2
        feePpm := (fetcher.dexFeePpm.lookup spec.dexName).getD 3000 }) blockNumber

def fetchV2 (spec : DiscoveredPool) (blockNumber : Option Nat) :
    Except RpcError (Option PoolState) := do
  let values ← (match fetcher.fetchV2Multicall reads spec.address with
    | .ok values => .ok values
    | .error _ => fetcher.fetchV2Sequential reads spec.address)
  return some (fetcher.buildV2Pool spec values blockNumber)

/-- A result of a batch, decoded, if it is there and decodes. -/
def decodeAt {Value : Type} (raw : List (Option Bytes)) (position : Nat)
    (decode : Bytes → Except RpcError Value) : Option Value :=
  raw[position]?.join.bind fun bytes => (decode bytes).toOption

def decodeV2BatchResult (raw : List (Option Bytes)) : Option (Address × Address × Nat × Nat) := do
  let token0 ← decodeAt raw 0 fetcher.decoder.address
  let token1 ← decodeAt raw 1 fetcher.decoder.address
  let reserves ← decodeAt raw 2 fetcher.decoder.getReserves
  return (token0, token1, u256ToU128Saturating reserves.1, u256ToU128Saturating reserves.2)

def v2PoolHasLiquidity (pool : PoolState) : Bool :=
  match pool.state with
  | .uniswapV2Like state => 0 < state.reserve0 && 0 < state.reserve1
  | _ => true

/-! ### Uniswap V3 -/

def v3Calls (pool : Address) : List (Address × PoolCall) :=
  [(pool, .token0), (pool, .token1), (pool, .fee), (pool, .tickSpacing), (pool, .liquidity),
    (pool, .slot0)]

def isSlipstreamV3Spec (spec : DiscoveredPool) : Bool :=
  spec.dexName.startsWith "aerodrome_v3"

/-- What the returned values make of a pool: its tokens and its state. -/
def v3Values (token0 token1 : Address) (fee : Nat) (tickSpacing : Int) (liquidity : Nat)
    (slot0 : Nat × Int) : Address × Address × V3PoolState :=
  (token0, token1,
    { sqrtPriceX96 := slot0.1
      liquidity
      tick := i32OrZero slot0.2
      fee := min fee u32Max
      tickSpacing := i32OrZero tickSpacing })

def fetchV3Multicall (pool : Address) (slipstream : Bool) :
    Except RpcError (Address × Address × V3PoolState) := do
  let results ← reads.aggregate3 (v3Calls pool)
  let token0 ← resultAt results 0 "multicall v3 token0 failed" fetcher.decoder.address
  let token1 ← resultAt results 1 "multicall v3 token1 failed" fetcher.decoder.address
  let fee ← resultAt results 2 "multicall v3 fee failed" fetcher.decoder.fee
  let tickSpacing ← resultAt results 3 "multicall v3 tickSpacing failed" fetcher.decoder.tickSpacing
  let liquidity ← resultAt results 4 "multicall v3 liquidity failed" fetcher.decoder.liquidity
  let slot0 ← resultAt results 5 "multicall v3 slot0 failed" (fetcher.decoder.slot0 slipstream)
  return v3Values token0 token1 fee tickSpacing liquidity slot0

def fetchV3Sequential (pool : Address) (slipstream : Bool) :
    Except RpcError (Address × Address × V3PoolState) := do
  let token0 ← callAddress reads pool .token0
  let token1 ← callAddress reads pool .token1
  let fee ← fetcher.decoder.fee (← reads.ethCall pool .fee)
  let tickSpacing ← fetcher.decoder.tickSpacing (← reads.ethCall pool .tickSpacing)
  let liquidity ← fetcher.decoder.liquidity (← reads.ethCall pool .liquidity)
  let slot0 ← fetcher.decoder.slot0 slipstream (← reads.ethCall pool .slot0)
  return v3Values token0 token1 fee tickSpacing liquidity slot0

def buildV3Pool (spec : DiscoveredPool) (values : Address × Address × V3PoolState)
    (blockNumber : Option Nat) : PoolState :=
  fetcher.buildPool spec [values.1, values.2.1] (.uniswapV3Like values.2.2) blockNumber

def fetchV3 (spec : DiscoveredPool) (blockNumber : Option Nat) :
    Except RpcError (Option PoolState) := do
  let values ← (match fetcher.fetchV3Multicall reads spec.address (isSlipstreamV3Spec spec) with
    | .ok values => .ok values
    | .error _ => fetcher.fetchV3Sequential reads spec.address (isSlipstreamV3Spec spec))
  return some (fetcher.buildV3Pool spec values blockNumber)

def decodeV3BatchResult (raw : List (Option Bytes)) (slipstream : Bool) :
    Option (Address × Address × V3PoolState) := do
  let token0 ← decodeAt raw 0 fetcher.decoder.address
  let token1 ← decodeAt raw 1 fetcher.decoder.address
  let fee ← decodeAt raw 2 fetcher.decoder.fee
  let tickSpacing ← decodeAt raw 3 fetcher.decoder.tickSpacing
  let liquidity ← decodeAt raw 4 fetcher.decoder.liquidity
  let slot0 ← decodeAt raw 5 (fetcher.decoder.slot0 slipstream)
  return v3Values token0 token1 fee tickSpacing liquidity slot0

def v3PoolHasLiquidity (pool : PoolState) : Bool :=
  match pool.state with
  | .uniswapV3Like state => 0 < state.liquidity
  | _ => true

/-! ### Trader Joe liquidity book -/

def traderJoeLbCalls (pool : Address) : List (Address × PoolCall) :=
  [(pool, .tokenX), (pool, .tokenY), (pool, .binStep), (pool, .activeId), (pool, .lbReserves)]

/-- A result that is missing is no pool; one that does not decode is an error. The fetch of one
pool spells this out again. -/
def decodeTraderJoeLbBatchResult (spec : DiscoveredPool) (raw : List (Option Bytes))
    (blockNumber : Option Nat) : Except RpcError (Option PoolState) :=
  match raw[0]?.join, raw[1]?.join, raw[2]?.join, raw[3]?.join, raw[4]?.join with
  | some tokenXRaw, some tokenYRaw, some binStepRaw, some activeIdRaw, some reservesRaw => do
    let tokenX ← fetcher.decoder.address tokenXRaw
    let tokenY ← fetcher.decoder.address tokenYRaw
    let binStep ← fetcher.decoder.binStep binStepRaw
    let activeId ← fetcher.decoder.activeId activeIdRaw
    let reserves ← fetcher.decoder.lbReserves reservesRaw
    if reserves.1 = 0 ∨ reserves.2 = 0 then
      return none
    else
      return some (fetcher.buildPool spec [tokenX, tokenY]
        (.traderJoeLb
          { reserveX := reserves.1
            reserveY := reserves.2
            binStep
            activeId := min (u256ToU128Saturating activeId) u32Max }) blockNumber)
  | _, _, _, _, _ => return none

def fetchTraderJoeLb (spec : DiscoveredPool) (blockNumber : Option Nat) :
    Except RpcError (Option PoolState) := do
  let results ← reads.aggregate3 (traderJoeLbCalls spec.address)
  fetcher.decodeTraderJoeLbBatchResult spec results blockNumber

/-! ### Aerodrome V2 -/

def decodeAerodromeFeePpm (raw : Bytes) : Except RpcError Nat := do
  let feeBps ← fetcher.decoder.feeBps raw
  return min (saturatingMul u128Max (u256ToU128Saturating feeBps) 100) u32Max

def defaultAerodromeFeePpm (stable : Bool) : Nat :=
  if stable then 500 else 3000

def buildAerodromeV2Pool (spec : DiscoveredPool) (metadata : AerodromeV2Metadata) (feePpm : Nat)
    (blockNumber : Option Nat) : PoolState :=
  fetcher.buildPool spec [metadata.token0, metadata.token1]
    (.aerodromeV2Like
      { reserve0 := metadata.reserve0
        reserve1 := metadata.reserve1
        decimals0 := metadata.decimals0
        decimals1 := metadata.decimals1
        stable := metadata.stable
        feePpm }) blockNumber

/-- The fee that was returned, or the usual one of the kind of curve. -/
def feePpmOf (metadata : AerodromeV2Metadata) (fee : Option Bytes) : Nat :=
  (fee.bind fun raw => (fetcher.decodeAerodromeFeePpm raw).toOption).getD
    (defaultAerodromeFeePpm metadata.stable)

def fetchAerodromeV2 (spec : DiscoveredPool) (blockNumber : Option Nat) :
    Except RpcError (Option PoolState) := do
  let metadata ← fetcher.decoder.metadata (← reads.ethCall spec.address .metadata)
  let feePpm ← (match spec.factory with
    | some factory =>
      (reads.ethCall factory (.getFee spec.address metadata.stable)).map fun raw =>
        fetcher.feePpmOf metadata (some raw)
    | none => .ok (defaultAerodromeFeePpm metadata.stable))
  return some (fetcher.buildAerodromeV2Pool spec metadata feePpm blockNumber)

def aerodromeV2PoolHasLiquidity (pool : PoolState) : Bool :=
  match pool.state with
  | .aerodromeV2Like state => 0 < state.reserve0 && 0 < state.reserve1
  | _ => true

/-! ### Curve -/

/-- The coins of a pool with their balances, from a position on. A coin that cannot be read is the
end of the list; a balance that cannot be read fails the fetch. -/
def curveCoins (pool : Address) : Nat → Nat → Except RpcError (List (Address × Nat))
  | 0, _ => .ok []
  | remaining + 1, position =>
    match (reads.ethCall pool (.coins position)).bind fetcher.decoder.address with
    | .error _ => .ok []
    | .ok coin => do
      let balance ← fetcher.decoder.number
        (← reads.ethCall pool (.balances position))
      let rest ← curveCoins pool remaining (position + 1)
      return (coin, u256ToU128Saturating balance) :: rest

def fetchCurve (spec : DiscoveredPool) (blockNumber : Option Nat) :
    Except RpcError (Option PoolState) := do
  let amp ← fetcher.decoder.number (← reads.ethCall spec.address .amplification)
  let fee ← fetcher.decoder.number (← reads.ethCall spec.address .fee)
  let coins ← fetcher.curveCoins reads spec.address 8 0
  if coins.length < 2 then
    return none
  else
    return some (fetcher.buildPool spec (coins.map Prod.fst)
      (.curvePlain
        { balances := coins.map Prod.snd
          amp := u256ToU128Saturating amp
          fee := min (u256ToU128Saturating fee) u32Max
          supportsUnderlying := false }) blockNumber)

/-! ### Balancer -/

def balancerPoolIdOf (spec : DiscoveredPool) : Except RpcError B256 :=
  match spec.balancerPoolId with
  | some poolId => .ok poolId
  | none => (reads.ethCall spec.address .getPoolId).bind fetcher.decoder.poolId

/-- A pool that does not say whether it is paused is not. -/
def balancerPaused (pool : Address) : Bool :=
  (((reads.ethCall pool .getPausedState).bind fetcher.decoder.paused).toOption).getD false

def fetchBalancer (spec : DiscoveredPool) (blockNumber : Option Nat) :
    Except RpcError (Option PoolState) := do
  let poolId ← fetcher.balancerPoolIdOf reads spec
  match spec.vault.or (fetcher.dexVault.lookup spec.dexName).join with
  | none => return none
  | some vault =>
    let (tokens, balances) ← fetcher.decoder.poolTokens
      (← reads.ethCall vault (.getPoolTokens poolId))
    let weights ← fetcher.decoder.weights
      (← reads.ethCall spec.address .getNormalizedWeights)
    let swapFee ← fetcher.decoder.number
      (← reads.ethCall spec.address .getSwapFeePercentage)
    let paused := fetcher.balancerPaused reads spec.address
    return some
      { fetcher.buildPool spec tokens
          (.balancerWeighted
            { poolId
              balances := balances.map u256ToU128Saturating
              normalizedWeights1e18 := weights.map u256ToU128Saturating
              swapFeePpm := min (u256ToU128Saturating swapFee) u32Max }) blockNumber with
        vault := some vault
        admissionStatus := if paused then .quarantined else .allowed
        health := freshHealth (if paused then 8500 else 10000) paused
          (fetcher.clock spec.address) }

/-! ### Batches -/

/-- What a batch comes to, from the outcome for each of its specs: a pool, or why it is skipped. -/
def collectBatch (outcomes : List (DiscoveredPool × Except String PoolState)) :
    PoolFetchBatch where
  pools := outcomes.filterMap fun entry => entry.2.toOption
  skipped := outcomes.filterMap fun entry =>
    match entry.2 with
    | .ok _ => none
    | .error reason => some { spec := entry.1, reason }

/-- The outcome for a spec that is fetched on its own. -/
def fetchSingly (zeroLiquidity returnedNone failed : String) (hasLiquidity : PoolState → Bool)
    (fetch : DiscoveredPool → Except RpcError (Option PoolState)) (spec : DiscoveredPool) :
    DiscoveredPool × Except String PoolState :=
  match fetch spec with
  | .ok (some pool) => (spec, if hasLiquidity pool then .ok pool else .error zeroLiquidity)
  | .ok none => (spec, .error returnedNone)
  | .error _ => (spec, .error failed)

variable (readsAt : BatchMoment → PoolReads)

/-- The requests for a chunk. -/
def readsOfChunk (chunk : List PlacedSpec) : PoolReads :=
  readsAt (.chunk (chunk.map Prod.snd))

/-- The chunks of a batch. -/
def chunksOf (specs : List DiscoveredPool) : List (List PlacedSpec) :=
  specs.zipIdx.toChunks fetcher.chunkSize

/-- The batch of a kind whose pools are read with a fixed number of calls each: a multicall for
each chunk, and its specs one by one when that fails. -/
def fetchInChunks (stride : Nat) (calls : Address → List (Address × PoolCall))
    (decode : DiscoveredPool → List (Option Bytes) → Except RpcError (Except String PoolState))
    (singly : PoolReads → DiscoveredPool → DiscoveredPool × Except String PoolState)
    (specs : List DiscoveredPool) : Except RpcError PoolFetchBatch := do
  let outcomes ← (fetcher.chunksOf specs).mapM fun chunk =>
    match (readsOfChunk readsAt chunk).aggregate3
      (chunk.flatMap fun placed => calls placed.1.address) with
    | .ok results => (chunk.zip (results.toChunks stride)).mapM fun entry => do
      let outcome ← decode entry.1.1 entry.2
      return (entry.1.1, outcome)
    | .error _ => .ok (chunk.map fun placed => singly (readsAt (.spec placed.2)) placed.1)
  return collectBatch outcomes.flatten

variable (blockNumber : Option Nat)

def fetchV2Batch : List DiscoveredPool → Except RpcError PoolFetchBatch :=
  fetcher.fetchInChunks readsAt 3 v2Calls
    (fun spec raw =>
      match fetcher.decodeV2BatchResult raw with
      | none => .ok (.error "v2_decode_or_call_failed")
      | some values =>
        if values.2.2.1 = 0 ∨ values.2.2.2 = 0 then
          .ok (.error "v2_zero_liquidity")
        else
          .ok (.ok (fetcher.buildV2Pool spec values blockNumber)))
    (fun reads => fetchSingly "v2_zero_liquidity" "v2_fetch_returned_none" "v2_fetch_failed"
      v2PoolHasLiquidity fun spec => fetcher.fetchV2 reads spec blockNumber)

def fetchV3Batch : List DiscoveredPool → Except RpcError PoolFetchBatch :=
  fetcher.fetchInChunks readsAt 6 v3Calls
    (fun spec raw =>
      match fetcher.decodeV3BatchResult raw (isSlipstreamV3Spec spec) with
      | none => .ok (.error "v3_decode_or_call_failed")
      | some values =>
        if values.2.2.liquidity = 0 then
          .ok (.error "v3_zero_liquidity")
        else
          .ok (.ok (fetcher.buildV3Pool spec values blockNumber)))
    (fun reads => fetchSingly "v3_zero_liquidity" "v3_fetch_returned_none" "v3_fetch_failed"
      v3PoolHasLiquidity fun spec => fetcher.fetchV3 reads spec blockNumber)

/-- A result that does not decode fails the whole batch. -/
def fetchTraderJoeLbBatch : List DiscoveredPool → Except RpcError PoolFetchBatch :=
  fetcher.fetchInChunks readsAt 5 traderJoeLbCalls
    (fun spec raw =>
      (fetcher.decodeTraderJoeLbBatchResult spec raw blockNumber).map fun pool? =>
        match pool? with
        | some pool => .ok pool
        | none => .error "trader_joe_lb_decode_or_zero_liquidity")
    -- The source does not look at the liquidity of a pool that is fetched on its own.
    (fun reads => fetchSingly "" "trader_joe_lb_fetch_returned_none" "trader_joe_lb_fetch_failed"
      (fun _ => true) fun spec => fetcher.fetchTraderJoeLb reads spec blockNumber)

/-- The metadata of a pool that has liquidity, or why it is skipped. -/
def readMetadata (raw : Option Bytes) : Except String AerodromeV2Metadata :=
  match raw.bind fun bytes => (fetcher.decoder.metadata bytes).toOption with
  | none => .error "aerodrome_v2_decode_or_call_failed"
  | some metadata =>
    if metadata.reserve0 = 0 ∨ metadata.reserve1 = 0 then
      .error "aerodrome_v2_zero_liquidity"
    else
      .ok metadata

/-- The fee that is asked for, if the pool has a factory to ask. -/
def feeCall? (spec : DiscoveredPool) (metadata : AerodromeV2Metadata) :
    Option (Address × PoolCall) :=
  spec.factory.map fun factory => (factory, .getFee spec.address metadata.stable)

/-- The pools whose metadata could be read. -/
def readPools (outcomes : List (DiscoveredPool × Except String AerodromeV2Metadata)) :
    List (DiscoveredPool × AerodromeV2Metadata) :=
  outcomes.filterMap fun entry => entry.2.toOption.map fun metadata => (entry.1, metadata)

/-- The pools with their fees. A pool with a factory takes the next result. -/
def withFees : List (DiscoveredPool × AerodromeV2Metadata) → List (Option Bytes) → List PoolState
  | [], _ => []
  | (spec, metadata) :: rest, fees =>
    if spec.factory.isSome then
      fetcher.buildAerodromeV2Pool spec metadata (fetcher.feePpmOf metadata fees.head?.join)
        blockNumber :: withFees rest fees.tail
    else
      fetcher.buildAerodromeV2Pool spec metadata (defaultAerodromeFeePpm metadata.stable)
        blockNumber :: withFees rest fees

/-- What the metadata of a chunk come to. -/
def chunkMetadata (chunk : List PlacedSpec) (results : List (Option Bytes)) :
    List (DiscoveredPool × Except String AerodromeV2Metadata) :=
  (chunk.zip results).map fun entry => (entry.1.1, fetcher.readMetadata entry.2)

/-- The fees that are asked for, for the pools whose metadata could be read. -/
def feeCalls (outcomes : List (DiscoveredPool × Except String AerodromeV2Metadata)) :
    List (Address × PoolCall) :=
  (readPools outcomes).filterMap fun entry => feeCall? entry.1 entry.2

def fetchAerodromeV2Chunk (chunk : List PlacedSpec) : PoolFetchBatch :=
  match (readsOfChunk readsAt chunk).aggregate3
    (chunk.map fun placed => (placed.1.address, .metadata)) with
  | .error _ => collectBatch (chunk.map fun placed =>
      fetchSingly "aerodrome_v2_zero_liquidity" "aerodrome_v2_fetch_returned_none"
        "aerodrome_v2_fetch_failed" aerodromeV2PoolHasLiquidity
        (fun spec => fetcher.fetchAerodromeV2 (readsAt (.spec placed.2)) spec blockNumber) placed.1)
  | .ok results =>
    let outcomes := fetcher.chunkMetadata chunk results
    let fees :=
      if feeCalls outcomes = [] then []
      else ((readsOfChunk readsAt chunk).aggregate3 (feeCalls outcomes)).toOption.getD []
    { pools := fetcher.withFees blockNumber (readPools outcomes) fees
      skipped := outcomes.filterMap fun entry =>
        match entry.2 with
        | .ok _ => none
        | .error reason => some { spec := entry.1, reason } }

def fetchAerodromeV2Batch (specs : List DiscoveredPool) : Except RpcError PoolFetchBatch :=
  let batches := (fetcher.chunksOf specs).map (fetcher.fetchAerodromeV2Chunk readsAt blockNumber)
  .ok
    { pools := batches.flatMap PoolFetchBatch.pools
      skipped := batches.flatMap PoolFetchBatch.skipped }

/-- The kinds of pool that are fetched in batches. -/
inductive BatchKind
  | v2
  | aerodromeV2
  | v3
  | traderJoeLb
  deriving DecidableEq, Repr

def fetchBatch (kind : BatchKind) (specs : List DiscoveredPool) : Except RpcError PoolFetchBatch :=
  match kind with
  | .v2 => fetcher.fetchV2Batch readsAt blockNumber specs
  | .aerodromeV2 => fetcher.fetchAerodromeV2Batch readsAt blockNumber specs
  | .v3 => fetcher.fetchV3Batch readsAt blockNumber specs
  | .traderJoeLb => fetcher.fetchTraderJoeLbBatch readsAt blockNumber specs

/-- The fetch of one pool of a kind. -/
def fetchKind (kind : BatchKind) (spec : DiscoveredPool) : Except RpcError (Option PoolState) :=
  match kind with
  | .v2 => fetcher.fetchV2 reads spec blockNumber
  | .aerodromeV2 => fetcher.fetchAerodromeV2 reads spec blockNumber
  | .v3 => fetcher.fetchV3 reads spec blockNumber
  | .traderJoeLb => fetcher.fetchTraderJoeLb reads spec blockNumber

/-- One pool, whatever its kind. -/
def fetchPool (spec : DiscoveredPool) : Except RpcError (Option PoolState) :=
  match spec.ammKind with
  | .uniswapV2Like => fetcher.fetchV2 reads spec blockNumber
  | .aerodromeV2Like => fetcher.fetchAerodromeV2 reads spec blockNumber
  | .uniswapV3Like => fetcher.fetchV3 reads spec blockNumber
  | .traderJoeLb => fetcher.fetchTraderJoeLb reads spec blockNumber
  | .curvePlain => fetcher.fetchCurve reads spec blockNumber
  | .balancerWeighted => fetcher.fetchBalancer reads spec blockNumber

def maxRetriesForKind (kind : AmmKind) : Nat :=
  match kind with
  | .uniswapV2Like | .aerodromeV2Like | .uniswapV3Like | .traderJoeLb =>
    fetcher.maxRetries.getD 5
  | .curvePlain | .balancerWeighted => fetcher.otherMaxRetries.getD 0

def nonRetryablePoolFetchError (error : RpcError) : Bool :=
  let message := error.toList.map Char.toLower
  ["execution reverted", "abi decode", "decode"].any fun needle =>
    containsText message needle.toList

/-- The attempts from one on. Every attempt reads the chain anew. -/
def fetchAttempts (readsAt : Nat → PoolReads) (spec : DiscoveredPool) :
    Nat → Nat → Except RpcError (Option PoolState)
  | retries, attempt =>
    match fetcher.fetchPool (readsAt attempt) blockNumber spec with
    | .ok pool => .ok pool
    | .error err =>
      match retries with
      | 0 => .error err
      | remaining + 1 =>
        if nonRetryablePoolFetchError err then .error err
        else fetchAttempts readsAt spec remaining (attempt + 1)

def fetchPoolWithRetries (readsAt : Nat → PoolReads) (spec : DiscoveredPool) :
    Except RpcError (Option PoolState) :=
  fetcher.fetchAttempts blockNumber readsAt spec (fetcher.maxRetriesForKind spec.ammKind) 0

end PoolFetcher

end DexArbitrage
