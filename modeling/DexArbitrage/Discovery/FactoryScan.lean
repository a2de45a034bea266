/-
This file models the discovery of the pools of a factory that lists them by
index: `scan_v2_factory` and `scan_solidly_factory` of
`src/discovery/factory_scanner.rs`, and `aggregate3` of
`src/discovery/multicall.rs`. A scan asks for the number of entries, goes on
from the cursor of the cached scan, and records that number as its new cursor.
The entries are asked for in batches; when the batches fail the scan falls
back to one call for each entry.

The two factories differ in their calls and error texts, and the second one
also looks up the pools of the configured tokens. What the chain replies to the
calls of a scan is a parameter, and so are the decoders of the replies. No scan
makes the same call twice, so the replies are a function of the call.
-/

import Mathlib.Data.List.ReduceOption
import Mathlib.Data.List.Sort
import DexArbitrage.Discovery.Refresh
import DexArbitrage.Lib.Dedup

namespace DexArbitrage

inductive DiscoveryKind
  | factoryAllPairs
  | solidlyFactoryAllPools
  | slipstreamFactoryAllPools
  | poolCreatedLogs
  | traderJoeLbFactoryAllPairs
  | traderJoeLbConfiguredPairs
  | curveRegistry
  | balancerVaultLogs
  | staticList
  deriving DecidableEq, Repr

structure DexConfig where
  name : String
  ammKind : AmmKind
  discoveryKind : DiscoveryKind
  factory : Option Address
  registry : Option Address
  vault : Option Address
  quoter : Option Address
  deriving DecidableEq, Repr

structure ScanCursor where
  block : Nat
  count : Nat
  deriving DecidableEq, Repr

structure CachedDexScan where
  amm : AmmKind
  discovery : DiscoveryKind
  factory : Option Address
  registry : Option Address
  vault : Option Address
  quoter : Option Address
  latestBlock : Nat
  cursor : ScanCursor
  pools : List DiscoveredPool
  deriving DecidableEq, Repr

namespace CachedDexScan

def fromScan (dex : DexConfig) (latestBlock : Nat) (cursor : ScanCursor)
    (pools : List DiscoveredPool) : CachedDexScan where
  amm := dex.ammKind
  discovery := dex.discoveryKind
  factory := dex.factory
  registry := dex.registry
  vault := dex.vault
  quoter := dex.quoter
  latestBlock
  cursor
  pools

/-- The cached scan is of this configuration. -/
def sameDex (cached : CachedDexScan) (dex : DexConfig) : Bool :=
  cached.amm = dex.ammKind && cached.discovery = dex.discoveryKind &&
    cached.factory = dex.factory && cached.registry = dex.registry &&
    cached.vault = dex.vault && cached.quoter = dex.quoter

/-- The source spells `sameDex` out in both of its uses. -/
def isMatch (cached : CachedDexScan) (dex : DexConfig) (latest : Nat) : Bool :=
  cached.sameDex dex && decide (cached.latestBlock ≤ latest)

end CachedDexScan

def cachedPools (cached : Option CachedDexScan) (dex : DexConfig) : List DiscoveredPool :=
  ((cached.filter (·.sameDex dex)).map CachedDexScan.pools).getD []

/-- Priority pools first; of the pools with one name and address the first one stays. -/
def dedupPools (pools : List DiscoveredPool) : List DiscoveredPool :=
  dedupBy (fun pool => (pool.dexName, pool.address)) []
    (pools.insertionSort fun a b => b.priority ≤ a.priority)

/-- A pool of the configured factory. -/
def DexConfig.pool (dex : DexConfig) (priority : Bool) (address : Address) : DiscoveredPool where
  address
  dexName := dex.name
  ammKind := dex.ammKind
  factory := dex.factory
  registry := dex.registry
  vault := dex.vault
  quoter := dex.quoter
  balancerPoolId := none
  priority

/-! ### Calls and replies -/

inductive FactoryCall
  | allPairsLength
  | allPairs (index : Nat)
  | allPoolsLength
  | allPools (index : Nat)
  | getPool (tokenA tokenB : Address) (stable : Bool)
  deriving DecidableEq, Repr

/-- The result of one call of a batch. -/
structure MulticallResult where
  success : Bool
  returnData : Bytes
  deriving DecidableEq, Repr

/-- What the calls of a scan are answered with. A batch whose reply does not decode counts as
failed. -/
structure RpcReplies where
  ethCall : Address → FactoryCall → Except RpcError Bytes
  multicall : Address → List (Address × FactoryCall) → Except RpcError (List MulticallResult)

/-- The decoders of returned values. -/
structure ReturnDecoder where
  uint256 : Bytes → Except RpcError Nat
  address : Bytes → Except RpcError Address

/-- The environment variables of a scan, as they parse. -/
structure DiscoveryEnv where
  multicall3Address : Option Address
  disableMulticall : Bool
  multicallChunkSize : Option Nat
  refreshConfiguredSeeds : Bool

/-- An error is reported as what was being done. -/
def replyContext {Value : Type} (context : RpcError) (result : Except RpcError Value) :
    Except RpcError Value :=
  match result with
  | .ok value => .ok value
  | .error _ => .error context

/-- A number that does not parse as a `u64` counts as zero. -/
def u256ToU64 (value : Nat) : Nat :=
  if value ≤ u64Max then value else 0

def DiscoveryEnv.multicallTarget (env : DiscoveryEnv) : Option Address :=
  env.multicall3Address.or (some 0xcA11bde05977b3631167028862bE2a173976CA11)

def DiscoveryEnv.chunkSize (env : DiscoveryEnv) : Nat :=
  envUsize env.multicallChunkSize 500

section Scan

variable (env : DiscoveryEnv) (replies : RpcReplies) (decoder : ReturnDecoder)

/-- The data that each call of a batch returned, if it succeeded. -/
def aggregate3 (calls : List (Address × FactoryCall)) : Except RpcError (List (Option Bytes)) :=
  if calls = [] then
    .ok []
  else
    match env.multicallTarget with
    | none => .error "MULTICALL3_ADDRESS is not configured"
    | some multicall => do
      let results ← replies.multicall multicall calls
      return results.map fun result => if result.success then some result.returnData else none

/-- The calls of a factory and the texts of the errors about their replies. -/
structure FactoryApi where
  lengthCall : FactoryCall
  entryCall : Nat → FactoryCall
  lengthContext : RpcError
  entryContext : RpcError
  multicallContext : RpcError

def uniswapV2Api : FactoryApi where
  lengthCall := .allPairsLength
  entryCall := .allPairs
  lengthContext := "decode allPairsLength failed"
  entryContext := "decode allPairs failed"
  multicallContext := "decode multicall allPairs failed"

def solidlyApi : FactoryApi where
  lengthCall := .allPoolsLength
  entryCall := .allPools
  lengthContext := "decode allPoolsLength failed"
  entryContext := "decode allPools failed"
  multicallContext := "decode multicall allPools failed"

/-- The indices from one on, below the number of entries, in batches of the chunk size. A batch is
not empty, so the number of indices is fuel enough. -/
def indexBatches (chunkSize len : Nat) : Nat → Nat → List (List Nat)
  | 0, _ => []
  | fuel + 1, idx =>
    if idx < len then
      let stop := min (saturatingAdd u64Max idx chunkSize) len
      List.range' idx (stop - idx) :: indexBatches chunkSize len fuel stop
    else
      []

def batchCalls (api : FactoryApi) (factory : Address) (indices : List Nat) :
    List (Address × FactoryCall) :=
  indices.map fun index => (factory, api.entryCall index)

variable (api : FactoryApi) (factory : Address)

/-- The entries that a batch returned; those of failed calls are left out. -/
def scanBatch (indices : List Nat) : Except RpcError (List Address) := do
  let results ← aggregate3 env replies (batchCalls api factory indices)
  results.reduceOption.mapM fun raw => replyContext api.multicallContext (decoder.address raw)

def scanMulticall (start len : Nat) : Except RpcError (List Address) :=
  if env.disableMulticall then
    .error "multicall disabled"
  else do
    let parts ← (indexBatches env.chunkSize len (len - start) start).mapM
      (scanBatch env replies decoder api factory)
    return parts.flatten

def scanEntry (idx : Nat) : Except RpcError Address := do
  let raw ← replies.ethCall factory (api.entryCall idx)
  replyContext api.entryContext (decoder.address raw)

def scanSequential (start len : Nat) : Except RpcError (List Address) :=
  (List.range' start (len - start)).mapM (scanEntry replies decoder api factory)

def scanV2PairsMulticall (factory : Address) (start len : Nat) : Except RpcError (List Address) :=
  scanMulticall env replies decoder uniswapV2Api factory start len

def scanV2PairsSequential (factory : Address) (start len : Nat) :
    Except RpcError (List Address) :=
  scanSequential replies decoder uniswapV2Api factory start len

def scanSolidlyPoolsMulticall (factory : Address) (start len : Nat) :
    Except RpcError (List Address) :=
  scanMulticall env replies decoder solidlyApi factory start len

def scanSolidlyPoolsSequential (factory : Address) (start len : Nat) :
    Except RpcError (List Address) :=
  scanSequential replies decoder solidlyApi factory start len

/-- The first index that a scan asks for. -/
def scanStart (cached : Option CachedDexScan) (dex : DexConfig) (latest len : Nat) : Nat :=
  ((cached.filter (·.isMatch dex latest)).map fun cached => min cached.cursor.count len).getD 0

/-- The entries from the batches, or one by one when the batches fail. -/
def entriesWithFallback (multicall sequential : Except RpcError (List Address)) :
    Except RpcError (List Address) :=
  match multicall with
  | .ok entries => .ok entries
  | .error _ => sequential

/-- What the scans of both factories share: the entries are looked up in batches or one by one, and
the seeds are added to them. -/
def scanFactory (api : FactoryApi)
    (multicall sequential : Address → Nat → Nat → Except RpcError (List Address))
    (seeds : Except RpcError (List DiscoveredPool)) (dex : DexConfig)
    (cached : Option CachedDexScan) (latest : Nat) :
    Except RpcError (List DiscoveredPool × ScanCursor) :=
  match dex.factory with
  | none => .ok ([], { block := 0, count := 0 })
  | some factory => do
    let raw ← replies.ethCall factory api.lengthCall
    let ret ← replyContext api.lengthContext (decoder.uint256 raw)
    let len := u256ToU64 ret
    let matching := cached.filter (·.isMatch dex latest)
    match matching.filter fun cached => len ≤ cached.cursor.count with
    | some cached => return (cached.pools, { block := latest, count := len })
    | none =>
      let start := scanStart cached dex latest len
      let entries ← entriesWithFallback (multicall factory start len)
        (sequential factory start len)
      let seeded ← seeds
      return (dedupPools (cachedPools cached dex ++ entries.map (dex.pool false) ++ seeded),
        { block := latest, count := len })

def scanV2Factory (dex : DexConfig) (cached : Option CachedDexScan) (latest : Nat) :
    Except RpcError (List DiscoveredPool × ScanCursor) :=
  scanFactory replies decoder uniswapV2Api (scanV2PairsMulticall env replies decoder)
    (scanV2PairsSequential replies decoder) (.ok []) dex cached latest

/-! ### Pools of the configured tokens -/

/-- The pairs of tokens, each with both kinds of pools. -/
def seedCalls : List Address → List (Address × Address × Bool)
  | [] => []
  | tokenA :: tokens =>
    (tokens.flatMap fun tokenB => [(tokenA, tokenB, false), (tokenA, tokenB, true)]) ++
      seedCalls tokens

def seedPool (dex : DexConfig) (factory : Address) (call : Address × Address × Bool) :
    Except RpcError (Option DiscoveredPool) := do
  let raw ← replies.ethCall factory (.getPool call.1 call.2.1 call.2.2)
  let pool ← decoder.address raw
  return if pool = 0 then none else some (dex.pool true pool)

def seedConfiguredSolidlyPools (tokens : List Address) (dex : DexConfig) :
    Except RpcError (List DiscoveredPool) :=
  match dex.factory with
  | none => .ok []
  | some factory =>
    if tokens.length < 2 then
      .ok []
    else do
      let seeded ← (seedCalls tokens).mapM (seedPool replies decoder dex factory)
      return seeded.reduceOption

def shouldRefreshConfiguredSeeds (cached : Option CachedDexScan) : Bool :=
  cached.isNone || env.refreshConfiguredSeeds

def scanSolidlyFactory (tokens : List Address) (dex : DexConfig)
    (cached : Option CachedDexScan) (latest : Nat) :
    Except RpcError (List DiscoveredPool × ScanCursor) :=
  scanFactory replies decoder solidlyApi (scanSolidlyPoolsMulticall env replies decoder)
    (scanSolidlyPoolsSequential replies decoder)
    (if shouldRefreshConfiguredSeeds env cached then
      seedConfiguredSolidlyPools replies decoder tokens dex
    else
      .ok []) dex cached latest

end Scan

end DexArbitrage
