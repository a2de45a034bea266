/-
This file models `src/graph/model.rs`: the graph snapshot and how it is built
from the tokens and the pools. Token positions are indices into the token list,
and an edge is referred to by its source index and its position among the edges
that leave it.

Rates are computed in floating point and only rank and prune edges, so they are
a parameter, `FloatRates`; the liquidity figures are integers and are modelled.
-/

import DexArbitrage.Types

namespace DexArbitrage

structure LiquidityInfo where
  estimatedUsdE8 : Nat
  safeCapacityIn : Nat
  deriving DecidableEq, Repr

structure EdgeRef where
  fromIdx : Nat
  edgeIdx : Nat
  deriving DecidableEq, Repr

structure Edge where
  fromIdx : Nat
  toIdx : Nat
  poolId : Address
  ammKind : AmmKind
  feePpm : Nat
  weightLogQ32 : Int
  spotRateQ128 : Nat
  liquidity : LiquidityInfo
  poolHealth : PoolHealth
  dexName : String
  deriving DecidableEq, Repr

/-- The floating-point parts of the spot rates: the rate and its logarithm, and the input that
moves a concentrated pool to its price limit. -/
structure FloatRates where
  spot : PoolSpecificState → Nat → Nat → Nat × Int
  priceLimitCapacityIn : V3PoolState → Bool → Option Nat

/-- The smaller of two reserves, as the 64-bit figure that is shown as dollars. -/
def reserveUsdE8 (reserveIn reserveOut : Nat) : Nat :=
  min (min reserveOut reserveIn % 2 ^ 64 * 100) (2 ^ 64 - 1)

def liquidityInfo (rates : FloatRates) (state : PoolSpecificState) (i j : Nat) : LiquidityInfo :=
  match state with
  | .uniswapV2Like state =>
    let (reserveIn, reserveOut) :=
      if i = 0 then (state.reserve0, state.reserve1) else (state.reserve1, state.reserve0)
    { estimatedUsdE8 := reserveUsdE8 reserveIn reserveOut, safeCapacityIn := reserveIn / 10 }
  | .aerodromeV2Like state =>
    let (reserveIn, reserveOut) :=
      if i = 0 then (state.reserve0, state.reserve1) else (state.reserve1, state.reserve0)
    { estimatedUsdE8 := reserveUsdE8 reserveIn reserveOut
      safeCapacityIn := reserveIn / if state.stable then 5 else 10 }
  | .uniswapV3Like state =>
    { estimatedUsdE8 := min (min state.liquidity (2 ^ 64 - 1) * 10) (2 ^ 64 - 1)
      safeCapacityIn :=
        match rates.priceLimitCapacityIn state (i = 0) with
        | some capacity => min capacity (state.liquidity / 50)
        | none => state.liquidity / 50 }
  | .traderJoeLb state =>
    let (reserveIn, reserveOut) :=
      if i = 0 then (state.reserveX, state.reserveY) else (state.reserveY, state.reserveX)
    { estimatedUsdE8 := reserveUsdE8 reserveIn reserveOut, safeCapacityIn := reserveIn / 10 }
  | .curvePlain state =>
    let balanceIn := state.balances.getD i 0
    { estimatedUsdE8 := reserveUsdE8 (state.balances.getD j 0) balanceIn
      safeCapacityIn := balanceIn / 8 }
  | .balancerWeighted state =>
    { estimatedUsdE8 := min (state.balances.min?.getD 0) (2 ^ 64 - 1) * 100 % 2 ^ 64
      safeCapacityIn := state.balances.getD i 0 / 10 }

structure GraphSnapshot where
  snapshotId : Nat
  blockRef : Option BlockRef
  tokens : List TokenInfo
  tokenToIndex : HashMap Address Nat
  stableTokenIndices : List Nat
  cycleAnchorIndices : List Nat
  adjacency : List (List Edge)
  reverseAdj : List (List EdgeRef)
  pools : HashMap Address PoolState
  poolToEdges : HashMap Address (List EdgeRef)
  pairToEdges : HashMap (Nat × Nat) (List EdgeRef)

/-- Every pool of the map is filed under its own id. -/
def PoolsFiled (pools : HashMap Address PoolState) : Prop :=
  ∀ poolId pool, pools.lookup poolId = some pool → pool.poolId = poolId

/-! ### The edges of a pool -/

def poolFee : PoolSpecificState → Nat
  | .uniswapV2Like state => state.feePpm
  | .aerodromeV2Like state => state.feePpm
  | .uniswapV3Like state => state.fee
  | .traderJoeLb _ => 0
  | .curvePlain state => state.fee
  | .balancerWeighted state => state.swapFeePpm

/-- The edge from the `i`-th to the `j`-th token of a pool. -/
def poolEdge (rates : FloatRates) (pool : PoolState) (fromIdx toIdx i j : Nat) : Edge where
  fromIdx := fromIdx
  toIdx := toIdx
  poolId := pool.poolId
  ammKind := pool.kind
  feePpm := poolFee pool.state
  weightLogQ32 := (rates.spot pool.state i j).2
  spotRateQ128 := (rates.spot pool.state i j).1
  liquidity := liquidityInfo rates pool.state i j
  poolHealth := pool.health
  dexName := pool.dexName

def buildTwoTokenEdges (rates : FloatRates) (pool : PoolState)
    (tokenToIndex : HashMap Address Nat) : List Edge :=
  match pool.tokenAddresses with
  | [first, second] =>
    match tokenToIndex.lookup first, tokenToIndex.lookup second with
    | some a, some b => [poolEdge rates pool a b 0 1, poolEdge rates pool b a 1 0]
    | _, _ => []
  | _ => []

def buildNTokenEdges (rates : FloatRates) (pool : PoolState)
    (tokenToIndex : HashMap Address Nat) : List Edge :=
  let positions := List.range pool.tokenAddresses.length
  positions.flatMap fun i => positions.filterMap fun j =>
    if i = j then
      none
    else do
      let fromIdx ← tokenToIndex.lookup (pool.tokenAddresses.getD i 0)
      let toIdx ← tokenToIndex.lookup (pool.tokenAddresses.getD j 0)
      return poolEdge rates pool fromIdx toIdx i j

def buildEdgesForPool (rates : FloatRates) (pool : PoolState)
    (tokenToIndex : HashMap Address Nat) : List Edge :=
  match pool.state with
  | .uniswapV2Like _ | .aerodromeV2Like _ | .uniswapV3Like _ | .traderJoeLb _ =>
    buildTwoTokenEdges rates pool tokenToIndex
  | .curvePlain _ | .balancerWeighted _ => buildNTokenEdges rates pool tokenToIndex

/-! ### Building a snapshot -/

/-- The four edge tables while they are filled. -/
structure EdgeTables where
  adjacency : List (List Edge)
  reverseAdj : List (List EdgeRef)
  poolToEdges : HashMap Address (List EdgeRef)
  pairToEdges : HashMap (Nat × Nat) (List EdgeRef)

def EdgeTables.addEdge (poolId : Address) (tables : EdgeTables) (edge : Edge) : EdgeTables :=
  let edgeRef : EdgeRef :=
    { fromIdx := edge.fromIdx, edgeIdx := (tables.adjacency.getD edge.fromIdx []).length }
  { adjacency := tables.adjacency.modify edge.fromIdx (· ++ [edge])
    reverseAdj := tables.reverseAdj.modify edge.toIdx (· ++ [edgeRef])
    poolToEdges := tables.poolToEdges.push poolId edgeRef
    pairToEdges := tables.pairToEdges.push (edge.fromIdx, edge.toIdx) edgeRef }

def EdgeTables.addPool (rates : FloatRates) (tokenToIndex : HashMap Address Nat)
    (tables : EdgeTables) (pool : PoolState) : EdgeTables :=
  (buildEdgesForPool rates pool tokenToIndex).foldl (EdgeTables.addEdge pool.poolId) tables

/-- The positions of the tokens that satisfy a test. -/
def tokenPositions (test : TokenInfo → Bool) (tokens : List TokenInfo) : List Nat :=
  tokens.zipIdx.filterMap fun (token, idx) => if test token then some idx else none

namespace GraphSnapshot

def build (rates : FloatRates) (snapshotId : Nat) (blockRef : Option BlockRef)
    (tokens : List TokenInfo) (pools : HashMap Address PoolState) : GraphSnapshot :=
  let tokenToIndex : HashMap Address Nat :=
    HashMap.ofList (tokens.zipIdx.map fun (token, idx) => (token.address, idx))
  let tables := pools.values.foldl (EdgeTables.addPool rates tokenToIndex)
    { adjacency := List.replicate tokens.length []
      reverseAdj := List.replicate tokens.length []
      poolToEdges := ∅
      pairToEdges := ∅ }
  { snapshotId, blockRef, tokens, tokenToIndex
    stableTokenIndices := tokenPositions TokenInfo.isStable tokens
    cycleAnchorIndices := tokenPositions TokenInfo.isCycleAnchor tokens
    adjacency := tables.adjacency
    reverseAdj := tables.reverseAdj
    pools
    poolToEdges := tables.poolToEdges
    pairToEdges := tables.pairToEdges }

def tokenIndex (snapshot : GraphSnapshot) (address : Address) : Option Nat :=
  snapshot.tokenToIndex.lookup address

def pairEdges (snapshot : GraphSnapshot) (tokenIn tokenOut : Address) : List EdgeRef :=
  match snapshot.tokenIndex tokenIn, snapshot.tokenIndex tokenOut with
  | some fi, some ti => (snapshot.pairToEdges.lookup (fi, ti)).getD []
  | _, _ => []

def edge (snapshot : GraphSnapshot) (edgeRef : EdgeRef) : Option Edge :=
  (snapshot.adjacency[edgeRef.fromIdx]?).bind fun edges => edges[edgeRef.edgeIdx]?

def pool (snapshot : GraphSnapshot) (poolId : Address) : Option PoolState :=
  snapshot.pools.lookup poolId

end GraphSnapshot

/-- Which tokens can be reached from an anchor and which can reach one. -/
structure DistanceCache where
  snapshotId : Nat
  reachableFromAnchor : List Bool
  reachableToAnchor : List Bool

end DexArbitrage
