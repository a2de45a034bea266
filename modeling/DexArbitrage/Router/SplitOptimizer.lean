/-
This file models `src/router/split_optimizer.rs` and `split_decision.rs`: how
the input of one hop is split over the pools of its pair. The edges of the pair
are ranked and cut to a scan limit; the input then goes to one pool, or over
constant-product pools as the water-filling solver allocates it, or slice by
slice to the pool with the best marginal quote.

The exact quoter is a parameter, `Quoter`: its quotes may fail and change its
state, and quotes that are made concurrently finish in some order. The results
at the end hold for whatever is kept and ensured by every quote.
-/

import DexArbitrage.Lib.Program
import DexArbitrage.Router.V2Split

namespace DexArbitrage

/-- The exact quoter as the optimizer sees it. The order in which concurrent quotes finish may
depend on its state. -/
structure Quoter (State : Type) where
  quotePool : PoolState → Address → Address → Nat → Program State RpcError Nat
  finishOrder : State → Nat → List Nat
  finishOrder_perm : ∀ state count, (finishOrder state count).Perm (List.range count)

/-- Quotes may finish in the order in which they are made. -/
theorem perm_inOrder (count : Nat) : (List.range count).Perm (List.range count) :=
  List.Perm.refl _

/-- The environment variables that the optimizer reads, when they are set to a number. -/
structure OptimizerEnv where
  routePairEdgeScanLimit : Option Nat
  splitMinOutputBps : Option Nat
  v3SqrtPriceLimitBps : Option Nat

structure SplitOptimizer where
  maxParallelPools : Nat
  pairEdgeScanLimit : Nat
  splitMinOutputBps : Nat
  v3SqrtPriceLimitBps : Nat
  maxParallelPools_range : 1 ≤ maxParallelPools ∧ maxParallelPools ≤ 32
  maxParallelPools_le : maxParallelPools ≤ pairEdgeScanLimit
  splitMinOutputBps_range : 1 ≤ splitMinOutputBps ∧ splitMinOutputBps ≤ 10000
  v3SqrtPriceLimitBps_lt : v3SqrtPriceLimitBps < 10000

def envPriceLimitBps (value : Option Nat) : Nat :=
  (value.filter (· < 10000)).getD 200

theorem envPriceLimitBps_lt (value : Option Nat) : envPriceLimitBps value < 10000 := by
  unfold envPriceLimitBps
  cases kept : value.filter (· < 10000) with
  | none => exact (by decide : 200 < 10000)
  | some bps => exact of_decide_eq_true (Option.filter_eq_some_iff.mp kept).2

/-- Clamping the default scan limit panics when more than 32 parallel pools are configured. -/
def SplitOptimizer.new (maxSplitParallelPools : Nat) (env : OptimizerEnv) :
    Option SplitOptimizer :=
  let maxParallelPools := max maxSplitParallelPools 1
  if range : maxParallelPools ≤ 32 then
    let scanDefault := min (max (maxParallelPools * 4) maxParallelPools) 32
    some {
      maxParallelPools
      pairEdgeScanLimit := max (envUsize env.routePairEdgeScanLimit scanDefault) maxParallelPools
      splitMinOutputBps := max 1 (min (envUsize env.splitMinOutputBps 9950) 10000)
      v3SqrtPriceLimitBps := envPriceLimitBps env.v3SqrtPriceLimitBps
      maxParallelPools_range := ⟨Nat.le_max_right _ _, range⟩
      maxParallelPools_le := Nat.le_max_right _ _
      splitMinOutputBps_range := ⟨Nat.le_max_left _ _, by omega⟩
      v3SqrtPriceLimitBps_lt := envPriceLimitBps_lt _ }
  else
    none

/-! ### Ranking the edges of a pair -/

def compareEdgeRefs (snapshot : GraphSnapshot) (compareEdges : Edge → Edge → Ordering)
    (a b : EdgeRef) : Ordering :=
  match snapshot.edge a, snapshot.edge b with
  | some a, some b => compareEdges a b
  | some _, none => .lt
  | none, some _ => .gt
  | none, none => .eq

/-- By rate, then the larger capacity first, then by pool. -/
def compareEdgeRefsForPrice (snapshot : GraphSnapshot) : EdgeRef → EdgeRef → Ordering :=
  compareEdgeRefs snapshot fun a b =>
    (compare a.weightLogQ32 b.weightLogQ32).then <|
      (compare b.liquidity.safeCapacityIn a.liquidity.safeCapacityIn).then <|
        compare a.poolId.toNat b.poolId.toNat

/-- Edges that can take the whole input first, then the larger capacity, then by rate and by
pool. -/
def compareEdgeRefsForCapacity (snapshot : GraphSnapshot) (targetInput : Nat) :
    EdgeRef → EdgeRef → Ordering :=
  let fits (edge : Edge) : Bool := 0 < targetInput && targetInput ≤ edge.liquidity.safeCapacityIn
  compareEdgeRefs snapshot fun a b =>
    (compare (fits b) (fits a)).then <|
      (compare b.liquidity.safeCapacityIn a.liquidity.safeCapacityIn).then <|
        (compare a.weightLogQ32 b.weightLogQ32).then <|
          compare a.poolId.toNat b.poolId.toNat

def sortEdgeRefs (order : EdgeRef → EdgeRef → Ordering) (edgeRefs : List EdgeRef) :
    List EdgeRef :=
  edgeRefs.insertionSort fun a b => (order a b).isLE

def pushUnique (maxEdges : Nat) : List EdgeRef → List EdgeRef → List EdgeRef
  | selected, [] => selected
  | selected, edgeRef :: edgeRefs =>
    if maxEdges ≤ selected.length then
      selected
    else if edgeRef ∈ selected then
      pushUnique maxEdges selected edgeRefs
    else
      pushUnique maxEdges (selected ++ [edgeRef]) edgeRefs

def rankedPairEdges (snapshot : GraphSnapshot) (edgeRefs : List EdgeRef) (maxEdges : Nat)
    (targetInput : Nat) : List EdgeRef :=
  let maxEdges := max maxEdges 1
  let byPrice := sortEdgeRefs (compareEdgeRefsForPrice snapshot) edgeRefs
  let priceSlots := (maxEdges + 1) / 2
  let selected := pushUnique maxEdges [] (byPrice.take priceSlots)
  let byCapacity := sortEdgeRefs (compareEdgeRefsForCapacity snapshot targetInput) edgeRefs
  let selected := pushUnique maxEdges selected byCapacity
  sortEdgeRefs (compareEdgeRefsForPrice snapshot) selected

def shouldSplit (parallelPoolCount totalInput minSlice : Nat) : Bool :=
  1 < parallelPoolCount && saturatingMul u128Max minSlice 2 ≤ totalInput

/-! ### From allocations to split plans -/

/-- The share of an edge in the input of a hop, and the quote for it, which is zero when there is
none yet. -/
structure Allocation where
  edgeRef : EdgeRef
  amount : Nat
  quoted : Nat
  deriving DecidableEq, Repr

def Allocation.extend (allocation : Allocation) (slice totalQuote : Nat) : Allocation where
  edgeRef := allocation.edgeRef
  amount := saturatingAdd u128Max allocation.amount slice
  quoted := totalQuote

def unquotedAllocations (edgeRefs : List EdgeRef) (amounts : List Nat) : List Allocation :=
  (edgeRefs.zip amounts).map fun (edgeRef, amount) => { edgeRef, amount, quoted := 0 }

namespace V3Limits

def minSqrtRatioPlusOne : Nat := 4295128740

def maxSqrtRatioMinusOne : Nat := 1461446703485210103287273052203988822378723970341

/-- The price limit of a swap: the current price moved by some basis points. -/
def sqrtPriceLimitX96 (bps current : Nat) (zeroForOne : Bool) : Nat :=
  if bps = 0 ∨ current = 0 then
    if zeroForOne then minSqrtRatioPlusOne else maxSqrtRatioMinusOne
  else
    let numerator := if zeroForOne then 10000 - bps else 10000 + bps
    let raw := saturatingMul (2 ^ 256 - 1) current numerator / 10000
    if zeroForOne then max raw minSqrtRatioPlusOne else min raw maxSqrtRatioMinusOne

end V3Limits

section Optimizer

variable {State : Type} (optimizer : SplitOptimizer) (solver : WaterFill) (quoter : Quoter State)
  (snapshot : GraphSnapshot) (tokenIn tokenOut : Address)

def splitExtra (pool : PoolState) : Option SplitExtra :=
  match pool.state with
  | .uniswapV2Like state => some (.v2 state.feePpm)
  | .aerodromeV2Like state => some (.aerodromeV2 state.stable state.feePpm)
  | .uniswapV3Like state =>
    let zeroForOne : Bool := pool.tokenAddresses.head? = some tokenIn
    some (.v3 zeroForOne
      (V3Limits.sqrtPriceLimitX96 optimizer.v3SqrtPriceLimitBps state.sqrtPriceX96 zeroForOne))
  | .traderJoeLb _ => some .traderJoeLb
  | .curvePlain state => do
    let i ← pool.tokenAddresses.idxOf? tokenIn
    let j ← pool.tokenAddresses.idxOf? tokenOut
    return .curve i j state.supportsUnderlying
  | .balancerWeighted state => some (.balancer state.poolId)

def minAmountOut (pool : PoolState) (expected : Nat) : Nat :=
  match pool.state with
  | .traderJoeLb _ => 0
  | _ => saturatingMul u128Max expected optimizer.splitMinOutputBps / 10000

def splitPlan (pool : PoolState) (amount expected : Nat) : Option SplitPlan :=
  if expected = 0 then
    none
  else
    (splitExtra optimizer tokenIn tokenOut pool).map fun extra =>
      { dexName := pool.dexName
        poolId := pool.poolId
        adapterType := AdapterType.ofAmmKind pool.kind
        tokenIn
        tokenOut
        amountIn := amount
        minAmountOut := minAmountOut optimizer pool expected
        expectedAmountOut := expected
        extra }

/-- The quote that the allocation carries, or a new one. -/
def expectedOutput (pool : PoolState) (allocation : Allocation) : Program State RpcError Nat :=
  if 0 < allocation.quoted then
    pure allocation.quoted
  else
    quoter.quotePool pool tokenIn tokenOut allocation.amount

def materializeAllocation (allocation : Allocation) : Program State RpcError (Option SplitPlan) :=
  if allocation.amount = 0 then
    pure none
  else
    match snapshot.edge allocation.edgeRef with
    | none => pure none
    | some edge =>
      match snapshot.pool edge.poolId with
      | none => pure none
      | some pool => do
        let expected ← expectedOutput quoter tokenIn tokenOut pool allocation
        return splitPlan optimizer tokenIn tokenOut pool allocation.amount expected

/-- The larger expected output first, then by pool. -/
def compareSplitPlans (a b : SplitPlan) : Ordering :=
  (compare b.expectedAmountOut a.expectedAmountOut).then (compare a.poolId.toNat b.poolId.toNat)

def totalExpected (plans : List SplitPlan) : Nat :=
  plans.foldl (fun total plan => saturatingAdd u128Max total plan.expectedAmountOut) 0

def materializeAllocationsWithQuotes (allocations : List Allocation) :
    Program State RpcError (List SplitPlan × Nat) := do
  let materialized ← allocations.mapM
    (materializeAllocation optimizer quoter snapshot tokenIn tokenOut)
  let plans := materialized.reduceOption
  return (plans.insertionSort fun a b => (compareSplitPlans a b).isLE, totalExpected plans)

/-! ### Quoting the pools of a pair -/

structure QuoteJob (Label : Type) where
  label : Label
  poolId : Address
  amount : Nat

def quoteJob {Label : Type} (job : QuoteJob Label) : Program State RpcError (Label × Nat) :=
  match snapshot.pool job.poolId with
  | none => pure (job.label, 0)
  | some pool => do
    let quote ← quoter.quotePool pool tokenIn tokenOut job.amount
    return (job.label, quote)

/-- Run the jobs concurrently: the results are in the order in which the quotes finish. -/
def quoteJobs {Label : Type} (jobs : List (QuoteJob Label)) :
    Program State RpcError (List (Label × Nat)) := do
  let order := quoter.finishOrder (← get) jobs.length
  (order.filterMap fun position => jobs[position]?).mapM
    (quoteJob quoter snapshot tokenIn tokenOut)

/-- The edge has a capacity and the amount exceeds it. -/
def Edge.exceedsCapacity (edge : Edge) (amount : Nat) : Bool :=
  0 < edge.liquidity.safeCapacityIn && edge.liquidity.safeCapacityIn < amount

def singleBestJobs (totalIn : Nat) (edgeRefs : List EdgeRef) : List (QuoteJob EdgeRef) :=
  edgeRefs.filterMap fun edgeRef => do
    let edge ← snapshot.edge edgeRef
    if edge.exceedsCapacity totalIn then
      none
    else
      return { label := edgeRef, poolId := edge.poolId, amount := totalIn }

def betterQuote (best : Option (EdgeRef × Nat)) (quoted : EdgeRef × Nat) :
    Option (EdgeRef × Nat) :=
  if 0 < quoted.2 && best.all (·.2 < quoted.2) then some quoted else best

/-- The first of the largest positive quotes. -/
def bestQuote (quotes : List (EdgeRef × Nat)) : Option (EdgeRef × Nat) :=
  quotes.foldl betterQuote none

def singleBest (totalIn : Nat) (edgeRefs : List EdgeRef) :
    Program State RpcError (List SplitPlan × Nat) := do
  let quotes ← quoteJobs quoter snapshot tokenIn tokenOut
    (singleBestJobs snapshot totalIn edgeRefs)
  match bestQuote quotes with
  | some (edgeRef, out) =>
    materializeAllocationsWithQuotes optimizer quoter snapshot tokenIn tokenOut
      [{ edgeRef, amount := totalIn, quoted := out }]
  | none => pure ([], 0)

/-! ### Slice by slice -/

structure GreedyState where
  allocations : List Allocation
  assigned : Nat
  activeAllocations : Nat

def greedyJobs (slice : Nat) (state : GreedyState) : List (QuoteJob Nat) :=
  state.allocations.zipIdx.filterMap fun (allocation, idx) =>
    if allocation.amount = 0 ∧ optimizer.maxParallelPools ≤ state.activeAllocations then
      none
    else do
      let edge ← snapshot.edge allocation.edgeRef
      let quoteAmount := saturatingAdd u128Max allocation.amount slice
      if edge.exceedsCapacity quoteAmount then
        none
      else
        return { label := idx, poolId := edge.poolId, amount := quoteAmount }

/-- A quote for the allocation at a position, and what it adds to the quote before the slice. -/
structure RankedQuote where
  idx : Nat
  marginal : Nat
  totalQuote : Nat

def rankedQuote (state : GreedyState) (quoted : Nat × Nat) : RankedQuote where
  idx := quoted.1
  marginal := quoted.2 - (state.allocations[quoted.1]?.map Allocation.quoted).getD 0
  totalQuote := quoted.2

def bestMarginal (state : GreedyState) (quotes : List (Nat × Nat)) : Option RankedQuote :=
  ((quotes.map (rankedQuote state)).insertionSort fun a b => b.marginal ≤ a.marginal).head?

/-- Give the slice to the winner. -/
def assignSlice (slice : Nat) (winner : RankedQuote) (state : GreedyState) : GreedyState where
  allocations := state.allocations.modify winner.idx (·.extend slice winner.totalQuote)
  assigned := saturatingAdd u128Max state.assigned slice
  activeAllocations :=
    if (state.allocations[winner.idx]?.map Allocation.amount).getD 0 = 0 then
      state.activeAllocations + 1
    else
      state.activeAllocations

/-- Each round assigns something or ends the loop, so the total input is fuel enough. -/
def greedyLoop (totalIn minSlice : Nat) :
    Nat → GreedyState → Program State RpcError GreedyState
  | 0, state => pure state
  | fuel + 1, state =>
    if state.assigned < totalIn then do
      let slice := min (totalIn - state.assigned) minSlice
      let quotes ← quoteJobs quoter snapshot tokenIn tokenOut
        (greedyJobs optimizer snapshot slice state)
      match bestMarginal state quotes with
      | some winner =>
        if winner.marginal = 0 then
          pure state
        else
          greedyLoop totalIn minSlice fuel (assignSlice slice winner state)
      | none => pure state
    else
      pure state

def greedySplit (totalIn minSlice : Nat) (edgeRefs : List EdgeRef) :
    Program State RpcError (List SplitPlan × Nat) := do
  let unassigned : GreedyState :=
    { allocations := edgeRefs.map fun edgeRef => { edgeRef, amount := 0, quoted := 0 }
      assigned := 0
      activeAllocations := 0 }
  let final ← greedyLoop optimizer quoter snapshot tokenIn tokenOut totalIn minSlice totalIn
    unassigned
  materializeAllocationsWithQuotes optimizer quoter snapshot tokenIn tokenOut final.allocations

def v2Split (totalIn : Nat) (edgeRefs : List EdgeRef) :
    Program State RpcError (List SplitPlan × Nat) :=
  match optimalV2Allocations solver snapshot edgeRefs tokenIn tokenOut totalIn with
  | some amounts =>
    materializeAllocationsWithQuotes optimizer quoter snapshot tokenIn tokenOut
      (unquotedAllocations edgeRefs amounts)
  | none => pure ([], 0)

def optimizePair (totalIn : Nat) : Program State RpcError (List SplitPlan × Nat) := do
  let edgeRefs := rankedPairEdges snapshot (snapshot.pairEdges tokenIn tokenOut)
    optimizer.pairEdgeScanLimit totalIn
  let minSlice := max (totalIn / 8) 1
  if edgeRefs = [] then
    pure ([], 0)
  else if ! shouldSplit edgeRefs.length totalIn minSlice then
    singleBest optimizer quoter snapshot tokenIn tokenOut totalIn edgeRefs
  else
    let materialized ← v2Split optimizer solver quoter snapshot tokenIn tokenOut totalIn
      (edgeRefs.take optimizer.maxParallelPools)
    if materialized.1 = [] then
      greedySplit optimizer quoter snapshot tokenIn tokenOut totalIn minSlice edgeRefs
    else
      pure materialized

end Optimizer

end DexArbitrage
