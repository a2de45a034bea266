/-
This file compares what a batch does to a pool with what the pool's logs say.
The logs of a list, decoded and applied one by one, give the state the pool has
on the chain. The batch keeps one trigger for each pool, the first, so of a
pool whose logs all decode it applies the first patch and drops the rest.
`batchFold_iff` states when that makes no difference: for absolute values, when
the last patch repeats the first; for balance deltas, when the later deltas
cancel out.
-/

import DexArbitrage.Discovery.PoolPatch
import DexArbitrage.Discovery.RefreshBatch

namespace DexArbitrage

/-! ### Lists of patches in closed form -/

/-- The reserves a patch sets. -/
def syncedReserves : PoolStatePatch → Option (Nat × Nat)
  | .uniswapV2Sync _ reserve0 reserve1 _ => some (reserve0, reserve1)
  | _ => none

/-- The price, the liquidity and the tick a patch sets. -/
def swappedPrice : PoolStatePatch → Option (Nat × Nat × Int)
  | .uniswapV3Swap _ sqrtPriceX96 liquidity tick _ => some (sqrtPriceX96, liquidity, tick)
  | _ => none

/-- What the last patch that sets a value sets it to; the given value when there is none. -/
def lastSet {Value : Type} (sets : PoolStatePatch → Option Value) (initial : Value)
    (patches : List PoolStatePatch) : Value :=
  (patches.filterMap sets).getLast?.getD initial

/-- The balances after one patch. -/
def balancesAfter (tokens : List Address) (balances : List Nat) : PoolStatePatch → List Nat
  | .balancerSwap _ tokenIn tokenOut amountIn amountOut _ =>
    (swapBalances tokens tokenIn tokenOut amountIn amountOut balances).1
  | .balancerBalanceChanged _ changed deltas _ =>
    (deltaBalances tokens changed deltas balances).1
  | _ => balances

theorem lastSet_cons {Value : Type} (sets : PoolStatePatch → Option Value) (initial : Value)
    (patch : PoolStatePatch) (rest : List PoolStatePatch) :
    lastSet sets initial (patch :: rest) = lastSet sets ((sets patch).getD initial) rest := by
  unfold lastSet
  cases set : sets patch with
  | none => rw [List.filterMap_cons_none set, Option.getD_none]
  | some value =>
    rw [List.filterMap_cons_some set, List.getLast?_cons, Option.getD_some, Option.getD_some]

theorem patchStates_cons (tokens : List Address) (state : PoolSpecificState)
    (patch : PoolStatePatch) (rest : List PoolStatePatch) :
    patchStates tokens state (patch :: rest) =
      patchStates tokens (patchState tokens state patch).1 rest := rfl

/-- Where a patch sets a value of the state or leaves the state alone, the last value that is set
stays. -/
theorem patchStates_lastSet {Value : Type} {sets : PoolStatePatch → Option Value}
    {withValue : Value → PoolSpecificState} {tokens : List Address}
    (patched : ∀ value patch, (patchState tokens (withValue value) patch).1 =
      withValue ((sets patch).getD value))
    (value : Value) (patches : List PoolStatePatch) :
    patchStates tokens (withValue value) patches = withValue (lastSet sets value patches) := by
  induction patches generalizing value with
  | nil => rfl
  | cons patch rest inductionHypothesis =>
    rw [patchStates_cons, patched, lastSet_cons]
    exact inductionHypothesis ((sets patch).getD value)

theorem patchStates_uniswapV2Like (tokens : List Address) (state : V2PoolState)
    (patches : List PoolStatePatch) :
    patchStates tokens (.uniswapV2Like state) patches =
      .uniswapV2Like
        { state with
          reserve0 := (lastSet syncedReserves (state.reserve0, state.reserve1) patches).1
          reserve1 := (lastSet syncedReserves (state.reserve0, state.reserve1) patches).2 } := by
  let withReserves (reserves : Nat × Nat) : PoolSpecificState :=
    .uniswapV2Like { state with reserve0 := reserves.1, reserve1 := reserves.2 }
  have patched : ∀ reserves patch, (patchState tokens (withReserves reserves) patch).1 =
      withReserves ((syncedReserves patch).getD reserves) := by
    intro reserves patch
    cases patch <;> rfl
  exact patchStates_lastSet patched (state.reserve0, state.reserve1) patches

theorem patchStates_aerodromeV2Like (tokens : List Address) (state : AerodromeV2PoolState)
    (patches : List PoolStatePatch) :
    patchStates tokens (.aerodromeV2Like state) patches =
      .aerodromeV2Like
        { state with
          reserve0 := (lastSet syncedReserves (state.reserve0, state.reserve1) patches).1
          reserve1 := (lastSet syncedReserves (state.reserve0, state.reserve1) patches).2 } := by
  let withReserves (reserves : Nat × Nat) : PoolSpecificState :=
    .aerodromeV2Like { state with reserve0 := reserves.1, reserve1 := reserves.2 }
  have patched : ∀ reserves patch, (patchState tokens (withReserves reserves) patch).1 =
      withReserves ((syncedReserves patch).getD reserves) := by
    intro reserves patch
    cases patch <;> rfl
  exact patchStates_lastSet patched (state.reserve0, state.reserve1) patches

theorem patchStates_uniswapV3Like (tokens : List Address) (state : V3PoolState)
    (patches : List PoolStatePatch) :
    patchStates tokens (.uniswapV3Like state) patches =
      let price := lastSet swappedPrice (state.sqrtPriceX96, state.liquidity, state.tick) patches
      .uniswapV3Like
        { state with sqrtPriceX96 := price.1, liquidity := price.2.1, tick := price.2.2 } := by
  let withPrice (price : Nat × Nat × Int) : PoolSpecificState :=
    .uniswapV3Like
      { state with sqrtPriceX96 := price.1, liquidity := price.2.1, tick := price.2.2 }
  have patched : ∀ price patch, (patchState tokens (withPrice price) patch).1 =
      withPrice ((swappedPrice patch).getD price) := by
    intro price patch
    cases patch <;> rfl
  exact patchStates_lastSet patched (state.sqrtPriceX96, state.liquidity, state.tick) patches

theorem patchStates_balancerWeighted (tokens : List Address) (state : BalancerPoolState)
    (patches : List PoolStatePatch) :
    patchStates tokens (.balancerWeighted state) patches =
      .balancerWeighted
        { state with balances := patches.foldl (balancesAfter tokens) state.balances } := by
  induction patches generalizing state with
  | nil => rfl
  | cons patch rest inductionHypothesis =>
    rw [patchStates_cons]
    cases patch <;> exact inductionHypothesis _

theorem patchStates_traderJoeLb (tokens : List Address) (state : TraderJoeLbPoolState)
    (patches : List PoolStatePatch) :
    patchStates tokens (.traderJoeLb state) patches = .traderJoeLb state := by
  induction patches with
  | nil => rfl
  | cons patch rest inductionHypothesis =>
    rw [patchStates_cons]
    cases patch <;> exact inductionHypothesis

theorem patchStates_curvePlain (tokens : List Address) (state : CurvePoolState)
    (patches : List PoolStatePatch) :
    patchStates tokens (.curvePlain state) patches = .curvePlain state := by
  induction patches with
  | nil => rfl
  | cons patch rest inductionHypothesis =>
    rw [patchStates_cons]
    cases patch <;> exact inductionHypothesis

/-! ### When dropping the later patches makes no difference -/

/-- The patches after the first one change nothing in total: the last reserves, or the last price,
are those the first patch sets, and the later balance changes cancel out. -/
def LaterPatchesHarmless (pool : PoolState) (patches : List PoolStatePatch) : Prop :=
  match pool.state with
  | .uniswapV2Like { reserve0, reserve1, .. } | .aerodromeV2Like { reserve0, reserve1, .. } =>
    lastSet syncedReserves (reserve0, reserve1) patches =
      lastSet syncedReserves (reserve0, reserve1) (patches.take 1)
  | .uniswapV3Like { sqrtPriceX96, liquidity, tick, .. } =>
    lastSet swappedPrice (sqrtPriceX96, liquidity, tick) patches =
      lastSet swappedPrice (sqrtPriceX96, liquidity, tick) (patches.take 1)
  | .balancerWeighted { balances, .. } =>
    let afterFirst := (patches.take 1).foldl (balancesAfter pool.tokenAddresses) balances
    (patches.drop 1).foldl (balancesAfter pool.tokenAddresses) afterFirst = afterFirst
  | .traderJoeLb _ | .curvePlain _ => True

theorem patchStates_take_one_iff (pool : PoolState) (patches : List PoolStatePatch) :
    patchStates pool.tokenAddresses pool.state (patches.take 1) =
        patchStates pool.tokenAddresses pool.state patches ↔
      LaterPatchesHarmless pool patches := by
  unfold LaterPatchesHarmless
  cases pool.state with
  | uniswapV2Like state =>
    rw [patchStates_uniswapV2Like, patchStates_uniswapV2Like]
    simp only [PoolSpecificState.uniswapV2Like.injEq, V2PoolState.mk.injEq, and_true]
    rw [← Prod.ext_iff]
    exact eq_comm
  | aerodromeV2Like state =>
    rw [patchStates_aerodromeV2Like, patchStates_aerodromeV2Like]
    simp only [PoolSpecificState.aerodromeV2Like.injEq, AerodromeV2PoolState.mk.injEq, and_true]
    rw [← Prod.ext_iff]
    exact eq_comm
  | uniswapV3Like state =>
    rw [patchStates_uniswapV3Like, patchStates_uniswapV3Like]
    simp only [PoolSpecificState.uniswapV3Like.injEq, V3PoolState.mk.injEq, and_true]
    rw [← Prod.ext_iff, ← Prod.ext_iff]
    exact eq_comm
  | traderJoeLb state =>
    rw [patchStates_traderJoeLb, patchStates_traderJoeLb]
    exact iff_of_true rfl trivial
  | curvePlain state =>
    rw [patchStates_curvePlain, patchStates_curvePlain]
    exact iff_of_true rfl trivial
  | balancerWeighted state =>
    have splitFold : patches.foldl (balancesAfter pool.tokenAddresses) state.balances =
        (patches.drop 1).foldl (balancesAfter pool.tokenAddresses)
          ((patches.take 1).foldl (balancesAfter pool.tokenAddresses) state.balances) := by
      rw [← List.foldl_append, List.take_append_drop]
    rw [patchStates_balancerWeighted, patchStates_balancerWeighted]
    simp only [PoolSpecificState.balancerWeighted.injEq, BalancerPoolState.mk.injEq, and_true,
      true_and]
    rw [splitFold]
    exact eq_comm

/-! ### The batch and the logs -/

section

variable {signatureHash : String → B256} {order : List RefreshTrigger → List RefreshTrigger}

/-- Of a pool whose logs all decode, the batch applies the first patch only. -/
theorem applyPatches_batch (shuffles : ∀ triggers, (order triggers).Perm triggers)
    {snapshot : GraphSnapshot} {logs : List RpcLog} {poolId : Address} {pool : PoolState}
    {patches : List PoolStatePatch} {stamped : List (PoolStatePatch × SystemTime)}
    (stored : snapshot.pools.lookup poolId = some pool)
    (decodes : decodedLogs signatureHash snapshot poolId logs = patches.map some)
    (collected : stamped.map Prod.fst =
      collectPatches (buildRefreshBatch signatureHash order snapshot logs))
    (blockNumber : Option Nat) :
    ((applyPatches blockNumber snapshot.pools stamped).lookup poolId).map PoolState.state =
      some (patchStates pool.tokenAddresses pool.state (patches.take 1)) := by
  rw [applyPatches_state, stored, collected, collectPatches_own shuffles decodes]
  rfl

/-- The batch leaves a pool whose logs all decode in the state its logs describe exactly when the
patches after the first one change nothing in total. -/
theorem batchFold_iff (shuffles : ∀ triggers, (order triggers).Perm triggers)
    (snapshot : GraphSnapshot) (logs : List RpcLog) (poolId : Address) (pool : PoolState)
    (patches : List PoolStatePatch) (stamped : List (PoolStatePatch × SystemTime))
    (blockNumber : Option Nat) (stored : snapshot.pools.lookup poolId = some pool)
    (decodes : decodedLogs signatureHash snapshot poolId logs = patches.map some)
    (collected : stamped.map Prod.fst =
      collectPatches (buildRefreshBatch signatureHash order snapshot logs)) :
    ((applyPatches blockNumber snapshot.pools stamped).lookup poolId).map PoolState.state =
        some (patchStates pool.tokenAddresses pool.state patches) ↔
      LaterPatchesHarmless pool patches := by
  rw [applyPatches_batch shuffles stored decodes collected, Option.some.injEq]
  exact patchStates_take_one_iff pool patches

end

/-! ### A pair with two syncs in one block -/

/-- The hash of the one signature that the logs below carry. -/
def syncSignatureHash (signature : String) : B256 :=
  if signature = "Sync(uint112,uint112)" then
    0x1c411e9a96e071241c2f21f7726b17ae89e3cab4c78be50e062b03a9fffbbad1
  else
    0

def syncedPair : PoolState where
  poolId := 10
  dexName := "uniswap_v2"
  kind := .uniswapV2Like
  tokenAddresses := [1, 2]
  factory := none
  registry := none
  vault := none
  quoter := none
  admissionStatus := .allowed
  health :=
    { stale := false, paused := false, quarantined := false, confidenceBps := 10000
      lastSuccessfulRefreshBlock := 100, lastRefreshAt := 0, recentRevertCount := 0 }
  state := .uniswapV2Like { reserve0 := 1000, reserve1 := 1000, feePpm := 3000 }
  lastUpdatedBlock := 100

def syncedSnapshot : GraphSnapshot :=
  GraphSnapshot.build
    { spot := fun _ _ _ => (0, 0), priceLimitCapacityIn := fun _ _ => none }
    1 none [] (HashMap.ofList [(syncedPair.poolId, syncedPair)])

def syncLog (reserve0 reserve1 : Nat) : RpcLog where
  address := syncedPair.poolId
  topics := [syncSignatureHash "Sync(uint112,uint112)"]
  data := toBigEndian 32 reserve0 ++ toBigEndian 32 reserve1
  blockNumber := some 101
  blockHash := none
  txHash := none

/-- The patches the engine collects from a batch of logs, each with a clock reading. -/
def syncPatches (logs : List RpcLog) : List (PoolStatePatch × SystemTime) :=
  (collectPatches (buildRefreshBatch syncSignatureHash id syncedSnapshot logs)).map (·, 0)

/-- A second sync that repeats the first one is dropped without harm. -/
theorem batchFold_repeatedSync :
    ((applyPatches none syncedSnapshot.pools
        (syncPatches [syncLog 1100 910, syncLog 1100 910])).lookup 10).map PoolState.state =
      some (patchStates [1, 2] syncedPair.state
        [.uniswapV2Sync 10 1100 910 (some 101), .uniswapV2Sync 10 1100 910 (some 101)]) := by
  have decodes : decodedLogs syncSignatureHash syncedSnapshot 10
      [syncLog 1100 910, syncLog 1100 910] =
        [.uniswapV2Sync 10 1100 910 (some 101), .uniswapV2Sync 10 1100 910 (some 101)].map
          some := by
    decide +kernel
  have collected : (syncPatches [syncLog 1100 910, syncLog 1100 910]).map Prod.fst =
      collectPatches (buildRefreshBatch syncSignatureHash id syncedSnapshot
        [syncLog 1100 910, syncLog 1100 910]) := by
    decide +kernel
  exact (batchFold_iff (fun _ => List.Perm.refl _) syncedSnapshot _ 10 syncedPair _ _ none
    (by decide +kernel) decodes collected).mpr rfl

/-- Of two syncs in one batch the first one wins. -/
theorem not_batchFold_laterSync :
    decodedLogs syncSignatureHash syncedSnapshot 10 [syncLog 1100 910, syncLog 1200 834] =
        [.uniswapV2Sync 10 1100 910 (some 101), .uniswapV2Sync 10 1200 834 (some 101)].map
          some ∧
      ((applyPatches none syncedSnapshot.pools
          (syncPatches [syncLog 1100 910, syncLog 1200 834])).lookup 10).map PoolState.state ≠
        some (patchStates [1, 2] syncedPair.state
          [.uniswapV2Sync 10 1100 910 (some 101), .uniswapV2Sync 10 1200 834 (some 101)]) := by
  decide +kernel

end DexArbitrage
