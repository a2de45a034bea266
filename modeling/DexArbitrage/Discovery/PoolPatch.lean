/-
This file models `apply_pool_patch` of `src/discovery/mod.rs`, the loop of
`refresh_pools` that applies the collected patches, and the mark that a replay
leaves on a pool. A patch of absolute values overwrites them, a Balancer patch
moves the stored balances by a delta, and a patch that does not fit the kind of
the pool's state does nothing.

`patchState` is the part that touches the AMM state; the rest of the pool only
has its block and its health updated.
-/

import DexArbitrage.Types

namespace DexArbitrage

def applyI128Delta (value : Nat) (delta : Int) : Nat :=
  if 0 ≤ delta then saturatingAdd u128Max value delta.toNat else value - delta.natAbs

/-- Change the balance of a token, if the pool has it. -/
def changeBalance (tokens : List Address) (token : Address) (change : Nat → Nat)
    (balances : List Nat × Bool) : List Nat × Bool :=
  match tokens.idxOf? token with
  | some idx => (balances.1.modify idx change, true)
  | none => balances

def swapBalances (tokens : List Address) (tokenIn tokenOut : Address) (amountIn amountOut : Nat)
    (balances : List Nat) : List Nat × Bool :=
  changeBalance tokens tokenOut (· - amountOut)
    (changeBalance tokens tokenIn (saturatingAdd u128Max · amountIn) (balances, false))

def deltaBalances (tokens changed : List Address) (deltas : List Int) (balances : List Nat) :
    List Nat × Bool :=
  (changed.zip deltas).foldl (fun balances (token, delta) =>
    changeBalance tokens token (applyI128Delta · delta) balances) (balances, false)

/-- The new AMM state, and whether the patch was applied. -/
def patchState (tokens : List Address) (state : PoolSpecificState) (patch : PoolStatePatch) :
    PoolSpecificState × Bool :=
  match patch, state with
  | .uniswapV2Sync _ reserve0 reserve1 _, .uniswapV2Like state =>
    (.uniswapV2Like { state with reserve0, reserve1 }, true)
  | .uniswapV2Sync _ reserve0 reserve1 _, .aerodromeV2Like state =>
    (.aerodromeV2Like { state with reserve0, reserve1 }, true)
  | .uniswapV3Swap _ sqrtPriceX96 liquidity tick _, .uniswapV3Like state =>
    (.uniswapV3Like { state with sqrtPriceX96, liquidity, tick }, true)
  | .balancerSwap _ tokenIn tokenOut amountIn amountOut _, .balancerWeighted state =>
    let (balances, changed) :=
      swapBalances tokens tokenIn tokenOut amountIn amountOut state.balances
    (.balancerWeighted { state with balances }, changed)
  | .balancerBalanceChanged _ changedTokens deltas _, .balancerWeighted state =>
    let (balances, changed) := deltaBalances tokens changedTokens deltas state.balances
    (.balancerWeighted { state with balances }, changed)
  | _, state => (state, false)

def patchedHealth (previous : PoolHealth) (blockNumber : Nat) (now : SystemTime) : PoolHealth :=
  { previous with
    stale := false
    lastSuccessfulRefreshBlock := blockNumber
    lastRefreshAt := now }

def applyPoolPatch (now : SystemTime) (pool : PoolState) (patch : PoolStatePatch)
    (fallbackBlockNumber : Option Nat) : PoolState × Bool :=
  let blockNumber := patch.blockNumber.or fallbackBlockNumber
  let (state, applied) := patchState pool.tokenAddresses pool.state patch
  if applied then
    ({ pool with
        state
        lastUpdatedBlock := blockNumber.getD pool.lastUpdatedBlock
        health := patchedHealth pool.health
          (blockNumber.getD pool.health.lastSuccessfulRefreshBlock) now }, true)
  else
    ({ pool with state }, false)

def replayedHealth (previous : PoolHealth) (blockNumber : Nat) (now : SystemTime) : PoolHealth :=
  { previous with
    stale := false
    lastSuccessfulRefreshBlock := blockNumber
    lastRefreshAt := now }

/-- One round of the loop of `mark_replayed_pools_current`. -/
def markReplayedPoolCurrent (pool : PoolState) (blockNumber : Nat) (now : SystemTime) :
    PoolState :=
  if pool.health.paused || pool.health.quarantined then
    pool
  else
    { pool with
      health := replayedHealth pool.health blockNumber now
      lastUpdatedBlock := max pool.lastUpdatedBlock blockNumber }

/-- One round of the patch loop of `refresh_pools`. -/
def applyPatch (blockNumber : Option Nat) (pools : HashMap Address PoolState)
    (patch : PoolStatePatch × SystemTime) : HashMap Address PoolState :=
  pools.update patch.1.poolId fun pool => (applyPoolPatch patch.2 pool patch.1 blockNumber).1

/-- The patch loop, with the clock reading of each round. -/
def applyPatches (blockNumber : Option Nat) (pools : HashMap Address PoolState)
    (patches : List (PoolStatePatch × SystemTime)) : HashMap Address PoolState :=
  patches.foldl (applyPatch blockNumber) pools

/-! ### What one patch does -/

@[simp] theorem applyPoolPatch_state (now : SystemTime) (pool : PoolState)
    (patch : PoolStatePatch) (fallbackBlockNumber : Option Nat) :
    (applyPoolPatch now pool patch fallbackBlockNumber).1.state =
      (patchState pool.tokenAddresses pool.state patch).1 := by
  unfold applyPoolPatch
  simp only
  split <;> rfl

@[simp] theorem applyPoolPatch_tokenAddresses (now : SystemTime) (pool : PoolState)
    (patch : PoolStatePatch) (fallbackBlockNumber : Option Nat) :
    (applyPoolPatch now pool patch fallbackBlockNumber).1.tokenAddresses =
      pool.tokenAddresses := by
  unfold applyPoolPatch
  simp only
  split <;> rfl

@[simp] theorem applyPoolPatch_poolId (now : SystemTime) (pool : PoolState)
    (patch : PoolStatePatch) (fallbackBlockNumber : Option Nat) :
    (applyPoolPatch now pool patch fallbackBlockNumber).1.poolId = pool.poolId := by
  unfold applyPoolPatch
  simp only
  split <;> rfl

/-- The AMM state after a list of patches, applied one by one. -/
def patchStates (tokens : List Address) (state : PoolSpecificState)
    (patches : List PoolStatePatch) : PoolSpecificState :=
  patches.foldl (fun state patch => (patchState tokens state patch).1) state

/-- A list of patches changes the AMM state of a pool by the patches that are its own. -/
theorem applyPatches_state (blockNumber : Option Nat) (poolId : Address)
    (patches : List (PoolStatePatch × SystemTime)) (pools : HashMap Address PoolState) :
    ((applyPatches blockNumber pools patches).lookup poolId).map PoolState.state =
      (pools.lookup poolId).map fun pool => patchStates pool.tokenAddresses pool.state
        ((patches.map Prod.fst).filter fun patch => patch.poolId = poolId) := by
  induction patches generalizing pools with
  | nil => rfl
  | cons patch rest inductionHypothesis =>
    have split : applyPatches blockNumber pools (patch :: rest) =
        applyPatches blockNumber (applyPatch blockNumber pools patch) rest := rfl
    have found : (applyPatch blockNumber pools patch).lookup poolId =
        if poolId = patch.1.poolId then
          (pools.lookup patch.1.poolId).map fun pool =>
            (applyPoolPatch patch.2 pool patch.1 blockNumber).1
        else
          pools.lookup poolId := HashMap.lookup_update pools patch.1.poolId poolId _
    rw [split, inductionHypothesis, found, List.map_cons]
    by_cases own : poolId = patch.1.poolId
    · subst own
      rw [if_pos rfl, List.filter_cons_of_pos (by simp), Option.map_map]
      refine congrArg (Option.map · _) (funext fun pool => ?_)
      simp only [Function.comp, applyPoolPatch_state, applyPoolPatch_tokenAddresses]
      rfl
    · have other : ¬ patch.1.poolId = poolId := fun same => own same.symm
      rw [if_neg own, List.filter_cons_of_neg (by simpa using other)]

end DexArbitrage
