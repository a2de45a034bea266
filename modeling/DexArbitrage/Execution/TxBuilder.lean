/-
This file models `src/execution/tx_builder.rs`: the calldata the bot sends to
the executor for a plan. Calldata is kept as the entry point and the parameters
it encodes; the byte strings that the bot lays out by itself, the extra data of
a split, are modelled byte by byte.
-/

import DexArbitrage.Contracts.Executor

namespace DexArbitrage

/-- `U256::saturating_from`. -/
def saturatingU256 (value : Nat) : Nat :=
  min value (2 ^ 256 - 1)

theorem saturatingU256_of_lt {value : Nat} (fits : value < 2 ^ 256) :
    saturatingU256 value = value :=
  Nat.min_eq_left (Nat.le_sub_one_of_lt fits)

/-- The big-endian two's complement of a 128-bit signed number. -/
def int128Bytes (value : Int) : Bytes :=
  toBigEndian 16 (value % 2 ^ 128).toNat

def mapAdapter : AdapterType → ExecutorAdapterType
  | .uniswapV2Like => .uniswapV2Like
  | .uniswapV3Like => .uniswapV3Like
  | .traderJoeLb => .traderJoeLb
  | .curvePlain => .curvePlain
  | .balancerWeighted => .balancerWeighted
  | .aerodromeV2Like => .aerodromeV2Like

def encodeExtra : SplitExtra → Bytes
  | .none => []
  | .v2 feePpm => List.replicate 28 0 ++ toBigEndian 4 feePpm
  | .aerodromeV2 stable feePpm =>
    List.replicate 31 0 ++ [if stable then 1 else 0] ++ List.replicate 28 0 ++
      toBigEndian 4 feePpm
  | .v3 _ sqrtPriceLimitX96 => toBigEndian 32 sqrtPriceLimitX96
  | .traderJoeLb => []
  | .curve i j underlying => int128Bytes i ++ int128Bytes j ++ [if underlying then 1 else 0]
  | .balancer poolId => toBigEndian 32 poolId.toNat

/-- The split the contract receives for a split of the plan. -/
def encodeSplit (split : SplitPlan) : Split where
  adapterType := mapAdapter split.adapterType
  target := split.poolId
  tokenIn := split.tokenIn
  tokenOut := split.tokenOut
  amountIn := saturatingU256 split.amountIn
  minAmountOut := saturatingU256 split.minAmountOut
  extraData := encodeExtra split.extra

/-- The call for a plan. The source wraps it in a result but has no failing path. -/
def buildCalldata (plan : ExactPlan) (deadlineUnix : Nat) : EntryPoint :=
  let execution : ExecutionParams :=
    { inputToken := plan.inputToken
      inputAmount := saturatingU256 plan.inputAmount
      hops := plan.hops.map fun hop => { splits := hop.splits.map encodeSplit }
      minProfit := saturatingU256 plan.contractMinProfitRaw
      deadline := saturatingU256 deadlineUnix
      snapshotId := plan.snapshotId }
  match plan.capitalSource with
  | .selfFunded => .executeSelfFunded execution
  | .flashLoan | .mixedFlashLoan =>
    .executeFlashLoan
      { loanAsset := plan.inputToken
        loanAmount := saturatingU256 plan.flashLoanAmount
        execution }

end DexArbitrage
