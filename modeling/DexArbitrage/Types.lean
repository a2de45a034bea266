/-
This file is the data model of the bot: the pool states of the supported AMM
families, the patches that logs are decoded to, block references, and the plan
records handed from the router to the executor.

Amounts, prices and block numbers are natural numbers; where the source works
in `u128` and saturates, the operation of the model saturates. Fields that no
modelled function reads (token symbols of a pool, its extras table) are left
out.
-/

import Mathlib.Algebra.Order.Ring.Int
import DexArbitrage.Lib.HashMap
import DexArbitrage.Lib.Saturating

namespace DexArbitrage

abbrev Address := BitVec 160

abbrev B256 := BitVec 256

instance : LawfulBEq Address := inferInstance

instance : LawfulBEq B256 := inferInstance

abbrev Bytes := List UInt8

/-- A reading of the system clock. -/
abbrev SystemTime := Nat

/-- A reading of the monotonic clock. -/
abbrev Instant := Nat

/-- The text of an error that reached the caller. -/
abbrev RpcError := String

/-- The largest `u64`. -/
def u64Max : Nat := 2 ^ 64 - 1

/-- The largest `u128`. -/
def u128Max : Nat := 2 ^ 128 - 1

/-- The largest `U256`. -/
def u256Max : Nat := 2 ^ 256 - 1

/-- The largest `usize`. -/
def usizeMax : Nat := 2 ^ 64 - 1

/-- The largest `i64`, which is one less than the magnitude of the smallest one. -/
def i64Max : Nat := 2 ^ 63 - 1

def i64Min : Int := -2 ^ 63

/-- A number as a release build wraps it into an `i128`. -/
def wrapI128 (value : Int) : Int :=
  value.bmod (2 ^ 128)

/-- The number is an `i128`. -/
def FitsI128 (value : Int) : Prop :=
  -2 ^ 127 ≤ value ∧ value < 2 ^ 127

instance (value : Int) : Decidable (FitsI128 value) :=
  inferInstanceAs (Decidable (-2 ^ 127 ≤ value ∧ value < 2 ^ 127))

theorem wrapI128_of_fits {value : Int} (fits : FitsI128 value) : wrapI128 value = value := by
  obtain ⟨atLeast, below⟩ := fits
  exact Int.bmod_eq_of_le (by omega) (by omega)

theorem wrapI128_sub (output input : Int) :
    wrapI128 (wrapI128 output - wrapI128 input) = wrapI128 (output - input) :=
  (Int.sub_bmod _ _ _).symm

/-- An environment variable that is read as a number; zero does not count as set. -/
def envUsize (value : Option Nat) (fallback : Nat) : Nat :=
  (value.filter (0 < ·)).getD fallback

inductive AmmKind
  | uniswapV2Like
  | aerodromeV2Like
  | uniswapV3Like
  | traderJoeLb
  | curvePlain
  | balancerWeighted
  deriving DecidableEq, Repr

inductive FinalityLevel
  | pending
  | sealed
  | finalized
  deriving DecidableEq, Repr

inductive PoolAdmissionStatus
  | allowed
  | quarantined
  | excluded
  deriving DecidableEq, Repr

inductive CapitalSource
  | selfFunded
  | flashLoan
  | mixedFlashLoan
  deriving DecidableEq, Repr, Inhabited

inductive AdapterType
  | uniswapV2Like
  | uniswapV3Like
  | traderJoeLb
  | curvePlain
  | balancerWeighted
  | aerodromeV2Like
  deriving DecidableEq, Repr

def AdapterType.ofAmmKind : AmmKind → AdapterType
  | .uniswapV2Like => .uniswapV2Like
  | .aerodromeV2Like => .aerodromeV2Like
  | .uniswapV3Like => .uniswapV3Like
  | .traderJoeLb => .traderJoeLb
  | .curvePlain => .curvePlain
  | .balancerWeighted => .balancerWeighted

structure PoolHealth where
  stale : Bool
  paused : Bool
  quarantined : Bool
  confidenceBps : Nat
  lastSuccessfulRefreshBlock : Nat
  lastRefreshAt : SystemTime
  recentRevertCount : Nat
  deriving DecidableEq, Repr

structure V2PoolState where
  reserve0 : Nat
  reserve1 : Nat
  feePpm : Nat
  deriving DecidableEq, Repr

structure AerodromeV2PoolState where
  reserve0 : Nat
  reserve1 : Nat
  decimals0 : Nat
  decimals1 : Nat
  stable : Bool
  feePpm : Nat
  deriving DecidableEq, Repr

structure V3PoolState where
  sqrtPriceX96 : Nat
  liquidity : Nat
  tick : Int
  fee : Nat
  tickSpacing : Int
  deriving DecidableEq, Repr

structure TraderJoeLbPoolState where
  reserveX : Nat
  reserveY : Nat
  binStep : Nat
  activeId : Nat
  deriving DecidableEq, Repr

structure CurvePoolState where
  balances : List Nat
  amp : Nat
  fee : Nat
  supportsUnderlying : Bool
  deriving DecidableEq, Repr

structure BalancerPoolState where
  poolId : B256
  balances : List Nat
  normalizedWeights1e18 : List Nat
  swapFeePpm : Nat
  deriving DecidableEq, Repr

inductive PoolSpecificState
  | uniswapV2Like (state : V2PoolState)
  | aerodromeV2Like (state : AerodromeV2PoolState)
  | uniswapV3Like (state : V3PoolState)
  | traderJoeLb (state : TraderJoeLbPoolState)
  | curvePlain (state : CurvePoolState)
  | balancerWeighted (state : BalancerPoolState)
  deriving DecidableEq, Repr

structure PoolState where
  poolId : Address
  dexName : String
  kind : AmmKind
  tokenAddresses : List Address
  factory : Option Address
  registry : Option Address
  vault : Option Address
  quoter : Option Address
  admissionStatus : PoolAdmissionStatus
  health : PoolHealth
  state : PoolSpecificState
  lastUpdatedBlock : Nat
  deriving DecidableEq, Repr

structure BlockRef where
  number : Nat
  hash : B256
  parentHash : B256
  finality : FinalityLevel
  deriving DecidableEq, Repr

structure TokenBehavior where
  feeOnTransfer : Bool := false
  rebasing : Bool := false
  erc4626 : Bool := false
  callbackToken : Bool := false
  rateOraclized : Bool := false
  deriving DecidableEq, Repr

def TokenBehavior.isExotic (behavior : TokenBehavior) : Bool :=
  behavior.feeOnTransfer || behavior.rebasing || behavior.erc4626 || behavior.callbackToken ||
    behavior.rateOraclized

structure TokenInfo where
  address : Address
  symbol : String
  decimals : Nat
  isStable : Bool
  isCycleAnchor : Bool
  flashLoanEnabled : Bool
  allowSelfFunded : Bool
  behavior : TokenBehavior := {}
  manualPriceUsdE8 : Option Nat
  maxPositionUsdE8 : Option Nat
  maxFlashLoanUsdE8 : Option Nat
  deriving DecidableEq, Repr

inductive PoolStatePatch
  | uniswapV2Sync (poolId : Address) (reserve0 reserve1 : Nat) (blockNumber : Option Nat)
  | uniswapV3Swap (poolId : Address) (sqrtPriceX96 liquidity : Nat) (tick : Int)
      (blockNumber : Option Nat)
  | balancerSwap (poolId tokenIn tokenOut : Address) (amountIn amountOut : Nat)
      (blockNumber : Option Nat)
  | balancerBalanceChanged (poolId : Address) (tokens : List Address) (deltas : List Int)
      (blockNumber : Option Nat)
  deriving DecidableEq, Repr

namespace PoolStatePatch

def poolId : PoolStatePatch → Address
  | uniswapV2Sync poolId .. => poolId
  | uniswapV3Swap poolId .. => poolId
  | balancerSwap poolId .. => poolId
  | balancerBalanceChanged poolId .. => poolId

def blockNumber : PoolStatePatch → Option Nat
  | uniswapV2Sync _ _ _ blockNumber => blockNumber
  | uniswapV3Swap _ _ _ _ blockNumber => blockNumber
  | balancerSwap _ _ _ _ _ blockNumber => blockNumber
  | balancerBalanceChanged _ _ _ blockNumber => blockNumber

end PoolStatePatch

structure RefreshTrigger where
  poolId : Option Address
  fullRefresh : Bool
  source : String
  patch : Option PoolStatePatch
  deriving DecidableEq, Repr

structure RefreshBatch where
  triggers : List RefreshTrigger
  deriving DecidableEq, Repr

structure CandidateHop where
  fromToken : Address
  toToken : Address
  poolId : Address
  ammKind : AmmKind
  dexName : String
  deriving DecidableEq, Repr

structure CandidatePath where
  snapshotId : Nat
  startToken : Address
  startSymbol : String
  screeningScoreQ32 : Int
  routeCapacityUsdE8 : Nat
  routeQualityBps : Nat
  cycleKey : String
  path : List CandidateHop
  deriving DecidableEq, Repr

inductive SplitExtra
  | none
  | v2 (feePpm : Nat)
  | aerodromeV2 (stable : Bool) (feePpm : Nat)
  | v3 (zeroForOne : Bool) (sqrtPriceLimitX96 : Nat)
  | traderJoeLb
  | curve (i j : Int) (underlying : Bool)
  | balancer (poolId : B256)
  deriving DecidableEq, Repr

structure SplitPlan where
  dexName : String
  poolId : Address
  adapterType : AdapterType
  tokenIn : Address
  tokenOut : Address
  amountIn : Nat
  minAmountOut : Nat
  expectedAmountOut : Nat
  extra : SplitExtra
  deriving DecidableEq, Repr

structure HopPlan where
  tokenIn : Address
  tokenOut : Address
  totalIn : Nat
  totalOut : Nat
  splits : List SplitPlan
  deriving DecidableEq, Repr

structure ExactPlan where
  snapshotId : Nat
  inputToken : Address
  outputToken : Address
  inputAmount : Nat
  outputAmount : Nat
  grossProfitRaw : Int
  flashPremiumPpm : Nat
  flashFeeRaw : Nat
  netProfitBeforeGasRaw : Int
  contractMinProfitRaw : Nat
  inputValueUsdE8 : Nat
  flashLoanValueUsdE8 : Nat
  grossProfitUsdE8 : Int
  flashFeeUsdE8 : Int
  actualFlashFeeUsdE8 : Int
  gasCostUsdE8 : Int
  netProfitUsdE8 : Int
  expectedProfit : Int
  gasLimit : Nat
  gasL2ExecutionCostWei : Nat
  gasL1DataFeeWei : Nat
  gasCostWei : Nat
  capitalSource : CapitalSource
  flashLoanAmount : Nat
  actualFlashFeeRaw : Nat
  hops : List HopPlan
  deriving DecidableEq, Repr, Inhabited

end DexArbitrage
