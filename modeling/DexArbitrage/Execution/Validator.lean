/-
This file models `prepare` of `src/execution/validator.rs`: how a plan is
funded, priced in dollars and simulated before a transaction is made of it.

`pricePlan` is everything before the simulation, `prepare` the whole. What the
chain answers, the clock and the deriving of the operator's address come in as
`ValidatorReplies`; the ABI encoding of a call is a parameter.
-/

import DexArbitrage.Contracts.Profit
import DexArbitrage.Engine.Candidate
import DexArbitrage.Execution.CapitalSelector
import DexArbitrage.Execution.FailureCache
import DexArbitrage.Execution.Simulation

namespace DexArbitrage

def Chain.wrappedNativeSymbol : Chain → String
  | .base => "WETH"
  | .polygon => "WMATIC"
  | .avalanche => "WAVAX"
  | .sonic => "wS"
  | .gnosis => "WXDAI"
  | .celo => "CELO"
  | .linea => "WETH"
  | .bsc => "WBNB"

structure ValidatorSettings where
  chain : Chain
  executorAddress : Option Address
  simulateMethod : String
  minProfitRealizationBps : Nat
  minNetProfitUsdE8 : Nat

structure Validator where
  settings : ValidatorSettings
  gasTracker : GasTracker
  capitalSelector : CapitalSelector
  failureCache : FailureCache

/-- What one call of `prepare` hears from outside, and what it reads from the clocks, in the order
of the readings. -/
structure ValidatorReplies where
  balanceOf : Address → Address → Except RpcError Nat
  balanceNow : Instant
  balanceLater : Instant
  skipAt : Instant
  unixTime : Nat
  operatorAddress : Except RpcError Address
  estimateGas : Address → Address → Bytes → Except RpcError Nat
  gas : GasReplies
  simulation : SimulationReplies
  failedAt : Instant
  recordedAt : Instant

/-! ### Values in dollars -/

def nativeGasPricing (chain : Chain) (tokens : List TokenInfo) : Option (String × Nat × Nat) := do
  let symbol := chain.wrappedNativeSymbol
  let token ← tokens.find? fun token =>
    token.symbol.map Char.toLower = symbol.map Char.toLower
  let price ← token.manualPriceUsdE8
  return (token.symbol, price, token.decimals)

/-- `i128::try_from`. -/
def toI128 (value : Nat) : Option Int :=
  if (value : Int) ≤ i128Max then some value else none

structure UsdTerms where
  grossProfitUsdE8 : Int
  flashFeeUsdE8 : Int
  actualFlashFeeUsdE8 : Int
  flashLoanValueUsdE8 : Nat
  gasCostUsdE8 : Int

/-- The values of a plan in dollars; none when one of them cannot be told. -/
def usdTerms (chain : Chain) (tokens : List TokenInfo) (token : TokenInfo) (plan : ExactPlan)
    (gasCostWei : Nat) : Option UsdTerms := do
  let grossProfitAbs ← amountToUsdE8 plan.grossProfitRaw.natAbs token
  let grossProfitAbsUsdE8 ← toI128 grossProfitAbs
  let grossProfitUsdE8 :=
    if 0 ≤ plan.grossProfitRaw then grossProfitAbsUsdE8 else -grossProfitAbsUsdE8
  let flashFee ← amountToUsdE8 plan.flashFeeRaw token
  let flashFeeUsdE8 ← toI128 flashFee
  let actualFlashFee ← amountToUsdE8 plan.actualFlashFeeRaw token
  let actualFlashFeeUsdE8 ← toI128 actualFlashFee
  let flashLoanValueUsdE8 ← amountToUsdE8 plan.flashLoanAmount token
  let (_, nativePriceUsdE8, nativeDecimals) ← nativeGasPricing chain tokens
  let gasCost ← nativeGasToUsdE8 gasCostWei nativePriceUsdE8 nativeDecimals
  let gasCostUsdE8 ← toI128 gasCost
  return { grossProfitUsdE8, flashFeeUsdE8, actualFlashFeeUsdE8, flashLoanValueUsdE8, gasCostUsdE8 }

/-- The profit that is left, in 128 bits. -/
def UsdTerms.netProfitUsdE8 (terms : UsdTerms) : Int :=
  wrapI128 (wrapI128 (terms.grossProfitUsdE8 - terms.actualFlashFeeUsdE8) - terms.gasCostUsdE8)

def ExactPlan.withCapital (plan : ExactPlan) (choice : CapitalChoice) : ExactPlan :=
  { plan with
    capitalSource := choice.source
    flashLoanAmount := choice.loanAmountRaw
    flashFeeRaw := choice.flashFeeRaw
    actualFlashFeeRaw := choice.actualFlashFeeRaw
    netProfitBeforeGasRaw := choice.netProfitBeforeGasRaw }

def ExactPlan.withUsdTerms (plan : ExactPlan) (terms : UsdTerms) : ExactPlan :=
  { plan with
    grossProfitUsdE8 := terms.grossProfitUsdE8
    flashFeeUsdE8 := terms.flashFeeUsdE8
    actualFlashFeeUsdE8 := terms.actualFlashFeeUsdE8
    flashLoanValueUsdE8 := terms.flashLoanValueUsdE8
    gasCostUsdE8 := terms.gasCostUsdE8
    netProfitUsdE8 := terms.netProfitUsdE8 }

def adjustedStaticGasLimit (env : Environment) (base : Nat) (capitalSource : CapitalSource) : Nat :=
  let flashOverhead := env.envUsize "FLASH_LOAN_GAS_OVERHEAD" 180000
  let bufferBps := env.envUsize "STATIC_GAS_LIMIT_BUFFER_BPS" 2000
  let withOverhead :=
    match capitalSource with
    | .selfFunded => base
    | .flashLoan | .mixedFlashLoan => min u64Max (base + flashOverhead)
  min u64Max (withOverhead * min u64Max (10000 + bufferBps)) / 10000

/-! ### The validator -/

/-- A plan that is about to be simulated. -/
structure PricedPlan where
  plan : ExactPlan
  deadlineUnix : Nat
  executor : Address
  operator : Address
  gasEstimate : Nat
  gasQuote : GasQuote

namespace Validator

variable (texts : EnvironmentTexts) (env : Environment) (displayAddress : Address → String)
  (encodeCall : EntryPoint → Bytes) (tokens : List TokenInfo)

/-- The plan with the capital for it; none when there is none or the plan is to be skipped. -/
def fundPlan (validator : Validator) (replies : ValidatorReplies) (plan : ExactPlan)
    (token : TokenInfo) : Option ExactPlan × Validator :=
  let (choice, capitalSelector) := validator.capitalSelector.choose replies.balanceOf
    replies.balanceNow replies.balanceLater plan token
  let validator := { validator with capitalSelector }
  match choice with
  | none => (none, validator)
  | some choice =>
    let plan := plan.withCapital choice
    let (skipped, failureCache) :=
      validator.failureCache.skipReason displayAddress plan replies.skipAt
    let validator := { validator with failureCache }
    if skipped.isSome then
      (none, validator)
    else
      let contractMinProfitRaw := calculateContractMinProfitRaw plan.netProfitBeforeGasRaw
        validator.settings.minProfitRealizationBps
      if contractMinProfitRaw = 0 then
        (none, validator)
      else
        (some { plan with contractMinProfitRaw }, validator)

/-- The local limit, unless the chain is asked and needs more. -/
def gasLimitEstimate (replies : ValidatorReplies) (plan : ExactPlan) (executor operator : Address)
    (calldata : Bytes) : Nat :=
  let staticGasLimit := adjustedStaticGasLimit env plan.gasLimit plan.capitalSource
  if texts.envBool "USE_GAS_ESTIMATE_RPC" false then
    match replies.estimateGas executor operator calldata with
    | .ok remote => max remote staticGasLimit
    | .error _ => staticGasLimit
  else
    staticGasLimit

/-- The price of the gas for a funded plan, and what is left of its profit. -/
def priceGas (validator : Validator) (replies : ValidatorReplies) (plan : ExactPlan)
    (token : TokenInfo) : Except RpcError (Option PricedPlan) × Validator :=
  let deadlineUnix := replies.unixTime + 30
  let calldata := encodeCall (buildCalldata plan deadlineUnix)
  match validator.settings.executorAddress, replies.operatorAddress with
  | none, _ => (.error "executor address missing", validator)
  | some _, .error err => (.error err, validator)
  | some executor, .ok operator =>
    let gasEstimate := gasLimitEstimate texts env replies plan executor operator calldata
    let (quoted, gasTracker) :=
      validator.gasTracker.quote env replies.gas gasEstimate calldata.length
    let validator := { validator with gasTracker }
    match quoted with
    | .error err => (.error err, validator)
    | .ok gasQuote =>
      if gasTracker.aboveCeiling gasQuote then
        (.ok none, validator)
      else
        match usdTerms validator.settings.chain tokens token plan gasQuote.bufferedTotalCostWei with
        | none => (.ok none, validator)
        | some terms =>
          if terms.netProfitUsdE8 < wrapI128 validator.settings.minNetProfitUsdE8 then
            (.ok none, validator)
          else
            (.ok (some
              { plan := plan.withUsdTerms terms, deadlineUnix, executor, operator, gasEstimate,
                gasQuote }), validator)

/-- Everything before the simulation. The floor of the profit is computed a second time at its end,
from the same numbers. -/
def pricePlan (validator : Validator) (replies : ValidatorReplies) (plan : ExactPlan) :
    Except RpcError (Option PricedPlan) × Validator :=
  match tokens.find? fun token => token.address = plan.inputToken with
  | none => (.ok none, validator)
  | some token =>
    match amountToUsdE8 plan.inputAmount token with
    | none => (.ok none, validator)
    | some inputValueUsdE8 =>
      match validator.fundPlan displayAddress replies { plan with inputValueUsdE8 } token with
      | (none, validator) => (.ok none, validator)
      | (some plan, validator) =>
        validator.priceGas texts env encodeCall tokens replies plan token

def simulatePlan (validator : Validator) (replies : ValidatorReplies) (priced : PricedPlan) :
    SimulationOutcome :=
  simulate displayAddress validator.settings.simulateMethod replies.simulation priced.executor
    priced.operator (encodeCall (buildCalldata priced.plan priced.deadlineUnix)) priced.gasQuote

/-- The plan as it is submitted. -/
def executable (priced : PricedPlan) : ExecutablePlan where
  exact :=
    { priced.plan with
      gasLimit := priced.gasEstimate
      gasL2ExecutionCostWei := priced.gasQuote.l2ExecutionCostWei
      gasL1DataFeeWei := priced.gasQuote.l1DataFeeWei
      gasCostWei := priced.gasQuote.bufferedTotalCostWei }
  calldata := encodeCall (buildCalldata priced.plan priced.deadlineUnix)
  maxFeePerGas := priced.gasQuote.maxFeePerGas
  maxPriorityFeePerGas := priced.gasQuote.maxPriorityFeePerGas
  nonce := 0
  deadlineUnix := priced.deadlineUnix

def prepare (validator : Validator) (replies : ValidatorReplies) (plan : ExactPlan) :
    Except RpcError (Option ExecutablePlan) × Validator :=
  match validator.pricePlan texts env displayAddress encodeCall tokens replies plan with
  | (.error err, validator) => (.error err, validator)
  | (.ok none, validator) => (.ok none, validator)
  | (.ok (some priced), validator) =>
    let simulation := validator.simulatePlan displayAddress encodeCall replies priced
    if ! simulation.success then
      match simulation.reason with
      | some reason =>
        (.ok none,
          { validator with
            failureCache := validator.failureCache.record displayAddress priced.plan reason
              replies.failedAt replies.recordedAt })
      | none => (.ok none, validator)
    else
      (.ok (some (executable encodeCall priced)), validator)

end Validator

end DexArbitrage
