/-
This file models `src/risk/limits.rs` and `src/risk/depeg_guard.rs`: the checks
a validated plan has to pass before it is submitted, and the counters the
engine moves around each submission.

`openTxCount` is an atomic counter whose decrement is clamped at zero, which
natural-number subtraction does; the daily table is keyed by the day number, and
a release build wraps its sums in 128 bits.
-/

import DexArbitrage.Types

namespace DexArbitrage

structure ExecutablePlan where
  exact : ExactPlan
  calldata : Bytes
  maxFeePerGas : Nat
  maxPriorityFeePerGas : Nat
  nonce : Nat
  deadlineUnix : Nat
  deriving DecidableEq, Repr, Inhabited

structure RiskManager where
  maxPositionUsdE8 : Nat
  maxFlashLoanUsdE8 : Nat
  minProfitUsdE8 : Nat
  dailyLossLimitUsdE8 : Nat
  maxConcurrentTx : Nat
  openTxCount : Nat
  dailyPnlUsdE8 : HashMap Nat Int

namespace RiskManager

/-- The error of the first limit the plan violates. -/
def preTradeCheck (risk : RiskManager) (plan : ExecutablePlan) (dayKey : Nat) :
    Except String Unit := do
  if risk.maxPositionUsdE8 < plan.exact.inputValueUsdE8 then
    throw s!"input value {plan.exact.inputValueUsdE8} USD e8 exceeds max position {risk.maxPositionUsdE8} USD e8"
  if plan.exact.capitalSource = .flashLoan ∨ plan.exact.capitalSource = .mixedFlashLoan then
    if risk.maxFlashLoanUsdE8 < plan.exact.flashLoanValueUsdE8 then
      throw s!"flash loan value {plan.exact.flashLoanValueUsdE8} USD e8 exceeds max flash loan {risk.maxFlashLoanUsdE8} USD e8"
  if plan.exact.netProfitUsdE8 < 0 ∨ plan.exact.netProfitUsdE8 < risk.minProfitUsdE8 then
    throw s!"net profit {plan.exact.netProfitUsdE8} USD e8 below minimum {risk.minProfitUsdE8} USD e8"
  if risk.maxConcurrentTx ≤ risk.openTxCount then
    throw "max concurrent tx reached"
  let pnl := (risk.dailyPnlUsdE8.lookup dayKey).getD 0
  if pnl < 0 ∧ risk.dailyLossLimitUsdE8 < pnl.natAbs then
    throw s!"daily loss {pnl.natAbs} USD e8 exceeds limit {risk.dailyLossLimitUsdE8} USD e8"

def markSubmitted (risk : RiskManager) : RiskManager :=
  { risk with openTxCount := risk.openTxCount + 1 }

def markFinalized (risk : RiskManager) (realizedProfitUsdE8 : Int) (dayKey : Nat) : RiskManager :=
  if risk.openTxCount = 0 then
    risk
  else
    { risk with
      openTxCount := risk.openTxCount - 1
      dailyPnlUsdE8 := risk.dailyPnlUsdE8.insert dayKey
        (wrapI128 ((risk.dailyPnlUsdE8.lookup dayKey).getD 0 + realizedProfitUsdE8)) }

def markFailedSubmission (risk : RiskManager) : RiskManager :=
  { risk with openTxCount := risk.openTxCount - 1 }

end RiskManager

structure DepegGuard where
  stableDepegCutoffE6 : Nat
  manualPrices : HashMap Address Nat
  stableTokens : List Address

namespace DepegGuard

def tokenIsHealthy (guard : DepegGuard) (token : Address) : Bool :=
  if token ∉ guard.stableTokens then
    true
  else
    match guard.manualPrices.lookup token with
    | some priceE8 => guard.stableDepegCutoffE6 * 100 ≤ priceE8
    | none => true

end DepegGuard

end DexArbitrage
