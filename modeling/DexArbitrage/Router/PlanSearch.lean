/-
This file models the search for the best input amount of a candidate,
`search_best_plan_with_stats_mode` of `src/router/mod.rs`. A fast search starts
at the amounts a closed form suggests; when its best plan lies at the edge of
what it looked at, or when it finds none, a wide search climbs a ladder of
amounts and refines around the most profitable amounts evaluated so far. Plans
are kept by amount, so no amount is quoted twice.

The closed form is computed in floating point and is a parameter, and so is the
order in which the evaluated amounts are visited. Of the statistics only the
flag of the wide fallback is modelled. The list of requested amounts in the
state is not in the source: it records for which amounts a plan was requested.
-/

import DexArbitrage.Router.PlanConsistency
import DexArbitrage.Router.QuantitySearch

namespace DexArbitrage

structure SearchState (State : Type) where
  quoter : State
  evaluated : HashMap Nat (Option ExactPlan)
  usedWideFallback : Bool
  requested : List Nat

abbrev SearchProgram (State Value : Type) : Type := Program (SearchState State) RpcError Value

structure Router (State : Type) where
  splitOptimizer : SplitOptimizer
  verifySplitOptimizer : Option SplitOptimizer
  solver : WaterFill
  quoter : Quoter State
  verifyQuoter : Quoter State
  searcher : QuantitySearcher
  suggestInputAmounts : GraphSnapshot → CandidatePath → Nat → Nat → Nat → List Nat
  evaluatedOrder : IterationOrder (Nat × Option ExactPlan)
  splitMinOutputBps : Nat
  lbExactSearchPoints : Nat
  verifyV3RefinementPoints : Nat
  verifyV3EarlyExit : Bool
  verifyV3EarlyReoptimize : Bool
  verifyV3FinalReoptimize : Bool
  verifyV3EarlyProbePoints : Nat

def betterPlan (current : Option ExactPlan) (next : ExactPlan) : Option ExactPlan :=
  if current.all fun best => best.expectedProfit < next.expectedProfit then
    some next
  else
    current

def betterPlan? (current next : Option ExactPlan) : Option ExactPlan :=
  match next with
  | some plan => betterPlan current plan
  | none => current

def planUsesRpcVerifiedAdapter (plan : ExactPlan) : Bool :=
  plan.hops.any fun hop => hop.splits.any fun split =>
    split.adapterType = .uniswapV3Like || split.adapterType = .traderJoeLb

def candidateUsesOnlyTraderJoeLb (candidate : CandidatePath) : Bool :=
  ! candidate.path.isEmpty && candidate.path.all fun hop => hop.ammKind = .traderJoeLb

/-! ### Quoting an amount -/

section Quote

variable {State : Type}

/-- Run a program of the quoter, for a plan with the given input amount. -/
def request {Value : Type} (amount : Nat) (program : Program State RpcError Value) :
    SearchProgram State Value := fun state =>
  match program.run state.quoter with
  | .ok (value, quoter) =>
    .ok (value, { state with quoter, requested := state.requested ++ [amount] })
  | .error reason => .error reason

theorem run_request_of_ok {Value : Type} {amount : Nat} {program : Program State RpcError Value}
    {start : SearchState State} {outcome : Value × State}
    (quoted : program.run start.quoter = .ok outcome) :
    (request amount program).run start = .ok (outcome.1,
      { start with quoter := outcome.2, requested := start.requested ++ [amount] }) := by
  have quoted : program start.quoter = .ok outcome := quoted
  show request amount program start = _
  simp only [request, StateT.run, quoted]

theorem run_request_of_error {Value : Type} {amount : Nat} {program : Program State RpcError Value}
    {start : SearchState State} {reason : RpcError}
    (failed : program.run start.quoter = .error reason) :
    (request amount program).run start = .error reason := by
  have failed : program start.quoter = .error reason := failed
  show request amount program start = _
  simp only [request, StateT.run, failed]

variable (router : Router State) (snapshot : GraphSnapshot) (candidate : CandidatePath)
  (premiumPpm : Nat)

def evaluateAmount (amount : Nat) : SearchProgram State (Option ExactPlan) := do
  match (← get).evaluated.lookup amount with
  | some plan => return plan
  | none =>
    let plan ← request amount (quoteCandidateWithOptimizer router.splitOptimizer router.solver
      router.quoter snapshot candidate amount premiumPpm)
    modify fun state => { state with evaluated := state.evaluated.insert amount plan }
    return plan

def i128Min : Int := -2 ^ 127

/-- The profit for which an interval is shrunk: an amount without a plan is the worst one. -/
def planProfit (plan : Option ExactPlan) : Int :=
  plan.elim i128Min ExactPlan.expectedProfit

def evaluateProfit (amount : Nat) : SearchProgram State Int := do
  let plan ← evaluateAmount router snapshot candidate premiumPpm amount
  return planProfit plan

/-- Evaluate an amount and keep its plan if it is better than the best one. -/
def consider (best : Option ExactPlan) (amount : Nat) :
    SearchProgram State (Option ExactPlan) := do
  let plan ← evaluateAmount router snapshot candidate premiumPpm amount
  return betterPlan? best plan

def considerAll (best : Option ExactPlan) (amounts : List Nat) :
    SearchProgram State (Option ExactPlan) :=
  amounts.foldlM (consider router snapshot candidate premiumPpm) best

/-- Shrink an interval by thirds, towards the more profitable side. -/
def narrow : Nat → Nat → Nat → SearchProgram State (Nat × Nat)
  | 0, low, high => pure (low, high)
  | rounds + 1, low, high =>
    if high - low ≤ 32 then
      pure (low, high)
    else do
      let width ← attempt (u128Sub high low)
      let midLeft ← attempt (u128Add low (width / 3))
      let midRight ← attempt (u128Sub high (width / 3))
      let leftProfit ← evaluateProfit router snapshot candidate premiumPpm midLeft
      let rightProfit ← evaluateProfit router snapshot candidate premiumPpm midRight
      if leftProfit < rightProfit then
        narrow rounds (saturatingAdd u128Max midLeft 1) high
      else
        narrow rounds low (max (midRight - 1) low)

end Quote

/-! ### The fast search -/

section Fast

variable {State : Type} (router : Router State) (snapshot : GraphSnapshot)
  (candidate : CandidatePath) (premiumPpm minAmount maxAmount : Nat)

/-- The interval around the best of the suggested amounts. -/
def fastInterval (center : Nat) : Nat × Nat :=
  let low := min (max (center - center / 2) minAmount) maxAmount
  let high := min (max (saturatingAdd u128Max center (center / 2))
    (saturatingAdd u128Max center 1)) maxAmount
  if high ≤ low then (min minAmount center, max maxAmount center) else (low, high)

/-- The best plan lies at an end of the interval that is not an end of the range. -/
def needsWideFallback (low high : Nat) (best : ExactPlan) : Bool :=
  (best.inputAmount = low && minAmount < low) || (best.inputAmount = high && high < maxAmount)

/-- The end of a fast search: its best plan, unless the wide search has to look further. -/
def concludeFast (low high : Nat) : Option ExactPlan → SearchProgram State (Option ExactPlan)
  | none => throw "fast search keeps an initial profitable plan"
  | some best =>
    if needsWideFallback minAmount maxAmount low high best then do
      modify fun state => { state with usedWideFallback := true }
      return none
    else
      return some best

def searchFastSized : SearchProgram State (Option ExactPlan) := do
  let fastPoints := router.suggestInputAmounts snapshot candidate minAmount maxAmount premiumPpm
  let initial ← considerAll router snapshot candidate premiumPpm none fastPoints
  match initial with
  | none => return none
  | some initialBest =>
    let (low, high) := fastInterval minAmount maxAmount initialBest.inputAmount
    let (low, high) ← narrow router snapshot candidate premiumPpm 12 low high
    let best ← considerAll router snapshot candidate premiumPpm initial (densePoints low high 16)
    concludeFast minAmount maxAmount low high best

end Fast

/-! ### Verification -/

section Verify

variable {State : Type} (router : Router State) (snapshot : GraphSnapshot)
  (candidate : CandidatePath) (premiumPpm minAmount maxAmount : Nat)

/-- Quote a plan again at amounts around its own, with the quoter of the verification. -/
def verifyPlan (splitOptimizer : SplitOptimizer) (points : Nat) (reoptimize : Bool)
    (plan : ExactPlan) : SearchProgram State (Option ExactPlan) :=
  (verificationAmounts plan.inputAmount minAmount maxAmount points).foldlM (fun best amount => do
    let verified ← request amount <|
      if reoptimize then
        quoteCandidateWithOptimizer splitOptimizer router.solver router.verifyQuoter snapshot
          candidate amount premiumPpm
      else
        quoteExistingPlanSplits router.splitMinOutputBps router.verifyQuoter snapshot candidate
          plan amount premiumPpm
    return betterPlan? best verified) none

def verifyBestPlan (plan : ExactPlan) : SearchProgram State (Option ExactPlan) :=
  match router.verifySplitOptimizer with
  | none => pure (some plan)
  | some splitOptimizer =>
    if planUsesRpcVerifiedAdapter plan then
      verifyPlan router snapshot candidate premiumPpm minAmount maxAmount splitOptimizer
        router.verifyV3RefinementPoints router.verifyV3FinalReoptimize plan
    else
      pure (some plan)

def verifyProbePlan (plan : ExactPlan) : SearchProgram State (Option ExactPlan) :=
  match router.verifySplitOptimizer with
  | none => pure (some plan)
  | some splitOptimizer =>
    verifyPlan router snapshot candidate premiumPpm minAmount maxAmount splitOptimizer
      router.verifyV3EarlyProbePoints router.verifyV3EarlyReoptimize plan

end Verify

/-! ### Candidates over Liquidity Book pools only -/

section LiquidityBook

variable {State : Type} (quoter : Quoter State) (snapshot : GraphSnapshot)

def lbHops : List CandidateHop → Nat → Program State RpcError (Option (List HopPlan × Nat))
  | [], amount => pure (some ([], amount))
  | hop :: path, amount => do
    let split : SplitPlan :=
      { dexName := hop.dexName
        poolId := hop.poolId
        adapterType := .traderJoeLb
        tokenIn := hop.fromToken
        tokenOut := hop.toToken
        amountIn := amount
        minAmountOut := 0
        expectedAmountOut := 0
        extra := .traderJoeLb }
    let out ← quoteSplit quoter snapshot split
    if out = 0 then
      pure none
    else
      let rest ← lbHops path out
      return rest.map fun (hops, final) =>
        ({ tokenIn := hop.fromToken, tokenOut := hop.toToken, totalIn := amount
           totalOut := out, splits := [{ split with expectedAmountOut := out }] } :: hops, final)

def quoteLbCandidateDirect (candidate : CandidatePath) (inputAmount flashPremiumPpm : Nat) :
    Program State RpcError (Option ExactPlan) := do
  let quoted ← lbHops quoter snapshot candidate.path inputAmount
  return quoted.bind fun (hops, outputAmount) =>
    profitablePlan snapshot candidate inputAmount flashPremiumPpm hops outputAmount

end LiquidityBook

/-! ### The search -/

section Search

variable {State : Type} (router : Router State) (snapshot : GraphSnapshot)
  (candidate : CandidatePath) (premiumPpm minAmount maxAmount : Nat)

def searchTraderJoeLbBounded : SearchProgram State (Option ExactPlan) :=
  let quoter := if router.verifySplitOptimizer.isSome then router.verifyQuoter else router.quoter
  (boundedLbAmounts router.lbExactSearchPoints minAmount maxAmount).foldlM (fun best amount => do
    let plan ← request amount (quoteLbCandidateDirect quoter snapshot candidate amount premiumPpm)
    return betterPlan? best plan) none

/-- The evaluated amounts that have a plan, with its profit. -/
def evaluatedProfits (evaluated : HashMap Nat (Option ExactPlan)) : List (Int × Nat) :=
  (router.evaluatedOrder.order (evaluated.entries.map fun entry => (entry.1, entry.2))).filterMap
    fun entry => entry.2.map fun plan => (plan.expectedProfit, entry.1)

/-- More profitable amounts first. -/
def MoreProfitable (first second : Int × Nat) : Prop := second.1 ≤ first.1

instance : DecidableRel MoreProfitable := fun first second =>
  inferInstanceAs (Decidable (second.1 ≤ first.1))

/-- The eight most profitable of the evaluated amounts. They are keys of a map, so there are no
equal neighbours to drop. -/
def refinementSeeds (evaluated : HashMap Nat (Option ExactPlan)) : List Nat :=
  (((evaluatedProfits router evaluated).insertionSort MoreProfitable).take 8).map Prod.snd

/-- The neighbours of a center on the ladder. -/
def seedInterval (ordered : List Nat) (center : Nat) : Nat × Nat :=
  let centerPos := min (ordered.countP (· < center)) (ordered.length - 1)
  let low := if centerPos = 0 then minAmount else ordered.getD (centerPos - 1) minAmount
  let high := max (ordered.getD (centerPos + 1) maxAmount) center
  (low, high)

def refineSeed (ordered : List Nat) (best : Option ExactPlan) (center : Nat) :
    SearchProgram State (Option ExactPlan) := do
  let (low, high) := seedInterval minAmount maxAmount ordered center
  let best ← considerAll router snapshot candidate premiumPpm best
    (refinementPoints center maxAmount)
  let (low, high) ← narrow router snapshot candidate premiumPpm 32 low high
  considerAll router snapshot candidate premiumPpm best (densePoints low high 64)

/-- How the search goes on after the ladder. -/
inductive SearchPhase
  | finished (plan : Option ExactPlan)
  | refine (best : Option ExactPlan) (seeds : List Nat)

/-- The ladder of the wide search. -/
def searchLadder (verifyFinalPlan : Bool) : SearchProgram State SearchPhase := do
  match ← considerAll router snapshot candidate premiumPpm none
    (router.searcher.ladder snapshot candidate) with
  | none => return .finished none
  | some best =>
    if verifyFinalPlan && router.verifyV3EarlyExit && router.verifySplitOptimizer.isSome &&
        planUsesRpcVerifiedAdapter best then
      match ← verifyProbePlan router snapshot candidate premiumPpm minAmount maxAmount best with
      | none => return .finished none
      | some probed =>
        return .finished (← verifyBestPlan router snapshot candidate premiumPpm minAmount
          maxAmount probed)
    else
      return .refine (some best) (refinementSeeds router (← get).evaluated)

/-- The search up to the choice of the amounts to refine around. -/
def searchSeeds (verifyFinalPlan : Bool) : SearchProgram State SearchPhase := do
  if candidateUsesOnlyTraderJoeLb candidate then
    return .finished (← searchTraderJoeLbBounded router snapshot candidate premiumPpm minAmount
      maxAmount)
  match ← searchFastSized router snapshot candidate premiumPpm minAmount maxAmount with
  | some plan =>
    if verifyFinalPlan then
      return .finished (← verifyBestPlan router snapshot candidate premiumPpm minAmount maxAmount
        plan)
    else
      return .finished (some plan)
  | none =>
    searchLadder router snapshot candidate premiumPpm minAmount maxAmount verifyFinalPlan

/-- Refine around the seeds and verify the best plan. -/
def refineSeeds (verifyFinalPlan : Bool) (best : Option ExactPlan) (seeds : List Nat) :
    SearchProgram State (Option ExactPlan) := do
  let ordered := (router.searcher.ladder snapshot candidate).insertionSort (· ≤ ·)
  let best ← seeds.foldlM (refineSeed router snapshot candidate premiumPpm minAmount maxAmount
    ordered) best
  match best with
  | some plan =>
    if verifyFinalPlan then
      verifyBestPlan router snapshot candidate premiumPpm minAmount maxAmount plan
    else
      return some plan
  | none => return none

def searchBestPlan (verifyFinalPlan : Bool) : SearchProgram State (Option ExactPlan) := do
  match ← searchSeeds router snapshot candidate premiumPpm minAmount maxAmount verifyFinalPlan with
  | .finished plan => return plan
  | .refine best seeds =>
    refineSeeds router snapshot candidate premiumPpm minAmount maxAmount verifyFinalPlan best seeds

def searchStart (quoter : State) : SearchState State where
  quoter := quoter
  evaluated := ∅
  usedWideFallback := false
  requested := []

/-- The premium is fetched before the range is determined. -/
def searchBestPlanWithStatsMode (premiumPpm : Except RpcError Nat) (verifyFinalPlan : Bool) :
    SearchProgram State (Option ExactPlan) := do
  let premiumPpm ← attempt premiumPpm
  match router.searcher.searchRange snapshot candidate with
  | none => return none
  | some (minAmount, maxAmount) =>
    searchBestPlan router snapshot candidate premiumPpm minAmount maxAmount verifyFinalPlan

end Search

end DexArbitrage
