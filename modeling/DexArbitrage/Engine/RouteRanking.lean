/-
This file models `process_refresh` of `src/engine.rs` from the routed candidates
on: they are ranked by an estimate of their profit, and the best of them are
processed one after the other, up to two limits.

The searches for routes run side by side, and their results come in the order in
which they end. `respond` is what the outside world answers to the candidate that
is processed at a position.
-/

import DexArbitrage.Engine.Candidate
import DexArbitrage.Execution.Validator
import DexArbitrage.Lib.StableSort
import DexArbitrage.Router.PlanSearch

namespace DexArbitrage

open Std

structure RoutedCandidate where
  candidate : CandidatePath
  plan : ExactPlan
  estimatedNetProfitUsdE8 : Int
  deriving DecidableEq, Repr

inductive RouteCandidateOutcome
  | routed (route : RoutedCandidate)
  | rejected (candidate : CandidatePath) (result : CandidateProcessResult)

/-- What a search for a route comes to. -/
def RouteCandidateOutcome.routeCandidate (candidate : CandidatePath) :
    VerifyOutcome → RouteCandidateOutcome
  | .timeout => .rejected candidate (.routerTimeout .noRoute none none)
  | .error _ => .rejected candidate (.new .noRoute none none)
  | .done none => .rejected candidate (.new .noRoute none none)
  | .done (some plan) =>
    .routed { candidate, plan, estimatedNetProfitUsdE8 := i128Min }

/-! ### The ranking -/

/-- What the ranking reads besides the plans. -/
structure RankingSettings where
  env : Environment
  preRankGasPriceWei : Option Nat
  chain : Chain
  gasPriceCeilingWei : Nat

section Ranking

variable (settings : RankingSettings) (tokens : List TokenInfo)

def estimatePrerankGasCostUsdE8 (plan : ExactPlan) : Option Int := do
  let (_, nativePrice, nativeDecimals) ← nativeGasPricing settings.chain tokens
  let gasPrice := envUsize settings.preRankGasPriceWei settings.gasPriceCeilingWei
  let gasLimit := min u64Max
    (plan.gasLimit + settings.env.envUsize "PRE_RANK_FLASH_GAS_OVERHEAD" 180000)
  let gasCostWei := saturatingMul u256Max gasPrice gasLimit
  let gasCost ← nativeGasToUsdE8 gasCostWei nativePrice nativeDecimals
  toI128 gasCost

/-- A plan whose profit cannot be told comes last; a fee or a cost that cannot be told counts as
the largest number. -/
def estimatePrerankNetProfitUsdE8 (plan : ExactPlan) : Int :=
  let gross : Option Nat := do
    let inputToken ← tokens.find? fun token => token.address = plan.inputToken
    amountToUsdE8 plan.grossProfitRaw.natAbs inputToken
  match gross with
  | none => i128Min
  | some grossProfitAbs =>
    let grossProfitUsdE8 :=
      if 0 ≤ plan.grossProfitRaw then (toI128 grossProfitAbs).getD i128Max
      else -((toI128 grossProfitAbs).getD i128Max)
    let flashFee : Option Nat := do
      let inputToken ← tokens.find? fun token => token.address = plan.inputToken
      amountToUsdE8 plan.flashFeeRaw inputToken
    let flashFeeUsdE8 := (flashFee.bind toI128).getD i128Max
    let gasCostUsdE8 := (estimatePrerankGasCostUsdE8 settings tokens plan).getD i128Max
    max i128Min (max i128Min (grossProfitUsdE8 - flashFeeUsdE8) - gasCostUsdE8)

/-- The larger estimate first, then the larger expected profit, then the shorter path. -/
def compareRouted (left right : RoutedCandidate) : Ordering :=
  (compare right.estimatedNetProfitUsdE8 left.estimatedNetProfitUsdE8).then <|
    (compare right.plan.expectedProfit left.plan.expectedProfit).then <|
      compare left.candidate.path.length right.candidate.path.length

def estimated (route : RoutedCandidate) : RoutedCandidate :=
  { route with estimatedNetProfitUsdE8 := estimatePrerankNetProfitUsdE8 settings tokens route.plan }

def rankRoutes (routed : List RoutedCandidate) : List RoutedCandidate :=
  sortBy compareRouted (routed.map (estimated settings tokens))

end Ranking

/-! ### The limits -/

/-- `clamp(1, 256)`. -/
def routeValidationTopK (env : Environment) : Nat :=
  max 1 (min 256 (env.envUsize "ROUTE_VALIDATION_TOP_K" 16))

def routeVerifyScanLimit (env : Environment) (validationTopK routedCount : Nat) : Nat :=
  if routedCount = 0 then
    0
  else
    let multiplier := max 1 (env.envUsize "ROUTE_VERIFY_SCAN_MULTIPLIER" 4)
    let defaultLimit := saturatingMul usizeMax validationTopK multiplier
    let hardLimit := max validationTopK (env.envUsize "ROUTE_VERIFY_SCAN_LIMIT" defaultLimit)
    min (max (min defaultLimit hardLimit) validationTopK) routedCount

/-! ### Processing the ranked routes -/

/-- What the outside world answers for one route, and how long its validation takes. -/
structure RouteReplies where
  input : CandidateInput
  validatorMs : Nat

/-- A route that was processed: what it was processed with, and the time its validation took, which
is 0 when it did not get there. -/
structure ScannedRoute where
  route : RoutedCandidate
  input : CandidateInput
  result : CandidateProcessResult
  validatorMs : Nat

section Scan

variable (config : EngineConfig) (guard : DepegGuard) (topK : Nat)
  (respond : Nat → RoutedCandidate → RouteReplies)

/-- Process one route. -/
def scanRoute (position : Nat) (route : RoutedCandidate) (engine : EngineState) :
    ScannedRoute × EngineState :=
  let replies := respond position route
  let input := { replies.input with plan := route.plan }
  let (result, engine) := processRoutedCandidate config guard engine input
  let validatorMs := if result.verdict = .noRoute then 0 else replies.validatorMs
  ({ route, input, result, validatorMs }, engine)

/-- The loop over the ranked routes. It ends when enough of them have been validated. -/
def scanRoutes : List RoutedCandidate → Nat → Nat → EngineState → List ScannedRoute × EngineState
  | [], _, _, engine => ([], engine)
  | route :: rest, position, attempts, engine =>
    let (scanned, engine) := scanRoute config guard respond position route engine
    let attempts := if 0 < scanned.validatorMs then attempts + 1 else attempts
    if topK ≤ attempts then
      ([scanned], engine)
    else
      let (more, engine) := scanRoutes rest (position + 1) attempts engine
      (scanned :: more, engine)

end Scan

def DepegGuard.stableRoutesAllowed (guard : DepegGuard) : Bool :=
  guard.stableTokens.all guard.tokenIsHealthy

structure RefreshOutcome where
  ranked : List RoutedCandidate
  scanned : List ScannedRoute
  engine : EngineState

def RouteCandidateOutcome.route? : RouteCandidateOutcome → Option RoutedCandidate
  | .routed route => some route
  | .rejected _ _ => none

/-- The candidates for which a route was found. -/
def routedBy (searches : List (CandidatePath × VerifyOutcome)) : List RoutedCandidate :=
  searches.filterMap fun search =>
    (RouteCandidateOutcome.routeCandidate search.1 search.2).route?

/-- `process_refresh` after the detection: the searches, in the order in which they ended. -/
def processRefresh (config : EngineConfig) (guard : DepegGuard) (settings : RankingSettings)
    (tokens : List TokenInfo) (respond : Nat → RoutedCandidate → RouteReplies)
    (searches : List (CandidatePath × VerifyOutcome)) (engine : EngineState) : RefreshOutcome :=
  if ! guard.stableRoutesAllowed then
    { ranked := [], scanned := [], engine }
  else
    let ranked := rankRoutes settings tokens (routedBy searches)
    let topK := routeValidationTopK settings.env
    let limit := routeVerifyScanLimit settings.env topK ranked.length
    let (scanned, engine) := scanRoutes config guard topK respond (ranked.take limit) 0 0 engine
    { ranked, scanned, engine }

/-! ### Best first -/

theorem compareRouted_eq :
    compareRouted =
      compareLex (fun left right => compareOn RoutedCandidate.estimatedNetProfitUsdE8 right left)
        (compareLex
          (fun left right => compareOn (fun route : RoutedCandidate => route.plan.expectedProfit)
            right left)
          (compareOn fun route : RoutedCandidate => route.candidate.path.length)) := rfl

instance : TransCmp compareRouted := by
  rw [compareRouted_eq]
  infer_instance

section BestFirst

variable {config : EngineConfig} {guard : DepegGuard} {topK : Nat}
  {respond : Nat → RoutedCandidate → RouteReplies}

/-- How often a validation took measurable time. -/
def validations (scanned : List ScannedRoute) : Nat :=
  scanned.countP fun route => 0 < route.validatorMs

/-- What the loop does: it processes routes from the front, each as a candidate of its own, and
leaves some out only after enough validations. -/
structure ScansFromFront (config : EngineConfig) (guard : DepegGuard) (topK : Nat)
    (routes : List RoutedCandidate) (attempts : Nat) (engine : EngineState)
    (outcome : List ScannedRoute × EngineState) : Prop where
  front : outcome.1.map ScannedRoute.route <+: routes
  ends : outcome.2 = runFrom (processStep config guard) engine (outcome.1.map ScannedRoute.input)
  plans : ∀ scanned ∈ outcome.1, scanned.input.plan = scanned.route.plan
  within : attempts + validations outcome.1 ≤ topK
  stops : outcome.1.length < routes.length → attempts + validations outcome.1 = topK

theorem scansFromFront_scanRoutes (routes : List RoutedCandidate) (position : Nat)
    {attempts : Nat} (more : attempts < topK) (engine : EngineState) :
    ScansFromFront config guard topK routes attempts engine
      (scanRoutes config guard topK respond routes position attempts engine) := by
  induction routes generalizing position attempts engine with
  | nil =>
    exact ⟨List.prefix_rfl, rfl, fun _ member => (nomatch member), more.le, fun few => nomatch few⟩
  | cons route rest inductionHypothesis =>
    unfold scanRoutes
    have step : (scanRoute config guard respond position route engine).2 =
        processStep config guard engine
          (scanRoute config guard respond position route engine).1.input := rfl
    have own : (scanRoute config guard respond position route engine).1.route = route := rfl
    have plan : (scanRoute config guard respond position route engine).1.input.plan =
      route.plan := rfl
    generalize scanRoute config guard respond position route engine = outcome at step own plan
    obtain ⟨scanned, next⟩ := outcome
    dsimp only at step own plan ⊢
    have counted : (if 0 < scanned.validatorMs then attempts + 1 else attempts) =
        attempts + validations [scanned] := by
      unfold validations
      split
      · rename_i measured
        rw [List.countP_singleton, if_pos (decide_eq_true measured)]
      · rename_i unmeasured
        rw [List.countP_singleton, if_neg (by simpa using unmeasured)]
        rfl
    have few : attempts + validations [scanned] ≤ topK := by
      have one : validations [scanned] ≤ 1 := List.countP_le_length
      omega
    rw [counted]
    split
    · rename_i enough
      refine ⟨?_, step, ?_, few, fun _ => few.antisymm enough⟩
      · rw [List.map_singleton, own]
        exact List.prefix_append [route] rest
      · intro other member
        rw [List.mem_singleton.mp member, plan, own]
    · rename_i notEnough
      have later := inductionHypothesis (position + 1) (Nat.lt_of_not_le notEnough) next
      generalize scanRoutes config guard topK respond rest (position + 1)
        (attempts + validations [scanned]) next = outcome at later
      obtain ⟨others, last⟩ := outcome
      have sum : validations (scanned :: others) = validations [scanned] + validations others := by
        rw [← List.singleton_append]
        exact List.countP_append
      refine ⟨?_, ?_, ?_, ?_, ?_⟩
      · rw [List.map_cons, own]
        exact List.cons_prefix_cons.mpr ⟨rfl, later.front⟩
      · rw [List.map_cons, runFrom_cons, ← step]
        exact later.ends
      · rw [List.forall_mem_cons]
        exact ⟨plan.trans (congrArg RoutedCandidate.plan own.symm), later.plans⟩
      · rw [sum, ← Nat.add_assoc]
        exact later.within
      · intro shorter
        rw [sum, ← Nat.add_assoc]
        exact later.stops (Nat.lt_of_succ_lt_succ shorter)

end BestFirst

theorem validationTopK_pos (env : Environment) : 0 < routeValidationTopK env :=
  le_max_left 1 _

theorem routeVerifyScanLimit_le (env : Environment) (topK count : Nat) :
    routeVerifyScanLimit env topK count ≤ count := by
  unfold routeVerifyScanLimit
  split
  · exact Nat.zero_le _
  · exact min_le_right _ _

section Refresh

variable (config : EngineConfig) (guard : DepegGuard) (settings : RankingSettings)
  (tokens : List TokenInfo) (respond : Nat → RoutedCandidate → RouteReplies)

/-- A refresh processes the best routes first, within its limits, and leaves none out while they
allow one more. -/
structure BestFirst (searches : List (CandidatePath × VerifyOutcome)) (engine : EngineState)
    (outcome : RefreshOutcome) : Prop where
  ranked : guard.stableRoutesAllowed = true →
    outcome.ranked.Perm ((routedBy searches).map (estimated settings tokens))
  front : outcome.scanned.map ScannedRoute.route <+: outcome.ranked
  best : ∀ scanned ∈ outcome.scanned, ∀ route ∈ outcome.ranked.drop outcome.scanned.length,
    (compareRouted scanned.route route).isLE = true
  scanLimit : outcome.scanned.length ≤
    routeVerifyScanLimit settings.env (routeValidationTopK settings.env) outcome.ranked.length
  validationLimit : validations outcome.scanned ≤ routeValidationTopK settings.env
  complete : validations outcome.scanned < routeValidationTopK settings.env →
    outcome.scanned.length =
      routeVerifyScanLimit settings.env (routeValidationTopK settings.env) outcome.ranked.length
  plans : ∀ scanned ∈ outcome.scanned, scanned.input.plan = scanned.route.plan
  ends : outcome.engine =
    runFrom (processStep config guard) engine (outcome.scanned.map ScannedRoute.input)

/-- For every order in which the searches end, and whatever the outside world answers. -/
theorem processRefresh_bestFirst (searches : List (CandidatePath × VerifyOutcome))
    (engine : EngineState) :
    BestFirst config guard settings tokens searches engine
      (processRefresh config guard settings tokens respond searches engine) := by
  unfold processRefresh
  split
  · rename_i depegged
    refine ⟨fun allowed => ?_, List.prefix_rfl, fun _ member => (nomatch member), Nat.zero_le _,
      Nat.zero_le _, fun _ => rfl, fun _ member => (nomatch member), rfl⟩
    rw [allowed] at depegged
    cases depegged
  · dsimp only
    generalize isRanked : rankRoutes settings tokens (routedBy searches) = ranked
    generalize isLimit : routeVerifyScanLimit settings.env (routeValidationTopK settings.env)
      ranked.length = limit
    have scans : ScansFromFront config guard (routeValidationTopK settings.env)
        (ranked.take limit) 0 engine (scanRoutes config guard (routeValidationTopK settings.env)
          respond (ranked.take limit) 0 0 engine) :=
      scansFromFront_scanRoutes (ranked.take limit) 0 (validationTopK_pos settings.env) engine
    generalize scanRoutes config guard (routeValidationTopK settings.env) respond
      (ranked.take limit) 0 0 engine = outcome at scans
    obtain ⟨scanned, last⟩ := outcome
    have sorted : ranked.Pairwise fun left right => (compareRouted left right).isLE = true := by
      rw [← isRanked]
      exact pairwise_sortBy _
    have front : scanned.map ScannedRoute.route <+: ranked :=
      scans.front.trans (List.take_prefix _ _)
    have taken : (ranked.take limit).length = limit := by
      rw [List.length_take, ← isLimit]
      exact Nat.min_eq_left (routeVerifyScanLimit_le _ _ _)
    have short : scanned.length ≤ limit := by
      rw [← taken, ← List.length_map (f := ScannedRoute.route)]
      exact scans.front.length_le
    refine ⟨fun _ => isRanked ▸ perm_sortBy _ _, front, ?_, isLimit ▸ short, ?_, ?_, scans.plans,
      scans.ends⟩
    · intro one member route later
      have parts := List.prefix_iff_eq_take.mp front
      rw [List.length_map] at parts
      rw [← List.take_append_drop scanned.length ranked, List.pairwise_append] at sorted
      refine sorted.2.2 one.route ?_ route later
      rw [← parts]
      exact List.mem_map_of_mem member
    · have within := scans.within
      rwa [Nat.zero_add] at within
    · intro fewer
      rw [isLimit]
      by_contra notAll
      have fewerScanned : scanned.length < (ranked.take limit).length := by
        rw [taken]
        exact Nat.lt_of_le_of_ne short notAll
      have stops := scans.stops fewerScanned
      rw [Nat.zero_add] at stops
      exact absurd stops fewer.ne

end Refresh

end DexArbitrage
