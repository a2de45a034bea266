/-
This file is about the plans that the validator lets through. Such a plan is
funded, priced and within the gas ceiling, its simulation succeeded on the very
calldata that is submitted, and none of its texts has an unexpired failure on it.

The calldata carries a positive floor of the profit, and the executor keeps to
it: however the pools behave, a call with this calldata either reverts or leaves
the executor with at least the floor more than it had.
-/

import DexArbitrage.Execution.Validator

namespace DexArbitrage

section Approval

variable {texts : EnvironmentTexts} {env : Environment} {displayAddress : Address → String}
  {encodeCall : EntryPoint → Bytes} {tokens : List TokenInfo} {validator after : Validator}
  {replies : ValidatorReplies} {plan : ExactPlan}

theorem calculateContractMinProfitRaw_lt (netProfitBeforeGasRaw : Int)
    (minProfitRealizationBps : Nat) :
    calculateContractMinProfitRaw netProfitBeforeGasRaw minProfitRealizationBps < 2 ^ 128 := by
  unfold calculateContractMinProfitRaw
  split
  · decide
  · have atMost : min (netProfitBeforeGasRaw * minProfitRealizationBps) i128Max ≤ i128Max :=
      min_le_right _ _
    unfold i128Max at atMost ⊢
    dsimp only
    omega

/-! ### What an approved plan is -/

/-- What a plan keeps from the router to the submission. -/
structure SameTrade (plan other : ExactPlan) : Prop where
  inputToken : other.inputToken = plan.inputToken
  inputAmount : other.inputAmount = plan.inputAmount
  outputAmount : other.outputAmount = plan.outputAmount
  grossProfitRaw : other.grossProfitRaw = plan.grossProfitRaw
  hops : other.hops = plan.hops

/-- A plan with its capital and its profit floor. -/
structure Funded (displayAddress : Address → String) (validator : Validator)
    (replies : ValidatorReplies) (plan funded : ExactPlan) : Prop where
  trade : SameTrade plan funded
  value : funded.inputValueUsdE8 = plan.inputValueUsdE8
  floor : funded.contractMinProfitRaw =
    calculateContractMinProfitRaw
      (calculateNetProfitBeforeGasRaw plan.inputAmount plan.outputAmount funded.actualFlashFeeRaw)
      validator.settings.minProfitRealizationBps
  floorPositive : 0 < funded.contractMinProfitRaw
  notSkipped : (validator.failureCache.skipReason displayAddress funded replies.skipAt).1 = none

/-- The choice of the capital names the profit with the fee it names. -/
theorem netProfitBeforeGasRaw_of_choose {selector : CapitalSelector}
    {balanceOf : Address → Address → Except RpcError Nat} {now later : Instant}
    {token : TokenInfo} {choice : CapitalChoice}
    (chosen : (selector.choose balanceOf now later plan token).1 = some choice) :
    choice.netProfitBeforeGasRaw =
      calculateNetProfitBeforeGasRaw plan.inputAmount plan.outputAmount
        choice.actualFlashFeeRaw := by
  unfold CapitalSelector.choose at chosen
  split at chosen
  · cases chosen
  · dsimp only at chosen
    unfold choiceFromBalanceAndFees at chosen
    split at chosen
    · cases chosen
    · dsimp only at chosen
      split at chosen
      · cases chosen
      · obtain ⟨source, _, same⟩ := Option.map_eq_some_iff.mp chosen
        rw [← same]

/-- The texts of a plan are those of its trade. -/
theorem SameTrade.failureKeys_eq {other : ExactPlan} (same : SameTrade plan other) :
    failureKeys displayAddress other = failureKeys displayAddress plan := by
  unfold failureKeys routeFailureKey poolDirectionFailureKeys tokenPairFailureKeys ExactPlan.splits
  rw [same.inputToken, same.hops]

theorem SameTrade.skipReason_eq {other : ExactPlan} (same : SameTrade plan other)
    (cache : FailureCache) (now : Instant) :
    cache.skipReason displayAddress other now = cache.skipReason displayAddress plan now := by
  unfold FailureCache.skipReason
  rw [same.failureKeys_eq]

theorem funded_of_fundPlan {token : TokenInfo} {funded : ExactPlan}
    (answered : validator.fundPlan displayAddress replies plan token = (some funded, after)) :
    Funded displayAddress validator replies plan funded ∧ after.settings = validator.settings ∧
      after.gasTracker = validator.gasTracker := by
  unfold Validator.fundPlan at answered
  cases chosen : validator.capitalSelector.choose replies.balanceOf replies.balanceNow
    replies.balanceLater plan token with
  | mk choice? selector =>
    rw [chosen] at answered
    cases choice? with
    | none => cases answered
    | some choice =>
      dsimp only at answered
      split at answered
      · cases answered
      · rename_i notSkipped
        split at answered
        · cases answered
        · rename_i positive
          cases answered
          refine ⟨⟨⟨rfl, rfl, rfl, rfl, rfl⟩, rfl, ?_, Nat.pos_of_ne_zero positive, ?_⟩, rfl, rfl⟩
          · exact congrArg (calculateContractMinProfitRaw ·
              validator.settings.minProfitRealizationBps)
                (netProfitBeforeGasRaw_of_choose (congrArg Prod.fst chosen))
          · exact Option.not_isSome_iff_eq_none.mp notSkipped

/-! ### What pricing does -/

theorem ceilingWei_quote (tracker : GasTracker) (gas : GasReplies) (gasLimit calldataLen : Nat) :
    (tracker.quote env gas gasLimit calldataLen).2.ceilingWei = tracker.ceilingWei := by
  unfold GasTracker.quote
  split
  · rfl
  · dsimp only
    split
    · split
      · rfl
      · rfl
    · split
      · rfl
      · rfl

/-- A plan that was priced is the funded one, with its values in dollars. -/
structure Priced (validator after : Validator) (replies : ValidatorReplies) (funded : ExactPlan)
    (token : TokenInfo) (tokens : List TokenInfo) (priced : PricedPlan) : Prop where
  terms : ∃ terms, usdTerms validator.settings.chain tokens token funded
      priced.gasQuote.bufferedTotalCostWei = some terms ∧
    priced.plan = funded.withUsdTerms terms
  deadline : priced.deadlineUnix = replies.unixTime + 30
  executor : validator.settings.executorAddress = some priced.executor
  operator : replies.operatorAddress = .ok priced.operator
  profitable : wrapI128 validator.settings.minNetProfitUsdE8 ≤ priced.plan.netProfitUsdE8
  belowCeiling : priced.gasQuote.maxFeePerGas ≤ validator.gasTracker.ceilingWei
  settings : after.settings = validator.settings
  failureCache : after.failureCache = validator.failureCache

theorem priced_of_priceGas {token : TokenInfo} {funded : ExactPlan} {priced : PricedPlan}
    (answered : validator.priceGas texts env encodeCall tokens replies funded token =
      (.ok (some priced), after)) :
    Priced validator after replies funded token tokens priced := by
  unfold Validator.priceGas at answered
  dsimp only at answered
  split at answered
  · cases answered
  · cases answered
  · rename_i isExecutor isOperator
    split at answered
    · cases answered
    · rename_i gasQuote _
      split at answered
      · cases answered
      · rename_i notAbove
        split at answered
        · cases answered
        · rename_i terms isTerms
          split at answered
          · cases answered
          · rename_i enough
            cases answered
            refine ⟨⟨terms, isTerms, rfl⟩, rfl, isExecutor, isOperator, Int.not_lt.mp enough, ?_,
              rfl, rfl⟩
            have within := notAbove
            simp only [GasTracker.aboveCeiling, decide_eq_true_eq, Nat.not_lt,
              ceilingWei_quote] at within
            exact within

/-! ### Approval -/

/-- A plan that the validator lets through. The values that the later checks and the submission use
are told by the plan, the tokens and the gas alone. -/
structure Approved (displayAddress : Address → String) (encodeCall : EntryPoint → Bytes)
    (tokens : List TokenInfo) (validator : Validator) (replies : ValidatorReplies)
    (plan : ExactPlan) (approved : ExecutablePlan) : Prop where
  trade : SameTrade plan approved.exact
  calldata : approved.calldata =
    encodeCall (buildCalldata approved.exact approved.deadlineUnix)
  deadline : approved.deadlineUnix = replies.unixTime + 30
  floor : approved.exact.contractMinProfitRaw =
    calculateContractMinProfitRaw
      (calculateNetProfitBeforeGasRaw plan.inputAmount plan.outputAmount
        approved.exact.actualFlashFeeRaw)
      validator.settings.minProfitRealizationBps
  floorPositive : 0 < approved.exact.contractMinProfitRaw
  values : ∃ token ∈ tokens, token.address = plan.inputToken ∧
    amountToUsdE8 plan.inputAmount token = some approved.exact.inputValueUsdE8 ∧
    ∃ terms, usdTerms validator.settings.chain tokens token approved.exact
        approved.exact.gasCostWei = some terms ∧
      approved.exact = approved.exact.withUsdTerms terms
  profitable : wrapI128 validator.settings.minNetProfitUsdE8 ≤ approved.exact.netProfitUsdE8
  belowCeiling : approved.maxFeePerGas ≤ validator.gasTracker.ceilingWei
  simulated : ∃ executor operator gasQuote,
    validator.settings.executorAddress = some executor ∧ replies.operatorAddress = .ok operator ∧
      gasQuote.maxFeePerGas = approved.maxFeePerGas ∧
      gasQuote.maxPriorityFeePerGas = approved.maxPriorityFeePerGas ∧
      (simulate displayAddress validator.settings.simulateMethod replies.simulation executor
        operator approved.calldata gasQuote).success = true
  notSkipped :
    (validator.failureCache.skipReason displayAddress plan replies.skipAt).1 = none

/-- A plan that is about to be simulated has passed the two stages before. -/
theorem stages_of_pricePlan {priced : PricedPlan}
    (answered : validator.pricePlan texts env displayAddress encodeCall tokens replies plan =
      (.ok (some priced), after)) :
    ∃ token ∈ tokens, token.address = plan.inputToken ∧
      ∃ inputValueUsdE8, amountToUsdE8 plan.inputAmount token = some inputValueUsdE8 ∧
        ∃ funded between,
          validator.fundPlan displayAddress replies { plan with inputValueUsdE8 } token =
              (some funded, between) ∧
            Priced between after replies funded token tokens priced := by
  unfold Validator.pricePlan at answered
  split at answered
  · cases answered
  · rename_i token found
    split at answered
    · cases answered
    · rename_i inputValueUsdE8 isValue
      split at answered
      · cases answered
      · rename_i funded between isFunded
        exact ⟨token, List.mem_of_find?_eq_some found,
          by simpa using List.find?_some found, inputValueUsdE8, isValue, funded, between,
          isFunded, priced_of_priceGas answered⟩

/-- An approved plan was simulated, with success. -/
theorem simulated_of_prepare {approved : ExecutablePlan}
    (answered : validator.prepare texts env displayAddress encodeCall tokens replies plan =
      (.ok (some approved), after)) :
    ∃ priced, validator.pricePlan texts env displayAddress encodeCall tokens replies plan =
        (.ok (some priced), after) ∧
      (after.simulatePlan displayAddress encodeCall replies priced).success = true ∧
        approved = Validator.executable encodeCall priced := by
  unfold Validator.prepare at answered
  split at answered
  · cases answered
  · cases answered
  · rename_i priced middle isPriced
    dsimp only at answered
    split at answered
    · split at answered
      · cases answered
      · cases answered
    · rename_i succeeded
      cases answered
      exact ⟨priced, isPriced, by simpa using succeeded, rfl⟩

theorem approved_of_prepare {approved : ExecutablePlan}
    (answered : validator.prepare texts env displayAddress encodeCall tokens replies plan =
      (.ok (some approved), after)) :
    Approved displayAddress encodeCall tokens validator replies plan approved := by
  obtain ⟨priced, isPriced, succeeded, rfl⟩ := simulated_of_prepare answered
  obtain ⟨token, member, isInput, inputValueUsdE8, isValue, funded, between, isFunded,
    pricedRight⟩ := stages_of_pricePlan isPriced
  obtain ⟨fundedRight, sameSettings, sameTracker⟩ := funded_of_fundPlan isFunded
  obtain ⟨terms, isTerms, samePlan⟩ := pricedRight.terms
  have settings : after.settings = validator.settings := pricedRight.settings.trans sameSettings
  obtain ⟨sameToken, sameInput, sameOutput, sameGross, sameHops⟩ := fundedRight.trade
  have trade : SameTrade plan funded := ⟨sameToken, sameInput, sameOutput, sameGross, sameHops⟩
  obtain ⟨notedPlan, deadlineUnix, executor, operator, gasEstimate, gasQuote⟩ := priced
  dsimp only at samePlan
  subst samePlan
  exact
    { trade := ⟨sameToken, sameInput, sameOutput, sameGross, sameHops⟩
      calldata := rfl
      deadline := pricedRight.deadline
      floor := fundedRight.floor
      floorPositive := fundedRight.floorPositive
      values := ⟨token, member, isInput, isValue.trans (congrArg some fundedRight.value.symm),
        terms, sameSettings ▸ isTerms, rfl⟩
      profitable := sameSettings ▸ pricedRight.profitable
      belowCeiling := sameTracker ▸ pricedRight.belowCeiling
      simulated := ⟨executor, operator, gasQuote, sameSettings ▸ pricedRight.executor,
        pricedRight.operator, rfl, rfl, settings ▸ succeeded⟩
      notSkipped := by
        rw [← trade.skipReason_eq]
        exact fundedRight.notSkipped }

/-- In whatever state of the world the calldata of the plan is executed, the call reverts or leaves
the executor with at least the floor, which is positive, more of the input token than it had. -/
def FloorKept {Foreign : Type} (external : External Foreign) (deployment : Deployment)
    (approved : ExecutablePlan) : Prop :=
  0 < approved.exact.contractMinProfitRaw ∧
    ∀ context world,
      (∃ reason, (enter external deployment context
        (buildCalldata approved.exact approved.deadlineUnix)).run world = .error reason) ∨
      ∃ world', (enter external deployment context
          (buildCalldata approved.exact approved.deadlineUnix)).run world = .ok ((), world') ∧
        world.ledger.balance approved.exact.inputToken deployment.this +
            approved.exact.contractMinProfitRaw ≤
          world'.ledger.balance approved.exact.inputToken deployment.this

theorem Approved.floorKept {approved : ExecutablePlan} {Foreign : Type}
    (right : Approved displayAddress encodeCall tokens validator replies plan approved)
    {external : External Foreign} (deployment : Deployment)
    (standard : external.standard plan.inputToken = true) :
    FloorKept external deployment approved := by
  have fits : approved.exact.contractMinProfitRaw < 2 ^ 128 := by
    rw [right.floor]
    exact calculateContractMinProfitRaw_lt _ _
  have terms := terms_buildCalldata approved.exact approved.deadlineUnix fits
  rw [← right.trade.inputToken] at standard
  refine ⟨right.floorPositive, fun context world => ?_⟩
  cases outcome : (enter external deployment context
      (buildCalldata approved.exact approved.deadlineUnix)).run world with
  | error reason => exact Or.inl ⟨reason, rfl⟩
  | ok result =>
    exact Or.inr ⟨result.2, rfl,
      ensures_profitTerms terms standard context world result.1 result.2 outcome⟩

/-- A plan that the validator lets through is as it should be, and the executor keeps to the
positive floor of the profit that its calldata carries. -/
theorem approval_profit {Foreign : Type} {approved : ExecutablePlan}
    (answered : validator.prepare texts env displayAddress encodeCall tokens replies plan =
      (.ok (some approved), after))
    (external : External Foreign) (deployment : Deployment)
    (standard : external.standard plan.inputToken = true) :
    Approved displayAddress encodeCall tokens validator replies plan approved ∧
      FloorKept external deployment approved :=
  ⟨approved_of_prepare answered, (approved_of_prepare answered).floorKept deployment standard⟩

/-! ### Plans that failed before -/

/-- The clock of a call is read in order. -/
structure ClockForward (clock : Instant) (replies : ValidatorReplies) : Prop where
  skipAt : clock ≤ replies.skipAt
  failedAt : replies.skipAt ≤ replies.failedAt
  recordedAt : replies.failedAt ≤ replies.recordedAt

theorem failureCache_priceGas (validator : Validator) (replies : ValidatorReplies)
    (plan : ExactPlan) (token : TokenInfo) :
    (validator.priceGas texts env encodeCall tokens replies plan token).2.failureCache =
      validator.failureCache := by
  unfold Validator.priceGas
  dsimp only
  split
  · rfl
  · rfl
  · split
    · rfl
    · split
      · rfl
      · split
        · rfl
        · split
          · rfl
          · rfl

variable (displayAddress) in
theorem failureCache_fundPlan (validator : Validator) (replies : ValidatorReplies)
    (plan : ExactPlan) (token : TokenInfo) :
    (validator.fundPlan displayAddress replies plan token).2.failureCache =
        validator.failureCache ∨
      ∃ funded, (validator.fundPlan displayAddress replies plan token).2.failureCache =
        (validator.failureCache.skipReason displayAddress funded replies.skipAt).2 := by
  unfold Validator.fundPlan
  cases validator.capitalSelector.choose replies.balanceOf replies.balanceNow replies.balanceLater
    plan token with
  | mk choice? selector =>
    cases choice? with
    | none => exact Or.inl rfl
    | some choice =>
      refine Or.inr ⟨plan.withCapital choice, ?_⟩
      dsimp only
      split
      · rfl
      · split
        · rfl
        · rfl

variable (texts env displayAddress encodeCall) in
/-- The failure that a call of `prepare` finds, if its simulation fails with a reason. -/
def failedSimulation (validator : Validator) (tokens : List TokenInfo) (replies : ValidatorReplies)
    (plan : ExactPlan) : List RecordedFailure :=
  match validator.pricePlan texts env displayAddress encodeCall tokens replies plan with
  | (.ok (some priced), middle) =>
    let simulation := middle.simulatePlan displayAddress encodeCall replies priced
    if simulation.success then
      []
    else
      (simulation.reason.map fun reason =>
        { plan := priced.plan, reason, recordedAt := replies.recordedAt }).toList
  | _ => []

section Runs

variable {start : FailureCache} {failures : List RecordedFailure} {clock : Instant}

theorem tracks_pricePlan (tracks : TracksFailures displayAddress start validator.failureCache
    failures clock) (inOrder : clock ≤ replies.skipAt) :
    TracksFailures displayAddress start
      (validator.pricePlan texts env displayAddress encodeCall tokens replies
        plan).2.failureCache failures replies.skipAt := by
  have funding : ∀ plan token, TracksFailures displayAddress start
      (validator.fundPlan displayAddress replies plan token).2.failureCache failures
        replies.skipAt := by
    intro plan token
    rcases failureCache_fundPlan displayAddress validator replies plan token with
      same | ⟨funded, same⟩
    · rw [same]
      exact tracks.mono inOrder
    · rw [same]
      exact tracks.skipReason funded inOrder
  unfold Validator.pricePlan
  split
  · exact tracks.mono inOrder
  · rename_i token _
    split
    · exact tracks.mono inOrder
    · rename_i inputValueUsdE8 _
      have funded := funding { plan with inputValueUsdE8 } token
      split
      · rename_i answered
        rw [answered] at funded
        exact funded
      · rename_i answered
        rw [answered] at funded
        rw [failureCache_priceGas]
        exact funded

/-- One call of `prepare` records the failure it finds, and nothing else. -/
theorem tracks_prepare (tracks : TracksFailures displayAddress start validator.failureCache
    failures clock) (forward : ClockForward clock replies) :
    TracksFailures displayAddress start
      (validator.prepare texts env displayAddress encodeCall tokens replies plan).2.failureCache
      (failedSimulation texts env displayAddress encodeCall validator tokens replies plan ++
        failures) replies.recordedAt := by
  have priced : TracksFailures displayAddress start
      (validator.pricePlan texts env displayAddress encodeCall tokens replies
        plan).2.failureCache failures replies.skipAt := tracks_pricePlan tracks forward.skipAt
  have onwards : replies.skipAt ≤ replies.recordedAt :=
    forward.failedAt.trans forward.recordedAt
  unfold Validator.prepare failedSimulation
  cases answered : validator.pricePlan texts env displayAddress encodeCall tokens replies plan with
  | mk result middle =>
    rw [answered] at priced
    cases result with
    | error err => exact priced.mono onwards
    | ok priced? =>
      cases priced? with
      | none => exact priced.mono onwards
      | some pricedPlan =>
        dsimp only
        cases (middle.simulatePlan displayAddress encodeCall replies pricedPlan).success with
        | true => exact priced.mono onwards
        | false =>
          cases (middle.simulatePlan displayAddress encodeCall replies pricedPlan).reason with
          | none => exact priced.mono onwards
          | some reason =>
            exact priced.record pricedPlan.plan reason forward.failedAt forward.recordedAt

/-- One use of the validator. -/
structure ValidatorCall where
  tokens : List TokenInfo
  plan : ExactPlan
  replies : ValidatorReplies

/-- The validator, the failures it has found, latest first, and when its clock was read last. -/
structure ValidatorRun where
  validator : Validator
  failures : List RecordedFailure
  clock : Instant

variable (texts env displayAddress encodeCall) in
def ValidatorRun.step (state : ValidatorRun) (call : ValidatorCall) : ValidatorRun where
  validator := (state.validator.prepare texts env displayAddress encodeCall call.tokens call.replies
    call.plan).2
  failures := failedSimulation texts env displayAddress encodeCall state.validator call.tokens
    call.replies call.plan ++ state.failures
  clock := call.replies.recordedAt

/-- Over every run of a new validator with a clock that does not run backwards: when it lets a plan
through, each text of the plan is free, that is, the last failed simulation that was filed under it
has expired. -/
theorem approved_not_failed (texts : EnvironmentTexts) (env : Environment)
    (displayAddress : Address → String) (encodeCall : EntryPoint → Bytes) (validator : Validator)
    (new : validator.failureCache = .fromEnv texts env)
    (enabled : validator.failureCache.enabled = true) (calls : List ValidatorCall)
    (forward : StepsMeet (ValidatorRun.step texts env displayAddress encodeCall)
      (fun state call => ClockForward state.clock call.replies) ⟨validator, [], 0⟩ calls) :
    StepsMeet (ValidatorRun.step texts env displayAddress encodeCall)
      (fun state call => ∀ approved,
        (state.validator.prepare texts env displayAddress encodeCall call.tokens call.replies
          call.plan).1 = .ok (some approved) →
        ∀ key ∈ failureKeys displayAddress approved.exact,
          unexpiredFailure displayAddress (.fromEnv texts env) state.failures call.replies.skipAt
            key = none)
      ⟨validator, [], 0⟩ calls := by
  refine StepsMeet.of_invariant
    (fun (state : ValidatorRun) call (tracks : TracksFailures displayAddress (.fromEnv texts env)
      state.validator.failureCache state.failures state.clock) inOrder =>
        tracks_prepare tracks inOrder) ?_ ?_ forward
  · intro state call tracks inOrder approved letThrough key isKey
    have right := approved_of_prepare (Prod.ext letThrough rfl)
    have free := right.notSkipped
    rw [tracks.fst_skipReason call.plan inOrder.skipAt, ← new, enabled, if_pos rfl,
      List.findSome?_eq_none_iff] at free
    have unfiled := free key (right.trade.failureKeys_eq ▸ isKey)
    rw [← new]
    exact Option.map_eq_none_iff.mp unfiled
  · dsimp only
    rw [new]
    exact ⟨⟨_, rfl⟩, fun _ => Remembers.start⟩

end Runs

end Approval

/-! ### A plan that is let through once -/

def sampleToken (address : Address) (symbol : String) : TokenInfo where
  address := address
  symbol := symbol
  decimals := 6
  isStable := false
  isCycleAnchor := true
  flashLoanEnabled := true
  allowSelfFunded := true
  manualPriceUsdE8 := some 100000000
  maxPositionUsdE8 := none
  maxFlashLoanUsdE8 := none

def sampleTokens : List TokenInfo :=
  [sampleToken tokenA "USDC", sampleToken 12 "WMATIC"]

/-- The plan with a partial loan, as the router leaves it. -/
def routedPlan : ExactPlan :=
  { mixedPlan with
    outputAmount := 1387470
    grossProfitRaw := 387470
    flashPremiumPpm := 900
    gasLimit := 300000
    capitalSource := .selfFunded
    flashLoanAmount := 0
    contractMinProfitRaw := 0 }

def sampleValidator : Validator where
  settings :=
    { chain := .polygon, executorAddress := some 1, simulateMethod := "eth_call"
      minProfitRealizationBps := 9000, minNetProfitUsdE8 := 1000000 }
  gasTracker := { chain := .polygon, ceilingWei := 1000, buffered := fun fee => fee, cache := none }
  capitalSelector :=
    { aavePool := some 2, maxFlashLoanUsdE8 := 10 ^ 12, executorAddress := some 1
      balanceCacheMs := none, balanceCache := ∅ }
  failureCache := .fromEnv (fun _ => none) fun _ => none

/-- The executor holds 400000, a unit of gas costs nothing to speak of, and a simulation at a time
either succeeds or reverts. -/
def sampleReplies (time : Instant) (reverts : Bool) : ValidatorReplies where
  balanceOf := fun _ _ => .ok 400000
  balanceNow := time
  balanceLater := time
  skipAt := time
  unixTime := 1700000000
  operatorAddress := .ok 3
  estimateGas := fun _ _ _ => .error "unsupported"
  gas := gasRepliesAt time (.ok 0)
  simulation :=
    { customSimulate := fun _ _ => .error "unsupported"
      ethCall := fun _ _ _ _ =>
        if reverts then .error "rpc error 3 execution reverted: TRANSFER_FAILED" else .ok [] }
  failedAt := time
  recordedAt := time

def sampleDisplay (address : Address) : String :=
  toString address.toNat

def samplePrepare (reverts : Bool) : Except RpcError (Option ExecutablePlan) × Validator :=
  sampleValidator.prepare (fun _ => none) (fun _ => none) sampleDisplay (fun _ => []) sampleTokens
    (sampleReplies 1000 reverts) routedPlan

theorem approval_profit_sample :
    ∃ approved, approved.exact.contractMinProfitRaw = 348237 ∧
      Approved sampleDisplay (fun _ => []) sampleTokens sampleValidator (sampleReplies 1000 false)
        routedPlan approved ∧
      FloorKept twoPairs sampleDeployment approved := by
  have floor : ((samplePrepare false).1.toOption.join.map fun approved =>
      approved.exact.contractMinProfitRaw) = some 348237 := by decide +kernel
  obtain ⟨approved, found, isFloor⟩ := Option.map_eq_some_iff.mp floor
  have answered : samplePrepare false = (.ok (some approved), (samplePrepare false).2) := by
    refine Prod.ext ?_ rfl
    cases result : (samplePrepare false).1 with
    | error err =>
      rw [result] at found
      cases found
    | ok approved? =>
      rw [result] at found
      exact congrArg Except.ok found
  exact ⟨approved, isFloor, approval_profit answered twoPairs sampleDeployment (by decide)⟩

/-- A plan reverts in its simulation, is skipped at once, and is let through after half an hour. -/
def sampleCalls : List ValidatorCall :=
  [⟨sampleTokens, routedPlan, sampleReplies 1000 true⟩,
    ⟨sampleTokens, routedPlan, sampleReplies 1000000 false⟩,
    ⟨sampleTokens, routedPlan, sampleReplies 2000000 false⟩]

theorem approved_not_failed_sample :
    StepsMeet (ValidatorRun.step (fun _ => none) (fun _ => none) sampleDisplay fun _ => [])
      (fun state call => ∀ approved,
        (state.validator.prepare (fun _ => none) (fun _ => none) sampleDisplay (fun _ => [])
          call.tokens call.replies call.plan).1 = .ok (some approved) →
        ∀ key ∈ failureKeys sampleDisplay approved.exact,
          unexpiredFailure sampleDisplay (.fromEnv (fun _ => none) fun _ => none) state.failures
            call.replies.skipAt key = none)
      ⟨sampleValidator, [], 0⟩ sampleCalls :=
  approved_not_failed (fun _ => none) (fun _ => none) sampleDisplay (fun _ => []) sampleValidator
    rfl rfl sampleCalls
    ⟨⟨Nat.zero_le _, le_rfl, le_rfl⟩, ⟨by decide, le_rfl, le_rfl⟩, ⟨by decide, le_rfl, le_rfl⟩,
      trivial⟩

/-- The third call lets the plan through, the second one does not. -/
example : [1, 2].map (fun earlier =>
    (((runFrom (ValidatorRun.step (fun _ => none) (fun _ => none) sampleDisplay fun _ => [])
      ⟨sampleValidator, [], 0⟩ (sampleCalls.take earlier)).validator.prepare (fun _ => none)
      (fun _ => none) sampleDisplay (fun _ => []) sampleTokens
      (sampleReplies (earlier * 1000000) false) routedPlan).1.toOption.join.isSome)) =
        [false, true] := by decide +kernel

end DexArbitrage
