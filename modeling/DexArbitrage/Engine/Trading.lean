/-
This file is about what the engine hands to the submitter over a whole run, and
what that can cost.

A plan is handed over only when the validator lets it through and it keeps to
every limit. The losses of a day are booked when a receipt shows a reverted
transaction, and the limit on them is checked before each submission: so the
limit and the cost of one more transaction can be booked on a day, and no more.
A transaction whose receipt is not seen is not booked.
-/

import DexArbitrage.Engine.NonceGap
import DexArbitrage.Execution.Approval

namespace DexArbitrage

namespace RiskManager

/-- What a day has made or lost so far. -/
def pnl (risk : RiskManager) (day : Nat) : Int :=
  (risk.dailyPnlUsdE8.lookup day).getD 0

/-- The settings of a risk manager, without its counters. -/
def limits (risk : RiskManager) : RiskManager :=
  { risk with openTxCount := 0, dailyPnlUsdE8 := ∅ }

@[simp] theorem limits_markSubmitted (risk : RiskManager) :
    risk.markSubmitted.limits = risk.limits := rfl

@[simp] theorem limits_markFailedSubmission (risk : RiskManager) :
    risk.markFailedSubmission.limits = risk.limits := rfl

@[simp] theorem pnl_markFailedSubmission_markSubmitted (risk : RiskManager) :
    risk.markSubmitted.markFailedSubmission.pnl = risk.pnl := rfl

@[simp] theorem limits_markFinalized (risk : RiskManager) (realized : Int) (day : Nat) :
    (risk.markFinalized realized day).limits = risk.limits := by
  unfold markFinalized
  split
  · rfl
  · rfl

/-- After a submission was marked, its result is booked on the day of the receipt. -/
theorem pnl_markFinalized_markSubmitted (risk : RiskManager) (realized : Int) (receipt day : Nat) :
    (risk.markSubmitted.markFinalized realized receipt).pnl day =
      if day = receipt then wrapI128 (risk.pnl day + realized) else risk.pnl day := by
  have positive : risk.markSubmitted.openTxCount ≠ 0 := Nat.succ_ne_zero risk.openTxCount
  unfold markFinalized pnl
  rw [if_neg positive]
  dsimp only
  rw [HashMap.lookup_insert]
  split
  · rename_i same
    rw [same]
    rfl
  · rfl

end RiskManager

/-! ### What a candidate must pass -/

/-- A plan within the limits of the risk manager, on a day whose losses are within theirs. -/
structure WithinLimits (risk : RiskManager) (day : Nat) (exact : ExactPlan) : Prop where
  position : exact.inputValueUsdE8 ≤ risk.maxPositionUsdE8
  flashLoan : exact.capitalSource = .flashLoan ∨ exact.capitalSource = .mixedFlashLoan →
    exact.flashLoanValueUsdE8 ≤ risk.maxFlashLoanUsdE8
  profitable : 0 ≤ exact.netProfitUsdE8
  minProfit : (risk.minProfitUsdE8 : Int) ≤ exact.netProfitUsdE8
  openTx : risk.openTxCount < risk.maxConcurrentTx
  losses : -(risk.dailyLossLimitUsdE8 : Int) ≤ risk.pnl day

/-- A check that fails with an error was passed. -/
theorem of_guard_eq_ok {condition : Prop} [Decidable condition] {Error Value : Type}
    {error : Error} {rest : Except Error Value} {value : Value}
    (passed : (if condition then Except.error error else rest) = Except.ok value) :
    ¬ condition ∧ rest = .ok value := by
  split at passed
  · cases passed
  · rename_i fails
    exact ⟨fails, passed⟩

/-- A check that is made only in some cases was passed. -/
theorem of_guard_when_eq_ok {applies condition : Prop} [Decidable applies] [Decidable condition]
    {Error Value : Type} {error : Error} {rest : Except Error Value} {value : Value}
    (passed : (if applies then if condition then Except.error error else rest else rest) =
      Except.ok value) :
    (applies → ¬ condition) ∧ rest = .ok value := by
  split at passed
  · obtain ⟨fails, passed⟩ := of_guard_eq_ok passed
    exact ⟨fun _ => fails, passed⟩
  · rename_i notApplied
    exact ⟨fun applied => absurd applied notApplied, passed⟩

theorem withinLimits_of_preTradeCheck {risk : RiskManager} {plan : ExecutablePlan} {day : Nat}
    (passed : risk.preTradeCheck plan day = .ok ()) : WithinLimits risk day plan.exact := by
  unfold RiskManager.preTradeCheck at passed
  simp only [bind, Except.bind, pure, Except.pure, throw, throwThe, MonadExceptOf.throw] at passed
  obtain ⟨position, passed⟩ := of_guard_eq_ok passed
  obtain ⟨flashLoan, passed⟩ := of_guard_when_eq_ok passed
  obtain ⟨profit, passed⟩ := of_guard_eq_ok passed
  obtain ⟨openTx, passed⟩ := of_guard_eq_ok passed
  obtain ⟨losses, -⟩ := of_guard_eq_ok passed
  rw [not_or, Int.not_lt, Int.not_lt] at profit
  refine ⟨Nat.not_lt.mp position, fun borrows => Nat.not_lt.mp (flashLoan borrows), profit.1,
    profit.2, Nat.not_le.mp openTx, ?_⟩
  unfold RiskManager.pnl
  omega

theorem i128ToI64Saturating_nonneg {value : Int} (positive : 0 ≤ value) :
    0 ≤ i128ToI64Saturating value :=
  le_max_of_le_right (le_min positive (by decide))

section Step

variable {config : EngineConfig} {guard : DepegGuard} {engine : EngineState}
  {input : CandidateInput} {executable : ExecutablePlan}

/-- The plan that goes to the validator: the routed one, or the one the verification found. -/
def planToValidate (config : EngineConfig) (input : CandidateInput) : Option ExactPlan :=
  if shouldVerifyRankedRoute config input.plan then
    match input.verify with
    | .done verified => verified
    | _ => none
  else
    some input.plan

/-- The checks of one plan: the validator, the stable tokens, the limits. -/
def checkPlan (config : EngineConfig) (guard : DepegGuard) (risk : RiskManager)
    (input : CandidateInput) (plan : ExactPlan) : Except CandidateProcessResult ExecutablePlan :=
  match input.prepare plan with
  | .error _ => .error (.new .validationRejected none none)
  | .ok none => .error (.new .validationRejected none none)
  | .ok (some executable) =>
    if executable.exact.hops.any fun hop =>
        ! guard.tokenIsHealthy hop.tokenIn || ! guard.tokenIsHealthy hop.tokenOut then
      .error (.new .depegRejected none (some executable.exact))
    else
      match risk.preTradeCheck executable input.dayAtCheck with
      | .error _ => .error (.new .riskRejected none (some executable.exact))
      | .ok () =>
        if config.simulateOnly then
          .error (.new .simulated none (some executable.exact))
        else
          .ok executable

/-- What is about to be submitted is a plan that passed the checks. -/
theorem checkPlan_of_readyToSubmit {risk : RiskManager}
    (isReady : readyToSubmit config guard risk input = .ok executable) :
    ∃ plan, planToValidate config input = some plan ∧
      checkPlan config guard risk input plan = .ok executable := by
  unfold readyToSubmit at isReady
  simp only [bind, Except.bind, pure, Except.pure, throw, throwThe, MonadExceptOf.throw] at isReady
  unfold planToValidate
  split at isReady
  · rename_i verifies
    rw [if_pos verifies]
    split at isReady
    · cases isReady
    · cases isReady
    · cases isReady
    · rename_i verified found
      rw [found]
      exact ⟨verified, rfl, isReady⟩
  · rename_i unverified
    rw [if_neg unverified]
    exact ⟨input.plan, rfl, isReady⟩

/-- What a plan that is about to be submitted has passed. -/
structure Ready (config : EngineConfig) (guard : DepegGuard) (risk : RiskManager)
    (input : CandidateInput) (executable : ExecutablePlan) : Prop where
  prepared : ∃ plan, planToValidate config input = some plan ∧
    input.prepare plan = .ok (some executable)
  healthy : ∀ hop ∈ executable.exact.hops,
    guard.tokenIsHealthy hop.tokenIn = true ∧ guard.tokenIsHealthy hop.tokenOut = true
  limits : WithinLimits risk input.dayAtCheck executable.exact
  notSimulated : config.simulateOnly = false

theorem ready_of_readyToSubmit {risk : RiskManager}
    (isReady : readyToSubmit config guard risk input = .ok executable) :
    Ready config guard risk input executable := by
  obtain ⟨plan, isPlan, checked⟩ := checkPlan_of_readyToSubmit isReady
  unfold checkPlan at checked
  split at checked
  · cases checked
  · cases checked
  · rename_i prepared answered
    obtain ⟨healthy, checked⟩ := of_guard_eq_ok checked
    split at checked
    · cases checked
    · rename_i passed
      obtain ⟨notSimulated, checked⟩ := of_guard_eq_ok checked
      cases checked
      refine ⟨⟨plan, isPlan, answered⟩, ?_, withinLimits_of_preTradeCheck passed,
        Bool.eq_false_of_not_eq_true notSimulated⟩
      intro hop member
      have both := List.any_eq_false.mp (Bool.eq_false_of_not_eq_true healthy) hop member
      rw [Bool.or_eq_true, not_or, Bool.not_eq_true', Bool.not_eq_true'] at both
      exact ⟨Bool.eq_true_of_not_eq_false both.1, Bool.eq_true_of_not_eq_false both.2⟩

/-! ### What one candidate books -/

/-- The settings of the risk manager stay, and the result of a transaction whose receipt was seen
is booked on the day of the receipt. -/
structure Booked (config : EngineConfig) (guard : DepegGuard) (engine : EngineState)
    (input : CandidateInput) : Prop where
  limits : (processStep config guard engine input).risk.limits = engine.risk.limits
  pnl : (processStep config guard engine input).risk.pnl = engine.risk.pnl ∨
    ∃ executable realized, readyToSubmit config guard engine.risk input = .ok executable ∧
      (realized = i128ToI64Saturating executable.exact.netProfitUsdE8 ∨
        realized = -executable.exact.gasCostUsdE8) ∧
      ∀ day, (processStep config guard engine input).risk.pnl day =
        if day = input.dayAtReceipt then wrapI128 (engine.risk.pnl day + realized)
          else engine.risk.pnl day

theorem booked_processStep (config : EngineConfig) (guard : DepegGuard) (engine : EngineState)
    (input : CandidateInput) : Booked config guard engine input := by
  cases isReady : readyToSubmit config guard engine.risk input with
  | error result =>
    have same := processStep_rejected isReady
    exact ⟨by rw [same], Or.inl (by rw [same])⟩
  | ok executable =>
    cases submit : input.submit { executable with nonce := engine.nonces.nextNonce } with
    | error error =>
      have same := processStep_refused ⟨executable, error, isReady, submit⟩
      exact ⟨by rw [same]; rfl, Or.inl (by rw [same]; rfl)⟩
    | ok result =>
      have step : processStep config guard engine input =
          (submitCandidate engine executable input).2 := by
        unfold processStep processRoutedCandidate
        rw [isReady]
      unfold submitCandidate at step
      simp only [NonceManager.reserve_fst, submit] at step
      split at step
      · refine ⟨by rw [step]; exact RiskManager.limits_markFinalized _ _ _, Or.inr
          ⟨executable, _, isReady, Or.inl rfl, fun day => ?_⟩⟩
        rw [step]
        exact RiskManager.pnl_markFinalized_markSubmitted _ _ _ day
      · refine ⟨by rw [step]; exact RiskManager.limits_markFinalized _ _ _, Or.inr
          ⟨executable, _, isReady, Or.inr rfl, fun day => ?_⟩⟩
        rw [step]
        exact RiskManager.pnl_markFinalized_markSubmitted _ _ _ day
      · exact ⟨by rw [step]; rfl, Or.inl (by rw [step]; rfl)⟩
      · exact ⟨by rw [step]; rfl, Or.inl (by rw [step]; rfl)⟩

end Step

/-! ### The validator keeps its settings -/

section Settings

variable {texts : EnvironmentTexts} {env : Environment} {displayAddress : Address → String}
  {encodeCall : EntryPoint → Bytes} {tokens : List TokenInfo} {validator : Validator}

/-- What the validator was set up with, and what no call changes. -/
def Validator.setUp (validator : Validator) : ValidatorSettings × Nat :=
  (validator.settings, validator.gasTracker.ceilingWei)

theorem setUp_priceGas (replies : ValidatorReplies) (plan : ExactPlan) (token : TokenInfo) :
    (validator.priceGas texts env encodeCall tokens replies plan token).2.setUp =
      validator.setUp := by
  unfold Validator.priceGas
  dsimp only
  split
  · rfl
  · rfl
  · have kept : ∀ gasLimit calldataLen,
        ({ validator with gasTracker := (validator.gasTracker.quote env replies.gas gasLimit
          calldataLen).2 } : Validator).setUp = validator.setUp := fun gasLimit calldataLen =>
      Prod.ext rfl (ceilingWei_quote validator.gasTracker replies.gas gasLimit calldataLen)
    split
    · exact kept _ _
    · split
      · exact kept _ _
      · split
        · exact kept _ _
        · split
          · exact kept _ _
          · exact kept _ _

variable (displayAddress validator) in
theorem setUp_fundPlan (replies : ValidatorReplies) (plan : ExactPlan) (token : TokenInfo) :
    (validator.fundPlan displayAddress replies plan token).2.setUp = validator.setUp := by
  unfold Validator.fundPlan
  cases validator.capitalSelector.choose replies.balanceOf replies.balanceNow replies.balanceLater
    plan token with
  | mk choice? selector =>
    cases choice? with
    | none => rfl
    | some choice =>
      dsimp only
      split
      · rfl
      · split
        · rfl
        · rfl

theorem setUp_pricePlan (replies : ValidatorReplies) (plan : ExactPlan) :
    (validator.pricePlan texts env displayAddress encodeCall tokens replies plan).2.setUp =
      validator.setUp := by
  unfold Validator.pricePlan
  split
  · rfl
  · rename_i token _
    split
    · rfl
    · rename_i inputValueUsdE8 _
      have funded := setUp_fundPlan displayAddress validator replies
        { plan with inputValueUsdE8 } token
      split
      · rename_i answered
        rw [answered] at funded
        exact funded
      · rename_i answered
        rw [answered] at funded
        exact (setUp_priceGas _ _ _).trans funded

theorem setUp_prepare (replies : ValidatorReplies) (plan : ExactPlan) :
    (validator.prepare texts env displayAddress encodeCall tokens replies plan).2.setUp =
      validator.setUp := by
  have priced : (validator.pricePlan texts env displayAddress encodeCall tokens replies
      plan).2.setUp = validator.setUp := setUp_pricePlan replies plan
  unfold Validator.prepare
  split
  · rename_i answered
    rw [answered] at priced
    exact priced
  · rename_i answered
    rw [answered] at priced
    exact priced
  · rename_i answered
    rw [answered] at priced
    dsimp only
    split
    · split
      · exact priced
      · exact priced
    · exact priced

end Settings

/-! ### The engine with its validator -/

/-- A routed candidate, and what the outside world answers to the validator and to the engine. -/
structure TradingInput where
  plan : ExactPlan
  verify : VerifyOutcome
  tokens : List TokenInfo
  replies : ValidatorReplies
  submit : ExecutablePlan → Except RpcError SubmissionResult
  waitForReceipt : B256 → Except RpcError ReceiptOutcome
  now : Instant
  later : Instant
  dayAtCheck : Nat
  dayAtReceipt : Nat

/-- The engine, its validator, the day on which its calendar was read last, and the plans that were
handed to the submitter, latest first. -/
structure TradingState where
  engine : EngineState
  validator : Validator
  day : Nat
  handed : List ExecutablePlan

section Run

variable (texts : EnvironmentTexts) (env : Environment) (displayAddress : Address → String)
  (encodeCall : EntryPoint → Bytes) (config : EngineConfig) (guard : DepegGuard)

/-- The candidate, with the validator as it is. -/
def TradingInput.candidate (input : TradingInput) (validator : Validator) : CandidateInput where
  plan := input.plan
  verify := input.verify
  prepare := fun plan => (validator.prepare texts env displayAddress encodeCall input.tokens
    input.replies plan).1
  submit := input.submit
  waitForReceipt := input.waitForReceipt
  now := input.now
  later := input.later
  dayAtCheck := input.dayAtCheck
  dayAtReceipt := input.dayAtReceipt

/-- The plan that this candidate hands to the submitter. -/
def handedOver (state : TradingState) (input : TradingInput) : Option ExecutablePlan :=
  ((readyToSubmit config guard state.engine.risk
    (input.candidate texts env displayAddress encodeCall state.validator)).toOption).map
      fun executable => { executable with nonce := state.engine.nonces.nextNonce }

def TradingState.step (state : TradingState) (input : TradingInput) : TradingState where
  engine := processStep config guard state.engine
    (input.candidate texts env displayAddress encodeCall state.validator)
  validator :=
    match planToValidate config
      (input.candidate texts env displayAddress encodeCall state.validator) with
    | some plan => (state.validator.prepare texts env displayAddress encodeCall input.tokens
        input.replies plan).2
    | none => state.validator
  day := input.dayAtReceipt
  handed := (handedOver texts env displayAddress encodeCall config guard state input).toList ++
    state.handed

variable {texts env displayAddress encodeCall config guard}

theorem ready_of_mem_handedOver {state : TradingState} {input : TradingInput}
    {executable : ExecutablePlan}
    (isHanded : handedOver texts env displayAddress encodeCall config guard state input =
      some executable) :
    ∃ nonce, Ready config guard state.engine.risk
      (input.candidate texts env displayAddress encodeCall state.validator)
      { executable with nonce } := by
  obtain ⟨ready, isReady, same⟩ := Option.map_eq_some_iff.mp isHanded
  refine ⟨ready.nonce, ?_⟩
  rw [← same]
  cases answered : readyToSubmit config guard state.engine.risk
      (input.candidate texts env displayAddress encodeCall state.validator) with
  | error result =>
    rw [answered] at isReady
    cases isReady
  | ok other =>
    rw [answered] at isReady
    cases isReady
    exact ready_of_readyToSubmit answered

/-! ### What a day can lose -/

/-- The days are read in order: at the check of a candidate, then at its receipt. -/
def DaysInOrder (state : TradingState) (input : TradingInput) : Prop :=
  state.day ≤ input.dayAtCheck ∧ input.dayAtCheck ≤ input.dayAtReceipt

variable (texts env displayAddress encodeCall config guard) in
/-- Whatever receipt the plan that is handed over gets, what is then booked on the day of the
receipt fits into 128 bits. -/
def BookingFits (state : TradingState) (input : TradingInput) : Prop :=
  ∀ executable ∈ handedOver texts env displayAddress encodeCall config guard state input,
      FitsI128 (state.engine.risk.pnl input.dayAtReceipt +
        i128ToI64Saturating executable.exact.netProfitUsdE8) ∧
      FitsI128 (state.engine.risk.pnl input.dayAtReceipt + -executable.exact.gasCostUsdE8)

instance (state : TradingState) (input : TradingInput) :
    Decidable (BookingFits texts env displayAddress encodeCall config guard state input) :=
  inferInstanceAs (Decidable (∀ executable ∈ handedOver texts env displayAddress encodeCall config
    guard state input, _ ∧ _))

/-- The losses booked on a day are within a limit, but for the cost of one transaction. -/
def LossesWithin (limit : Nat) (state : TradingState) (day : Nat) : Prop :=
  -(limit : Int) ≤ state.engine.risk.pnl day ∨
    ∃ executable ∈ state.handed,
      -(limit : Int) - executable.exact.gasCostUsdE8 ≤ state.engine.risk.pnl day

/-- Every day has kept to the limit, and nothing is booked ahead. -/
structure DaysKept (limit : Nat) (state : TradingState) : Prop where
  isLimit : state.engine.risk.dailyLossLimitUsdE8 = limit
  losses : ∀ day, LossesWithin limit state day
  ahead : ∀ day, state.day < day → state.engine.risk.pnl day = 0

theorem LossesWithin.of_le {limit day : Nat} {state after : TradingState}
    (within : LossesWithin limit state day)
    (more : state.engine.risk.pnl day ≤ after.engine.risk.pnl day)
    (handed : state.handed <:+ after.handed) : LossesWithin limit after day := by
  rcases within with free | ⟨executable, member, losses⟩
  · exact Or.inl (free.trans more)
  · exact Or.inr ⟨executable, handed.mem member, losses.trans more⟩

/-- A step books nothing, or on the day of the receipt the profit or the cost of the plan that it
hands over, which the checks of the day of the check let through. -/
theorem booked_step {state : TradingState} {input : TradingInput}
    (fits : BookingFits texts env displayAddress encodeCall config guard state input) :
    let after := state.step texts env displayAddress encodeCall config guard input
    after.engine.risk.pnl = state.engine.risk.pnl ∨
      ∃ executable ∈ after.handed, ∃ realized,
        WithinLimits state.engine.risk input.dayAtCheck executable.exact ∧
        (realized = i128ToI64Saturating executable.exact.netProfitUsdE8 ∨
          realized = -executable.exact.gasCostUsdE8) ∧
        after.engine.risk.pnl input.dayAtReceipt =
          state.engine.risk.pnl input.dayAtReceipt + realized ∧
        ∀ day, day ≠ input.dayAtReceipt →
          after.engine.risk.pnl day = state.engine.risk.pnl day := by
  intro after
  rcases (booked_processStep config guard state.engine
    (input.candidate texts env displayAddress encodeCall state.validator)).2 with
    same | ⟨executable, realized, isReady, isRealized, books⟩
  · exact Or.inl same
  · have isHanded : handedOver texts env displayAddress encodeCall config guard state input =
        some { executable with nonce := state.engine.nonces.nextNonce } := by
      unfold handedOver
      rw [isReady]
      rfl
    refine Or.inr ⟨{ executable with nonce := state.engine.nonces.nextNonce }, ?_, realized,
      (ready_of_readyToSubmit isReady).limits, isRealized, ?_, fun day other => ?_⟩
    · exact List.mem_append_left _ (Option.mem_toList.mpr isHanded)
    · obtain ⟨profitFits, costFits⟩ := fits _ isHanded
      refine (books input.dayAtReceipt).trans ((if_pos rfl).trans ?_)
      rcases isRealized with rfl | rfl
      · exact wrapI128_of_fits profitFits
      · exact wrapI128_of_fits costFits
    · exact (books day).trans (if_neg other)

theorem daysKept_step {limit : Nat} {state : TradingState} {input : TradingInput}
    (kept : DaysKept limit state) (inOrder : DaysInOrder state input)
    (fits : BookingFits texts env displayAddress encodeCall config guard state input) :
    DaysKept limit (state.step texts env displayAddress encodeCall config guard input) := by
  have booked := booked_step fits
  have sameLimit := congrArg RiskManager.dailyLossLimitUsdE8 (booked_processStep config guard
    state.engine (input.candidate texts env displayAddress encodeCall state.validator)).1
  have grown : state.handed <:+
      (state.step texts env displayAddress encodeCall config guard input).handed :=
    List.suffix_append _ _
  have isDay : (state.step texts env displayAddress encodeCall config guard input).day =
      input.dayAtReceipt := rfl
  refine ⟨sameLimit.trans kept.isLimit, fun day => ?_, fun day later => ?_⟩
  · rcases booked with same | ⟨executable, member, realized, limits, isRealized, books, others⟩
    · exact (kept.losses day).of_le (congrFun same day).ge grown
    · by_cases isReceipt : day = input.dayAtReceipt
      · subst isReceipt
        rcases isRealized with profit | cost
        · have positive := i128ToI64Saturating_nonneg limits.profitable
          rw [← profit] at positive
          exact (kept.losses _).of_le (by omega) grown
        · -- The check was made on this day, or nothing had been booked on this day.
          have before : -(limit : Int) ≤ state.engine.risk.pnl input.dayAtReceipt := by
            rcases inOrder.2.eq_or_lt with sameDay | nextDay
            · have checked := limits.losses
              rw [kept.isLimit, sameDay] at checked
              exact checked
            · rw [kept.ahead _ (inOrder.1.trans_lt nextDay)]
              omega
          exact Or.inr ⟨executable, member, by omega⟩
      · exact (kept.losses day).of_le (others day isReceipt).ge grown
  · rw [isDay] at later
    have ahead := kept.ahead day ((inOrder.1.trans inOrder.2).trans_lt later)
    rcases booked with same | ⟨executable, member, realized, limits, isRealized, books, others⟩
    · exact (congrFun same day).trans ahead
    · exact (others day later.ne').trans ahead

/-- In every run of a new engine, over days that are read in order and with sums that fit into 128
bits, no more losses are booked on a day than the limit and the cost of one of the transactions that
were handed to the submitter. -/
theorem dailyLosses_within (start : TradingState)
    (new : start.engine.risk.dailyPnlUsdE8 = ∅) (inputs : List TradingInput)
    (inOrder : StepsMeet (TradingState.step texts env displayAddress encodeCall config guard)
      DaysInOrder start inputs)
    (fits : StepsMeet (TradingState.step texts env displayAddress encodeCall config guard)
      (BookingFits texts env displayAddress encodeCall config guard) start inputs) :
    Always (TradingState.step texts env displayAddress encodeCall config guard)
      (fun state => ∀ day, LossesWithin start.engine.risk.dailyLossLimitUsdE8 state day)
      start inputs := by
  have nothing : ∀ day, start.engine.risk.pnl day = 0 := by
    intro day
    unfold RiskManager.pnl
    rw [new]
    rfl
  refine Always.mono (fun state (kept : DaysKept start.engine.risk.dailyLossLimitUsdE8 state) =>
    kept.losses) (always_of_stepsMeet (fun state input held meets =>
      daysKept_step held meets.1 meets.2) ?_ (stepsMeet_and.mpr ⟨inOrder, fits⟩))
  refine ⟨rfl, fun day => Or.inl ?_, fun day _ => nothing day⟩
  rw [nothing day]
  omega

/-! ### What is handed to the submitter -/

/-- A plan as it has to be to be submitted: within the limits that the engine and the validator
were set up with, over healthy tokens, and with a floor of the profit that the executor keeps. -/
structure FitToSubmit (encodeCall : EntryPoint → Bytes) (guard : DepegGuard)
    (limits : RiskManager) (setUp : ValidatorSettings × Nat) (executable : ExecutablePlan) :
    Prop where
  position : executable.exact.inputValueUsdE8 ≤ limits.maxPositionUsdE8
  flashLoan : executable.exact.capitalSource = .flashLoan ∨
    executable.exact.capitalSource = .mixedFlashLoan →
      executable.exact.flashLoanValueUsdE8 ≤ limits.maxFlashLoanUsdE8
  profitable : 0 ≤ executable.exact.netProfitUsdE8
  minProfit : (limits.minProfitUsdE8 : Int) ≤ executable.exact.netProfitUsdE8
  validated : wrapI128 setUp.1.minNetProfitUsdE8 ≤ executable.exact.netProfitUsdE8
  belowCeiling : executable.maxFeePerGas ≤ setUp.2
  healthy : ∀ hop ∈ executable.exact.hops,
    guard.tokenIsHealthy hop.tokenIn = true ∧ guard.tokenIsHealthy hop.tokenOut = true
  calldata : executable.calldata =
    encodeCall (buildCalldata executable.exact executable.deadlineUnix)
  floor : ∀ {Foreign : Type} (external : External Foreign) (deployment : Deployment),
    external.standard executable.exact.inputToken = true →
      FloorKept external deployment executable

theorem fitToSubmit_of_handedOver {state : TradingState} {input : TradingInput}
    {executable : ExecutablePlan}
    (isHanded : handedOver texts env displayAddress encodeCall config guard state input =
      some executable) :
    FitToSubmit encodeCall guard state.engine.risk.limits state.validator.setUp executable := by
  obtain ⟨nonce, ready⟩ := ready_of_mem_handedOver isHanded
  obtain ⟨plan, _, answered⟩ := ready.prepared
  have approved := approved_of_prepare (Prod.ext answered rfl)
  refine ⟨ready.limits.position, ready.limits.flashLoan, ready.limits.profitable,
    ready.limits.minProfit, approved.profitable, approved.belowCeiling, ready.healthy,
    approved.calldata, ?_⟩
  intro Foreign external deployment standard
  have isInput : executable.exact.inputToken = plan.inputToken := approved.trade.inputToken
  rw [isInput] at standard
  exact approved.floorKept deployment standard

theorem setUp_step (state : TradingState) (input : TradingInput) :
    (state.step texts env displayAddress encodeCall config guard input).validator.setUp =
      state.validator.setUp := by
  unfold TradingState.step
  dsimp only
  split
  · exact setUp_prepare _ _
  · rfl

/-- Nothing has changed the limits, and every plan handed over is fit. -/
structure HandedFit (encodeCall : EntryPoint → Bytes) (guard : DepegGuard)
    (limits : RiskManager) (setUp : ValidatorSettings × Nat) (state : TradingState) : Prop where
  sameLimits : state.engine.risk.limits = limits
  sameSetUp : state.validator.setUp = setUp
  fit : ∀ executable ∈ state.handed, FitToSubmit encodeCall guard limits setUp executable

theorem handedFit_step {limits : RiskManager} {setUp : ValidatorSettings × Nat}
    {state : TradingState} (input : TradingInput)
    (held : HandedFit encodeCall guard limits setUp state) :
    HandedFit encodeCall guard limits setUp
      (state.step texts env displayAddress encodeCall config guard input) := by
  refine ⟨(booked_processStep _ _ _ _).limits.trans held.sameLimits,
    (setUp_step state input).trans held.sameSetUp, fun executable member => ?_⟩
  rcases List.mem_append.mp member with handed | earlier
  · rw [← held.sameLimits, ← held.sameSetUp]
    exact fitToSubmit_of_handedOver (Option.mem_toList.mp handed)
  · exact held.fit executable earlier

/-- In every run that starts with nothing handed over, whatever the outside world answers, every
plan that is handed to the submitter is fit to be submitted. -/
theorem handed_fitToSubmit (engine : EngineState) (validator : Validator) (day : Nat)
    (inputs : List TradingInput) :
    Always (TradingState.step texts env displayAddress encodeCall config guard)
      (fun state => ∀ executable ∈ state.handed,
        FitToSubmit encodeCall guard engine.risk.limits validator.setUp executable)
      ⟨engine, validator, day, []⟩ inputs := by
  refine Always.mono (fun _ held => held.fit) (always_of_stepsMeet
    (fun state input held _ => handedFit_step input held) ?_
    (stepsMeet_of_forall (fun _ _ => trivial) _ _))
  exact ⟨rfl, rfl, fun _ member => (nomatch member)⟩

end Run

/-! ### A day of reverted transactions -/

/-- An engine that accepts no loss. -/
def sampleTrading : TradingState where
  engine :=
    { nonces := .withReplacement false
      risk := { openRiskManager with maxPositionUsdE8 := 10 ^ 12, maxFlashLoanUsdE8 := 10 ^ 12 }
      accepted := [] }
  validator :=
    { sampleValidator with gasTracker := { sampleValidator.gasTracker with ceilingWei := 10 ^ 12 } }
  day := 0
  handed := []

/-- A candidate whose transaction reverts. -/
def revertingInput (day : Nat) : TradingInput where
  plan := routedPlan
  verify := .done none
  tokens := [sampleToken tokenA "USDC", { sampleToken 12 "WMATIC" with decimals := 18 }]
  replies := { sampleReplies 1000 false with gas := gasRepliesAt 1000 (.ok (10 ^ 11)) }
  submit := fun _ => .ok { txHash := 1, channel := "public" }
  waitForReceipt := fun _ => .ok .reverted
  now := 1000
  later := 1000
  dayAtCheck := day
  dayAtReceipt := day

theorem dailyLosses_within_reverts :
    Always (TradingState.step (fun _ => none) (fun _ => none) sampleDisplay (fun _ => [])
        openEngineConfig emptyGuard)
      (fun state => ∀ day, LossesWithin 0 state day) sampleTrading
      ([1, 1, 2].map revertingInput) :=
  dailyLosses_within sampleTrading rfl ([1, 1, 2].map revertingInput)
    ⟨⟨by decide, le_rfl⟩, ⟨le_rfl, le_rfl⟩, ⟨(by decide : 1 ≤ 2), le_rfl⟩, trivial⟩
    ⟨by decide +kernel, by decide +kernel, by decide +kernel, trivial⟩

/-- The second candidate of the first day is not handed over, the one of the next day is. -/
example : [1, 2, 3].map (fun count =>
    (runFrom (TradingState.step (fun _ => none) (fun _ => none) sampleDisplay (fun _ => [])
      openEngineConfig emptyGuard) sampleTrading
        (([1, 1, 2].take count).map revertingInput)).handed.length) = [1, 1, 2] := by decide +kernel


end DexArbitrage
