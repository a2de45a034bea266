/-
This file models `process_routed_candidate` of `src/engine.rs`: what the engine
does with one ranked route, from the optional verification search to the
receipt of the submitted transaction.

The outside world answers every call the function makes: the verification
search, the validator, the submission channels and the receipt poll. One
`CandidateInput` holds these answers, so a run of the engine over a sequence of
candidates is a run of `processStep` over a list of inputs, and a statement
about every list of inputs covers every pattern of outcomes.

`EngineState.accepted` is what the network saw: the nonces of the transactions
a submission channel accepted, the latest first.
-/

import DexArbitrage.Execution.NonceManager
import DexArbitrage.Risk.Limits

namespace DexArbitrage

structure SubmissionResult where
  txHash : B256
  channel : String
  deriving DecidableEq, Repr

inductive ReceiptOutcome
  | included
  | reverted
  | timedOut
  deriving DecidableEq, Repr

inductive CandidateVerdict
  | noRoute
  | validationRejected
  | depegRejected
  | riskRejected
  | simulated
  | submitted
  | submissionRejected
  deriving DecidableEq, Repr

structure CandidateProcessResult where
  verdict : CandidateVerdict
  submission : Option SubmissionResult
  exact : Option ExactPlan
  routerTimedOut : Bool
  deriving DecidableEq, Repr

namespace CandidateProcessResult

def new (verdict : CandidateVerdict) (submission : Option SubmissionResult)
    (exact : Option ExactPlan) : CandidateProcessResult :=
  { verdict, submission, exact, routerTimedOut := false }

def routerTimeout (verdict : CandidateVerdict) (submission : Option SubmissionResult)
    (exact : Option ExactPlan) : CandidateProcessResult :=
  { verdict, submission, exact, routerTimedOut := true }

end CandidateProcessResult

structure EngineConfig where
  verifyRankedRouteBeforeValidation : Bool
  verifyRankedRouteAllAdapters : Bool
  simulateOnly : Bool
  deriving DecidableEq, Repr

/-- How the verification search of a ranked route ended. -/
inductive VerifyOutcome
  | timeout
  | error (error : RpcError)
  | done (plan : Option ExactPlan)

/-- A routed candidate and the answers of the outside world to the calls made for it. -/
structure CandidateInput where
  plan : ExactPlan
  verify : VerifyOutcome
  prepare : ExactPlan → Except RpcError (Option ExecutablePlan)
  submit : ExecutablePlan → Except RpcError SubmissionResult
  waitForReceipt : B256 → Except RpcError ReceiptOutcome
  now : Instant
  later : Instant
  dayAtCheck : Nat
  dayAtReceipt : Nat

structure EngineState where
  nonces : NonceManager
  risk : RiskManager
  accepted : List Nat

def i128ToI64Saturating (value : Int) : Int :=
  max (-2 ^ 63) (min value (2 ^ 63 - 1))

def shouldVerifyRankedRoute (config : EngineConfig) (plan : ExactPlan) : Bool :=
  if ¬ config.verifyRankedRouteBeforeValidation then
    false
  else if config.verifyRankedRouteAllAdapters then
    true
  else
    plan.hops.any fun hop => hop.splits.any fun split =>
      split.adapterType = .uniswapV3Like ∨ split.adapterType = .traderJoeLb

/-- The first part of `process_routed_candidate`: everything before the nonce is reserved. The
result is either the rejection that is returned or the plan that is about to be submitted. -/
def readyToSubmit (config : EngineConfig) (guard : DepegGuard) (risk : RiskManager)
    (input : CandidateInput) : Except CandidateProcessResult ExecutablePlan := do
  let mut plan := input.plan
  if shouldVerifyRankedRoute config plan then
    match input.verify with
    | .timeout => throw (.routerTimeout .noRoute none none)
    | .error _ => throw (.new .noRoute none none)
    | .done none => throw (.new .noRoute none none)
    | .done (some verified) => plan := verified
  match input.prepare plan with
  | .error _ => throw (.new .validationRejected none none)
  | .ok none => throw (.new .validationRejected none none)
  | .ok (some executable) =>
    if executable.exact.hops.any fun hop =>
        ! guard.tokenIsHealthy hop.tokenIn || ! guard.tokenIsHealthy hop.tokenOut then
      throw (.new .depegRejected none (some executable.exact))
    match risk.preTradeCheck executable input.dayAtCheck with
    | .error _ => throw (.new .riskRejected none (some executable.exact))
    | .ok () =>
      if config.simulateOnly then
        throw (.new .simulated none (some executable.exact))
      return executable

/-- The second part of `process_routed_candidate`: reserve a nonce, submit, wait for the receipt. -/
def submitCandidate (engine : EngineState) (executable : ExecutablePlan)
    (input : CandidateInput) : CandidateProcessResult × EngineState :=
  let (nonce, nonces) := engine.nonces.reserve
  let executable := { executable with nonce }
  let risk := engine.risk.markSubmitted
  match input.submit executable with
  | .ok result =>
    let nonces := nonces.markSubmitted nonce result.txHash executable.maxPriorityFeePerGas
      executable.maxFeePerGas input.now input.later
    let accepted := nonce :: engine.accepted
    match input.waitForReceipt result.txHash with
    | .ok .included =>
      let realized := i128ToI64Saturating executable.exact.netProfitUsdE8
      (.new .submitted (some result) (some executable.exact),
        { nonces := nonces.markIncluded nonce
          risk := risk.markFinalized realized input.dayAtReceipt
          accepted })
    | .ok .reverted =>
      (.new .submissionRejected none (some executable.exact),
        { nonces := nonces.markIncluded nonce
          risk := risk.markFinalized (-executable.exact.gasCostUsdE8) input.dayAtReceipt
          accepted })
    -- Neither a timeout nor a receipt error touches the nonce: it stays submitted.
    | .ok .timedOut =>
      (.new .submissionRejected none (some executable.exact),
        { nonces, risk := risk.markFailedSubmission, accepted })
    | .error _ =>
      (.new .submissionRejected none (some executable.exact),
        { nonces, risk := risk.markFailedSubmission, accepted })
  | .error _ =>
    (.new .submissionRejected none (some executable.exact),
      { nonces := nonces.markDropped nonce
        risk := risk.markFailedSubmission
        accepted := engine.accepted })

def processRoutedCandidate (config : EngineConfig) (guard : DepegGuard) (engine : EngineState)
    (input : CandidateInput) : CandidateProcessResult × EngineState :=
  match readyToSubmit config guard engine.risk input with
  | .error result => (result, engine)
  | .ok executable => submitCandidate engine executable input

/-- One candidate as a step of the engine. -/
def processStep (config : EngineConfig) (guard : DepegGuard) (engine : EngineState)
    (input : CandidateInput) : EngineState :=
  (processRoutedCandidate config guard engine input).2

/-- The candidate reaches submission and a channel accepts the transaction. -/
def SubmissionAccepted (config : EngineConfig) (guard : DepegGuard) (engine : EngineState)
    (input : CandidateInput) : Prop :=
  ∃ executable result, readyToSubmit config guard engine.risk input = .ok executable ∧
    input.submit { executable with nonce := engine.nonces.nextNonce } = .ok result

/-- The candidate reaches submission and every channel refuses the transaction. -/
def SubmissionRefused (config : EngineConfig) (guard : DepegGuard) (engine : EngineState)
    (input : CandidateInput) : Prop :=
  ∃ executable error, readyToSubmit config guard engine.risk input = .ok executable ∧
    input.submit { executable with nonce := engine.nonces.nextNonce } = .error error

/-! ### What one candidate can do -/

/-- A candidate that never reaches submission leaves the engine as it was. -/
theorem processStep_rejected {config : EngineConfig} {guard : DepegGuard} {engine : EngineState}
    {input : CandidateInput} {result : CandidateProcessResult}
    (rejected : readyToSubmit config guard engine.risk input = .error result) :
    processStep config guard engine input = engine := by
  simp only [processStep, processRoutedCandidate, rejected]

/-- A refused submission burns the reserved nonce and marks it dropped. -/
theorem processStep_refused {config : EngineConfig} {guard : DepegGuard} {engine : EngineState}
    {input : CandidateInput} (refused : SubmissionRefused config guard engine input) :
    processStep config guard engine input =
      { nonces := engine.nonces.reserve.2.markDropped engine.nonces.nextNonce
        risk := engine.risk.markSubmitted.markFailedSubmission
        accepted := engine.accepted } := by
  obtain ⟨executable, error, ready, submit⟩ := refused
  simp only [processStep, processRoutedCandidate, ready, submitCandidate,
    NonceManager.reserve_fst, submit]

/-- An accepted submission broadcasts the reserved nonce; whatever the receipt says, the counter
has moved by one and the nonce is submitted or included, never dropped. -/
theorem processStep_accepted {config : EngineConfig} {guard : DepegGuard} {engine : EngineState}
    {input : CandidateInput} (accepts : SubmissionAccepted config guard engine input) :
    (processStep config guard engine input).accepted =
        engine.nonces.nextNonce :: engine.accepted ∧
      (processStep config guard engine input).nonces.nextNonce =
        (engine.nonces.nextNonce + 1) % 2 ^ 64 ∧
      ∃ state, state ≠ .dropped ∧ ∀ nonce,
        (processStep config guard engine input).nonces.getState nonce =
          if nonce = engine.nonces.nextNonce then some state else engine.nonces.getState nonce := by
  obtain ⟨executable, result, ready, submit⟩ := accepts
  simp only [processStep, processRoutedCandidate, ready, submitCandidate,
    NonceManager.reserve_fst, submit]
  split
  · refine ⟨rfl, rfl, .included, by simp, fun nonce => ?_⟩
    simp only [NonceManager.getState_markIncluded, NonceManager.getState_markSubmitted,
      NonceManager.getState_reserve]
    split <;> rfl
  · refine ⟨rfl, rfl, .included, by simp, fun nonce => ?_⟩
    simp only [NonceManager.getState_markIncluded, NonceManager.getState_markSubmitted,
      NonceManager.getState_reserve]
    split <;> rfl
  · refine ⟨rfl, rfl, .submitted result.txHash input.now, by simp, fun nonce => ?_⟩
    simp only [NonceManager.getState_markSubmitted, NonceManager.getState_reserve]
    split <;> rfl
  · refine ⟨rfl, rfl, .submitted result.txHash input.now, by simp, fun nonce => ?_⟩
    simp only [NonceManager.getState_markSubmitted, NonceManager.getState_reserve]
    split <;> rfl

/-- Every candidate is rejected before submission, refused, or accepted. -/
theorem candidate_cases (config : EngineConfig) (guard : DepegGuard) (engine : EngineState)
    (input : CandidateInput) :
    processStep config guard engine input = engine ∧
        ¬ SubmissionAccepted config guard engine input ∨
      SubmissionRefused config guard engine input ∧
        ¬ SubmissionAccepted config guard engine input ∨
      SubmissionAccepted config guard engine input := by
  cases ready : readyToSubmit config guard engine.risk input with
  | error result =>
    refine Or.inl ⟨processStep_rejected ready, ?_⟩
    rintro ⟨executable, submission, reached, _⟩
    rw [ready] at reached
    cases reached
  | ok executable =>
    cases submit : input.submit { executable with nonce := engine.nonces.nextNonce } with
    | ok result => exact Or.inr (Or.inr ⟨executable, result, ready, submit⟩)
    | error error =>
      refine Or.inr (Or.inl ⟨⟨executable, error, ready, submit⟩, ?_⟩)
      rintro ⟨executable', result, reached, accepts⟩
      rw [ready] at reached
      injection reached with same
      subst same
      rw [submit] at accepts
      cases accepts

end DexArbitrage
