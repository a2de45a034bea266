/-
This file settles whether the risk manager counts the transactions in flight.

A candidate moves the counter up when it is submitted and down again before the
next one is processed, however its submission ends: between candidates the
counter never differs from its initial 0. The nonce manager, in contrast, keeps
the nonce of a transaction whose receipt was not seen, since that transaction
may still be mined. So the two agree exactly in the runs in which every accepted
transaction gets its receipt. The RPC client reports a pending receipt as an
error, and a run that meets two of them has two transactions in flight under a
limit of one.
-/

import DexArbitrage.Engine.NonceGap

namespace DexArbitrage

/-- The nonce belongs to a transaction that may still be mined. -/
def NonceState.isInFlight : NonceState → Bool
  | .reserved => true
  | .submitted _ _ => true
  | .included => false
  | .dropped => false

/-- The number of nonces that are reserved or submitted. A receipt that was seen has moved its
nonce out of these states. -/
def NonceManager.inFlight (manager : NonceManager) : Nat :=
  manager.states.values.countP NonceState.isInFlight

/-- The risk manager counts the transactions in flight, and they keep to its limit. -/
def InFlightAccounted (engine : EngineState) : Prop :=
  engine.risk.openTxCount = engine.nonces.inFlight ∧
    engine.nonces.inFlight ≤ engine.risk.maxConcurrentTx

/-- If a channel accepts the candidate's transaction, its receipt is seen. -/
def ReceiptSeen (config : EngineConfig) (guard : DepegGuard) (engine : EngineState)
    (input : CandidateInput) : Prop :=
  ∀ executable result, readyToSubmit config guard engine.risk input = .ok executable →
    input.submit { executable with nonce := engine.nonces.nextNonce } = .ok result →
    input.waitForReceipt result.txHash = .ok .included ∨
      input.waitForReceipt result.txHash = .ok .reverted

/-- Nothing is in flight, and nothing is counted. -/
structure Settled (engine : EngineState) : Prop where
  counter : engine.risk.openTxCount = 0
  states : ∀ nonce state, engine.nonces.getState nonce = some state → ¬ state.isInFlight

variable {config : EngineConfig} {guard : DepegGuard}

theorem inFlight_eq_zero_iff (manager : NonceManager) :
    manager.inFlight = 0 ↔
      ∀ nonce state, manager.getState nonce = some state → ¬ state.isInFlight := by
  rw [NonceManager.inFlight, List.countP_eq_zero]
  constructor
  · intro none nonce state found
    exact none state ((HashMap.mem_values _ _).mpr ⟨nonce, found⟩)
  · intro none state member
    obtain ⟨nonce, found⟩ := (HashMap.mem_values _ _).mp member
    exact none nonce state found

/-! ### The counter -/

@[simp] theorem RiskManager.openTxCount_markFinalized_markSubmitted (risk : RiskManager)
    (realizedProfitUsdE8 : Int) (dayKey : Nat) :
    (risk.markSubmitted.markFinalized realizedProfitUsdE8 dayKey).openTxCount =
      risk.openTxCount := by
  have positive : risk.markSubmitted.openTxCount ≠ 0 := Nat.succ_ne_zero risk.openTxCount
  rw [markFinalized, if_neg positive]
  rfl

/-- However a candidate ends, the counter is back where it was. -/
theorem openTxCount_processStep (engine : EngineState) (input : CandidateInput) :
    (processStep config guard engine input).risk.openTxCount = engine.risk.openTxCount := by
  unfold processStep processRoutedCandidate
  cases readyToSubmit config guard engine.risk input with
  | error result => rfl
  | ok executable =>
    simp only [submitCandidate]
    split
    · split
      · exact RiskManager.openTxCount_markFinalized_markSubmitted _ _ _
      · exact RiskManager.openTxCount_markFinalized_markSubmitted _ _ _
      · rfl
      · rfl
    · rfl

/-! ### The nonces -/

/-- An accepted transaction leaves its nonce included when its receipt is seen, and submitted
otherwise. -/
theorem getState_processStep_accepted {engine : EngineState} {input : CandidateInput}
    {executable : ExecutablePlan} {result : SubmissionResult}
    (ready : readyToSubmit config guard engine.risk input = .ok executable)
    (submit : input.submit { executable with nonce := engine.nonces.nextNonce } = .ok result)
    (nonce : Nat) :
    (processStep config guard engine input).nonces.getState nonce =
      if nonce = engine.nonces.nextNonce then
        some (if input.waitForReceipt result.txHash = .ok .included ∨
            input.waitForReceipt result.txHash = .ok .reverted then
          .included
        else
          .submitted result.txHash input.now)
      else
        engine.nonces.getState nonce := by
  simp only [processStep, processRoutedCandidate, ready, submitCandidate,
    NonceManager.reserve_fst, submit]
  cases receipt : input.waitForReceipt result.txHash with
  | error error =>
    simp only [reduceCtorEq, or_self, if_false, NonceManager.getState_markSubmitted,
      NonceManager.getState_reserve]
    split <;> rfl
  | ok outcome =>
    cases outcome <;>
      simp only [Except.ok.injEq, reduceCtorEq, or_false, or_true, if_true, if_false,
        NonceManager.getState_markIncluded, NonceManager.getState_markSubmitted,
        NonceManager.getState_reserve] <;>
      split <;> rfl

/-! ### One candidate, and a run -/

/-- From a settled engine, a candidate leaves a settled engine exactly when it does not lose a
receipt. -/
theorem settled_processStep_iff {engine : EngineState} {input : CandidateInput}
    (settled : Settled engine) :
    Settled (processStep config guard engine input) ↔ ReceiptSeen config guard engine input := by
  constructor
  · intro after executable result ready submit
    by_contra unseen
    have found := getState_processStep_accepted ready submit engine.nonces.nextNonce
    rw [if_pos rfl, if_neg unseen] at found
    exact after.states _ _ found rfl
  · intro seen
    refine ⟨(openTxCount_processStep engine input).trans settled.counter, ?_⟩
    rcases candidate_cases config guard engine input with ⟨same, _⟩ | ⟨refused, _⟩ | accepts
    · rw [same]
      exact settled.states
    · rw [processStep_refused refused]
      intro nonce state found
      simp only [NonceManager.getState_markDropped, NonceManager.getState_reserve] at found
      by_cases own : nonce = engine.nonces.nextNonce
      · rw [if_pos own] at found
        cases found
        decide
      · rw [if_neg own, if_neg own] at found
        exact settled.states nonce state found
    · obtain ⟨executable, result, ready, submit⟩ := accepts
      intro nonce state found
      rw [getState_processStep_accepted ready submit,
        if_pos (seen executable result ready submit)] at found
      by_cases own : nonce = engine.nonces.nextNonce
      · rw [if_pos own] at found
        cases found
        decide
      · rw [if_neg own] at found
        exact settled.states nonce state found

/-- While nothing is counted, the accounting is right exactly when nothing is in flight. -/
theorem inFlightAccounted_iff {engine : EngineState} (counter : engine.risk.openTxCount = 0) :
    InFlightAccounted engine ↔ Settled engine := by
  constructor
  · rintro ⟨counted, _⟩
    rw [counter] at counted
    exact ⟨counter, (inFlight_eq_zero_iff _).mp counted.symm⟩
  · intro settled
    have none := (inFlight_eq_zero_iff _).mpr settled.states
    exact ⟨counter.trans none.symm, none.le.trans (Nat.zero_le _)⟩

theorem settled_afterSync {replacementEnabled : Bool} {onchain : Nat} {manager : NonceManager}
    {risk : RiskManager} (fresh : risk.openTxCount = 0)
    (synced : (NonceManager.withReplacement replacementEnabled).sync (.ok onchain) = .ok manager) :
    Settled (.afterSync manager risk) := by
  obtain ⟨_, empty⟩ :=
    NonceManager.nextNonce_sync_withReplacement replacementEnabled onchain manager synced
  refine ⟨fresh, fun nonce state found => ?_⟩
  have absent : manager.getState nonce = none := by
    rw [NonceManager.getState, empty, AList.lookup_empty]
  rw [show (EngineState.afterSync manager risk).nonces = manager from rfl, absent] at found
  cases found

/-- From the start of the engine on, the counter is the number of nonces in flight throughout a run
exactly when every accepted transaction of the run gets its receipt. -/
theorem always_inFlightAccounted_iff (replacementEnabled : Bool) (onchain : Nat)
    (manager : NonceManager) (risk : RiskManager) (fresh : risk.openTxCount = 0)
    (synced : (NonceManager.withReplacement replacementEnabled).sync (.ok onchain) = .ok manager)
    (inputs : List CandidateInput) :
    Always (processStep config guard) InFlightAccounted (.afterSync manager risk) inputs ↔
      StepsMeet (processStep config guard) (ReceiptSeen config guard)
        (.afterSync manager risk) inputs := by
  have start : Settled (.afterSync manager risk) := settled_afterSync fresh synced
  have agree : ∀ engine input, Settled engine →
      (InFlightAccounted (processStep config guard engine input) ↔
        ReceiptSeen config guard engine input) := by
    intro engine input settled
    rw [inFlightAccounted_iff ((openTxCount_processStep engine input).trans settled.counter),
      settled_processStep_iff settled]
  rw [always_iff_stepsMeet, and_iff_right ((inFlightAccounted_iff fresh).mpr start)]
  exact stepsMeet_iff_of_invariant agree
    (fun engine input settled seen => (settled_processStep_iff settled).mpr seen) start

/-! ### Receipts that do not arrive -/

/-- An accepted candidate whose receipt poll is answered by `receipt`. -/
def polledCandidate (receipt : Except RpcError ReceiptOutcome) : CandidateInput :=
  { acceptedCandidate with waitForReceipt := fun _ => receipt }

theorem always_inFlightAccounted_refused_reverted :
    Always (processStep openEngineConfig emptyGuard) InFlightAccounted
      (.afterSync syncedAtFive openRiskManager)
      [refusedCandidate, polledCandidate (.ok .reverted)] := by
  refine (always_inFlightAccounted_iff false 5 syncedAtFive openRiskManager rfl rfl _).mpr
    ⟨fun _ _ _ submit => ?_, fun _ _ _ _ => Or.inr rfl, trivial⟩
  cases submit

/-- What the RPC client answers while a receipt is pending. -/
def pendingReceipt : Except RpcError ReceiptOutcome :=
  .error "missing rpc result"

/-- Two receipts are still pending when they are asked for: both transactions may be mined, the
limit is one, and none is counted. -/
theorem not_inFlightAccounted_pending :
    (runFrom (processStep openEngineConfig emptyGuard) (.afterSync syncedAtFive openRiskManager)
      [polledCandidate pendingReceipt, polledCandidate pendingReceipt]).nonces.inFlight = 2 ∧
    openRiskManager.maxConcurrentTx = 1 ∧
    ¬ Always (processStep openEngineConfig emptyGuard) InFlightAccounted
      (.afterSync syncedAtFive openRiskManager)
      [polledCandidate pendingReceipt, polledCandidate pendingReceipt] := by
  refine ⟨by decide, rfl, fun always => ?_⟩
  have last := always.last.1
  exact absurd last (by decide)

end DexArbitrage
