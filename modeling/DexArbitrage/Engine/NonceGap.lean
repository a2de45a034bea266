/-
This file settles whether the nonces the engine broadcasts are gap free.

The engine reserves a nonce before it submits, and a refused submission marks
the nonce dropped without giving it back: the counter has already moved past
it. A transaction accepted afterwards therefore carries a nonce above the hole.
`noNonceGap_of_noAcceptAfterDrop` shows that this is the only way to open a
gap: as long as no submission is accepted while a dropped nonce is on record,
every nonce between the synced one and a broadcast one has been broadcast.

The counter wraps at `2 ^ 64`. The invariant therefore has two cases, the
counter on its first lap and the counter past the wrap, and the converse is
stated for the runs that end before the wrap.
-/

import DexArbitrage.Lib.Run
import DexArbitrage.Engine.Candidate

namespace DexArbitrage

/-- Every nonce from the synced one up to a broadcast one has been broadcast. -/
def NoNonceGap (synced : Nat) (engine : EngineState) : Prop :=
  ∀ submitted ∈ engine.accepted, ∀ nonce, synced ≤ nonce → nonce < submitted →
    nonce ∈ engine.accepted

/-- Some nonce is on record as dropped. -/
def HasDropped (engine : EngineState) : Prop :=
  ∃ nonce, engine.nonces.getState nonce = some .dropped

/-- The step does not get a transaction accepted while a dropped nonce is on record. -/
def NoAcceptAfterDrop (config : EngineConfig) (guard : DepegGuard) (engine : EngineState)
    (input : CandidateInput) : Prop :=
  SubmissionAccepted config guard engine input → ¬ HasDropped engine

/-- Everything below the counter has been broadcast. Past the wrap of the counter, everything
from the synced nonce on has. -/
def Covered (synced : Nat) (engine : EngineState) : Prop :=
  synced ≤ engine.nonces.nextNonce ∧
      (∀ nonce, synced ≤ nonce → nonce < engine.nonces.nextNonce → nonce ∈ engine.accepted) ∨
    ∀ nonce, synced ≤ nonce → nonce < 2 ^ 64 → nonce ∈ engine.accepted

/-- The invariant of the runs that never accept after a drop. -/
structure GapFree (synced : Nat) (engine : EngineState) : Prop where
  noGap : NoNonceGap synced engine
  counter : engine.nonces.nextNonce < 2 ^ 64
  covered : HasDropped engine ∨ Covered synced engine

variable {config : EngineConfig} {guard : DepegGuard}

theorem hasDropped_refused {engine : EngineState} {input : CandidateInput}
    (refused : SubmissionRefused config guard engine input) :
    HasDropped (processStep config guard engine input) := by
  rw [processStep_refused refused]
  exact ⟨engine.nonces.nextNonce, by simp⟩

theorem gapFree_refused {synced : Nat} {engine : EngineState} {input : CandidateInput}
    (refused : SubmissionRefused config guard engine input) (invariant : GapFree synced engine) :
    GapFree synced (processStep config guard engine input) := by
  refine ⟨?_, ?_, Or.inl (hasDropped_refused refused)⟩
  · rw [processStep_refused refused]
    exact invariant.noGap
  · rw [processStep_refused refused]
    simp only [NonceManager.nextNonce_markDropped, NonceManager.nextNonce_reserve]
    exact Nat.mod_lt _ (by decide)

theorem covered_accepted {synced : Nat} {engine : EngineState} {input : CandidateInput}
    (accepts : SubmissionAccepted config guard engine input)
    (counter : engine.nonces.nextNonce < 2 ^ 64) (covered : Covered synced engine) :
    Covered synced (processStep config guard engine input) := by
  obtain ⟨broadcast, next, _⟩ := processStep_accepted accepts
  unfold Covered
  rw [broadcast, next]
  rcases covered with ⟨above, below⟩ | everything
  · by_cases last : engine.nonces.nextNonce + 1 = 2 ^ 64
    · right
      intro nonce atLeast bounded
      rcases Nat.lt_or_ge nonce engine.nonces.nextNonce with less | notLess
      · exact List.mem_cons_of_mem _ (below nonce atLeast less)
      · rw [show nonce = engine.nonces.nextNonce by omega]
        exact List.mem_cons_self
    · left
      rw [Nat.mod_eq_of_lt (by omega)]
      refine ⟨by omega, fun nonce atLeast bounded => ?_⟩
      rcases Nat.lt_or_ge nonce engine.nonces.nextNonce with less | notLess
      · exact List.mem_cons_of_mem _ (below nonce atLeast less)
      · rw [show nonce = engine.nonces.nextNonce by omega]
        exact List.mem_cons_self
  · right
    intro nonce atLeast bounded
    exact List.mem_cons_of_mem _ (everything nonce atLeast bounded)

theorem gapFree_accepted {synced : Nat} {engine : EngineState} {input : CandidateInput}
    (accepts : SubmissionAccepted config guard engine input) (clean : ¬ HasDropped engine)
    (invariant : GapFree synced engine) :
    GapFree synced (processStep config guard engine input) := by
  have covered : Covered synced engine := invariant.covered.resolve_left clean
  obtain ⟨broadcast, next, _⟩ := processStep_accepted accepts
  refine ⟨?_, ?_, Or.inr (covered_accepted accepts invariant.counter covered)⟩
  · intro submitted member nonce atLeast less
    rw [broadcast] at member ⊢
    refine List.mem_cons_of_mem _ ?_
    rcases List.mem_cons.mp member with same | earlier
    · subst same
      rcases covered with ⟨_, below⟩ | everything
      · exact below nonce atLeast less
      · exact everything nonce atLeast (less.trans invariant.counter)
    · exact invariant.noGap submitted earlier nonce atLeast less
  · rw [next]
    exact Nat.mod_lt _ (by decide)

/-- One candidate preserves the invariant unless it is accepted over a dropped nonce. -/
theorem gapFree_step {synced : Nat} {engine : EngineState} {input : CandidateInput}
    (invariant : GapFree synced engine)
    (condition : NoAcceptAfterDrop config guard engine input) :
    GapFree synced (processStep config guard engine input) := by
  rcases candidate_cases config guard engine input with ⟨same, _⟩ | ⟨refused, _⟩ | accepts
  · rw [same]
    exact invariant
  · exact gapFree_refused refused invariant
  · exact gapFree_accepted accepts (condition accepts) invariant

/-! ### The converse, before the counter wraps -/

/-- The invariant of a run that has not wrapped: the record of dropped nonces and the broadcast
nonces are disjoint, and both lie between the synced nonce and the counter. -/
structure FirstLap (synced : Nat) (engine : EngineState) : Prop where
  above : synced ≤ engine.nonces.nextNonce
  accepted : ∀ nonce ∈ engine.accepted, nonce < engine.nonces.nextNonce
  dropped : ∀ nonce, engine.nonces.getState nonce = some .dropped →
    synced ≤ nonce ∧ nonce < engine.nonces.nextNonce ∧ nonce ∉ engine.accepted

theorem firstLap_step {synced : Nat} {engine : EngineState} {input : CandidateInput}
    (lap : FirstLap synced engine) (room : engine.nonces.nextNonce + 1 < 2 ^ 64) :
    FirstLap synced (processStep config guard engine input) ∧
      (processStep config guard engine input).nonces.nextNonce ≤ engine.nonces.nextNonce + 1 := by
  rcases candidate_cases config guard engine input with ⟨same, _⟩ | ⟨refused, _⟩ | accepts
  · rw [same]
    exact ⟨lap, Nat.le_succ _⟩
  · rw [processStep_refused refused]
    have next : (engine.nonces.reserve.2.markDropped engine.nonces.nextNonce).nextNonce =
        engine.nonces.nextNonce + 1 := Nat.mod_eq_of_lt room
    refine ⟨⟨?_, fun nonce member => ?_, fun nonce state => ?_⟩, next.le⟩
    · exact next ▸ lap.above.trans (Nat.le_succ _)
    · exact next ▸ (lap.accepted nonce member).trans (Nat.lt_succ_self _)
    · simp only [NonceManager.getState_markDropped, NonceManager.getState_reserve] at state
      by_cases same : nonce = engine.nonces.nextNonce
      · subst same
        refine ⟨lap.above, next ▸ Nat.lt_succ_self _, fun member => ?_⟩
        exact absurd (lap.accepted _ member) (Nat.lt_irrefl _)
      · simp only [if_neg same] at state
        obtain ⟨atLeast, less, absent⟩ := lap.dropped nonce state
        exact ⟨atLeast, next ▸ less.trans (Nat.lt_succ_self _), absent⟩
  · obtain ⟨broadcast, next, state, notDropped, states⟩ := processStep_accepted accepts
    rw [Nat.mod_eq_of_lt room] at next
    refine ⟨⟨?_, fun nonce member => ?_, fun nonce found => ?_⟩, next.le⟩
    · exact next ▸ lap.above.trans (Nat.le_succ _)
    · rw [broadcast] at member
      rcases List.mem_cons.mp member with same | earlier
      · exact next ▸ same ▸ Nat.lt_succ_self _
      · exact next ▸ (lap.accepted nonce earlier).trans (Nat.lt_succ_self _)
    · rw [states nonce] at found
      by_cases same : nonce = engine.nonces.nextNonce
      · simp only [if_pos same, Option.some.injEq] at found
        exact absurd found notDropped
      · simp only [if_neg same] at found
        obtain ⟨atLeast, less, absent⟩ := lap.dropped nonce found
        refine ⟨atLeast, next ▸ less.trans (Nat.lt_succ_self _), fun member => ?_⟩
        rw [broadcast] at member
        exact absent ((List.mem_cons.mp member).resolve_left same)

/-- A submission accepted over a dropped nonce leaves that nonce as a hole below it. -/
theorem gap_of_accept_after_drop {synced : Nat} {engine : EngineState} {input : CandidateInput}
    (lap : FirstLap synced engine) (accepts : SubmissionAccepted config guard engine input)
    (dropped : HasDropped engine) :
    ¬ NoNonceGap synced (processStep config guard engine input) := by
  intro noGap
  obtain ⟨hole, state⟩ := dropped
  obtain ⟨atLeast, less, absent⟩ := lap.dropped hole state
  obtain ⟨broadcast, _⟩ := processStep_accepted accepts
  have member := noGap engine.nonces.nextNonce (broadcast ▸ List.mem_cons_self) hole atLeast less
  rw [broadcast] at member
  rcases List.mem_cons.mp member with same | earlier
  · exact absurd less (same ▸ Nat.lt_irrefl _)
  · exact absent earlier

theorem stepsMeet_of_always_noNonceGap {synced : Nat} {engine : EngineState}
    {inputs : List CandidateInput} (lap : FirstLap synced engine)
    (room : engine.nonces.nextNonce + inputs.length < 2 ^ 64)
    (always : Always (processStep config guard) (NoNonceGap synced) engine inputs) :
    StepsMeet (processStep config guard) (NoAcceptAfterDrop config guard) engine inputs := by
  induction inputs generalizing engine with
  | nil => exact trivial
  | cons input rest inductionHypothesis =>
    rw [List.length_cons] at room
    have stepped : FirstLap synced (processStep config guard engine input) ∧
        (processStep config guard engine input).nonces.nextNonce ≤ engine.nonces.nextNonce + 1 :=
      firstLap_step lap (by omega)
    have counter := stepped.2
    refine ⟨fun accepts dropped => ?_, inductionHypothesis stepped.1 (by omega) always.2⟩
    exact gap_of_accept_after_drop lap accepts dropped always.2.start

/-! ### Runs of the engine after the initial sync -/

/-- The engine right after the initial sync. -/
def EngineState.afterSync (manager : NonceManager) (risk : RiskManager) : EngineState :=
  { nonces := manager, risk, accepted := [] }

/-- In every run after the initial sync in which no submission is accepted while a dropped nonce
is on record, there is never a gap. Conversely, as long as the counter does not wrap, a run
without a gap is one in which that never happens. -/
theorem noNonceGap_iff_noAcceptAfterDrop (replacementEnabled : Bool) (onchain : Nat)
    (manager : NonceManager) (risk : RiskManager) (range : onchain < 2 ^ 64)
    (synced : (NonceManager.withReplacement replacementEnabled).sync (.ok onchain) = .ok manager)
    (inputs : List CandidateInput) :
    (StepsMeet (processStep config guard) (NoAcceptAfterDrop config guard)
        (.afterSync manager risk) inputs →
      Always (processStep config guard) (NoNonceGap onchain) (.afterSync manager risk) inputs) ∧
    (onchain + inputs.length < 2 ^ 64 →
      Always (processStep config guard) (NoNonceGap onchain) (.afterSync manager risk) inputs →
      StepsMeet (processStep config guard) (NoAcceptAfterDrop config guard)
        (.afterSync manager risk) inputs) := by
  obtain ⟨next, states⟩ :=
    NonceManager.nextNonce_sync_withReplacement replacementEnabled onchain manager synced
  have untouched (nonce : Nat) : manager.getState nonce = none := by
    simp [NonceManager.getState, states]
  constructor
  · intro meets
    have start : GapFree onchain (.afterSync manager risk) :=
      { noGap := by simp [NoNonceGap, EngineState.afterSync]
        counter := by simpa [EngineState.afterSync, next] using range
        covered := Or.inr (Or.inl ⟨next.ge, fun nonce atLeast less =>
          absurd (next ▸ less) (Nat.not_lt.mpr atLeast)⟩) }
    exact (always_of_stepsMeet (fun _ _ => gapFree_step) start meets).mono fun _ => GapFree.noGap
  · intro room always
    refine stepsMeet_of_always_noNonceGap ?_ (by simpa [EngineState.afterSync, next] using room)
      always
    exact
      { above := next.ge
        accepted := by simp [EngineState.afterSync]
        dropped := fun nonce state => by simp [EngineState.afterSync, untouched] at state }

/-! ### A refused submission followed by an accepted one -/

/-- An engine that submits every candidate it is given. -/
def openEngineConfig : EngineConfig where
  verifyRankedRouteBeforeValidation := false
  verifyRankedRouteAllAdapters := false
  simulateOnly := false

def emptyGuard : DepegGuard where
  stableDepegCutoffE6 := 0
  manualPrices := ∅
  stableTokens := []

def openRiskManager : RiskManager where
  maxPositionUsdE8 := 0
  maxFlashLoanUsdE8 := 0
  minProfitUsdE8 := 0
  dailyLossLimitUsdE8 := 0
  maxConcurrentTx := 1
  openTxCount := 0
  dailyPnlUsdE8 := ∅

/-- A candidate that passes every check and whose submission is answered by `reply`. -/
def preparedCandidate (reply : Except RpcError SubmissionResult) : CandidateInput where
  plan := default
  verify := .done none
  prepare := fun _ => .ok (some default)
  submit := fun _ => reply
  waitForReceipt := fun _ => .ok .included
  now := 0
  later := 0
  dayAtCheck := 0
  dayAtReceipt := 0

def refusedCandidate : CandidateInput := preparedCandidate (.error "all channels failed")

def acceptedCandidate : CandidateInput :=
  preparedCandidate (.ok { txHash := 1, channel := "public" })

def syncedAtFive : NonceManager := { NonceManager.withReplacement false with nextNonce := 5 }

/-- The refused candidate reserves nonce 5, the accepted one is broadcast with nonce 6. -/
theorem not_noNonceGap_refused_accepted :
    (NonceManager.withReplacement false).sync (.ok 5) = .ok syncedAtFive ∧
    ¬ Always (processStep openEngineConfig emptyGuard) (NoNonceGap 5)
      (.afterSync syncedAtFive openRiskManager) [refusedCandidate, acceptedCandidate] := by
  refine ⟨rfl, fun always => ?_⟩
  have last : NoNonceGap 5 (runFrom (processStep openEngineConfig emptyGuard)
      (.afterSync syncedAtFive openRiskManager) [refusedCandidate, acceptedCandidate]) :=
    always.last
  have broadcast : (runFrom (processStep openEngineConfig emptyGuard)
      (.afterSync syncedAtFive openRiskManager)
      [refusedCandidate, acceptedCandidate]).accepted = [6] := by decide
  unfold NoNonceGap at last
  rw [broadcast] at last
  exact absurd (last 6 (List.mem_singleton.mpr rfl) 5 (by decide) (by decide)) (by decide)

theorem noNonceGap_accepted_refused :
    Always (processStep openEngineConfig emptyGuard) (NoNonceGap 5)
      (.afterSync syncedAtFive openRiskManager) [acceptedCandidate, refusedCandidate] := by
  refine (noNonceGap_iff_noAcceptAfterDrop false 5 syncedAtFive openRiskManager (by decide) rfl
    [acceptedCandidate, refusedCandidate]).1 ⟨fun _ => ?_, fun accepts => ?_, trivial⟩
  · rintro ⟨nonce, state⟩
    cases state
  · obtain ⟨executable, result, _, submit⟩ := accepts
    cases submit

end DexArbitrage
