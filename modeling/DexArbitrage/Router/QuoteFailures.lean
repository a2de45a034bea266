/-
This file says how quoting fails and for which amount a quoted plan is: a
program that quotes a candidate, or the splits of a plan again, fails only when
a quote of a pool does, and the input of its plan is the amount it was asked for.
-/

import DexArbitrage.Lib.Failure
import DexArbitrage.Router.PlanSearch

namespace DexArbitrage

/-! ### Quoting fails when a quote fails -/

/-- A quote fails for this reason. -/
def Quoter.Raises {State : Type} (quoter : Quoter State) (reason : RpcError) : Prop :=
  ∃ pool tokenIn tokenOut amount start,
    (quoter.quotePool pool tokenIn tokenOut amount).run start = .error reason

section Quoting

variable {State : Type} {optimizer : SplitOptimizer} {solver : WaterFill}
  {quoter : Quoter State} {snapshot : GraphSnapshot} {tokenIn tokenOut : Address}

theorem raisesOnly_quotePool (pool : PoolState) (amount : Nat) :
    RaisesOnly quoter.Raises (quoter.quotePool pool tokenIn tokenOut amount) :=
  fun start _ failed => ⟨pool, tokenIn, tokenOut, amount, start, failed⟩

theorem raisesOnly_materializeAllocation (allocation : Allocation) :
    RaisesOnly quoter.Raises
      (materializeAllocation optimizer quoter snapshot tokenIn tokenOut allocation) := by
  unfold materializeAllocation
  split
  · exact raisesOnly_pure _
  · split
    · exact raisesOnly_pure _
    · split
      · exact raisesOnly_pure _
      · refine RaisesOnly.bind ?_ fun expected => raisesOnly_pure _
        unfold expectedOutput
        split
        · exact raisesOnly_pure _
        · exact raisesOnly_quotePool _ _

theorem raisesOnly_materializeAllocationsWithQuotes (allocations : List Allocation) :
    RaisesOnly quoter.Raises
      (materializeAllocationsWithQuotes optimizer quoter snapshot tokenIn tokenOut allocations) :=
  (raisesOnly_mapM raisesOnly_materializeAllocation allocations).bind fun _ => raisesOnly_pure _

theorem raisesOnly_quoteJobs {Label : Type} (jobs : List (QuoteJob Label)) :
    RaisesOnly quoter.Raises (quoteJobs quoter snapshot tokenIn tokenOut jobs) := by
  refine raisesOnly_get.bind fun state => raisesOnly_mapM (fun job => ?_) _
  unfold quoteJob
  split
  · exact raisesOnly_pure _
  · exact (raisesOnly_quotePool _ _).bind fun quote => raisesOnly_pure _

theorem raisesOnly_greedyLoop (totalIn minSlice fuel : Nat) (state : GreedyState) :
    RaisesOnly quoter.Raises
      (greedyLoop optimizer quoter snapshot tokenIn tokenOut totalIn minSlice fuel state) := by
  induction fuel generalizing state with
  | zero => exact raisesOnly_pure _
  | succ fuel inductionHypothesis =>
    unfold greedyLoop
    split
    · refine (raisesOnly_quoteJobs _).bind fun quotes => ?_
      split
      · split
        · exact raisesOnly_pure _
        · exact inductionHypothesis _
      · exact raisesOnly_pure _
    · exact raisesOnly_pure _

theorem raisesOnly_optimizePair (totalIn : Nat) :
    RaisesOnly quoter.Raises
      (optimizePair optimizer solver quoter snapshot tokenIn tokenOut totalIn) := by
  unfold optimizePair
  simp only
  split
  · exact raisesOnly_pure _
  · split
    · refine (raisesOnly_quoteJobs _).bind fun quotes => ?_
      split
      · exact raisesOnly_materializeAllocationsWithQuotes _
      · exact raisesOnly_pure _
    · refine RaisesOnly.bind ?_ fun materialized => ?_
      · unfold v2Split
        split
        · exact raisesOnly_materializeAllocationsWithQuotes _
        · exact raisesOnly_pure _
      · split
        · refine (raisesOnly_greedyLoop _ _ _ _).bind fun final => ?_
          exact raisesOnly_materializeAllocationsWithQuotes _
        · exact raisesOnly_pure _

theorem raisesOnly_quoteHops (path : List CandidateHop) (amount : Nat) :
    RaisesOnly quoter.Raises (quoteHops optimizer solver quoter snapshot path amount) := by
  induction path generalizing amount with
  | nil => exact raisesOnly_pure _
  | cons hop path inductionHypothesis =>
    refine (raisesOnly_optimizePair amount).bind fun (splits, out) => ?_
    simp only
    split
    · exact raisesOnly_pure _
    · exact (inductionHypothesis out).bind fun rest => raisesOnly_pure _

theorem raisesOnly_quoteSplit (split : SplitPlan) :
    RaisesOnly quoter.Raises (quoteSplit quoter snapshot split) := by
  unfold quoteSplit
  cases snapshot.pool split.poolId with
  | none => exact raisesOnly_pure _
  | some pool => exact raisesOnly_quotePool _ _

theorem raisesOnly_requoteSplits (splitMinOutputBps : Nat) (splits : List SplitPlan) :
    RaisesOnly quoter.Raises (requoteSplits splitMinOutputBps quoter snapshot splits) := by
  induction splits with
  | nil => exact raisesOnly_pure _
  | cons split rest inductionHypothesis =>
    refine (raisesOnly_quoteSplit split).bind fun amountOut => ?_
    by_cases nothing : amountOut = 0
    · rw [if_pos nothing]
      exact raisesOnly_pure _
    · rw [if_neg nothing]
      exact inductionHypothesis.bind fun requoted => raisesOnly_pure _

theorem raisesOnly_requoteHops (splitMinOutputBps : Nat) (hops : List HopPlan) (amount : Nat) :
    RaisesOnly quoter.Raises (requoteHops splitMinOutputBps quoter snapshot hops amount) := by
  induction hops generalizing amount with
  | nil => exact raisesOnly_pure _
  | cons hop hops inductionHypothesis =>
    refine (raisesOnly_requoteSplits _ _).bind fun requoted => ?_
    cases requoted with
    | none => exact raisesOnly_pure _
    | some splits =>
      simp only
      split
      · exact raisesOnly_pure _
      · exact (inductionHypothesis _).bind fun rest => raisesOnly_pure _

theorem raisesOnly_lbHops (path : List CandidateHop) (amount : Nat) :
    RaisesOnly quoter.Raises (lbHops quoter snapshot path amount) := by
  induction path generalizing amount with
  | nil => exact raisesOnly_pure _
  | cons hop path inductionHypothesis =>
    refine (raisesOnly_quoteSplit _).bind fun out => ?_
    split
    · exact raisesOnly_pure _
    · exact (inductionHypothesis out).bind fun rest => raisesOnly_pure _

/-- A plan that a program of the quoter yields for an amount has this amount as its input, and the
program fails only when a quote does. -/
def PlansFor (quoter : Quoter State) (amount : Nat)
    (program : Program State RpcError (Option ExactPlan)) : Prop :=
  ∀ start, EnsuresOr quoter.Raises program start fun plan _ =>
    ∀ kept, plan = some kept → kept.inputAmount = amount

/-- So does every program that makes a plan of quoted hops. -/
theorem plansFor_of_hops {candidate : CandidatePath} {amount premiumPpm : Nat}
    {program : Program State RpcError (Option (List HopPlan × Nat))}
    (raisesOnly : RaisesOnly quoter.Raises program) :
    PlansFor quoter amount (program >>= fun quoted => pure <| quoted.bind fun (hops, out) =>
      profitablePlan snapshot candidate amount premiumPpm hops out) := by
  intro start
  refine (raisesOnly.bind fun quoted => raisesOnly_pure _).ensuresOr ?_
  simp only [ensures_bind, ensures_pure]
  intro quoted finish _ kept isPlan
  obtain ⟨⟨hops, out⟩, _, profitable⟩ := Option.bind_eq_some_iff.mp isPlan
  exact (profitablePlan_some profitable).2.1

theorem plansFor_quoteCandidate (candidate : CandidatePath) (amount premiumPpm : Nat) :
    PlansFor quoter amount (quoteCandidateWithOptimizer optimizer solver quoter snapshot candidate
      amount premiumPpm) :=
  plansFor_of_hops (raisesOnly_quoteHops _ _)

theorem plansFor_quoteExisting (splitMinOutputBps : Nat) (candidate : CandidatePath)
    (plan : ExactPlan) (amount premiumPpm : Nat) :
    PlansFor quoter amount (quoteExistingPlanSplits splitMinOutputBps quoter snapshot candidate
      plan amount premiumPpm) :=
  plansFor_of_hops (raisesOnly_requoteHops _ _ _)

theorem plansFor_quoteLbCandidateDirect (candidate : CandidatePath) (amount premiumPpm : Nat) :
    PlansFor quoter amount (quoteLbCandidateDirect quoter snapshot candidate amount premiumPpm) :=
  plansFor_of_hops (raisesOnly_lbHops _ _)

end Quoting

end DexArbitrage
