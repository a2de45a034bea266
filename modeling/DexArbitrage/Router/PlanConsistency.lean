/-
This file says when a plan is consistent with itself. The router builds plans
in two ways: it optimizes the hops of a candidate, or it scales the splits of
a plan that it has and quotes them again (`quote_existing_plan_splits` of
`src/router/mod.rs`). Both thread one amount through the hops, so the hops
fit together; what can go wrong is arithmetic that is cut to `u128`: the sum
of the outputs of a hop, and the product behind the flash fee.
-/

import Mathlib.Data.List.Chain
import DexArbitrage.Router.HopConservation
import DexArbitrage.Router.ScaleSplits
import DexArbitrage.Router.SplitLimits

namespace DexArbitrage

/-! ### Quoting the splits of a plan again -/

section Requote

variable {State : Type} (splitMinOutputBps : Nat) (quoter : Quoter State)
  (snapshot : GraphSnapshot)

def quoteSplit (split : SplitPlan) : Program State RpcError Nat :=
  match snapshot.pool split.poolId with
  | none => pure 0
  | some pool => quoter.quotePool pool split.tokenIn split.tokenOut split.amountIn

/-- The split with a new quote. -/
def SplitPlan.requoted (splitMinOutputBps : Nat) (split : SplitPlan) (amountOut : Nat) :
    SplitPlan :=
  { split with
    expectedAmountOut := amountOut
    minAmountOut := saturatingMul u128Max amountOut splitMinOutputBps / 10000 }

/-- The splits of one hop with new quotes, unless one of them yields nothing. -/
def requoteSplits : List SplitPlan → Program State RpcError (Option (List SplitPlan))
  | [] => pure (some [])
  | split :: rest => do
    let amountOut ← quoteSplit quoter snapshot split
    if amountOut = 0 then
      pure none
    else
      let requoted ← requoteSplits rest
      return requoted.map (split.requoted splitMinOutputBps amountOut :: ·)

def requoteHops : List HopPlan → Nat → Program State RpcError (Option (List HopPlan × Nat))
  | [], amount => pure (some ([], amount))
  | hop :: hops, amount => do
    match ← requoteSplits splitMinOutputBps quoter snapshot
      (scaleSplitsForInput hop.splits hop.totalIn amount) with
    | none => pure none
    | some splits =>
      let totalOut := totalExpected splits
      if splits = [] ∨ totalOut = 0 then
        pure none
      else
        let rest ← requoteHops hops totalOut
        return rest.map fun (hops, final) =>
          ({ tokenIn := hop.tokenIn, tokenOut := hop.tokenOut, totalIn := amount
             totalOut, splits } :: hops, final)

def quoteExistingPlanSplits (candidate : CandidatePath) (plan : ExactPlan)
    (inputAmount flashPremiumPpm : Nat) : Program State RpcError (Option ExactPlan) := do
  let quoted ← requoteHops splitMinOutputBps quoter snapshot plan.hops inputAmount
  return quoted.bind fun (hops, outputAmount) =>
    profitablePlan snapshot candidate inputAmount flashPremiumPpm hops outputAmount

end Requote

/-! ### Consistency -/

/-- One hop plan for each hop of the path, over the same tokens. -/
def HopsMatch (path : List CandidateHop) (hops : List HopPlan) : Prop :=
  List.Forall₂ (fun hop plan => plan.tokenIn = hop.fromToken ∧ plan.tokenOut = hop.toToken)
    path hops

/-- The start token can be borrowed and the wallet must not pay for it. -/
def OnlyFlashFunded (snapshot : GraphSnapshot) (candidate : CandidatePath) : Prop :=
  ∃ idx token, snapshot.tokenIndex candidate.startToken = some idx ∧
    snapshot.tokens[idx]? = some token ∧ token.flashLoanEnabled = true ∧
    token.allowSelfFunded = false

/-- The fee is the premium on the whole input if the start token can only be borrowed, and nothing
otherwise. -/
def IsFullFlashFee (snapshot : GraphSnapshot) (candidate : CandidatePath)
    (inputAmount flashPremiumPpm fee : Nat) : Prop :=
  (OnlyFlashFunded snapshot candidate → fee = inputAmount * flashPremiumPpm / 1000000) ∧
    (¬ OnlyFlashFunded snapshot candidate → fee = 0)

def splitsTotal (splits : List SplitPlan) : Nat :=
  (splits.map SplitPlan.expectedAmountOut).sum

structure PlanConsistent (snapshot : GraphSnapshot) (candidate : CandidatePath)
    (inputAmount flashPremiumPpm : Nat) (plan : ExactPlan) : Prop where
  hops : HopsMatch candidate.path plan.hops
  input : plan.inputAmount = inputAmount ∧ plan.hops.head?.map HopPlan.totalIn = some inputAmount
  totals : ∀ hop ∈ plan.hops, hop.totalOut = splitsTotal hop.splits
  chained : plan.hops.IsChain fun hop next => hop.totalOut = next.totalIn
  output : plan.hops.getLast?.map HopPlan.totalOut = some plan.outputAmount
  gross : plan.grossProfitRaw = (plan.outputAmount : Int) - plan.inputAmount ∧
    0 < plan.grossProfitRaw
  profit : ∃ fee : Nat, IsFullFlashFee snapshot candidate inputAmount flashPremiumPpm fee ∧
    plan.expectedProfit = plan.grossProfitRaw - fee ∧ 0 < plan.expectedProfit

/-- The premium on the whole input is not cut. -/
def FlashFeeFits (snapshot : GraphSnapshot) (candidate : CandidatePath)
    (inputAmount flashPremiumPpm : Nat) : Prop :=
  OnlyFlashFunded snapshot candidate →
    inputAmount * flashPremiumPpm / 1000000 ≤ u128Max / 1000000

section Fits

variable {State : Type} (optimizer : SplitOptimizer) (solver : WaterFill)
  (splitMinOutputBps : Nat) (quoter : Quoter State) (snapshot : GraphSnapshot)

/-- On every pair of the path, the outputs of the optimized splits add up to a `u128`. -/
def PathSumsFit : List CandidateHop → Nat → State → Prop
  | [], _, _ => True
  | hop :: path, amount, start =>
    Ensures (optimizePair optimizer solver quoter snapshot hop.fromToken hop.toToken amount) start
      fun result middle => splitsTotal result.1 ≤ u128Max ∧ PathSumsFit path result.2 middle

instance decidablePathSumsFit : ∀ path amount start,
    Decidable (PathSumsFit optimizer solver quoter snapshot path amount start)
  | [], _, _ => isTrue trivial
  | hop :: path, amount, start =>
    have := decidablePathSumsFit path
    inferInstanceAs (Decidable (Ensures (optimizePair optimizer solver quoter snapshot
      hop.fromToken hop.toToken amount) start fun result middle =>
        splitsTotal result.1 ≤ u128Max ∧
          PathSumsFit optimizer solver quoter snapshot path result.2 middle))

/-- On every hop of the plan, the new quotes of the scaled splits add up to a `u128`. -/
def RequotedSumsFit : List HopPlan → Nat → State → Prop
  | [], _, _ => True
  | hop :: hops, amount, start =>
    Ensures (requoteSplits splitMinOutputBps quoter snapshot
      (scaleSplitsForInput hop.splits hop.totalIn amount)) start
      fun requoted middle => ∀ splits, requoted = some splits →
        splitsTotal splits ≤ u128Max ∧ RequotedSumsFit hops (totalExpected splits) middle

end Fits

/-! ### Hops that follow one another -/

/-- The output of a hop is the sum of the outputs of its splits, cut to `u128`. -/
def CutTotal (_tokenIn _tokenOut : Address) (result : List SplitPlan × Nat) : Prop :=
  result.2 = min (splitsTotal result.1) u128Max

namespace HopsFollow

variable {splitsOf : Address → Address → List SplitPlan × Nat → Prop} {path : List CandidateHop}
  {amount final : Nat} {plans : List HopPlan}

theorem hopsMatch (follows : HopsFollow splitsOf path amount plans final) :
    HopsMatch path plans := by
  induction follows with
  | nil amount => exact List.Forall₂.nil
  | cons plan input tokenIn tokenOut output nonempty splits rest inductionHypothesis =>
    exact List.Forall₂.cons ⟨tokenIn, tokenOut⟩ inductionHypothesis

theorem head?_totalIn (follows : HopsFollow splitsOf path amount plans final) {first : HopPlan}
    (isFirst : plans.head? = some first) : first.totalIn = amount := by
  cases follows with
  | nil => cases isFirst
  | cons plan input tokenIn tokenOut output nonempty splits rest =>
    injection isFirst with same
    exact same ▸ input

theorem isChain (follows : HopsFollow splitsOf path amount plans final) :
    plans.IsChain fun hop next => hop.totalOut = next.totalIn := by
  induction follows with
  | nil amount => exact List.IsChain.nil
  | cons plan input tokenIn tokenOut output nonempty splits rest inductionHypothesis =>
    refine List.isChain_cons.mpr ⟨fun next isNext => ?_, inductionHypothesis⟩
    exact (rest.head?_totalIn isNext).symm

end HopsFollow

section Ensured

variable {State : Type} {optimizer : SplitOptimizer} {solver : WaterFill}
  {splitMinOutputBps : Nat} {quoter : Quoter State} {snapshot : GraphSnapshot}

theorem ensures_optimizePair_cutTotal (tokenIn tokenOut : Address) (totalIn : Nat)
    (start : State) :
    Ensures (optimizePair optimizer solver quoter snapshot tokenIn tokenOut totalIn) start
      fun result _ => True ∧ CutTotal tokenIn tokenOut result := by
  refine (ensures_optimizePair (sound_any quoter snapshot tokenIn tokenOut) totalIn
    trivial).mono ?_
  rintro result finish ⟨_, _, _, _, _, _, _, _, total⟩
  exact ⟨trivial, total⟩

/-- The hops of a plan, quoted again, follow the path that the hops of the plan match. -/
theorem ensures_requoteHops {path : List CandidateHop} {existing : List HopPlan}
    (matching : HopsMatch path existing) (amount : Nat) (start : State) :
    Ensures (requoteHops splitMinOutputBps quoter snapshot existing amount) start
      fun quoted _ => ∀ hops final, quoted = some (hops, final) →
        HopsFollow CutTotal path amount hops final := by
  induction matching generalizing amount start with
  | nil =>
    unfold requoteHops
    rw [ensures_pure]
    intro hops final same
    injection same with same
    injection same with noHops unchanged
    rw [← noHops, ← unchanged]
    exact HopsFollow.nil amount
  | @cons hop plan path existing tokens matching inductionHypothesis =>
    unfold requoteHops
    rw [ensures_bind]
    intro requoted middle _
    cases requoted with
    | none =>
      simp only
      rw [ensures_pure]
      intro hops final none
      cases none
    | some splits =>
      simp only
      split
      · rw [ensures_pure]
        intro hops final none
        cases none
      · rename_i yields
        rw [not_or] at yields
        rw [ensures_bind]
        refine (inductionHypothesis (totalExpected splits) middle).mono ?_
        intro rest finish follows
        rw [ensures_pure]
        intro hops final quoted
        obtain ⟨⟨restHops, restFinal⟩, found, same⟩ := Option.map_eq_some_iff.mp quoted
        injection same with sameHops sameFinal
        rw [← sameHops, ← sameFinal]
        exact HopsFollow.cons
          { tokenIn := plan.tokenIn, tokenOut := plan.tokenOut, totalIn := amount
            totalOut := totalExpected splits, splits } rfl tokens.1 tokens.2 yields.2 yields.1
          (totalExpected_eq splits) (follows restHops restFinal found)

/-! ### Sums of outputs -/

/-- The outputs of the splits of every hop add up to a `u128`. -/
def AllSumsFit (hops : List HopPlan) : Prop :=
  ∀ hop ∈ hops, splitsTotal hop.splits ≤ u128Max

theorem ensures_quoteHops_sums (path : List CandidateHop) (amount : Nat) (start : State) :
    Ensures (quoteHops optimizer solver quoter snapshot path amount) start
      fun quoted _ => ∀ hops final, quoted = some (hops, final) →
        (AllSumsFit hops ↔
          PathSumsFit optimizer solver quoter snapshot path amount start) := by
  induction path generalizing amount start with
  | nil =>
    unfold quoteHops
    rw [ensures_pure]
    intro hops final same
    injection same with same
    injection same with noHops
    rw [← noHops]
    exact iff_of_true (fun hop member => absurd member List.not_mem_nil) trivial
  | cons hop path inductionHypothesis =>
    unfold quoteHops
    rw [ensures_bind]
    rintro ⟨splits, out⟩ middle ran
    simp only
    split
    · rw [ensures_pure]
      intro hops final none
      cases none
    · rw [ensures_bind]
      refine (inductionHypothesis out middle).mono ?_
      intro rest finish sums
      rw [ensures_pure]
      intro hops final quoted
      obtain ⟨⟨restHops, restFinal⟩, found, same⟩ := Option.map_eq_some_iff.mp quoted
      injection same with sameHops
      rw [← sameHops, AllSumsFit, List.forall_mem_cons, PathSumsFit, ensures_iff_of_run ran]
      exact and_congr_right fun _ => sums restHops restFinal found

theorem ensures_requoteHops_sums (existing : List HopPlan) (amount : Nat) (start : State) :
    Ensures (requoteHops splitMinOutputBps quoter snapshot existing amount) start
      fun quoted _ => ∀ hops final, quoted = some (hops, final) →
        (AllSumsFit hops ↔
          RequotedSumsFit splitMinOutputBps quoter snapshot existing amount start) := by
  induction existing generalizing amount start with
  | nil =>
    unfold requoteHops
    rw [ensures_pure]
    intro hops final same
    injection same with same
    injection same with noHops
    rw [← noHops]
    exact iff_of_true (fun hop member => absurd member List.not_mem_nil) trivial
  | cons plan existing inductionHypothesis =>
    unfold requoteHops
    rw [ensures_bind]
    intro requoted middle ran
    cases requoted with
    | none =>
      simp only
      rw [ensures_pure]
      intro hops final none
      cases none
    | some splits =>
      simp only
      split
      · rw [ensures_pure]
        intro hops final none
        cases none
      · rw [ensures_bind]
        refine (inductionHypothesis (totalExpected splits) middle).mono ?_
        intro rest finish sums
        rw [ensures_pure]
        intro hops final quoted
        obtain ⟨⟨restHops, restFinal⟩, found, same⟩ := Option.map_eq_some_iff.mp quoted
        injection same with sameHops
        rw [← sameHops, AllSumsFit, List.forall_mem_cons, RequotedSumsFit, ensures_iff_of_run ran]
        simp only [Option.some.injEq, forall_eq']
        exact and_congr_right fun _ => sums restHops restFinal found

/-! ### Profit -/

/-- A positive gross profit on an input below `2 ^ 127` is not wrapped. -/
theorem grossProfit_exact {outputAmount inputAmount : Nat} (outputFits : outputAmount ≤ u128Max)
    (belowHalf : inputAmount < 2 ^ 127)
    (positive : 0 < wrapI128 (wrapI128 outputAmount - wrapI128 inputAmount)) :
    wrapI128 (wrapI128 outputAmount - wrapI128 inputAmount) =
      (outputAmount : Int) - inputAmount := by
  rw [wrapI128_sub, wrapI128, Int.bmod_def] at positive ⊢
  unfold u128Max at outputFits
  split at positive
  · rename_i small
    rw [if_pos small]
    omega
  · rename_i large
    rw [if_neg large]
    omega

theorem any_flashOnly_iff (candidate : CandidatePath) :
    (((snapshot.tokenIndex candidate.startToken).bind fun idx => snapshot.tokens[idx]?).any
      fun token => token.flashLoanEnabled && ! token.allowSelfFunded) = true ↔
      OnlyFlashFunded snapshot candidate := by
  unfold OnlyFlashFunded
  rw [Option.any_eq_true]
  constructor
  · rintro ⟨token, found, flags⟩
    obtain ⟨idx, isIdx, isToken⟩ := Option.bind_eq_some_iff.mp found
    rw [Bool.and_eq_true, Bool.not_eq_true'] at flags
    exact ⟨idx, token, isIdx, isToken, flags⟩
  · rintro ⟨idx, token, isIdx, isToken, flags⟩
    refine ⟨token, Option.bind_eq_some_iff.mpr ⟨idx, isIdx, isToken⟩, ?_⟩
    rw [Bool.and_eq_true, Bool.not_eq_true']
    exact flags

/-- The fee of the search is the full fee exactly when the premium is not cut. -/
theorem isFullFlashFee_estimated_iff (candidate : CandidatePath)
    (inputAmount flashPremiumPpm : Nat) :
    IsFullFlashFee snapshot candidate inputAmount flashPremiumPpm
        (estimatedFullFlashFeeRaw snapshot candidate inputAmount flashPremiumPpm) ↔
      FlashFeeFits snapshot candidate inputAmount flashPremiumPpm := by
  unfold IsFullFlashFee FlashFeeFits estimatedFullFlashFeeRaw
  simp only
  by_cases flashOnly : OnlyFlashFunded snapshot candidate
  · rw [if_pos ((any_flashOnly_iff candidate).mpr flashOnly), imp_iff_right flashOnly,
      imp_iff_right flashOnly, saturatingMul]
    refine ⟨fun fee => ?_, fun fits => ⟨?_, fun other => absurd flashOnly other⟩⟩
    · have cut := fee.1
      omega
    · omega
  · have selfFunded := mt (any_flashOnly_iff candidate).mp flashOnly
    rw [if_neg selfFunded]
    exact iff_of_true ⟨fun other => absurd other flashOnly, fun _ => rfl⟩
      fun other => absurd other flashOnly

theorem estimatedFullFlashFeeRaw_le (candidate : CandidatePath)
    (inputAmount flashPremiumPpm : Nat) :
    estimatedFullFlashFeeRaw snapshot candidate inputAmount flashPremiumPpm ≤
      u128Max / 1000000 := by
  unfold estimatedFullFlashFeeRaw
  simp only
  split
  · exact Nat.div_le_div_right (Nat.min_le_right _ _)
  · exact Nat.zero_le _

/-- A fee is subtracted exactly from a positive gross profit. -/
theorem saturatingSub_fee {grossProfitRaw : Int} {fee : Nat} (positive : 0 < grossProfitRaw)
    (bounded : grossProfitRaw < 2 ^ 127) (small : fee ≤ u128Max / 1000000) :
    saturatingSubI128 grossProfitRaw (u128ToI128Saturating fee) = grossProfitRaw - fee := by
  unfold saturatingSubI128 u128ToI128Saturating
  unfold u128Max at small
  omega

theorem wrapI128_lt (value : Int) : wrapI128 value < 2 ^ 127 := by
  unfold wrapI128
  rw [Int.bmod_def]
  split <;> omega

theorem profitablePlan_expectedProfit {candidate : CandidatePath}
    {inputAmount flashPremiumPpm : Nat} {hops : List HopPlan} {outputAmount : Nat}
    {plan : ExactPlan}
    (profitable : profitablePlan snapshot candidate inputAmount flashPremiumPpm hops
      outputAmount = some plan) :
    plan.expectedProfit = plan.grossProfitRaw -
        estimatedFullFlashFeeRaw snapshot candidate inputAmount flashPremiumPpm ∧
      0 < plan.expectedProfit := by
  unfold profitablePlan at profitable
  simp only at profitable
  split at profitable
  · cases profitable
  · rename_i gross
    split at profitable
    · cases profitable
    · rename_i net
      injection profitable with same
      subst same
      unfold searchPlan
      refine ⟨?_, Int.not_le.mp net⟩
      have small : estimatedFullFlashFeeRaw snapshot candidate inputAmount flashPremiumPpm ≤
          u128Max / 1000000 := estimatedFullFlashFeeRaw_le candidate inputAmount flashPremiumPpm
      have bounded := wrapI128_lt (wrapI128 outputAmount - wrapI128 inputAmount)
      dsimp only
      rw [saturatingSub_fee (Int.not_le.mp gross) bounded small]

/-- A profitable plan of hops that follow the path is consistent exactly when nothing was cut. -/
theorem planConsistent_iff_fits {candidate : CandidatePath} {inputAmount flashPremiumPpm : Nat}
    {hops : List HopPlan} {final : Nat} {plan : ExactPlan} (belowHalf : inputAmount < 2 ^ 127)
    (follows : HopsFollow CutTotal candidate.path inputAmount hops final)
    (profitable : profitablePlan snapshot candidate inputAmount flashPremiumPpm hops final =
      some plan) :
    PlanConsistent snapshot candidate inputAmount flashPremiumPpm plan ↔
      FlashFeeFits snapshot candidate inputAmount flashPremiumPpm ∧ AllSumsFit hops := by
  obtain ⟨sameHops, sameInput, sameOutput, gross, positive⟩ := profitablePlan_some profitable
  obtain ⟨net, netPositive⟩ := profitablePlan_expectedProfit profitable
  have cut : ∀ hop ∈ hops, hop.totalOut = min (splitsTotal hop.splits) u128Max := by
    intro hop member
    obtain ⟨_, _, _, _, _, total⟩ := follows.exists_hop hop member
    exact total
  have totals : (∀ hop ∈ hops, hop.totalOut = splitsTotal hop.splits) ↔ AllSumsFit hops := by
    refine forall₂_congr fun hop member => ?_
    rw [cut hop member]
    exact min_eq_left_iff
  obtain ⟨last, isLast, lastTotal⟩ : ∃ last, hops.getLast? = some last ∧ last.totalOut = final := by
    rcases follows.getLast?_totalOut with ⟨_, unchanged⟩ | found
    · rw [gross, unchanged, sub_self] at positive
      exact absurd positive (by decide)
    · exact found
  have outputFits : final ≤ u128Max := by
    rw [← lastTotal, cut last (List.mem_of_getLast? isLast)]
    exact Nat.min_le_right _ _
  have exactGross : plan.grossProfitRaw = (plan.outputAmount : Int) - plan.inputAmount := by
    rw [gross] at positive
    rw [gross, sameInput, sameOutput]
    exact grossProfit_exact outputFits belowHalf positive
  rw [← isFullFlashFee_estimated_iff, ← totals]
  constructor
  · intro consistent
    refine ⟨?_, sameHops ▸ consistent.totals⟩
    obtain ⟨fee, isFee, profit, _⟩ := consistent.profit
    have sameFee : fee =
        estimatedFullFlashFeeRaw snapshot candidate inputAmount flashPremiumPpm := by
      omega
    exact sameFee ▸ isFee
  · rintro ⟨isFee, sums⟩
    refine ⟨sameHops ▸ follows.hopsMatch, ⟨sameInput, ?_⟩, sameHops ▸ sums,
      sameHops ▸ follows.isChain, ?_, ⟨exactGross, positive⟩, ⟨_, isFee, net, netPositive⟩⟩
    · rw [sameHops]
      cases isFirst : hops.head? with
      | none =>
        rw [List.head?_eq_none_iff.mp isFirst] at isLast
        cases isLast
      | some first => exact congrArg some (follows.head?_totalIn isFirst)
    · rw [sameHops, isLast, sameOutput, ← lastTotal]
      rfl

/-- Every plan of either way is consistent exactly when neither the premium nor a sum of outputs
is cut. -/
theorem planConsistent_iff (optimizer : SplitOptimizer) (solver : WaterFill)
    (splitMinOutputBps : Nat) (quoter : Quoter State) (snapshot : GraphSnapshot)
    (candidate : CandidatePath) {inputAmount : Nat} (belowHalf : inputAmount < 2 ^ 127)
    (flashPremiumPpm : Nat) (start : State) :
    (Ensures (quoteCandidateWithOptimizer optimizer solver quoter snapshot candidate inputAmount
        flashPremiumPpm) start fun returned _ => ∀ plan, returned = some plan →
          (PlanConsistent snapshot candidate inputAmount flashPremiumPpm plan ↔
            FlashFeeFits snapshot candidate inputAmount flashPremiumPpm ∧
              PathSumsFit optimizer solver quoter snapshot candidate.path inputAmount start)) ∧
      ∀ existing : ExactPlan, HopsMatch candidate.path existing.hops →
        Ensures (quoteExistingPlanSplits splitMinOutputBps quoter snapshot candidate existing
          inputAmount flashPremiumPpm) start fun returned _ => ∀ plan, returned = some plan →
            (PlanConsistent snapshot candidate inputAmount flashPremiumPpm plan ↔
              FlashFeeFits snapshot candidate inputAmount flashPremiumPpm ∧
                RequotedSumsFit splitMinOutputBps quoter snapshot existing.hops inputAmount
                  start) := by
  constructor
  · unfold quoteCandidateWithOptimizer
    rw [ensures_bind]
    refine ((ensures_quoteHops CutTotal
      (fun hop _ amount start _ => ensures_optimizePair_cutTotal hop.fromToken hop.toToken amount
        start) inputAmount trivial).and (ensures_quoteHops_sums _ inputAmount start)).mono ?_
    rintro quoted finish ⟨⟨_, follows⟩, sums⟩
    rw [ensures_pure]
    intro plan returned
    obtain ⟨⟨hops, final⟩, found, profitable⟩ := Option.bind_eq_some_iff.mp returned
    rw [← sums hops final found]
    exact planConsistent_iff_fits belowHalf (follows hops final found) profitable
  · intro existing matching
    unfold quoteExistingPlanSplits
    rw [ensures_bind]
    refine ((ensures_requoteHops matching inputAmount start).and
      (ensures_requoteHops_sums existing.hops inputAmount start)).mono ?_
    rintro quoted finish ⟨follows, sums⟩
    rw [ensures_pure]
    intro plan returned
    obtain ⟨⟨hops, final⟩, found, profitable⟩ := Option.bind_eq_some_iff.mp returned
    rw [← sums hops final found]
    exact planConsistent_iff_fits belowHalf (follows hops final found) profitable

end Ensured

/-! ### A start token that can only be borrowed -/

def doublingOracle (pool : PoolState) (_tokenIn _tokenOut : Address) (amount : Nat) : Nat :=
  if pool.poolId = 13 then 2 * amount else amount

def doublingQuoter : Quoter Unit where
  quotePool pool tokenIn tokenOut amount := pure (doublingOracle pool tokenIn tokenOut amount)
  finishOrder _ count := List.range count
  finishOrder_perm _ count := perm_inOrder count

def borrowedSnapshot : GraphSnapshot :=
  GraphSnapshot.build crossedRates 1 none
    [{ crossedToken 1 with flashLoanEnabled := true, allowSelfFunded := false },
      crossedToken 2, crossedToken 3]
    (HashMap.ofList
      [(10, trianglePool 10 1 2 (2 ^ 124) (2 ^ 124)),
        (12, trianglePool 12 2 3 (2 ^ 124) (2 ^ 124)),
        (13, trianglePool 13 3 1 (2 ^ 124) (2 ^ 125))])

/-- The plan for an input at a premium of 900 ppm. -/
def borrowedPlan (inputAmount : Nat) : Except RpcError (Option ExactPlan × Unit) :=
  (quoteCandidateWithOptimizer crossedOptimizer crossedSolver doublingQuoter borrowedSnapshot
    triangleCandidate inputAmount 900).run ()

def borrowedProfit (inputAmount : Nat) : Option (Int × Int) :=
  ((borrowedPlan inputAmount).toOption.bind Prod.fst).map fun plan =>
    (plan.grossProfitRaw, plan.expectedProfit)

theorem exists_borrowedPlan {inputAmount : Nat} {profit : Int × Int}
    (found : borrowedProfit inputAmount = some profit) :
    ∃ plan finish, borrowedPlan inputAmount = .ok (some plan, finish) ∧
      (plan.grossProfitRaw, plan.expectedProfit) = profit := by
  obtain ⟨plan, isPlan, same⟩ := Option.map_eq_some_iff.mp found
  cases ran : borrowedPlan inputAmount with
  | error reason =>
    rw [ran] at isPlan
    cases isPlan
  | ok outcome =>
    obtain ⟨plan?, finish⟩ := outcome
    rw [ran] at isPlan
    exact ⟨plan, finish, congrArg (fun plan? => Except.ok (plan?, finish)) isPlan, same⟩

/-- The premium on a million units is taken in full. -/
theorem planConsistent_million :
    ∃ plan finish, borrowedPlan 1000000 = .ok (some plan, finish) ∧
      PlanConsistent borrowedSnapshot triangleCandidate 1000000 900 plan := by
  obtain ⟨plan, finish, ran, _⟩ := exists_borrowedPlan
    (show borrowedProfit 1000000 = some (1000000, 999100) by decide +kernel)
  refine ⟨plan, finish, ran, ((planConsistent_iff crossedOptimizer crossedSolver 9950
    doublingQuoter borrowedSnapshot triangleCandidate (by decide) 900 ()).1 (some plan) finish ran
    plan rfl).mpr ⟨fun _ => by decide, by decide +kernel⟩⟩

theorem onlyFlashFunded_borrowed : OnlyFlashFunded borrowedSnapshot triangleCandidate :=
  (any_flashOnly_iff triangleCandidate).mp (by decide +kernel)

/-- On `2 ^ 120` units the product of the input and the premium is cut, so the plan is charged a
fee of `340282366920938463463374607431768` where the full one is
`1196305196206424285613426354252310`. -/
theorem not_planConsistent_largeInput :
    ∃ plan finish, borrowedPlan (2 ^ 120) = .ok (some plan, finish) ∧
      ¬ PlanConsistent borrowedSnapshot triangleCandidate (2 ^ 120) 900 plan := by
  obtain ⟨plan, finish, ran, profit⟩ := exists_borrowedPlan
    (show borrowedProfit (2 ^ 120) = some (2 ^ 120, 2 ^ 120 - 340282366920938463463374607431768) by
      decide +kernel)
  refine ⟨plan, finish, ran, fun consistent => ?_⟩
  injection profit with gross net
  obtain ⟨fee, isFee, expected, _⟩ := consistent.profit
  have full := isFee.1 onlyFlashFunded_borrowed
  rw [gross, net] at expected
  omega

end DexArbitrage
