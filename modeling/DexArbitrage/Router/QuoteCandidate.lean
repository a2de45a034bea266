/-
This file models `quote_candidate_with_optimizer` of `src/router/mod.rs`: the
hops of a candidate are optimized one after the other, each over the pools of
its own token pair and with the output of the hop before it, and the plan is
kept when it is profitable after a full flash fee.

Every hop is quoted on the same snapshot. The counters that the search keeps
about rejected amounts are not modelled.
-/

import DexArbitrage.Router.PairSplits

namespace DexArbitrage

def saturatingSubI128 (left right : Int) : Int :=
  max (min (left - right) (2 ^ 127 - 1)) (-(2 ^ 127))

def u128ToI128Saturating (value : Nat) : Int :=
  min (value : Int) (2 ^ 127 - 1)

def estimateGasLimit (hops : List HopPlan) : Nat :=
  let splitGas (split : SplitPlan) : Nat :=
    match split.adapterType with
    | .uniswapV2Like => 75000
    | .aerodromeV2Like => 100000
    | .uniswapV3Like => 155000
    | .traderJoeLb => 130000
    | .curvePlain => 240000
    | .balancerWeighted => 150000
  hops.foldl
    (fun gas hop => hop.splits.foldl
      (fun gas split => saturatingAdd (2 ^ 64 - 1) gas (splitGas split))
      (saturatingAdd (2 ^ 64 - 1) gas 20000))
    90000

/-- The premium on the whole input, when the start token can only be borrowed. -/
def estimatedFullFlashFeeRaw (snapshot : GraphSnapshot) (candidate : CandidatePath)
    (inputAmount flashPremiumPpm : Nat) : Nat :=
  let startToken := (snapshot.tokenIndex candidate.startToken).bind fun idx => snapshot.tokens[idx]?
  if startToken.any fun token => token.flashLoanEnabled && ! token.allowSelfFunded then
    saturatingMul u128Max inputAmount flashPremiumPpm / 1000000
  else
    0

/-- A plan as the search returns it; the figures that are zero are set later. -/
def searchPlan (candidate : CandidatePath) (inputAmount flashPremiumPpm : Nat)
    (hops : List HopPlan) (outputAmount searchFlashFeeRaw : Nat)
    (grossProfitRaw expectedProfit : Int) : ExactPlan where
  snapshotId := candidate.snapshotId
  inputToken := candidate.startToken
  outputToken := candidate.startToken
  inputAmount := inputAmount
  outputAmount := outputAmount
  grossProfitRaw := grossProfitRaw
  flashPremiumPpm := flashPremiumPpm
  flashFeeRaw := searchFlashFeeRaw
  netProfitBeforeGasRaw := expectedProfit
  contractMinProfitRaw := 0
  inputValueUsdE8 := 0
  flashLoanValueUsdE8 := 0
  grossProfitUsdE8 := 0
  flashFeeUsdE8 := 0
  actualFlashFeeUsdE8 := 0
  gasCostUsdE8 := 0
  netProfitUsdE8 := 0
  expectedProfit := expectedProfit
  gasLimit := estimateGasLimit hops
  gasL2ExecutionCostWei := 0
  gasL1DataFeeWei := 0
  gasCostWei := 0
  capitalSource := .selfFunded
  flashLoanAmount := 0
  actualFlashFeeRaw := 0
  hops := hops

/-- The plan for quoted hops, unless it is not profitable. -/
def profitablePlan (snapshot : GraphSnapshot) (candidate : CandidatePath)
    (inputAmount flashPremiumPpm : Nat) (hops : List HopPlan) (outputAmount : Nat) :
    Option ExactPlan :=
  let grossProfitRaw := wrapI128 (wrapI128 outputAmount - wrapI128 inputAmount)
  if grossProfitRaw ≤ 0 then
    none
  else
    let searchFlashFeeRaw :=
      estimatedFullFlashFeeRaw snapshot candidate inputAmount flashPremiumPpm
    let expectedProfit :=
      saturatingSubI128 grossProfitRaw (u128ToI128Saturating searchFlashFeeRaw)
    if expectedProfit ≤ 0 then
      none
    else
      some (searchPlan candidate inputAmount flashPremiumPpm hops outputAmount searchFlashFeeRaw
        grossProfitRaw expectedProfit)

section Candidate

variable {State : Type} (optimizer : SplitOptimizer) (solver : WaterFill) (quoter : Quoter State)
  (snapshot : GraphSnapshot)

/-- The plans of the hops and the final amount, unless some hop yields nothing. -/
def quoteHops : List CandidateHop → Nat → Program State RpcError (Option (List HopPlan × Nat))
  | [], amount => pure (some ([], amount))
  | hop :: path, amount => do
    let (splits, out) ← optimizePair optimizer solver quoter snapshot hop.fromToken hop.toToken
      amount
    if out = 0 ∨ splits = [] then
      pure none
    else
      let rest ← quoteHops path out
      return rest.map fun (hops, final) =>
        ({ tokenIn := hop.fromToken, tokenOut := hop.toToken, totalIn := amount
           totalOut := out, splits } :: hops, final)

def quoteCandidateWithOptimizer (candidate : CandidatePath) (inputAmount flashPremiumPpm : Nat) :
    Program State RpcError (Option ExactPlan) := do
  let quoted ← quoteHops optimizer solver quoter snapshot candidate.path inputAmount
  return quoted.bind fun (hops, outputAmount) =>
    profitablePlan snapshot candidate inputAmount flashPremiumPpm hops outputAmount

end Candidate

/-! ### What a returned plan consists of -/

/-- The hops follow the path, each takes what the one before it yields, and each has splits that
satisfy a property and an output that is theirs. -/
inductive HopsFollow (splitsOf : Address → Address → List SplitPlan × Nat → Prop) :
    List CandidateHop → Nat → List HopPlan → Nat → Prop
  | nil (amount : Nat) : HopsFollow splitsOf [] amount [] amount
  | cons {hop : CandidateHop} {path : List CandidateHop} (plan : HopPlan)
      {plans : List HopPlan} {amount final : Nat} (input : plan.totalIn = amount)
      (tokenIn : plan.tokenIn = hop.fromToken) (tokenOut : plan.tokenOut = hop.toToken)
      (output : plan.totalOut ≠ 0) (nonempty : plan.splits ≠ [])
      (splits : splitsOf hop.fromToken hop.toToken (plan.splits, plan.totalOut))
      (rest : HopsFollow splitsOf path plan.totalOut plans final) :
      HopsFollow splitsOf (hop :: path) amount (plan :: plans) final

namespace HopsFollow

variable {splitsOf : Address → Address → List SplitPlan × Nat → Prop} {path : List CandidateHop}
  {amount final : Nat} {plans : List HopPlan}

theorem exists_hop (follows : HopsFollow splitsOf path amount plans final) :
    ∀ plan ∈ plans, ∃ hop ∈ path, plan.tokenIn = hop.fromToken ∧ plan.tokenOut = hop.toToken ∧
      plan.splits ≠ [] ∧ splitsOf hop.fromToken hop.toToken (plan.splits, plan.totalOut) := by
  induction follows with
  | nil amount =>
    intro plan member
    cases member
  | @cons hop path first plans amount final input tokenIn tokenOut output nonempty splits rest
      inductionHypothesis =>
    intro plan member
    rcases List.mem_cons.mp member with same | later
    · rw [same]
      exact ⟨hop, List.mem_cons_self, tokenIn, tokenOut, nonempty, splits⟩
    · obtain ⟨hop, inPath, holds⟩ := inductionHypothesis plan later
      exact ⟨hop, List.mem_cons_of_mem _ inPath, holds⟩

/-- The final amount is the output of the last hop. -/
theorem getLast?_totalOut (follows : HopsFollow splitsOf path amount plans final) :
    path = [] ∧ final = amount ∨ ∃ last, plans.getLast? = some last ∧ last.totalOut = final := by
  induction follows with
  | nil amount => exact Or.inl ⟨rfl, rfl⟩
  | @cons hop path first plans amount final input tokenIn tokenOut output nonempty splits rest
      inductionHypothesis =>
    right
    cases rest with
    | nil => exact ⟨first, rfl, rfl⟩
    | cons second input tokenIn tokenOut output nonempty splits rest =>
      rcases inductionHypothesis with ⟨noPath, _⟩ | ⟨last, isLast, total⟩
      · cases noPath
      · exact ⟨last, by rw [List.getLast?_cons_cons, isLast], total⟩

end HopsFollow

section Ensured

variable {State : Type} {optimizer : SplitOptimizer} {solver : WaterFill}
  {quoter : Quoter State} {snapshot : GraphSnapshot} {invariant : State → Prop}
  (splitsOf : Address → Address → List SplitPlan × Nat → Prop)

/-- What every optimized pair keeps and ensures holds of all hops. -/
theorem ensures_quoteHops {path : List CandidateHop}
    (optimized : ∀ hop ∈ path, ∀ amount start, invariant start →
      Ensures (optimizePair optimizer solver quoter snapshot hop.fromToken hop.toToken amount)
        start fun result finish => invariant finish ∧ splitsOf hop.fromToken hop.toToken result)
    (amount : Nat) {start : State} (holds : invariant start) :
    Ensures (quoteHops optimizer solver quoter snapshot path amount) start
      fun quoted finish => invariant finish ∧ ∀ hops final, quoted = some (hops, final) →
        HopsFollow splitsOf path amount hops final := by
  induction path generalizing amount start with
  | nil =>
    unfold quoteHops
    rw [ensures_pure]
    refine ⟨holds, fun hops final same => ?_⟩
    injection same with same
    injection same with noHops unchanged
    rw [← noHops, ← unchanged]
    exact HopsFollow.nil amount
  | cons hop path inductionHypothesis =>
    unfold quoteHops
    rw [ensures_bind]
    refine (optimized hop List.mem_cons_self amount start holds).mono ?_
    rintro ⟨splits, out⟩ middle ⟨holdsMiddle, splitsOfHop⟩
    simp only
    split
    · rw [ensures_pure]
      exact ⟨holdsMiddle, fun hops final none => by cases none⟩
    · rename_i yields
      rw [not_or] at yields
      rw [ensures_bind]
      refine (inductionHypothesis (fun hop member => optimized hop (List.mem_cons_of_mem _ member))
        out holdsMiddle).mono ?_
      rintro rest finish ⟨holdsFinish, follows⟩
      rw [ensures_pure]
      refine ⟨holdsFinish, fun hops final quoted => ?_⟩
      obtain ⟨⟨restHops, restFinal⟩, found, same⟩ := Option.map_eq_some_iff.mp quoted
      injection same with sameHops sameFinal
      rw [← sameHops, ← sameFinal]
      exact HopsFollow.cons
        { tokenIn := hop.fromToken, tokenOut := hop.toToken, totalIn := amount, totalOut := out
          splits } rfl rfl rfl yields.1 yields.2 splitsOfHop (follows restHops restFinal found)

theorem grossProfitRaw_searchPlan (candidate : CandidatePath) (inputAmount flashPremiumPpm : Nat)
    (hops : List HopPlan) (outputAmount searchFlashFeeRaw : Nat)
    (grossProfitRaw expectedProfit : Int) :
    (searchPlan candidate inputAmount flashPremiumPpm hops outputAmount searchFlashFeeRaw
      grossProfitRaw expectedProfit).grossProfitRaw = grossProfitRaw := rfl

theorem profitablePlan_some {candidate : CandidatePath} {inputAmount flashPremiumPpm : Nat}
    {hops : List HopPlan} {outputAmount : Nat} {plan : ExactPlan}
    (profitable : profitablePlan snapshot candidate inputAmount flashPremiumPpm hops
      outputAmount = some plan) :
    plan.hops = hops ∧ plan.inputAmount = inputAmount ∧ plan.outputAmount = outputAmount ∧
      plan.grossProfitRaw = wrapI128 (wrapI128 outputAmount - wrapI128 inputAmount) ∧
      0 < plan.grossProfitRaw := by
  unfold profitablePlan at profitable
  simp only at profitable
  split at profitable
  · cases profitable
  · rename_i gross
    split at profitable
    · cases profitable
    · injection profitable with same
      subst same
      rw [grossProfitRaw_searchPlan]
      exact ⟨rfl, rfl, rfl, rfl, Int.not_le.mp gross⟩

/-- A returned plan has the hops that were quoted for its input. -/
theorem ensures_quoteCandidateWithOptimizer {candidate : CandidatePath}
    (optimized : ∀ hop ∈ candidate.path, ∀ amount start, invariant start →
      Ensures (optimizePair optimizer solver quoter snapshot hop.fromToken hop.toToken amount)
        start fun result finish => invariant finish ∧ splitsOf hop.fromToken hop.toToken result)
    (inputAmount flashPremiumPpm : Nat) {start : State} (holds : invariant start) :
    Ensures (quoteCandidateWithOptimizer optimizer solver quoter snapshot candidate inputAmount
      flashPremiumPpm) start fun returned finish => invariant finish ∧
        ∀ plan, returned = some plan → plan.inputAmount = inputAmount ∧
          HopsFollow splitsOf candidate.path inputAmount plan.hops plan.outputAmount ∧
          plan.grossProfitRaw = wrapI128 (wrapI128 plan.outputAmount - wrapI128 inputAmount) ∧
          0 < plan.grossProfitRaw := by
  unfold quoteCandidateWithOptimizer
  rw [ensures_bind]
  refine (ensures_quoteHops splitsOf optimized inputAmount holds).mono ?_
  rintro quoted finish ⟨holdsFinish, follows⟩
  rw [ensures_pure]
  refine ⟨holdsFinish, fun plan returned => ?_⟩
  obtain ⟨⟨hops, final⟩, found, profitable⟩ := Option.bind_eq_some_iff.mp returned
  obtain ⟨sameHops, sameInput, sameOutput, gross, positive⟩ := profitablePlan_some profitable
  refine ⟨sameInput, ?_, sameOutput ▸ gross, positive⟩
  rw [sameHops, sameOutput]
  exact follows hops final found

end Ensured

end DexArbitrage
