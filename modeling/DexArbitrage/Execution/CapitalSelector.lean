/-
This file models `src/execution/capital_selector.rs`: how much of an input is
borrowed, and whether the plan is still worth executing with that loan. The
executor's balance of the input token is read from the chain and cached for a
while; what it covers is not borrowed.

The profit is computed in signed 128 bits, while the amounts are unsigned ones.
The choice is the right one exactly when the profit as an integer lies in the
signed range, or in the part below it that wraps to a number that is not
positive.
-/

import DexArbitrage.Risk.Valuation

namespace DexArbitrage

structure CapitalChoice where
  source : CapitalSource
  loanAmountRaw : Nat
  flashFeeRaw : Nat
  actualFlashFeeRaw : Nat
  netProfitBeforeGasRaw : Int
  deriving DecidableEq, Repr

structure CachedBalance where
  fetchedAt : Instant
  value : Nat
  deriving DecidableEq, Repr

structure CapitalSelector where
  aavePool : Option Address
  maxFlashLoanUsdE8 : Nat
  executorAddress : Option Address
  balanceCacheMs : Option Nat
  balanceCache : HashMap Address CachedBalance

/-- Where the money for a plan comes from, when the loan can be had. -/
def fundingSource (plan : ExactPlan) (token : TokenInfo) (aavePoolConfigured : Bool)
    (globalFlashCapUsdE8 loanAmount : Nat) : Option CapitalSource :=
  if loanAmount = 0 then
    if token.allowSelfFunded then some .selfFunded else none
  else if ! token.flashLoanEnabled || ! aavePoolConfigured then
    none
  else do
    let flashCapUsdE8 := token.maxFlashLoanUsdE8.getD globalFlashCapUsdE8
    let loanValueUsdE8 ← amountToUsdE8 loanAmount token
    if flashCapUsdE8 < loanValueUsdE8 then
      none
    else if loanAmount = plan.inputAmount then
      some .flashLoan
    else
      some .mixedFlashLoan

def choiceFromBalanceAndFees (plan : ExactPlan) (token : TokenInfo) (aavePoolConfigured : Bool)
    (globalFlashCapUsdE8 loanAmount actualFlashFeeRaw : Nat) : Option CapitalChoice :=
  if plan.inputAmount < loanAmount then
    none
  else
    let netProfit :=
      calculateNetProfitBeforeGasRaw plan.inputAmount plan.outputAmount actualFlashFeeRaw
    if netProfit ≤ 0 then
      none
    else
      (fundingSource plan token aavePoolConfigured globalFlashCapUsdE8 loanAmount).map
        fun source =>
          { source
            loanAmountRaw := loanAmount
            flashFeeRaw := actualFlashFeeRaw
            actualFlashFeeRaw
            netProfitBeforeGasRaw := netProfit }

namespace CapitalSelector

/-- The balance of the executor, as the cache or the chain tells it. The clock is read before the
lookup and after the answer. -/
def executorBalance (selector : CapitalSelector)
    (balanceOf : Address → Address → Except RpcError Nat) (now later : Instant) (token : Address) :
    Except RpcError (Nat × CapitalSelector) :=
  let ttl := envUsize selector.balanceCacheMs 1500
  match (selector.balanceCache.lookup token).filter fun cached => now - cached.fetchedAt ≤ ttl with
  | some cached => .ok (cached.value, selector)
  | none =>
    match selector.executorAddress with
    | none => .ok (0, selector)
    | some executor => do
      let raw ← balanceOf token executor
      let value := min raw u128Max
      let cached : CachedBalance := { fetchedAt := later, value }
      return (value, { selector with balanceCache := selector.balanceCache.insert token cached })

/-- The balance that a plan may use; an error counts as no balance. -/
def ownBalance (selector : CapitalSelector)
    (balanceOf : Address → Address → Except RpcError Nat) (now later : Instant) (plan : ExactPlan)
    (token : TokenInfo) : Nat × CapitalSelector :=
  if token.allowSelfFunded then
    match selector.executorBalance balanceOf now later plan.inputToken with
    | .ok found => found
    | .error _ => (0, selector)
  else
    (0, selector)

def choose (selector : CapitalSelector) (balanceOf : Address → Address → Except RpcError Nat)
    (now later : Instant) (plan : ExactPlan) (token : TokenInfo) :
    Option CapitalChoice × CapitalSelector :=
  if plan.grossProfitRaw ≤ 0 then
    (none, selector)
  else
    let (executorBalance, selector) := selector.ownBalance balanceOf now later plan token
    let ownAmount := min executorBalance plan.inputAmount
    let loanAmount := plan.inputAmount - ownAmount
    let actualFlashFeeRaw := saturatingMul u128Max loanAmount plan.flashPremiumPpm / 1000000
    (choiceFromBalanceAndFees plan token selector.aavePool.isSome selector.maxFlashLoanUsdE8
      loanAmount actualFlashFeeRaw, selector)

end CapitalSelector

/-! ### What a right choice is -/

/-- The loan can be had: there is none and the token may be self-funded, or it is enabled, there is
a pool to borrow from, and its value in dollars is within the cap. -/
def Fundable (token : TokenInfo) (aavePoolConfigured : Bool)
    (globalFlashCapUsdE8 loanAmount : Nat) : Prop :=
  loanAmount = 0 ∧ token.allowSelfFunded = true ∨
    0 < loanAmount ∧ token.flashLoanEnabled = true ∧ aavePoolConfigured = true ∧
      ∃ usd, amountToUsdE8 loanAmount token = some usd ∧
        usd ≤ token.maxFlashLoanUsdE8.getD globalFlashCapUsdE8

def sourceOfLoan (loanAmount inputAmount : Nat) : CapitalSource :=
  if loanAmount = 0 then
    .selfFunded
  else if loanAmount = inputAmount then
    .flashLoan
  else
    .mixedFlashLoan

/-- The profit of a plan with a fee, as an integer. -/
def exactNetProfit (plan : ExactPlan) (fee : Nat) : Int :=
  (plan.outputAmount : Int) - plan.inputAmount - fee

/-- There is a choice exactly when the plan gains after its fee and its loan can be had; it names
the source of the money and the profit. -/
structure ChoiceIsRight (plan : ExactPlan) (token : TokenInfo) (aavePoolConfigured : Bool)
    (globalFlashCapUsdE8 loanAmount fee : Nat) : Prop where
  isSome_iff :
    (choiceFromBalanceAndFees plan token aavePoolConfigured globalFlashCapUsdE8 loanAmount
        fee).isSome ↔
      plan.inputAmount + fee < plan.outputAmount ∧ loanAmount ≤ plan.inputAmount ∧
        Fundable token aavePoolConfigured globalFlashCapUsdE8 loanAmount
  names : ∀ choice,
    choiceFromBalanceAndFees plan token aavePoolConfigured globalFlashCapUsdE8 loanAmount fee =
        some choice →
      choice.source = sourceOfLoan loanAmount plan.inputAmount ∧
        choice.netProfitBeforeGasRaw = exactNetProfit plan fee

section Choice

variable {plan : ExactPlan} {token : TokenInfo} {aavePoolConfigured : Bool}
  {globalFlashCapUsdE8 loanAmount fee : Nat}

theorem fundingSource_eq_some_iff {source : CapitalSource} :
    fundingSource plan token aavePoolConfigured globalFlashCapUsdE8 loanAmount = some source ↔
      Fundable token aavePoolConfigured globalFlashCapUsdE8 loanAmount ∧
        source = sourceOfLoan loanAmount plan.inputAmount := by
  unfold fundingSource Fundable sourceOfLoan
  by_cases noLoan : loanAmount = 0
  · subst noLoan
    cases token.allowSelfFunded with
    | false => simp
    | true => simp [@eq_comm _ source]
  rw [if_neg noLoan, if_neg noLoan]
  by_cases blocked : (! token.flashLoanEnabled || ! aavePoolConfigured) = true
  · rw [if_pos blocked]
    simp only [Bool.or_eq_true, Bool.not_eq_true'] at blocked
    rcases blocked with disabled | missing
    · simp [noLoan, disabled]
    · simp [noLoan, missing]
  rw [if_neg blocked]
  have enabled : token.flashLoanEnabled = true ∧ aavePoolConfigured = true := by
    simpa using blocked
  simp only [Option.bind_eq_bind, Option.bind_eq_some_iff]
  constructor
  · rintro ⟨usd, isValue, rest⟩
    split at rest
    · cases rest
    · rename_i within
      refine ⟨Or.inr ⟨Nat.pos_of_ne_zero noLoan, enabled.1, enabled.2, usd, isValue,
        Nat.le_of_not_lt within⟩, ?_⟩
      split at rest
      · rename_i whole
        rw [if_pos whole]
        injection rest with same
        exact same.symm
      · rename_i part
        rw [if_neg part]
        injection rest with same
        exact same.symm
  · rintro ⟨⟨zero, _⟩ | ⟨_, _, _, usd, isValue, within⟩, same⟩
    · exact absurd zero noLoan
    · refine ⟨usd, isValue, ?_⟩
      rw [if_neg (Nat.not_lt.mpr within), same]
      split <;> rfl

/-- What the choice is, in terms of the wrapped profit. -/
theorem choiceFromBalanceAndFees_eq_some_iff {choice : CapitalChoice} :
    choiceFromBalanceAndFees plan token aavePoolConfigured globalFlashCapUsdE8 loanAmount fee =
        some choice ↔
      loanAmount ≤ plan.inputAmount ∧ 0 < wrapI128 (exactNetProfit plan fee) ∧
        Fundable token aavePoolConfigured globalFlashCapUsdE8 loanAmount ∧
        choice =
          { source := sourceOfLoan loanAmount plan.inputAmount
            loanAmountRaw := loanAmount
            flashFeeRaw := fee
            actualFlashFeeRaw := fee
            netProfitBeforeGasRaw := wrapI128 (exactNetProfit plan fee) } := by
  unfold choiceFromBalanceAndFees exactNetProfit
  rw [calculateNetProfitBeforeGasRaw_eq]
  dsimp only
  split
  · rename_i exceeds
    simp [Nat.not_le.mpr exceeds]
  · rename_i within
    split
    · rename_i loses
      simp [Int.not_lt.mpr loses]
    · rename_i gains
      simp only [Option.map_eq_some_iff, fundingSource_eq_some_iff, Nat.le_of_not_lt within,
        Int.not_le.mp gains, true_and]
      constructor
      · rintro ⟨_, ⟨fundable, rfl⟩, rfl⟩
        exact ⟨fundable, rfl⟩
      · rintro ⟨fundable, rfl⟩
        exact ⟨_, ⟨fundable, rfl⟩, rfl⟩

/-- The integers that are wrapped to a number of the same sign: those of the signed range, and the
losses that wrap once more to a loss. -/
def WrapsToSameSign (profit : Int) : Prop :=
  -2 ^ 127 ≤ profit ∧ profit < 2 ^ 127 ∨ -2 ^ 128 - 2 ^ 127 ≤ profit ∧ profit ≤ -2 ^ 128

theorem wrapI128_pos_iff {profit : Int} (low : -2 ^ 129 < profit) (high : profit < 2 ^ 128) :
    WrapsToSameSign profit ↔
      (0 < wrapI128 profit ↔ 0 < profit) := by
  unfold WrapsToSameSign wrapI128
  rw [Int.bmod_def]
  split <;> omega

theorem wrapI128_eq_of_pos {profit : Int} (same : WrapsToSameSign profit) (positive : 0 < profit) :
    wrapI128 profit = profit := by
  unfold WrapsToSameSign at same
  unfold wrapI128
  rw [Int.bmod_def]
  split <;> omega

theorem choiceIsRight_iff (outputFits : plan.outputAmount ≤ u128Max)
    (inputFits : plan.inputAmount ≤ u128Max) (feeFits : fee ≤ u128Max) :
    ChoiceIsRight plan token aavePoolConfigured globalFlashCapUsdE8 loanAmount fee ↔
      (loanAmount ≤ plan.inputAmount →
        Fundable token aavePoolConfigured globalFlashCapUsdE8 loanAmount →
          WrapsToSameSign (exactNetProfit plan fee)) := by
  have low : -2 ^ 129 < exactNetProfit plan fee := by
    unfold exactNetProfit u128Max at *
    omega
  have high : exactNetProfit plan fee < 2 ^ 128 := by
    unfold exactNetProfit u128Max at *
    omega
  have gains : 0 < exactNetProfit plan fee ↔ plan.inputAmount + fee < plan.outputAmount := by
    unfold exactNetProfit
    omega
  have isSome_iff :
      (choiceFromBalanceAndFees plan token aavePoolConfigured globalFlashCapUsdE8 loanAmount
          fee).isSome ↔ loanAmount ≤ plan.inputAmount ∧ 0 < wrapI128 (exactNetProfit plan fee) ∧
        Fundable token aavePoolConfigured globalFlashCapUsdE8 loanAmount := by
    rw [Option.isSome_iff_exists]
    simp only [choiceFromBalanceAndFees_eq_some_iff]
    exact ⟨fun ⟨_, within, positive, fundable, _⟩ => ⟨within, positive, fundable⟩,
      fun ⟨within, positive, fundable⟩ => ⟨_, within, positive, fundable, rfl⟩⟩
  constructor
  · intro right within fundable
    have same := isSome_iff.symm.trans right.isSome_iff
    rw [← gains] at same
    rw [wrapI128_pos_iff low high]
    simpa only [within, fundable, and_true, true_and] using same
  · intro fits
    refine ⟨?_, ?_⟩
    · rw [isSome_iff, ← gains]
      constructor
      · rintro ⟨within, positive, fundable⟩
        exact ⟨((wrapI128_pos_iff low high).mp (fits within fundable)).mp positive, within,
          fundable⟩
      · rintro ⟨positive, within, fundable⟩
        exact ⟨within, ((wrapI128_pos_iff low high).mp (fits within fundable)).mpr positive,
          fundable⟩
    · intro choice isChoice
      obtain ⟨within, positive, fundable, rfl⟩ := choiceFromBalanceAndFees_eq_some_iff.mp isChoice
      have same := fits within fundable
      exact ⟨rfl, wrapI128_eq_of_pos same (((wrapI128_pos_iff low high).mp same).mp positive)⟩

end Choice

/-! ### What is borrowed -/

/-- Looking up a balance changes the cache and no setting. -/
theorem executorBalance_keeps_settings {selector after : CapitalSelector}
    {balanceOf : Address → Address → Except RpcError Nat} {now later : Instant} {token : Address}
    {balance : Nat}
    (found : selector.executorBalance balanceOf now later token = .ok (balance, after)) :
    after.aavePool = selector.aavePool ∧ after.maxFlashLoanUsdE8 = selector.maxFlashLoanUsdE8 := by
  unfold CapitalSelector.executorBalance at found
  dsimp only at found
  split at found
  · injection found with same
    injection same with _ sameSelector
    exact sameSelector ▸ ⟨rfl, rfl⟩
  split at found
  · injection found with same
    injection same with _ sameSelector
    exact sameSelector ▸ ⟨rfl, rfl⟩
  · cases answered : balanceOf token ‹Address› with
    | error reason =>
      rw [answered] at found
      cases found
    | ok raw =>
      rw [answered] at found
      injection found with same
      injection same with _ sameSelector
      exact sameSelector ▸ ⟨rfl, rfl⟩

/-- The balance that the executor is known to have; an error counts as none. -/
def knownBalance (selector : CapitalSelector)
    (balanceOf : Address → Address → Except RpcError Nat) (now later : Instant) (plan : ExactPlan) :
    Nat :=
  match selector.executorBalance balanceOf now later plan.inputToken with
  | .ok (balance, _) => balance
  | .error _ => 0

theorem ownBalance_eq (selector : CapitalSelector)
    (balanceOf : Address → Address → Except RpcError Nat) (now later : Instant) (plan : ExactPlan)
    (token : TokenInfo) :
    let found := selector.ownBalance balanceOf now later plan token
    found.1 =
        (if token.allowSelfFunded then knownBalance selector balanceOf now later plan else 0) ∧
      found.2.aavePool = selector.aavePool ∧
      found.2.maxFlashLoanUsdE8 = selector.maxFlashLoanUsdE8 := by
  unfold CapitalSelector.ownBalance knownBalance
  by_cases allowed : token.allowSelfFunded = true
  · simp only [if_pos allowed]
    cases looked : selector.executorBalance balanceOf now later plan.inputToken with
    | ok found => exact ⟨rfl, executorBalance_keeps_settings looked⟩
    | error reason => exact ⟨rfl, rfl, rfl⟩
  · simp only [if_neg allowed, and_self]

/-- What is borrowed is the part of the input that the executor's own balance does not cover, if the
fee is not cut; and a choice is the right one exactly when the profit wraps to its own sign, or
nothing can be chosen anyway. -/
theorem capitalChoice_iff (selector : CapitalSelector)
    (balanceOf : Address → Address → Except RpcError Nat) (now later : Instant) (plan : ExactPlan)
    (token : TokenInfo) (outputFits : plan.outputAmount ≤ u128Max)
    (inputFits : plan.inputAmount ≤ u128Max) :
    let own := if token.allowSelfFunded then knownBalance selector balanceOf now later plan else 0
    let loan := plan.inputAmount - min own plan.inputAmount
    (0 < plan.grossProfitRaw → loan * plan.flashPremiumPpm ≤ u128Max →
      (selector.choose balanceOf now later plan token).1 =
        choiceFromBalanceAndFees plan token selector.aavePool.isSome selector.maxFlashLoanUsdE8 loan
          (loan * plan.flashPremiumPpm / 1000000) ∧
      ∀ choice, (selector.choose balanceOf now later plan token).1 = some choice →
        choice.loanAmountRaw = loan) ∧
    ∀ (aavePoolConfigured : Bool) (globalFlashCapUsdE8 loanAmount fee : Nat),
      globalFlashCapUsdE8 ≤ u128Max → loanAmount ≤ u128Max → fee ≤ u128Max →
        (ChoiceIsRight plan token aavePoolConfigured globalFlashCapUsdE8 loanAmount fee ↔
          (loanAmount ≤ plan.inputAmount →
            Fundable token aavePoolConfigured globalFlashCapUsdE8 loanAmount →
              WrapsToSameSign (exactNetProfit plan fee))) := by
  intro own loan
  refine ⟨fun gross uncut => ?_, fun _ _ _ fee _ _ feeFits =>
    choiceIsRight_iff outputFits inputFits feeFits⟩
  have chosen : (selector.choose balanceOf now later plan token).1 =
      choiceFromBalanceAndFees plan token selector.aavePool.isSome selector.maxFlashLoanUsdE8 loan
        (loan * plan.flashPremiumPpm / 1000000) := by
    obtain ⟨isOwn, samePool, sameCap⟩ := ownBalance_eq selector balanceOf now later plan token
    unfold CapitalSelector.choose
    rw [if_neg (Int.not_le.mpr gross)]
    dsimp only
    rw [samePool, sameCap, isOwn, saturatingMul, Nat.min_eq_left uncut]
  refine ⟨chosen, fun choice isChoice => ?_⟩
  rw [chosen] at isChoice
  obtain ⟨_, _, _, rfl⟩ := choiceFromBalanceAndFees_eq_some_iff.mp isChoice
  rfl

/-- A token without a price that may be self-funded. -/
def selfFundedToken : TokenInfo where
  address := 1
  symbol := "A"
  decimals := 18
  isStable := false
  isCycleAnchor := true
  flashLoanEnabled := false
  allowSelfFunded := true
  manualPriceUsdE8 := none
  maxPositionUsdE8 := none
  maxFlashLoanUsdE8 := none

/-- A token at a dollar that may be self-funded and borrowed. -/
def borrowedToken : TokenInfo :=
  { selfFundedToken with
    decimals := 6, flashLoanEnabled := true, manualPriceUsdE8 := some 100000000 }

/-- A plan that gains a tenth of its input of a thousand dollars, by an executor that owns four
hundred: the other six hundred are borrowed, and their fee is subtracted from the gain. -/
theorem capitalChoice_gain :
    let selector : CapitalSelector :=
      { aavePool := some 9, maxFlashLoanUsdE8 := 100000000000, executorAddress := some 7
        balanceCacheMs := none, balanceCache := ∅ }
    let plan : ExactPlan :=
      { (default : ExactPlan) with
        inputAmount := 1000000000, outputAmount := 1100000000, grossProfitRaw := 100000000
        flashPremiumPpm := 500 }
    (selector.choose (fun _ _ => .ok 400000000) 0 0 plan borrowedToken).1 =
        some
          { source := .mixedFlashLoan, loanAmountRaw := 600000000, flashFeeRaw := 300000
            actualFlashFeeRaw := 300000, netProfitBeforeGasRaw := 99700000 } ∧
      ChoiceIsRight plan borrowedToken true 100000000000 600000000 300000 := by
  intro selector plan
  have exact := capitalChoice_iff selector (fun _ _ => .ok 400000000) 0 0 plan borrowedToken
    (by decide) (by decide)
  refine ⟨(exact.1 (by decide) (by decide +kernel)).1.trans (by decide +kernel), ?_⟩
  refine (exact.2 true 100000000000 600000000 300000 (by decide) (by decide) (by decide)).mpr
    fun _ _ => ?_
  exact Or.inl (by decide)

/-- A plan that pays the largest amount and gets one unit back is chosen, with a gain of two. -/
theorem losingPlan_isChosen :
    let plan : ExactPlan :=
      { (default : ExactPlan) with inputAmount := u128Max, outputAmount := 1 }
    choiceFromBalanceAndFees plan selfFundedToken false 0 0 0 =
        some { source := .selfFunded, loanAmountRaw := 0, flashFeeRaw := 0
               actualFlashFeeRaw := 0, netProfitBeforeGasRaw := 2 } ∧
      ¬ ChoiceIsRight plan selfFundedToken false 0 0 0 := by
  intro plan
  have chosen : choiceFromBalanceAndFees plan selfFundedToken false 0 0 0 =
      some { source := .selfFunded, loanAmountRaw := 0, flashFeeRaw := 0
             actualFlashFeeRaw := 0, netProfitBeforeGasRaw := 2 } := by
    decide +kernel
  refine ⟨chosen, fun right => ?_⟩
  have gains := (right.isSome_iff.mp (by rw [chosen]; rfl)).1
  exact absurd gains (by decide)

end DexArbitrage
