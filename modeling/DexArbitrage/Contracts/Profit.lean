/-
This file proves the profit guarantee of the executor: a successful
`executeSelfFunded` or `executeFlashLoan` leaves it with at least the
`minProfit` of the call more of the input token than it had before.

Nothing is assumed of the code outside the executor except that the input token
is a standard ledger. What the pools and the other tokens do in between,
including calls back into the executor, is an arbitrary change of the world,
and the guarantee does not follow it: both paths read the balance before the
first foreign call and after the last one, and what comes after the second
reading moves a known amount.
-/

import DexArbitrage.Execution.TxBuilder
import DexArbitrage.Contracts.FundsSafety

namespace DexArbitrage

/-- The token whose balance a call guarantees, and the profit it guarantees. -/
def EntryPoint.profitTerms : EntryPoint → Option (Address × Nat)
  | .executeSelfFunded params => some (params.inputToken, params.minProfit)
  | .executeFlashLoan params => some (params.execution.inputToken, params.execution.minProfit)
  | _ => none

section

variable {Foreign : Type} {external : External Foreign} {deployment : Deployment}

/-! ### What each piece leaves behind -/

@[simp] theorem ensures_setStorage (change : ExecutorStorage → ExecutorStorage)
    (world : World Foreign) (post : Unit → World Foreign → Prop) :
    Ensures (setStorage change) world post ↔
      post () { world with storage := change world.storage } :=
  ensures_modify _ _ _

@[simp] theorem ensures_setLedger (ledger : Ledger Address Address) (world : World Foreign)
    (post : Unit → World Foreign → Prop) :
    Ensures (setLedger ledger) world post ↔ post () { world with ledger } :=
  ensures_modify _ _ _

/-- Reading the balance of a standard token reads the ledger and changes nothing. -/
theorem ensures_balanceOf {token : Address} (standard : external.standard token = true)
    (account : Address) (world : World Foreign) (post : Nat → World Foreign → Prop) :
    Ensures (balanceOf external token account) world post ↔
      post (world.ledger.balance token account) world := by
  simp [balanceOf, standard]

/-- An approval on a standard token moves no balance. -/
theorem ensures_forceApprove {token : Address} (standard : external.standard token = true)
    (spender : Address) (amount : Nat) (world : World Foreign)
    (post : Unit → World Foreign → Prop) :
    Ensures (forceApprove external deployment token spender amount) world post ↔
      post () { world with ledger :=
        world.ledger.approve token deployment.this spender amount } := by
  simp [forceApprove, standard]

/-- What `execute` returns is the balance of the input token at its very end. -/
theorem ensures_execute {params : ExecutionParams}
    (standard : external.standard params.inputToken = true) (context : Context)
    (world : World Foreign) :
    Ensures (execute external deployment context params) world fun endingBalance after =>
      endingBalance = after.ledger.balance params.inputToken deployment.this := by
  unfold execute
  rw [ensures_bind]
  intro hops middle _
  simp [ensures_balanceOf standard]

/-! ### The two paths -/

/-- The executor gained at least an amount of a token. -/
def Gained (deployment : Deployment) (token : Address) (amount : Nat)
    (before after : World Foreign) : Prop :=
  before.ledger.balance token deployment.this + amount ≤
    after.ledger.balance token deployment.this

/-- The reentrancy guard writes the storage only, so what the body gains the call gains. -/
theorem ensures_nonReentrant {body : Evm Foreign Unit} {world : World Foreign} {token : Address}
    {amount : Nat}
    (gains : ∀ start : World Foreign, start.ledger = world.ledger →
      Ensures body start fun _ after => Gained deployment token amount world after) :
    Ensures (nonReentrant body) world fun _ after =>
      Gained deployment token amount world after := by
  simp only [nonReentrant, ensures_bind, ensures_get, ensures_require, ensures_setStorage]
  intro _
  have entered : ({ world with storage := { world.storage with locked := 2 } } :
      World Foreign).ledger = world.ledger := rfl
  exact (gains _ entered).mono fun _ _ gained => gained

theorem ensures_executeSelfFunded {params : ExecutionParams}
    (standard : external.standard params.inputToken = true) (context : Context)
    (world : World Foreign) :
    Ensures (executeSelfFunded external deployment context params) world fun _ after =>
      Gained deployment params.inputToken params.minProfit world after := by
  simp only [executeSelfFunded, onlyOperator, notPaused, ensures_bind, ensures_get,
    ensures_require]
  intro _ _
  refine ensures_nonReentrant fun start same => ?_
  simp only [ensures_bind, ensures_require, ensures_balanceOf standard, ensures_attempt]
  intro _ _ _
  refine (ensures_execute standard context start).mono fun endingBalance after ending => ?_
  intro _ realizedProfit profit enough
  have realized := checkedSub_eq_ok profit
  rw [same] at realized
  unfold Gained
  omega

/-- The callback of a flash loan gains the premium on top of the profit, and leaves the Aave pool
the allowance that pays the loan back. -/
theorem ensures_executeOperation {asset : Address} (standard : external.standard asset = true)
    (context : Context) (amount premium : Nat) (initiator : Address) (params : ExecutionParams)
    (world : World Foreign) :
    Ensures (executeOperation external deployment context asset amount premium initiator
        (some params)) world fun _ after =>
      Gained deployment asset (premium + params.minProfit) world after := by
  simp only [executeOperation, ensures_bind, ensures_require, ensures_attempt, decoded,
    Except.ok.injEq, forall_eq', ensures_balanceOf standard, ensures_pure,
    ensures_forceApprove standard]
  intro _ _ sameAsset _ _ _
  refine (ensures_execute (sameAsset ▸ standard) context world).mono fun endingBalance after
    ending => ?_
  intro amountOwed _ withPremium first required second enough
  have firstSum := checkedAdd_eq_ok first
  have secondSum := checkedAdd_eq_ok second
  rw [sameAsset] at ending
  unfold Gained
  simp only [Ledger.balance_approve]
  omega

/-- A flash loan of a standard asset: the loan comes in before the first reading, and the loan and
the premium go out after the last one. -/
theorem ensures_flashLoanSimple {asset : Address} (standard : external.standard asset = true)
    (context : Context) (amount : Nat) (params : ExecutionParams) (world : World Foreign) :
    Ensures (flashLoanSimple external deployment context asset amount params) world fun _ after =>
      Gained deployment asset params.minProfit world after := by
  simp only [flashLoanSimple, ensures_bind, ensures_get]
  cases lent : world.ledger.transfer asset deployment.aavePool deployment.this amount with
  | none => simp
  | some ledger =>
    simp only [ensures_bind, ensures_setLedger, ensures_require, ensures_get]
    refine (ensures_executeOperation standard _ amount _ context.sender params
      { world with ledger }).mono fun _ repaying gained => ?_
    intro _
    cases repaid : repaying.ledger.transferFrom asset deployment.aavePool deployment.this
        deployment.aavePool (amount + external.premium asset amount world) with
    | none => simp
    | some final =>
      have received : ledger.balance asset deployment.this =
          world.ledger.balance asset deployment.this + amount :=
        Ledger.balance_transfer deployment.separate lent
      have paid : final.balance asset deployment.this +
          (amount + external.premium asset amount world) =
          repaying.ledger.balance asset deployment.this :=
        Ledger.balance_transferFrom deployment.separate.symm repaid
      have kept : ledger.balance asset deployment.this +
          (external.premium asset amount world + params.minProfit) ≤
          repaying.ledger.balance asset deployment.this := gained
      rw [ensures_setLedger]
      show world.ledger.balance asset deployment.this + params.minProfit ≤
        final.balance asset deployment.this
      omega

theorem ensures_executeFlashLoan {params : FlashLoanParams}
    (standard : external.standard params.execution.inputToken = true) (context : Context)
    (world : World Foreign) :
    Ensures (executeFlashLoan external deployment context params) world fun _ after =>
      Gained deployment params.execution.inputToken params.execution.minProfit world after := by
  simp only [executeFlashLoan, onlyOperator, notPaused, ensures_bind, ensures_get,
    ensures_require]
  intro _ _
  refine ensures_nonReentrant fun start same => ?_
  simp only [ensures_bind, ensures_require]
  intro _ _ sameAsset _ _ _
  rw [← sameAsset, if_pos standard]
  refine (ensures_flashLoanSimple standard _ params.loanAmount params.execution start).mono
    fun _ after gained => ?_
  unfold Gained at gained ⊢
  rw [← same]
  exact gained

/-! ### The guarantee -/

theorem ensures_profitTerms {entry : EntryPoint} {token : Address} {minProfit : Nat}
    (terms : entry.profitTerms = some (token, minProfit))
    (standard : external.standard token = true) (context : Context) (world : World Foreign) :
    Ensures (enter external deployment context entry) world fun _ after =>
      Gained deployment token minProfit world after := by
  cases entry with
  | executeSelfFunded params =>
    cases terms
    exact ensures_executeSelfFunded standard context world
  | executeFlashLoan params =>
    cases terms
    exact ensures_executeFlashLoan standard context world
  | _ => cases terms

/-- The calldata of a plan carries the plan's profit floor. -/
theorem terms_buildCalldata (plan : ExactPlan) (deadlineUnix : Nat)
    (fits : plan.contractMinProfitRaw < 2 ^ 128) :
    (buildCalldata plan deadlineUnix).profitTerms =
      some (plan.inputToken, plan.contractMinProfitRaw) := by
  have floor : saturatingU256 plan.contractMinProfitRaw = plan.contractMinProfitRaw :=
    saturatingU256_of_lt (fits.trans (by decide))
  unfold buildCalldata
  cases plan.capitalSource <;> simp only [EntryPoint.profitTerms, floor]

/-- Every execution call either reverts or leaves the executor with its profit, and for a plan
that profit is the plan's floor. -/
theorem profit_guarantee (external : External Foreign) (deployment : Deployment) :
    (∀ entry token minProfit, EntryPoint.profitTerms entry = some (token, minProfit) →
      external.standard token = true → ∀ context world,
        (∃ reason, (enter external deployment context entry).run world = .error reason) ∨
        ∃ after, (enter external deployment context entry).run world = .ok ((), after) ∧
          world.ledger.balance token deployment.this + minProfit ≤
            after.ledger.balance token deployment.this) ∧
    ∀ plan deadlineUnix, plan.contractMinProfitRaw < 2 ^ 128 →
      (buildCalldata plan deadlineUnix).profitTerms =
        some (plan.inputToken, plan.contractMinProfitRaw) := by
  refine ⟨fun entry token minProfit terms standard context world => ?_, terms_buildCalldata⟩
  cases outcome : (enter external deployment context entry).run world with
  | error reason => exact Or.inl ⟨reason, rfl⟩
  | ok result =>
    exact Or.inr ⟨result.2, rfl,
      ensures_profitTerms terms standard context world result.1 result.2 outcome⟩

end

/-! ### A partial flash loan through two pairs -/

def tokenA : Address := 10

def tokenB : Address := 11

/-- Two constant-product pairs that pay out whatever they are asked for, as the mock pair of the
contract tests does, and an Aave pool with a premium of 9 basis points. -/
def twoPairs : External Unit where
  standard := fun token => decide (token = tokenA ∨ token = tokenB)
  staticcall := fun target call _ =>
    match call with
    | .token0 => .ok (encodeWord (if target = 20 then tokenA else tokenB).toNat)
    | .token1 => .ok (encodeWord (if target = 20 then tokenB else tokenA).toNat)
    | .getReserves =>
      .ok (encodeWord 1000000000 ++ encodeWord (if target = 20 then 2000000000 else 700000000) ++
        encodeWord 0)
    | _ => .error ""
  call := fun target call world =>
    match call with
    | .swap amount0Out amount1Out receiver _ =>
      match world.ledger.transfer (if target = 20 then tokenA else tokenB) target receiver
          amount0Out with
      | none => .error "TOKEN0_TRANSFER"
      | some ledger =>
        match ledger.transfer (if target = 20 then tokenB else tokenA) target receiver
            amount1Out with
        | none => .error "TOKEN1_TRANSFER"
        | some ledger => .ok ([], { world with ledger })
    | _ => .error ""
  premium := fun _ amount _ => amount * 9 / 10000

def mixedWorld : World Unit where
  storage := .deployed 3 0
  ledger :=
    { balance := fun token account =>
        if token = tokenA then
          if account = 1 then 400000 else if account = 2 then 10000000 else
            if account = 21 then 700000000 else 0
        else
          if account = 20 then 2000000000 else 0
      allowance := fun _ _ _ => 0 }
  foreign := ()

def mixedSplit (target tokenIn tokenOut : Address) (amountIn expectedAmountOut : Nat) :
    SplitPlan where
  dexName := "mock"
  poolId := target
  adapterType := .uniswapV2Like
  tokenIn := tokenIn
  tokenOut := tokenOut
  amountIn := amountIn
  minAmountOut := expectedAmountOut
  expectedAmountOut := expectedAmountOut
  extra := .v2 3000

/-- An input of 1000000, of which 600000 are borrowed, around the two pairs. -/
def mixedPlan : ExactPlan :=
  { (default : ExactPlan) with
    inputToken := tokenA
    outputToken := tokenA
    inputAmount := 1000000
    contractMinProfitRaw := 100000
    capitalSource := .mixedFlashLoan
    flashLoanAmount := 600000
    hops :=
      [{ tokenIn := tokenA, tokenOut := tokenB, totalIn := 1000000, totalOut := 1992013,
         splits := [mixedSplit 20 tokenA tokenB 1000000 1992013] },
       { tokenIn := tokenB, tokenOut := tokenA, totalIn := 1992013, totalOut := 1387470,
         splits := [mixedSplit 21 tokenB tokenA 1992013 1387470] }] }

theorem profit_mixedPlan :
    ∃ after, (enter twoPairs sampleDeployment { sender := 3, timestamp := 0 }
        (buildCalldata mixedPlan 1)).run mixedWorld = .ok ((), after) ∧
      mixedWorld.ledger.balance tokenA 1 + 100000 ≤ after.ledger.balance tokenA 1 := by
  obtain ⟨guarantee, terms⟩ := profit_guarantee twoPairs sampleDeployment
  have floor : (buildCalldata mixedPlan 1).profitTerms = some (tokenA, 100000) :=
    terms mixedPlan 1 (by decide)
  rcases guarantee _ _ _ floor (by decide) { sender := 3, timestamp := 0 } mixedWorld with
    ⟨reason, failed⟩ | succeeds
  · have succeeded : ((enter twoPairs sampleDeployment { sender := 3, timestamp := 0 }
        (buildCalldata mixedPlan 1)).run mixedWorld).isOk = true := by decide +kernel
    rw [failed] at succeeded
    cases succeeded
  · exact succeeds

end DexArbitrage
