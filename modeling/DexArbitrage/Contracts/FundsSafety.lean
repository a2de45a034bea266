/-
This file settles what an outsider can do to the executor's tokens while no
execution is in progress. An outsider is an account without any role: not the
owner, not an operator, not the Aave pool, not on the target allowlist, and
without an allowance from the executor. It may call every entry point with any
data, and it may act on the token ledgers in its own name.

Every entry point refuses an outsider, except `uniswapV3SwapCallback` of an
executor whose allowlist is not strict: it pays whoever calls it. So the balances
never fall along a run exactly when no call of the run is a swap callback that
is paid: `stepsMeet_keepsFunds_iff`.
-/

import DexArbitrage.Lib.Run
import DexArbitrage.Contracts.Executor

namespace DexArbitrage

/-- An account without a role. -/
structure Outsider {Foreign : Type} (deployment : Deployment) (world : World Foreign)
    (account : Address) : Prop where
  notExecutor : account ≠ deployment.this
  notOwner : account ≠ world.storage.owner
  notOperator : world.storage.operators account = false
  notAavePool : account ≠ deployment.aavePool
  notTarget : world.storage.allowedTargets account = false
  noAllowance : ∀ token, world.ledger.allowance token deployment.this account = 0

/-- What an outsider does: call the executor, or act on a token ledger. -/
inductive OutsiderAction
  | enter (timestamp : Nat) (entry : EntryPoint)
  | ledger (action : LedgerAction Address Address)

structure OutsiderCall where
  caller : Address
  action : OutsiderAction

section

variable {Foreign : Type} (external : External Foreign) (deployment : Deployment)

/-- One transaction of an outsider. A revert leaves the world as it was. -/
def outsiderStep (world : World Foreign) (call : OutsiderCall) : World Foreign :=
  match call.action with
  | .enter timestamp entry =>
    match (enter external deployment { sender := call.caller, timestamp } entry).run world with
    | .ok (_, after) => after
    | .error _ => world
  | .ledger action =>
    match world.ledger.act call.caller action with
    | some ledger => { world with ledger }
    | none => world

/-- The executor has no less of any standard token. -/
def KeepsBalances (before after : World Foreign) : Prop :=
  ∀ token, external.standard token = true →
    before.ledger.balance token deployment.this ≤ after.ledger.balance token deployment.this

/-- The call leaves the executor with no less of any standard token. -/
def KeepsFunds (world : World Foreign) (call : OutsiderCall) : Prop :=
  KeepsBalances external deployment world (outsiderStep external deployment world call)

variable {external} in
def ByOutsider (world : World Foreign) (call : OutsiderCall) : Prop :=
  Outsider deployment world call.caller

/-- No call in a sequence of outsiders' calls leaves the executor with less of any standard
token. -/
def FundsSafe (world : World Foreign) : Prop :=
  ∀ calls : List OutsiderCall,
    StepsMeet (outsiderStep external deployment) (ByOutsider deployment) world calls →
      StepsMeet (outsiderStep external deployment) (KeepsFunds external deployment) world calls

/-- What the swap callback is asked to pay. -/
def askedPayment (amount0Delta amount1Delta : Int) : Nat :=
  if 0 < amount0Delta then amount0Delta.toNat else amount1Delta.toNat

/-- The executor's own code does not pay for the call: it is no swap callback, or the allowlist is
strict, or nothing is asked for, or no token is named, or the executor has less than the payment.
Where the named address is no standard ledger, what counts is the code that is found there. -/
def PaysNothing (world : World Foreign) (call : OutsiderCall) : Prop :=
  match call.action with
  | .enter _ (.uniswapV3SwapCallback amount0Delta amount1Delta data) =>
    world.storage.strictTargetAllowlist = false → 0 < amount0Delta ∨ 0 < amount1Delta →
      ∀ token, decodeAddress data 0 = some token →
        if external.standard token then
          world.ledger.balance token deployment.this < askedPayment amount0Delta amount1Delta
        else
          ∀ returned after,
            external.call token
                (.transfer call.caller (askedPayment amount0Delta amount1Delta)) world =
              .ok (returned, after) →
            TokenCallAccepted returned → KeepsBalances external deployment world after
  | _ => True

/-! ### What an outsider is refused -/

variable {external deployment}

theorem keepsBalances_refl (world : World Foreign) :
    KeepsBalances external deployment world world :=
  fun _ _ => Nat.le_refl _

/-- Every entry point but the swap callback refuses an outsider, or only takes native currency. -/
theorem enter_outsider {world : World Foreign} {caller : Address} (timestamp : Nat)
    (outsider : Outsider deployment world caller) {entry : EntryPoint}
    (notCallback : ∀ amount0Delta amount1Delta data,
      entry ≠ .uniswapV3SwapCallback amount0Delta amount1Delta data) :
    Ensures (enter external deployment { sender := caller, timestamp } entry) world
      fun _ after => after = world := by
  have owner : ¬ caller = world.storage.owner := outsider.notOwner
  have operator : ¬ (caller = world.storage.owner ∨ world.storage.operators caller = true) := by
    rw [outsider.notOperator]
    simp [owner]
  cases entry with
  | receiveNative => simp [enter]
  | transferOwnership | setOperator | setAllowedTargets | setStrictTargetAllowlist | setPaused
  | rescueTokens | rescueNative => simp [enter, onlyOwner, owner]
  | executeSelfFunded => simp [enter, executeSelfFunded, onlyOperator, operator]
  | executeFlashLoan => simp [enter, executeFlashLoan, onlyOperator, operator]
  | executeOperation => simp [enter, executeOperation, outsider.notAavePool]
  | uniswapV3SwapCallback => exact absurd rfl (notCallback _ _ _)

/-- A call of the executor keeps its funds when every successful outcome does. -/
theorem keepsFunds_enter_iff (world : World Foreign) (caller : Address) (timestamp : Nat)
    (entry : EntryPoint) :
    KeepsFunds external deployment world ⟨caller, .enter timestamp entry⟩ ↔
      Ensures (enter external deployment { sender := caller, timestamp } entry) world
        fun _ after => KeepsBalances external deployment world after := by
  unfold KeepsFunds outsiderStep Ensures
  dsimp only
  cases ran : (enter external deployment { sender := caller, timestamp } entry).run world with
  | error reason =>
    refine iff_of_true (keepsBalances_refl world) fun value after outcome => ?_
    cases outcome
  | ok outcome =>
    constructor
    · intro keeps value after same
      cases same
      exact keeps
    · intro keeps
      exact keeps outcome.1 outcome.2 rfl

/-- A transfer of a standard token takes what the executor has. -/
theorem keepsBalances_transfer_iff {world : World Foreign} {token receiver : Address}
    {amount : Nat} (standard : external.standard token = true)
    (different : deployment.this ≠ receiver) (positive : 0 < amount) :
    (Ensures (safeTransfer external deployment token receiver amount) world fun _ after =>
        KeepsBalances external deployment world after) ↔
      world.ledger.balance token deployment.this < amount := by
  unfold safeTransfer Ledger.transfer
  rw [if_pos standard, ensures_bind, ensures_get]
  by_cases enough : amount ≤ world.ledger.balance token deployment.this
  · rw [if_pos enough]
    refine iff_of_false (fun keeps => ?_) (Nat.not_lt.mpr enough)
    have kept := (ensures_modify _ world _).mp keeps token standard
    dsimp only at kept
    rw [Ledger.balance_move, if_pos rfl, if_pos rfl, if_neg different] at kept
    omega
  · rw [if_neg enough]
    exact iff_of_true ((ensures_throw _ world _).mpr trivial) (Nat.lt_of_not_le enough)

/-- A call of another contract in place of a token keeps what that contract leaves. -/
theorem keepsBalances_foreignTransfer_iff {world : World Foreign} {token receiver : Address}
    {amount : Nat} (foreign : external.standard token = false) :
    (Ensures (safeTransfer external deployment token receiver amount) world fun _ after =>
        KeepsBalances external deployment world after) ↔
      ∀ returned after,
        external.call token (.transfer receiver amount) world = .ok (returned, after) →
        TokenCallAccepted returned → KeepsBalances external deployment world after := by
  unfold safeTransfer
  rw [if_neg (by rw [foreign]; exact Bool.false_ne_true), ensures_bind]
  have called : ∀ returned after,
      (lowLevelCall external token (.transfer receiver amount) "TRANSFER_FAILED").run world =
          .ok (returned, after) ↔
        external.call token (.transfer receiver amount) world = .ok (returned, after) := by
    intro returned after
    show lowLevelCall external token (.transfer receiver amount) "TRANSFER_FAILED" world = _ ↔ _
    unfold lowLevelCall
    cases external.call token (.transfer receiver amount) world with
    | ok outcome => exact Iff.rfl
    | error reason => exact iff_of_false (fun same => by cases same) fun same => by cases same
  constructor
  · intro keeps returned after answered accepted
    exact (ensures_require _ _ _ _).mp (keeps returned after ((called _ _).mpr answered)) accepted
  · intro keeps returned after answered
    refine (ensures_require _ _ _ _).mpr fun accepted => ?_
    exact keeps returned after ((called _ _).mp answered) accepted

theorem askedPayment_pos {amount0Delta amount1Delta : Int}
    (asked : 0 < amount0Delta ∨ 0 < amount1Delta) : 0 < askedPayment amount0Delta amount1Delta := by
  unfold askedPayment
  split
  · omega
  · omega

/-- The swap callback keeps the funds exactly when nothing is paid. -/
theorem keepsFunds_callback_iff {world : World Foreign} {caller : Address}
    (outsider : Outsider deployment world caller) (timestamp : Nat)
    (amount0Delta amount1Delta : Int) (data : Bytes) :
    KeepsFunds external deployment world
        ⟨caller, .enter timestamp (.uniswapV3SwapCallback amount0Delta amount1Delta data)⟩ ↔
      PaysNothing external deployment world
        ⟨caller, .enter timestamp (.uniswapV3SwapCallback amount0Delta amount1Delta data)⟩ := by
  rw [keepsFunds_enter_iff]
  unfold PaysNothing
  dsimp only [enter]
  unfold uniswapV3SwapCallback checkTarget
  simp only [ensures_bind, ensures_require, ensures_get, ensures_attempt]
  cases lax : world.storage.strictTargetAllowlist with
  | true =>
    refine iff_of_true (fun _ => ?_) fun isFalse => by cases isFalse
    rw [if_pos rfl, ensures_require, outsider.notTarget]
    exact fun allowed => by cases allowed
  | false =>
    rw [if_neg Bool.false_ne_true, ensures_pure]
    refine Iff.trans ?_ (forall_prop_of_true rfl).symm
    refine forall_congr' fun asked => ?_
    have decodes : ∀ token, decoded (decodeAddress data 0) = .ok token ↔
        decodeAddress data 0 = some token := by
      intro token
      unfold decoded
      cases decodeAddress data 0 <;> simp
    refine forall_congr' fun token => ?_
    rw [decodes]
    refine forall_congr' fun named => ?_
    cases standard : external.standard token with
    | true =>
      rw [if_pos rfl]
      exact keepsBalances_transfer_iff standard outsider.notExecutor.symm (askedPayment_pos asked)
    | false =>
      rw [if_neg Bool.false_ne_true]
      exact keepsBalances_foreignTransfer_iff standard

/-! ### Every call, and whole runs -/

/-- A call of an outsider keeps the funds exactly when nothing is paid. -/
theorem keepsFunds_iff {world : World Foreign} {call : OutsiderCall}
    (outsider : ByOutsider deployment world call) :
    KeepsFunds external deployment world call ↔ PaysNothing external deployment world call := by
  obtain ⟨caller, action⟩ := call
  have outsider : Outsider deployment world caller := outsider
  cases action with
  | ledger action =>
    refine iff_of_true (fun token _ => ?_) trivial
    unfold outsiderStep
    dsimp only
    split
    · rename_i ledger acted
      exact (Ledger.balance_le_act outsider.notExecutor.symm outsider.noAllowance acted).1 token
    · exact Nat.le_refl _
  | enter timestamp entry =>
    cases entry with
    | uniswapV3SwapCallback amount0Delta amount1Delta data =>
      exact keepsFunds_callback_iff outsider timestamp amount0Delta amount1Delta data
    | _ =>
      refine iff_of_true ?_ trivial
      rw [keepsFunds_enter_iff]
      refine (enter_outsider timestamp outsider fun _ _ _ same => by cases same).mono ?_
      rintro _ after rfl
      exact keepsBalances_refl after

/-- Along a run of outsiders' calls no balance of the executor ever falls exactly when no call of
the run is paid. -/
theorem stepsMeet_keepsFunds_iff (world : World Foreign) (calls : List OutsiderCall)
    (outsiders : StepsMeet (outsiderStep external deployment) (ByOutsider deployment) world
      calls) :
    StepsMeet (outsiderStep external deployment) (KeepsFunds external deployment) world calls ↔
      StepsMeet (outsiderStep external deployment) (PaysNothing external deployment) world
        calls := by
  induction calls generalizing world with
  | nil => exact Iff.rfl
  | cons call rest inductionHypothesis =>
    exact and_congr (keepsFunds_iff outsiders.1) (inductionHypothesis _ outsiders.2)

end

/-! ### A freshly deployed executor that holds a token -/

/-- Every token is a standard ledger, and no other contract answers. -/
def ledgersOnly : External Unit where
  standard := fun _ => true
  staticcall := fun _ _ _ => .error ""
  call := fun _ _ _ => .error ""
  premium := fun _ _ _ => 0

def sampleDeployment : Deployment where
  this := 1
  aavePool := 2
  separate := by decide

/-- Account 3 deployed the executor and sent it 100 units of token 7. -/
def fundedWorld : World Unit where
  storage := .deployed 3 0
  ledger :=
    { balance := fun token account => if token = 7 ∧ account = 1 then 100 else 0
      allowance := fun _ _ _ => 0 }
  foreign := ()

/-- The call that asks the executor to pay one unit of the token to the caller. -/
def drainingCall (caller token : Address) : OutsiderCall where
  caller := caller
  action := .enter 0 (.uniswapV3SwapCallback 1 0 (encodeWord token.toNat))

theorem outsider_fundedWorld : Outsider sampleDeployment fundedWorld 9 where
  notExecutor := by decide
  notOwner := by decide
  notOperator := rfl
  notAavePool := by decide
  notTarget := rfl
  noAllowance _ := rfl

/-- Account 9 asks for a token of which the executor has nothing, and gets nothing. -/
theorem stepsMeet_keepsFunds_otherToken :
    StepsMeet (outsiderStep ledgersOnly sampleDeployment)
      (KeepsFunds ledgersOnly sampleDeployment) fundedWorld [drainingCall 9 8] := by
  refine (stepsMeet_keepsFunds_iff fundedWorld [drainingCall 9 8]
    ⟨outsider_fundedWorld, trivial⟩).mpr ⟨fun _ _ token named => ?_, trivial⟩
  rw [decodeAddress_encodeWord] at named
  cases named
  have standard : ledgersOnly.standard 8 = true := rfl
  rw [if_pos standard]
  decide

/-- Account 9 takes a unit with a single call of the swap callback. -/
theorem not_fundsSafe_fundedWorld : ¬ FundsSafe ledgersOnly sampleDeployment fundedWorld := by
  intro safe
  have outsider : ByOutsider sampleDeployment fundedWorld (drainingCall 9 7) := outsider_fundedWorld
  have kept := (safe [drainingCall 9 7] ⟨outsider, trivial⟩).1
  have nothing := (keepsFunds_iff outsider).mp kept rfl (Or.inl Int.one_pos) 7
    (decodeAddress_encodeWord 7)
  have standard : ledgersOnly.standard 7 = true := rfl
  rw [if_pos standard] at nothing
  exact absurd nothing (by decide)

end DexArbitrage
