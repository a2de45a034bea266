/-
This file settles who changes the storage of the executor when every other
contract may be hostile and may call the executor again at any depth. A
`StorageRule` says how storages may be related: the owner may configure what it
likes, and an execution takes the lock and gives it back. Every function of the
executor moves within a rule as long as the code it calls does, and so, by
induction on the depth of calls, does every transaction.

Two rules give the results: the lock is always as it was, and nothing at all
changes while the owner does not act.
-/

import DexArbitrage.Lib.Moves
import DexArbitrage.Contracts.ForeignCode
import DexArbitrage.Contracts.FundsSafety

namespace DexArbitrage

/-- A relation between storages that whoever acts respects. -/
structure StorageRule (acts : Address → Prop) where
  related : ExecutorStorage → ExecutorStorage → Prop
  refl : ∀ storage, related storage storage
  trans : ∀ first second third, related first second → related second third →
    related first third
  configures : ∀ before after, acts before.owner → after.locked = before.locked →
    related before after
  unlocks : ∀ before after, before.locked = 1 → related { before with locked := 2 } after →
    related before { after with locked := 1 }

section Rule

variable {Foreign : Type} {acts : Address → Prop} (rule : StorageRule acts)

def StorageRule.onWorlds (before after : World Foreign) : Prop :=
  rule.related before.storage after.storage

instance : IsPreorder (World Foreign) rule.onWorlds where
  refl world := rule.refl world.storage
  trans first second third := rule.trans first.storage second.storage third.storage

/-! ### The functions of the executor -/

variable {external : External Foreign} {deployment : Deployment}

theorem moves_setLedger (ledger : Ledger Address Address) :
    Moves rule.onWorlds (setLedger ledger : Evm Foreign Unit) :=
  moves_modify fun world => rule.refl world.storage

theorem moves_staticcall (target : Address) (call : ExternalCall) :
    Moves rule.onWorlds (staticcall external target call) :=
  moves_get.bind fun _ => moves_attempt _

theorem moves_balanceOf (token account : Address) :
    Moves rule.onWorlds (balanceOf external token account) := by
  unfold balanceOf
  split
  · exact moves_get.bind fun world => moves_pure _
  · exact (moves_staticcall rule token _).bind fun data => moves_attempt _

theorem moves_checkTarget (target : Address) :
    Moves rule.onWorlds (checkTarget target : Evm Foreign Unit) := by
  refine moves_get.bind fun world => ?_
  split
  · exact moves_require _ _
  · exact moves_pure _

theorem moves_viewAddress (target : Address) (call : ExternalCall) :
    Moves rule.onWorlds (viewAddress external target call) :=
  (moves_staticcall rule target call).bind fun _ => moves_attempt _

theorem moves_amountSince (split : Split) (balanceBefore : Nat) :
    Moves rule.onWorlds (amountSince external deployment split balanceBefore) :=
  (moves_balanceOf rule split.tokenOut deployment.this).bind fun _ => moves_attempt _

variable (calls : ∀ target call, Moves rule.onWorlds (externalCall external target call))
include calls

theorem moves_lowLevelCall (target : Address) (call : ExternalCall) (reason : Revert) :
    Moves rule.onWorlds (lowLevelCall external target call reason) := by
  intro world data after outcome
  have called : (externalCall external target call).run world = .ok (data, after) := by
    have known : lowLevelCall external target call reason world = .ok (data, after) := outcome
    unfold lowLevelCall at known
    cases answered : external.call target call world with
    | ok answer =>
      rw [answered] at known
      exact answered.trans known
    | error other =>
      rw [answered] at known
      cases known
  exact calls target call world data after called

theorem moves_safeTransfer (token receiver : Address) (amount : Nat) :
    Moves rule.onWorlds (safeTransfer external deployment token receiver amount) := by
  unfold safeTransfer
  split
  · refine moves_get.bind fun world => ?_
    split
    · exact moves_setLedger rule _
    · exact moves_throw _
  · exact (moves_lowLevelCall rule calls token _ _).bind fun _ => moves_require _ _

theorem moves_forceApprove (token spender : Address) (amount : Nat) :
    Moves rule.onWorlds (forceApprove external deployment token spender amount) := by
  unfold forceApprove
  split
  · exact moves_get.bind fun world => moves_setLedger rule _
  · exact (moves_lowLevelCall rule calls token _ _).bind fun _ => moves_require _ _

theorem moves_swapV2 (split : Split) :
    Moves rule.onWorlds (swapV2 external deployment split) := by
  unfold swapV2
  refine (moves_viewAddress rule _ _).bind fun token0 => ?_
  refine (moves_viewAddress rule _ _).bind fun token1 => ?_
  refine (moves_attempt _).bind fun zeroForOne => ?_
  refine (moves_staticcall rule _ _).bind fun reserves => ?_
  refine (moves_attempt _).bind fun reserve0 => ?_
  refine (moves_attempt _).bind fun reserve1 => ?_
  refine (moves_attempt _).bind fun blockTimestamp => ?_
  refine (moves_attempt _).bind fun feePpm => ?_
  refine (moves_attempt _).bind fun quotedOut => ?_
  refine (moves_balanceOf rule _ _).bind fun balanceBefore => ?_
  refine (moves_safeTransfer rule calls _ _ _).bind fun _ => ?_
  refine (calls _ _).bind fun returned => ?_
  exact moves_amountSince rule split balanceBefore

theorem moves_swapV3 (split : Split) :
    Moves rule.onWorlds (swapV3 external deployment split) := by
  unfold swapV3
  refine (moves_viewAddress rule _ _).bind fun token0 => ?_
  refine (moves_viewAddress rule _ _).bind fun token1 => ?_
  refine (moves_attempt _).bind fun zeroForOne => ?_
  refine (moves_balanceOf rule _ _).bind fun balanceBefore => ?_
  refine (calls _ _).bind fun deltas => ?_
  refine (moves_attempt _).bind fun amount0Delta => ?_
  refine (moves_attempt _).bind fun amount1Delta => ?_
  refine (moves_require _ _).bind fun _ => ?_
  exact moves_amountSince rule split balanceBefore

theorem moves_swapTraderJoeLb (split : Split) :
    Moves rule.onWorlds (swapTraderJoeLb external deployment split) := by
  unfold swapTraderJoeLb
  refine (moves_viewAddress rule _ _).bind fun tokenX => ?_
  refine (moves_viewAddress rule _ _).bind fun tokenY => ?_
  refine (moves_attempt _).bind fun swapForY => ?_
  refine (moves_balanceOf rule _ _).bind fun balanceBefore => ?_
  refine (moves_safeTransfer rule calls _ _ _).bind fun _ => ?_
  refine (calls _ _).bind fun returned => ?_
  refine (moves_attempt _).bind fun amounts => ?_
  refine (moves_amountSince rule split balanceBefore).bind fun amountOut => ?_
  exact (moves_require _ _).bind fun _ => moves_pure _

theorem moves_swapAerodromeV2 (split : Split) :
    Moves rule.onWorlds (swapAerodromeV2 external deployment split) := by
  unfold swapAerodromeV2
  refine (moves_viewAddress rule _ _).bind fun token0 => ?_
  refine (moves_viewAddress rule _ _).bind fun token1 => ?_
  refine (moves_attempt _).bind fun zeroForOne => ?_
  refine (moves_staticcall rule _ _).bind fun quoted => ?_
  refine (moves_attempt _).bind fun quotedOut => ?_
  refine (moves_require _ _).bind fun _ => ?_
  refine (moves_balanceOf rule _ _).bind fun balanceBefore => ?_
  refine (moves_safeTransfer rule calls _ _ _).bind fun _ => ?_
  refine (calls _ _).bind fun returned => ?_
  exact moves_amountSince rule split balanceBefore

theorem moves_swapCurve (split : Split) :
    Moves rule.onWorlds (swapCurve external deployment split) := by
  unfold swapCurve
  refine (moves_attempt _).bind fun extra => ?_
  refine (moves_balanceOf rule _ _).bind fun balanceBefore => ?_
  refine (moves_forceApprove rule calls _ _ _).bind fun _ => ?_
  refine (moves_forceApprove rule calls _ _ _).bind fun _ => ?_
  refine (calls _ _).bind fun returned => ?_
  refine (moves_attempt _).bind fun returnedAmount => ?_
  refine (moves_require _ _).bind fun _ => ?_
  exact moves_amountSince rule split balanceBefore

theorem moves_swapBalancer (context : Context) (split : Split) :
    Moves rule.onWorlds (swapBalancer external deployment context split) := by
  unfold swapBalancer
  extract_lets swapWith
  -- The rest of the swap is the same, wherever the identifier of the pool comes from.
  have rest : ∀ poolId, Moves rule.onWorlds (swapWith poolId) := by
    intro poolId
    refine (moves_viewAddress rule _ _).bind fun vault => ?_
    refine (moves_checkTarget rule vault).bind fun _ => ?_
    refine (moves_forceApprove rule calls _ _ _).bind fun _ => ?_
    refine (moves_forceApprove rule calls _ _ _).bind fun _ => ?_
    refine (moves_balanceOf rule _ _).bind fun balanceBefore => ?_
    refine (calls _ _).bind fun returned => ?_
    refine (moves_attempt _).bind fun returnedAmount => ?_
    refine (moves_require _ _).bind fun _ => ?_
    exact moves_amountSince rule split balanceBefore
  split
  · exact (moves_pure _).bind rest
  · exact (moves_staticcall rule _ _).bind fun data => (moves_attempt _).bind rest

theorem moves_executeSplit (context : Context) (split : Split) :
    Moves rule.onWorlds (executeSplit external deployment context split) := by
  refine (moves_checkTarget rule split.target).bind fun _ => ?_
  cases split.adapterType with
  | uniswapV2Like => exact moves_swapV2 rule calls split
  | uniswapV3Like => exact moves_swapV3 rule calls split
  | traderJoeLb => exact moves_swapTraderJoeLb rule calls split
  | curvePlain => exact moves_swapCurve rule calls split
  | balancerWeighted => exact moves_swapBalancer rule calls context split
  | aerodromeV2Like => exact moves_swapAerodromeV2 rule calls split

theorem moves_executeSplits (context : Context) (configuredInputSum expectedAvailable : Nat)
    (splits : List Split) (remainingInput hopOutputSum : Nat) :
    Moves rule.onWorlds (executeSplits external deployment context configuredInputSum
      expectedAvailable splits remainingInput hopOutputSum) := by
  induction splits generalizing remainingInput hopOutputSum with
  | nil => exact moves_pure _
  | cons split rest inductionHypothesis =>
    unfold executeSplits
    refine (moves_attempt _).bind fun adjusted => ?_
    obtain ⟨adjustedSplit, remaining⟩ := adjusted
    dsimp only
    split
    · exact inductionHypothesis _ _
    · refine (moves_executeSplit rule calls context adjustedSplit).bind fun amountOut => ?_
      refine (moves_require _ _).bind fun _ => ?_
      exact (moves_attempt _).bind fun hopOutputSum => inductionHypothesis _ _

theorem moves_executeHops (context : Context) (hops : List Hop) (currentToken : Address)
    (expectedAvailable : Nat) :
    Moves rule.onWorlds
      (executeHops external deployment context hops currentToken expectedAvailable) := by
  induction hops generalizing currentToken expectedAvailable with
  | nil => exact moves_pure _
  | cons hop rest inductionHypothesis =>
    unfold executeHops
    split
    · exact moves_throw _
    · refine (moves_attempt _).bind fun configuredInputSum => ?_
      refine (moves_require _ _).bind fun _ => ?_
      refine (moves_executeSplits rule calls context _ _ _ _ _).bind fun hopOutputSum => ?_
      exact (moves_require _ _).bind fun _ => inductionHypothesis _ _

theorem moves_execute (context : Context) (params : ExecutionParams) :
    Moves rule.onWorlds (execute external deployment context params) := by
  refine (moves_executeHops rule calls context _ _ _).bind fun available => ?_
  exact (moves_require _ _).bind fun _ => moves_balanceOf rule _ _

omit calls

/-- The lock is taken, and given back after whatever the body does. -/
theorem moves_nonReentrant {body : Evm Foreign Unit} (moves : Moves rule.onWorlds body) :
    Moves rule.onWorlds (nonReentrant body) := by
  intro world
  unfold nonReentrant setStorage
  simp only [ensures_bind, ensures_get, ensures_require, ensures_modify]
  intro free
  refine (moves _).mono fun _ after moved => ?_
  exact rule.unlocks world.storage after.storage free moved

theorem moves_notPaused : Moves rule.onWorlds (notPaused : Evm Foreign Unit) :=
  moves_get.bind fun _ => moves_require _ _

theorem moves_onlyOperator (context : Context) :
    Moves rule.onWorlds (onlyOperator context : Evm Foreign Unit) :=
  moves_get.bind fun _ => moves_require _ _

/-- After the guard the sender is known to be the owner. -/
theorem moves_onlyOwner {context : Context} {next : Evm Foreign Unit}
    (moves : ∀ world : World Foreign, context.sender = world.storage.owner →
      Ensures next world fun _ after => rule.onWorlds world after) :
    Moves rule.onWorlds (onlyOwner context >>= fun _ => next) := by
  intro world
  unfold onlyOwner
  simp only [ensures_bind, ensures_get, ensures_require]
  exact moves world

theorem ensures_configure {context : Context} {world : World Foreign}
    (may : acts context.sender) (isOwner : context.sender = world.storage.owner)
    {change : ExecutorStorage → ExecutorStorage}
    (keepsLock : (change world.storage).locked = world.storage.locked) :
    Ensures (setStorage change : Evm Foreign Unit) world fun _ after =>
      rule.onWorlds world after :=
  (ensures_modify _ world _).mpr
    (rule.configures world.storage (change world.storage) (isOwner ▸ may) keepsLock)

include calls

theorem moves_executeSelfFunded (context : Context) (params : ExecutionParams) :
    Moves rule.onWorlds (executeSelfFunded external deployment context params) := by
  refine (moves_onlyOperator rule context).bind fun _ => (moves_notPaused rule).bind fun _ => ?_
  refine moves_nonReentrant rule ?_
  refine (moves_require _ _).bind fun _ => ?_
  refine (moves_require _ _).bind fun _ => ?_
  refine (moves_balanceOf rule _ _).bind fun startBalance => ?_
  refine (moves_require _ _).bind fun _ => ?_
  refine (moves_execute rule calls context params).bind fun endingBalance => ?_
  refine (moves_require _ _).bind fun _ => ?_
  exact (moves_attempt _).bind fun realizedProfit => moves_require _ _

theorem moves_executeOperation (context : Context) (asset : Address) (amount premium : Nat)
    (initiator : Address) (data : Option ExecutionParams) :
    Moves rule.onWorlds
      (executeOperation external deployment context asset amount premium initiator data) := by
  unfold executeOperation
  refine (moves_require _ _).bind fun _ => ?_
  refine (moves_require _ _).bind fun _ => ?_
  refine (moves_attempt _).bind fun execution => ?_
  refine (moves_require _ _).bind fun _ => ?_
  refine (moves_require _ _).bind fun _ => ?_
  refine (moves_require _ _).bind fun _ => ?_
  refine (moves_balanceOf rule _ _).bind fun startBalance => ?_
  refine (moves_require _ _).bind fun _ => ?_
  refine (moves_execute rule calls context execution).bind fun endingBalance => ?_
  refine (moves_attempt _).bind fun amountOwed => ?_
  refine (moves_attempt _).bind fun withPremium => ?_
  refine (moves_attempt _).bind fun required => ?_
  refine (moves_require _ _).bind fun _ => ?_
  refine (moves_forceApprove rule calls _ _ _).bind fun _ => ?_
  exact (moves_forceApprove rule calls _ _ _).bind fun _ => moves_pure _

theorem moves_flashLoanSimple (context : Context) (asset : Address) (amount : Nat)
    (params : ExecutionParams) :
    Moves rule.onWorlds (flashLoanSimple external deployment context asset amount params) := by
  refine moves_get.bind fun world => ?_
  dsimp only
  split
  · exact moves_throw _
  · refine (moves_setLedger rule _).bind fun _ => ?_
    refine (moves_executeOperation rule calls _ _ _ _ _ _).bind fun ok => ?_
    refine (moves_require _ _).bind fun _ => moves_get.bind fun repaid => ?_
    split
    · exact moves_throw _
    · exact moves_setLedger rule _

theorem moves_executeFlashLoan (context : Context) (params : FlashLoanParams) :
    Moves rule.onWorlds (executeFlashLoan external deployment context params) := by
  refine (moves_onlyOperator rule context).bind fun _ => (moves_notPaused rule).bind fun _ => ?_
  refine moves_nonReentrant rule ?_
  refine (moves_require _ _).bind fun _ => ?_
  refine (moves_require _ _).bind fun _ => ?_
  refine (moves_require _ _).bind fun _ => ?_
  refine (moves_require _ _).bind fun _ => ?_
  refine (moves_require _ _).bind fun _ => ?_
  refine (moves_require _ _).bind fun _ => ?_
  split
  · exact moves_flashLoanSimple rule calls _ _ _ _
  · exact (calls _ _).bind fun _ => moves_pure _

theorem moves_uniswapV3SwapCallback (context : Context) (amount0Delta amount1Delta : Int)
    (data : Bytes) :
    Moves rule.onWorlds
      (uniswapV3SwapCallback external deployment context amount0Delta amount1Delta data) := by
  refine (moves_require _ _).bind fun _ => ?_
  refine (moves_checkTarget rule _).bind fun _ => ?_
  exact (moves_attempt _).bind fun tokenIn => moves_safeTransfer rule calls _ _ _

/-- Whoever enters the executor, and wherever, moves within the rule. -/
theorem moves_enter {context : Context} (may : acts context.sender) (entry : EntryPoint) :
    Moves rule.onWorlds (enter external deployment context entry) := by
  cases entry with
  | receiveNative => exact moves_pure _
  | transferOwnership newOwner =>
    refine moves_onlyOwner rule fun world isOwner => ?_
    simp only [ensures_bind, ensures_require]
    exact fun _ => ensures_configure rule may isOwner rfl
  | setOperator operator allowed =>
    exact moves_onlyOwner rule fun world isOwner => ensures_configure rule may isOwner rfl
  | setAllowedTargets targets allowed =>
    exact moves_onlyOwner rule fun world isOwner => ensures_configure rule may isOwner rfl
  | setStrictTargetAllowlist enabled =>
    exact moves_onlyOwner rule fun world isOwner => ensures_configure rule may isOwner rfl
  | setPaused enabled =>
    exact moves_onlyOwner rule fun world isOwner => ensures_configure rule may isOwner rfl
  | rescueTokens token receiver amount =>
    refine moves_onlyOwner rule fun world _ => ?_
    exact ((moves_require _ _).bind fun _ => moves_safeTransfer rule calls _ _ _) world
  | rescueNative receiver amount =>
    refine moves_onlyOwner rule fun world _ => ?_
    exact ((moves_require _ _).bind fun _ =>
      (moves_lowLevelCall rule calls _ _ _).bind fun _ => moves_pure _) world
  | executeSelfFunded params => exact moves_executeSelfFunded rule calls context params
  | executeFlashLoan params => exact moves_executeFlashLoan rule calls context params
  | executeOperation asset amount premium initiator data =>
    exact (moves_executeOperation rule calls context _ _ _ _ _).bind fun _ => moves_pure _
  | uniswapV3SwapCallback amount0Delta amount1Delta data =>
    exact moves_uniswapV3SwapCallback rule calls context _ _ _

/-! ### Foreign code and transactions -/

theorem onWorlds_perform (timestamp : Nat) {sender : Address} (may : acts sender)
    (action : ForeignAction Foreign) (world : World Foreign) :
    rule.onWorlds world (perform deployment timestamp external sender action world).2 := by
  unfold perform
  split
  · exact rule.refl world.storage
  · cases action with
    | enter entry =>
      dsimp only
      cases entered : (enter external deployment { sender, timestamp } entry).run world with
      | ok outcome =>
        have allowed : acts ({ sender, timestamp } : Context).sender := may
        exact moves_enter rule calls allowed entry world outcome.1 outcome.2 entered
      | error reason => exact rule.refl world.storage
    | ledger action =>
      dsimp only
      cases acted : world.ledger.act sender action with
      | some ledger => exact rule.refl world.storage
      | none => exact rule.refl world.storage
    | write change => exact rule.refl world.storage

omit calls

/-- What each action does the whole behaviour does, by induction on its tree. -/
theorem onWorlds_run
    {perform : Address → ForeignAction Foreign → World Foreign → Bool × World Foreign}
    (each : ∀ sender action world, acts sender →
      rule.onWorlds world (perform sender action world).2)
    {behaviour : Behaviour Foreign} (actors : behaviour.ActsAs acts)
    {world after : World Foreign} {returned : Bytes}
    (ran : behaviour.run perform world = .ok (returned, after)) :
    rule.onWorlds world after := by
  induction behaviour generalizing world with
  | done bytes =>
    cases ran
    exact rule.refl _
  | fail reason => cases ran
  | act sender action next inductionHypothesis =>
    have first := each sender action world actors.1
    have rest := inductionHypothesis (perform sender action world).1
      (perform sender action world).2 (actors.2 _ _) ran
    exact rule.trans _ _ _ first rest

variable {code : ForeignCode Foreign}

/-- The code that the executor calls moves within the rule, at every depth of calls. -/
theorem moves_externalAt (timestamp : Nat)
    (foreign : ∀ target call world, (code.called target call world).ActsAs acts) (depth : Nat) :
    ∀ target call, Moves rule.onWorlds
      (externalCall (externalAt code deployment timestamp depth) target call) := by
  induction depth with
  | zero =>
    intro target call world returned after outcome
    cases outcome
  | succ depth inductionHypothesis =>
    intro target call world returned after outcome
    have answered : (externalAt code deployment timestamp (depth + 1)).call target call world =
        .ok (returned, after) := outcome
    unfold externalAt at answered
    dsimp only at answered
    split at answered
    · unfold ownCall at answered
      split at answered
      · cases answered
        exact rule.refl world.storage
      · cases answered
    · refine onWorlds_run rule (fun sender action other may => ?_) (foreign target call world)
        answered
      exact onWorlds_perform rule inductionHypothesis timestamp may action other

theorem onWorlds_transact
    (foreign : ∀ target call world, (code.called target call world).ActsAs acts) (depth : Nat)
    (world : World Foreign) {transaction : Transaction Foreign}
    (actors : transaction.behaviour.ActsAs acts) :
    rule.onWorlds world (transact code deployment depth world transaction) := by
  unfold transact
  split
  · rename_i returned after ran
    refine onWorlds_run rule (fun sender action other may => ?_) actors ran
    exact onWorlds_perform rule (moves_externalAt rule transaction.timestamp foreign depth)
      transaction.timestamp may action other
  · exact rule.refl _

end Rule

/-! ### The two rules -/

/-- The lock is as it was, whoever acts. -/
def lockRule : StorageRule fun _ => True where
  related before after := after.locked = before.locked
  refl _ := rfl
  trans _ _ _ first second := second.trans first
  configures _ _ _ same := same
  unlocks _ _ free _ := free.symm

/-- Nothing changes while this account is the owner and does not act. -/
def ownerRule (owner : Address) : StorageRule (· ≠ owner) where
  related before after := before.owner = owner → after = before
  refl _ _ := rfl
  trans first second third toSecond toThird isOwner := by
    have same : second = first := toSecond isOwner
    exact (toThird (same ▸ isOwner)).trans same
  configures before after other _ isOwner := absurd isOwner other
  unlocks before after free moved isOwner := by
    rw [moved isOwner, ← free]

theorem actsAs_anyone {Foreign : Type} (behaviour : Behaviour Foreign) :
    behaviour.ActsAs fun _ => True := by
  induction behaviour with
  | done returned => exact trivial
  | fail reason => exact trivial
  | act sender action next inductionHypothesis =>
    exact ⟨trivial, fun succeeded after => inductionHypothesis succeeded after⟩

section Runs

variable {Foreign : Type} (code : ForeignCode Foreign) (deployment : Deployment) (depth : Nat)

/-- Between transactions the lock is always as it was at the start. -/
theorem lock_kept (start : World Foreign) (transactions : List (Transaction Foreign)) :
    Always (transact code deployment depth)
      (fun world => world.storage.locked = start.storage.locked) start transactions := by
  have step : ∀ world transaction, world.storage.locked = start.storage.locked → True →
      (transact code deployment depth world transaction).storage.locked =
        start.storage.locked := by
    intro world transaction kept _
    have moved : (transact code deployment depth world transaction).storage.locked =
        world.storage.locked :=
      onWorlds_transact lockRule (fun target call world => actsAs_anyone _) depth world
        (actsAs_anyone transaction.behaviour)
    exact moved.trans kept
  exact always_of_stepsMeet step rfl (stepsMeet_of_forall (fun _ _ => trivial) start transactions)

/-- While nothing is done in the owner's name, no transaction changes any of the executor's
storage. -/
theorem storage_kept (start : World Foreign)
    (foreign : ∀ target call world,
      (code.called target call world).ActsAs (· ≠ start.storage.owner))
    (transactions : List (Transaction Foreign))
    (outside : ∀ transaction ∈ transactions,
      transaction.behaviour.ActsAs (· ≠ start.storage.owner)) :
    Always (transact code deployment depth) (fun world => world.storage = start.storage) start
      transactions := by
  refine always_of_stepsMeet (fun world transaction kept actors => ?_) rfl
    (stepsMeet_of_forall_mem outside)
  have moved : world.storage.owner = start.storage.owner →
      (transact code deployment depth world transaction).storage = world.storage :=
    onWorlds_transact (ownerRule start.storage.owner) foreign depth world actors
  exact (moved (congrArg ExecutorStorage.owner kept)).trans kept

end Runs

/-- Account 9 tries to become the owner, and then an operator. -/
def takeover : Behaviour Unit :=
  .act 9 (.enter (.transferOwnership 9)) fun _ _ =>
    .act 9 (.enter (.setOperator 9 true)) fun _ _ => .done []

/-- Every contract, every token included, tries this when it is called. -/
def hostileCode : ForeignCode Unit where
  standard _ := false
  view _ _ _ := .error ""
  premium _ _ _ := 0
  called _ _ _ := takeover

theorem takeover_actsAs : takeover.ActsAs (· ≠ fundedWorld.storage.owner) :=
  ⟨by decide, fun _ _ => ⟨by decide, fun _ _ => trivial⟩⟩

/-- The second transaction makes the executor call a hostile token. -/
theorem storage_kept_takeover :
    Always (transact hostileCode sampleDeployment 3)
      (fun world => world.storage = fundedWorld.storage) fundedWorld
      [{ timestamp := 0, behaviour := takeover },
        { timestamp := 1
          behaviour := .act 9 (.enter (.uniswapV3SwapCallback 1 0 (encodeWord 7))) fun _ _ =>
            takeover }] := by
  refine storage_kept hostileCode sampleDeployment 3 fundedWorld (fun _ _ _ => takeover_actsAs) _ ?_
  intro transaction member
  rcases List.mem_pair.mp member with rfl | rfl
  · exact takeover_actsAs
  · exact ⟨by decide, fun _ _ => takeover_actsAs⟩

end DexArbitrage
