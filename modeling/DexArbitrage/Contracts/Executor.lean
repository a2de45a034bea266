/-
This file models `contracts/ArbitrageExecutor.sol`: every function that can be
called from outside, the hop loop, and the adapters.

A transaction is a program on a `World`: the storage of the executor, the
ledger of the standard ERC-20 tokens, and the storage of every other contract.
A revert is a failure, which drops all changes. Code that is not the executor's
is a parameter, `External`: it answers a call with bytes and an arbitrary new
world, so it may move tokens and may enter the executor again. Calls of `view`
functions are static and change nothing.

Events are left out. Memory is not shared between splits, so a split is a value
and the loop hands its adjusted copy to the adapter.
-/

import DexArbitrage.Lib.Ledger
import DexArbitrage.Lib.Program
import DexArbitrage.Contracts.Abi

namespace DexArbitrage

/-! ### Parameters of the calls -/

/-- The contract's own `AdapterType`. -/
inductive ExecutorAdapterType
  | uniswapV2Like
  | uniswapV3Like
  | traderJoeLb
  | curvePlain
  | balancerWeighted
  | aerodromeV2Like
  deriving DecidableEq, Repr

structure Split where
  adapterType : ExecutorAdapterType
  target : Address
  tokenIn : Address
  tokenOut : Address
  amountIn : Nat
  minAmountOut : Nat
  extraData : Bytes
  deriving DecidableEq, Repr

structure Hop where
  splits : List Split
  deriving DecidableEq, Repr

structure ExecutionParams where
  inputToken : Address
  inputAmount : Nat
  hops : List Hop
  minProfit : Nat
  deadline : Nat
  snapshotId : Nat
  deriving DecidableEq, Repr

structure FlashLoanParams where
  loanAsset : Address
  loanAmount : Nat
  execution : ExecutionParams
  deriving DecidableEq, Repr

/-- What the executor is called with. The bytes handed to `executeOperation` are the parameters
they decode to, if they decode. -/
inductive EntryPoint
  | receiveNative
  | transferOwnership (newOwner : Address)
  | setOperator (operator : Address) (allowed : Bool)
  | setAllowedTargets (targets : List Address) (allowed : Bool)
  | setStrictTargetAllowlist (enabled : Bool)
  | setPaused (enabled : Bool)
  | rescueTokens (token receiver : Address) (amount : Nat)
  | rescueNative (receiver : Address) (amount : Nat)
  | executeSelfFunded (params : ExecutionParams)
  | executeFlashLoan (params : FlashLoanParams)
  | executeOperation (asset : Address) (amount premium : Nat) (initiator : Address)
      (data : Option ExecutionParams)
  | uniswapV3SwapCallback (amount0Delta amount1Delta : Int) (data : Bytes)
  deriving DecidableEq, Repr

/-- The calls the executor makes. -/
inductive ExternalCall
  | balanceOf (account : Address)
  | transfer (receiver : Address) (amount : Nat)
  | approve (spender : Address) (amount : Nat)
  | token0
  | token1
  | getTokenX
  | getTokenY
  | getReserves
  | getAmountOut (amountIn : Nat) (tokenIn : Address)
  | getPoolId
  | getVault
  | swap (amount0Out amount1Out : Nat) (receiver : Address) (data : Bytes)
  | swapV3 (recipient : Address) (zeroForOne : Bool) (amountSpecified : Int)
      (sqrtPriceLimitX96 : Nat) (data : Bytes)
  | swapLb (swapForY : Bool) (receiver : Address)
  | exchange (i j : Int) (dx minDy : Nat)
  | exchangeUnderlying (i j : Int) (dx minDy : Nat)
  | swapBalancer (poolId : B256) (assetIn assetOut : Address) (amount : Nat)
      (sender recipient : Address) (limit deadline : Nat)
  | flashLoanSimple (receiver asset : Address) (amount : Nat) (params : ExecutionParams)
  | sendNative (amount : Nat)
  deriving DecidableEq, Repr

/-! ### The world -/

structure ExecutorStorage where
  owner : Address
  paused : Bool
  strictTargetAllowlist : Bool
  operators : Address → Bool
  allowedTargets : Address → Bool
  locked : Nat

structure World (Foreign : Type) where
  storage : ExecutorStorage
  ledger : Ledger Address Address
  foreign : Foreign

/-- The code outside the executor: which token contracts are standard ledgers, how every other
contract answers, and the premium the Aave pool asks for. -/
structure External (Foreign : Type) where
  standard : Address → Bool
  staticcall : Address → ExternalCall → World Foreign → Except Revert Bytes
  call : Address → ExternalCall → World Foreign → Except Revert (Bytes × World Foreign)
  premium : Address → Nat → World Foreign → Nat

/-- Where the executor lives, and its immutable reference to the Aave pool. -/
structure Deployment where
  this : Address
  aavePool : Address
  separate : aavePool ≠ this

/-- `msg.sender` and `block.timestamp`. -/
structure Context where
  sender : Address
  timestamp : Nat

/-- A piece of a transaction. -/
abbrev Evm (Foreign : Type) (Value : Type) : Type := Program (World Foreign) Revert Value

/-- The storage right after the constructor. -/
def ExecutorStorage.deployed (deployer owner : Address) : ExecutorStorage where
  owner := if owner = 0 then deployer else owner
  paused := false
  strictTargetAllowlist := false
  operators := fun _ => false
  allowedTargets := fun _ => false
  locked := 1

section Executor

variable {Foreign : Type} (external : External Foreign) (deployment : Deployment)

def setStorage (change : ExecutorStorage → ExecutorStorage) : Evm Foreign Unit :=
  modify fun world => { world with storage := change world.storage }

def setLedger (ledger : Ledger Address Address) : Evm Foreign Unit :=
  modify fun world => { world with ledger }

/-! ### Calls -/

def staticcall (target : Address) (call : ExternalCall) : Evm Foreign Bytes := do
  let world ← get
  attempt (external.staticcall target call world)

def externalCall (target : Address) (call : ExternalCall) : Evm Foreign Bytes :=
  fun world => external.call target call world

/-- A low-level call: a failing callee is reported by the caller's own reason. -/
def lowLevelCall (target : Address) (call : ExternalCall) (reason : Revert) :
    Evm Foreign Bytes := fun world =>
  match external.call target call world with
  | .ok outcome => .ok outcome
  | .error _ => .error reason

def balanceOf (token account : Address) : Evm Foreign Nat := do
  if external.standard token then
    let world ← get
    return world.ledger.balance token account
  else
    let data ← staticcall external token (.balanceOf account)
    attempt (decoded (decodeUint256 data))

/-- The returned bytes of a token call are acceptable: none at all, or an encoded `true`. -/
def TokenCallAccepted (data : Bytes) : Prop :=
  data = [] ∨ decodeBool data = some true

instance (data : Bytes) : Decidable (TokenCallAccepted data) :=
  inferInstanceAs (Decidable (data = [] ∨ decodeBool data = some true))

def safeTransfer (token receiver : Address) (amount : Nat) : Evm Foreign Unit := do
  if external.standard token then
    let world ← get
    match world.ledger.transfer token deployment.this receiver amount with
    | some ledger => setLedger ledger
    | none => throw "TRANSFER_FAILED"
  else
    let data ← lowLevelCall external token (.transfer receiver amount) "TRANSFER_FAILED"
    require (TokenCallAccepted data) "TRANSFER_FAILED"

def forceApprove (token spender : Address) (amount : Nat) : Evm Foreign Unit := do
  if external.standard token then
    let world ← get
    setLedger (world.ledger.approve token deployment.this spender amount)
  else
    let data ← lowLevelCall external token (.approve spender amount) "APPROVE_FAILED"
    require (TokenCallAccepted data) "APPROVE_FAILED"

def checkTarget (target : Address) : Evm Foreign Unit := do
  let world ← get
  if world.storage.strictTargetAllowlist then
    require (world.storage.allowedTargets target) "TARGET_NOT_ALLOWED"

/-! ### Extra data -/

def minSqrtRatioPlusOne : Nat := 4295128740

def maxSqrtRatioMinusOne : Nat := 1461446703485210103287273052203988822378723970341

def decodeV3PriceLimit (extraData : Bytes) (zeroForOne : Bool) : Nat :=
  let fallback := if zeroForOne then minSqrtRatioPlusOne else maxSqrtRatioMinusOne
  match abiWord extraData 0 with
  | some raw => if 0 < raw ∧ raw ≤ 2 ^ 160 - 1 then raw else fallback
  | none => fallback

def decodeV2FeePpm (extraData : Bytes) : Except Revert Nat :=
  match abiWord extraData 0 with
  | some feePpm => if feePpm < 1000000 then .ok feePpm else .error "BAD_V2_FEE"
  | none => .ok 3000

def readInt128 (data : Bytes) (offset : Nat) : Except Revert Int :=
  if offset + 16 ≤ data.length then
    .ok (signed 128 (fromBigEndian ((data.drop offset).take 16)))
  else
    .error "OUT_OF_BOUNDS"

def decodeCurveExtra (extraData : Bytes) : Except Revert (Int × Int × Bool) := do
  if extraData.length < 33 then
    throw "BAD_CURVE_EXTRA"
  let i ← readInt128 extraData 0
  let j ← readInt128 extraData 16
  return (i, j, decide (extraData.getD 32 0 ≠ 0))

/-! ### Adapters -/

def getAmountOut (amountIn reserveIn reserveOut feePpm : Nat) : Except Revert Nat := do
  if ¬ 0 < amountIn then
    throw "ZERO_INPUT"
  if ¬ (0 < reserveIn ∧ 0 < reserveOut) then
    throw "BAD_RESERVES"
  let feeDenominator := 1000000
  let amountInWithFee ← checkedMul amountIn (← checkedSub feeDenominator feePpm)
  let numerator ← checkedMul amountInWithFee reserveOut
  let denominator ← checkedAdd (← checkedMul reserveIn feeDenominator) amountInWithFee
  checkedDiv numerator denominator

/-- The direction of a swap, from the two tokens of the pool. -/
def swapDirection (split : Split) (token0 token1 : Address) (reason : Revert) :
    Except Revert Bool :=
  if split.tokenIn = token0 ∧ split.tokenOut = token1 then
    .ok true
  else if split.tokenIn = token1 ∧ split.tokenOut = token0 then
    .ok false
  else
    .error reason

def viewAddress (target : Address) (call : ExternalCall) : Evm Foreign Address := do
  let data ← staticcall external target call
  attempt (decoded (decodeAddress data 0))

/-- What the executor gained of the output token since a balance was read. -/
def amountSince (split : Split) (balanceBefore : Nat) : Evm Foreign Nat := do
  let balanceAfter ← balanceOf external split.tokenOut deployment.this
  attempt (checkedSub balanceAfter balanceBefore)

def swapV2 (split : Split) : Evm Foreign Nat := do
  let token0 ← viewAddress external split.target .token0
  let token1 ← viewAddress external split.target .token1
  let zeroForOne ← attempt (swapDirection split token0 token1 "BAD_V2_TOKEN_PAIR")
  let reserves ← staticcall external split.target .getReserves
  let reserve0 ← attempt (decoded (decodeUint 112 reserves 0))
  let reserve1 ← attempt (decoded (decodeUint 112 reserves 1))
  let _ ← attempt (decoded (decodeUint 32 reserves 2))
  let reserveIn := if zeroForOne then reserve0 else reserve1
  let reserveOut := if zeroForOne then reserve1 else reserve0
  let feePpm ← attempt (decodeV2FeePpm split.extraData)
  let quotedOut ← attempt (getAmountOut split.amountIn reserveIn reserveOut feePpm)
  let balanceBefore ← balanceOf external split.tokenOut deployment.this
  safeTransfer external deployment split.tokenIn split.target split.amountIn
  let _ ← externalCall external split.target (.swap (if zeroForOne then 0 else quotedOut)
    (if zeroForOne then quotedOut else 0) deployment.this [])
  amountSince external deployment split balanceBefore

def swapV3 (split : Split) : Evm Foreign Nat := do
  let token0 ← viewAddress external split.target .token0
  let token1 ← viewAddress external split.target .token1
  let zeroForOne ← attempt (swapDirection split token0 token1 "BAD_V3_TOKEN_PAIR")
  let sqrtPriceLimitX96 := decodeV3PriceLimit split.extraData zeroForOne
  let balanceBefore ← balanceOf external split.tokenOut deployment.this
  let deltas ← externalCall external split.target (.swapV3 deployment.this zeroForOne
    (signed 256 split.amountIn) sqrtPriceLimitX96 (encodeWord split.tokenIn.toNat))
  let amount0Delta ← attempt (decoded (decodeInt256 deltas 0))
  let amount1Delta ← attempt (decoded (decodeInt256 deltas 1))
  require (if zeroForOne then amount1Delta < 0 else amount0Delta < 0) "V3_NO_OUTPUT"
  amountSince external deployment split balanceBefore

def swapTraderJoeLb (split : Split) : Evm Foreign Nat := do
  let tokenX ← viewAddress external split.target .getTokenX
  let tokenY ← viewAddress external split.target .getTokenY
  let swapForY ← attempt (swapDirection split tokenX tokenY "BAD_LB_TOKEN_PAIR")
  let balanceBefore ← balanceOf external split.tokenOut deployment.this
  safeTransfer external deployment split.tokenIn split.target split.amountIn
  let returned ← externalCall external split.target (.swapLb swapForY deployment.this)
  let _ ← attempt (decoded (decodeBytes32 returned))
  let amountOut ← amountSince external deployment split balanceBefore
  require (split.minAmountOut ≤ amountOut) "LB_MIN_OUT"
  return amountOut

def swapAerodromeV2 (split : Split) : Evm Foreign Nat := do
  let token0 ← viewAddress external split.target .token0
  let token1 ← viewAddress external split.target .token1
  let zeroForOne ← attempt (swapDirection split token0 token1 "BAD_AERO_V2_TOKEN_PAIR")
  let quoted ← staticcall external split.target (.getAmountOut split.amountIn split.tokenIn)
  let quotedOut ← attempt (decoded (decodeUint256 quoted))
  require (0 < quotedOut) "AERO_V2_NO_OUTPUT"
  let balanceBefore ← balanceOf external split.tokenOut deployment.this
  safeTransfer external deployment split.tokenIn split.target split.amountIn
  let _ ← externalCall external split.target (.swap (if zeroForOne then 0 else quotedOut)
    (if zeroForOne then quotedOut else 0) deployment.this [])
  amountSince external deployment split balanceBefore

def swapCurve (split : Split) : Evm Foreign Nat := do
  let (i, j, underlying) ← attempt (decodeCurveExtra split.extraData)
  let balanceBefore ← balanceOf external split.tokenOut deployment.this
  forceApprove external deployment split.tokenIn split.target 0
  forceApprove external deployment split.tokenIn split.target split.amountIn
  let returned ← externalCall external split.target
    (if underlying then .exchangeUnderlying i j split.amountIn split.minAmountOut
      else .exchange i j split.amountIn split.minAmountOut)
  let returnedAmount ← attempt (decoded (decodeUint256 returned))
  require (split.minAmountOut ≤ returnedAmount) "CURVE_MIN_OUT"
  amountSince external deployment split balanceBefore

def swapBalancer (context : Context) (split : Split) : Evm Foreign Nat := do
  let poolId ←
    match decodeBytes32 split.extraData with
    | some poolId => pure poolId
    | none =>
      let data ← staticcall external split.target .getPoolId
      attempt (decoded (decodeBytes32 data))
  let vault ← viewAddress external split.target .getVault
  checkTarget vault
  forceApprove external deployment split.tokenIn vault 0
  forceApprove external deployment split.tokenIn vault split.amountIn
  let balanceBefore ← balanceOf external split.tokenOut deployment.this
  let returned ← externalCall external vault (.swapBalancer poolId split.tokenIn split.tokenOut
    split.amountIn deployment.this deployment.this split.minAmountOut context.timestamp)
  let returnedAmount ← attempt (decoded (decodeUint256 returned))
  require (split.minAmountOut ≤ returnedAmount) "BALANCER_MIN_OUT"
  amountSince external deployment split balanceBefore

def executeSplit (context : Context) (split : Split) : Evm Foreign Nat := do
  checkTarget split.target
  match split.adapterType with
  | .uniswapV2Like => swapV2 external deployment split
  | .traderJoeLb => swapTraderJoeLb external deployment split
  | .aerodromeV2Like => swapAerodromeV2 external deployment split
  | .uniswapV3Like => swapV3 external deployment split
  | .curvePlain => swapCurve external deployment split
  | .balancerWeighted => swapBalancer external deployment context split

/-! ### The hop loop -/

/-- The first inner loop of a hop: check the tokens and add up the configured inputs. -/
def configuredInput (currentToken nextToken : Address) : List Split → Nat → Except Revert Nat
  | [], configuredInputSum => .ok configuredInputSum
  | split :: rest, configuredInputSum => do
    if split.tokenIn ≠ currentToken then
      throw "HOP_TOKEN_IN_MISMATCH"
    if split.tokenOut ≠ nextToken then
      throw "HOP_TOKEN_OUT_MISMATCH"
    configuredInput currentToken nextToken rest (← checkedAdd configuredInputSum split.amountIn)

/-- The adjusted copy of a split, and what is left of the hop's input after it. -/
def rescaleSplit (configuredInputSum expectedAvailable remainingInput : Nat) (last : Bool)
    (split : Split) : Except Revert (Split × Nat) := do
  if configuredInputSum ≠ expectedAvailable then
    let (amountIn, remainingInput) ←
      if last then
        pure (remainingInput, remainingInput)
      else do
        let amountIn ← checkedDiv (← checkedMul split.amountIn expectedAvailable)
          configuredInputSum
        pure (amountIn, ← checkedSub remainingInput amountIn)
    let minAmountOut ←
      if split.amountIn = 0 then
        pure 0
      else
        checkedDiv (← checkedMul split.minAmountOut amountIn) split.amountIn
    return ({ split with amountIn, minAmountOut }, remainingInput)
  else
    return (split, ← checkedSub remainingInput split.amountIn)

/-- The second inner loop of a hop: execute the splits and add up what they paid out. -/
def executeSplits (context : Context) (configuredInputSum expectedAvailable : Nat) :
    List Split → Nat → Nat → Evm Foreign Nat
  | [], _, hopOutputSum => pure hopOutputSum
  | split :: rest, remainingInput, hopOutputSum => do
    let (split, remainingInput) ←
      attempt (rescaleSplit configuredInputSum expectedAvailable remainingInput rest.isEmpty split)
    if split.amountIn = 0 then
      executeSplits context configuredInputSum expectedAvailable rest remainingInput hopOutputSum
    else
      let amountOut ← executeSplit external deployment context split
      require (split.minAmountOut ≤ amountOut) "SPLIT_SLIPPAGE"
      let hopOutputSum ← attempt (checkedAdd hopOutputSum amountOut)
      executeSplits context configuredInputSum expectedAvailable rest remainingInput hopOutputSum

/-- The outer loop: the token and the amount that are available after the hops. -/
def executeHops (context : Context) : List Hop → Address → Nat → Evm Foreign (Address × Nat)
  | [], currentToken, expectedAvailable => pure (currentToken, expectedAvailable)
  | hop :: rest, currentToken, expectedAvailable =>
    match hop.splits with
    | [] => throw "EMPTY_HOP"
    | first :: _ => do
      let nextToken := first.tokenOut
      let configuredInputSum ← attempt (configuredInput currentToken nextToken hop.splits 0)
      require (0 < configuredInputSum) "ZERO_HOP_INPUT"
      let hopOutputSum ← executeSplits external deployment context configuredInputSum
        expectedAvailable hop.splits expectedAvailable 0
      require (0 < hopOutputSum) "ZERO_HOP_OUTPUT"
      executeHops context rest nextToken hopOutputSum

def execute (context : Context) (params : ExecutionParams) : Evm Foreign Nat := do
  let (currentToken, _) ←
    executeHops external deployment context params.hops params.inputToken params.inputAmount
  require (currentToken = params.inputToken) "NOT_CYCLIC"
  balanceOf external params.inputToken deployment.this

/-! ### Entry points -/

def onlyOwner (context : Context) : Evm Foreign Unit := do
  let world ← get
  require (context.sender = world.storage.owner) "NOT_OWNER"

def onlyOperator (context : Context) : Evm Foreign Unit := do
  let world ← get
  require (context.sender = world.storage.owner ∨ world.storage.operators context.sender)
    "NOT_OPERATOR"

def notPaused : Evm Foreign Unit := do
  let world ← get
  require (¬ world.storage.paused) "PAUSED"

def nonReentrant (body : Evm Foreign Unit) : Evm Foreign Unit := do
  let world ← get
  require (world.storage.locked = 1) "REENTRANT"
  setStorage fun storage => { storage with locked := 2 }
  body
  setStorage fun storage => { storage with locked := 1 }

def executeSelfFunded (context : Context) (params : ExecutionParams) : Evm Foreign Unit := do
  onlyOperator context
  notPaused
  nonReentrant do
    require (0 < params.hops.length) "EMPTY_HOPS"
    require (context.timestamp ≤ params.deadline) "DEADLINE_EXPIRED"
    let startBalance ← balanceOf external params.inputToken deployment.this
    require (params.inputAmount ≤ startBalance) "INSUFFICIENT_INPUT_BALANCE"
    let endingBalance ← execute external deployment context params
    require (startBalance ≤ endingBalance) "MIN_PROFIT"
    let realizedProfit ← attempt (checkedSub endingBalance startBalance)
    require (params.minProfit ≤ realizedProfit) "MIN_PROFIT"

def executeOperation (context : Context) (asset : Address) (amount premium : Nat)
    (initiator : Address) (data : Option ExecutionParams) : Evm Foreign Bool := do
  require (context.sender = deployment.aavePool) "NOT_AAVE_POOL"
  require (initiator = deployment.this) "BAD_INITIATOR"
  let execution ← attempt (decoded data)
  require (execution.inputToken = asset) "FLASH_ASSET_MISMATCH"
  require (amount ≤ execution.inputAmount) "FLASH_EXCEEDS_INPUT"
  require (context.timestamp ≤ execution.deadline) "DEADLINE_EXPIRED"
  let startBalance ← balanceOf external asset deployment.this
  require (execution.inputAmount ≤ startBalance) "INSUFFICIENT_INPUT_BALANCE"
  let endingBalance ← execute external deployment context execution
  let amountOwed ← attempt (checkedAdd amount premium)
  let withPremium ← attempt (checkedAdd startBalance premium)
  let required ← attempt (checkedAdd withPremium execution.minProfit)
  require (required ≤ endingBalance) "MIN_PROFIT"
  forceApprove external deployment asset deployment.aavePool 0
  forceApprove external deployment asset deployment.aavePool amountOwed
  return true

/-- The Aave pool, for a standard asset: it lends the amount, calls the receiver once, and pulls
the amount and the premium within the allowance it was given. -/
def flashLoanSimple (context : Context) (asset : Address) (amount : Nat)
    (params : ExecutionParams) : Evm Foreign Unit := do
  let world ← get
  let premium := external.premium asset amount world
  match world.ledger.transfer asset deployment.aavePool deployment.this amount with
  | none => throw "LOAN_TRANSFER"
  | some ledger =>
    setLedger ledger
    let ok ← executeOperation external deployment
      { context with sender := deployment.aavePool } asset amount premium context.sender
      (some params)
    require ok "CALLBACK"
    let world ← get
    match world.ledger.transferFrom asset deployment.aavePool deployment.this deployment.aavePool
        (amount + premium) with
    | none => throw "REPAY"
    | some ledger => setLedger ledger

def executeFlashLoan (context : Context) (params : FlashLoanParams) : Evm Foreign Unit := do
  onlyOperator context
  notPaused
  nonReentrant do
    require (deployment.aavePool ≠ 0) "FLASH_DISABLED"
    require (0 < params.execution.hops.length) "EMPTY_HOPS"
    require (params.execution.inputToken = params.loanAsset) "INPUT_ASSET_MISMATCH"
    require (0 < params.loanAmount) "ZERO_LOAN_AMOUNT"
    require (params.loanAmount ≤ params.execution.inputAmount) "LOAN_EXCEEDS_INPUT"
    require (context.timestamp ≤ params.execution.deadline) "DEADLINE_EXPIRED"
    if external.standard params.loanAsset then
      flashLoanSimple external deployment { context with sender := deployment.this }
        params.loanAsset params.loanAmount params.execution
    else
      let _ ← externalCall external deployment.aavePool
        (.flashLoanSimple deployment.this params.loanAsset params.loanAmount params.execution)

def uniswapV3SwapCallback (context : Context) (amount0Delta amount1Delta : Int) (data : Bytes) :
    Evm Foreign Unit := do
  require (0 < amount0Delta ∨ 0 < amount1Delta) "NO_CALLBACK_PAYMENT"
  checkTarget context.sender
  let tokenIn ← attempt (decoded (decodeAddress data 0))
  let payment := if 0 < amount0Delta then amount0Delta.toNat else amount1Delta.toNat
  safeTransfer external deployment tokenIn context.sender payment

/-- A call of the executor from outside. -/
def enter (context : Context) : EntryPoint → Evm Foreign Unit
  | .receiveNative => pure ()
  | .transferOwnership newOwner => do
    onlyOwner context
    require (newOwner ≠ 0) "ZERO_OWNER"
    setStorage fun storage => { storage with owner := newOwner }
  | .setOperator operator allowed => do
    onlyOwner context
    setStorage fun storage =>
      { storage with operators := Function.update storage.operators operator allowed }
  | .setAllowedTargets targets allowed => do
    onlyOwner context
    setStorage fun storage =>
      { storage with
        allowedTargets := targets.foldl (fun mapping target =>
          Function.update mapping target allowed) storage.allowedTargets }
  | .setStrictTargetAllowlist enabled => do
    onlyOwner context
    setStorage fun storage => { storage with strictTargetAllowlist := enabled }
  | .setPaused enabled => do
    onlyOwner context
    setStorage fun storage => { storage with paused := enabled }
  | .rescueTokens token receiver amount => do
    onlyOwner context
    require (receiver ≠ 0) "ZERO_TO"
    safeTransfer external deployment token receiver amount
  | .rescueNative receiver amount => do
    onlyOwner context
    require (receiver ≠ 0) "ZERO_TO"
    let _ ← lowLevelCall external receiver (.sendNative amount) "NATIVE_TRANSFER_FAILED"
  | .executeSelfFunded params => executeSelfFunded external deployment context params
  | .executeFlashLoan params => executeFlashLoan external deployment context params
  | .executeOperation asset amount premium initiator data => do
    let _ ← executeOperation external deployment context asset amount premium initiator data
  | .uniswapV3SwapCallback amount0Delta amount1Delta data =>
    uniswapV3SwapCallback external deployment context amount0Delta amount1Delta data

end Executor

end DexArbitrage
