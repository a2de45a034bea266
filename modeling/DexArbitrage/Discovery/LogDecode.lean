/-
This file models the log decoders of `src/discovery/event_stream.rs`: how a log
of a pool or of the Balancer vault becomes a patch of a pool's state.

The hash of an event signature is a parameter. A word of the data is read as
the source reads it: the lower half for 128-bit fields, the lower three bytes
for ticks, and the whole word, which must be a sign extension, for balance
deltas.
-/

import DexArbitrage.Lib.BigEndian
import DexArbitrage.Graph.Model

namespace DexArbitrage

structure RpcLog where
  address : Address
  topics : List B256
  data : Bytes
  blockNumber : Option Nat
  blockHash : Option B256
  txHash : Option B256
  deriving DecidableEq, Repr

/-! ### Words -/

/-- The 32 bytes at a byte offset, when the data reaches that far. -/
def bytesAt (data : Bytes) (byteOffset : Nat) : Option Bytes :=
  if byteOffset + 32 ≤ data.length then some ((data.drop byteOffset).take 32) else none

def word (data : Bytes) (index : Nat) : Option Bytes :=
  bytesAt data (index * 32)

def wordU128 (data : Bytes) (index : Nat) : Option Nat :=
  (word data index).map fun bytes => fromBigEndian (bytes.drop 16)

def wordUsize (data : Bytes) (index : Nat) : Option Nat :=
  (wordU128 data index).filter fun value => value < 2 ^ 64

def wordU256 (data : Bytes) (index : Nat) : Option Nat :=
  (word data index).map fromBigEndian

def wordI24 (data : Bytes) (index : Nat) : Option Int :=
  (word data index).map fun bytes =>
    let raw := fromBigEndian (bytes.drop 29)
    if raw < 2 ^ 23 then raw else raw - 2 ^ 24

def wordI128At (data : Bytes) (byteOffset : Nat) : Option Int := do
  let bytes ← bytesAt data byteOffset
  let negative := 128 ≤ bytes.headD 0
  if negative ∧ ¬ (bytes.take 16).all (· == 255) then
    none
  else if ¬ negative ∧ ¬ (bytes.take 16).all (· == 0) then
    none
  else
    let raw := fromBigEndian (bytes.drop 16)
    return if raw < 2 ^ 127 then raw else raw - 2 ^ 128

def wordU128AtOffset (data : Bytes) (byteOffset : Nat) : Option Nat :=
  (bytesAt data byteOffset).map fun bytes => fromBigEndian (bytes.drop 16)

/-- The elements of an array from a position on, each read at its own offset. -/
def arrayFrom {Element : Type} (read : Nat → Option Element) : Nat → Nat → Option (List Element)
  | 0, _ => some []
  | count + 1, idx => do
    let element ← read idx
    let rest ← arrayFrom read count (idx + 1)
    return element :: rest

def addressArray (data : Bytes) (offset : Nat) : Option (List Address) := do
  let len ← (wordU128AtOffset data offset).filter fun value => value < 2 ^ 64
  arrayFrom (fun idx => (bytesAt data (offset + 32 + idx * 32)).map fun bytes =>
    BitVec.ofNat 160 (fromBigEndian (bytes.drop 12))) len 0

def i128Array (data : Bytes) (offset : Nat) : Option (List Int) := do
  let len ← (wordU128AtOffset data offset).filter fun value => value < 2 ^ 64
  arrayFrom (fun idx => wordI128At data (offset + 32 + idx * 32)) len 0

def topicToAddress (topic : B256) : Address :=
  topic.setWidth 160

/-! ### Decoders -/

section Decode

variable (signatureHash : String → B256)

def decodeSync (log : RpcLog) : Option PoolStatePatch := do
  let reserve0 ← wordU128 log.data 0
  let reserve1 ← wordU128 log.data 1
  return .uniswapV2Sync log.address reserve0 reserve1 log.blockNumber

def decodeV3Swap (log : RpcLog) : Option PoolStatePatch := do
  let sqrtPriceX96 ← wordU256 log.data 2
  let liquidity ← wordU128 log.data 3
  let tick ← wordI24 log.data 4
  return .uniswapV3Swap log.address sqrtPriceX96 liquidity tick log.blockNumber

/-- An initialization sets the price and keeps the liquidity the snapshot has. -/
def decodeV3Initialize (pool : PoolState) (log : RpcLog) : Option PoolStatePatch := do
  let liquidity :=
    match pool.state with
    | .uniswapV3Like state => state.liquidity
    | _ => 0
  let sqrtPriceX96 ← wordU256 log.data 0
  let tick ← wordI24 log.data 1
  return .uniswapV3Swap log.address sqrtPriceX96 liquidity tick log.blockNumber

def decodePoolPatch (snapshot : GraphSnapshot) (log : RpcLog) : Option PoolStatePatch := do
  let pool ← snapshot.pool log.address
  let topic0 ← log.topics.head?
  if pool.kind = .uniswapV2Like ∧ topic0 = signatureHash "Sync(uint112,uint112)" then
    decodeSync log
  else if pool.kind = .aerodromeV2Like ∧ topic0 = signatureHash "Sync(uint256,uint256)" then
    decodeSync log
  else if pool.kind = .uniswapV3Like then
    if topic0 = signatureHash "Swap(address,address,int256,int256,uint160,uint128,int24)" then
      decodeV3Swap log
    else if topic0 = signatureHash "Initialize(uint160,int24)" then
      decodeV3Initialize pool log
    else
      none
  else
    none

def decodeBalancerSwap (poolId : Address) (log : RpcLog) : Option PoolStatePatch := do
  let tokenIn ← log.topics[2]?
  let tokenOut ← log.topics[3]?
  let amountIn ← wordU128 log.data 0
  let amountOut ← wordU128 log.data 1
  return .balancerSwap poolId (topicToAddress tokenIn) (topicToAddress tokenOut) amountIn
    amountOut log.blockNumber

def decodeBalanceChanged (poolId : Address) (log : RpcLog) : Option PoolStatePatch := do
  let tokenOffset ← wordUsize log.data 0
  let deltaOffset ← wordUsize log.data 1
  let tokens ← addressArray log.data tokenOffset
  let deltas ← i128Array log.data deltaOffset
  if tokens.length = deltas.length then
    return .balancerBalanceChanged poolId tokens deltas log.blockNumber
  else
    none

def decodeBalancerVaultPatch (poolId : Address) (log : RpcLog) : Option PoolStatePatch := do
  let topic0 ← log.topics.head?
  if topic0 = signatureHash "Swap(bytes32,address,address,uint256,uint256)" ∧
      4 ≤ log.topics.length then
    decodeBalancerSwap poolId log
  else if topic0 = signatureHash
      "PoolBalanceChanged(bytes32,address,address[],int256[],uint256[])" then
    decodeBalanceChanged poolId log
  else
    none

end Decode

/-! ### Which pool a patch names -/

variable {signatureHash : String → B256}

theorem decodeSync_poolId {log : RpcLog} {patch : PoolStatePatch}
    (decoded : decodeSync log = some patch) : patch.poolId = log.address := by
  obtain ⟨reserve0, _, decoded⟩ := Option.bind_eq_some_iff.mp decoded
  obtain ⟨reserve1, _, decoded⟩ := Option.bind_eq_some_iff.mp decoded
  injection decoded with same
  rw [← same]
  rfl

theorem decodeV3Swap_poolId {log : RpcLog} {patch : PoolStatePatch}
    (decoded : decodeV3Swap log = some patch) : patch.poolId = log.address := by
  obtain ⟨sqrtPriceX96, _, decoded⟩ := Option.bind_eq_some_iff.mp decoded
  obtain ⟨liquidity, _, decoded⟩ := Option.bind_eq_some_iff.mp decoded
  obtain ⟨tick, _, decoded⟩ := Option.bind_eq_some_iff.mp decoded
  injection decoded with same
  rw [← same]
  rfl

theorem decodeV3Initialize_poolId {pool : PoolState} {log : RpcLog} {patch : PoolStatePatch}
    (decoded : decodeV3Initialize pool log = some patch) : patch.poolId = log.address := by
  obtain ⟨sqrtPriceX96, _, decoded⟩ := Option.bind_eq_some_iff.mp decoded
  obtain ⟨tick, _, decoded⟩ := Option.bind_eq_some_iff.mp decoded
  injection decoded with same
  rw [← same]
  rfl

theorem decodePoolPatch_poolId {snapshot : GraphSnapshot} {log : RpcLog}
    {patch : PoolStatePatch}
    (decoded : decodePoolPatch signatureHash snapshot log = some patch) :
    patch.poolId = log.address := by
  obtain ⟨pool, _, decoded⟩ := Option.bind_eq_some_iff.mp decoded
  obtain ⟨topic0, _, decoded⟩ := Option.bind_eq_some_iff.mp decoded
  split at decoded
  · exact decodeSync_poolId decoded
  · split at decoded
    · exact decodeSync_poolId decoded
    · split at decoded
      · split at decoded
        · exact decodeV3Swap_poolId decoded
        · split at decoded
          · exact decodeV3Initialize_poolId decoded
          · cases decoded
      · cases decoded

theorem decodeBalancerVaultPatch_poolId {poolId : Address} {log : RpcLog}
    {patch : PoolStatePatch}
    (decoded : decodeBalancerVaultPatch signatureHash poolId log = some patch) :
    patch.poolId = poolId := by
  obtain ⟨topic0, _, decoded⟩ := Option.bind_eq_some_iff.mp decoded
  split at decoded
  · obtain ⟨tokenIn, _, decoded⟩ := Option.bind_eq_some_iff.mp decoded
    obtain ⟨tokenOut, _, decoded⟩ := Option.bind_eq_some_iff.mp decoded
    obtain ⟨amountIn, _, decoded⟩ := Option.bind_eq_some_iff.mp decoded
    obtain ⟨amountOut, _, decoded⟩ := Option.bind_eq_some_iff.mp decoded
    injection decoded with same
    rw [← same]
    rfl
  · split at decoded
    · obtain ⟨tokenOffset, _, decoded⟩ := Option.bind_eq_some_iff.mp decoded
      obtain ⟨deltaOffset, _, decoded⟩ := Option.bind_eq_some_iff.mp decoded
      obtain ⟨tokens, _, decoded⟩ := Option.bind_eq_some_iff.mp decoded
      obtain ⟨deltas, _, decoded⟩ := Option.bind_eq_some_iff.mp decoded
      split at decoded
      · injection decoded with same
        rw [← same]
        rfl
      · cases decoded
    · cases decoded

end DexArbitrage
