/-
This file says when the log decoders read what the log says. A decoder reads
some words of the data at less than their full width, so a patch carries the
full values exactly when these words fit what they are read as; and it reserves
memory for an array before it has read the elements, so a length that the data
cannot hold is asked from the allocator.

The programs of the first part are the decoders with their requests to the
allocator: `Vec::with_capacity` panics when the array would take more than
`isize::MAX` bytes.
-/

import DexArbitrage.Discovery.LogDecode
import DexArbitrage.Lib.Program

namespace DexArbitrage

/-! ### Allocations -/

/-- Room for a number of elements that is asked from the allocator. -/
structure CapacityRequest where
  elementSize : Nat
  capacity : Nat
  deriving DecidableEq, Repr

/-- A program that asks for memory; it fails with the text of a panic. -/
abbrev Decoder (Value : Type) : Type := Program (List CapacityRequest) String Value

def isizeMax : Nat := 2 ^ 63 - 1

/-- `Vec::with_capacity`, for elements of the given size. -/
def withCapacity (elementSize capacity : Nat) : Decoder Unit := fun requests =>
  if elementSize * capacity ≤ isizeMax then
    .ok ((), requests ++ [⟨elementSize, capacity⟩])
  else
    .error "capacity overflow"

/-- The length of an array, as the decoders read it. -/
def arrayLength (data : Bytes) (offset : Nat) : Option Nat :=
  (wordU128AtOffset data offset).filter fun value => value < 2 ^ 64

/-- Read the array at an offset after its room was reserved. -/
def allocateArray {Element : Type} (elementSize : Nat) (data : Bytes) (offset : Nat)
    (elements : Option (List Element)) : Decoder (Option (List Element)) :=
  match arrayLength data offset with
  | none => pure none
  | some len => do
    withCapacity elementSize len
    return elements

def decodeBalanceChangedProgram (poolId : Address) (log : RpcLog) :
    Decoder (Option PoolStatePatch) :=
  match wordUsize log.data 0, wordUsize log.data 1 with
  | some tokenOffset, some deltaOffset => do
    match ← allocateArray 20 log.data tokenOffset (addressArray log.data tokenOffset) with
    | none => return none
    | some tokens =>
      match ← allocateArray 16 log.data deltaOffset (i128Array log.data deltaOffset) with
      | none => return none
      | some deltas =>
        if tokens.length = deltas.length then
          return some (.balancerBalanceChanged poolId tokens deltas log.blockNumber)
        else
          return none
  | _, _ => pure none

def isBalanceChanged (signatureHash : String → B256) (log : RpcLog) : Bool :=
  ! (log.topics.head? = some (signatureHash "Swap(bytes32,address,address,uint256,uint256)") &&
      4 ≤ log.topics.length) &&
    log.topics.head? = some
      (signatureHash "PoolBalanceChanged(bytes32,address,address[],int256[],uint256[])")

/-- `decode_balancer_vault_patch` with its requests; the other decoders make none. -/
def decodeBalancerVaultPatchProgram (signatureHash : String → B256) (poolId : Address)
    (log : RpcLog) : Decoder (Option PoolStatePatch) :=
  if isBalanceChanged signatureHash log then
    decodeBalanceChangedProgram poolId log
  else
    pure (decodeBalancerVaultPatch signatureHash poolId log)

def decodePoolPatchProgram (signatureHash : String → B256) (snapshot : GraphSnapshot)
    (log : RpcLog) : Decoder (Option PoolStatePatch) :=
  pure (decodePoolPatch signatureHash snapshot log)

/-! ### The full values of words -/

/-- The two's-complement value of a word. -/
def signedValue (bytes : Bytes) : Int :=
  if fromBigEndian bytes < 2 ^ 255 then fromBigEndian bytes else fromBigEndian bytes - 2 ^ 256

def unsignedWordAt (data : Bytes) (offset : Nat) : Option Nat :=
  (bytesAt data offset).map fromBigEndian

def signedWordAt (data : Bytes) (offset : Nat) : Option Int :=
  (bytesAt data offset).map signedValue

def FitsU128 (data : Bytes) (offset : Nat) : Prop :=
  ∀ value, unsignedWordAt data offset = some value → value < 2 ^ 128

/-- The word at the offset is a signed number of the given bits. -/
def FitsSigned (bits : Nat) (data : Bytes) (offset : Nat) : Prop :=
  ∀ value, signedWordAt data offset = some value →
    -2 ^ (bits - 1) ≤ value ∧ value < 2 ^ (bits - 1)

theorem length_of_bytesAt {data bytes : Bytes} {offset : Nat}
    (found : bytesAt data offset = some bytes) : bytes.length = 32 := by
  unfold bytesAt at found
  split at found
  · rename_i inside
    injection found with same
    rw [← same, List.length_take, List.length_drop]
    omega
  · cases found

theorem exists_word {data : Bytes} {index : Nat} (inside : index * 32 + 32 ≤ data.length) :
    ∃ bytes, word data index = some bytes := ⟨_, if_pos inside⟩

theorem word_eq_none {data : Bytes} {index : Nat} (outside : data.length < index * 32 + 32) :
    word data index = none := if_neg (Nat.not_le.mpr outside)

/-- A word is its first bytes and its last ones. -/
theorem fromBigEndian_split {bytes : Bytes} (length : bytes.length = 32) (count : Nat) :
    fromBigEndian bytes = fromBigEndian (bytes.take count) * 256 ^ (32 - count) +
      fromBigEndian (bytes.drop count) := by
  conv_lhs => rw [← List.take_append_drop count bytes]
  rw [fromBigEndian_append, List.length_drop, length]

theorem wordU128AtOffset_exact_iff {data : Bytes} {byteOffset value : Nat}
    (read : wordU128AtOffset data byteOffset = some value) :
    unsignedWordAt data byteOffset = some value ↔ FitsU128 data byteOffset := by
  obtain ⟨bytes, found, half⟩ := Option.map_eq_some_iff.mp read
  have length := length_of_bytesAt found
  have halves := fromBigEndian_split length 16
  have low := fromBigEndian_lt (bytes.drop 16)
  rw [List.length_drop, length] at low
  unfold FitsU128 unsignedWordAt
  rw [found]
  simp only [Option.map_some, Option.some.injEq, forall_eq']
  omega

theorem wordU128_exact_iff {data : Bytes} {index value : Nat}
    (read : wordU128 data index = some value) :
    unsignedWordAt data (index * 32) = some value ↔ FitsU128 data (index * 32) :=
  wordU128AtOffset_exact_iff read

theorem wordI24_exact_iff {data : Bytes} {index : Nat} {value : Int}
    (read : wordI24 data index = some value) :
    signedWordAt data (index * 32) = some value ↔ FitsSigned 24 data (index * 32) := by
  obtain ⟨bytes, found, lowest⟩ := Option.map_eq_some_iff.mp read
  have atOffset : bytesAt data (index * 32) = some bytes := found
  have length := length_of_bytesAt atOffset
  have parts := fromBigEndian_split length 29
  have low := fromBigEndian_lt (bytes.drop 29)
  have high := fromBigEndian_lt bytes
  rw [List.length_drop, length] at low
  rw [length] at high
  unfold FitsSigned signedWordAt signedValue
  rw [atOffset]
  simp only [Option.map_some, Option.some.injEq, forall_eq']
  simp only at lowest
  split at lowest <;> split <;> omega

/-- A word that passes the check for a sign extension. -/
theorem wordI128At_cases {data bytes : Bytes} {byteOffset : Nat} {value : Int}
    (read : wordI128At data byteOffset = some value)
    (found : bytesAt data byteOffset = some bytes) :
    (bytes.take 16 = List.replicate 16 255 ∨ bytes.take 16 = List.replicate 16 0) ∧
      value = if fromBigEndian (bytes.drop 16) < 2 ^ 127 then
        (fromBigEndian (bytes.drop 16) : Int) else fromBigEndian (bytes.drop 16) - 2 ^ 128 := by
  have length := length_of_bytesAt found
  have half : (bytes.take 16).length = 16 := by
    rw [List.length_take, length]
    rfl
  have repeated : ∀ byte : UInt8, (bytes.take 16).all (· == byte) = true →
      bytes.take 16 = List.replicate 16 byte := by
    intro byte all
    refine List.eq_replicate_iff.mpr ⟨half, fun other member => ?_⟩
    exact beq_iff_eq.mp (List.all_eq_true.mp all other member)
  unfold wordI128At at read
  rw [found] at read
  simp only [Option.bind_eq_bind, Option.bind_some] at read
  split at read
  · cases read
  · split at read
    · cases read
    · rename_i notNegative notPositive
      injection read with same
      refine ⟨?_, same.symm⟩
      by_cases negative : 128 ≤ bytes.headD 0
      · left
        refine repeated 255 ?_
        by_contra different
        exact notNegative ⟨negative, different⟩
      · right
        refine repeated 0 ?_
        by_contra different
        exact notPositive ⟨negative, different⟩

theorem wordI128At_exact_iff {data : Bytes} {byteOffset : Nat} {value : Int}
    (read : wordI128At data byteOffset = some value) :
    signedWordAt data byteOffset = some value ↔ FitsSigned 128 data byteOffset := by
  obtain ⟨bytes, found, _⟩ := Option.bind_eq_some_iff.mp read
  obtain ⟨extension, isHalf⟩ := wordI128At_cases read found
  have length := length_of_bytesAt found
  have halves := fromBigEndian_split length 16
  have low := fromBigEndian_lt (bytes.drop 16)
  rw [List.length_drop, length] at low
  have ones : fromBigEndian (List.replicate 16 255) = 2 ^ 128 - 1 := by decide
  have zeros : fromBigEndian (List.replicate 16 0) = 0 := by decide
  unfold FitsSigned signedWordAt signedValue
  rw [found]
  simp only [Option.map_some, Option.some.injEq, forall_eq']
  rcases extension with negative | positive
  · rw [negative, ones] at halves
    split at isHalf <;> split <;> omega
  · rw [positive, zeros] at halves
    split at isHalf <;> split <;> omega

/-! ### Logs of pools -/

/-- The integers of the patch are the full values of the words of the log. -/
def PoolPatchExact (signatureHash : String → B256) (log : RpcLog) : PoolStatePatch → Prop
  | .uniswapV2Sync _ reserve0 reserve1 _ =>
    unsignedWordAt log.data 0 = some reserve0 ∧ unsignedWordAt log.data 32 = some reserve1
  | .uniswapV3Swap _ sqrtPriceX96 liquidity tick _ =>
    if log.topics.head? = some
        (signatureHash "Swap(address,address,int256,int256,uint160,uint128,int24)") then
      unsignedWordAt log.data 64 = some sqrtPriceX96 ∧
        unsignedWordAt log.data 96 = some liquidity ∧ signedWordAt log.data 128 = some tick
    else
      unsignedWordAt log.data 0 = some sqrtPriceX96 ∧ signedWordAt log.data 32 = some tick
  | _ => True

def SyncFits (data : Bytes) : Prop :=
  64 ≤ data.length → FitsU128 data 0 ∧ FitsU128 data 32

def V3SwapFits (data : Bytes) : Prop :=
  160 ≤ data.length → FitsU128 data 96 ∧ FitsSigned 24 data 128

def V3InitializeFits (data : Bytes) : Prop :=
  64 ≤ data.length → FitsSigned 24 data 32

variable {signatureHash : String → B256} {log : RpcLog}

theorem decodeSync_exact_iff :
    (∀ patch, decodeSync log = some patch → PoolPatchExact signatureHash log patch) ↔
      SyncFits log.data := by
  unfold SyncFits
  by_cases enough : 64 ≤ log.data.length
  · obtain ⟨reserve0, word0⟩ := exists_word (show 0 * 32 + 32 ≤ log.data.length by omega)
    obtain ⟨reserve1, word1⟩ := exists_word (show 1 * 32 + 32 ≤ log.data.length by omega)
    have first : wordU128 log.data 0 = some (fromBigEndian (reserve0.drop 16)) := by
      rw [wordU128, word0]
      rfl
    have second : wordU128 log.data 1 = some (fromBigEndian (reserve1.drop 16)) := by
      rw [wordU128, word1]
      rfl
    unfold decodeSync
    rw [first, second, forall_prop_of_true enough]
    simp only [Option.bind_eq_bind, Option.bind_some, Option.pure_def, Option.some.injEq,
      forall_eq', PoolPatchExact]
    exact and_congr (wordU128_exact_iff first) (wordU128_exact_iff second)
  · refine iff_of_true (fun patch decoded => ?_) fun inside => absurd inside enough
    obtain ⟨_, _, decoded⟩ := Option.bind_eq_some_iff.mp decoded
    obtain ⟨_, second, _⟩ := Option.bind_eq_some_iff.mp decoded
    rw [wordU128, word_eq_none (by omega)] at second
    cases second

theorem decodeV3Swap_exact_iff
    (isSwap : log.topics.head? = some
      (signatureHash "Swap(address,address,int256,int256,uint160,uint128,int24)")) :
    (∀ patch, decodeV3Swap log = some patch → PoolPatchExact signatureHash log patch) ↔
      V3SwapFits log.data := by
  unfold V3SwapFits
  by_cases enough : 160 ≤ log.data.length
  · obtain ⟨sqrtPriceX96, word2⟩ := exists_word (show 2 * 32 + 32 ≤ log.data.length by omega)
    obtain ⟨liquidity, word3⟩ := exists_word (show 3 * 32 + 32 ≤ log.data.length by omega)
    obtain ⟨tick, word4⟩ := exists_word (show 4 * 32 + 32 ≤ log.data.length by omega)
    have first : wordU256 log.data 2 = some (fromBigEndian sqrtPriceX96) := by
      rw [wordU256, word2]
      rfl
    have second : wordU128 log.data 3 = some (fromBigEndian (liquidity.drop 16)) := by
      rw [wordU128, word3]
      rfl
    obtain ⟨tickValue, third⟩ : ∃ value, wordI24 log.data 4 = some value := by
      rw [wordI24, word4]
      exact ⟨_, rfl⟩
    unfold decodeV3Swap
    rw [first, second, third, forall_prop_of_true enough]
    simp only [Option.bind_eq_bind, Option.bind_some, Option.pure_def, Option.some.injEq,
      forall_eq', PoolPatchExact, if_pos isSwap]
    have full : unsignedWordAt log.data 64 = some (fromBigEndian sqrtPriceX96) := first
    rw [full, eq_self, true_and]
    exact and_congr (wordU128_exact_iff second) (wordI24_exact_iff third)
  · refine iff_of_true (fun patch decoded => ?_) fun inside => absurd inside enough
    obtain ⟨_, _, decoded⟩ := Option.bind_eq_some_iff.mp decoded
    obtain ⟨_, _, decoded⟩ := Option.bind_eq_some_iff.mp decoded
    obtain ⟨_, third, _⟩ := Option.bind_eq_some_iff.mp decoded
    rw [wordI24, word_eq_none (by omega)] at third
    cases third

theorem decodeV3Initialize_exact_iff {pool : PoolState}
    (isInitialize : log.topics.head? ≠ some
      (signatureHash "Swap(address,address,int256,int256,uint160,uint128,int24)")) :
    (∀ patch, decodeV3Initialize pool log = some patch →
        PoolPatchExact signatureHash log patch) ↔
      V3InitializeFits log.data := by
  unfold V3InitializeFits
  by_cases enough : 64 ≤ log.data.length
  · obtain ⟨sqrtPriceX96, word0⟩ := exists_word (show 0 * 32 + 32 ≤ log.data.length by omega)
    obtain ⟨tick, word1⟩ := exists_word (show 1 * 32 + 32 ≤ log.data.length by omega)
    have first : wordU256 log.data 0 = some (fromBigEndian sqrtPriceX96) := by
      rw [wordU256, word0]
      rfl
    obtain ⟨tickValue, second⟩ : ∃ value, wordI24 log.data 1 = some value := by
      rw [wordI24, word1]
      exact ⟨_, rfl⟩
    unfold decodeV3Initialize
    rw [first, second, forall_prop_of_true enough]
    simp only [Option.bind_eq_bind, Option.bind_some, Option.pure_def, Option.some.injEq,
      forall_eq', PoolPatchExact, if_neg isInitialize]
    have full : unsignedWordAt log.data 0 = some (fromBigEndian sqrtPriceX96) := first
    rw [full, eq_self, true_and]
    exact wordI24_exact_iff second
  · refine iff_of_true (fun patch decoded => ?_) fun inside => absurd inside enough
    obtain ⟨_, _, decoded⟩ := Option.bind_eq_some_iff.mp decoded
    obtain ⟨_, second, _⟩ := Option.bind_eq_some_iff.mp decoded
    rw [wordI24, word_eq_none (by omega)] at second
    cases second

/-- In a log of a pool, the words that are read at less than their width fit. -/
def PoolWordsFit (signatureHash : String → B256) (snapshot : GraphSnapshot) (log : RpcLog) :
    Prop :=
  ∀ pool, snapshot.pool log.address = some pool → ∀ topic0, log.topics.head? = some topic0 →
    if pool.kind = .uniswapV2Like ∧ topic0 = signatureHash "Sync(uint112,uint112)" ∨
        pool.kind = .aerodromeV2Like ∧ topic0 = signatureHash "Sync(uint256,uint256)" then
      SyncFits log.data
    else if pool.kind = .uniswapV3Like ∧ topic0 =
        signatureHash "Swap(address,address,int256,int256,uint160,uint128,int24)" then
      V3SwapFits log.data
    else if pool.kind = .uniswapV3Like ∧ topic0 = signatureHash "Initialize(uint160,int24)" then
      V3InitializeFits log.data
    else
      True

theorem decodePoolPatch_exact_iff (snapshot : GraphSnapshot) :
    (∀ patch, decodePoolPatch signatureHash snapshot log = some patch →
        PoolPatchExact signatureHash log patch) ↔
      PoolWordsFit signatureHash snapshot log := by
  unfold PoolWordsFit decodePoolPatch
  cases stored : snapshot.pool log.address with
  | none => simp
  | some pool =>
    cases topics : log.topics.head? with
    | none => simp
    | some topic0 =>
      simp only [Option.bind_eq_bind, Option.bind_some, Option.some.injEq, forall_eq']
      by_cases sync : pool.kind = .uniswapV2Like ∧ topic0 = signatureHash "Sync(uint112,uint112)"
      · rw [if_pos sync, if_pos (Or.inl sync)]
        exact decodeSync_exact_iff
      · by_cases aerodrome : pool.kind = .aerodromeV2Like ∧
            topic0 = signatureHash "Sync(uint256,uint256)"
        · rw [if_neg sync, if_pos aerodrome, if_pos (Or.inr aerodrome)]
          exact decodeSync_exact_iff
        · rw [if_neg sync, if_neg aerodrome, if_neg (not_or.mpr ⟨sync, aerodrome⟩)]
          by_cases isV3 : pool.kind = .uniswapV3Like
          · simp only [isV3, true_and]
            by_cases isSwap : topic0 =
                signatureHash "Swap(address,address,int256,int256,uint160,uint128,int24)"
            · simp only [if_pos isSwap]
              exact decodeV3Swap_exact_iff (topics.trans (congrArg some isSwap))
            · simp only [if_neg isSwap]
              by_cases isInitialize : topic0 = signatureHash "Initialize(uint160,int24)"
              · simp only [if_pos isInitialize]
                refine decodeV3Initialize_exact_iff fun swap => isSwap ?_
                exact Option.some.inj (topics.symm.trans swap)
              · simp only [if_neg isInitialize]
                exact iff_of_true (fun patch none => by cases none) trivial
          · simp only [isV3, false_and, if_false]
            exact iff_of_true (fun patch none => by cases none) trivial

/-! ### Logs of a vault -/

/-- The integers of the patch are the full values of the words of the log. -/
def VaultPatchExact (log : RpcLog) : PoolStatePatch → Prop
  | .balancerSwap _ _ _ amountIn amountOut _ =>
    unsignedWordAt log.data 0 = some amountIn ∧ unsignedWordAt log.data 32 = some amountOut
  | .balancerBalanceChanged _ tokens deltas _ =>
    ∃ tokenOffset < 2 ^ 64, ∃ deltaOffset < 2 ^ 64,
      unsignedWordAt log.data 0 = some tokenOffset ∧
      unsignedWordAt log.data 32 = some deltaOffset ∧
      unsignedWordAt log.data tokenOffset = some tokens.length ∧
      unsignedWordAt log.data deltaOffset = some deltas.length ∧
      ∀ idx, ∀ inside : idx < deltas.length,
        signedWordAt log.data (deltaOffset + 32 + idx * 32) = some deltas[idx]
  | _ => True

theorem decodeBalancerSwap_exact_iff {poolId : Address} (fourTopics : 4 ≤ log.topics.length) :
    (∀ patch, decodeBalancerSwap poolId log = some patch → VaultPatchExact log patch) ↔
      SyncFits log.data := by
  unfold SyncFits
  have tokenIn : log.topics[2]? = some log.topics[2] := List.getElem?_eq_getElem _
  have tokenOut : log.topics[3]? = some log.topics[3] := List.getElem?_eq_getElem _
  by_cases enough : 64 ≤ log.data.length
  · obtain ⟨amountIn, word0⟩ := exists_word (show 0 * 32 + 32 ≤ log.data.length by omega)
    obtain ⟨amountOut, word1⟩ := exists_word (show 1 * 32 + 32 ≤ log.data.length by omega)
    have first : wordU128 log.data 0 = some (fromBigEndian (amountIn.drop 16)) := by
      rw [wordU128, word0]
      rfl
    have second : wordU128 log.data 1 = some (fromBigEndian (amountOut.drop 16)) := by
      rw [wordU128, word1]
      rfl
    unfold decodeBalancerSwap
    rw [tokenIn, tokenOut, first, second, forall_prop_of_true enough]
    simp only [Option.bind_eq_bind, Option.bind_some, Option.pure_def, Option.some.injEq,
      forall_eq', VaultPatchExact]
    exact and_congr (wordU128_exact_iff first) (wordU128_exact_iff second)
  · refine iff_of_true (fun patch decoded => ?_) fun inside => absurd inside enough
    obtain ⟨_, _, decoded⟩ := Option.bind_eq_some_iff.mp decoded
    obtain ⟨_, _, decoded⟩ := Option.bind_eq_some_iff.mp decoded
    obtain ⟨_, _, decoded⟩ := Option.bind_eq_some_iff.mp decoded
    obtain ⟨_, second, _⟩ := Option.bind_eq_some_iff.mp decoded
    rw [wordU128, word_eq_none (by omega)] at second
    cases second

/-- The elements of an array are what is read at their positions. -/
theorem arrayFrom_eq_some {Element : Type} {read : Nat → Option Element} {count start : Nat}
    {elements : List Element} (found : arrayFrom read count start = some elements) :
    elements.length = count ∧
      ∀ idx, ∀ inside : idx < elements.length, read (start + idx) = some elements[idx] := by
  induction count generalizing start elements with
  | zero =>
    injection found with same
    subst same
    exact ⟨rfl, fun idx inside => absurd inside (Nat.not_lt_zero idx)⟩
  | succ count inductionHypothesis =>
    obtain ⟨first, readFirst, found⟩ := Option.bind_eq_some_iff.mp found
    obtain ⟨rest, readRest, same⟩ := Option.bind_eq_some_iff.mp found
    injection same with same
    subst same
    obtain ⟨length, others⟩ := inductionHypothesis readRest
    refine ⟨congrArg (· + 1) length, fun idx inside => ?_⟩
    cases idx with
    | zero => exact readFirst
    | succ idx =>
      rw [show start + (idx + 1) = start + 1 + idx by omega]
      exact others idx (Nat.lt_of_succ_lt_succ inside)

/-- The data can hold the array at the offset, and so can the address space. -/
def ArrayHeld (elementSize : Nat) (data : Bytes) (offset : Nat) : Prop :=
  ∀ len, arrayLength data offset = some len →
    elementSize * len ≤ isizeMax ∧ len * 32 ≤ data.length

/-- The data can hold the arrays at the offsets as they are read; and if both can be read and have
one length, the offsets, the lengths and the deltas fit. -/
def BalanceChangedFits (data : Bytes) : Prop :=
  ∀ tokenOffset, wordUsize data 0 = some tokenOffset →
    ∀ deltaOffset, wordUsize data 1 = some deltaOffset →
      ArrayHeld 20 data tokenOffset ∧
        ∀ tokens, addressArray data tokenOffset = some tokens →
          ArrayHeld 16 data deltaOffset ∧
            ∀ deltas, i128Array data deltaOffset = some deltas → tokens.length = deltas.length →
              FitsU128 data 0 ∧ FitsU128 data 32 ∧ FitsU128 data tokenOffset ∧
                FitsU128 data deltaOffset ∧
                ∀ idx < deltas.length, FitsSigned 128 data (deltaOffset + 32 + idx * 32)

/-- The decoder returns, has asked for no more elements than the data has words, and its patch
satisfies the given property. -/
def DecodesSafely (start : List CapacityRequest) (program : Decoder (Option PoolStatePatch))
    (log : RpcLog) (exact : PoolStatePatch → Prop) : Prop :=
  ∃ result requests, program.run start = .ok (result, requests) ∧
    (∀ request ∈ requests, request.capacity * 32 ≤ log.data.length) ∧
    ∀ patch, result = some patch → exact patch

theorem decodesSafely_pure_iff {start : List CapacityRequest} {result : Option PoolStatePatch}
    {exact : PoolStatePatch → Prop}
    (held : ∀ request ∈ start, request.capacity * 32 ≤ log.data.length) :
    DecodesSafely start (pure result) log exact ↔ ∀ patch, result = some patch → exact patch := by
  constructor
  · rintro ⟨found, requests, ran, _, holds⟩
    injection ran with same
    injection same with same _
    exact same ▸ holds
  · intro holds
    exact ⟨result, start, rfl, held, holds⟩

theorem run_allocateArray {Element : Type} {offset len : Nat} {data : Bytes} (elementSize : Nat)
    (elements : Option (List Element)) (start : List CapacityRequest)
    (isLength : arrayLength data offset = some len) :
    (allocateArray elementSize data offset elements).run start =
      if elementSize * len ≤ isizeMax then
        .ok (elements, start ++ [⟨elementSize, len⟩])
      else
        .error "capacity overflow" := by
  unfold allocateArray
  rw [isLength]
  by_cases fits : elementSize * len ≤ isizeMax
  · have reserved : withCapacity elementSize len start =
        .ok ((), start ++ [⟨elementSize, len⟩]) := if_pos fits
    rw [if_pos fits, StateT.run_bind, StateT.run, reserved]
    rfl
  · have refused : withCapacity elementSize len start = .error "capacity overflow" :=
      if_neg fits
    rw [if_neg fits, StateT.run_bind, StateT.run, refused]
    rfl

theorem requests_held_append {start : List CapacityRequest} (request : CapacityRequest)
    (held : ∀ request ∈ start, request.capacity * 32 ≤ log.data.length)
    (heldLast : request.capacity * 32 ≤ log.data.length) :
    ∀ other ∈ start ++ [request], other.capacity * 32 ≤ log.data.length := by
  intro other member
  rcases List.mem_append.mp member with before | last
  · exact held other before
  · rw [List.mem_singleton.mp last]
    exact heldLast

/-- A decoder that reads an array after it reserved its room is safe exactly when the data can
hold the array, and the rest is safe for the elements. -/
theorem decodesSafely_array_iff {Element : Type} {elementSize offset : Nat}
    {elements : Option (List Element)}
    {next : Option (List Element) → Decoder (Option PoolStatePatch)}
    {start : List CapacityRequest} {exact : PoolStatePatch → Prop}
    (held : ∀ request ∈ start, request.capacity * 32 ≤ log.data.length)
    (missing : next none = pure none)
    (unread : arrayLength log.data offset = none → elements = none)
    (kept : ∀ found requests, Ensures (next found) requests fun _ after => requests ⊆ after) :
    DecodesSafely start (allocateArray elementSize log.data offset elements >>= next) log exact ↔
      ArrayHeld elementSize log.data offset ∧
        ∀ found, elements = some found → ∃ len, arrayLength log.data offset = some len ∧
          DecodesSafely (start ++ [⟨elementSize, len⟩]) (next (some found)) log exact := by
  cases isLength : arrayLength log.data offset with
  | none =>
    have program : (allocateArray elementSize log.data offset elements >>= next) = pure none := by
      unfold allocateArray
      rw [isLength, pure_bind, missing]
    rw [program, decodesSafely_pure_iff held, unread isLength]
    refine iff_of_true (fun patch none => by cases none) ⟨fun len some => ?_, fun found none => ?_⟩
    · rw [isLength] at some
      cases some
    · cases none
  | some len =>
    have isHeld : ArrayHeld elementSize log.data offset ↔
        elementSize * len ≤ isizeMax ∧ len * 32 ≤ log.data.length := by
      unfold ArrayHeld
      rw [isLength]
      simp only [Option.some.injEq, forall_eq']
    have ran := run_allocateArray elementSize elements start isLength
    rw [isHeld]
    by_cases fits : elementSize * len ≤ isizeMax
    · rw [if_pos fits] at ran
      have program : (allocateArray elementSize log.data offset elements >>= next).run start =
          (next elements).run (start ++ [⟨elementSize, len⟩]) := by
        rw [StateT.run_bind, ran]
        rfl
      by_cases inData : len * 32 ≤ log.data.length
      · have heldAfter := requests_held_append ⟨elementSize, len⟩ held inData
        have same : DecodesSafely start
              (allocateArray elementSize log.data offset elements >>= next) log exact ↔
            DecodesSafely (start ++ [⟨elementSize, len⟩]) (next elements) log exact := by
          unfold DecodesSafely
          rw [program]
        rw [same]
        cases elements with
        | none =>
          rw [missing, decodesSafely_pure_iff heldAfter]
          refine iff_of_true (fun patch none => by cases none) ⟨⟨fits, inData⟩, ?_⟩
          intro found none
          cases none
        | some found => simp [fits, inData]
      · refine iff_of_false ?_ fun both => inData both.1.2
        rintro ⟨result, requests, finished, allHeld, _⟩
        rw [program] at finished
        have retained := kept _ _ _ _ finished
        refine inData (allHeld ⟨elementSize, len⟩ (retained ?_))
        exact List.mem_append_right start (List.mem_singleton_self _)
    · rw [if_neg fits] at ran
      refine iff_of_false ?_ fun both => fits both.1.1
      rintro ⟨result, requests, finished, _⟩
      rw [StateT.run_bind, ran] at finished
      cases finished

theorem wordUsize_eq_some {data : Bytes} {index value : Nat}
    (read : wordUsize data index = some value) :
    wordU128 data index = some value ∧ value < 2 ^ 64 := by
  obtain ⟨found, fits⟩ := Option.filter_eq_some_iff.mp read
  exact ⟨found, of_decide_eq_true fits⟩

/-- An array that can be read: its length word, and its elements. -/
theorem array_eq_some {Element : Type} {data : Bytes} {offset : Nat}
    {read : Nat → Option Element} {elements : List Element}
    (found : (do
      let len ← arrayLength data offset
      arrayFrom read len 0) = some elements) :
    wordU128AtOffset data offset = some elements.length ∧
      ∀ idx, ∀ inside : idx < elements.length, read idx = some elements[idx] := by
  obtain ⟨len, isLength, found⟩ := Option.bind_eq_some_iff.mp found
  obtain ⟨length, each⟩ := arrayFrom_eq_some found
  refine ⟨length ▸ (Option.filter_eq_some_iff.mp isLength).1, fun idx inside => ?_⟩
  have element := each idx inside
  rwa [Nat.zero_add] at element

/-- A word read at half its width has the given full value exactly when it fits. -/
theorem wordUsize_exact_iff {data : Bytes} {index value full : Nat}
    (read : wordUsize data index = some value) :
    full < 2 ^ 64 ∧ unsignedWordAt data (index * 32) = some full ↔
      full = value ∧ FitsU128 data (index * 32) := by
  obtain ⟨half, fits⟩ := wordUsize_eq_some read
  constructor
  · rintro ⟨small, isFull⟩
    have fitsFull : FitsU128 data (index * 32) := by
      intro other isOther
      rw [isFull] at isOther
      injection isOther with same
      omega
    have same := (wordU128_exact_iff half).mpr fitsFull
    rw [isFull] at same
    injection same with same
    exact ⟨same, fitsFull⟩
  · rintro ⟨same, fitsFull⟩
    rw [same]
    exact ⟨fits, (wordU128_exact_iff half).mpr fitsFull⟩

theorem balanceChanged_exact_iff {poolId : Address} {tokenOffset deltaOffset : Nat}
    {tokens : List Address} {deltas : List Int}
    (first : wordUsize log.data 0 = some tokenOffset)
    (second : wordUsize log.data 1 = some deltaOffset)
    (tokensRead : addressArray log.data tokenOffset = some tokens)
    (deltasRead : i128Array log.data deltaOffset = some deltas) :
    VaultPatchExact log (.balancerBalanceChanged poolId tokens deltas log.blockNumber) ↔
      FitsU128 log.data 0 ∧ FitsU128 log.data 32 ∧ FitsU128 log.data tokenOffset ∧
        FitsU128 log.data deltaOffset ∧
        ∀ idx < deltas.length, FitsSigned 128 log.data (deltaOffset + 32 + idx * 32) := by
  obtain ⟨tokensLength, _⟩ := array_eq_some tokensRead
  obtain ⟨deltasLength, eachDelta⟩ := array_eq_some deltasRead
  have arrays : (∀ idx, ∀ inside : idx < deltas.length,
      signedWordAt log.data (deltaOffset + 32 + idx * 32) = some deltas[idx]) ↔
      ∀ idx < deltas.length, FitsSigned 128 log.data (deltaOffset + 32 + idx * 32) :=
    forall₂_congr fun idx inside => wordI128At_exact_iff (eachDelta idx inside)
  rw [← wordU128AtOffset_exact_iff tokensLength, ← wordU128AtOffset_exact_iff deltasLength,
    ← arrays]
  constructor
  · rintro ⟨token, smallToken, delta, smallDelta, isToken, isDelta, rest⟩
    obtain ⟨sameToken, fitsToken⟩ := (wordUsize_exact_iff first).mp ⟨smallToken, isToken⟩
    obtain ⟨sameDelta, fitsDelta⟩ := (wordUsize_exact_iff second).mp ⟨smallDelta, isDelta⟩
    rw [sameToken, sameDelta] at rest
    exact ⟨fitsToken, fitsDelta, rest⟩
  · rintro ⟨fitsToken, fitsDelta, rest⟩
    obtain ⟨smallToken, isToken⟩ := (wordUsize_exact_iff first).mpr ⟨rfl, fitsToken⟩
    obtain ⟨smallDelta, isDelta⟩ := (wordUsize_exact_iff second).mpr ⟨rfl, fitsDelta⟩
    exact ⟨tokenOffset, smallToken, deltaOffset, smallDelta, isToken, isDelta, rest⟩

theorem ensures_allocateArray {Element : Type} {elementSize offset : Nat} {data : Bytes}
    {elements : Option (List Element)} (start : List CapacityRequest) :
    Ensures (allocateArray elementSize data offset elements) start
      fun _ after => start ⊆ after := by
  cases isLength : arrayLength data offset with
  | none =>
    unfold allocateArray
    rw [isLength]
    exact (ensures_pure _ _ _).mpr (List.Subset.refl start)
  | some len =>
    intro found finish ran
    rw [run_allocateArray _ _ start isLength] at ran
    split at ran
    · injection ran with same
      injection same with _ same
      exact same ▸ List.subset_append_left start _
    · cases ran

/-- The end of the decoder, once the tokens are read. -/
def decodeDeltas (poolId : Address) (log : RpcLog) (tokens : List Address) :
    Option (List Int) → Decoder (Option PoolStatePatch)
  | none => return none
  | some deltas =>
    if tokens.length = deltas.length then
      return some (.balancerBalanceChanged poolId tokens deltas log.blockNumber)
    else
      return none

/-- The decoder from the tokens on. -/
def decodeTokens (poolId : Address) (log : RpcLog) (deltaOffset : Nat) :
    Option (List Address) → Decoder (Option PoolStatePatch)
  | none => return none
  | some tokens =>
    allocateArray 16 log.data deltaOffset (i128Array log.data deltaOffset) >>=
      decodeDeltas poolId log tokens

theorem decodeBalanceChangedProgram_of_offsets {poolId : Address} {tokenOffset deltaOffset : Nat}
    (first : wordUsize log.data 0 = some tokenOffset)
    (second : wordUsize log.data 1 = some deltaOffset) :
    decodeBalanceChangedProgram poolId log =
      (allocateArray 20 log.data tokenOffset (addressArray log.data tokenOffset) >>=
        decodeTokens poolId log deltaOffset) := by
  unfold decodeBalanceChangedProgram
  rw [first, second]
  dsimp only
  refine congrArg (allocateArray 20 log.data tokenOffset _ >>= ·) (funext fun tokens => ?_)
  cases tokens with
  | none => rfl
  | some tokens =>
    refine congrArg (allocateArray 16 log.data deltaOffset _ >>= ·) (funext fun deltas => ?_)
    cases deltas with
    | none => rfl
    | some deltas => rfl

theorem ensures_decodeDeltas {poolId : Address} {tokens : List Address}
    (deltas : Option (List Int)) (start : List CapacityRequest) :
    Ensures (decodeDeltas poolId log tokens deltas) start fun _ after => start ⊆ after := by
  unfold decodeDeltas
  split
  · exact (ensures_pure _ _ _).mpr (List.Subset.refl start)
  · split
    · exact (ensures_pure _ _ _).mpr (List.Subset.refl start)
    · exact (ensures_pure _ _ _).mpr (List.Subset.refl start)

theorem ensures_decodeTokens {poolId : Address} {deltaOffset : Nat}
    (tokens : Option (List Address)) (start : List CapacityRequest) :
    Ensures (decodeTokens poolId log deltaOffset tokens) start fun _ after => start ⊆ after := by
  cases tokens with
  | none => exact (ensures_pure _ _ _).mpr (List.Subset.refl start)
  | some tokens =>
    refine (ensures_bind _ _ _ _).mpr ?_
    refine Ensures.mono (ensures_allocateArray start) fun deltas middle kept => ?_
    exact Ensures.mono (ensures_decodeDeltas deltas middle) fun _ after keptAfter =>
      List.Subset.trans kept keptAfter

theorem arrayLength_of_addressArray {data : Bytes} {offset : Nat} {tokens : List Address}
    (found : addressArray data offset = some tokens) :
    arrayLength data offset = some tokens.length := by
  obtain ⟨len, isLength, found⟩ := Option.bind_eq_some_iff.mp found
  rw [(arrayFrom_eq_some found).1]
  exact isLength

theorem arrayLength_of_i128Array {data : Bytes} {offset : Nat} {deltas : List Int}
    (found : i128Array data offset = some deltas) :
    arrayLength data offset = some deltas.length := by
  obtain ⟨len, isLength, found⟩ := Option.bind_eq_some_iff.mp found
  rw [(arrayFrom_eq_some found).1]
  exact isLength

theorem addressArray_eq_none {data : Bytes} {offset : Nat}
    (unread : arrayLength data offset = none) : addressArray data offset = none := by
  cases found : addressArray data offset with
  | none => rfl
  | some tokens =>
    rw [arrayLength_of_addressArray found] at unread
    cases unread

theorem i128Array_eq_none {data : Bytes} {offset : Nat}
    (unread : arrayLength data offset = none) : i128Array data offset = none := by
  cases found : i128Array data offset with
  | none => rfl
  | some deltas =>
    rw [arrayLength_of_i128Array found] at unread
    cases unread

theorem decodesSafely_decodeDeltas_iff {poolId : Address} {tokens : List Address}
    {deltas : List Int} {start : List CapacityRequest} {exact : PoolStatePatch → Prop}
    (held : ∀ request ∈ start, request.capacity * 32 ≤ log.data.length) :
    DecodesSafely start (decodeDeltas poolId log tokens (some deltas)) log exact ↔
      (tokens.length = deltas.length →
        exact (.balancerBalanceChanged poolId tokens deltas log.blockNumber)) := by
  unfold decodeDeltas
  dsimp only
  by_cases same : tokens.length = deltas.length
  · rw [if_pos same, decodesSafely_pure_iff held, forall_prop_of_true same]
    simp only [Option.some.injEq, forall_eq']
  · rw [if_neg same, decodesSafely_pure_iff held]
    exact iff_of_true (fun patch none => by cases none) fun equal => absurd equal same

theorem decodeBalanceChanged_safe_iff (poolId : Address) :
    DecodesSafely [] (decodeBalanceChangedProgram poolId log) log (VaultPatchExact log) ↔
      BalanceChangedFits log.data := by
  have none_held : ∀ request ∈ ([] : List CapacityRequest),
      request.capacity * 32 ≤ log.data.length := fun request none => by cases none
  unfold BalanceChangedFits
  cases first : wordUsize log.data 0 with
  | none =>
    have program : decodeBalanceChangedProgram poolId log = pure none := by
      unfold decodeBalanceChangedProgram
      rw [first]
    rw [program, decodesSafely_pure_iff none_held]
    exact iff_of_true (fun patch none => by cases none) fun offset none => by cases none
  | some tokenOffset =>
    cases second : wordUsize log.data 1 with
    | none =>
      have program : decodeBalanceChangedProgram poolId log = pure none := by
        unfold decodeBalanceChangedProgram
        rw [first, second]
      rw [program, decodesSafely_pure_iff none_held]
      refine iff_of_true (fun patch none => by cases none) fun offset _ other none => ?_
      cases none
    | some deltaOffset =>
      simp only [Option.some.injEq, forall_eq']
      rw [decodeBalanceChangedProgram_of_offsets first second,
        decodesSafely_array_iff none_held rfl addressArray_eq_none ensures_decodeTokens]
      refine and_congr_right fun tokensHeld => forall₂_congr fun tokens tokensRead => ?_
      have tokensLength := arrayLength_of_addressArray tokensRead
      have heldTokens := requests_held_append ⟨20, tokens.length⟩ none_held
        (tokensHeld _ tokensLength).2
      simp only [tokensLength, Option.some.injEq, exists_eq_left']
      unfold decodeTokens
      dsimp only
      rw [decodesSafely_array_iff heldTokens rfl i128Array_eq_none ensures_decodeDeltas]
      refine and_congr_right fun deltasHeld => forall₂_congr fun deltas deltasRead => ?_
      have deltasLength := arrayLength_of_i128Array deltasRead
      have heldDeltas := requests_held_append ⟨16, deltas.length⟩ heldTokens
        (deltasHeld _ deltasLength).2
      simp only [deltasLength, Option.some.injEq, exists_eq_left']
      rw [decodesSafely_decodeDeltas_iff heldDeltas]
      exact imp_congr_right fun _ =>
        balanceChanged_exact_iff first second tokensRead deltasRead

/-- The decoder with its requests returns what the decoder returns. -/
theorem ensures_decodeBalanceChangedProgram (poolId : Address) (start : List CapacityRequest) :
    Ensures (decodeBalanceChangedProgram poolId log) start
      fun result _ => result = decodeBalanceChanged poolId log := by
  have arrays {Element : Type} {elementSize offset : Nat} {elements : Option (List Element)}
      (unread : arrayLength log.data offset = none → elements = none)
      (requests : List CapacityRequest) :
      Ensures (allocateArray elementSize log.data offset elements) requests
        fun found _ => found = elements := by
    cases isLength : arrayLength log.data offset with
    | none =>
      unfold allocateArray
      rw [isLength]
      exact (ensures_pure _ _ _).mpr (unread isLength).symm
    | some len =>
      intro found finish ran
      rw [run_allocateArray _ _ requests isLength] at ran
      split at ran
      · injection ran with same
        injection same with same _
        exact same.symm
      · cases ran
  unfold decodeBalanceChanged
  cases first : wordUsize log.data 0 with
  | none =>
    unfold decodeBalanceChangedProgram
    rw [first]
    exact (ensures_pure _ _ _).mpr rfl
  | some tokenOffset =>
    cases second : wordUsize log.data 1 with
    | none =>
      unfold decodeBalanceChangedProgram
      rw [first, second]
      exact (ensures_pure _ _ _).mpr rfl
    | some deltaOffset =>
      rw [decodeBalanceChangedProgram_of_offsets first second, ensures_bind]
      refine Ensures.mono (arrays addressArray_eq_none start) fun tokens middle sameTokens => ?_
      simp only [Option.bind_eq_bind, Option.bind_some]
      rw [← sameTokens]
      cases tokens with
      | none => exact (ensures_pure _ _ _).mpr rfl
      | some tokens =>
        unfold decodeTokens
        dsimp only
        rw [ensures_bind]
        refine Ensures.mono (arrays i128Array_eq_none middle) fun deltas after sameDeltas => ?_
        simp only [Option.bind_some]
        rw [← sameDeltas]
        cases deltas with
        | none => exact (ensures_pure _ _ _).mpr rfl
        | some deltas =>
          unfold decodeDeltas
          simp only [Option.bind_some]
          split
          · exact (ensures_pure _ _ _).mpr rfl
          · exact (ensures_pure _ _ _).mpr rfl

/-- In a log of the vault, the words and the arrays that are read fit. -/
def VaultWordsFit (signatureHash : String → B256) (log : RpcLog) : Prop :=
  if log.topics.head? = some (signatureHash "Swap(bytes32,address,address,uint256,uint256)") ∧
      4 ≤ log.topics.length then
    SyncFits log.data
  else if isBalanceChanged signatureHash log then
    BalanceChangedFits log.data
  else
    True

theorem decodeBalancerVaultPatch_safe_iff (signatureHash : String → B256) (poolId : Address)
    (log : RpcLog) :
    DecodesSafely [] (decodeBalancerVaultPatchProgram signatureHash poolId log) log
        (VaultPatchExact log) ↔
      VaultWordsFit signatureHash log := by
  have none_held : ∀ request ∈ ([] : List CapacityRequest),
      request.capacity * 32 ≤ log.data.length := fun request none => by cases none
  unfold VaultWordsFit decodeBalancerVaultPatchProgram
  by_cases isSwap : log.topics.head? =
      some (signatureHash "Swap(bytes32,address,address,uint256,uint256)") ∧
        4 ≤ log.topics.length
  · have notChanged : ¬ isBalanceChanged signatureHash log := by
      unfold isBalanceChanged
      simp [isSwap.1, isSwap.2]
    have decoded : decodeBalancerVaultPatch signatureHash poolId log =
        decodeBalancerSwap poolId log := by
      unfold decodeBalancerVaultPatch
      rw [isSwap.1]
      exact if_pos ⟨rfl, isSwap.2⟩
    rw [if_neg notChanged, if_pos isSwap, decodesSafely_pure_iff none_held, decoded]
    exact decodeBalancerSwap_exact_iff isSwap.2
  · rw [if_neg isSwap]
    by_cases isChanged : isBalanceChanged signatureHash log
    · rw [if_pos isChanged, if_pos isChanged]
      exact decodeBalanceChanged_safe_iff poolId
    · rw [if_neg isChanged, if_neg isChanged, decodesSafely_pure_iff none_held]
      refine iff_of_true (fun patch decoded => ?_) trivial
      obtain ⟨topic0, first, decoded⟩ := Option.bind_eq_some_iff.mp decoded
      rw [first, Option.some.injEq] at isSwap
      rw [if_neg isSwap] at decoded
      split at decoded
      · rename_i changed
        refine absurd ?_ isChanged
        unfold isBalanceChanged
        rw [first]
        simp only [Option.some.injEq, changed, decide_true, Bool.and_true, Bool.not_eq_true',
          Bool.and_eq_false_iff, decide_eq_false_iff_not]
        rw [← not_and_or, ← changed]
        exact isSwap
      · cases decoded

/-! ### The decoders -/

/-- Both decoders return, ask for no array that the data cannot hold, and put the full values of
the words into their patches. -/
def DecodesExactly (signatureHash : String → B256) (snapshot : GraphSnapshot) (poolId : Address)
    (log : RpcLog) : Prop :=
  DecodesSafely [] (decodePoolPatchProgram signatureHash snapshot log) log
      (PoolPatchExact signatureHash log) ∧
    DecodesSafely [] (decodeBalancerVaultPatchProgram signatureHash poolId log) log
      (VaultPatchExact log)

theorem decodesExactly_iff (signatureHash : String → B256) (snapshot : GraphSnapshot)
    (poolId : Address) (log : RpcLog) :
    DecodesExactly signatureHash snapshot poolId log ↔
      PoolWordsFit signatureHash snapshot log ∧ VaultWordsFit signatureHash log := by
  have none_held : ∀ request ∈ ([] : List CapacityRequest),
      request.capacity * 32 ≤ log.data.length := fun request none => by cases none
  unfold DecodesExactly decodePoolPatchProgram
  rw [decodesSafely_pure_iff none_held, decodePoolPatch_exact_iff]
  exact and_congr_right fun _ => decodeBalancerVaultPatch_safe_iff signatureHash poolId log

/-! ### Words that do not fit -/

def knownHash (signature : String) : B256 :=
  if signature = "Sync(uint112,uint112)" then
    0x1c411e9a96e071241c2f21f7726b17ae89e3cab4c78be50e062b03a9fffbbad1
  else if signature = "PoolBalanceChanged(bytes32,address,address[],int256[],uint256[])" then
    0xe5ce249087ce04f05a957192435400fd97868dba0e6a4b4c049abf8af80dae78
  else
    0

def wordBytes (value : Nat) : Bytes :=
  (List.range 32).map fun idx => UInt8.ofNat (value / 256 ^ (31 - idx))

def changedLog (words : List Nat) : RpcLog where
  address := 0xBA
  topics := [0xe5ce249087ce04f05a957192435400fd97868dba0e6a4b4c049abf8af80dae78, 7, 8]
  data := words.flatMap wordBytes
  blockNumber := some 1
  blockHash := none
  txHash := none

def wideSyncLog : RpcLog where
  address := 0xA1
  topics := [0xcf2aa50876cdfbb541206f89af0ee78d44a2abf8d328e37fa4917f982149848a]
  data := [2 ^ 128 + 5, 7].flatMap wordBytes
  blockNumber := some 1
  blockHash := none
  txHash := none

/-- A reserve of `2 ^ 128 + 5` is read as 5, the delta `2 ^ 127` is read as `- 2 ^ 127`, and the
length `2 ^ 63` of the tokens makes the decoder panic. -/
theorem not_decodesExactly_wide :
    decodeSync wideSyncLog = some (.uniswapV2Sync 0xA1 5 7 (some 1)) ∧
      decodeBalancerVaultPatch knownHash 7 (changedLog [64, 128, 1, 5, 1, 2 ^ 127]) =
        some (.balancerBalanceChanged 7 [5] [-2 ^ 127] (some 1)) ∧
      (decodeBalancerVaultPatchProgram knownHash 7 (changedLog [64, 96, 2 ^ 63])).run [] =
        .error "capacity overflow" ∧
      ¬ ∀ signatureHash snapshot poolId log,
        DecodesExactly signatureHash snapshot poolId log := by
  have panics : (decodeBalancerVaultPatchProgram knownHash 7
      (changedLog [64, 96, 2 ^ 63])).run [] = .error "capacity overflow" := by decide +kernel
  refine ⟨by decide +kernel, by decide +kernel, panics, fun exact => ?_⟩
  have snapshot : GraphSnapshot := ⟨0, none, [], ∅, [], [], [], [], ∅, ∅, ∅⟩
  obtain ⟨_, result, requests, ran, _⟩ := exact knownHash snapshot 7 (changedLog [64, 96, 2 ^ 63])
  rw [panics] at ran
  cases ran

end DexArbitrage
