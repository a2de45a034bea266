/-
This file compares the two constant-product quotes: the one the router plans
with, in saturating 128-bit arithmetic, and `_getAmountOut` of the executor, in
256-bit arithmetic, which `_swapV2` requests from the pair. With reserves and
amounts below `2 ^ 112` the contract computes the exact quotient, and the
router computes the same quotient with its numerator and its denominator cut at
`2 ^ 128 - 1`. The two agree exactly when the quotient survives the cut.
-/

import DexArbitrage.Amm.UniswapV2
import DexArbitrage.Execution.TxBuilder

namespace DexArbitrage

/-- The arguments that occur in a pair: reserves and amount are positive 112-bit numbers, and the
fee is below the whole. -/
structure V2Arguments (state : V2PoolState) (zeroForOne : Bool) (amountIn : Nat) : Prop where
  amount : 0 < amountIn ∧ amountIn < 2 ^ 112
  reserveIn : 0 < state.reserveIn zeroForOne ∧ state.reserveIn zeroForOne < 2 ^ 112
  reserveOut : 0 < state.reserveOut zeroForOne ∧ state.reserveOut zeroForOne < 2 ^ 112
  fee : state.feePpm < 1000000

/-- The fee of a split reaches the contract. -/
theorem decodeV2FeePpm_encodeExtra {feePpm : Nat} (fee : feePpm < 1000000) :
    decodeV2FeePpm (encodeExtra (.v2 feePpm)) = .ok feePpm := by
  have word : abiWord (encodeExtra (.v2 feePpm)) 0 = some feePpm := by
    rw [abiWord_of_length (by simp [encodeExtra]), encodeExtra, fromBigEndian_replicate_append,
      fromBigEndian_toBigEndian 4 feePpm (fee.trans (by decide))]
  rw [decodeV2FeePpm, word]
  exact if_pos fee

/-- When numerator and denominator fit a word, nothing overflows in the contract: it computes the
exact quotient. -/
theorem getAmountOut_of_fits {state : V2PoolState} {zeroForOne : Bool} {amountIn : Nat}
    (amount : 0 < amountIn)
    (reserves : 0 < state.reserveIn zeroForOne ∧ 0 < state.reserveOut zeroForOne)
    (fee : state.feePpm < 1000000)
    (numerator : UniswapV2.exactNumerator state zeroForOne amountIn < 2 ^ 256)
    (denominator : UniswapV2.exactDenominator state zeroForOne amountIn < 2 ^ 256) :
    getAmountOut amountIn (state.reserveIn zeroForOne) (state.reserveOut zeroForOne)
        state.feePpm =
      .ok (UniswapV2.exactNumerator state zeroForOne amountIn /
        UniswapV2.exactDenominator state zeroForOne amountIn) := by
  unfold UniswapV2.exactNumerator at numerator
  unfold UniswapV2.exactDenominator at denominator
  have withFee : amountIn * (1000000 - state.feePpm) < 2 ^ 256 :=
    Nat.lt_of_le_of_lt (Nat.le_mul_of_pos_right _ reserves.2) numerator
  have scaled : state.reserveIn zeroForOne * 1000000 < 2 ^ 256 :=
    Nat.lt_of_le_of_lt (Nat.le_add_right _ _) denominator
  have nonzero : state.reserveIn zeroForOne * 1000000 +
      amountIn * (1000000 - state.feePpm) ≠ 0 :=
    (Nat.add_pos_left (Nat.mul_pos reserves.1 (by decide)) _).ne'
  have subtracted : checkedSub 1000000 state.feePpm = .ok (1000000 - state.feePpm) :=
    if_pos fee.le
  have multiplied : checkedMul amountIn (1000000 - state.feePpm) =
      .ok (amountIn * (1000000 - state.feePpm)) := if_pos withFee
  have outMultiplied : checkedMul (amountIn * (1000000 - state.feePpm))
      (state.reserveOut zeroForOne) =
      .ok (amountIn * (1000000 - state.feePpm) * state.reserveOut zeroForOne) := if_pos numerator
  have inMultiplied : checkedMul (state.reserveIn zeroForOne) 1000000 =
      .ok (state.reserveIn zeroForOne * 1000000) := if_pos scaled
  have added : checkedAdd (state.reserveIn zeroForOne * 1000000)
      (amountIn * (1000000 - state.feePpm)) =
      .ok (state.reserveIn zeroForOne * 1000000 + amountIn * (1000000 - state.feePpm)) :=
    if_pos denominator
  have divided : checkedDiv (amountIn * (1000000 - state.feePpm) * state.reserveOut zeroForOne)
      (state.reserveIn zeroForOne * 1000000 + amountIn * (1000000 - state.feePpm)) =
      .ok (amountIn * (1000000 - state.feePpm) * state.reserveOut zeroForOne /
        (state.reserveIn zeroForOne * 1000000 + amountIn * (1000000 - state.feePpm))) :=
    if_neg nonzero
  unfold getAmountOut UniswapV2.exactNumerator UniswapV2.exactDenominator
  rw [if_neg (not_not.mpr amount), if_neg (not_not.mpr reserves)]
  show (checkedSub 1000000 state.feePpm >>= fun feeFactor =>
    checkedMul amountIn feeFactor >>= fun amountInWithFee =>
      checkedMul amountInWithFee (state.reserveOut zeroForOne) >>= fun numerator =>
        checkedMul (state.reserveIn zeroForOne) 1000000 >>= fun scaledIn =>
          checkedAdd scaledIn amountInWithFee >>= fun denominator =>
            checkedDiv numerator denominator) = _
  rw [subtracted, ok_bind, multiplied, ok_bind, outMultiplied, ok_bind, inMultiplied, ok_bind,
    added, ok_bind, divided]

/-- On these arguments nothing overflows in the contract: it computes the exact quotient. -/
theorem getAmountOut_eq {state : V2PoolState} {zeroForOne : Bool} {amountIn : Nat}
    (arguments : V2Arguments state zeroForOne amountIn) :
    getAmountOut amountIn (state.reserveIn zeroForOne) (state.reserveOut zeroForOne)
        state.feePpm =
      .ok (UniswapV2.exactNumerator state zeroForOne amountIn /
        UniswapV2.exactDenominator state zeroForOne amountIn) := by
  obtain ⟨⟨positive, amount⟩, ⟨positiveIn, reserveIn⟩, ⟨positiveOut, reserveOut⟩, fee⟩ :=
    arguments
  have feeFactor : 1000000 - state.feePpm ≤ 2 ^ 20 := (Nat.sub_le _ _).trans (by decide)
  have withFee : amountIn * (1000000 - state.feePpm) < 2 ^ 112 * 2 ^ 20 :=
    Nat.mul_lt_mul_of_lt_of_le amount feeFactor (by decide)
  have numerator : UniswapV2.exactNumerator state zeroForOne amountIn <
      2 ^ 112 * 2 ^ 20 * 2 ^ 112 := Nat.mul_lt_mul'' withFee reserveOut
  have scaled : state.reserveIn zeroForOne * 1000000 < 2 ^ 112 * 2 ^ 20 :=
    Nat.mul_lt_mul_of_lt_of_le reserveIn (by decide) (by decide)
  have denominator : UniswapV2.exactDenominator state zeroForOne amountIn <
      2 ^ 112 * 2 ^ 20 + 2 ^ 112 * 2 ^ 20 := Nat.add_lt_add scaled withFee
  exact getAmountOut_of_fits positive ⟨positiveIn, positiveOut⟩ fee
    (numerator.trans (by decide)) (denominator.trans (by decide))

/-- The router's quote is the output the contract requests exactly when the quotient survives
saturation. -/
theorem quoteExactIn_eq_getAmountOut_iff (state : V2PoolState) (zeroForOne : Bool)
    (amountIn : Nat) (arguments : V2Arguments state zeroForOne amountIn) :
    (∃ amountOut,
      getAmountOut amountIn (state.reserveIn zeroForOne) (state.reserveOut zeroForOne)
        state.feePpm = .ok amountOut ∧
      UniswapV2.quoteExactIn state zeroForOne amountIn = some amountOut) ↔
    QuotientSurvives u128Max (UniswapV2.exactNumerator state zeroForOne amountIn)
      (UniswapV2.exactDenominator state zeroForOne amountIn) := by
  have positive : 0 < UniswapV2.exactDenominator state zeroForOne amountIn :=
    Nat.add_pos_left (Nat.mul_pos arguments.reserveIn.1 (by decide)) _
  rw [getAmountOut_eq arguments, UniswapV2.quoteExactIn_eq state zeroForOne amountIn
    arguments.amount.1.ne' arguments.reserveIn.1.ne' arguments.reserveOut.1.ne',
    ← cut_quotient_iff u128Max _ _ (by decide) positive]
  constructor
  · rintro ⟨amountOut, exact, quoted⟩
    injection exact with exact
    injection quoted with quoted
    rw [quoted, exact]
  · intro same
    exact ⟨_, rfl, congrArg some same⟩

/-- Two tokens with 18 decimals, a million of each, and the usual fee. -/
def deepPool : V2PoolState where
  reserve0 := 10 ^ 24
  reserve1 := 10 ^ 24
  feePpm := 3000

/-- For one whole token the contract pays 0.996999 of the other token, and the router plans with
340282027 of its smallest units. -/
theorem quoteExactIn_ne_getAmountOut_deepPool :
    V2Arguments deepPool true (10 ^ 18) ∧
    ¬ ∃ amountOut,
      getAmountOut (10 ^ 18) (deepPool.reserveIn true) (deepPool.reserveOut true)
        deepPool.feePpm = .ok amountOut ∧
      UniswapV2.quoteExactIn deepPool true (10 ^ 18) = some amountOut := by
  refine ⟨⟨by decide, by decide, by decide, by decide⟩, ?_⟩
  rintro ⟨amountOut, exact, quoted⟩
  have paid : getAmountOut (10 ^ 18) (deepPool.reserveIn true) (deepPool.reserveOut true)
      deepPool.feePpm = .ok 996999005991991025 := by decide
  have planned : UniswapV2.quoteExactIn deepPool true (10 ^ 18) = some 340282027 := by decide
  rw [paid] at exact
  rw [planned] at quoted
  injection exact with exact
  injection quoted with quoted
  exact absurd (quoted.trans exact.symm) (by decide)

def shallowPool : V2PoolState where
  reserve0 := 1000000000
  reserve1 := 2000000000
  feePpm := 3000

theorem quoteExactIn_eq_getAmountOut_shallowPool :
    ∃ amountOut,
      getAmountOut 1000000 (shallowPool.reserveIn true) (shallowPool.reserveOut true)
        shallowPool.feePpm = .ok amountOut ∧
      UniswapV2.quoteExactIn shallowPool true 1000000 = some amountOut := by
  refine (quoteExactIn_eq_getAmountOut_iff shallowPool true 1000000
    ⟨by decide, by decide, by decide, by decide⟩).mpr (Or.inl ⟨by decide, fun multiple below => ?_⟩)
  have fits : UniswapV2.exactNumerator shallowPool true 1000000 ≤ u128Max := by decide
  exact below.trans fits

end DexArbitrage
