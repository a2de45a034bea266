/-
This file follows the price limit of a V3 swap from `src/router/v3_limits.rs` to
the pool. The limit is the current price, moved by some basis points and clamped
to the range of prices that a pool accepts. The quoter sends it narrowed to 160
bits, and the executor decodes it from the extra data of the split; both are the
same number, and on the right side of the current price.
-/

import DexArbitrage.Router.ExtraCodec

namespace DexArbitrage

namespace V3Limits

def u160SaturatingFromU256 (value : Nat) : Nat :=
  let bytes := toBigEndian 32 value
  if (bytes.take 12).any (· ≠ 0) then
    fromBigEndian (List.replicate 20 255)
  else
    fromBigEndian (bytes.drop 12)

def sqrtPriceLimitU160 (bps current : Nat) (zeroForOne : Bool) : Nat :=
  u160SaturatingFromU256 (sqrtPriceLimitX96 bps current zeroForOne)

theorem u160SaturatingFromU256_of_lt {value : Nat} (fits : value < 2 ^ 160) :
    u160SaturatingFromU256 value = value := by
  have fitsBytes : value < 256 ^ 20 := fits.trans_eq (by decide)
  have bytes : toBigEndian 32 value = List.replicate 12 0 ++ toBigEndian 20 value := by
    rw [toBigEndian_add 12 20 value, Nat.div_eq_of_lt fitsBytes, toBigEndian_zero]
  have high : (toBigEndian 32 value).take 12 = List.replicate 12 0 := by
    rw [bytes, List.take_left' (List.length_replicate)]
  have low : (toBigEndian 32 value).drop 12 = toBigEndian 20 value := by
    rw [bytes, List.drop_left' (List.length_replicate)]
  unfold u160SaturatingFromU256
  simp only [high, low]
  exact fromBigEndian_toBigEndian 20 value fitsBytes

/-! ### The limit is on the right side of the price -/

section Limit

variable {bps current : Nat}

/-- Moving a price below `2 ^ 160` does not saturate. -/
theorem moved_eq (range : bps < 10000) (high : current < maxSqrtRatioMinusOne) :
    saturatingMul (2 ^ 256 - 1) current (10000 + bps) = current * (10000 + bps) := by
  refine Nat.min_eq_left ?_
  calc current * (10000 + bps) ≤ maxSqrtRatioMinusOne * 20000 :=
        Nat.mul_le_mul high.le (by omega)
    _ ≤ 2 ^ 256 - 1 := by decide

theorem limit_down (low : minSqrtRatioPlusOne < current) :
    sqrtPriceLimitX96 bps current true < current ∧
      minSqrtRatioPlusOne ≤ sqrtPriceLimitX96 bps current true := by
  have notZero : current ≠ 0 := (Nat.zero_le _).trans_lt low |>.ne'
  unfold sqrtPriceLimitX96
  by_cases noMove : bps = 0
  · rw [if_pos (Or.inl noMove)]
    exact ⟨low, le_rfl⟩
  rw [if_neg (by rintro (zero | zero) <;> contradiction)]
  simp only [if_true]
  refine ⟨max_lt ?_ low, Nat.le_max_right _ _⟩
  rw [Nat.div_lt_iff_lt_mul (by decide)]
  calc saturatingMul (2 ^ 256 - 1) current (10000 - bps) ≤ current * (10000 - bps) :=
        Nat.min_le_left _ _
    _ < current * 10000 := Nat.mul_lt_mul_of_pos_left (by omega) (Nat.pos_of_ne_zero notZero)

theorem limit_up (range : bps < 10000) (low : minSqrtRatioPlusOne < current)
    (high : current < maxSqrtRatioMinusOne) :
    current < sqrtPriceLimitX96 bps current false ∧
      sqrtPriceLimitX96 bps current false ≤ maxSqrtRatioMinusOne := by
  have notZero : current ≠ 0 := (Nat.zero_le _).trans_lt low |>.ne'
  unfold sqrtPriceLimitX96
  by_cases noMove : bps = 0
  · rw [if_pos (Or.inl noMove)]
    exact ⟨high, le_rfl⟩
  rw [if_neg (by rintro (zero | zero) <;> contradiction)]
  simp only [Bool.false_eq_true, if_false]
  refine ⟨lt_min ?_ high, Nat.min_le_right _ _⟩
  rw [moved_eq range high, ← Nat.succ_le_iff, Nat.le_div_iff_mul_le (by decide)]
  -- A basis point of the smallest price is more than what the division drops.
  have atLeast : 10000 ≤ current * bps := by
    calc 10000 ≤ minSqrtRatioPlusOne := by decide
      _ ≤ current := low.le
      _ ≤ current * bps := Nat.le_mul_of_pos_right current (Nat.pos_of_ne_zero noMove)
  calc (current + 1) * 10000 = current * 10000 + 10000 := by rw [Nat.add_mul, Nat.one_mul]
    _ ≤ current * 10000 + current * bps := Nat.add_le_add_left atLeast _
    _ = current * (10000 + bps) := (Nat.mul_add _ _ _).symm

end Limit

end V3Limits

open V3Limits

/-- The limit is strictly on the side of the price that the swap moves to and in the range that a
pool accepts; the quoter sends it and the executor decodes it unchanged. -/
theorem sqrtPriceLimit_valid (bps current : Nat) (zeroForOne : Bool) (range : bps < 10000)
    (low : V3Limits.minSqrtRatioPlusOne < current)
    (high : current < V3Limits.maxSqrtRatioMinusOne) :
    let limit := sqrtPriceLimitX96 bps current zeroForOne
    (if zeroForOne then limit < current else current < limit) ∧
      V3Limits.minSqrtRatioPlusOne ≤ limit ∧ limit ≤ V3Limits.maxSqrtRatioMinusOne ∧
      sqrtPriceLimitU160 bps current zeroForOne = limit ∧
      decodeV3PriceLimit (encodeExtra (.v3 zeroForOne limit)) zeroForOne = limit := by
  intro limit
  have side : (if zeroForOne then limit < current else current < limit) ∧
      V3Limits.minSqrtRatioPlusOne ≤ limit ∧ limit ≤ V3Limits.maxSqrtRatioMinusOne := by
    cases zeroForOne with
    | true =>
      obtain ⟨below, atLeast⟩ := limit_down low
      exact ⟨below, atLeast, (below.trans high).le⟩
    | false =>
      obtain ⟨above, atMost⟩ := limit_up range low high
      exact ⟨above, (low.trans above).le, atMost⟩
  obtain ⟨onSide, atLeast, atMost⟩ := side
  have fits : limit < 2 ^ 160 := atMost.trans_lt (by decide)
  have positive : 0 < limit := Nat.lt_of_lt_of_le (by decide) atLeast
  exact ⟨onSide, atLeast, atMost, u160SaturatingFromU256_of_lt fits,
    decodeV3PriceLimit_encodeExtra positive fits zeroForOne zeroForOne⟩

/-- At a price of one, two percent down. -/
theorem sqrtPriceLimit_valid_one :
    sqrtPriceLimitX96 200 (2 ^ 96) true < 2 ^ 96 ∧
      sqrtPriceLimitU160 200 (2 ^ 96) true = sqrtPriceLimitX96 200 (2 ^ 96) true := by
  have valid := sqrtPriceLimit_valid 200 (2 ^ 96) true (by decide) (by decide) (by decide)
  exact ⟨valid.1, valid.2.2.2.1⟩

end DexArbitrage
