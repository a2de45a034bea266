/-
This file models `src/risk/valuation.rs`: the two conversions between amounts of
a token and dollars, and the profit of a plan before gas. The conversions compute
in 256 bits and answer nothing when the token has no price or when a result does
not fit. The profit is computed in signed 128 bits, which a release build wraps.

The conversions are exact for every number of decimals that a token can have. A
power of ten that leaves 256 bits is wrapped, but what is left of it is always so
large that the results are those of the exact power.
-/

import DexArbitrage.Types

namespace DexArbitrage

/-- Ten to the number of decimals, in 256 bits. -/
def decimalsScale (token : TokenInfo) : Nat :=
  10 ^ token.decimals % 2 ^ 256

/-- A price that is set and not zero. -/
def usablePriceE8 (token : TokenInfo) : Option Nat :=
  token.manualPriceUsdE8.filter (· ≠ 0)

/-- `first * second / divisor` in 256 bits, when the result fits a `u128`. -/
def mulDivU128 (first second divisor : Nat) : Option Nat :=
  if divisor = 0 ∨ 2 ^ 256 ≤ first * second ∨ u128Max < first * second / divisor then
    none
  else
    some (first * second / divisor)

def amountToUsdE8 (amountRaw : Nat) (token : TokenInfo) : Option Nat := do
  let priceE8 ← usablePriceE8 token
  mulDivU128 amountRaw priceE8 (decimalsScale token)

def usdE8ToAmount (usdE8 : Nat) (token : TokenInfo) : Option Nat := do
  let priceE8 ← usablePriceE8 token
  mulDivU128 usdE8 (decimalsScale token) priceE8

def calculateNetProfitBeforeGasRaw (inputAmount outputAmount flashFeeRaw : Nat) : Int :=
  let gross := wrapI128 (wrapI128 outputAmount - wrapI128 inputAmount)
  wrapI128 (gross - wrapI128 flashFeeRaw)

/-- Wei are 256 bits wide, so the product may leave them. -/
def nativeGasToUsdE8 (gasCostWei nativePriceUsdE8 nativeDecimals : Nat) : Option Nat :=
  if nativePriceUsdE8 = 0 then
    none
  else
    mulDivU128 gasCostWei nativePriceUsdE8 (10 ^ nativeDecimals % 2 ^ 256)

/-- The largest `i128`. -/
def i128Max : Int := 2 ^ 127 - 1

def calculateContractMinProfitRaw (netProfitBeforeGasRaw : Int) (minProfitRealizationBps : Nat) :
    Nat :=
  if netProfitBeforeGasRaw ≤ 0 then
    0
  else
    let numerator := min (netProfitBeforeGasRaw * minProfitRealizationBps) i128Max
    (numerator / 10000).toNat

/-- Wrapping at every step is wrapping once. -/
theorem calculateNetProfitBeforeGasRaw_eq (inputAmount outputAmount flashFeeRaw : Nat) :
    calculateNetProfitBeforeGasRaw inputAmount outputAmount flashFeeRaw =
      wrapI128 ((outputAmount : Int) - inputAmount - flashFeeRaw) := by
  unfold calculateNetProfitBeforeGasRaw
  dsimp only
  rw [wrapI128_sub outputAmount inputAmount, wrapI128_sub]

/-! ### The conversions are exact -/

/-- The exact quotient, when it fits a `u128`. -/
def exactQuotient (numerator divisor : Nat) : Option Nat :=
  if numerator / divisor ≤ u128Max then some (numerator / divisor) else none

/-- What the wrapping leaves of a power of ten is still above all products of an amount and a
price. -/
theorem wrapped_scale_large : ∀ decimals < 256, 78 ≤ decimals →
    2 ^ 192 ≤ 10 ^ decimals % 2 ^ 256 := by
  decide +kernel

theorem decimalsScale_of_lt {token : TokenInfo} (small : token.decimals < 78) :
    decimalsScale token = 10 ^ token.decimals := by
  refine Nat.mod_eq_of_lt ?_
  calc 10 ^ token.decimals ≤ 10 ^ 77 := Nat.pow_le_pow_right (by decide) (Nat.le_of_lt_succ small)
    _ < 2 ^ 256 := by decide

theorem mulDivU128_eq {first second divisor : Nat} (nonzero : divisor ≠ 0)
    (fits : first * second < 2 ^ 256) :
    mulDivU128 first second divisor = exactQuotient (first * second) divisor := by
  unfold mulDivU128 exactQuotient
  by_cases small : first * second / divisor ≤ u128Max
  · rw [if_neg (by omega), if_pos small]
  · rw [if_pos (by omega), if_neg small]

theorem usablePriceE8_eq {token : TokenInfo} {price : Nat}
    (priced : token.manualPriceUsdE8 = some price) (positive : 0 < price) :
    usablePriceE8 token = some price := by
  unfold usablePriceE8
  rw [priced, Option.filter_some, if_pos (by simpa using positive.ne')]

section Exact

variable {token : TokenInfo} {price : Nat}

/-- The dollars of an amount are the exact quotient, rounded down. -/
theorem amountToUsdE8_eq (range : token.decimals < 2 ^ 8)
    (priced : token.manualPriceUsdE8 = some price) (positive : 0 < price) (small : price < 2 ^ 64)
    {amountRaw : Nat} (fits : amountRaw ≤ u128Max) :
    amountToUsdE8 amountRaw token =
      exactQuotient (amountRaw * price) (10 ^ token.decimals) := by
  have product : amountRaw * price < 2 ^ 192 := by
    calc amountRaw * price ≤ u128Max * price := Nat.mul_le_mul_right price fits
      _ < 2 ^ 128 * 2 ^ 64 := Nat.mul_lt_mul'' (by decide) small
      _ = 2 ^ 192 := by decide
  unfold amountToUsdE8
  rw [usablePriceE8_eq priced positive, Option.bind_eq_bind, Option.bind_some]
  rcases Nat.lt_or_ge token.decimals 78 with exactScale | wrappedScale
  · rw [decimalsScale_of_lt exactScale]
    exact mulDivU128_eq (Nat.pos_iff_ne_zero.mp (Nat.pow_pos (by decide)))
      (product.trans (by decide))
  · -- The wrapped power and the exact one are both above the product: the quotients are zero.
    have wrapped : 2 ^ 192 ≤ decimalsScale token :=
      wrapped_scale_large token.decimals range wrappedScale
    have unwrapped : 2 ^ 192 ≤ 10 ^ token.decimals :=
      wrapped.trans (Nat.mod_le _ _)
    rw [mulDivU128_eq (by omega) (product.trans (by decide))]
    unfold exactQuotient
    rw [Nat.div_eq_of_lt (product.trans_le wrapped), Nat.div_eq_of_lt (product.trans_le unwrapped)]

/-- A quotient whose numerator is this large does not fit. -/
theorem exactQuotient_large {numerator : Nat} (positive : 0 < price) (small : price < 2 ^ 64)
    (large : 2 ^ 192 ≤ numerator) : exactQuotient numerator price = none := by
  have exceeds : 2 ^ 128 ≤ numerator / price := by
    rw [Nat.le_div_iff_mul_le positive]
    calc 2 ^ 128 * price ≤ 2 ^ 128 * 2 ^ 64 := Nat.mul_le_mul_left _ small.le
      _ ≤ numerator := large
  unfold exactQuotient
  refine if_neg ?_
  unfold u128Max
  omega

/-- The amount for some dollars is the exact quotient, rounded down. -/
theorem usdE8ToAmount_eq (range : token.decimals < 2 ^ 8)
    (priced : token.manualPriceUsdE8 = some price) (positive : 0 < price) (small : price < 2 ^ 64)
    (usdE8 : Nat) :
    usdE8ToAmount usdE8 token = exactQuotient (usdE8 * 10 ^ token.decimals) price := by
  unfold usdE8ToAmount
  rw [usablePriceE8_eq priced positive, Option.bind_eq_bind, Option.bind_some]
  have bothLarge : 2 ^ 192 ≤ usdE8 * decimalsScale token →
      2 ^ 192 ≤ usdE8 * 10 ^ token.decimals →
      mulDivU128 usdE8 (decimalsScale token) price =
        exactQuotient (usdE8 * 10 ^ token.decimals) price := by
    intro wrappedLarge exactLarge
    rw [exactQuotient_large positive small exactLarge]
    by_cases fits : usdE8 * decimalsScale token < 2 ^ 256
    · rw [mulDivU128_eq positive.ne' fits, exactQuotient_large positive small wrappedLarge]
    · exact if_pos (Or.inr (Or.inl (Nat.le_of_not_lt fits)))
  rcases Nat.eq_zero_or_pos usdE8 with nothing | something
  · rw [nothing, Nat.zero_mul, mulDivU128_eq positive.ne' (by rw [Nat.zero_mul]; decide),
      Nat.zero_mul]
  rcases Nat.lt_or_ge token.decimals 78 with exactScale | wrappedScale
  · rw [decimalsScale_of_lt exactScale] at bothLarge ⊢
    by_cases fits : usdE8 * 10 ^ token.decimals < 2 ^ 256
    · exact mulDivU128_eq positive.ne' fits
    · have large : 2 ^ 192 ≤ usdE8 * 10 ^ token.decimals :=
        (Nat.pow_le_pow_right (by decide) (by decide)).trans (Nat.le_of_not_lt fits)
      exact bothLarge large large
  · have wrapped : 2 ^ 192 ≤ decimalsScale token :=
      wrapped_scale_large token.decimals range wrappedScale
    have unwrapped : 2 ^ 192 ≤ 10 ^ token.decimals := wrapped.trans (Nat.mod_le _ _)
    exact bothLarge (wrapped.trans (Nat.le_mul_of_pos_left _ something))
      (unwrapped.trans (Nat.le_mul_of_pos_left _ something))

/-- The two roundings compose in the safe direction: an amount within the amount of a cap is worth
no more than the cap. -/
theorem amountToUsdE8_le_of_le_usdE8ToAmount (range : token.decimals < 2 ^ 8)
    (priced : token.manualPriceUsdE8 = some price) (positive : 0 < price) (small : price < 2 ^ 64)
    {cap most amountRaw : Nat} (capFits : cap ≤ u128Max)
    (isMost : usdE8ToAmount cap token = some most) (within : amountRaw ≤ most) :
    ∃ usd, amountToUsdE8 amountRaw token = some usd ∧ usd ≤ cap := by
  rw [usdE8ToAmount_eq range priced positive small cap] at isMost
  unfold exactQuotient at isMost
  split at isMost
  · rename_i mostFits
    injection isMost with isMost
    rw [amountToUsdE8_eq range priced positive small (within.trans (isMost ▸ mostFits))]
    have worth : amountRaw * price / 10 ^ token.decimals ≤ cap := by
      refine Nat.div_le_of_le_mul ?_
      calc amountRaw * price ≤ most * price := Nat.mul_le_mul_right price within
        _ ≤ cap * 10 ^ token.decimals := isMost ▸ Nat.div_mul_le_self _ _
        _ = 10 ^ token.decimals * cap := Nat.mul_comm _ _
    exact ⟨_, if_pos (worth.trans capFits), worth⟩
  · cases isMost

end Exact

end DexArbitrage
