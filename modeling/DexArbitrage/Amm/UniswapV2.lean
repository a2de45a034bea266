/-
This file models `src/amm/uniswap_v2.rs`: the quote of a constant-product pool
in saturating 128-bit arithmetic.
-/

import DexArbitrage.Types

namespace DexArbitrage

namespace V2PoolState

def reserveIn (state : V2PoolState) (zeroForOne : Bool) : Nat :=
  if zeroForOne then state.reserve0 else state.reserve1

def reserveOut (state : V2PoolState) (zeroForOne : Bool) : Nat :=
  if zeroForOne then state.reserve1 else state.reserve0

end V2PoolState

namespace UniswapV2

def quoteExactIn (state : V2PoolState) (zeroForOne : Bool) (amountIn : Nat) : Option Nat :=
  if amountIn = 0 then
    some 0
  else
    let reserveIn := state.reserveIn zeroForOne
    let reserveOut := state.reserveOut zeroForOne
    if reserveIn = 0 ∨ reserveOut = 0 then
      none
    else
      let feeFactor := 1000000 - state.feePpm
      let amountInWithFee := saturatingMul u128Max amountIn feeFactor
      let numerator := saturatingMul u128Max amountInWithFee reserveOut
      let denominator :=
        saturatingAdd u128Max (saturatingMul u128Max reserveIn 1000000) amountInWithFee
      some (numerator / denominator)

/-- The exact numerator of the constant-product quote. -/
def exactNumerator (state : V2PoolState) (zeroForOne : Bool) (amountIn : Nat) : Nat :=
  amountIn * (1000000 - state.feePpm) * state.reserveOut zeroForOne

/-- The exact denominator of the constant-product quote. -/
def exactDenominator (state : V2PoolState) (zeroForOne : Bool) (amountIn : Nat) : Nat :=
  state.reserveIn zeroForOne * 1000000 + amountIn * (1000000 - state.feePpm)

/-- Saturation cuts the exact numerator and the exact denominator once each. -/
theorem quoteExactIn_eq (state : V2PoolState) (zeroForOne : Bool) (amountIn : Nat)
    (amount : amountIn ≠ 0) (reserveIn : state.reserveIn zeroForOne ≠ 0)
    (reserveOut : state.reserveOut zeroForOne ≠ 0) :
    quoteExactIn state zeroForOne amountIn =
      some (min (exactNumerator state zeroForOne amountIn) u128Max /
        min (exactDenominator state zeroForOne amountIn) u128Max) := by
  have numerator : saturatingMul u128Max
      (saturatingMul u128Max amountIn (1000000 - state.feePpm)) (state.reserveOut zeroForOne) =
      min (exactNumerator state zeroForOne amountIn) u128Max :=
    saturatingMul_min u128Max _ _ (Nat.pos_of_ne_zero reserveOut)
  have denominator : saturatingAdd u128Max
      (saturatingMul u128Max (state.reserveIn zeroForOne) 1000000)
      (saturatingMul u128Max amountIn (1000000 - state.feePpm)) =
      min (exactDenominator state zeroForOne amountIn) u128Max :=
    saturatingAdd_min_min u128Max _ _
  have positive : ¬ (state.reserveIn zeroForOne = 0 ∨ state.reserveOut zeroForOne = 0) := by
    rintro (empty | empty)
    · exact reserveIn empty
    · exact reserveOut empty
  unfold quoteExactIn
  simp only [if_neg amount, if_neg positive, numerator, denominator]

end UniswapV2

end DexArbitrage
