/-
This file models `src/amm/aerodrome_v2.rs`: the quotes of the volatile and of
the stable pools. A volatile pool is a constant-product pool. A stable pool
keeps x³y + xy³ of its reserves, scaled to 18 decimals; its quote inverts this
curve by Newton's iteration, in checked 256-bit arithmetic that floors at every
division.

The iteration ends where the curve crosses its level, from whichever side it
comes. No quote takes value out of the pool: whatever the roundings, the
reserves after a swap are not below the curve of the reserves before it.
-/

import Mathlib.Algebra.Order.Field.Basic
import DexArbitrage.Lib.Checked
import DexArbitrage.Types

namespace DexArbitrage

def oneE18 : Nat := 10 ^ 18

namespace AerodromeV2PoolState

def reserveIn (state : AerodromeV2PoolState) (zeroForOne : Bool) : Nat :=
  if zeroForOne then state.reserve0 else state.reserve1

def reserveOut (state : AerodromeV2PoolState) (zeroForOne : Bool) : Nat :=
  if zeroForOne then state.reserve1 else state.reserve0

def decimalsIn (state : AerodromeV2PoolState) (zeroForOne : Bool) : Nat :=
  if zeroForOne then state.decimals0 else state.decimals1

def decimalsOut (state : AerodromeV2PoolState) (zeroForOne : Bool) : Nat :=
  if zeroForOne then state.decimals1 else state.decimals0

end AerodromeV2PoolState

namespace AerodromeV2

/-! ### The stable curve -/

def stableF (x0 y : Nat) : Option Nat := do
  let a ← Checked.mulDiv u256Max x0 y oneE18
  let x2 ← Checked.mulDiv u256Max x0 x0 oneE18
  let y2 ← Checked.mulDiv u256Max y y oneE18
  let b ← Checked.add u256Max x2 y2
  Checked.mulDiv u256Max a b oneE18

def stableK (x y decimals0 decimals1 : Nat) : Option Nat := do
  let x ← Checked.mulDiv u256Max x oneE18 decimals0
  let y ← Checked.mulDiv u256Max y oneE18 decimals1
  stableF x y

def stableD (x0 y : Nat) : Option Nat := do
  let y2 ← Checked.mulDiv u256Max y y oneE18
  let first ← Checked.mulDiv u256Max (← Checked.mul u256Max 3 x0) y2 oneE18
  let x2 ← Checked.mulDiv u256Max x0 x0 oneE18
  let x3 ← Checked.mulDiv u256Max x2 x0 oneE18
  Checked.add u256Max first x3

/-- What one round of the iteration ends with. -/
inductive Round
  | solved (y : Nat)
  | continued (y : Nat)
  deriving DecidableEq, Repr

/-- The round from a point below the curve. -/
def roundUp (x0 xy y k : Nat) : Option Round := do
  let denom ← stableD x0 y
  if denom = 0 then
    none
  else
    let dy ← Checked.mulDiv u256Max (← Checked.sub xy k) oneE18 denom
    if dy = 0 then
      if k = xy then
        return .solved y
      else if xy < (← stableF x0 (← Checked.add u256Max y 1)) then
        return .solved (← Checked.add u256Max y 1)
      else
        return .continued (← Checked.add u256Max y 1)
    else
      return .continued (← Checked.add u256Max y dy)

/-- The round from a point on the curve or above it. -/
def roundDown (x0 xy y k : Nat) : Option Round := do
  let denom ← stableD x0 y
  if denom = 0 then
    none
  else
    let dy ← Checked.mulDiv u256Max (← Checked.sub k xy) oneE18 denom
    if dy = 0 then
      if k = xy then
        return .solved y
      else if (← stableF x0 (← Checked.sub y 1)) < xy then
        return .solved y
      else
        return .continued (← Checked.sub y 1)
    else
      return .continued (← Checked.sub y dy)

def round (x0 xy y : Nat) : Option Round := do
  let k ← stableF x0 y
  if k < xy then
    roundUp x0 xy y k
  else
    roundDown x0 xy y k

def solveStableYFrom (x0 xy : Nat) : Nat → Nat → Option Nat
  | 0, _ => none
  | rounds + 1, y => do
    match ← round x0 xy y with
    | .solved y => return y
    | .continued y => solveStableYFrom x0 xy rounds y

def solveStableY (x0 xy y : Nat) : Option Nat :=
  solveStableYFrom x0 xy 255 y

/-! ### The quotes -/

def amountInAfterFee (amountIn feePpm : Nat) : Option Nat :=
  if 1000000 ≤ feePpm then
    none
  else
    some (saturatingMul u128Max amountIn (1000000 - feePpm) / 1000000)

def u256ToU128 (value : Nat) : Option Nat :=
  if value ≤ u128Max then some value else none

def stableQuote (amountIn reserveIn reserveOut decimalsIn decimalsOut : Nat) : Option Nat := do
  if decimalsIn = 0 ∨ decimalsOut = 0 then
    none
  else
    let xy ← stableK reserveIn reserveOut decimalsIn decimalsOut
    let reserveInScaled ← Checked.mulDiv u256Max reserveIn oneE18 decimalsIn
    let reserveOutScaled ← Checked.mulDiv u256Max reserveOut oneE18 decimalsOut
    let amountInScaled ← Checked.mulDiv u256Max amountIn oneE18 decimalsIn
    let y ← solveStableY (← Checked.add u256Max reserveInScaled amountInScaled) xy reserveOutScaled
    let dyScaled ← Checked.sub reserveOutScaled y
    u256ToU128 (← Checked.mulDiv u256Max dyScaled decimalsOut oneE18)

def quoteExactIn (state : AerodromeV2PoolState) (zeroForOne : Bool) (amountIn : Nat) :
    Option Nat := do
  if amountIn = 0 then
    some 0
  else
    let amountIn ← amountInAfterFee amountIn state.feePpm
    if amountIn = 0 then
      some 0
    else
      let reserveIn := state.reserveIn zeroForOne
      let reserveOut := state.reserveOut zeroForOne
      if reserveIn = 0 ∨ reserveOut = 0 then
        none
      else if state.stable then
        stableQuote amountIn reserveIn reserveOut (state.decimalsIn zeroForOne)
          (state.decimalsOut zeroForOne)
      else
        some (saturatingMul u128Max amountIn reserveOut / saturatingAdd u128Max reserveIn amountIn)

/-! ### The curve in exact arithmetic -/

/-- The curve, with the floors of the code and without its bound. -/
def exactStableF (x0 y : Nat) : Nat :=
  x0 * y / oneE18 * (x0 * x0 / oneE18 + y * y / oneE18) / oneE18

/-- The curve of two reserves, after both are scaled to 18 decimals. -/
def exactStableK (x y decimals0 decimals1 : Nat) : Nat :=
  exactStableF (x * oneE18 / decimals0) (y * oneE18 / decimals1)

theorem exactStableF_mono {x0 x1 y z : Nat} (first : x0 ≤ x1) (second : y ≤ z) :
    exactStableF x0 y ≤ exactStableF x1 z := by
  unfold exactStableF
  gcongr

theorem eq_exactStableF {x0 y k : Nat} (answers : stableF x0 y = some k) :
    k = exactStableF x0 y := by
  obtain ⟨a, product, rest⟩ := Option.bind_eq_some_iff.mp answers
  obtain ⟨x2, firstSquare, rest⟩ := Option.bind_eq_some_iff.mp rest
  obtain ⟨y2, secondSquare, rest⟩ := Option.bind_eq_some_iff.mp rest
  obtain ⟨b, sum, rest⟩ := Option.bind_eq_some_iff.mp rest
  rw [Checked.eq_of_mulDiv rest, ← (Checked.add_eq_some_iff.mp sum).2,
    Checked.eq_of_mulDiv product, Checked.eq_of_mulDiv firstSquare,
    Checked.eq_of_mulDiv secondSquare]
  rfl

theorem eq_exactStableK {x y decimals0 decimals1 k : Nat}
    (answers : stableK x y decimals0 decimals1 = some k) :
    k = exactStableK x y decimals0 decimals1 := by
  obtain ⟨scaledX, first, rest⟩ := Option.bind_eq_some_iff.mp answers
  obtain ⟨scaledY, second, rest⟩ := Option.bind_eq_some_iff.mp rest
  rw [eq_exactStableF rest, Checked.eq_of_mulDiv first, Checked.eq_of_mulDiv second]
  rfl

/-! ### The solution of the iteration -/

/-- A point where the curve crosses a level: it is not below the level, and unless it is on the
level the point before it is below. -/
structure Crosses (x0 xy y k : Nat) : Prop where
  value : stableF x0 y = some k
  atLeast : xy ≤ k
  first : k = xy ∨ ∃ before, Checked.sub y 1 = some before ∧
    ∃ below, stableF x0 before = some below ∧ below < xy

theorem crosses_of_roundUp {x0 xy y k solution : Nat} (value : stableF x0 y = some k)
    (below : k < xy) (solved : roundUp x0 xy y k = some (.solved solution)) :
    ∃ level, Crosses x0 xy solution level := by
  obtain ⟨denom, _, rest⟩ := Option.bind_eq_some_iff.mp solved
  split at rest
  · cases rest
  obtain ⟨_, _, rest⟩ := Option.bind_eq_some_iff.mp rest
  obtain ⟨dy, _, rest⟩ := Option.bind_eq_some_iff.mp rest
  split at rest
  · rw [if_neg below.ne] at rest
    obtain ⟨next, isNext, rest⟩ := Option.bind_eq_some_iff.mp rest
    obtain ⟨level, nextValue, rest⟩ := Option.bind_eq_some_iff.mp rest
    split at rest
    · rename_i above
      obtain ⟨again, isAgain, same⟩ := Option.bind_eq_some_iff.mp rest
      have same : again = solution := by simpa using same
      rw [isNext] at isAgain
      injection isAgain with nextIsAgain
      rw [← same, ← nextIsAgain]
      obtain ⟨_, successor⟩ := Checked.add_eq_some_iff.mp isNext
      have before : Checked.sub next 1 = some y := Checked.sub_eq_some_iff.mpr (by omega)
      exact ⟨level, nextValue, above.le, Or.inr ⟨y, before, k, value, below⟩⟩
    · obtain ⟨_, _, same⟩ := Option.bind_eq_some_iff.mp rest
      simp at same
  · obtain ⟨_, _, same⟩ := Option.bind_eq_some_iff.mp rest
    simp at same

theorem crosses_of_roundDown {x0 xy y k solution : Nat} (value : stableF x0 y = some k)
    (atLeast : xy ≤ k) (solved : roundDown x0 xy y k = some (.solved solution)) :
    ∃ level, Crosses x0 xy solution level := by
  obtain ⟨denom, _, rest⟩ := Option.bind_eq_some_iff.mp solved
  split at rest
  · cases rest
  obtain ⟨_, _, rest⟩ := Option.bind_eq_some_iff.mp rest
  obtain ⟨dy, _, rest⟩ := Option.bind_eq_some_iff.mp rest
  split at rest
  · split at rest
    · rename_i onLevel
      have same : y = solution := by simpa using rest
      rw [← same]
      exact ⟨k, value, atLeast, Or.inl onLevel⟩
    · obtain ⟨before, isBefore, rest⟩ := Option.bind_eq_some_iff.mp rest
      obtain ⟨below, beforeValue, rest⟩ := Option.bind_eq_some_iff.mp rest
      split at rest
      · rename_i isBelow
        have same : y = solution := by simpa using rest
        rw [← same]
        exact ⟨k, value, atLeast, Or.inr ⟨before, isBefore, below, beforeValue, isBelow⟩⟩
      · obtain ⟨_, _, same⟩ := Option.bind_eq_some_iff.mp rest
        simp at same
  · obtain ⟨_, _, same⟩ := Option.bind_eq_some_iff.mp rest
    simp at same

/-- Whichever exit a round takes, it has found a crossing. -/
theorem crosses_of_round {x0 xy y solution : Nat}
    (solved : round x0 xy y = some (.solved solution)) : ∃ level, Crosses x0 xy solution level := by
  obtain ⟨k, value, rest⟩ := Option.bind_eq_some_iff.mp solved
  split at rest
  · rename_i below
    exact crosses_of_roundUp value below rest
  · rename_i above
    exact crosses_of_roundDown value (Nat.le_of_not_lt above) rest

theorem crosses_of_solveStableYFrom {x0 xy rounds y solution : Nat}
    (solved : solveStableYFrom x0 xy rounds y = some solution) :
    ∃ level, Crosses x0 xy solution level := by
  induction rounds generalizing y with
  | zero => cases solved
  | succ rounds inductionHypothesis =>
    obtain ⟨result, isResult, rest⟩ := Option.bind_eq_some_iff.mp solved
    cases result with
    | solved found =>
      injection rest with same
      rw [← same]
      exact crosses_of_round isResult
    | continued next => exact inductionHypothesis rest

/-- All points before a crossing are below the level, unless the crossing is on it. -/
theorem Crosses.below {x0 xy y k z : Nat} (crossing : Crosses x0 xy y k) (off : k ≠ xy)
    (before : z < y) : exactStableF x0 z < xy := by
  obtain ⟨previous, isPrevious, level, value, isBelow⟩ := crossing.first.resolve_left off
  obtain ⟨_, isDifference⟩ := Checked.sub_eq_some_iff.mp isPrevious
  calc exactStableF x0 z ≤ exactStableF x0 previous :=
      exactStableF_mono (Nat.le_refl x0) (by omega)
    _ = level := (eq_exactStableF value).symm
    _ < xy := isBelow

/-- Whatever the start and whichever exit is taken, the solution is a crossing of the level: the
curve is not below it there, and before it at most where the solution is on the level. -/
theorem solveStableY_crosses (x0 xy y solution : Nat)
    (solved : solveStableY x0 xy y = some solution) :
    ∃ level, stableF x0 solution = some level ∧ xy ≤ level ∧
      (level = xy ∨ ∃ before, Checked.sub solution 1 = some before ∧
        ∃ below, stableF x0 before = some below ∧ below < xy) ∧
      (level = xy ∨ ∀ z < solution, exactStableF x0 z < xy) := by
  obtain ⟨level, crossing⟩ := crosses_of_solveStableYFrom solved
  refine ⟨level, crossing.value, crossing.atLeast, crossing.first, ?_⟩
  by_cases on : level = xy
  · exact Or.inl on
  · exact Or.inr fun z => crossing.below on

/-- A level between two points of the curve. From the lower one the branch that goes up answers with
the next, unseen; from far above the branch that goes down stops at the same point. -/
theorem solveStableY_crosses_bothSides :
    (∃ level, stableF (10 ^ 18) (10 ^ 18 + 1) = some level ∧ 2 * 10 ^ 18 + 3 ≤ level ∧
      (level = 2 * 10 ^ 18 + 3 ∨ ∃ before, Checked.sub (10 ^ 18 + 1) 1 = some before ∧
        ∃ below, stableF (10 ^ 18) before = some below ∧ below < 2 * 10 ^ 18 + 3) ∧
      (level = 2 * 10 ^ 18 + 3 ∨ ∀ z < 10 ^ 18 + 1, exactStableF (10 ^ 18) z < 2 * 10 ^ 18 + 3)) ∧
      solveStableY (10 ^ 18) (2 * 10 ^ 18 + 3) (3 * 10 ^ 18) = some (10 ^ 18 + 1) :=
  ⟨solveStableY_crosses (10 ^ 18) (2 * 10 ^ 18 + 3) (10 ^ 18) (10 ^ 18 + 1) (by decide +kernel),
    by decide +kernel⟩

/-! ### No quote takes value out of the pool -/

/-- The input less the fee, which the code drops when the fee is all of it. -/
def feeReduced (amountIn feePpm : Nat) : Nat :=
  saturatingMul u128Max amountIn (1000000 - feePpm) / 1000000

theorem feeReduced_le (amountIn feePpm : Nat) : feeReduced amountIn feePpm ≤ amountIn := by
  have cut : saturatingMul u128Max amountIn (1000000 - feePpm) ≤ amountIn * 1000000 :=
    (Nat.min_le_left _ _).trans (Nat.mul_le_mul_left amountIn (Nat.sub_le _ _))
  exact Nat.div_le_of_le_mul (cut.trans_eq (Nat.mul_comm _ _))

theorem eq_of_u256ToU128 {value narrowed : Nat} (fits : u256ToU128 value = some narrowed) :
    value = narrowed := by
  unfold u256ToU128 at fits
  split at fits
  · injection fits
  · cases fits

/-- Scaling an output down and up again does not raise it above what the solution leaves. -/
theorem le_scaled_rest {reserve solution decimals : Nat} (positive : 0 < decimals)
    (fits : solution ≤ reserve * oneE18 / decimals) :
    (reserve * oneE18 / decimals - solution) * decimals / oneE18 ≤ reserve ∧
      solution ≤
        (reserve - (reserve * oneE18 / decimals - solution) * decimals / oneE18) * oneE18 /
          decimals := by
  generalize isScaled : reserve * oneE18 / decimals = scaled at fits ⊢
  generalize isOut : (scaled - solution) * decimals / oneE18 = out
  have scaledBack : scaled * decimals ≤ reserve * oneE18 := by
    rw [← isScaled]
    exact Nat.div_mul_le_self _ _
  have outBack : out * oneE18 ≤ (scaled - solution) * decimals := by
    rw [← isOut]
    exact Nat.div_mul_le_self _ _
  have together : out * oneE18 + solution * decimals ≤ reserve * oneE18 := by
    calc out * oneE18 + solution * decimals
        ≤ (scaled - solution) * decimals + solution * decimals := by gcongr
      _ = scaled * decimals := by rw [← Nat.add_mul, Nat.sub_add_cancel fits]
      _ ≤ reserve * oneE18 := scaledBack
  constructor
  · exact Nat.le_of_mul_le_mul_right ((Nat.le_add_right _ _).trans together) (by decide)
  · rw [Nat.le_div_iff_mul_le positive, Nat.sub_mul]
    omega

/-- The reserves after a stable swap are not below the curve of the reserves before it. -/
theorem curve_kept_of_stableQuote {amountIn reserveIn reserveOut decimalsIn decimalsOut out : Nat}
    (quoted : stableQuote amountIn reserveIn reserveOut decimalsIn decimalsOut = some out) :
    out ≤ reserveOut ∧ exactStableK reserveIn reserveOut decimalsIn decimalsOut ≤
      exactStableK (reserveIn + amountIn) (reserveOut - out) decimalsIn decimalsOut := by
  unfold stableQuote at quoted
  split at quoted
  · cases quoted
  rename_i decimals
  obtain ⟨xy, isLevel, rest⟩ := Option.bind_eq_some_iff.mp quoted
  obtain ⟨reserveInScaled, inScaled, rest⟩ := Option.bind_eq_some_iff.mp rest
  obtain ⟨reserveOutScaled, outScaled, rest⟩ := Option.bind_eq_some_iff.mp rest
  obtain ⟨amountInScaled, amountScaled, rest⟩ := Option.bind_eq_some_iff.mp rest
  obtain ⟨x0, isX0, rest⟩ := Option.bind_eq_some_iff.mp rest
  obtain ⟨y, solved, rest⟩ := Option.bind_eq_some_iff.mp rest
  obtain ⟨dyScaled, isDy, rest⟩ := Option.bind_eq_some_iff.mp rest
  obtain ⟨dy, unscaled, narrowed⟩ := Option.bind_eq_some_iff.mp rest
  obtain ⟨level, crossing⟩ := crosses_of_solveStableYFrom solved
  obtain ⟨_, isSum⟩ := Checked.add_eq_some_iff.mp isX0
  obtain ⟨solutionFits, isDifference⟩ := Checked.sub_eq_some_iff.mp isDy
  have isOut : dy = out := eq_of_u256ToU128 narrowed
  rw [Checked.eq_of_mulDiv inScaled, Checked.eq_of_mulDiv amountScaled] at isSum
  rw [Checked.eq_of_mulDiv outScaled] at solutionFits isDifference
  rw [Checked.eq_of_mulDiv unscaled, ← isDifference] at isOut
  have positive : 0 < decimalsOut := Nat.pos_of_ne_zero fun zero => decimals (Or.inr zero)
  obtain ⟨outFits, left⟩ := le_scaled_rest positive solutionFits
  rw [isOut] at outFits left
  have entered : x0 ≤ (reserveIn + amountIn) * oneE18 / decimalsIn := by
    rw [← isSum, Nat.add_mul]
    exact Nat.div_add_div_le_add_div
  refine ⟨outFits, ?_⟩
  rw [← eq_exactStableK isLevel]
  calc xy ≤ level := crossing.atLeast
    _ = exactStableF x0 y := eq_exactStableF crossing.value
    _ ≤ exactStableK (reserveIn + amountIn) (reserveOut - out) decimalsIn decimalsOut :=
      exactStableF_mono entered left

/-- The reserves after a volatile swap have no smaller product than those before it. -/
theorem product_kept {amountIn reserveIn reserveOut : Nat} (positive : 0 < reserveIn)
    (fits : reserveIn + amountIn ≤ u128Max) :
    saturatingMul u128Max amountIn reserveOut / saturatingAdd u128Max reserveIn amountIn ≤
        reserveOut ∧
      reserveIn * reserveOut ≤ (reserveIn + amountIn) *
        (reserveOut -
          saturatingMul u128Max amountIn reserveOut /
            saturatingAdd u128Max reserveIn amountIn) := by
  rw [saturatingAdd_of_le fits]
  generalize isOut : saturatingMul u128Max amountIn reserveOut / (reserveIn + amountIn) = out
  have paid : (reserveIn + amountIn) * out ≤ amountIn * reserveOut := by
    rw [← isOut]
    exact (Nat.mul_div_le _ _).trans (Nat.min_le_left _ _)
  have atMost : amountIn * reserveOut ≤ (reserveIn + amountIn) * reserveOut :=
    Nat.mul_le_mul_right reserveOut (Nat.le_add_left _ _)
  constructor
  · exact Nat.le_of_mul_le_mul_left (paid.trans atMost) (by omega)
  · rw [Nat.mul_sub, Nat.add_mul reserveIn amountIn reserveOut]
    omega

theorem amountInAfterFee_eq_some {amountIn feePpm net : Nat}
    (answers : amountInAfterFee amountIn feePpm = some net) : net = feeReduced amountIn feePpm := by
  unfold amountInAfterFee at answers
  split at answers
  · cases answers
  · injection answers with same
    exact same.symm

/-- What a quote is: nothing for nothing, or the output of one of the two kinds of pools. -/
theorem quoteExactIn_cases {state : AerodromeV2PoolState} {zeroForOne : Bool} {amountIn out : Nat}
    (quoted : quoteExactIn state zeroForOne amountIn = some out) :
    feeReduced amountIn state.feePpm = 0 ∧ out = 0 ∨
      0 < state.reserveIn zeroForOne ∧
        if state.stable then
          stableQuote (feeReduced amountIn state.feePpm) (state.reserveIn zeroForOne)
            (state.reserveOut zeroForOne) (state.decimalsIn zeroForOne)
            (state.decimalsOut zeroForOne) = some out
        else
          saturatingMul u128Max (feeReduced amountIn state.feePpm) (state.reserveOut zeroForOne) /
            saturatingAdd u128Max (state.reserveIn zeroForOne)
              (feeReduced amountIn state.feePpm) = out := by
  unfold quoteExactIn at quoted
  split at quoted
  · rename_i nothing
    injection quoted with same
    rw [nothing]
    exact Or.inl ⟨Nat.le_zero.mp (feeReduced_le 0 _), same.symm⟩
  obtain ⟨net, afterFee, rest⟩ := Option.bind_eq_some_iff.mp quoted
  rw [amountInAfterFee_eq_some afterFee] at rest
  split at rest
  · rename_i nothing
    injection rest with same
    exact Or.inl ⟨nothing, same.symm⟩
  dsimp only at rest
  split at rest
  · cases rest
  rename_i reserves
  refine Or.inr ⟨Nat.pos_of_ne_zero fun zero => reserves (Or.inl zero), ?_⟩
  split at rest
  · rename_i stable
    rw [if_pos stable]
    exact rest
  · rename_i volatile
    rw [if_neg volatile]
    injection rest

/-- A quote never breaks the invariant of the pool: the curve of a stable pool, and the product of a
volatile one. -/
theorem quoteExactIn_keeps_invariant (state : AerodromeV2PoolState) (zeroForOne : Bool)
    (amountIn : Nat) :
    let reserveIn := state.reserveIn zeroForOne
    let reserveOut := state.reserveOut zeroForOne
    let decimalsIn := state.decimalsIn zeroForOne
    let decimalsOut := state.decimalsOut zeroForOne
    let net := feeReduced amountIn state.feePpm
    ∀ out, quoteExactIn state zeroForOne amountIn = some out →
      (state.stable = true → out ≤ reserveOut ∧
        exactStableK reserveIn reserveOut decimalsIn decimalsOut ≤
          exactStableK (reserveIn + net) (reserveOut - out) decimalsIn decimalsOut) ∧
      (state.stable = false → reserveIn + amountIn < 2 ^ 128 → out ≤ reserveOut ∧
        reserveIn * reserveOut ≤ (reserveIn + net) * (reserveOut - out)) := by
  intro reserveIn reserveOut decimalsIn decimalsOut net out quoted
  rcases quoteExactIn_cases quoted with ⟨nothing, rfl⟩ | ⟨positive, traded⟩
  · have noInput : net = 0 := nothing
    rw [noInput, Nat.add_zero, Nat.sub_zero]
    exact ⟨fun _ => ⟨Nat.zero_le _, Nat.le_refl _⟩, fun _ _ => ⟨Nat.zero_le _, Nat.le_refl _⟩⟩
  constructor
  · intro stable
    rw [if_pos stable] at traded
    exact curve_kept_of_stableQuote traded
  · intro volatile fits
    rw [if_neg (Bool.eq_false_iff.mp volatile)] at traded
    have netFits : reserveIn + net ≤ u128Max := by
      have smaller : net ≤ amountIn := feeReduced_le amountIn state.feePpm
      unfold u128Max
      omega
    rw [← traded]
    exact product_kept positive netFits

/-- A swap into a stable pool of tokens with 6 and with 18 decimals, and one into a small volatile
pool. -/
theorem quoteExactIn_keeps_invariant_examples :
    exactStableK (2000 * 10 ^ 6) (3000 * 10 ^ 18) (10 ^ 6) (10 ^ 18) ≤
        exactStableK (2000 * 10 ^ 6 + 999600) (3000 * 10 ^ 18 - 1015673595786784622) (10 ^ 6)
          (10 ^ 18) ∧
      3000 * 2000 ≤ (3000 + 99) * (2000 - 63) := by
  have stableQuoted : quoteExactIn
      { reserve0 := 2000 * 10 ^ 6, reserve1 := 3000 * 10 ^ 18, decimals0 := 10 ^ 6
        decimals1 := 10 ^ 18, stable := true, feePpm := 400 } true (10 ^ 6) =
      some 1015673595786784622 := by decide +kernel
  have volatileQuoted : quoteExactIn
      { reserve0 := 2000, reserve1 := 3000, decimals0 := 1, decimals1 := 1, stable := false
        feePpm := 3000 } false 100 = some 63 := by decide +kernel
  exact ⟨((quoteExactIn_keeps_invariant _ true (10 ^ 6) _ stableQuoted).1 rfl).2,
    ((quoteExactIn_keeps_invariant _ false 100 _ volatileQuoted).2 rfl (by decide)).2⟩

end AerodromeV2

end DexArbitrage
