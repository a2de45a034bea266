/-
This file is saturating arithmetic on natural numbers: results above a bound
are cut down to it. Cutting an intermediate result does not matter when the
next operation cuts again and cannot shrink its argument, so a chain of
saturating operations is one exact computation, cut once at its end. Signed
sums are cut at both ends of their range; there the order of the summands
matters once a partial sum leaves the range, and not before.
-/

import Mathlib.Algebra.Order.Ring.Int
import Mathlib.Data.List.Induction

namespace DexArbitrage

def saturatingAdd (bound left right : Nat) : Nat :=
  min (left + right) bound

def saturatingMul (bound left right : Nat) : Nat :=
  min (left * right) bound

theorem saturatingAdd_of_le {bound left right : Nat} (fits : left + right ≤ bound) :
    saturatingAdd bound left right = left + right :=
  Nat.min_eq_left fits

theorem saturatingAdd_le (bound left right : Nat) : saturatingAdd bound left right ≤ bound :=
  Nat.min_le_right _ _

/-- A cut factor does not show in a cut product with a positive number. -/
theorem saturatingMul_min (bound left right : Nat) (positive : 0 < right) :
    saturatingMul bound (min left bound) right = saturatingMul bound left right := by
  rcases Nat.le_total left bound with below | above
  · rw [Nat.min_eq_left below]
  · have cut : bound ≤ bound * right := Nat.le_mul_of_pos_right bound positive
    have exceeds : bound ≤ left * right := above.trans (Nat.le_mul_of_pos_right left positive)
    rw [Nat.min_eq_right above, saturatingMul, saturatingMul, Nat.min_eq_right cut,
      Nat.min_eq_right exceeds]

/-- Cut summands do not show in a cut sum. -/
theorem saturatingAdd_min_min (bound left right : Nat) :
    saturatingAdd bound (min left bound) (min right bound) = saturatingAdd bound left right := by
  unfold saturatingAdd
  omega

/-- A cut running sum is the sum, cut once. -/
theorem foldl_saturatingAdd {Element : Type} (bound : Nat) (amount : Element → Nat)
    (elements : List Element) {start : Nat} (fits : start ≤ bound) :
    elements.foldl (fun total element => saturatingAdd bound total (amount element)) start =
      min (start + (elements.map amount).sum) bound := by
  induction elements generalizing start with
  | nil => exact (Nat.min_eq_left fits).symm
  | cons element rest inductionHypothesis =>
    rw [List.foldl_cons, inductionHypothesis (saturatingAdd_le bound _ _), List.map_cons,
      List.sum_cons]
    unfold saturatingAdd
    omega

/-- When a quotient survives cutting its numerator and its denominator: no multiple of the
denominator is lost with the part of the numerator that is cut off; or the denominator is cut too,
and the exact quotient is the 0 or the 1 that the cut one is. -/
def QuotientSurvives (bound numerator denominator : Nat) : Prop :=
  denominator ≤ bound ∧
      (∀ multiple, multiple * denominator ≤ numerator → multiple * denominator ≤ bound) ∨
    bound < denominator ∧
      (numerator < bound ∨ denominator ≤ numerator ∧ numerator < 2 * denominator)

theorem div_cut_numerator_iff (bound numerator denominator : Nat) (positive : 0 < denominator) :
    min numerator bound / denominator = numerator / denominator ↔
      ∀ multiple, multiple * denominator ≤ numerator → multiple * denominator ≤ bound := by
  constructor
  · intro same multiple below
    have atMost : multiple ≤ min numerator bound / denominator := by
      rw [same]
      exact (Nat.le_div_iff_mul_le positive).mpr below
    exact ((Nat.le_div_iff_mul_le positive).mp atMost).trans (Nat.min_le_right _ _)
  · intro survives
    refine Nat.le_antisymm (Nat.div_le_div_right (Nat.min_le_left _ _)) ?_
    rw [Nat.le_div_iff_mul_le positive]
    have below : numerator / denominator * denominator ≤ numerator :=
      Nat.div_mul_le_self numerator denominator
    exact Nat.le_min.mpr ⟨below, survives _ below⟩

theorem div_cut_both_iff (bound numerator denominator : Nat) (positive : 0 < bound)
    (exceeds : bound < denominator) :
    min numerator bound / bound = numerator / denominator ↔
      numerator < bound ∨ denominator ≤ numerator ∧ numerator < 2 * denominator := by
  rcases Nat.lt_or_ge numerator bound with below | above
  · rw [Nat.min_eq_left below.le, Nat.div_eq_of_lt below,
      Nat.div_eq_of_lt (below.trans exceeds)]
    exact iff_of_true rfl (Or.inl below)
  · have one : numerator / denominator = 1 ↔
        denominator ≤ numerator ∧ numerator < 2 * denominator := by
      rw [Nat.div_eq_iff (positive.trans exceeds)]
      omega
    rw [Nat.min_eq_right above, Nat.div_self positive, eq_comm, one]
    exact (or_iff_right (Nat.not_lt.mpr above)).symm

theorem cut_quotient_iff (bound numerator denominator : Nat) (positiveBound : 0 < bound)
    (positive : 0 < denominator) :
    min numerator bound / min denominator bound = numerator / denominator ↔
      QuotientSurvives bound numerator denominator := by
  unfold QuotientSurvives
  rcases Nat.lt_or_ge bound denominator with exceeds | fits
  · rw [Nat.min_eq_right exceeds.le, div_cut_both_iff bound numerator denominator positiveBound
      exceeds]
    simp [exceeds, Nat.not_le.mpr exceeds]
  · rw [Nat.min_eq_left fits, div_cut_numerator_iff bound numerator denominator positive]
    simp [fits, Nat.not_lt.mpr fits]

/-! ### Signed numbers -/

def saturatingAddInt (low high left right : Int) : Int :=
  max low (min (left + right) high)

/-- The running sum of a list, cut after every summand. -/
def saturatingSum (low high : Int) (summands : List Int) : Int :=
  summands.foldl (saturatingAddInt low high) 0

theorem saturatingSum_concat (low high : Int) (summands : List Int) (summand : Int) :
    saturatingSum low high (summands ++ [summand]) =
      saturatingAddInt low high (saturatingSum low high summands) summand := by
  unfold saturatingSum
  rw [List.foldl_append]
  rfl

theorem saturatingAddInt_of_fits {low high left right : Int} {bound : Nat}
    (range : low ≤ -bound ∧ bound ≤ high) (fits : (left + right).natAbs ≤ bound) :
    saturatingAddInt low high left right = left + right := by
  unfold saturatingAddInt
  omega

/-- Summands whose magnitudes fit together are summed exactly. -/
theorem foldl_saturatingAddInt {low high : Int} {bound : Nat}
    (range : low ≤ -bound ∧ bound ≤ high) {summands : List Int} {start : Int}
    (fits : start.natAbs + (summands.map Int.natAbs).sum ≤ bound) :
    summands.foldl (saturatingAddInt low high) start = start + summands.sum := by
  induction summands generalizing start with
  | nil => simp
  | cons summand rest inductionHypothesis =>
    rw [List.map_cons, List.sum_cons] at fits
    have magnitude : (start + summand).natAbs ≤ start.natAbs + summand.natAbs :=
      Int.natAbs_add_le start summand
    have first : saturatingAddInt low high start summand = start + summand :=
      saturatingAddInt_of_fits range (by omega)
    have others : (start + summand).natAbs + (rest.map Int.natAbs).sum ≤ bound := by omega
    rw [List.foldl_cons, first, inductionHypothesis others, List.sum_cons, Int.add_assoc]

theorem saturatingSum_of_fits {low high : Int} {bound : Nat}
    (range : low ≤ -bound ∧ bound ≤ high) {summands : List Int}
    (fits : (summands.map Int.natAbs).sum ≤ bound) :
    saturatingSum low high summands = summands.sum := by
  have exactSum : summands.foldl (saturatingAddInt low high) 0 = 0 + summands.sum :=
    foldl_saturatingAddInt range (by simpa using fits)
  rwa [Int.zero_add] at exactSum

/-- Every running sum of the list lies between the bounds. -/
def RunningSumsFit (low high : Int) (summands : List Int) : Prop :=
  ∀ firsts, firsts <+: summands → low ≤ firsts.sum ∧ firsts.sum ≤ high

theorem RunningSumsFit.of_prefix {low high : Int} {firsts summands : List Int}
    (fit : RunningSumsFit low high summands) (isPrefix : firsts <+: summands) :
    RunningSumsFit low high firsts :=
  fun fewer inFirsts => fit fewer (inFirsts.trans isPrefix)

theorem saturatingAddInt_of_between {low high left right : Int} (atLeast : low ≤ left + right)
    (atMost : left + right ≤ high) : saturatingAddInt low high left right = left + right := by
  unfold saturatingAddInt
  omega

/-- Nothing is cut from a sum whose running sums fit. -/
theorem saturatingSum_of_runningSumsFit {low high : Int} {summands : List Int}
    (fit : RunningSumsFit low high summands) :
    saturatingSum low high summands = summands.sum := by
  induction summands using List.reverseRecOn with
  | nil => rfl
  | append_singleton firsts summand inductionHypothesis =>
    obtain ⟨atLeast, atMost⟩ := fit _ List.prefix_rfl
    rw [List.sum_append, List.sum_singleton] at atLeast atMost
    rw [saturatingSum_concat, inductionHypothesis (fit.of_prefix (List.prefix_append _ _)),
      saturatingAddInt_of_between atLeast atMost, List.sum_append, List.sum_singleton]

theorem natAbs_sum_le (summands : List Int) :
    summands.sum.natAbs ≤ (summands.map Int.natAbs).sum := by
  induction summands with
  | nil => exact Nat.le_refl 0
  | cons summand rest inductionHypothesis =>
    rw [List.sum_cons, List.map_cons, List.sum_cons]
    exact (Int.natAbs_add_le _ _).trans (Nat.add_le_add_left inductionHypothesis _)

/-- The running sums fit when all magnitudes fit together. -/
theorem runningSumsFit_of_fits {low high : Int} {bound : Nat}
    (range : low ≤ -bound ∧ bound ≤ high) {summands : List Int}
    (fits : (summands.map Int.natAbs).sum ≤ bound) : RunningSumsFit low high summands := by
  rintro firsts ⟨others, same⟩
  have magnitude := natAbs_sum_le firsts
  rw [← same, List.map_append, List.sum_append] at fits
  omega

/-- Two cut sums, added up, are one exact sum when all magnitudes fit together. -/
theorem saturatingAddInt_saturatingSum {low high : Int} {bound : Nat}
    (range : low ≤ -bound ∧ bound ≤ high) {first second : List Int}
    (fits : ((first ++ second).map Int.natAbs).sum ≤ bound) :
    saturatingAddInt low high (saturatingSum low high first) (saturatingSum low high second) =
      (first ++ second).sum := by
  rw [List.map_append, List.sum_append] at fits
  have firstFits : saturatingSum low high first = first.sum :=
    saturatingSum_of_fits range (by omega)
  have secondFits : saturatingSum low high second = second.sum :=
    saturatingSum_of_fits range (by omega)
  have magnitude : (first.sum + second.sum).natAbs ≤ first.sum.natAbs + second.sum.natAbs :=
    Int.natAbs_add_le _ _
  have firstMagnitude := natAbs_sum_le first
  have secondMagnitude := natAbs_sum_le second
  rw [firstFits, secondFits, saturatingAddInt_of_fits range (by omega), List.sum_append]

end DexArbitrage
