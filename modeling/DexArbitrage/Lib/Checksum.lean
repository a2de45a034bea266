/-
This file is about checksums that fold a step function over the bytes. When the
step loses neither the state nor the byte, two inputs that differ at a single
position have different checksums: the states differ right after that position,
and no later step brings them together again. The last part writes a number in
hexadecimal digits, of which a fixed count spells different numbers
differently.
-/

import Mathlib.Algebra.Group.Nat.Defs
import Mathlib.Data.List.Basic

namespace DexArbitrage

section Fold

variable {State Input : Type*} {step : State → Input → State}

/-- Folding the same inputs keeps different states apart. -/
theorem foldl_injective (keepsState : ∀ input, Function.Injective fun state => step state input)
    (inputs : List Input) : Function.Injective fun state => inputs.foldl step state := by
  induction inputs with
  | nil => exact fun first second same => same
  | cons input rest inductionHypothesis =>
    exact fun first second same => keepsState input (inductionHypothesis same)

/-- Replacing one input by a different one changes the result. -/
theorem foldl_set_ne (keepsState : ∀ input, Function.Injective fun state => step state input)
    (keepsInput : ∀ state, Function.Injective (step state)) {inputs : List Input}
    {position : Nat} (inside : position < inputs.length) {other : Input}
    (different : other ≠ inputs[position]) (start : State) :
    (inputs.set position other).foldl step start ≠ inputs.foldl step start := by
  induction inputs generalizing position start with
  | nil => exact absurd inside (Nat.not_lt_zero _)
  | cons input rest inductionHypothesis =>
    cases position with
    | zero =>
      intro same
      exact different (keepsInput start (foldl_injective keepsState rest same))
    | succ position =>
      exact inductionHypothesis (Nat.lt_of_succ_lt_succ inside) different (step start input)

end Fold

/-- The last `width` hexadecimal digits of a number, the most significant one first. -/
def hexDigits : Nat → Nat → List Char
  | 0, _ => []
  | width + 1, value => hexDigits width (value / 16) ++ [Nat.digitChar (value % 16)]

@[simp] theorem length_hexDigits (width value : Nat) : (hexDigits width value).length = width := by
  induction width generalizing value with
  | zero => rfl
  | succ width inductionHypothesis => simp [hexDigits, inductionHypothesis]

theorem exists_digit_of_mem_hexDigits {width value : Nat} {character : Char}
    (member : character ∈ hexDigits width value) :
    ∃ digit < 16, character = Nat.digitChar digit := by
  induction width generalizing value with
  | zero => cases member
  | succ width inductionHypothesis =>
    rcases List.mem_append.mp member with before | last
    · exact inductionHypothesis before
    · exact ⟨value % 16, Nat.mod_lt _ (by decide), List.mem_singleton.mp last⟩

theorem digitChar_injective {first second : Nat} (firstFits : first < 16)
    (secondFits : second < 16) (same : Nat.digitChar first = Nat.digitChar second) :
    first = second := by
  have all : ∀ first < 16, ∀ second < 16, Nat.digitChar first = Nat.digitChar second →
      first = second := by decide
  exact all first firstFits second secondFits same

/-- Numbers that fit in the digits are told apart by them. -/
theorem hexDigits_injective {width first second : Nat} (firstFits : first < 16 ^ width)
    (secondFits : second < 16 ^ width) (same : hexDigits width first = hexDigits width second) :
    first = second := by
  induction width generalizing first second with
  | zero => rw [Nat.lt_one_iff.mp firstFits, Nat.lt_one_iff.mp secondFits]
  | succ width inductionHypothesis =>
    have quotients := List.append_inj_left same (by rw [length_hexDigits, length_hexDigits])
    have digits := List.append_inj_right same (by rw [length_hexDigits, length_hexDigits])
    have firstQuotient : first / 16 < 16 ^ width := by
      rw [Nat.div_lt_iff_lt_mul (by decide)]
      exact firstFits
    have secondQuotient : second / 16 < 16 ^ width := by
      rw [Nat.div_lt_iff_lt_mul (by decide)]
      exact secondFits
    have sameQuotient := inductionHypothesis firstQuotient secondQuotient quotients
    have sameDigit := digitChar_injective (Nat.mod_lt first (by decide))
      (Nat.mod_lt second (by decide)) (List.singleton_inj.mp digits)
    omega

end DexArbitrage
