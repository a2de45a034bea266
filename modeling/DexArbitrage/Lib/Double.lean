/-
This file develops double-precision arithmetic on exact rationals. A finite
double is the rational that it stands for, and an operation computes exactly and
rounds to the nearest rational with a mantissa of 53 bits, ties to the even one.
The range of the exponents is not modelled: the numbers are neither subnormal
nor so large that an operation would overflow.
-/

import Mathlib.Data.Rat.Floor

namespace Double

/-- The nearest integer, and of two nearest ones the even one. -/
def roundHalfEven (value : ℚ) : Int :=
  let rest := value - value.floor
  if rest < 1 / 2 ∨ rest = 1 / 2 ∧ value.floor % 2 = 0 then value.floor else value.floor + 1

/-- A positive number over a power of two; the exponent may be negative. -/
def scaled (value : ℚ) (exponent : Int) : ℚ :=
  if 0 ≤ exponent then value / 2 ^ exponent.toNat else value * 2 ^ (-exponent).toNat

/-- The exponent of the binade in which a positive number lies. -/
def binade (value : ℚ) : Int :=
  let estimate := (value.num.natAbs.log2 : Int) - value.den.log2
  if scaled value estimate < 1 then estimate - 1 else estimate

/-- The nearest double of a number. -/
def round (value : ℚ) : ℚ :=
  if value = 0 then
    0
  else
    let exponent := binade |value| - 52
    scaled (roundHalfEven (scaled value exponent)) (-exponent)

def ofNat (value : Nat) : ℚ := round value

def add (left right : ℚ) : ℚ := round (left + right)

def sub (left right : ℚ) : ℚ := round (left - right)

def mul (left right : ℚ) : ℚ := round (left * right)

def div (left right : ℚ) : ℚ := round (left / right)

/-- A cast to an integer cuts the fraction off. -/
def truncate (value : ℚ) : Int :=
  if 0 ≤ value then value.floor else -(-value).floor

end Double
