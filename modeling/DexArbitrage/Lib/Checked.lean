/-
This file is checked arithmetic on natural numbers: an operation answers nothing
when its result leaves the range from zero to a bound, and the exact result
otherwise. A chain of checked operations that answers is therefore the exact
computation.
-/

import Mathlib.Data.Option.Basic

namespace DexArbitrage.Checked

def add (bound left right : Nat) : Option Nat :=
  if left + right ≤ bound then some (left + right) else none

def sub (left right : Nat) : Option Nat :=
  if right ≤ left then some (left - right) else none

def mul (bound left right : Nat) : Option Nat :=
  if left * right ≤ bound then some (left * right) else none

def div (left right : Nat) : Option Nat :=
  if right = 0 then none else some (left / right)

/-- A checked product, divided. -/
def mulDiv (bound first second divisor : Nat) : Option Nat :=
  (mul bound first second).bind fun product => div product divisor

@[simp] theorem add_eq_some_iff {bound left right result : Nat} :
    add bound left right = some result ↔ left + right ≤ bound ∧ left + right = result := by
  unfold add
  split <;> simp [*]

@[simp] theorem sub_eq_some_iff {left right result : Nat} :
    sub left right = some result ↔ right ≤ left ∧ left - right = result := by
  unfold sub
  split <;> simp [*]

@[simp] theorem mul_eq_some_iff {bound left right result : Nat} :
    mul bound left right = some result ↔ left * right ≤ bound ∧ left * right = result := by
  unfold mul
  split <;> simp [*]

@[simp] theorem div_eq_some_iff {left right result : Nat} :
    div left right = some result ↔ right ≠ 0 ∧ left / right = result := by
  unfold div
  split <;> simp [*]

/-- A checked quotient of a checked product is the exact quotient. -/
theorem eq_of_mulDiv {bound first second divisor result : Nat}
    (answers : mulDiv bound first second divisor = some result) :
    result = first * second / divisor := by
  obtain ⟨product, multiplied, divided⟩ := Option.bind_eq_some_iff.mp answers
  obtain ⟨_, rfl⟩ := mul_eq_some_iff.mp multiplied
  exact (div_eq_some_iff.mp divided).2.symm

end DexArbitrage.Checked
