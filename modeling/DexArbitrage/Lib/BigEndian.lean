/-
This file is the big-endian encoding of natural numbers in bytes: `toBigEndian`
writes a number in a fixed number of bytes, the most significant one first, and
`fromBigEndian` reads any byte string. Reading what was written gives the
number back as long as it fits in the width.
-/

import Mathlib.Algebra.Order.Ring.Int
import Mathlib.Data.List.Induction
import Mathlib.Tactic.Ring
import Mathlib.Data.List.Basic

namespace DexArbitrage

/-- The number a byte string spells, the most significant byte first. -/
def fromBigEndian (bytes : List UInt8) : Nat :=
  bytes.foldl (fun value byte => value * 256 + byte.toNat) 0

/-- The last `width` base-256 digits of a number, the most significant one first. -/
def toBigEndian : Nat → Nat → List UInt8
  | 0, _ => []
  | width + 1, value => toBigEndian width (value / 256) ++ [UInt8.ofNat (value % 256)]

@[simp] theorem length_toBigEndian (width value : Nat) :
    (toBigEndian width value).length = width := by
  induction width generalizing value with
  | zero => rfl
  | succ width inductionHypothesis => simp [toBigEndian, inductionHypothesis]

theorem fromBigEndian_append_singleton (bytes : List UInt8) (byte : UInt8) :
    fromBigEndian (bytes ++ [byte]) = fromBigEndian bytes * 256 + byte.toNat := by
  simp [fromBigEndian]

theorem fromBigEndian_append (first second : List UInt8) :
    fromBigEndian (first ++ second) =
      fromBigEndian first * 256 ^ second.length + fromBigEndian second := by
  induction second using List.reverseRecOn with
  | nil => simp [fromBigEndian]
  | append_singleton rest byte inductionHypothesis =>
    rw [← List.append_assoc, fromBigEndian_append_singleton, inductionHypothesis,
      fromBigEndian_append_singleton, List.length_append, List.length_singleton, pow_succ]
    ring

theorem fromBigEndian_lt (bytes : List UInt8) : fromBigEndian bytes < 256 ^ bytes.length := by
  induction bytes using List.reverseRecOn with
  | nil => decide
  | append_singleton rest byte inductionHypothesis =>
    have byteBound := UInt8.toNat_lt byte
    rw [fromBigEndian_append_singleton, List.length_append, List.length_singleton, pow_succ]
    omega

/-- Leading zero bytes do not count. -/
theorem fromBigEndian_replicate_append (count : Nat) (bytes : List UInt8) :
    fromBigEndian (List.replicate count 0 ++ bytes) = fromBigEndian bytes := by
  induction count with
  | zero => rfl
  | succ count inductionHypothesis => exact inductionHypothesis

/-- Reading back a number written in enough bytes. -/
theorem fromBigEndian_toBigEndian (width value : Nat) (fits : value < 256 ^ width) :
    fromBigEndian (toBigEndian width value) = value := by
  induction width generalizing value with
  | zero => simpa [toBigEndian, fromBigEndian] using (Nat.lt_one_iff.mp fits).symm
  | succ width inductionHypothesis =>
    have quotient : value / 256 < 256 ^ width := by
      rw [Nat.div_lt_iff_lt_mul (by decide)]
      exact fits
    have digit : (UInt8.ofNat (value % 256)).toNat = value % 256 :=
      UInt8.toNat_ofNat_of_lt' (Nat.mod_lt _ (by decide))
    rw [toBigEndian, fromBigEndian_append_singleton, inductionHypothesis _ quotient, digit]
    exact Nat.div_add_mod' value 256

/-- The high bytes are the number without its low ones. -/
theorem toBigEndian_add (high low value : Nat) :
    toBigEndian (high + low) value =
      toBigEndian high (value / 256 ^ low) ++ toBigEndian low value := by
  induction low generalizing value with
  | zero => simp [toBigEndian]
  | succ low inductionHypothesis =>
    rw [← Nat.add_assoc, toBigEndian, inductionHypothesis, toBigEndian, List.append_assoc,
      Nat.div_div_eq_div_mul, pow_succ, Nat.mul_comm (256 ^ low)]

theorem toBigEndian_zero (width : Nat) : toBigEndian width 0 = List.replicate width 0 := by
  induction width with
  | zero => rfl
  | succ width inductionHypothesis =>
    rw [toBigEndian, Nat.zero_div, inductionHypothesis, List.replicate_succ']
    rfl

/-- Behind a leading one every byte counts. -/
theorem fromBigEndian_cons_one_injective :
    Function.Injective fun bytes : List UInt8 => fromBigEndian (1 :: bytes) := by
  have positive : ∀ bytes : List UInt8, 0 < fromBigEndian (1 :: bytes) := by
    intro bytes
    induction bytes using List.reverseRecOn with
    | nil => decide
    | append_singleton rest byte inductionHypothesis =>
      rw [← List.cons_append, fromBigEndian_append_singleton]
      omega
  have empty : fromBigEndian [1] = 1 := rfl
  intro first second same
  simp only at same
  induction first using List.reverseRecOn generalizing second with
  | nil =>
    rcases List.eq_nil_or_concat second with none | ⟨rest, byte, split⟩
    · exact none.symm
    · rw [split, List.concat_eq_append, ← List.cons_append, fromBigEndian_append_singleton,
        empty] at same
      have := positive rest
      omega
  | append_singleton rest byte inductionHypothesis =>
    rw [← List.cons_append, fromBigEndian_append_singleton] at same
    rcases List.eq_nil_or_concat second with none | ⟨other, last, split⟩
    · rw [none, empty] at same
      have := positive rest
      omega
    · rw [split, List.concat_eq_append, ← List.cons_append,
        fromBigEndian_append_singleton] at same
      have byteBound := UInt8.toNat_lt byte
      have lastBound := UInt8.toNat_lt last
      have sameByte : byte = last := UInt8.toNat_inj.mp (by omega)
      have sameRest : rest = other := inductionHypothesis (by omega)
      rw [split, List.concat_eq_append, sameRest, sameByte]

end DexArbitrage
