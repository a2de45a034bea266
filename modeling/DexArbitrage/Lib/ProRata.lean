/-
This file is the sharing of an amount in proportion to some parts: every part
but the last takes a share that is computed from it alone, and the last one
takes what remains. Shares that are rounded down leave enough for the last
part, so nothing is lost and nothing is spent twice.

How a share is computed is a parameter, so that two ways of computing it can be
compared: they divide an amount alike exactly when they agree on every part but
the last.
-/

import Mathlib.Algebra.Order.BigOperators.Group.List
import Mathlib.Algebra.Order.Group.Nat
import Mathlib.Algebra.Order.Ring.Int

namespace DexArbitrage

/-- Every part but the last takes its share; the last one takes what remains. -/
def shares (share : Nat → Nat) : List Nat → Nat → List Nat
  | [], _ => []
  | [_], remaining => [remaining]
  | part :: next :: rest, remaining =>
    share part :: shares share (next :: rest) (remaining - share part)

/-- The rounded-down share of a part in an amount that was planned as `total`. -/
def floorShare (total received part : Nat) : Nat :=
  part * received / total

/-- The remaining amount is enough for the exact shares of the remaining parts. -/
def Covers (total received : Nat) (parts : List Nat) (remaining : Nat) : Prop :=
  received * parts.sum ≤ remaining * total

section Shares

variable {share : Nat → Nat}

@[simp] theorem length_shares (parts : List Nat) (remaining : Nat) :
    (shares share parts remaining).length = parts.length := by
  induction parts generalizing remaining with
  | nil => rfl
  | cons part rest inductionHypothesis =>
    cases rest with
    | nil => rfl
    | cons next rest =>
      rw [shares, List.length_cons, inductionHypothesis, List.length_cons, List.length_cons,
        List.length_cons]

/-- The shares of all parts but the last, and what they leave. -/
theorem shares_eq {parts : List Nat} (nonempty : parts ≠ []) (remaining : Nat) :
    shares share parts remaining =
      parts.dropLast.map share ++ [remaining - (parts.dropLast.map share).sum] := by
  induction parts generalizing remaining with
  | nil => exact absurd rfl nonempty
  | cons part rest inductionHypothesis =>
    cases rest with
    | nil => rfl
    | cons next rest =>
      rw [shares, inductionHypothesis (List.cons_ne_nil next rest), List.dropLast_cons_cons,
        List.map_cons, List.sum_cons, List.cons_append, Nat.sub_sub]

theorem sum_shares {parts : List Nat} (nonempty : parts ≠ []) {remaining : Nat}
    (enough : (parts.dropLast.map share).sum ≤ remaining) :
    (shares share parts remaining).sum = remaining := by
  rw [shares_eq nonempty, List.sum_append, List.sum_singleton]
  exact Nat.add_sub_cancel' enough

end Shares

section Floor

variable {total received : Nat}

theorem covers_of_sum_eq {parts : List Nat} (sum : parts.sum = total) :
    Covers total received parts received := by
  unfold Covers
  rw [sum]

theorem floorShare_le_of_covers {part : Nat} {rest : List Nat}
    {remaining : Nat} (covers : Covers total received (part :: rest) remaining) :
    floorShare total received part ≤ remaining := by
  unfold Covers at covers
  rw [List.sum_cons, Nat.mul_add] at covers
  refine Nat.div_le_of_le_mul ?_
  rw [Nat.mul_comm part, Nat.mul_comm total]
  exact (Nat.le_add_right _ _).trans covers

/-- A rounded-down share leaves enough for the others. -/
theorem Covers.rest {part : Nat} {rest : List Nat} {remaining : Nat}
    (covers : Covers total received (part :: rest) remaining) :
    Covers total received rest (remaining - floorShare total received part) := by
  have taken : floorShare total received part * total ≤ received * part := by
    rw [Nat.mul_comm received]
    exact Nat.div_mul_le_self _ _
  unfold Covers at covers ⊢
  rw [List.sum_cons, Nat.mul_add] at covers
  rw [Nat.sub_mul]
  omega

theorem sum_floorShare_le {parts : List Nat} {remaining : Nat}
    (covers : Covers total received parts remaining) :
    (parts.map (floorShare total received)).sum ≤ remaining := by
  induction parts generalizing remaining with
  | nil => exact Nat.zero_le _
  | cons part rest inductionHypothesis =>
    have first := floorShare_le_of_covers covers
    have others := inductionHypothesis covers.rest
    rw [List.map_cons, List.sum_cons]
    omega

theorem Covers.of_le {parts fewer : List Nat} (sublist : fewer.Sublist parts) {remaining : Nat}
    (covers : Covers total received parts remaining) :
    Covers total received fewer remaining :=
  (Nat.mul_le_mul_left received (sublist.sum_le_sum fun _ _ => Nat.zero_le _)).trans covers

/-- The shares of parts that make up the total make up the amount that is shared. -/
theorem sum_shares_floorShare (positive : 0 < total) {parts : List Nat}
    (sum : parts.sum = total) :
    (shares (floorShare total received) parts received).sum = received := by
  have nonempty : parts ≠ [] := by
    rintro rfl
    exact positive.ne sum
  refine sum_shares nonempty (sum_floorShare_le ?_)
  exact (covers_of_sum_eq sum).of_le (List.dropLast_sublist parts)

theorem floorShare_self (positive : 0 < total) (part : Nat) :
    floorShare total total part = part :=
  Nat.mul_div_cancel part positive

/-- When as much is received as was planned, every part takes what was planned for it. -/
theorem shares_floorShare_self (positive : 0 < total) {parts : List Nat} {remaining : Nat}
    (sum : parts.sum = remaining) : shares (floorShare total total) parts remaining = parts := by
  induction parts generalizing remaining with
  | nil => rfl
  | cons part rest inductionHypothesis =>
    rw [List.sum_cons] at sum
    cases rest with
    | nil => rw [shares, ← sum, List.sum_nil, Nat.add_zero]
    | cons next rest =>
      have others : (next :: rest).sum = remaining - part := by omega
      rw [shares, floorShare_self positive, inductionHypothesis others]

/-- A positive last part takes something. -/
theorem floorShare_sum_lt (positive : 0 < total) (receives : 0 < received) {parts : List Nat}
    (sum : parts.sum = total) (positiveParts : ∀ part ∈ parts, 0 < part) :
    (parts.dropLast.map (floorShare total received)).sum < received := by
  have nonempty : parts ≠ [] := by
    rintro rfl
    exact positive.ne sum
  have split : parts.dropLast.sum + parts.getLast nonempty = total := by
    have whole := congrArg List.sum (List.dropLast_append_getLast nonempty)
    rwa [List.sum_append, List.sum_singleton, sum] at whole
  have last := positiveParts _ (List.getLast_mem nonempty)
  have fewer : parts.dropLast.sum < total := by omega
  have scaled : ∀ list : List Nat,
      (list.map (floorShare total received)).sum * total ≤ list.sum * received := by
    intro list
    induction list with
    | nil => rw [List.map_nil, List.sum_nil, Nat.zero_mul, Nat.zero_mul]
    | cons part rest inductionHypothesis =>
      rw [List.map_cons, List.sum_cons, List.sum_cons, Nat.add_mul, Nat.add_mul]
      exact Nat.add_le_add (Nat.div_mul_le_self _ _) inductionHypothesis
  have less : (parts.dropLast.map (floorShare total received)).sum * total < received * total := by
    refine (scaled _).trans_lt ?_
    rw [Nat.mul_comm received]
    exact Nat.mul_lt_mul_of_pos_right fewer receives
  exact Nat.lt_of_mul_lt_mul_right less

end Floor

/-! ### Two ways of computing a share -/

/-- When one way never gives more than the other, and the last part takes something under the
other, the positive shares are the same lists exactly when both ways agree on every part but the
last. -/
theorem filter_shares_eq_iff {share larger : Nat → Nat} {parts : List Nat}
    (nonempty : parts ≠ []) {amount : Nat} (below : ∀ part, share part ≤ larger part)
    (leaves : (parts.dropLast.map larger).sum < amount) :
    (shares share parts amount).filter (0 < ·) = (shares larger parts amount).filter (0 < ·) ↔
      ∀ part ∈ parts.dropLast, share part = larger part := by
  have sumBelow : ∀ list : List Nat, (list.map share).sum ≤ (list.map larger).sum := fun list =>
    List.sum_le_sum fun part _ => below part
  rw [shares_eq nonempty, shares_eq nonempty, List.filter_append, List.filter_append,
    List.filter_singleton, List.filter_singleton]
  have first : 0 < amount - (parts.dropLast.map share).sum :=
    Nat.sub_pos_of_lt ((sumBelow _).trans_lt leaves)
  have second : 0 < amount - (parts.dropLast.map larger).sum := Nat.sub_pos_of_lt leaves
  simp only [first, second, decide_true, cond_true]
  constructor
  · intro same
    have lasts := (List.append_singleton_inj.mp same).2
    have sums : (parts.dropLast.map share).sum = (parts.dropLast.map larger).sum := by
      have atMost := sumBelow parts.dropLast
      omega
    generalize parts.dropLast = list at sums
    induction list with
    | nil => exact fun part member => absurd member List.not_mem_nil
    | cons part rest inductionHypothesis =>
      rw [List.map_cons, List.map_cons, List.sum_cons, List.sum_cons] at sums
      have head := below part
      have tail := sumBelow rest
      refine List.forall_mem_cons.mpr ⟨by omega, inductionHypothesis (by omega)⟩
  · intro agree
    rw [List.map_congr_left agree]

end DexArbitrage
