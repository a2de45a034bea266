/-
This file is about values that spread in rounds. Each round offers values for
keys that are still unknown, by what was known when it began; what is known
already stays. So a value is learnt in one round only, and every value is the
one that this round offered.

The offer that is made when several estimates compete is their upper median,
which depends on the estimates but not on their order.
-/

import Mathlib.Data.Multiset.Sort
import Mathlib.Logic.Function.Iterate

namespace DexArbitrage

section Rounds

variable {Key Value : Type} (offers : (Key → Option Value) → Key → Option Value)

/-- What is known after a round. -/
def learn (known : Key → Option Value) : Key → Option Value :=
  fun key => (known key).or (offers known key)

def knownAfter (start : Key → Option Value) (rounds : Nat) : Key → Option Value :=
  (learn offers)^[rounds] start

variable {offers} {start known : Key → Option Value} {rounds later : Nat} {key : Key}
  {value : Value}

@[simp] theorem knownAfter_zero : knownAfter offers start 0 = start := rfl

theorem knownAfter_succ (start : Key → Option Value) (rounds : Nat) :
    knownAfter offers start (rounds + 1) = learn offers (knownAfter offers start rounds) :=
  Function.iterate_succ_apply' _ _ _

theorem learn_of_known (isKnown : known key = some value) :
    learn offers known key = some value := by
  simp [learn, isKnown]

theorem learn_of_unknown (isUnknown : known key = none) :
    learn offers known key = offers known key := by
  simp [learn, isUnknown]

/-- What is known stays known, with its value. -/
theorem knownAfter_of_le (isKnown : knownAfter offers start rounds key = some value)
    (ordered : rounds ≤ later) : knownAfter offers start later key = some value := by
  induction later, ordered using Nat.le_induction with
  | base => exact isKnown
  | succ later _ inductionHypothesis =>
    rw [knownAfter_succ]
    exact learn_of_known inductionHypothesis

theorem knownAfter_of_start (given : start key = some value) (rounds : Nat) :
    knownAfter offers start rounds key = some value := by
  have isKnown : knownAfter offers start 0 key = some value := given
  exact knownAfter_of_le isKnown (Nat.zero_le rounds)

/-- Once a round teaches nothing, the further ones teach nothing either. -/
theorem knownAfter_of_stable (stable : learn offers (knownAfter offers start rounds) =
    knownAfter offers start rounds) (ordered : rounds ≤ later) :
    knownAfter offers start later = knownAfter offers start rounds := by
  induction later, ordered using Nat.le_induction with
  | base => rfl
  | succ later _ inductionHypothesis => rw [knownAfter_succ, inductionHypothesis, stable]

end Rounds

section Median

variable {Value : Type} [LinearOrder Value]

/-- The middle one of the sorted values, and of two middle ones the larger. -/
def upperMedian (values : Multiset Value) : Option Value :=
  values.sort[values.card / 2]?

theorem upperMedian_coe (values : List Value) :
    upperMedian (values : Multiset Value) =
      (values.insertionSort (· ≤ ·))[values.length / 2]? := by
  have sorted : (values : Multiset Value).sort = values.insertionSort (· ≤ ·) := by
    refine List.Perm.eq_of_pairwise (fun left right _ _ => le_antisymm)
      (Multiset.pairwise_sort _ _) (List.pairwise_insertionSort _ _) ?_
    refine Multiset.coe_eq_coe.mp ?_
    rw [Multiset.sort_eq]
    exact (Multiset.coe_eq_coe.mpr (List.perm_insertionSort _ _)).symm
  rw [upperMedian, sorted, Multiset.coe_card]

@[simp] theorem upperMedian_zero : upperMedian (0 : Multiset Value) = none := by
  simp [upperMedian]

theorem upperMedian_isSome {values : Multiset Value} (nonempty : values ≠ 0) :
    (upperMedian values).isSome := by
  have positive : 0 < values.card := Multiset.card_pos.mpr nonempty
  simp [upperMedian, Nat.div_lt_self positive]

end Median

end DexArbitrage
