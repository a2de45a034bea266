/-
This file models how the router scales the splits of a hop to another input
amount, `scale_splits_for_input` in `src/router/mod.rs`, and compares it with
what the executor makes of the same splits when their hop receives that amount.

Both give the last split what the others leave. The router multiplies within
`u128` and cuts a product that does not fit, the executor multiplies exactly.
So they agree exactly when, for every split but the last, the part of the
product that is cut off holds no multiple of the configured total.
-/

import DexArbitrage.Contracts.HopAccounting
import DexArbitrage.Contracts.Profit
import DexArbitrage.Execution.TxBuilder
import DexArbitrage.Lib.Saturating

namespace DexArbitrage

/-! ### The scaled splits -/

/-- The loop over the splits, with the amount that has been assigned so far. -/
def scaleSplits (originalTotalIn newTotalIn : Nat) : List SplitPlan → Nat → List SplitPlan
  | [], _ => []
  | split :: rest, assigned =>
    let amountIn :=
      if rest.isEmpty then
        newTotalIn - assigned
      else
        saturatingMul u128Max newTotalIn split.amountIn / originalTotalIn
    let assigned := saturatingAdd u128Max assigned amountIn
    if 0 < amountIn then
      { split with amountIn } :: scaleSplits originalTotalIn newTotalIn rest assigned
    else
      scaleSplits originalTotalIn newTotalIn rest assigned

def scaleSplitsForInput (splits : List SplitPlan) (originalTotalIn newTotalIn : Nat) :
    List SplitPlan :=
  if splits = [] ∨ originalTotalIn = 0 ∨ newTotalIn = 0 then
    []
  else
    scaleSplits originalTotalIn newTotalIn splits 0

/-- The share of a split as the router computes it. -/
def cutShare (originalTotalIn newTotalIn part : Nat) : Nat :=
  min (newTotalIn * part) u128Max / originalTotalIn

/-- The splits with other amounts, without those that get nothing. -/
def withAmounts (splits : List SplitPlan) (amounts : List Nat) : List SplitPlan :=
  (List.zipWith (fun split amountIn => { split with amountIn }) splits amounts).filter
    fun split => 0 < split.amountIn

section Scale

variable {originalTotalIn newTotalIn : Nat}

theorem withAmounts_cons (split : SplitPlan) (splits : List SplitPlan) (amount : Nat)
    (amounts : List Nat) :
    withAmounts (split :: splits) (amount :: amounts) =
      if 0 < amount then
        { split with amountIn := amount } :: withAmounts splits amounts
      else
        withAmounts splits amounts := by
  simp only [withAmounts, List.zipWith_cons_cons, List.filter_cons, decide_eq_true_eq]

theorem amountIn_withAmounts {splits : List SplitPlan} {amounts : List Nat}
    (lengths : amounts.length = splits.length) :
    (withAmounts splits amounts).map SplitPlan.amountIn = amounts.filter (0 < ·) := by
  induction splits generalizing amounts with
  | nil =>
    rw [List.length_nil, List.length_eq_zero_iff] at lengths
    rw [lengths]
    rfl
  | cons split rest inductionHypothesis =>
    cases amounts with
    | nil => cases lengths
    | cons amount others =>
      rw [List.length_cons, List.length_cons, Nat.add_right_cancel_iff] at lengths
      rw [withAmounts_cons, List.filter_cons]
      by_cases positive : 0 < amount
      · rw [if_pos positive, if_pos (decide_eq_true positive), List.map_cons,
          inductionHypothesis lengths]
      · rw [if_neg positive, if_neg (by simpa using positive), inductionHypothesis lengths]

/-- The router shares the new amount in proportion to the configured ones. -/
theorem scaleSplits_eq (fits : newTotalIn ≤ u128Max) (splits : List SplitPlan)
    (assigned : Nat) :
    scaleSplits originalTotalIn newTotalIn splits assigned =
      withAmounts splits (shares (cutShare originalTotalIn newTotalIn)
        (splits.map SplitPlan.amountIn) (newTotalIn - assigned)) := by
  induction splits generalizing assigned with
  | nil => rfl
  | cons split rest inductionHypothesis =>
    have left : ∀ amount, newTotalIn - saturatingAdd u128Max assigned amount =
        newTotalIn - assigned - amount := by
      intro amount
      unfold saturatingAdd
      omega
    rw [scaleSplits]
    simp only [inductionHypothesis, left]
    cases rest with
    | nil => exact (withAmounts_cons split [] _ []).symm
    | cons next others => exact (withAmounts_cons split (next :: others) _ _).symm

theorem scaleSplitsForInput_eq {splits : List SplitPlan} (nonempty : splits ≠ [])
    (positive : 0 < originalTotalIn) (receives : 0 < newTotalIn) (fits : newTotalIn ≤ u128Max) :
    scaleSplitsForInput splits originalTotalIn newTotalIn =
      withAmounts splits (shares (cutShare originalTotalIn newTotalIn)
        (splits.map SplitPlan.amountIn) newTotalIn) := by
  rw [scaleSplitsForInput, if_neg (by simp [nonempty, positive.ne', receives.ne']),
    scaleSplits_eq fits, Nat.sub_zero]

theorem cutShare_le_floorShare (part : Nat) :
    cutShare originalTotalIn newTotalIn part ≤ floorShare originalTotalIn newTotalIn part := by
  unfold cutShare floorShare
  rw [Nat.mul_comm newTotalIn]
  exact Nat.div_le_div_right (Nat.min_le_left _ _)

theorem cutShare_eq_iff (positive : 0 < originalTotalIn) (part : Nat) :
    cutShare originalTotalIn newTotalIn part = floorShare originalTotalIn newTotalIn part ↔
      ∀ multiple, multiple * originalTotalIn ≤ newTotalIn * part →
        multiple * originalTotalIn ≤ u128Max := by
  unfold cutShare floorShare
  rw [Nat.mul_comm part]
  exact div_cut_numerator_iff _ _ _ positive

end Scale

/-! ### The splits of the executor -/

/-- A split without its minimum output, which the router computes anew. -/
def Split.withoutMinimum (split : Split) : Split :=
  { split with minAmountOut := 0 }

section Executor

variable {configuredInputSum expectedAvailable : Nat}

/-- Up to their minimums, the executor passes on the splits it was given with other amounts. -/
theorem withoutMinimum_of_copies {splits : List SplitPlan} {passed : List Split}
    (copies : List.Forall₂ (Adjusted configuredInputSum expectedAvailable)
      (splits.map encodeSplit) passed)
    (fits : ∀ split ∈ passed, split.amountIn < 2 ^ 256) :
    (passed.filter fun split => split.amountIn ≠ 0).map Split.withoutMinimum =
      (withAmounts splits (passed.map Split.amountIn)).map
        fun split => (encodeSplit split).withoutMinimum := by
  induction splits generalizing passed with
  | nil =>
    cases copies
    rfl
  | cons split rest inductionHypothesis =>
    obtain _ | ⟨first, others⟩ := copies
    rename_i copy passed
    rw [List.forall_mem_cons] at fits
    have head : copy.withoutMinimum =
        (encodeSplit { split with amountIn := copy.amountIn }).withoutMinimum := by
      have amount := saturatingU256_of_lt fits.1
      have same := first.copy
      unfold adjustSplit at same
      split at same
      · subst same
        simp only [Split.withoutMinimum, encodeSplit] at amount ⊢
        rw [amount]
      · rw [same]
        simp only [Split.withoutMinimum, encodeSplit, amount]
    rw [List.map_cons, withAmounts_cons]
    by_cases positive : 0 < copy.amountIn
    · rw [if_pos positive, List.filter_cons_of_pos (by simp [positive.ne']), List.map_cons,
        List.map_cons, head, inductionHypothesis others fits.2]
    · rw [if_neg positive, List.filter_cons_of_neg (by simp [Nat.eq_zero_of_not_pos positive]),
        inductionHypothesis others fits.2]

end Executor

/-! ### Agreement -/

/-- The router scales the splits to those that the executor executes when their hop receives the
new amount, and both spend all of it. -/
def SplitsAgree (splits : List SplitPlan) (originalTotalIn newTotalIn : Nat) : Prop :=
  ∃ executed, executedSplits originalTotalIn newTotalIn (splits.map encodeSplit) =
      .ok executed ∧
    (scaleSplitsForInput splits originalTotalIn newTotalIn).map
        (fun split => (encodeSplit split).withoutMinimum) = executed.map Split.withoutMinimum ∧
    ((scaleSplitsForInput splits originalTotalIn newTotalIn).map SplitPlan.amountIn).sum =
      newTotalIn ∧
    (executed.map Split.amountIn).sum = newTotalIn

/-- The splits of a hop that is configured for a total, in the ranges of their types. -/
structure ConfiguredSplits (splits : List SplitPlan) (originalTotalIn : Nat) : Prop where
  nonempty : splits ≠ []
  positive : ∀ split ∈ splits, 0 < split.amountIn
  sum : (splits.map SplitPlan.amountIn).sum = originalTotalIn
  fits : originalTotalIn ≤ u128Max
  minimums : ∀ split ∈ splits, split.minAmountOut ≤ u128Max

section Agreement

variable {splits : List SplitPlan} {originalTotalIn newTotalIn : Nat}

theorem ConfiguredSplits.amountIn_le (configured : ConfiguredSplits splits originalTotalIn)
    {split : SplitPlan} (member : split ∈ splits) : split.amountIn ≤ u128Max := by
  refine (List.le_sum_of_mem (List.mem_map_of_mem member)).trans ?_
  rw [configured.sum]
  exact configured.fits

theorem ConfiguredSplits.total_pos (configured : ConfiguredSplits splits originalTotalIn) :
    0 < originalTotalIn := by
  obtain ⟨first, rest, same⟩ := List.exists_cons_of_ne_nil configured.nonempty
  have member : first ∈ splits := same ▸ List.mem_cons_self
  rw [← configured.sum]
  exact (configured.positive first member).trans_le
    (List.le_sum_of_mem (List.mem_map_of_mem member))

/-- The contract is configured for the amounts of the plan. -/
theorem ConfiguredSplits.map_amountIn (configured : ConfiguredSplits splits originalTotalIn) :
    (splits.map encodeSplit).map Split.amountIn = splits.map SplitPlan.amountIn := by
  rw [List.map_map]
  refine List.map_congr_left fun split member => ?_
  exact saturatingU256_of_lt ((configured.amountIn_le member).trans_lt (by decide))

/-- Two amounts of the router fit into a word after they are multiplied. -/
theorem mul_lt_of_le_u128Max {left right : Nat} (leftFits : left ≤ u128Max)
    (rightFits : right ≤ u128Max) : left * right < 2 ^ 256 :=
  (Nat.mul_le_mul leftFits rightFits).trans_lt (by decide)

/-- The executor rescales the splits of the plan without an overflow. -/
theorem ConfiguredSplits.exists_rescaled (configured : ConfiguredSplits splits originalTotalIn)
    (fits : newTotalIn ≤ u128Max) :
    ∃ passed, rescaledSplits originalTotalIn newTotalIn (splits.map encodeSplit) newTotalIn =
      .ok passed := by
  by_cases same : originalTotalIn = newTotalIn
  · subst same
    refine ⟨_, rescaledSplits_self originalTotalIn ?_⟩
    rw [configured.map_amountIn, configured.sum]
  · refine rescaledSplits_of_fits configured.total_pos same ?_ ?_ ?_
    · refine covers_of_sum_eq ?_
      rw [configured.map_amountIn, configured.sum]
    · refine List.forall_mem_map.mpr fun split member => ?_
      refine mul_lt_of_le_u128Max ?_ fits
      exact (Nat.min_le_left _ _).trans (configured.amountIn_le member)
    · refine List.forall_mem_map.mpr fun split member => ?_
      refine mul_lt_of_le_u128Max ?_ fits
      exact (Nat.min_le_left _ _).trans (configured.minimums split member)

theorem amountIn_encoded {amounts : List Nat} (lengths : amounts.length = splits.length)
    (fit : ∀ amount ∈ amounts, amount < 2 ^ 256) :
    ((withAmounts splits amounts).map fun split => (encodeSplit split).withoutMinimum).map
        Split.amountIn = amounts.filter (0 < ·) := by
  have amountIn : (withAmounts splits amounts).map SplitPlan.amountIn = amounts.filter (0 < ·) :=
    amountIn_withAmounts lengths
  have same : ((withAmounts splits amounts).map fun split =>
      (encodeSplit split).withoutMinimum).map Split.amountIn =
        ((withAmounts splits amounts).map SplitPlan.amountIn).map saturatingU256 := by
    rw [List.map_map, List.map_map]
    rfl
  rw [same, amountIn, List.map_congr_left, List.map_id]
  intro amount member
  exact saturatingU256_of_lt (fit amount (List.mem_of_mem_filter member))

/-- The amounts of the plan, shared in some way. -/
theorem lt_of_mem_shares {share : Nat → Nat} {parts : List Nat}
    (sum : (shares share parts newTotalIn).sum = newTotalIn) (fits : newTotalIn ≤ u128Max) :
    ∀ amount ∈ shares share parts newTotalIn, amount < 2 ^ 256 := fun amount member =>
  (List.le_sum_of_mem member).trans_lt (sum.le.trans fits |>.trans_lt (by decide))

theorem sum_amountIn_withAmounts {amounts : List Nat} (lengths : amounts.length = splits.length) :
    ((withAmounts splits amounts).map SplitPlan.amountIn).sum = amounts.sum := by
  induction splits generalizing amounts with
  | nil =>
    rw [List.length_nil, List.length_eq_zero_iff] at lengths
    rw [lengths]
    rfl
  | cons split rest inductionHypothesis =>
    cases amounts with
    | nil => cases lengths
    | cons amount others =>
      rw [List.length_cons, List.length_cons, Nat.add_right_cancel_iff] at lengths
      rw [withAmounts_cons, List.sum_cons]
      by_cases positive : 0 < amount
      · rw [if_pos positive, List.map_cons, List.sum_cons, inductionHypothesis lengths]
      · rw [if_neg positive, inductionHypothesis lengths, Nat.eq_zero_of_not_pos positive,
          Nat.zero_add]

/-- The two sides agree exactly when the shares do, for every split but the last. -/
theorem ConfiguredSplits.agree_iff_shares (configured : ConfiguredSplits splits originalTotalIn)
    (receives : 0 < newTotalIn) (fits : newTotalIn ≤ u128Max) :
    SplitsAgree splits originalTotalIn newTotalIn ↔
      ∀ part ∈ (splits.map SplitPlan.amountIn).dropLast,
        cutShare originalTotalIn newTotalIn part = floorShare originalTotalIn newTotalIn part := by
  have positive := configured.total_pos
  have nonempty : splits.map SplitPlan.amountIn ≠ [] := by
    simpa using configured.nonempty
  have lengths : ∀ share : Nat → Nat,
      (shares share (splits.map SplitPlan.amountIn) newTotalIn).length = splits.length := by
    intro share
    rw [length_shares, List.length_map]
  have exactEnough : ((splits.map SplitPlan.amountIn).dropLast.map
      (floorShare originalTotalIn newTotalIn)).sum ≤ newTotalIn :=
    sum_floorShare_le ((covers_of_sum_eq configured.sum).of_le (List.dropLast_sublist _))
  have cutEnough : ((splits.map SplitPlan.amountIn).dropLast.map
      (cutShare originalTotalIn newTotalIn)).sum ≤ newTotalIn :=
    (List.sum_le_sum fun part _ => cutShare_le_floorShare part).trans exactEnough
  have exactSum := sum_shares nonempty exactEnough
  have cutSum := sum_shares nonempty cutEnough
  have scaled := scaleSplitsForInput_eq configured.nonempty positive receives fits
  obtain ⟨passed, rescaled⟩ := configured.exists_rescaled fits
  have passedOn := rescaled_of_sum_eq positive
    ((congrArg List.sum configured.map_amountIn).trans configured.sum) rescaled
  have amounts := passedOn.amounts
  rw [configured.map_amountIn] at amounts
  have executed := withoutMinimum_of_copies passedOn.copies fun split member =>
    lt_of_mem_shares exactSum fits _ (amounts ▸ List.mem_map_of_mem member)
  rw [amounts] at executed
  have succeeded : executedSplits originalTotalIn newTotalIn (splits.map encodeSplit) =
      .ok (passed.filter fun split => split.amountIn ≠ 0) := by
    rw [executedSplits, rescaled]
    rfl
  have exactFit := lt_of_mem_shares exactSum fits
  have cutFit := lt_of_mem_shares cutSum fits
  have leaves := floorShare_sum_lt positive receives configured.sum
    (List.forall_mem_map.mpr configured.positive)
  constructor
  · rintro ⟨others, sameExecuted, same, _, _⟩
    rw [succeeded] at sameExecuted
    cases sameExecuted
    rw [scaled, executed] at same
    have sameAmounts := congrArg (List.map Split.amountIn) same
    rw [amountIn_encoded (lengths _) cutFit, amountIn_encoded (lengths _) exactFit] at sameAmounts
    exact (filter_shares_eq_iff nonempty cutShare_le_floorShare leaves).mp sameAmounts
  · intro agree
    refine ⟨_, succeeded, ?_, ?_, ?_⟩
    · rw [scaled, executed, shares_eq nonempty, shares_eq nonempty, List.map_congr_left agree]
    · rw [scaled, sum_amountIn_withAmounts (lengths _), cutSum]
    · rw [sum_filter_amountIn, amounts, exactSum]

theorem ConfiguredSplits.agree_iff (configured : ConfiguredSplits splits originalTotalIn)
    (receives : 0 < newTotalIn) (fits : newTotalIn ≤ u128Max) :
    SplitsAgree splits originalTotalIn newTotalIn ↔
      ∀ split ∈ splits.dropLast, ∀ multiple,
        multiple * originalTotalIn ≤ newTotalIn * split.amountIn →
          multiple * originalTotalIn ≤ u128Max := by
  rw [configured.agree_iff_shares receives fits, ← List.map_dropLast, List.forall_mem_map]
  exact forall₂_congr fun split _ => cutShare_eq_iff configured.total_pos split.amountIn

/-- The router and the executor agree on the splits exactly when, for every split but the last, no
multiple of the configured total lies in the part of the product that the router cuts off. The
executed splits are what every run of the hop loop passes to the adapters. -/
theorem splitsAgree_iff {Foreign : Type} (external : External Foreign) (deployment : Deployment)
    (context : Context) (start : World Foreign)
    (configured : ConfiguredSplits splits originalTotalIn) (receives : 0 < newTotalIn)
    (fits : newTotalIn ≤ u128Max) :
    (Ensures (traceSplits external deployment context originalTotalIn newTotalIn
        (splits.map encodeSplit) newTotalIn 0) start fun outcome _ =>
      executedSplits originalTotalIn newTotalIn (splits.map encodeSplit) =
        .ok (outcome.2.map SplitTrace.split)) ∧
    (SplitsAgree splits originalTotalIn newTotalIn ↔
      ∀ split ∈ splits.dropLast, ∀ multiple,
        multiple * originalTotalIn ≤ newTotalIn * split.amountIn →
          multiple * originalTotalIn ≤ u128Max) := by
  refine ⟨?_, configured.agree_iff receives fits⟩
  refine (ensures_traceSplits context _ newTotalIn 0 start).mono fun outcome _ reached => ?_
  obtain ⟨⟨passed, rescaled, executed⟩, _⟩ := reached
  rw [executedSplits, rescaled, executed]
  rfl

end Agreement

/-! ### Amounts that are too large -/

/-- A split of the first pair. -/
def firstPairSplit (amountIn : Nat) : SplitPlan :=
  mixedSplit 20 tokenA tokenB amountIn 0

theorem configuredSplits_firstPair {first second total : Nat} (positiveFirst : 0 < first)
    (positiveSecond : 0 < second) (sum : first + second = total) (fits : total ≤ u128Max) :
    ConfiguredSplits [firstPairSplit first, firstPairSplit second] total where
  nonempty := List.cons_ne_nil _ _
  positive := by
    rw [List.forall_mem_cons, List.forall_mem_singleton]
    exact ⟨positiveFirst, positiveSecond⟩
  sum := sum
  fits := fits
  minimums := by
    rw [List.forall_mem_cons, List.forall_mem_singleton]
    exact ⟨Nat.zero_le _, Nat.zero_le _⟩

/-- The amounts of the repository's test. -/
theorem splitsAgree_threeAndSeven :
    SplitsAgree [firstPairSplit 3, firstPairSplit 7] 10 101 := by
  have configured : ConfiguredSplits [firstPairSplit 3, firstPairSplit 7] 10 :=
    configuredSplits_firstPair (by decide) (by decide) rfl (by decide)
  refine (splitsAgree_iff twoPairs sampleDeployment { sender := 3, timestamp := 0 } mixedWorld
    configured (by decide) (by decide)).2.mpr fun split member multiple below => ?_
  rw [List.mem_singleton.mp member] at below
  have atMost : multiple * 10 ≤ 101 * 3 := below
  exact atMost.trans (by decide)

/-- Two splits of 10 ^ 20 units each, in a hop that receives half of their sum: the product
10 ^ 40 exceeds `u128::MAX`, and the router gives the first split less than its half. -/
theorem not_splitsAgree_halved : ¬ ∀ splits originalTotalIn newTotalIn,
    ConfiguredSplits splits originalTotalIn → 0 < newTotalIn → newTotalIn ≤ u128Max →
      SplitsAgree splits originalTotalIn newTotalIn := by
  intro agree
  have configured : ConfiguredSplits [firstPairSplit (10 ^ 20), firstPairSplit (10 ^ 20)]
      (2 * 10 ^ 20) :=
    configuredSplits_firstPair (by decide) (by decide) (by decide) (by decide)
  have halved := agree _ _ (10 ^ 20) configured (by decide) (by decide)
  have kept := (configured.agree_iff (by decide) (by decide)).mp halved _
    List.mem_cons_self (10 ^ 20 / 2) (by decide)
  exact absurd kept (by decide)

end DexArbitrage
