/-
This file is the accounting of the executor's hop loop. The loop is run with a
record of the splits it passes to the adapters and of what it measures them to
pay out; forgetting the record gives back the loop.

A hop that receives another amount than it was configured for shares it among
its splits in proportion to their configured inputs, and the last split takes
what remains. So what is passed on is always exactly what is available, the
subtraction in that branch never underflows, and whatever a pool or a token
does can only change what is measured.
-/

import DexArbitrage.Contracts.Executor
import DexArbitrage.Lib.ProRata

namespace DexArbitrage

/-! ### The recorded loop -/

/-- A split as it was passed to its adapter, and what it was measured to pay out. -/
structure SplitTrace where
  split : Split
  amountOut : Nat

/-- What a hop had available, and what it passed on. -/
structure HopTrace where
  expectedAvailable : Nat
  executed : List SplitTrace

def HopTrace.output (trace : HopTrace) : Nat :=
  (trace.executed.map SplitTrace.amountOut).sum

section Trace

variable {Foreign : Type} (external : External Foreign) (deployment : Deployment)

/-- `executeSplits`, with a record of the executed splits. -/
def traceSplits (context : Context) (configuredInputSum expectedAvailable : Nat) :
    List Split → Nat → Nat → Evm Foreign (Nat × List SplitTrace)
  | [], _, hopOutputSum => pure (hopOutputSum, [])
  | split :: rest, remainingInput, hopOutputSum => do
    let (split, remainingInput) ←
      attempt (rescaleSplit configuredInputSum expectedAvailable remainingInput rest.isEmpty split)
    if split.amountIn = 0 then
      traceSplits context configuredInputSum expectedAvailable rest remainingInput hopOutputSum
    else
      let amountOut ← executeSplit external deployment context split
      require (split.minAmountOut ≤ amountOut) "SPLIT_SLIPPAGE"
      let hopOutputSum ← attempt (checkedAdd hopOutputSum amountOut)
      let (total, executed) ← traceSplits context configuredInputSum expectedAvailable rest
        remainingInput hopOutputSum
      return (total, { split, amountOut } :: executed)

/-- `executeHops`, with a record of the hops. -/
def traceHops (context : Context) : List Hop → Address → Nat →
    Evm Foreign ((Address × Nat) × List HopTrace)
  | [], currentToken, expectedAvailable => pure ((currentToken, expectedAvailable), [])
  | hop :: rest, currentToken, expectedAvailable =>
    match hop.splits with
    | [] => throw "EMPTY_HOP"
    | first :: _ => do
      let nextToken := first.tokenOut
      let configuredInputSum ← attempt (configuredInput currentToken nextToken hop.splits 0)
      require (0 < configuredInputSum) "ZERO_HOP_INPUT"
      let (hopOutputSum, executed) ← traceSplits external deployment context configuredInputSum
        expectedAvailable hop.splits expectedAvailable 0
      require (0 < hopOutputSum) "ZERO_HOP_OUTPUT"
      let (result, traces) ← traceHops context rest nextToken hopOutputSum
      return (result, { expectedAvailable, executed } :: traces)

variable {external deployment}

/-- Forgetting the record gives back the inner loop. -/
theorem map_fst_traceSplits (context : Context) (configuredInputSum expectedAvailable : Nat)
    (splits : List Split) (remainingInput hopOutputSum : Nat) :
    Prod.fst <$> traceSplits external deployment context configuredInputSum expectedAvailable
        splits remainingInput hopOutputSum =
      executeSplits external deployment context configuredInputSum expectedAvailable splits
        remainingInput hopOutputSum := by
  induction splits generalizing remainingInput hopOutputSum with
  | nil => rfl
  | cons split rest inductionHypothesis =>
    unfold traceSplits executeSplits
    rw [map_bind]
    refine congrArg (attempt _ >>= ·) (funext fun adjusted => ?_)
    obtain ⟨scaled, left⟩ := adjusted
    simp only
    split
    · exact inductionHypothesis left hopOutputSum
    · simp only [← inductionHypothesis, ← bind_pure_comp, bind_assoc, pure_bind]

/-- Forgetting the record gives back the outer loop. -/
theorem map_fst_traceHops (context : Context) (hops : List Hop) (currentToken : Address)
    (expectedAvailable : Nat) :
    Prod.fst <$> traceHops external deployment context hops currentToken expectedAvailable =
      executeHops external deployment context hops currentToken expectedAvailable := by
  induction hops generalizing currentToken expectedAvailable with
  | nil => rfl
  | cons hop rest inductionHypothesis =>
    unfold traceHops executeHops
    cases hop.splits with
    | nil => rfl
    | cons first others =>
      simp only [← inductionHypothesis, ← map_fst_traceSplits, ← bind_pure_comp, bind_assoc,
        pure_bind]

end Trace

/-! ### Rescaling -/

/-- The copy of a split that receives an amount. -/
def adjustSplit (configuredInputSum expectedAvailable : Nat) (split : Split) (amount : Nat) :
    Split :=
  if configuredInputSum = expectedAvailable then
    split
  else
    { split with
      amountIn := amount
      minAmountOut :=
        if split.amountIn = 0 then 0 else split.minAmountOut * amount / split.amountIn }

/-- What a split receives when its hop is rescaled. -/
def receivedAmount (configuredInputSum expectedAvailable remainingInput : Nat) (last : Bool)
    (split : Split) : Nat :=
  if last then
    remainingInput
  else
    floorShare configuredInputSum expectedAvailable split.amountIn

/-- The checked operations of a rescaling stay within a word. -/
structure RescaleFits (configuredInputSum expectedAvailable remainingInput : Nat) (last : Bool)
    (split : Split) : Prop where
  product : last = false → split.amountIn * expectedAvailable < 2 ^ 256
  available : last = false →
    floorShare configuredInputSum expectedAvailable split.amountIn ≤ remainingInput
  minimum : split.amountIn ≠ 0 → split.minAmountOut *
    receivedAmount configuredInputSum expectedAvailable remainingInput last split < 2 ^ 256

section Rescale

variable {configuredInputSum expectedAvailable : Nat}

theorem amountIn_adjustSplit (rescaled : configuredInputSum ≠ expectedAvailable) (split : Split)
    (amount : Nat) :
    (adjustSplit configuredInputSum expectedAvailable split amount).amountIn = amount := by
  rw [adjustSplit, if_neg rescaled]

theorem adjustSplit_self (total : Nat) (split : Split) (amount : Nat) :
    adjustSplit total total split amount = split :=
  if_pos rfl

/-- Rescaling a split that is not needed as configured succeeds exactly when its checked
operations stay within a word. -/
theorem rescaleSplit_eq_ok_iff (positive : 0 < configuredInputSum)
    (rescaled : configuredInputSum ≠ expectedAvailable) {remainingInput : Nat} {last : Bool}
    {split : Split} {outcome : Split × Nat} :
    rescaleSplit configuredInputSum expectedAvailable remainingInput last split = .ok outcome ↔
      RescaleFits configuredInputSum expectedAvailable remainingInput last split ∧
        outcome = (adjustSplit configuredInputSum expectedAvailable split
            (receivedAmount configuredInputSum expectedAvailable remainingInput last split),
          if last then remainingInput
          else remainingInput - floorShare configuredInputSum expectedAvailable split.amountIn) :=
    by
  have fits_iff : RescaleFits configuredInputSum expectedAvailable remainingInput last split ↔
      (last = false → split.amountIn * expectedAvailable < 2 ^ 256) ∧
      (last = false →
        floorShare configuredInputSum expectedAvailable split.amountIn ≤ remainingInput) ∧
      (split.amountIn ≠ 0 → split.minAmountOut * receivedAmount configuredInputSum
        expectedAvailable remainingInput last split < 2 ^ 256) :=
    ⟨fun fits => ⟨fits.product, fits.available, fits.minimum⟩,
      fun fits => ⟨fits.1, fits.2.1, fits.2.2⟩⟩
  rw [fits_iff, adjustSplit, if_neg rescaled]
  unfold rescaleSplit receivedAmount floorShare
  rw [if_pos rescaled]
  cases last with
  | true =>
    by_cases unused : split.amountIn = 0
    · simp [unused, ok_bind, pure, Except.pure, eq_comm]
    · simp only [if_true, pure_bind, if_neg unused, checkedMul, checked_bind_eq_ok_iff,
        checkedDiv_of_pos (Nat.pos_of_ne_zero unused), ok_bind]
      simp [unused, pure, Except.pure, eq_comm]
  | false =>
    simp only [Bool.false_eq_true, if_false, checkedMul, checkedSub, checkedDiv_of_pos positive,
      checked_bind_eq_ok_iff, ok_bind, pure_bind]
    by_cases unused : split.amountIn = 0
    · simp [unused, pure, Except.pure, eq_comm]
    · simp only [if_neg unused, checked_bind_eq_ok_iff,
        checkedDiv_of_pos (Nat.pos_of_ne_zero unused), ok_bind]
      simp [unused, pure, Except.pure, eq_comm, and_assoc]

/-- A split that is needed as configured is passed on as it is. -/
theorem rescaleSplit_self (total remainingInput : Nat) (last : Bool) (split : Split) :
    rescaleSplit total total remainingInput last split =
      (do return (split, ← checkedSub remainingInput split.amountIn)) := by
  rw [rescaleSplit, if_neg (not_not_intro rfl)]

end Rescale

/-! ### The splits that are passed on -/

/-- What the second inner loop makes of the splits, zero amounts included. -/
def rescaledSplits (configuredInputSum expectedAvailable : Nat) :
    List Split → Nat → Except Revert (List Split)
  | [], _ => .ok []
  | split :: rest, remainingInput => do
    let (passed, remainingInput) ←
      rescaleSplit configuredInputSum expectedAvailable remainingInput rest.isEmpty split
    return passed :: (← rescaledSplits configuredInputSum expectedAvailable rest remainingInput)

/-- The splits of a hop that are executed when it receives an amount. -/
def executedSplits (configuredInputSum expectedAvailable : Nat) (splits : List Split) :
    Except Revert (List Split) :=
  (rescaledSplits configuredInputSum expectedAvailable splits expectedAvailable).map
    fun passed => passed.filter fun split => split.amountIn ≠ 0

/-- A split and the copy of it that is passed on. -/
structure Adjusted (configuredInputSum expectedAvailable : Nat) (split passed : Split) :
    Prop where
  copy : passed = adjustSplit configuredInputSum expectedAvailable split passed.amountIn
  minimum : configuredInputSum ≠ expectedAvailable → split.amountIn ≠ 0 →
    split.minAmountOut * passed.amountIn < 2 ^ 256

/-- The splits are passed on with their shares of the amount that remains. -/
structure Rescaled (configuredInputSum expectedAvailable : Nat) (splits : List Split)
    (remainingInput : Nat) (passed : List Split) : Prop where
  amounts : passed.map Split.amountIn = shares (floorShare configuredInputSum expectedAvailable)
    (splits.map Split.amountIn) remainingInput
  copies : List.Forall₂ (Adjusted configuredInputSum expectedAvailable) splits passed
  products : configuredInputSum ≠ expectedAvailable →
    ∀ split ∈ splits.dropLast, split.amountIn * expectedAvailable < 2 ^ 256

section RescaledSplits

variable {configuredInputSum expectedAvailable : Nat}

theorem rescaledSplits_cons_eq_ok_iff {split : Split} {rest : List Split} {remainingInput : Nat}
    {passed : List Split} :
    rescaledSplits configuredInputSum expectedAvailable (split :: rest) remainingInput =
        .ok passed ↔
      ∃ copy left others, rescaleSplit configuredInputSum expectedAvailable remainingInput
          rest.isEmpty split = .ok (copy, left) ∧
        rescaledSplits configuredInputSum expectedAvailable rest left = .ok others ∧
        passed = copy :: others := by
  rw [rescaledSplits]
  cases rescaleSplit configuredInputSum expectedAvailable remainingInput rest.isEmpty split with
  | error reason => simp [bind, Except.bind]
  | ok adjusted =>
    obtain ⟨copy, left⟩ := adjusted
    rw [ok_bind]
    dsimp only
    cases others? : rescaledSplits configuredInputSum expectedAvailable rest left with
    | error reason => simp [others?, bind, Except.bind]
    | ok others => simp [others?, ok_bind, pure, Except.pure, eq_comm]

theorem rescaled_of_ok (positive : 0 < configuredInputSum)
    (rescaled : configuredInputSum ≠ expectedAvailable) {splits : List Split}
    {remainingInput : Nat} {passed : List Split}
    (succeeded : rescaledSplits configuredInputSum expectedAvailable splits remainingInput =
      .ok passed) :
    Rescaled configuredInputSum expectedAvailable splits remainingInput passed := by
  induction splits generalizing remainingInput passed with
  | nil =>
    cases succeeded
    exact ⟨rfl, List.Forall₂.nil, fun _ _ member => absurd member List.not_mem_nil⟩
  | cons split rest inductionHypothesis =>
    obtain ⟨copy, left, others, adjusted, continued, rfl⟩ :=
      rescaledSplits_cons_eq_ok_iff.mp succeeded
    obtain ⟨fits, same⟩ := (rescaleSplit_eq_ok_iff positive rescaled).mp adjusted
    rw [Prod.mk.injEq] at same
    have ofRest := inductionHypothesis continued
    have amount : copy.amountIn = receivedAmount configuredInputSum expectedAvailable
        remainingInput rest.isEmpty split := by
      rw [same.1, amountIn_adjustSplit rescaled]
    have first : Adjusted configuredInputSum expectedAvailable split copy := by
      refine ⟨?_, fun _ used => ?_⟩
      · rw [amount]
        exact same.1
      · rw [amount]
        exact fits.minimum used
    refine ⟨?_, List.Forall₂.cons first ofRest.copies, fun _ => ?_⟩
    · rw [List.map_cons, List.map_cons, amount, ofRest.amounts, same.2]
      cases rest with
      | nil => rfl
      | cons next others => rfl
    · cases rest with
      | nil => exact fun _ member => absurd member List.not_mem_nil
      | cons next others =>
        rw [List.dropLast_cons_cons, List.forall_mem_cons]
        exact ⟨fits.product rfl, ofRest.products rescaled⟩

/-- Splits that are needed as configured are passed on as they are. -/
theorem rescaledSplits_self (total : Nat) {splits : List Split} {remainingInput : Nat}
    (sum : (splits.map Split.amountIn).sum = remainingInput) :
    rescaledSplits total total splits remainingInput = .ok splits := by
  induction splits generalizing remainingInput with
  | nil => rfl
  | cons split rest inductionHypothesis =>
    rw [List.map_cons, List.sum_cons] at sum
    have others : (rest.map Split.amountIn).sum = remainingInput - split.amountIn := by omega
    rw [rescaledSplits, rescaleSplit_self, checkedSub_of_le (by omega)]
    simp only [ok_bind, pure_bind, inductionHypothesis others]
    rfl

theorem rescaled_self {total : Nat} (positive : 0 < total) {splits : List Split}
    {remainingInput : Nat} (sum : (splits.map Split.amountIn).sum = remainingInput) :
    Rescaled total total splits remainingInput splits := by
  refine ⟨(shares_floorShare_self positive sum).symm, ?_, fun differ => absurd rfl differ⟩
  refine List.forall₂_same.mpr fun split _ => ?_
  exact ⟨(adjustSplit_self total split _).symm, fun differ => absurd rfl differ⟩

theorem rescaled_of_sum_eq (positive : 0 < configuredInputSum) {splits : List Split}
    {passed : List Split}
    (planned : (splits.map Split.amountIn).sum = configuredInputSum)
    (succeeded : rescaledSplits configuredInputSum expectedAvailable splits expectedAvailable =
      .ok passed) :
    Rescaled configuredInputSum expectedAvailable splits expectedAvailable passed := by
  by_cases same : configuredInputSum = expectedAvailable
  · subst same
    rw [rescaledSplits_self configuredInputSum planned] at succeeded
    cases succeeded
    exact rescaled_self positive planned
  · exact rescaled_of_ok positive same succeeded

/-- Rescaling goes through when what is left covers the shares and the products fit. -/
theorem rescaledSplits_of_fits (positive : 0 < configuredInputSum)
    (rescaled : configuredInputSum ≠ expectedAvailable) {splits : List Split}
    {remainingInput : Nat}
    (covers : Covers configuredInputSum expectedAvailable (splits.map Split.amountIn)
      remainingInput)
    (products : ∀ split ∈ splits, split.amountIn * expectedAvailable < 2 ^ 256)
    (minimums : ∀ split ∈ splits, split.minAmountOut * remainingInput < 2 ^ 256) :
    ∃ passed, rescaledSplits configuredInputSum expectedAvailable splits remainingInput =
      .ok passed := by
  induction splits generalizing remainingInput with
  | nil => exact ⟨[], rfl⟩
  | cons split rest inductionHypothesis =>
    have enough := floorShare_le_of_covers covers
    have atMost : receivedAmount configuredInputSum expectedAvailable remainingInput rest.isEmpty
        split ≤ remainingInput := by
      unfold receivedAmount
      split
      · exact le_rfl
      · exact enough
    have fits : RescaleFits configuredInputSum expectedAvailable remainingInput rest.isEmpty
        split := by
      refine ⟨fun _ => products split List.mem_cons_self, fun _ => enough, fun _ => ?_⟩
      exact (Nat.mul_le_mul_left _ atMost).trans_lt (minimums split List.mem_cons_self)
    have adjusted := (rescaleSplit_eq_ok_iff positive rescaled).mpr ⟨fits, rfl⟩
    cases rest with
    | nil => exact ⟨_, rescaledSplits_cons_eq_ok_iff.mpr ⟨_, _, [], adjusted, rfl, rfl⟩⟩
    | cons next others =>
      obtain ⟨passed, continued⟩ := inductionHypothesis covers.rest
        (fun later member => products later (List.mem_cons_of_mem _ member))
        (fun later member => (Nat.mul_le_mul_left _ (Nat.sub_le _ _)).trans_lt
          (minimums later (List.mem_cons_of_mem _ member)))
      exact ⟨_, rescaledSplits_cons_eq_ok_iff.mpr ⟨_, _, passed, adjusted, continued, rfl⟩⟩

/-- What is passed on makes up the amount that was available. -/
theorem Rescaled.sum (positive : 0 < configuredInputSum) {splits : List Split}
    {passed : List Split}
    (planned : (splits.map Split.amountIn).sum = configuredInputSum)
    (passedOn : Rescaled configuredInputSum expectedAvailable splits expectedAvailable passed) :
    (passed.map Split.amountIn).sum = expectedAvailable := by
  rw [passedOn.amounts]
  exact sum_shares_floorShare positive planned

end RescaledSplits

/-! ### The accounting of a hop -/

/-- The accounting of a completed hop. -/
structure HopAccounted (hop : Hop) (trace : HopTrace) : Prop where
  inputs : (trace.executed.map fun executed => executed.split.amountIn).sum =
    trace.expectedAvailable
  passed : ∃ passed, Rescaled (hop.splits.map Split.amountIn).sum trace.expectedAvailable
      hop.splits trace.expectedAvailable passed ∧
    trace.executed.map SplitTrace.split = passed.filter fun split => split.amountIn ≠ 0
  slippage : ∀ executed ∈ trace.executed, executed.split.minAmountOut ≤ executed.amountOut
  configured : (hop.splits.map Split.amountIn).sum < 2 ^ 256
  received : trace.output < 2 ^ 256

/-- Each hop of a run is accounted for, and the next one has available what it was measured to
pay out. -/
inductive HopsAccounted : List Hop → Nat → List HopTrace → Nat → Prop
  | nil (expectedAvailable : Nat) : HopsAccounted [] expectedAvailable [] expectedAvailable
  | cons {hop : Hop} {rest : List Hop} {trace : HopTrace} {traces : List HopTrace}
      {finalAvailable : Nat} (accounted : HopAccounted hop trace)
      (others : HopsAccounted rest trace.output traces finalAvailable) :
      HopsAccounted (hop :: rest) trace.expectedAvailable (trace :: traces) finalAvailable

/-- What is left of the input after some splits, none of which is the last. -/
def remainingAfter (configuredInputSum expectedAvailable : Nat) (splits : List Split) :
    Except Revert Nat :=
  splits.foldlM (fun remainingInput split =>
    Prod.snd <$> rescaleSplit configuredInputSum expectedAvailable remainingInput false split)
    expectedAvailable

/-- Wherever a rescaling loop arrives, enough is left for the share of the next split. -/
def NeverUnderflows (hop : Hop) : Prop :=
  ∀ currentToken nextToken configuredInputSum,
    configuredInput currentToken nextToken hop.splits 0 = .ok configuredInputSum →
    ∀ expectedAvailable, configuredInputSum ≠ expectedAvailable →
    ∀ before split rest, hop.splits = before ++ split :: rest →
    ∀ remainingInput,
      remainingAfter configuredInputSum expectedAvailable before = .ok remainingInput →
      split.amountIn * expectedAvailable / configuredInputSum ≤ remainingInput

section Accounting

variable {Foreign : Type} {external : External Foreign} {deployment : Deployment}

theorem configuredInput_eq_ok {currentToken nextToken : Address} {splits : List Split}
    {start configuredInputSum : Nat}
    (succeeded : configuredInput currentToken nextToken splits start = .ok configuredInputSum) :
    configuredInputSum = start + (splits.map Split.amountIn).sum ∧
      (start < 2 ^ 256 → configuredInputSum < 2 ^ 256) := by
  induction splits generalizing start with
  | nil =>
    cases succeeded
    exact ⟨rfl, id⟩
  | cons split rest inductionHypothesis =>
    by_cases tokenIn : split.tokenIn = currentToken
    · by_cases tokenOut : split.tokenOut = nextToken
      · rw [configuredInput, if_neg (not_not_intro tokenIn), if_neg (not_not_intro tokenOut)]
          at succeeded
        obtain ⟨fits, continued⟩ := checked_bind_eq_ok_iff.mp succeeded
        obtain ⟨total, bounded⟩ := inductionHypothesis continued
        refine ⟨?_, fun _ => bounded fits⟩
        rw [total, List.map_cons, List.sum_cons, Nat.add_assoc]
      · rw [configuredInput, if_neg (not_not_intro tokenIn), if_pos tokenOut] at succeeded
        cases succeeded
    · rw [configuredInput, if_pos tokenIn] at succeeded
      cases succeeded

/-- What the second inner loop executes is what rescaling makes of the splits. -/
theorem ensures_traceSplits (context : Context) {configuredInputSum expectedAvailable : Nat}
    (splits : List Split) (remainingInput hopOutputSum : Nat) (start : World Foreign) :
    Ensures (traceSplits external deployment context configuredInputSum expectedAvailable splits
        remainingInput hopOutputSum) start fun outcome _ =>
      (∃ passed, rescaledSplits configuredInputSum expectedAvailable splits remainingInput =
          .ok passed ∧
        outcome.2.map SplitTrace.split = passed.filter fun split => split.amountIn ≠ 0) ∧
      (∀ executed ∈ outcome.2, executed.split.minAmountOut ≤ executed.amountOut) ∧
      outcome.1 = hopOutputSum + (outcome.2.map SplitTrace.amountOut).sum ∧
      (hopOutputSum < 2 ^ 256 → outcome.1 < 2 ^ 256) := by
  induction splits generalizing remainingInput hopOutputSum start with
  | nil =>
    simp only [traceSplits, ensures_pure]
    exact ⟨⟨[], rfl, rfl⟩, fun _ member => absurd member List.not_mem_nil, rfl, id⟩
  | cons split rest inductionHypothesis =>
    unfold traceSplits
    simp only [ensures_bind, ensures_attempt]
    rintro ⟨copy, left⟩ adjusted
    dsimp only
    by_cases skipped : copy.amountIn = 0
    · rw [if_pos skipped]
      refine (inductionHypothesis left hopOutputSum start).mono fun outcome finish reached => ?_
      obtain ⟨⟨passed, continued, executed⟩, others⟩ := reached
      refine ⟨⟨copy :: passed, ?_, ?_⟩, others⟩
      · exact rescaledSplits_cons_eq_ok_iff.mpr ⟨copy, left, passed, adjusted, continued, rfl⟩
      · rw [executed, List.filter_cons_of_neg (by simp [skipped])]
    · rw [if_neg skipped]
      simp only [ensures_bind, ensures_attempt, ensures_require, ensures_pure]
      intro amountOut middle _ enough sum added
      refine (inductionHypothesis left sum middle).mono fun outcome finish reached => ?_
      obtain ⟨⟨passed, continued, executed⟩, slippage, total, bounded⟩ := reached
      refine ⟨⟨copy :: passed, ?_, ?_⟩, ?_, ?_, fun _ => ?_⟩
      · exact rescaledSplits_cons_eq_ok_iff.mpr ⟨copy, left, passed, adjusted, continued, rfl⟩
      · rw [List.map_cons, executed, List.filter_cons_of_pos (by simp [skipped])]
      · exact List.forall_mem_cons.mpr ⟨enough, slippage⟩
      · rw [total, checkedAdd_eq_ok added, List.map_cons, List.sum_cons, Nat.add_assoc]
      · exact bounded (checkedAdd_lt added)

/-- Splits that receive nothing do not change a sum of amounts. -/
theorem sum_filter_amountIn (splits : List Split) :
    ((splits.filter fun split => split.amountIn ≠ 0).map Split.amountIn).sum =
      (splits.map Split.amountIn).sum := by
  induction splits with
  | nil => rfl
  | cons split rest inductionHypothesis =>
    by_cases unused : split.amountIn = 0
    · rw [List.filter_cons_of_neg (by simp [unused]), inductionHypothesis, List.map_cons,
        List.sum_cons, unused, Nat.zero_add]
    · rw [List.filter_cons_of_pos (by simp [unused]), List.map_cons, List.map_cons,
        List.sum_cons, List.sum_cons, inductionHypothesis]

theorem ensures_traceHops (context : Context) (hops : List Hop) (currentToken : Address)
    (expectedAvailable : Nat) (start : World Foreign) :
    Ensures (traceHops external deployment context hops currentToken expectedAvailable) start
      fun outcome _ => HopsAccounted hops expectedAvailable outcome.2 outcome.1.2 := by
  induction hops generalizing currentToken expectedAvailable start with
  | nil =>
    simp only [traceHops, ensures_pure]
    exact .nil expectedAvailable
  | cons hop rest inductionHypothesis =>
    unfold traceHops
    split
    · simp only [ensures_throw]
    · simp only [ensures_bind, ensures_attempt, ensures_require, ensures_pure]
      intro configuredInputSum planned positive
      refine (ensures_traceSplits context hop.splits expectedAvailable 0 start).mono ?_
      intro spent middle reached _
      refine (inductionHypothesis _ spent.1 middle).mono fun outcome finish others => ?_
      obtain ⟨⟨passed, rescaled, executed⟩, slippage, total, bounded⟩ := reached
      obtain ⟨sum, fits⟩ := configuredInput_eq_ok planned
      rw [Nat.zero_add] at sum total
      subst sum
      have passedOn := rescaled_of_sum_eq positive rfl rescaled
      have accounted : HopAccounted hop ⟨expectedAvailable, spent.2⟩ := by
        refine ⟨?_, ⟨passed, passedOn, executed⟩, slippage, fits (Nat.two_pow_pos 256), ?_⟩
        · have amounts := congrArg (fun splits => (splits.map Split.amountIn).sum) executed
          rw [List.map_map, sum_filter_amountIn, passedOn.sum positive rfl] at amounts
          exact amounts
        · rw [HopTrace.output, ← total]
          exact bounded (Nat.two_pow_pos 256)
      refine .cons accounted ?_
      rw [HopTrace.output, ← total]
      exact others

/-- A run over the first hops, and then over the others. -/
theorem executeHops_append (context : Context) (hops others : List Hop) (currentToken : Address)
    (expectedAvailable : Nat) :
    executeHops external deployment context (hops ++ others) currentToken expectedAvailable =
      (do
        let (currentToken, expectedAvailable) ←
          executeHops external deployment context hops currentToken expectedAvailable
        executeHops external deployment context others currentToken expectedAvailable) := by
  induction hops generalizing currentToken expectedAvailable with
  | nil => rfl
  | cons hop rest inductionHypothesis =>
    rw [List.cons_append, executeHops, executeHops]
    cases hop.splits with
    | nil => rfl
    | cons first more => simp only [inductionHypothesis, bind_assoc]

/-- What is left after the first splits covers the shares of the others. -/
theorem covers_of_remainingAfter {configuredInputSum expectedAvailable : Nat}
    (positive : 0 < configuredInputSum) (rescaled : configuredInputSum ≠ expectedAvailable)
    {before rest : List Split} {start remainingInput : Nat}
    (covers : Covers configuredInputSum expectedAvailable
      ((before ++ rest).map Split.amountIn) start)
    (reached : before.foldlM (fun remainingInput split => Prod.snd <$>
      rescaleSplit configuredInputSum expectedAvailable remainingInput false split) start =
        .ok remainingInput) :
    Covers configuredInputSum expectedAvailable (rest.map Split.amountIn) remainingInput := by
  induction before generalizing start with
  | nil =>
    cases reached
    exact covers
  | cons split others inductionHypothesis =>
    rw [List.foldlM_cons] at reached
    cases adjusted :
        rescaleSplit configuredInputSum expectedAvailable start false split with
    | error reason =>
      rw [adjusted] at reached
      cases reached
    | ok outcome =>
      rw [adjusted] at reached
      obtain ⟨_, rfl⟩ := (rescaleSplit_eq_ok_iff positive rescaled).mp adjusted
      exact inductionHypothesis covers.rest reached

theorem neverUnderflows (hop : Hop) : NeverUnderflows hop := by
  intro currentToken nextToken configuredInputSum planned expectedAvailable rescaled before split
    rest splits remainingInput reached
  obtain ⟨sum, _⟩ := configuredInput_eq_ok planned
  rw [Nat.zero_add] at sum
  rcases Nat.eq_zero_or_pos configuredInputSum with zero | positive
  · rw [zero, Nat.div_zero]
    exact Nat.zero_le _
  · have covers := covers_of_remainingAfter positive rescaled
      (covers_of_sum_eq (splits ▸ sum.symm)) reached
    exact floorShare_le_of_covers covers

/-- Whatever the pools and tokens do: each hop that is completed passes on exactly what it had
available, gets at least the minimum of each split, and hands on what it measured. A run that
arrives there had no overflow, since a checked operation that overflows reverts, and the
subtraction of a rescaling never underflows. -/
theorem hops_accounted (external : External Foreign) (deployment : Deployment)
    (context : Context) (params : ExecutionParams) (completed : Nat) (start : World Foreign) :
    executeHops external deployment context params.hops params.inputToken params.inputAmount =
        (do
          let (result, _) ← traceHops external deployment context (params.hops.take completed)
            params.inputToken params.inputAmount
          executeHops external deployment context (params.hops.drop completed) result.1
            result.2) ∧
      (Ensures (traceHops external deployment context (params.hops.take completed)
        params.inputToken params.inputAmount) start fun outcome _ =>
          HopsAccounted (params.hops.take completed) params.inputAmount outcome.2 outcome.1.2) ∧
      ∀ hop ∈ params.hops, NeverUnderflows hop := by
  refine ⟨?_, ensures_traceHops _ _ _ _ _, fun hop _ => neverUnderflows hop⟩
  conv_lhs => rw [← List.take_append_drop completed params.hops, executeHops_append]
  rw [← map_fst_traceHops, ← bind_pure_comp, bind_assoc]
  simp only [pure_bind]

end Accounting

end DexArbitrage
