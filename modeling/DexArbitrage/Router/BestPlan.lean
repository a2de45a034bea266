/-
This file says when a search returns the best plan it evaluated. The search
compares plans as it goes, but it drops two kinds of them: the plans of amounts
that it evaluates only for their profit while it shrinks an interval, and the
plans of a fast search that falls back. The amounts evaluated before a
refinement make up for most of the latter: the most profitable of them is a
seed, and a seed is one of its own refinement points.
-/

import DexArbitrage.Lib.Sorting
import DexArbitrage.Router.SearchPoints

namespace DexArbitrage

/-! ### What is returned and what is evaluated -/

/-- The returned plan is at least as profitable as every plan that was evaluated; in particular
there is one if any was evaluated. -/
def ReturnsBest (returned : Option ExactPlan) (evaluated : HashMap Nat (Option ExactPlan)) :
    Prop :=
  ∀ amount plan, evaluated.lookup amount = some (some plan) →
    ∃ best, returned = some best ∧ plan.expectedProfit ≤ best.expectedProfit

section Conditions

variable {State : Type} (answers : Nat → Option ExactPlan)

/-- The oracle answers one of the amounts that are compared with a plan that is at least as
profitable. -/
def SearchPoints.Matched (points : SearchPoints) (plan : ExactPlan) : Prop :=
  ∃ amount ∈ points.compared, ∃ other, answers amount = some other ∧
    plan.expectedProfit ≤ other.expectedProfit

/-- When the oracle answers an amount of a fast search that falls back with a plan, it answers one
of the amounts that are compared later with a plan, too. -/
def SearchPoints.FallbackLands (points : SearchPoints) : Prop :=
  (∃ amount ∈ points.dropped, ∃ plan, answers amount = some plan) →
    ∃ amount ∈ points.compared, ∃ plan, answers amount = some plan

/-- The amount is one of the refinement points around itself. -/
def Refinable (router : Router State) (snapshot : GraphSnapshot) (candidate : CandidatePath)
    (amount : Nat) : Prop :=
  ∃ minAmount maxAmount, router.searcher.searchRange snapshot candidate =
    some (minAmount, maxAmount) ∧ 0 < amount ∧ amount ≤ maxAmount

/-- The answers for the probes, and for amounts outside the range that were dropped, are matched. -/
def SearchPoints.ProbesMatched (router : Router State) (snapshot : GraphSnapshot)
    (candidate : CandidatePath) (points : SearchPoints) : Prop :=
  ∀ amount plan, answers amount = some plan →
    amount ∈ points.probed ∨
      amount ∈ points.dropped ∧ ¬ Refinable router snapshot candidate amount →
    points.Matched answers plan

end Conditions

/-! ### The better of two plans -/

/-- The better of the best plan and another one is at least as profitable as both. -/
theorem betterPlan?_upper {best : Option ExactPlan} (next : Option ExactPlan) {plan : ExactPlan}
    (one : best = some plan ∨ next = some plan) :
    ∃ kept, betterPlan? best next = some kept ∧ plan.expectedProfit ≤ kept.expectedProfit := by
  unfold betterPlan? betterPlan
  cases next with
  | none =>
    rcases one with isBest | none
    · exact ⟨plan, isBest, le_refl _⟩
    · cases none
  | some other =>
    cases best with
    | none =>
      rcases one with none | isNext
      · cases none
      · injection isNext with same
        exact ⟨other, rfl, same ▸ le_refl _⟩
    | some held =>
      simp only [Option.all_some, decide_eq_true_eq]
      by_cases better : held.expectedProfit < other.expectedProfit
      · rw [if_pos better]
        refine ⟨other, rfl, ?_⟩
        rcases one with isBest | isNext
        · injection isBest with same
          exact same ▸ better.le
        · injection isNext with same
          exact same ▸ le_refl _
      · rw [if_neg better]
        refine ⟨held, rfl, ?_⟩
        rcases one with isBest | isNext
        · injection isBest with same
          exact same ▸ le_refl _
        · injection isNext with same
          exact same ▸ Int.not_lt.mp better

theorem betterPlan?_cases {best next : Option ExactPlan} {kept : ExactPlan}
    (better : betterPlan? best next = some kept) : best = some kept ∨ next = some kept := by
  unfold betterPlan? betterPlan at better
  split at better
  · split at better
    · exact Or.inr better
    · exact Or.inl better
  · exact Or.inl better

section Answers

variable {answers : Nat → Option ExactPlan}

/-- The better plan of several is at least as profitable as each of them. -/
theorem betterAnswer_upper {best : Option ExactPlan} {amounts : List Nat} {plan : ExactPlan}
    (one : best = some plan ∨ ∃ amount ∈ amounts, answers amount = some plan) :
    ∃ kept, betterAnswer answers best amounts = some kept ∧
      plan.expectedProfit ≤ kept.expectedProfit := by
  induction amounts generalizing best plan with
  | nil =>
    rcases one with isBest | ⟨amount, none, _⟩
    · exact ⟨plan, isBest, le_refl _⟩
    · cases none
  | cons amount rest inductionHypothesis =>
    have first : best = some plan ∨ answers amount = some plan →
        ∃ kept, betterAnswer answers best (amount :: rest) = some kept ∧
          plan.expectedProfit ≤ kept.expectedProfit := by
      intro one
      obtain ⟨held, isHeld, below⟩ := betterPlan?_upper (answers amount) one
      obtain ⟨kept, isKept, heldBelow⟩ := inductionHypothesis (Or.inl isHeld)
      exact ⟨kept, isKept, below.trans heldBelow⟩
    rcases one with isBest | ⟨other, member, answer⟩
    · exact first (Or.inl isBest)
    · rcases List.mem_cons.mp member with same | later
      · exact first (Or.inr (same ▸ answer))
      · exact inductionHypothesis (Or.inr ⟨other, later, answer⟩)

theorem betterAnswer_attained {best : Option ExactPlan} {amounts : List Nat} {kept : ExactPlan}
    (better : betterAnswer answers best amounts = some kept) :
    best = some kept ∨ ∃ amount ∈ amounts, answers amount = some kept := by
  induction amounts generalizing best with
  | nil => exact Or.inl better
  | cons amount rest inductionHypothesis =>
    rcases inductionHypothesis better with old | ⟨other, member, answer⟩
    · rcases betterPlan?_cases old with isBest | answer
      · exact Or.inl isBest
      · exact Or.inr ⟨amount, List.mem_cons_self, answer⟩
    · exact Or.inr ⟨other, List.mem_cons_of_mem _ member, answer⟩

/-- The map holds what was there before and the answers for the amounts that were not. -/
theorem lookup_recordAnswers {evaluated : HashMap Nat (Option ExactPlan)} {amounts : List Nat}
    {amount : Nat} {plan : Option ExactPlan} :
    (recordAnswers answers evaluated amounts).lookup amount = some plan ↔
      evaluated.lookup amount = some plan ∨
        evaluated.lookup amount = none ∧ amount ∈ amounts ∧ answers amount = plan := by
  induction amounts generalizing evaluated with
  | nil =>
    refine (or_iff_left ?_).symm
    rintro ⟨_, none, _⟩
    cases none
  | cons first rest inductionHypothesis =>
    have unfolded : recordAnswers answers evaluated (first :: rest) =
        recordAnswers answers (recordAnswer answers evaluated first) rest := rfl
    rw [unfolded, inductionHypothesis, List.mem_cons]
    unfold recordAnswer
    cases known : evaluated.lookup first with
    | some held =>
      refine or_congr_right (and_congr_right fun missing => and_congr_left' ?_)
      refine (or_iff_right fun same => ?_).symm
      rw [same, known] at missing
      cases missing
    | none =>
      dsimp only
      rw [HashMap.lookup_insert]
      by_cases same : amount = first
      · rw [if_pos same, same, known]
        simp [eq_comm]
      · rw [if_neg same]
        simp [same]

theorem lookup_recordAnswers_empty {amounts : List Nat} {amount : Nat} {plan : Option ExactPlan} :
    (recordAnswers answers ∅ amounts).lookup amount = some plan ↔
      answers amount = plan ∧ amount ∈ amounts := by
  rw [lookup_recordAnswers]
  refine (or_iff_right fun none => nomatch none).trans ?_
  exact (and_iff_right rfl).trans and_comm

end Answers

/-! ### The seeds -/

section Seeds

variable {State : Type} {router : Router State}

/-- No evaluated amount has a plan. -/
def NoPlan (evaluated : HashMap Nat (Option ExactPlan)) : Prop :=
  ∀ amount plan, evaluated.lookup amount ≠ some (some plan)

instance : Std.Total MoreProfitable := ⟨fun first second => le_total second.1 first.1⟩

instance : IsTrans (Int × Nat) MoreProfitable :=
  ⟨fun _ _ _ first second => le_trans second first⟩

theorem mem_evaluatedProfits {evaluated : HashMap Nat (Option ExactPlan)} {profit : Int}
    {amount : Nat} : (profit, amount) ∈ evaluatedProfits router evaluated ↔
      ∃ plan, evaluated.lookup amount = some (some plan) ∧ plan.expectedProfit = profit := by
  unfold evaluatedProfits
  rw [List.mem_filterMap]
  constructor
  · rintro ⟨⟨other, plan⟩, member, found⟩
    rw [(router.evaluatedOrder.perm _).mem_iff] at member
    obtain ⟨entry, stored, same⟩ := List.mem_map.mp member
    obtain ⟨kept, isKept, samePair⟩ := Option.map_eq_some_iff.mp found
    injection same with sameAmount samePlan
    injection samePair with sameProfit sameOther
    refine ⟨kept, ?_, sameProfit⟩
    rw [HashMap.lookup_eq_some_iff, ← isKept, ← sameOther, ← sameAmount, ← samePlan]
    exact stored
  · rintro ⟨plan, stored, same⟩
    refine ⟨(amount, some plan), ?_, same ▸ rfl⟩
    rw [(router.evaluatedOrder.perm _).mem_iff]
    exact List.mem_map.mpr ⟨_, (HashMap.lookup_eq_some_iff _ _ _).mp stored, rfl⟩

variable (router) in
/-- The first seed is the most profitable of the evaluated amounts. -/
theorem refinementSeeds_head {evaluated : HashMap Nat (Option ExactPlan)}
    (profitable : ¬ NoPlan evaluated) :
    ∃ top rest plan, refinementSeeds router evaluated = top :: rest ∧
      evaluated.lookup top = some (some plan) ∧ ∀ amount other,
        evaluated.lookup amount = some (some other) →
          other.expectedProfit ≤ plan.expectedProfit := by
  cases sorted : (evaluatedProfits router evaluated).insertionSort MoreProfitable with
  | nil =>
    refine absurd (fun amount plan stored => ?_) profitable
    have member : (plan.expectedProfit, amount) ∈ evaluatedProfits router evaluated :=
      mem_evaluatedProfits.mpr ⟨plan, stored, rfl⟩
    rw [← (List.perm_insertionSort MoreProfitable _).mem_iff, sorted] at member
    cases member
  | cons top rest =>
    obtain ⟨profit, amount⟩ := top
    have isFirst := first_insertionSort sorted
    have member : (profit, amount) ∈ evaluatedProfits router evaluated := by
      rw [← (List.perm_insertionSort MoreProfitable _).mem_iff, sorted]
      exact List.mem_cons_self
    obtain ⟨plan, stored, same⟩ := mem_evaluatedProfits.mp member
    refine ⟨amount, (rest.take 7).map Prod.snd, plan, ?_, stored, fun other otherPlan found => ?_⟩
    · unfold refinementSeeds
      rw [sorted]
      rfl
    · rw [same]
      exact isFirst _ (mem_evaluatedProfits.mpr ⟨otherPlan, found, rfl⟩)

theorem mem_refinementPoints {center maxAmount : Nat} (positive : 0 < center)
    (inside : center ≤ maxAmount) : center ∈ refinementPoints center maxAmount := by
  unfold refinementPoints
  rw [mem_sortedPoints, List.mem_filter]
  refine ⟨?_, decide_eq_true ⟨positive, inside⟩⟩
  simp

end Seeds

/-! ### Which answers lead to the best plan -/

section Covered

variable {State : Type} {router : Router State} {snapshot : GraphSnapshot}
  {candidate : CandidatePath} {premiumPpm minAmount maxAmount : Nat}
  {answers : Nat → Option ExactPlan}

/-- The best of the compared plans is the best of all exactly when the others are matched. -/
theorem returnsBest_iff_matched {points : SearchPoints} {amounts : List Nat}
    (members : ∀ amount, amount ∈ amounts ↔
      amount ∈ points.dropped ∨ amount ∈ points.compared ∨ amount ∈ points.probed) :
    ReturnsBest (betterAnswer answers none points.compared) (recordAnswers answers ∅ amounts) ↔
      ∀ amount plan, answers amount = some plan →
        amount ∈ points.dropped ∨ amount ∈ points.probed → points.Matched answers plan := by
  have stored : ∀ amount plan, (recordAnswers answers ∅ amounts).lookup amount = some (some plan) ↔
      answers amount = some plan ∧
        (amount ∈ points.dropped ∨ amount ∈ points.compared ∨ amount ∈ points.probed) := by
    intro amount plan
    rw [lookup_recordAnswers_empty, members amount]
  constructor
  · intro returns amount plan answer listed
    obtain ⟨best, isBest, below⟩ := returns amount plan
      ((stored amount plan).mpr ⟨answer, listed.imp_right Or.inr⟩)
    rcases betterAnswer_attained isBest with none | ⟨other, member, otherAnswer⟩
    · cases none
    · exact ⟨other, member, best, otherAnswer, below⟩
  · intro matched amount plan found
    obtain ⟨answer, listed⟩ := (stored amount plan).mp found
    have isMatched : points.Matched answers plan := by
      rcases listed with dropped | compared | probed
      · exact matched amount plan answer (Or.inl dropped)
      · exact ⟨amount, compared, plan, answer, le_refl _⟩
      · exact matched amount plan answer (Or.inr probed)
    obtain ⟨other, member, otherPlan, otherAnswer, below⟩ := isMatched
    obtain ⟨kept, isKept, above⟩ := betterAnswer_upper (Or.inr ⟨other, member, otherAnswer⟩)
    exact ⟨kept, isKept, below.trans above⟩

/-- When a ladder amount has a plan, the ladder is compared, and every seed inside the range. -/
theorem mem_compared_widePoints {dropped : List Nat} {best : ExactPlan}
    (range : router.searcher.searchRange snapshot candidate = some (minAmount, maxAmount))
    (ladder : betterAnswer answers none (router.searcher.ladder snapshot candidate) = some best)
    {amount : Nat} (listed : amount ∈ router.searcher.ladder snapshot candidate ∨
      amount ∈ seedsAfter answers router snapshot candidate dropped ∧
        Refinable router snapshot candidate amount) :
    amount ∈
      (widePoints answers router snapshot candidate minAmount maxAmount dropped).compared := by
  unfold widePoints
  dsimp only
  rw [ladder]
  rcases listed with onLadder | ⟨seed, low, high, sameRange, positive, inside⟩
  · exact List.mem_append_left _ onLadder
  · rw [range] at sameRange
    injection sameRange with sameRange
    injection sameRange with _ sameHigh
    refine List.mem_append_right _ (List.mem_flatMap.mpr
      ⟨_, List.mem_map.mpr ⟨amount, seed, rfl⟩, ?_⟩)
    exact List.mem_append_left _ (mem_refinementPoints positive (sameHigh ▸ inside))

theorem dropped_widePoints (dropped : List Nat) :
    (widePoints answers router snapshot candidate minAmount maxAmount dropped).dropped =
      dropped := by
  unfold widePoints
  dsimp only
  cases betterAnswer answers none (router.searcher.ladder snapshot candidate) with
  | none => rfl
  | some best => rfl

/-- A dropped plan is matched by the most profitable seed, or by what matches the seed. -/
theorem matched_of_dropped {dropped : List Nat}
    (range : router.searcher.searchRange snapshot candidate = some (minAmount, maxAmount))
    {points : SearchPoints}
    (same : widePoints answers router snapshot candidate minAmount maxAmount dropped = points)
    (lands : points.FallbackLands answers)
    (matched : points.ProbesMatched answers router snapshot candidate) {amount : Nat}
    {plan : ExactPlan} (answer : answers amount = some plan) (member : amount ∈ points.dropped) :
    points.Matched answers plan := by
  have landed := lands ⟨amount, member, plan, answer⟩
  have isDropped : points.dropped = dropped := same ▸ dropped_widePoints dropped
  cases ladder : betterAnswer answers none (router.searcher.ladder snapshot candidate) with
  | none =>
    unfold widePoints at same
    dsimp only at same
    rw [ladder] at same
    subst same
    obtain ⟨other, compared, otherPlan, otherAnswer⟩ := landed
    obtain ⟨kept, none, _⟩ := betterAnswer_upper (Or.inr ⟨other, compared, otherAnswer⟩)
    rw [ladder] at none
    cases none
  | some best =>
    have listed : ∀ other otherPlan, (recordAnswers answers (recordAnswers answers ∅ dropped)
        (router.searcher.ladder snapshot candidate)).lookup other = some (some otherPlan) ↔
          answers other = some otherPlan ∧
            (other ∈ dropped ∨ other ∈ router.searcher.ladder snapshot candidate) := by
      intro other otherPlan
      have joined : recordAnswers answers (recordAnswers answers ∅ dropped)
          (router.searcher.ladder snapshot candidate) = recordAnswers answers ∅
            (dropped ++ router.searcher.ladder snapshot candidate) := List.foldl_append.symm
      rw [joined, lookup_recordAnswers_empty, List.mem_append]
    have stored := (listed amount plan).mpr ⟨answer, Or.inl (isDropped ▸ member)⟩
    obtain ⟨top, rest, topPlan, seeds, topStored, above⟩ :=
      refinementSeeds_head router fun noPlan => noPlan amount plan stored
    obtain ⟨topAnswer, topListed⟩ := (listed top topPlan).mp topStored
    have center : top ∈ seedsAfter answers router snapshot candidate dropped := by
      unfold seedsAfter
      rw [seeds]
      exact List.mem_cons_self
    have compared : ∀ {amount}, amount ∈ router.searcher.ladder snapshot candidate ∨
        amount ∈ seedsAfter answers router snapshot candidate dropped ∧
          Refinable router snapshot candidate amount → amount ∈ points.compared := by
      rw [← same]
      exact mem_compared_widePoints range ladder
    have topMatched : points.Matched answers topPlan := by
      by_cases refinable : Refinable router snapshot candidate top
      · exact ⟨top, compared (Or.inr ⟨center, refinable⟩), topPlan, topAnswer, le_refl _⟩
      · rcases topListed with topDropped | onLadder
        · exact matched top topPlan topAnswer (Or.inr ⟨isDropped.symm ▸ topDropped, refinable⟩)
        · exact ⟨top, compared (Or.inl onLadder), topPlan, topAnswer, le_refl _⟩
    obtain ⟨other, otherCompared, otherPlan, otherAnswer, below⟩ := topMatched
    exact ⟨other, otherCompared, otherPlan, otherAnswer, (above amount plan stored).trans below⟩

/-- Of the amounts that are not compared, the dropped ones inside the range need no condition of
their own, when the fall back lands. -/
theorem matched_iff_covered {points : SearchPoints}
    (range : router.searcher.searchRange snapshot candidate = some (minAmount, maxAmount))
    (same : rangePoints answers router snapshot candidate premiumPpm minAmount maxAmount =
      points) :
    (∀ amount plan, answers amount = some plan →
        amount ∈ points.dropped ∨ amount ∈ points.probed → points.Matched answers plan) ↔
      points.FallbackLands answers ∧ points.ProbesMatched answers router snapshot candidate := by
  constructor
  · refine fun matched => ⟨?_, fun amount plan answer listed => ?_⟩
    · rintro ⟨amount, member, plan, answer⟩
      obtain ⟨other, compared, otherPlan, otherAnswer, _⟩ :=
        matched amount plan answer (Or.inl member)
      exact ⟨other, compared, otherPlan, otherAnswer⟩
    · exact matched amount plan answer (listed.symm.imp_left And.left)
  · rintro ⟨lands, matched⟩ amount plan answer (dropped | probed)
    · unfold rangePoints at same
      cases fast : fastPoints answers router snapshot candidate premiumPpm minAmount maxAmount with
      | mk interval returned =>
        rw [fast] at same
        cases returned with
        | some best =>
          rw [← same] at dropped
          cases dropped
        | none => exact matched_of_dropped range same lands matched answer dropped
    · exact matched amount plan answer (Or.inl probed)

end Covered

section Search

variable {State : Type} {router : Router State} {snapshot : GraphSnapshot}
  {candidate : CandidatePath} {premiumPpm minAmount maxAmount : Nat}
  {answers : Nat → Option ExactPlan}

/-- A search over Liquidity Book pools does not keep the plans it evaluates. -/
theorem ensures_searchTraderJoeLbBounded {start : SearchState State}
    (nothing : start.evaluated = ∅) :
    Ensures (searchTraderJoeLbBounded router snapshot candidate premiumPpm minAmount maxAmount)
      start fun _ finish => finish.evaluated = ∅ := by
  unfold searchTraderJoeLbBounded
  simp only
  generalize boundedLbAmounts router.lbExactSearchPoints minAmount maxAmount = amounts
  generalize (none : Option ExactPlan) = best
  induction amounts generalizing best start with
  | nil =>
    rw [List.foldlM_nil, ensures_pure]
    exact nothing
  | cons amount rest inductionHypothesis =>
    rw [List.foldlM_cons, ensures_bind, ensures_bind, ensures_request]
    intro plan quoter _
    rw [ensures_pure]
    refine inductionHypothesis ?_ _
    exact nothing

/-- Nothing is evaluated and there are no points. -/
theorem returnsBest_iff_of_empty {returned : Option ExactPlan}
    {evaluated : HashMap Nat (Option ExactPlan)} (empty : evaluated = ∅) {points : SearchPoints}
    (none : points = { dropped := [], compared := [], probed := [] }) :
    ReturnsBest returned evaluated ↔
      points.FallbackLands answers ∧ points.ProbesMatched answers router snapshot candidate := by
  subst empty none
  refine iff_of_true (fun amount plan stored => nomatch stored) ⟨?_, ?_⟩
  · rintro ⟨amount, member, _⟩
    cases member
  · rintro amount plan answer (member | ⟨member, _⟩)
    · cases member
    · cases member

end Search

/-- Whenever the oracle answers the quotes of a search as given, a search without verification
returns the best plan it evaluated exactly when, by the answers, a fall back lands and the plans of
probes and of dropped amounts outside the range are matched. -/
theorem ensures_returnsBest_iff {State : Type} (router : Router State) (snapshot : GraphSnapshot)
    (candidate : CandidatePath) (premiumPpm : Except RpcError Nat) (quoter : State)
    (answers : Nat → Option ExactPlan) :
    Ensures (searchBestPlanWithStatsMode router snapshot candidate premiumPpm false)
      (searchStart quoter) fun returned finish =>
        Answered answers finish.evaluated → ∀ premium, premiumPpm = .ok premium →
          let points := searchPoints answers router snapshot candidate premium
          (ReturnsBest returned finish.evaluated ↔
            points.FallbackLands answers ∧
              points.ProbesMatched answers router snapshot candidate) := by
  unfold searchBestPlanWithStatsMode
  rw [ensures_bind, ensures_attempt]
  intro premium isPremium
  cases range : router.searcher.searchRange snapshot candidate with
  | none =>
    rw [ensures_pure]
    intro _ other _
    refine returnsBest_iff_of_empty rfl ?_
    unfold searchPoints
    rw [range]
  | some ends =>
    obtain ⟨minAmount, maxAmount⟩ := ends
    dsimp only
    cases lbOnly : candidateUsesOnlyTraderJoeLb candidate with
    | true =>
      unfold searchBestPlan searchSeeds
      simp only [lbOnly, if_true]
      rw [ensures_bind, ensures_bind]
      refine (ensures_searchTraderJoeLbBounded rfl).mono fun plan finish empty => ?_
      rw [ensures_pure, ensures_pure]
      intro _ other _
      refine returnsBest_iff_of_empty empty ?_
      unfold searchPoints
      rw [range]
      simp only [lbOnly, if_true]
    | false =>
      obtain ⟨amounts, leads, members⟩ := leads_searchBestPlan lbOnly
        (rfl : (searchStart quoter).evaluated = ∅)
        (rfl : rangePoints answers router snapshot candidate premium minAmount maxAmount = _)
      refine leads.mono fun returned finish ⟨_, follows⟩ answered other isOther => ?_
      obtain ⟨isBest, recorded⟩ := follows answered
      have samePremium : premium = other := by
        rw [isPremium] at isOther
        injection isOther
      have points : searchPoints answers router snapshot candidate other =
          rangePoints answers router snapshot candidate premium minAmount maxAmount := by
        unfold searchPoints
        rw [range, samePremium]
        simp only [lbOnly, Bool.false_eq_true, if_false]
      rw [points, isBest, recorded]
      exact (returnsBest_iff_matched members).trans (matched_iff_covered range rfl)

/-! ### A probe that is not compared -/

def unitToken (address : Address) : TokenInfo :=
  { crossedToken address with decimals := 0 }

def onePoolSnapshot : GraphSnapshot :=
  GraphSnapshot.build crossedRates 1 none [unitToken 1, unitToken 2]
    (HashMap.ofList [(10, crossedPool 10 1000000 4000000)])

def thereAndBack : CandidatePath :=
  { crossedCandidate with path := [crossedHop 1 2 10, crossedHop 2 1 10] }

/-- Every amount comes back as it was, except one that gains 5 and one that gains 1000. -/
def spikeQuoter : Quoter Unit where
  quotePool _ tokenIn _ amount :=
    pure <|
      if tokenIn = 1 then amount
      else if amount = 8192 then 8197
      else if amount = 6064 then 7064
      else amount
  finishOrder _ count := List.range count
  finishOrder_perm _ count := perm_inOrder count

/-- A router that searches the amounts up to 10000, without fast sizing and verification. -/
def ladderRouter (quoter : Quoter Unit) : Router Unit where
  splitOptimizer := crossedOptimizer
  verifySplitOptimizer := none
  solver := crossedSolver
  quoter := quoter
  verifyQuoter := quoter
  searcher :=
    { maxPositionUsdE8 := 0, maxPosition := 10000, minTradeUsdE8 := 0
      routeStartCapacityRaw := fun _ _ => none }
  suggestInputAmounts _ _ _ _ _ := []
  evaluatedOrder := ⟨id, fun _ => List.Perm.refl _⟩
  splitMinOutputBps := 9950
  lbExactSearchPoints := 18
  verifyV3RefinementPoints := 3
  verifyV3EarlyExit := true
  verifyV3EarlyReoptimize := false
  verifyV3FinalReoptimize := false
  verifyV3EarlyProbePoints := 1

def spikeSearch : Except RpcError (Option ExactPlan × SearchState Unit) :=
  (searchBestPlanWithStatsMode (ladderRouter spikeQuoter) onePoolSnapshot thereAndBack (.ok 0)
    false).run (searchStart ())

/-- The profit of the returned plan, and of the plan that was evaluated for an amount. -/
def profitsAt (amount : Nat) (outcome : Option ExactPlan × SearchState Unit) :
    Option (Int × Int) := do
  let plan ← outcome.1
  let evaluated ← (← outcome.2.evaluated.lookup amount)
  return (plan.expectedProfit, evaluated.expectedProfit)

/-- While the search shrinks the interval from 4096 to 10000 it evaluates 6064, which gains 1000,
and it returns the plan for 8192, which gains 5. -/
theorem not_returnsBest_spike : ∃ returned finish, spikeSearch = .ok (returned, finish) ∧
    ¬ ReturnsBest returned finish.evaluated := by
  have profits : spikeSearch.toOption.bind (profitsAt 6064) = some (5, 1000) := by decide +kernel
  cases ran : spikeSearch with
  | error reason =>
    rw [ran] at profits
    cases profits
  | ok outcome =>
    obtain ⟨returned, finish⟩ := outcome
    rw [ran] at profits
    have atOutcome : profitsAt 6064 (returned, finish) = some (5, 1000) := profits
    obtain ⟨plan, isPlan, profits⟩ := Option.bind_eq_some_iff.mp atOutcome
    obtain ⟨entry, stored, profits⟩ := Option.bind_eq_some_iff.mp profits
    obtain ⟨probe, isProbe, profits⟩ := Option.bind_eq_some_iff.mp profits
    injection profits with profits
    injection profits with five thousand
    refine ⟨returned, finish, rfl, fun returns => ?_⟩
    obtain ⟨best, isBest, below⟩ := returns 6064 probe (isProbe ▸ stored)
    have same : some best = some plan := isBest.symm.trans isPlan
    injection same with same
    rw [same, five, thousand] at below
    exact absurd below (by decide)

end DexArbitrage
