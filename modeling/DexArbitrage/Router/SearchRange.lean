/-
This file says when a search stays within its range of input amounts. The
generators of amounts clamp to the range or divide a part of it, except one:
the refinement points of a seed are cut at the greatest amount only, and half
of a seed can lie below the least one. The search does not fail on arithmetic:
its failures are those of the quotes and of the premium.
-/

import DexArbitrage.Router.BestPlan
import DexArbitrage.Router.QuoteFailures

namespace DexArbitrage

/-! ### Requested amounts -/

section Requested

variable {State : Type}

/-- A search fails when a quote of one of the two quoters fails. -/
def Router.Raises (router : Router State) (reason : RpcError) : Prop :=
  router.quoter.Raises reason ∨ router.verifyQuoter.Raises reason

/-- Only allowed amounts were requested, and a plan is kept for its own input. -/
structure Requests (allowed : Nat → Prop) (state : SearchState State) : Prop where
  requested : ∀ amount ∈ state.requested, allowed amount
  evaluated : ∀ amount plan, state.evaluated.lookup amount = some plan →
    amount ∈ state.requested ∧ ∀ kept, plan = some kept → kept.inputAmount = amount

/-- The search went on from one state to another and requested the given amounts. -/
structure Asked (allowed : Nat → Prop) (amounts : List Nat) (start finish : SearchState State) :
    Prop where
  recorded : Requests allowed finish
  grows : start.requested ⊆ finish.requested
  asked : amounts ⊆ finish.requested

def PlanAllowed (allowed : Nat → Prop) (plan : Option ExactPlan) : Prop :=
  ∀ kept, plan = some kept → allowed kept.inputAmount

variable {allowed : Nat → Prop} {start middle finish : SearchState State}

theorem Asked.refl (recorded : Requests allowed start) : Asked allowed [] start start :=
  ⟨recorded, List.Subset.refl _, List.nil_subset _⟩

theorem Asked.append {amounts others : List Nat} (first : Asked allowed amounts start middle)
    (second : Asked allowed others middle finish) :
    Asked allowed (amounts ++ others) start finish :=
  ⟨second.recorded, List.Subset.trans first.grows second.grows,
    List.append_subset.mpr ⟨List.Subset.trans first.asked second.grows, second.asked⟩⟩

theorem Asked.subset {amounts others : List Nat} (asked : Asked allowed amounts start finish)
    (subset : others ⊆ amounts) : Asked allowed others start finish :=
  ⟨asked.recorded, asked.grows, List.Subset.trans subset asked.asked⟩

theorem planAllowed_none : PlanAllowed allowed none := by
  intro kept none
  cases none

theorem PlanAllowed.better {best next : Option ExactPlan} (bestAllowed : PlanAllowed allowed best)
    (nextAllowed : PlanAllowed allowed next) : PlanAllowed allowed (betterPlan? best next) := by
  intro kept isKept
  rcases betterPlan?_cases isKept with old | new
  · exact bestAllowed kept old
  · exact nextAllowed kept new

theorem betterPlan?_isSome {best next : Option ExactPlan} (found : best.isSome) :
    (betterPlan? best next).isSome := by
  obtain ⟨plan, isPlan⟩ := Option.isSome_iff_exists.mp found
  obtain ⟨kept, isKept, _⟩ := betterPlan?_upper next (Or.inl isPlan)
  exact isKept ▸ rfl

theorem ensuresOr_request {Value : Type} {raises : RpcError → Prop} {amount : Nat}
    {program : Program State RpcError Value} {post : Value → SearchState State → Prop}
    (ensures : EnsuresOr raises program start.quoter fun value quoter =>
      post value { start with quoter, requested := start.requested ++ [amount] }) :
    EnsuresOr raises (request amount program) start post := by
  refine ⟨(ensures_request amount program start post).mpr ensures.1, fun reason failed => ?_⟩
  cases ran : program.run start.quoter with
  | ok outcome =>
    rw [run_request_of_ok ran] at failed
    cases failed
  | error other =>
    rw [run_request_of_error ran] at failed
    injection failed with same
    exact same ▸ ensures.2 other ran

/-- An allowed amount is requested, by whichever quoter. -/
theorem ensuresOr_requestPlan {raises : RpcError → Prop} {quoter : Quoter State}
    (raised : ∀ reason, quoter.Raises reason → raises reason) {amount : Nat}
    {program : Program State RpcError (Option ExactPlan)}
    (plansFor : PlansFor quoter amount program) (permitted : allowed amount)
    (recorded : Requests allowed start) :
    EnsuresOr raises (request amount program) start fun plan finish =>
      Asked allowed [amount] start finish ∧ finish.evaluated = start.evaluated ∧
        ∀ kept, plan = some kept → kept.inputAmount = amount := by
  have quoted := plansFor start.quoter
  refine ensuresOr_request ⟨?_, fun reason failed => raised reason (quoted.2 reason failed)⟩
  refine quoted.1.mono fun plan quoter input => ⟨⟨⟨?_, ?_⟩, ?_, ?_⟩, rfl, input⟩
  · intro other member
    rcases List.mem_append.mp member with old | new
    · exact recorded.requested other old
    · exact List.mem_singleton.mp new ▸ permitted
  · intro other stored found
    obtain ⟨member, input⟩ := recorded.evaluated other stored found
    exact ⟨List.mem_append_left _ member, input⟩
  · exact List.subset_append_left _ _
  · exact List.subset_append_right _ _

variable {router : Router State} {snapshot : GraphSnapshot} {candidate : CandidatePath}
  {premiumPpm : Nat}

theorem ensuresOr_evaluateAmount {amount : Nat} (permitted : allowed amount)
    (recorded : Requests allowed start) :
    EnsuresOr router.Raises (evaluateAmount router snapshot candidate premiumPpm amount) start
      fun plan finish => Asked allowed [amount] start finish ∧
        ∀ kept, plan = some kept → kept.inputAmount = amount := by
  unfold evaluateAmount
  refine EnsuresOr.bind (ensuresOr_get ?_)
  split
  · rename_i plan stored
    obtain ⟨member, input⟩ := recorded.evaluated amount plan stored
    refine ensuresOr_pure ⟨⟨recorded, List.Subset.refl _, ?_⟩, input⟩
    exact List.cons_subset.mpr ⟨member, List.nil_subset _⟩
  · refine EnsuresOr.bind ((ensuresOr_requestPlan (fun _ => Or.inl)
      (plansFor_quoteCandidate candidate amount premiumPpm) permitted recorded).mono ?_)
    intro plan middle ⟨asked, _, input⟩
    refine EnsuresOr.bind (ensuresOr_modify (ensuresOr_pure ⟨⟨⟨?_, ?_⟩, ?_, ?_⟩, input⟩))
    · exact asked.recorded.requested
    · intro other stored found
      rw [HashMap.lookup_insert] at found
      split at found
      · rename_i same
        injection found with samePlan
        rw [same, ← samePlan]
        exact ⟨asked.asked (List.mem_singleton_self _), input⟩
      · exact asked.recorded.evaluated other stored found
    · exact asked.grows
    · exact asked.asked

theorem ensuresOr_consider {best : Option ExactPlan} {amount : Nat} (permitted : allowed amount)
    (recorded : Requests allowed start) (bestAllowed : PlanAllowed allowed best) :
    EnsuresOr router.Raises (consider router snapshot candidate premiumPpm best amount) start
      fun better finish => Asked allowed [amount] start finish ∧ PlanAllowed allowed better ∧
        (best.isSome → better.isSome) := by
  unfold consider
  refine EnsuresOr.bind ((ensuresOr_evaluateAmount permitted recorded).mono ?_)
  intro plan middle ⟨asked, input⟩
  refine ensuresOr_pure ⟨asked, ?_, betterPlan?_isSome⟩
  exact bestAllowed.better fun kept isKept => (input kept isKept).symm ▸ permitted

theorem ensuresOr_considerAll {amounts : List Nat} (permitted : ∀ amount ∈ amounts, allowed amount)
    {best : Option ExactPlan} (recorded : Requests allowed start)
    (bestAllowed : PlanAllowed allowed best) :
    EnsuresOr router.Raises (considerAll router snapshot candidate premiumPpm best amounts) start
      fun better finish => Asked allowed amounts start finish ∧ PlanAllowed allowed better ∧
        (best.isSome → better.isSome) := by
  induction amounts generalizing best start with
  | nil => exact ensuresOr_pure ⟨Asked.refl recorded, bestAllowed, id⟩
  | cons amount rest inductionHypothesis =>
    unfold considerAll at inductionHypothesis ⊢
    rw [List.foldlM_cons]
    have first : allowed amount := permitted amount List.mem_cons_self
    refine EnsuresOr.bind ((ensuresOr_consider first recorded bestAllowed).mono ?_)
    intro better middle ⟨asked, betterAllowed, stays⟩
    refine (inductionHypothesis
      (fun other member => permitted other (List.mem_cons_of_mem _ member))
      asked.recorded betterAllowed).mono ?_
    intro last finish ⟨askedRest, lastAllowed, restStays⟩
    exact ⟨asked.append askedRest, lastAllowed, fun found => restStays (stays found)⟩

theorem ensuresOr_evaluateProfit {amount : Nat} (permitted : allowed amount)
    (recorded : Requests allowed start) :
    EnsuresOr router.Raises (evaluateProfit router snapshot candidate premiumPpm amount) start
      fun _ finish => Asked allowed [] start finish := by
  unfold evaluateProfit
  refine EnsuresOr.bind ((ensuresOr_evaluateAmount permitted recorded).mono ?_)
  intro plan middle ⟨asked, _⟩
  exact ensuresOr_pure (asked.subset (List.nil_subset _))

/-- An interval shrinks within itself: the amounts between its ends are allowed, and its greatest
amount is a `u128`, so no difference or sum overflows. -/
theorem ensuresOr_narrow (rounds : Nat) {low high : Nat} (fits : high ≤ u128Max)
    (permitted : ∀ amount, InRange low high amount → allowed amount)
    (recorded : Requests allowed start) :
    EnsuresOr router.Raises (narrow router snapshot candidate premiumPpm rounds low high) start
      fun interval finish => low ≤ interval.1 ∧ interval.2 ≤ high ∧
        Asked allowed [] start finish := by
  induction rounds generalizing low high start with
  | zero => exact ensuresOr_pure ⟨Nat.le_refl _, Nat.le_refl _, Asked.refl recorded⟩
  | succ rounds inductionHypothesis =>
    unfold narrow
    split
    · exact ensuresOr_pure ⟨Nat.le_refl _, Nat.le_refl _, Asked.refl recorded⟩
    · rename_i wide
      have ordered : low ≤ high := by omega
      have leftFits : low + (high - low) / 3 ≤ u128Max := by omega
      have rightFits : (high - low) / 3 ≤ high := by omega
      have leftInside : InRange low high (low + (high - low) / 3) := by
        unfold InRange
        omega
      have rightInside : InRange low high (high - (high - low) / 3) := by
        unfold InRange
        omega
      rw [u128Sub_of_le ordered]
      refine EnsuresOr.bind (ensuresOr_attempt_ok ?_)
      rw [u128Add_of_le leftFits]
      refine EnsuresOr.bind (ensuresOr_attempt_ok ?_)
      rw [u128Sub_of_le rightFits]
      refine EnsuresOr.bind (ensuresOr_attempt_ok ?_)
      refine EnsuresOr.bind ((ensuresOr_evaluateProfit (permitted _ leftInside) recorded).mono ?_)
      intro leftProfit left askedLeft
      refine EnsuresOr.bind ((ensuresOr_evaluateProfit (permitted _ rightInside)
        askedLeft.recorded).mono ?_)
      intro rightProfit right askedRight
      have asked : Asked allowed [] start right := askedLeft.append askedRight
      have within : ∀ inner outer, low ≤ inner → outer ≤ high →
          EnsuresOr router.Raises (narrow router snapshot candidate premiumPpm rounds inner outer)
            right fun interval finish => low ≤ interval.1 ∧ interval.2 ≤ high ∧
              Asked allowed [] start finish := by
        intro inner outer above below
        refine (inductionHypothesis (below.trans fits) (fun amount inside => ?_)
          asked.recorded).mono ?_
        · exact permitted amount ⟨above.trans inside.1, inside.2.trans below⟩
        · rintro interval finish ⟨lower, upper, askedRest⟩
          exact ⟨above.trans lower, upper.trans below, asked.append askedRest⟩
      split
      · refine within _ _ ?_ (Nat.le_refl _)
        unfold saturatingAdd
        unfold InRange at leftInside
        omega
      · refine within _ _ (Nat.le_refl _) ?_
        omega

/-- A loop that requests a plan for each amount and keeps the best one. -/
theorem ensuresOr_requestAll {raises : RpcError → Prop} {quoter : Quoter State}
    (raised : ∀ reason, quoter.Raises reason → raises reason)
    {program : Nat → Program State RpcError (Option ExactPlan)}
    (plansFor : ∀ amount, PlansFor quoter amount (program amount)) {amounts : List Nat}
    (permitted : ∀ amount ∈ amounts, allowed amount) (recorded : Requests allowed start) :
    EnsuresOr raises (amounts.foldlM (fun best amount => do
        let plan ← request amount (program amount)
        return betterPlan? best plan) none) start
      fun best finish => Asked allowed [] start finish ∧ PlanAllowed allowed best := by
  refine ensuresOr_foldlM (fun amount member best middle ⟨asked, bestAllowed⟩ => ?_)
    ⟨Asked.refl recorded, planAllowed_none⟩
  have permittedAmount := permitted amount member
  refine EnsuresOr.bind ((ensuresOr_requestPlan raised (plansFor amount) permittedAmount
    asked.recorded).mono ?_)
  intro plan finish ⟨askedAmount, _, input⟩
  refine ensuresOr_pure ⟨asked.append (askedAmount.subset (List.nil_subset _)), ?_⟩
  exact bestAllowed.better fun kept isKept => (input kept isKept).symm ▸ permittedAmount

end Requested

/-! ### The phases of a search -/

section Phases

variable {State : Type} {router : Router State} {snapshot : GraphSnapshot}
  {candidate : CandidatePath} {premiumPpm minAmount maxAmount : Nat} {allowed : Nat → Prop}
  {start : SearchState State}

theorem fastInterval_inRange {center : Nat} (nonempty : minAmount ≤ maxAmount)
    (inside : InRange minAmount maxAmount center) :
    minAmount ≤ (fastInterval minAmount maxAmount center).1 ∧
      (fastInterval minAmount maxAmount center).2 ≤ maxAmount := by
  unfold InRange at inside
  unfold fastInterval
  simp only
  split
  · exact ⟨by omega, by omega⟩
  · exact ⟨by omega, by omega⟩

/-- Dense points lie between the ends of their interval. -/
theorem densePoints_allowed {low high lower upper targetCount : Nat}
    (permits : ∀ amount, InRange low high amount → allowed amount) (above : low ≤ lower)
    (below : upper ≤ high) : ∀ amount ∈ densePoints lower upper targetCount, allowed amount := by
  intro amount member
  have inside := densePoints_inRange member
  exact permits amount ⟨above.trans inside.1, inside.2.trans below⟩

theorem ensuresOr_searchFastSized (nonempty : minAmount ≤ maxAmount) (fits : maxAmount ≤ u128Max)
    (suggested : ∀ amount ∈ router.suggestInputAmounts snapshot candidate minAmount maxAmount
      premiumPpm, InRange minAmount maxAmount amount)
    (recorded : Requests (InRange minAmount maxAmount) start) :
    EnsuresOr router.Raises
      (searchFastSized router snapshot candidate premiumPpm minAmount maxAmount) start
      fun plan finish => Requests (InRange minAmount maxAmount) finish ∧
        PlanAllowed (InRange minAmount maxAmount) plan := by
  unfold searchFastSized
  refine EnsuresOr.bind ((ensuresOr_considerAll suggested recorded planAllowed_none).mono ?_)
  intro initial first ⟨asked, initialAllowed, _⟩
  cases initial with
  | none => exact ensuresOr_pure ⟨asked.recorded, planAllowed_none⟩
  | some initialBest =>
    simp only
    have interval := fastInterval_inRange nonempty (initialAllowed initialBest rfl)
    have permits : ∀ amount, InRange (fastInterval minAmount maxAmount initialBest.inputAmount).1
        (fastInterval minAmount maxAmount initialBest.inputAmount).2 amount →
        InRange minAmount maxAmount amount :=
      fun amount inside => ⟨interval.1.trans inside.1, inside.2.trans interval.2⟩
    refine EnsuresOr.bind ((ensuresOr_narrow 12 (interval.2.trans fits) permits
      asked.recorded).mono ?_)
    intro ⟨low, high⟩ second ⟨above, below, askedSecond⟩
    refine EnsuresOr.bind ((ensuresOr_considerAll (densePoints_allowed permits above below)
      askedSecond.recorded initialAllowed).mono ?_)
    intro best third ⟨askedThird, bestAllowed, stays⟩
    cases best with
    | none => cases stays rfl
    | some best =>
      unfold concludeFast
      dsimp only
      split
      · refine EnsuresOr.bind (ensuresOr_modify ?_)
        have recordedThird : Requests (InRange minAmount maxAmount)
            { third with usedWideFallback := true } :=
          ⟨askedThird.recorded.requested, askedThird.recorded.evaluated⟩
        exact ensuresOr_pure ⟨recordedThird, planAllowed_none⟩
      · exact ensuresOr_pure ⟨askedThird.recorded, bestAllowed⟩

theorem ensuresOr_verifyPlan (nonempty : minAmount ≤ maxAmount)
    (permits : ∀ amount, InRange minAmount maxAmount amount → allowed amount)
    (splitOptimizer : SplitOptimizer) (points : Nat) (reoptimize : Bool) (plan : ExactPlan)
    (recorded : Requests allowed start) :
    EnsuresOr router.Raises
      (verifyPlan router snapshot candidate premiumPpm minAmount maxAmount splitOptimizer points
        reoptimize plan) start
      fun best finish => Asked allowed [] start finish ∧ PlanAllowed allowed best := by
  refine ensuresOr_requestAll (fun _ => Or.inr) (fun amount => ?_) (fun amount member => ?_)
    recorded
  · cases reoptimize with
    | true => exact plansFor_quoteCandidate _ _ _
    | false => exact plansFor_quoteExisting _ _ _ _ _
  · exact permits amount (verificationAmounts_inRange nonempty amount member)

theorem ensuresOr_verifyBestPlan (nonempty : minAmount ≤ maxAmount)
    (permits : ∀ amount, InRange minAmount maxAmount amount → allowed amount) {plan : ExactPlan}
    (planAllowed : PlanAllowed allowed (some plan)) (recorded : Requests allowed start) :
    EnsuresOr router.Raises
      (verifyBestPlan router snapshot candidate premiumPpm minAmount maxAmount plan) start
      fun best finish => Asked allowed [] start finish ∧ PlanAllowed allowed best := by
  unfold verifyBestPlan
  split
  · exact ensuresOr_pure ⟨Asked.refl recorded, planAllowed⟩
  · split
    · exact ensuresOr_verifyPlan nonempty permits _ _ _ _ recorded
    · exact ensuresOr_pure ⟨Asked.refl recorded, planAllowed⟩

theorem ensuresOr_verifyProbePlan (nonempty : minAmount ≤ maxAmount)
    (permits : ∀ amount, InRange minAmount maxAmount amount → allowed amount) {plan : ExactPlan}
    (planAllowed : PlanAllowed allowed (some plan)) (recorded : Requests allowed start) :
    EnsuresOr router.Raises
      (verifyProbePlan router snapshot candidate premiumPpm minAmount maxAmount plan) start
      fun best finish => Asked allowed [] start finish ∧ PlanAllowed allowed best := by
  unfold verifyProbePlan
  split
  · exact ensuresOr_pure ⟨Asked.refl recorded, planAllowed⟩
  · exact ensuresOr_verifyPlan nonempty permits _ _ _ _ recorded

theorem ensuresOr_searchTraderJoeLbBounded
    (recorded : Requests (InRange minAmount maxAmount) start) :
    EnsuresOr router.Raises
      (searchTraderJoeLbBounded router snapshot candidate premiumPpm minAmount maxAmount) start
      fun best finish => Asked (InRange minAmount maxAmount) [] start finish ∧
        PlanAllowed (InRange minAmount maxAmount) best := by
  unfold searchTraderJoeLbBounded
  simp only
  split
  · exact ensuresOr_requestAll (fun _ => Or.inr)
      (fun amount => plansFor_quoteLbCandidateDirect _ amount _)
      (fun amount => boundedLbAmounts_inRange) recorded
  · exact ensuresOr_requestAll (fun _ => Or.inl)
      (fun amount => plansFor_quoteLbCandidateDirect _ amount _)
      (fun amount => boundedLbAmounts_inRange) recorded

/-- The seeds were requested before. -/
theorem requested_of_mem_refinementSeeds (recorded : Requests allowed start) {center : Nat}
    (member : center ∈ refinementSeeds router start.evaluated) : allowed center := by
  obtain ⟨⟨profit, amount⟩, kept, same⟩ := List.mem_map.mp member
  have sorted := List.mem_of_mem_take kept
  rw [(List.perm_insertionSort MoreProfitable _).mem_iff] at sorted
  obtain ⟨plan, stored, _⟩ := mem_evaluatedProfits.mp sorted
  exact same ▸ recorded.requested _ (recorded.evaluated _ _ stored).1

/-- What is known of the amounts when the seeds are chosen. -/
def SeedsInRange (minAmount maxAmount : Nat) (phase : SearchPhase) (finish : SearchState State) :
    Prop :=
  Requests (InRange minAmount maxAmount) finish ∧
    match phase with
    | .finished plan => PlanAllowed (InRange minAmount maxAmount) plan
    | .refine best seeds => PlanAllowed (InRange minAmount maxAmount) best ∧
        ∀ center ∈ seeds, InRange minAmount maxAmount center

theorem ensuresOr_searchSeeds
    (range : router.searcher.searchRange snapshot candidate = some (minAmount, maxAmount))
    (fits : maxAmount ≤ u128Max)
    (suggested : ∀ amount ∈ router.suggestInputAmounts snapshot candidate minAmount maxAmount
      premiumPpm, InRange minAmount maxAmount amount)
    (verifyFinalPlan : Bool) (recorded : Requests (InRange minAmount maxAmount) start) :
    EnsuresOr router.Raises
      (searchSeeds router snapshot candidate premiumPpm minAmount maxAmount verifyFinalPlan) start
      (SeedsInRange minAmount maxAmount) := by
  have nonempty := (searchRange_spec range).2
  have permits : ∀ amount, InRange minAmount maxAmount amount →
      InRange minAmount maxAmount amount := fun _ inside => inside
  unfold searchSeeds
  split
  · refine EnsuresOr.bind ((ensuresOr_searchTraderJoeLbBounded recorded).mono ?_)
    intro best finish ⟨asked, bestAllowed⟩
    exact ensuresOr_pure ⟨asked.recorded, bestAllowed⟩
  · refine EnsuresOr.bind ((ensuresOr_searchFastSized nonempty fits suggested recorded).mono ?_)
    intro fast first ⟨recordedFirst, fastAllowed⟩
    cases fast with
    | some plan =>
      simp only
      split
      · refine EnsuresOr.bind ((ensuresOr_verifyBestPlan nonempty permits fastAllowed
          recordedFirst).mono ?_)
        intro best finish ⟨asked, bestAllowed⟩
        exact ensuresOr_pure ⟨asked.recorded, bestAllowed⟩
      · exact ensuresOr_pure ⟨recordedFirst, fastAllowed⟩
    | none =>
      unfold searchLadder
      refine EnsuresOr.bind ((ensuresOr_considerAll (fun amount => ladder_inRange range)
        recordedFirst planAllowed_none).mono ?_)
      intro ladder second ⟨askedSecond, ladderAllowed, _⟩
      cases ladder with
      | none => exact ensuresOr_pure ⟨askedSecond.recorded, planAllowed_none⟩
      | some best =>
        simp only
        split
        · refine EnsuresOr.bind ((ensuresOr_verifyProbePlan nonempty permits ladderAllowed
            askedSecond.recorded).mono ?_)
          intro probed third ⟨askedThird, probedAllowed⟩
          cases probed with
          | none => exact ensuresOr_pure ⟨askedThird.recorded, planAllowed_none⟩
          | some probed =>
            refine EnsuresOr.bind ((ensuresOr_verifyBestPlan nonempty permits probedAllowed
              askedThird.recorded).mono ?_)
            intro verified finish ⟨asked, verifiedAllowed⟩
            exact ensuresOr_pure ⟨asked.recorded, verifiedAllowed⟩
        · refine EnsuresOr.bind (ensuresOr_get (ensuresOr_pure ⟨askedSecond.recorded,
            ladderAllowed, fun center member => ?_⟩))
          exact requested_of_mem_refinementSeeds askedSecond.recorded member

theorem seedInterval_inRange (nonempty : minAmount ≤ maxAmount) {ordered : List Nat}
    (inside : ∀ amount ∈ ordered, InRange minAmount maxAmount amount) {center : Nat}
    (centerInside : InRange minAmount maxAmount center) :
    minAmount ≤ (seedInterval minAmount maxAmount ordered center).1 ∧
      (seedInterval minAmount maxAmount ordered center).2 ≤ maxAmount := by
  have neighbour : ∀ position amount, InRange minAmount maxAmount amount →
      InRange minAmount maxAmount (ordered.getD position amount) := by
    intro position amount amountInside
    rw [List.getD_eq_getElem?_getD]
    cases found : ordered[position]? with
    | none => exact amountInside
    | some other => exact inside other (List.mem_of_getElem? found)
  unfold seedInterval
  simp only
  constructor
  · split
    · exact Nat.le_refl _
    · exact (neighbour _ _ ⟨Nat.le_refl _, nonempty⟩).1
  · exact Nat.max_le.mpr ⟨(neighbour _ _ ⟨nonempty, Nat.le_refl _⟩).2, centerInside.2⟩

/-- A refinement requests the points of its seed, and otherwise amounts of the range. -/
theorem ensuresOr_refineSeed (nonempty : minAmount ≤ maxAmount) (fits : maxAmount ≤ u128Max)
    (permits : ∀ amount, InRange minAmount maxAmount amount → allowed amount) {ordered : List Nat}
    (inside : ∀ amount ∈ ordered, InRange minAmount maxAmount amount) {center : Nat}
    (centerInside : InRange minAmount maxAmount center)
    (points : ∀ amount ∈ refinementPoints center maxAmount, allowed amount)
    {best : Option ExactPlan} (recorded : Requests allowed start)
    (bestAllowed : PlanAllowed allowed best) :
    EnsuresOr router.Raises
      (refineSeed router snapshot candidate premiumPpm minAmount maxAmount ordered best center)
      start fun better finish => Asked allowed (refinementPoints center maxAmount) start finish ∧
        PlanAllowed allowed better := by
  have interval := seedInterval_inRange nonempty inside centerInside
  have permitsInterval : ∀ amount,
      InRange (seedInterval minAmount maxAmount ordered center).1
        (seedInterval minAmount maxAmount ordered center).2 amount → allowed amount :=
    fun amount inside => permits amount ⟨interval.1.trans inside.1, inside.2.trans interval.2⟩
  unfold refineSeed
  simp only
  refine EnsuresOr.bind ((ensuresOr_considerAll points recorded bestAllowed).mono ?_)
  intro refined first ⟨askedFirst, refinedAllowed, _⟩
  refine EnsuresOr.bind ((ensuresOr_narrow 32 (interval.2.trans fits) permitsInterval
    askedFirst.recorded).mono ?_)
  intro ⟨low, high⟩ second ⟨above, below, askedSecond⟩
  refine (ensuresOr_considerAll (densePoints_allowed permitsInterval above below)
    askedSecond.recorded refinedAllowed).mono ?_
  intro better third ⟨askedThird, betterAllowed, _⟩
  have asked := askedFirst.append (askedSecond.append askedThird)
  exact ⟨asked.subset (List.subset_append_left _ _), betterAllowed⟩

theorem ensuresOr_refineAll (nonempty : minAmount ≤ maxAmount) (fits : maxAmount ≤ u128Max)
    (permits : ∀ amount, InRange minAmount maxAmount amount → allowed amount)
    {ordered seeds : List Nat}
    (ladderInside : ∀ amount ∈ ordered, InRange minAmount maxAmount amount)
    (seedsInside : ∀ center ∈ seeds, InRange minAmount maxAmount center)
    (points : ∀ center ∈ seeds, ∀ amount ∈ refinementPoints center maxAmount, allowed amount)
    {best : Option ExactPlan} (recorded : Requests allowed start)
    (bestAllowed : PlanAllowed allowed best) :
    EnsuresOr router.Raises
      (seeds.foldlM (refineSeed router snapshot candidate premiumPpm minAmount maxAmount ordered)
        best) start fun better finish => Requests allowed finish ∧
          (∀ center ∈ seeds, refinementPoints center maxAmount ⊆ finish.requested) ∧
          start.requested ⊆ finish.requested ∧ PlanAllowed allowed better := by
  induction seeds generalizing best start with
  | nil =>
    refine ensuresOr_pure ⟨recorded, fun center none => ?_, List.Subset.refl _, bestAllowed⟩
    cases none
  | cons center rest inductionHypothesis =>
    rw [List.foldlM_cons]
    rw [List.forall_mem_cons] at seedsInside points
    refine EnsuresOr.bind ((ensuresOr_refineSeed nonempty fits permits ladderInside
      seedsInside.1 points.1 recorded bestAllowed).mono ?_)
    intro better middle ⟨asked, betterAllowed⟩
    refine (inductionHypothesis seedsInside.2 points.2 asked.recorded betterAllowed).mono ?_
    intro last finish ⟨recordedFinish, restPoints, grows, lastAllowed⟩
    refine ⟨recordedFinish, List.forall_mem_cons.mpr ⟨?_, restPoints⟩,
      List.Subset.trans asked.grows grows, lastAllowed⟩
    exact List.Subset.trans asked.asked grows

theorem ensuresOr_refineSeeds
    (range : router.searcher.searchRange snapshot candidate = some (minAmount, maxAmount))
    (fits : maxAmount ≤ u128Max)
    (permits : ∀ amount, InRange minAmount maxAmount amount → allowed amount) {seeds : List Nat}
    (seedsInside : ∀ center ∈ seeds, InRange minAmount maxAmount center)
    (points : ∀ center ∈ seeds, ∀ amount ∈ refinementPoints center maxAmount, allowed amount)
    (verifyFinalPlan : Bool) {best : Option ExactPlan} (recorded : Requests allowed start)
    (bestAllowed : PlanAllowed allowed best) :
    EnsuresOr router.Raises
      (refineSeeds router snapshot candidate premiumPpm minAmount maxAmount verifyFinalPlan best
        seeds) start fun returned finish => Requests allowed finish ∧
          (∀ center ∈ seeds, refinementPoints center maxAmount ⊆ finish.requested) ∧
          PlanAllowed allowed returned := by
  have nonempty := (searchRange_spec range).2
  unfold refineSeeds
  simp only
  have ladderInside : ∀ amount ∈ (router.searcher.ladder snapshot candidate).insertionSort (· ≤ ·),
      InRange minAmount maxAmount amount := by
    intro amount member
    exact ladder_inRange range ((List.perm_insertionSort _ _).mem_iff.mp member)
  generalize (router.searcher.ladder snapshot candidate).insertionSort (· ≤ ·) = ordered
    at ladderInside
  refine EnsuresOr.bind ((ensuresOr_refineAll nonempty fits permits ladderInside seedsInside points
    recorded bestAllowed).mono ?_)
  intro better middle ⟨recordedMiddle, requestedPoints, _, betterAllowed⟩
  cases better with
  | none => exact ensuresOr_pure ⟨recordedMiddle, requestedPoints, planAllowed_none⟩
  | some plan =>
    simp only
    split
    · refine (ensuresOr_verifyBestPlan nonempty permits betterAllowed recordedMiddle).mono ?_
      intro verified finish ⟨asked, verifiedAllowed⟩
      refine ⟨asked.recorded, fun center member => ?_, verifiedAllowed⟩
      exact List.Subset.trans (requestedPoints center member) asked.grows
    · exact ensuresOr_pure ⟨recordedMiddle, requestedPoints, betterAllowed⟩

end Phases

/-! ### Within the range -/

/-- Every requested amount is in the range, and so is the input of the returned plan. -/
def SearchedInRange {State : Type} (minAmount maxAmount : Nat) (returned : Option ExactPlan)
    (finish : SearchState State) : Prop :=
  (∀ amount ∈ finish.requested, InRange minAmount maxAmount amount) ∧
    ∀ plan, returned = some plan → InRange minAmount maxAmount plan.inputAmount

/-- Halving the seed, and cutting a multiple of it to `u128` before the division, do not lead below
the least amount. -/
def SeedFits (minAmount seed : Nat) : Prop :=
  seed = 1 ∨ 2 * minAmount ≤ seed ∧ minAmount < 2 ^ 125

/-- When the search goes on to refine, every seed fits. -/
def SeedsFit {State : Type} (router : Router State) (snapshot : GraphSnapshot)
    (candidate : CandidatePath) (premiumPpm minAmount maxAmount : Nat) (verifyFinalPlan : Bool)
    (quoter : State) : Prop :=
  Ensures (searchSeeds router snapshot candidate premiumPpm minAmount maxAmount verifyFinalPlan)
    (searchStart quoter) fun phase _ =>
      ∀ best seeds, phase = .refine best seeds → ∀ seed ∈ seeds, SeedFits minAmount seed

/-- The refinement points of a seed of the range are in the range exactly if the seed fits. -/
theorem refinementPoints_inRange_iff {minAmount maxAmount seed : Nat} (positive : 0 < minAmount)
    (inside : InRange minAmount maxAmount seed) (fits : maxAmount ≤ u128Max) :
    (∀ amount ∈ refinementPoints seed maxAmount, InRange minAmount maxAmount amount) ↔
      SeedFits minAmount seed := by
  unfold refinementPoints
  simp only [mem_sortedPoints, List.mem_filter, List.mem_cons, List.not_mem_nil, or_false,
    decide_eq_true_eq, saturatingMul]
  unfold InRange at inside ⊢
  unfold SeedFits
  unfold u128Max at fits ⊢
  constructor
  · intro points
    rcases Nat.lt_or_ge seed 2 with one | two
    · exact Or.inl (by omega)
    · have half := points (seed / 2) ⟨Or.inl rfl, by omega, by omega⟩
      have seven := points (min (seed * 7) (2 ^ 128 - 1) / 8)
        ⟨Or.inr (Or.inr (Or.inl rfl)), by omega, by omega⟩
      exact Or.inr ⟨by omega, by omega⟩
  · rintro seedFits amount ⟨point, positiveAmount, below⟩
    refine ⟨?_, below⟩
    rcases seedFits with one | ⟨twice, small⟩
    · omega
    · rcases point with same | same | same | same | same | same | same | same
      all_goals omega

/-- The loops over amounts end by themselves: more rounds add nothing to the ladder of the range or
to the points of an interval. -/
def LoopsEnd (minAmount maxAmount : Nat) : Prop :=
  (∀ rounds, climb doubled maxAmount (130 + rounds) minAmount =
    climb doubled maxAmount 130 minAmount) ∧
  ∀ low high step rounds,
    climb (saturatingAdd u128Max · step) high (high - low + 1 + rounds) low =
      climb (saturatingAdd u128Max · step) high (high - low + 1) low

theorem loopsEnd {minAmount maxAmount : Nat} (positive : 0 < minAmount)
    (fits : maxAmount ≤ u128Max) : LoopsEnd minAmount maxAmount := by
  constructor
  · intro rounds
    induction rounds with
    | zero => rfl
    | succ rounds inductionHypothesis =>
      have more : 130 + (rounds + 1) = 129 + rounds + 2 := by omega
      have same : 130 + rounds = 129 + rounds + 1 := by omega
      rw [← inductionHypothesis, more, same]
      refine climb_doubled_succ fits ?_
      calc u128Max < 2 ^ 129 := by decide
        _ ≤ 2 ^ (129 + rounds) := Nat.pow_le_pow_right (by decide) (Nat.le_add_right _ _)
        _ ≤ minAmount * 2 ^ (129 + rounds) := Nat.le_mul_of_pos_left _ positive
  · intro low high step rounds
    induction rounds with
    | zero => rfl
    | succ rounds inductionHypothesis =>
      rw [← inductionHypothesis, ← Nat.add_assoc]
      exact climb_succ _ (by omega)

theorem requests_searchStart {State : Type} (allowed : Nat → Prop) (quoter : State) :
    Requests allowed (searchStart quoter) := by
  refine ⟨fun amount none => ?_, fun amount plan none => ?_⟩
  · cases none
  · cases none

/-- A search of a range fails only when the premium or a quote does, its loops end, and it stays
within the range exactly if the seeds that it refines around fit. -/
theorem searchedInRange_iff {State : Type} (router : Router State) (snapshot : GraphSnapshot)
    (candidate : CandidatePath) (premiumPpm : Except RpcError Nat) (verifyFinalPlan : Bool)
    (quoter : State) {minAmount maxAmount : Nat}
    (range : router.searcher.searchRange snapshot candidate = some (minAmount, maxAmount))
    (fits : maxAmount ≤ u128Max)
    (suggested : ∀ premium, ∀ amount ∈ router.suggestInputAmounts snapshot candidate minAmount
      maxAmount premium, InRange minAmount maxAmount amount) :
    EnsuresOr (fun reason => premiumPpm = .error reason ∨ router.Raises reason)
      (searchBestPlanWithStatsMode router snapshot candidate premiumPpm verifyFinalPlan)
      (searchStart quoter) (fun returned finish =>
        SearchedInRange minAmount maxAmount returned finish ↔
          ∀ premium, premiumPpm = .ok premium → SeedsFit router snapshot candidate premium
            minAmount maxAmount verifyFinalPlan quoter) ∧
      LoopsEnd minAmount maxAmount := by
  have positive := (searchRange_spec range).1
  refine ⟨?_, loopsEnd positive fits⟩
  unfold searchBestPlanWithStatsMode
  refine EnsuresOr.bind (ensuresOr_attempt (fun premium fetched => ?_) fun reason => Or.inl)
  simp only [range]
  refine EnsuresOr.mono_raises ?_ fun reason => Or.inr
  have condition : (∀ other, premiumPpm = .ok other → SeedsFit router snapshot candidate other
      minAmount maxAmount verifyFinalPlan quoter) ↔ SeedsFit router snapshot candidate premium
        minAmount maxAmount verifyFinalPlan quoter := by
    constructor
    · intro all
      exact all premium fetched
    · intro one other otherFetched
      have same : premium = other := Except.ok.inj (fetched.symm.trans otherFetched)
      exact same ▸ one
  unfold searchBestPlan
  refine EnsuresOr.bind ((ensuresOr_searchSeeds range fits (suggested premium) verifyFinalPlan
    (requests_searchStart _ quoter)).and_run.mono ?_)
  intro phase middle ⟨⟨recorded, phaseInRange⟩, ran⟩
  have atRun : SeedsFit router snapshot candidate premium minAmount maxAmount verifyFinalPlan
      quoter ↔ ∀ best seeds, phase = .refine best seeds → ∀ seed ∈ seeds, SeedFits minAmount seed :=
    ensures_iff_of_run ran _
  simp only [condition, atRun]
  cases phase with
  | finished plan =>
    refine ensuresOr_pure (iff_of_true ⟨recorded.requested, phaseInRange⟩ fun best seeds none => ?_)
    cases none
  | refine best seeds =>
    obtain ⟨bestInRange, seedsInside⟩ := phaseInRange
    by_cases seedsFit : ∀ seed ∈ seeds, SeedFits minAmount seed
    · refine (ensuresOr_refineSeeds range fits (fun _ inside => inside) seedsInside
        (fun seed member => ?_) verifyFinalPlan recorded bestInRange).mono ?_
      · exact (refinementPoints_inRange_iff positive (seedsInside seed member) fits).mpr
          (seedsFit seed member)
      · intro returned finish ⟨recordedFinish, _, returnedInRange⟩
        refine iff_of_true ⟨recordedFinish.requested, returnedInRange⟩ fun _ others same => ?_
        injection same with _ sameSeeds
        exact sameSeeds ▸ seedsFit
    · have anything : Requests (fun _ => True) middle :=
        ⟨fun _ _ => trivial, recorded.evaluated⟩
      refine (ensuresOr_refineSeeds range fits (fun _ _ => trivial) seedsInside
        (fun _ _ _ _ => trivial) verifyFinalPlan anything fun _ _ => trivial).mono ?_
      intro returned finish ⟨_, requestedPoints, _⟩
      refine iff_of_false (fun searched => seedsFit fun seed member => ?_) fun all => seedsFit ?_
      · refine (refinementPoints_inRange_iff positive (seedsInside seed member) fits).mp ?_
        exact fun amount point => searched.1 amount (requestedPoints seed member point)
      · exact all best seeds rfl

/-! ### A seed at the least amount -/

def centToken (address : Address) : TokenInfo :=
  { crossedToken address with decimals := 4 }

/-- Without a price the least amount is a hundredth of a token, here 100. -/
def centSnapshot : GraphSnapshot :=
  GraphSnapshot.build crossedRates 1 none [centToken 1, centToken 2]
    (HashMap.ofList [(10, crossedPool 10 1000000 4000000)])

/-- Every amount comes back as it was, except that 100 gains 5 and 50 gains 10. -/
def lowQuoter : Quoter Unit where
  quotePool _ tokenIn _ amount :=
    pure <|
      if tokenIn = 1 then amount
      else if amount = 100 then 105
      else if amount = 50 then 60
      else amount
  finishOrder _ count := List.range count
  finishOrder_perm _ count := perm_inOrder count

def freePremium : Except RpcError Nat := .ok 0

def lowSearch : Except RpcError (Option ExactPlan × SearchState Unit) :=
  (searchBestPlanWithStatsMode (ladderRouter lowQuoter) centSnapshot thereAndBack freePremium
    false).run (searchStart ())

theorem searchRange_lowQuoter : (ladderRouter lowQuoter).searcher.searchRange centSnapshot
    thereAndBack = some (100, 10000) := by decide +kernel

theorem suggested_ladderRouter (quoter : Quoter Unit) {minAmount maxAmount : Nat} :
    ∀ premium, ∀ amount ∈ (ladderRouter quoter).suggestInputAmounts centSnapshot thereAndBack
      minAmount maxAmount premium, InRange minAmount maxAmount amount := by
  intro premium amount none
  cases none

theorem searchedInRange_lowQuoter :
    EnsuresOr (fun reason => freePremium = .error reason ∨ (ladderRouter lowQuoter).Raises reason)
      (searchBestPlanWithStatsMode (ladderRouter lowQuoter) centSnapshot thereAndBack freePremium
        false)
      (searchStart ()) (fun returned finish =>
        SearchedInRange 100 10000 returned finish ↔
          ∀ premium, freePremium = .ok premium → SeedsFit (ladderRouter lowQuoter) centSnapshot
            thereAndBack premium 100 10000 false ()) ∧
      LoopsEnd 100 10000 :=
  searchedInRange_iff (ladderRouter lowQuoter) centSnapshot thereAndBack freePremium false ()
    searchRange_lowQuoter (by decide) (suggested_ladderRouter lowQuoter)

/-- The refinement around 100 evaluates 50, below the least amount, and the search returns its
plan. -/
theorem not_searchedInRange_lowQuoter :
    (ladderRouter lowQuoter).searcher.searchRange centSnapshot thereAndBack = some (100, 10000) ∧
      ∃ returned finish, lowSearch = .ok (returned, finish) ∧
        ¬ SearchedInRange 100 10000 returned finish := by
  have input : lowSearch.toOption.bind (fun outcome => outcome.1.map ExactPlan.inputAmount) =
      some 50 := by decide +kernel
  refine ⟨searchRange_lowQuoter, ?_⟩
  cases ran : lowSearch with
  | error reason =>
    rw [ran] at input
    cases input
  | ok outcome =>
    obtain ⟨returned, finish⟩ := outcome
    rw [ran] at input
    obtain ⟨plan, isPlan, fifty⟩ := Option.map_eq_some_iff.mp input
    refine ⟨returned, finish, rfl, fun searched => ?_⟩
    have least := (searched.2 plan isPlan).1
    rw [fifty] at least
    exact absurd least (by decide)

end DexArbitrage
