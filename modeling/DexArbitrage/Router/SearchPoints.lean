/-
This file says which amounts a search evaluates when the answers of its oracle
are given. An amount is quoted once in a search, since its plan is kept, so the
answers are a function of the amount, whatever state the oracle has. From them
follow, one interval after the other, the amounts that the search compares with
its best plan, those it uses for their profit only, and those it drops with the
best plan of a fast search.

The functions of points are not in the source: they read the amounts off the
answers alone, and `leads_searchBestPlan` shows that the search evaluates these.
-/

import DexArbitrage.Router.PlanSearch

namespace DexArbitrage

/-! ### Points -/

section Points

variable {State : Type} (answers : Nat → Option ExactPlan)

/-- The better plan of a best one and those of the given amounts. -/
def betterAnswer (best : Option ExactPlan) (amounts : List Nat) : Option ExactPlan :=
  amounts.foldl (fun best amount => betterPlan? best (answers amount)) best

theorem betterAnswer_append (best : Option ExactPlan) (first second : List Nat) :
    betterAnswer answers best (first ++ second) =
      betterAnswer answers (betterAnswer answers best first) second :=
  List.foldl_append

/-- The map after an amount was evaluated. -/
def recordAnswer (evaluated : HashMap Nat (Option ExactPlan)) (amount : Nat) :
    HashMap Nat (Option ExactPlan) :=
  match evaluated.lookup amount with
  | some _ => evaluated
  | none => evaluated.insert amount (answers amount)

/-- The map after the amounts were evaluated in turn. -/
def recordAnswers (evaluated : HashMap Nat (Option ExactPlan)) (amounts : List Nat) :
    HashMap Nat (Option ExactPlan) :=
  amounts.foldl (recordAnswer answers) evaluated

/-- The amounts at which an interval is probed while it shrinks by thirds, and the interval that is
left. -/
def thirds : Nat → Nat → Nat → List Nat × Nat × Nat
  | 0, low, high => ([], low, high)
  | rounds + 1, low, high =>
    if high - low ≤ 32 then
      ([], low, high)
    else
      let midLeft := low + (high - low) / 3
      let midRight := high - (high - low) / 3
      let (probed, interval) :=
        if planProfit (answers midLeft) < planProfit (answers midRight) then
          thirds rounds (saturatingAdd u128Max midLeft 1) high
        else
          thirds rounds low (max (midRight - 1) low)
      (midLeft :: midRight :: probed, interval)

/-- The amounts around one interval: those compared before it shrinks, those probed while it
shrinks, and those compared in what is left of it. -/
structure IntervalPoints where
  first : List Nat
  probed : List Nat
  dense : List Nat

def IntervalPoints.compared (points : IntervalPoints) : List Nat :=
  points.first ++ points.dense

def IntervalPoints.evaluated (points : IntervalPoints) : List Nat :=
  points.first ++ (points.probed ++ points.dense)

def intervalPoints (rounds targetCount : Nat) (first : List Nat) (interval : Nat × Nat) :
    IntervalPoints :=
  let shrunk := thirds answers rounds interval.1 interval.2
  { first, probed := shrunk.1, dense := densePoints shrunk.2.1 shrunk.2.2 targetCount }

theorem intervalPoints_first (rounds targetCount : Nat) (first : List Nat) (interval : Nat × Nat) :
    (intervalPoints answers rounds targetCount first interval).first = first :=
  rfl

variable (router : Router State) (snapshot : GraphSnapshot) (candidate : CandidatePath)
  (premiumPpm minAmount maxAmount : Nat)

/-- The amounts of a fast search and the plan it returns. -/
def fastPoints : IntervalPoints × Option ExactPlan :=
  let suggested := router.suggestInputAmounts snapshot candidate minAmount maxAmount premiumPpm
  match betterAnswer answers none suggested with
  | none => ({ first := suggested, probed := [], dense := [] }, none)
  | some initialBest =>
    let interval := fastInterval minAmount maxAmount initialBest.inputAmount
    let (low, high) := (thirds answers 12 interval.1 interval.2).2
    let points := intervalPoints answers 12 16 suggested interval
    (points, (betterAnswer answers none points.compared).filter fun best =>
      ! needsWideFallback minAmount maxAmount low high best)

/-- The amounts of the refinement around a seed. -/
def seedPoints (center : Nat) : IntervalPoints :=
  let ordered := (router.searcher.ladder snapshot candidate).insertionSort (· ≤ ·)
  intervalPoints answers 32 64 (refinementPoints center maxAmount)
    (seedInterval minAmount maxAmount ordered center)

/-- The amounts that a search evaluates: those of a fast search that returned no plan, those whose
plans are compared with the best one, and those of which only the profit is used. -/
structure SearchPoints where
  dropped : List Nat
  compared : List Nat
  probed : List Nat

/-- The amounts to refine around, after the given ones and the ladder were evaluated. -/
def seedsAfter (dropped : List Nat) : List Nat :=
  refinementSeeds router
    (recordAnswers answers (recordAnswers answers ∅ dropped)
      (router.searcher.ladder snapshot candidate))

def widePoints (dropped : List Nat) : SearchPoints :=
  let ladder := router.searcher.ladder snapshot candidate
  match betterAnswer answers none ladder with
  | none => { dropped, compared := ladder, probed := [] }
  | some _ =>
    let points := (seedsAfter answers router snapshot candidate dropped).map
      (seedPoints answers router snapshot candidate minAmount maxAmount)
    { dropped
      compared := ladder ++ points.flatMap IntervalPoints.compared
      probed := points.flatMap IntervalPoints.probed }

/-- The amounts of a search whose range is given. -/
def rangePoints : SearchPoints :=
  match fastPoints answers router snapshot candidate premiumPpm minAmount maxAmount with
  | (points, some _) => { dropped := [], compared := points.compared, probed := points.probed }
  | (points, none) =>
    widePoints answers router snapshot candidate minAmount maxAmount points.evaluated

def searchPoints : SearchPoints :=
  match router.searcher.searchRange snapshot candidate with
  | none => { dropped := [], compared := [], probed := [] }
  | some (minAmount, maxAmount) =>
    if candidateUsesOnlyTraderJoeLb candidate then
      { dropped := [], compared := [], probed := [] }
    else
      rangePoints answers router snapshot candidate premiumPpm minAmount maxAmount

end Points

/-! ### Programs that evaluate given amounts -/

section Leads

variable {State Value Result : Type} (answers : Nat → Option ExactPlan)

/-- The answers are those of the evaluated amounts. -/
def Answered (evaluated : HashMap Nat (Option ExactPlan)) : Prop :=
  ∀ amount plan, evaluated.lookup amount = some plan → plan = answers amount

/-- A program keeps what was evaluated before. -/
def Keeps (program : SearchProgram State Value) : Prop :=
  ∀ start, Ensures program start fun _ finish => ∀ amount plan,
    start.evaluated.lookup amount = some plan → finish.evaluated.lookup amount = some plan

/-- If the answers are as given, a program evaluates the amounts and finds the value. -/
def Leads (program : SearchProgram State Value) (start : SearchState State) (amounts : List Nat)
    (value : Value) : Prop :=
  Ensures program start fun found finish =>
    (∀ amount plan, start.evaluated.lookup amount = some plan →
      finish.evaluated.lookup amount = some plan) ∧
    (Answered answers finish.evaluated →
      found = value ∧ finish.evaluated = recordAnswers answers start.evaluated amounts)

variable {answers} {start : SearchState State} {amounts others : List Nat} {value : Value}
  {result : Result} {program : SearchProgram State Value}
  {next : Value → SearchProgram State Result}

variable (answers) in
theorem keeps_of_leads
    (leads : ∀ start, ∃ amounts value, Leads answers program start amounts value) :
    Keeps program := by
  intro start
  obtain ⟨_, _, leadsFrom⟩ := leads start
  exact leadsFrom.mono fun _ _ outcome => outcome.1

theorem keeps_pure (value : Value) : Keeps (pure value : SearchProgram State Value) :=
  fun start => (ensures_pure value start _).mpr fun _ _ stored => stored

theorem keeps_get : Keeps (get : SearchProgram State (SearchState State)) :=
  fun start => (ensures_get start _).mpr fun _ _ stored => stored

theorem Keeps.bind (first : Keeps program) (second : ∀ value, Keeps (next value)) :
    Keeps (program >>= next) := by
  intro start
  rw [ensures_bind]
  refine (first start).mono fun value middle kept => ?_
  refine (second value middle).mono fun result finish keptRest amount plan stored => ?_
  exact keptRest amount plan (kept amount plan stored)

theorem Keeps.foldlM {Element : Type} {program : Value → Element → SearchProgram State Value}
    (each : ∀ value element, Keeps (program value element)) (elements : List Element)
    (value : Value) : Keeps (elements.foldlM program value) := by
  induction elements generalizing value with
  | nil => exact keeps_pure value
  | cons element rest inductionHypothesis =>
    rw [List.foldlM_cons]
    exact (each value element).bind inductionHypothesis

theorem leads_pure (value : Value) : Leads answers (pure value) start [] value :=
  (ensures_pure value start _).mpr ⟨fun _ _ stored => stored, fun _ => ⟨rfl, rfl⟩⟩

theorem leads_throw (reason : RpcError) (value : Value) :
    Leads answers (throw reason) start amounts value :=
  (ensures_throw reason start _).mpr trivial

theorem leads_modify {change : SearchState State → SearchState State}
    (same : (change start).evaluated = start.evaluated) :
    Leads answers (modify change) start [] PUnit.unit := by
  unfold Leads
  rw [ensures_modify, same]
  exact ⟨fun _ _ stored => stored, fun _ => ⟨rfl, rfl⟩⟩

/-- The second program is looked at where the first one has found its value: elsewhere the answers
are others already, and they stay others. -/
theorem Leads.bind (first : Leads answers program start amounts value)
    (keeps : ∀ value, Keeps (next value))
    (second : ∀ middle : SearchState State,
      middle.evaluated = recordAnswers answers start.evaluated amounts →
        Leads answers (next value) middle others result) :
    Leads answers (program >>= next) start (amounts ++ others) result := by
  unfold Leads
  rw [ensures_bind]
  refine first.mono fun found middle ⟨kept, follows⟩ => ?_
  have keepsRest := keeps found middle
  by_cases answered : Answered answers middle.evaluated
  · obtain ⟨same, recorded⟩ := follows answered
    subst same
    refine (second middle recorded).mono fun last finish ⟨keptRest, followsRest⟩ => ?_
    refine ⟨fun amount plan stored => keptRest amount plan (kept amount plan stored), ?_⟩
    intro answeredRest
    obtain ⟨sameResult, recordedRest⟩ := followsRest answeredRest
    refine ⟨sameResult, ?_⟩
    rw [recordedRest, recorded]
    exact List.foldl_append.symm
  · refine keepsRest.mono fun last finish keptRest => ?_
    refine ⟨fun amount plan stored => keptRest amount plan (kept amount plan stored), ?_⟩
    exact fun answeredRest => absurd (fun amount plan stored =>
      answeredRest amount plan (keptRest amount plan stored)) answered

/-- The second program evaluates nothing. -/
theorem Leads.bind_nil (first : Leads answers program start amounts value)
    (keeps : ∀ value, Keeps (next value))
    (second : ∀ middle : SearchState State,
      middle.evaluated = recordAnswers answers start.evaluated amounts →
        Leads answers (next value) middle [] result) :
    Leads answers (program >>= next) start amounts result := by
  have leads := first.bind keeps second
  rw [List.append_nil] at leads
  exact leads

theorem Leads.attempt {outcome : Except RpcError Value}
    (leads : ∀ value, outcome = .ok value → Leads answers (next value) start amounts result) :
    Leads answers (DexArbitrage.attempt outcome >>= next) start amounts result := by
  unfold Leads
  rw [ensures_bind, ensures_attempt]
  exact leads

end Leads

/-! ### One evaluation, one interval -/

section Evaluate

variable {State : Type} {router : Router State} {snapshot : GraphSnapshot}
  {candidate : CandidatePath} {premiumPpm : Nat} {answers : Nat → Option ExactPlan}
  {start : SearchState State}

theorem ensures_request {Value : Type} (amount : Nat) (program : Program State RpcError Value)
    (start : SearchState State) (post : Value → SearchState State → Prop) :
    Ensures (request amount program) start post ↔
      Ensures program start.quoter fun value quoter =>
        post value { start with quoter, requested := start.requested ++ [amount] } := by
  cases quoted : program.run start.quoter with
  | error reason =>
    refine iff_of_true (fun value finish ran => ?_) fun value finish ran => ?_
    · rw [run_request_of_error quoted] at ran
      cases ran
    · rw [quoted] at ran
      cases ran
  | ok outcome =>
    constructor
    · intro ensures value finish ran
      rw [quoted] at ran
      injection ran with same
      rw [same] at quoted
      exact ensures value _ (run_request_of_ok quoted)
    · intro ensures value finish ran
      rw [run_request_of_ok quoted] at ran
      injection ran with same
      injection same with sameValue sameState
      rw [← sameValue, ← sameState]
      exact ensures outcome.1 outcome.2 quoted

theorem leads_evaluateAmount (amount : Nat) :
    Leads answers (evaluateAmount router snapshot candidate premiumPpm amount) start [amount]
      (answers amount) := by
  unfold Leads evaluateAmount
  rw [ensures_bind, ensures_get]
  split
  · rename_i plan stored
    rw [ensures_pure]
    refine ⟨fun _ _ kept => kept, fun answered => ⟨answered amount plan stored, ?_⟩⟩
    unfold recordAnswers
    rw [List.foldl_cons, List.foldl_nil, recordAnswer, stored]
  · rename_i missing
    rw [ensures_bind, ensures_request]
    intro plan quoter _
    rw [ensures_bind, ensures_modify, ensures_pure]
    refine ⟨fun other value stored => ?_, fun answered => ?_⟩
    · rw [HashMap.lookup_insert]
      split
      · rename_i same
        rw [same, missing] at stored
        cases stored
      · exact stored
    · have same : plan = answers amount := by
        refine answered amount plan ?_
        rw [HashMap.lookup_insert, if_pos rfl]
      refine ⟨same, ?_⟩
      unfold recordAnswers
      rw [List.foldl_cons, List.foldl_nil, recordAnswer, missing, same]

theorem leads_consider (best : Option ExactPlan) (amount : Nat) :
    Leads answers (consider router snapshot candidate premiumPpm best amount) start [amount]
      (betterPlan? best (answers amount)) := by
  unfold consider
  exact (leads_evaluateAmount amount).bind (fun _ => keeps_pure _) fun _ _ => leads_pure _

theorem leads_considerAll (best : Option ExactPlan) (amounts : List Nat) :
    Leads answers (considerAll router snapshot candidate premiumPpm best amounts) start amounts
      (betterAnswer answers best amounts) := by
  induction amounts generalizing best start with
  | nil => exact leads_pure best
  | cons amount rest inductionHypothesis =>
    unfold considerAll at inductionHypothesis ⊢
    rw [List.foldlM_cons]
    refine (leads_consider best amount).bind (fun better => ?_) fun _ _ => inductionHypothesis _
    exact keeps_of_leads answers fun _ => ⟨_, _, inductionHypothesis better⟩

theorem keeps_considerAll (best : Option ExactPlan) (amounts : List Nat) :
    Keeps (considerAll router snapshot candidate premiumPpm best amounts) :=
  keeps_of_leads (fun _ => none) fun _ => ⟨_, _, leads_considerAll best amounts⟩

theorem leads_evaluateProfit (amount : Nat) :
    Leads answers (evaluateProfit router snapshot candidate premiumPpm amount) start [amount]
      (planProfit (answers amount)) := by
  unfold evaluateProfit
  exact (leads_evaluateAmount amount).bind (fun _ => keeps_pure _) fun _ _ => leads_pure _

theorem eq_of_u128Sub {left right difference : Nat}
    (subtracted : u128Sub left right = .ok difference) : difference = left - right := by
  unfold u128Sub at subtracted
  split at subtracted
  · injection subtracted with same
    exact same.symm
  · cases subtracted

theorem eq_of_u128Add {left right sum : Nat} (added : u128Add left right = .ok sum) :
    sum = left + right := by
  unfold u128Add at added
  split at added
  · injection added with same
    exact same.symm
  · cases added

theorem leads_narrow (rounds low high : Nat) :
    Leads answers (narrow router snapshot candidate premiumPpm rounds low high) start
      (thirds answers rounds low high).1 (thirds answers rounds low high).2 := by
  induction rounds generalizing low high start with
  | zero => exact leads_pure (low, high)
  | succ rounds inductionHypothesis =>
    have keeps : ∀ low high, Keeps (narrow router snapshot candidate premiumPpm rounds low high) :=
      fun low high => keeps_of_leads answers fun _ => ⟨_, _, inductionHypothesis low high⟩
    unfold narrow thirds
    split
    · exact leads_pure (low, high)
    · refine Leads.attempt fun width isWidth => Leads.attempt fun midLeft isLeft =>
        Leads.attempt fun midRight isRight => ?_
      rw [eq_of_u128Sub isRight, eq_of_u128Add isLeft, eq_of_u128Sub isWidth]
      dsimp only
      have shrunk : ∀ leftProfit rightProfit : Int, Keeps (if leftProfit < rightProfit then
          narrow router snapshot candidate premiumPpm rounds
            (saturatingAdd u128Max (low + (high - low) / 3) 1) high
        else
          narrow router snapshot candidate premiumPpm rounds low
            (max (high - (high - low) / 3 - 1) low)) := by
        intro leftProfit rightProfit
        split
        · exact keeps _ _
        · exact keeps _ _
      refine (leads_evaluateProfit _).bind (fun leftProfit => ?_) fun _ _ =>
        (leads_evaluateProfit _).bind (shrunk _) fun _ _ => ?_
      · refine Keeps.bind (keeps_of_leads answers fun _ => ⟨_, _, leads_evaluateProfit _⟩) ?_
        exact shrunk leftProfit
      · split
        · exact inductionHypothesis _ _
        · exact inductionHypothesis _ _

theorem keeps_narrow (rounds low high : Nat) :
    Keeps (narrow router snapshot candidate premiumPpm rounds low high) :=
  keeps_of_leads (fun _ => none) fun _ => ⟨_, _, leads_narrow rounds low high⟩

/-- An interval is shrunk and what is left of it compared. -/
theorem leads_interval (best : Option ExactPlan) (rounds targetCount : Nat) (first : List Nat)
    (interval : Nat × Nat) :
    Leads answers (do
        let best ← considerAll router snapshot candidate premiumPpm best first
        let (low, high) ← narrow router snapshot candidate premiumPpm rounds interval.1 interval.2
        considerAll router snapshot candidate premiumPpm best (densePoints low high targetCount))
      start (intervalPoints answers rounds targetCount first interval).evaluated
      (betterAnswer answers best
        (intervalPoints answers rounds targetCount first interval).compared) := by
  rw [IntervalPoints.compared, betterAnswer_append]
  refine (leads_considerAll best first).bind (fun better => ?_) fun _ _ =>
    (leads_narrow rounds interval.1 interval.2).bind (fun _ => ?_) fun _ _ => ?_
  · exact (keeps_narrow rounds _ _).bind fun _ => keeps_considerAll _ _
  · exact keeps_considerAll _ _
  · exact leads_considerAll _ _

end Evaluate

/-! ### The phases of a search -/

section Phases

variable {State : Type} {router : Router State} {snapshot : GraphSnapshot}
  {candidate : CandidatePath} {premiumPpm minAmount maxAmount : Nat}
  {answers : Nat → Option ExactPlan} {start : SearchState State}

theorem leads_refineSeed (best : Option ExactPlan) (center : Nat) :
    Leads answers (refineSeed router snapshot candidate premiumPpm minAmount maxAmount
        ((router.searcher.ladder snapshot candidate).insertionSort (· ≤ ·)) best center) start
      (seedPoints answers router snapshot candidate minAmount maxAmount center).evaluated
      (betterAnswer answers best
        (seedPoints answers router snapshot candidate minAmount maxAmount center).compared) := by
  unfold refineSeed
  simp only
  exact leads_interval best 32 64 (refinementPoints center maxAmount) (seedInterval minAmount
    maxAmount ((router.searcher.ladder snapshot candidate).insertionSort (· ≤ ·)) center)

theorem leads_refineAll (best : Option ExactPlan) (seeds : List Nat) :
    Leads answers (seeds.foldlM (refineSeed router snapshot candidate premiumPpm minAmount maxAmount
        ((router.searcher.ladder snapshot candidate).insertionSort (· ≤ ·))) best) start
      ((seeds.map (seedPoints answers router snapshot candidate minAmount
        maxAmount)).flatMap IntervalPoints.evaluated)
      (betterAnswer answers best ((seeds.map (seedPoints answers router snapshot candidate minAmount
        maxAmount)).flatMap IntervalPoints.compared)) := by
  induction seeds generalizing best start with
  | nil => exact leads_pure best
  | cons center rest inductionHypothesis =>
    rw [List.foldlM_cons, List.map_cons, List.flatMap_cons, List.flatMap_cons, betterAnswer_append]
    refine (leads_refineSeed best center).bind (fun better => ?_) fun _ _ => inductionHypothesis _
    exact keeps_of_leads answers fun _ => ⟨_, _, inductionHypothesis better⟩

theorem leads_concludeFast (low high : Nat) (best : Option ExactPlan) :
    Leads answers (concludeFast minAmount maxAmount low high best) start []
      (best.filter fun best => ! needsWideFallback minAmount maxAmount low high best) := by
  cases best with
  | none => exact leads_throw _ _
  | some best =>
    unfold concludeFast
    rw [Option.filter_some]
    dsimp only
    cases needsWideFallback minAmount maxAmount low high best with
    | true =>
      refine Leads.bind (leads_modify ?_) (fun _ => keeps_pure _) fun _ _ => leads_pure none
      rfl
    | false => exact leads_pure (some best)

theorem keeps_concludeFast (low high : Nat) (best : Option ExactPlan) :
    Keeps (concludeFast minAmount maxAmount low high best : SearchProgram State _) :=
  keeps_of_leads (fun _ => none) fun _ => ⟨_, _, leads_concludeFast low high best⟩

/-- A fast search goes on in the interval around the best of the suggested amounts. -/
theorem leads_shrinkFast (initial : Option ExactPlan) (first : List Nat) (interval : Nat × Nat) :
    Leads answers (do
        let (low, high) ← narrow router snapshot candidate premiumPpm 12 interval.1 interval.2
        let best ← considerAll router snapshot candidate premiumPpm initial
          (densePoints low high 16)
        concludeFast minAmount maxAmount low high best) start
      ((intervalPoints answers 12 16 first interval).probed ++
        (intervalPoints answers 12 16 first interval).dense)
      ((betterAnswer answers initial (intervalPoints answers 12 16 first interval).dense).filter
        fun best => ! needsWideFallback minAmount maxAmount
          (thirds answers 12 interval.1 interval.2).2.1
          (thirds answers 12 interval.1 interval.2).2.2 best) := by
  have narrowed : ∀ start, Leads answers (narrow router snapshot candidate premiumPpm 12 interval.1
      interval.2) start _ _ := fun start => leads_narrow 12 interval.1 interval.2
  unfold intervalPoints
  generalize thirds answers 12 interval.1 interval.2 = shrunk at narrowed ⊢
  obtain ⟨probed, low, high⟩ := shrunk
  refine (narrowed start).bind (fun _ => ?_) fun _ _ => ?_
  · exact (keeps_considerAll _ _).bind fun _ => keeps_concludeFast _ _ _
  · refine (leads_considerAll _ _).bind_nil (fun _ => keeps_concludeFast _ _ _) fun _ _ => ?_
    exact leads_concludeFast low high _

theorem keeps_shrinkFast (initial : Option ExactPlan) (interval : Nat × Nat) :
    Keeps (do
      let (low, high) ← narrow router snapshot candidate premiumPpm 12 interval.1 interval.2
      let best ← considerAll router snapshot candidate premiumPpm initial (densePoints low high 16)
      concludeFast minAmount maxAmount low high best) :=
  keeps_of_leads (fun _ => none) fun _ => ⟨_, _, leads_shrinkFast initial [] interval⟩

theorem fastPoints_of_none (found : betterAnswer answers none
      (router.suggestInputAmounts snapshot candidate minAmount maxAmount premiumPpm) = none) :
    fastPoints answers router snapshot candidate premiumPpm minAmount maxAmount =
      ({ first := router.suggestInputAmounts snapshot candidate minAmount maxAmount premiumPpm
         probed := [], dense := [] }, none) := by
  unfold fastPoints
  simp only [found]

theorem fastPoints_of_some {initialBest : ExactPlan} (found : betterAnswer answers none
      (router.suggestInputAmounts snapshot candidate minAmount maxAmount premiumPpm) =
        some initialBest) :
    fastPoints answers router snapshot candidate premiumPpm minAmount maxAmount =
      let interval := fastInterval minAmount maxAmount initialBest.inputAmount
      let points := intervalPoints answers 12 16
        (router.suggestInputAmounts snapshot candidate minAmount maxAmount premiumPpm) interval
      (points, (betterAnswer answers (some initialBest) points.dense).filter
        fun best => ! needsWideFallback minAmount maxAmount
          (thirds answers 12 interval.1 interval.2).2.1
          (thirds answers 12 interval.1 interval.2).2.2 best) := by
  unfold fastPoints
  simp only [found, IntervalPoints.compared, betterAnswer_append]
  simp only [intervalPoints, found]

theorem leads_searchFastSized :
    Leads answers (searchFastSized router snapshot candidate premiumPpm minAmount maxAmount) start
      (fastPoints answers router snapshot candidate premiumPpm minAmount maxAmount).1.evaluated
      (fastPoints answers router snapshot candidate premiumPpm minAmount maxAmount).2 := by
  unfold searchFastSized
  dsimp only
  cases found : betterAnswer answers none
      (router.suggestInputAmounts snapshot candidate minAmount maxAmount premiumPpm) with
  | none =>
    rw [fastPoints_of_none found]
    refine (leads_considerAll none _).bind (fun initial => ?_) fun _ _ => ?_
    · cases initial with
      | none => exact keeps_pure none
      | some initialBest => exact keeps_shrinkFast (some initialBest) _
    · rw [found]
      exact leads_pure none
  | some initialBest =>
    rw [fastPoints_of_some found]
    dsimp only
    rw [IntervalPoints.evaluated, intervalPoints_first]
    refine (leads_considerAll none _).bind (fun initial => ?_) fun _ _ => ?_
    · cases initial with
      | none => exact keeps_pure none
      | some initialBest => exact keeps_shrinkFast (some initialBest) _
    · rw [found]
      exact leads_shrinkFast (some initialBest) _ _

theorem leads_refineSeeds (best : Option ExactPlan) (seeds : List Nat) :
    Leads answers (refineSeeds router snapshot candidate premiumPpm minAmount maxAmount false best
        seeds) start
      ((seeds.map (seedPoints answers router snapshot candidate minAmount
        maxAmount)).flatMap IntervalPoints.evaluated)
      (betterAnswer answers best ((seeds.map (seedPoints answers router snapshot candidate minAmount
        maxAmount)).flatMap IntervalPoints.compared)) := by
  unfold refineSeeds
  dsimp only
  refine (leads_refineAll best seeds).bind_nil (fun best => ?_) fun _ _ => ?_
  · cases best with
    | none => exact keeps_pure none
    | some plan => exact keeps_pure (some plan)
  · cases betterAnswer answers best ((seeds.map (seedPoints answers router snapshot candidate
        minAmount maxAmount)).flatMap IntervalPoints.compared) with
    | none => exact leads_pure none
    | some plan => exact leads_pure (some plan)

theorem keeps_afterSeeds (phase : SearchPhase) :
    Keeps (match phase with
      | .finished plan => pure plan
      | .refine best seeds =>
        refineSeeds router snapshot candidate premiumPpm minAmount maxAmount false best seeds) := by
  cases phase with
  | finished plan => exact keeps_pure plan
  | refine best seeds =>
    exact keeps_of_leads (fun _ => none) fun _ => ⟨_, _, leads_refineSeeds best seeds⟩

/-- How the search goes on after the ladder, as the answers have it. -/
def phaseAfter (answers : Nat → Option ExactPlan) (router : Router State)
    (snapshot : GraphSnapshot) (candidate : CandidatePath) (dropped : List Nat) : SearchPhase :=
  match betterAnswer answers none (router.searcher.ladder snapshot candidate) with
  | none => .finished none
  | some best => .refine (some best) (seedsAfter answers router snapshot candidate dropped)

theorem leads_searchLadder {dropped : List Nat}
    (evaluated : start.evaluated = recordAnswers answers ∅ dropped) :
    Leads answers (searchLadder router snapshot candidate premiumPpm minAmount maxAmount false)
      start (router.searcher.ladder snapshot candidate)
      (phaseAfter answers router snapshot candidate dropped) := by
  unfold searchLadder phaseAfter
  refine (leads_considerAll none _).bind_nil (fun best => ?_) fun middle recorded => ?_
  · cases best with
    | none => exact keeps_pure _
    | some best =>
      simp only [Bool.false_and, if_neg Bool.false_ne_true]
      exact keeps_get.bind fun state => keeps_pure _
  · cases betterAnswer answers none (router.searcher.ladder snapshot candidate) with
    | none => exact leads_pure _
    | some best =>
      simp only [Bool.false_and, if_neg Bool.false_ne_true]
      unfold Leads
      rw [ensures_bind, ensures_get, ensures_pure]
      refine ⟨fun _ _ stored => stored, fun _ => ⟨?_, rfl⟩⟩
      rw [recorded, evaluated]
      rfl

theorem keeps_searchLadder :
    Keeps (searchLadder router snapshot candidate premiumPpm minAmount maxAmount false) := by
  unfold searchLadder
  refine (keeps_considerAll _ _).bind fun best => ?_
  cases best with
  | none => exact keeps_pure _
  | some best =>
    simp only [Bool.false_and, if_neg Bool.false_ne_true]
    exact keeps_get.bind fun state => keeps_pure _

/-- The search up to the choice of the seeds, when it starts with nothing evaluated. -/
theorem leads_searchSeeds (mixed : candidateUsesOnlyTraderJoeLb candidate = false)
    (nothing : start.evaluated = ∅) {points : IntervalPoints} {returned : Option ExactPlan}
    (fast : fastPoints answers router snapshot candidate premiumPpm minAmount maxAmount =
      (points, returned)) :
    Leads answers (searchSeeds router snapshot candidate premiumPpm minAmount maxAmount false) start
      (points.evaluated ++ returned.elim (router.searcher.ladder snapshot candidate) fun _ => [])
      (returned.elim (phaseAfter answers router snapshot candidate points.evaluated)
        fun plan => .finished (some plan)) := by
  have sized : Leads answers (searchFastSized router snapshot candidate premiumPpm minAmount
      maxAmount) start _ _ := leads_searchFastSized
  rw [fast] at sized
  unfold searchSeeds
  simp only [mixed, Bool.false_eq_true, if_false]
  refine sized.bind (fun returned => ?_) fun middle recorded => ?_
  · cases returned with
    | none => exact keeps_searchLadder
    | some plan => exact keeps_pure _
  · cases returned with
    | none => exact leads_searchLadder (recorded.trans (by rw [nothing]))
    | some plan => exact leads_pure _

theorem betterAnswer_of_fastPoints {points : IntervalPoints} {plan : ExactPlan}
    (fast : fastPoints answers router snapshot candidate premiumPpm minAmount maxAmount =
      (points, some plan)) : betterAnswer answers none points.compared = some plan := by
  cases found : betterAnswer answers none
      (router.suggestInputAmounts snapshot candidate minAmount maxAmount premiumPpm) with
  | none =>
    rw [fastPoints_of_none found] at fast
    cases fast
  | some initialBest =>
    rw [fastPoints_of_some found] at fast
    obtain ⟨samePoints, returned⟩ := Prod.mk.inj fast
    rw [← samePoints, IntervalPoints.compared, betterAnswer_append, intervalPoints_first, found]
    exact (Option.filter_eq_some_iff.mp returned).1

theorem IntervalPoints.mem_evaluated {points : IntervalPoints} {amount : Nat} :
    amount ∈ points.evaluated ↔ amount ∈ points.compared ∨ amount ∈ points.probed := by
  unfold IntervalPoints.evaluated IntervalPoints.compared
  rw [List.mem_append, List.mem_append, List.mem_append, ← or_assoc, or_right_comm]

theorem mem_flatMap_evaluated {points : List IntervalPoints} {amount : Nat} :
    amount ∈ points.flatMap IntervalPoints.evaluated ↔
      amount ∈ points.flatMap IntervalPoints.compared ∨
        amount ∈ points.flatMap IntervalPoints.probed := by
  simp only [List.mem_flatMap, IntervalPoints.mem_evaluated, and_or_left, exists_or]

/-- The search evaluates its points and returns the best plan of those that it compares. -/
theorem leads_searchBestPlan (mixed : candidateUsesOnlyTraderJoeLb candidate = false)
    (nothing : start.evaluated = ∅) {points : SearchPoints}
    (same : rangePoints answers router snapshot candidate premiumPpm minAmount maxAmount =
      points) :
    ∃ amounts, Leads answers (searchBestPlan router snapshot candidate premiumPpm minAmount
        maxAmount false) start amounts (betterAnswer answers none points.compared) ∧
      ∀ amount, amount ∈ amounts ↔
        amount ∈ points.dropped ∨ amount ∈ points.compared ∨ amount ∈ points.probed := by
  unfold searchBestPlan
  unfold rangePoints at same
  cases fast : fastPoints answers router snapshot candidate premiumPpm minAmount maxAmount with
  | mk interval returned =>
    have seeds : Leads answers _ start _ _ := leads_searchSeeds mixed nothing fast
    rw [fast] at same
    cases returned with
    | some plan =>
      subst same
      rw [Option.elim_some, Option.elim_some, List.append_nil] at seeds
      refine ⟨_, seeds.bind_nil keeps_afterSeeds fun _ _ => ?_, fun amount => ?_⟩
      · rw [betterAnswer_of_fastPoints fast]
        exact leads_pure (some plan)
      · rw [IntervalPoints.mem_evaluated]
        exact (or_iff_right List.not_mem_nil).symm
    | none =>
      rw [Option.elim_none, Option.elim_none, phaseAfter] at seeds
      unfold widePoints at same
      dsimp only at same
      cases ladder : betterAnswer answers none (router.searcher.ladder snapshot candidate) with
      | none =>
        rw [ladder] at seeds same
        subst same
        refine ⟨_, seeds.bind_nil keeps_afterSeeds fun _ _ => ?_, fun amount => ?_⟩
        · rw [ladder]
          exact leads_pure none
        · rw [List.mem_append]
          exact or_congr_right (or_iff_left List.not_mem_nil).symm
      | some best =>
        rw [ladder] at seeds same
        subst same
        dsimp only
        rw [betterAnswer_append, ladder]
        refine ⟨_, seeds.bind keeps_afterSeeds fun _ _ => leads_refineSeeds (some best) _, ?_⟩
        intro amount
        rw [List.mem_append, List.mem_append, mem_flatMap_evaluated, List.mem_append, or_assoc,
          or_assoc]

end Phases

end DexArbitrage
