/-
This file settles when no part of the input of a hop stays unrouted. The exact
quoter is an oracle: any amount for each pool, pair and input.

Putting the whole input into one pool always routes it. The water-filling
allocations add up to the input, but a leg whose quote is zero is left out. The
greedy loop hands out slices until no pool with room offers more for the next
slice, and then keeps what it has, so it routes the input only when every round
gains something and every winner can be turned into a split.
-/

import DexArbitrage.Router.PriceImpact
import Mathlib.Algebra.Order.BigOperators.Group.List
import Mathlib.Algebra.Order.Group.Nat

namespace DexArbitrage

/-- A quoter that answers every question by an oracle and never fails. -/
structure OracleQuoter (State : Type) extends Quoter State where
  oracle : PoolState → Address → Address → Nat → Nat
  answers : ∀ pool tokenIn tokenOut amount start, ∃ finish,
    (quotePool pool tokenIn tokenOut amount).run start =
      .ok (oracle pool tokenIn tokenOut amount, finish)

/-- The input of the hop that its splits route. -/
def routedAmount (splits : List SplitPlan) : Nat :=
  (splits.map SplitPlan.amountIn).sum

/-- Every hop routes its whole input, and the first hop takes the input of the plan. -/
structure ConservesInput (plan : ExactPlan) : Prop where
  hops : ∀ hop ∈ plan.hops, routedAmount hop.splits = hop.totalIn
  first : ∀ hop, plan.hops.head? = some hop → hop.totalIn = plan.inputAmount

section Conservation

variable {State : Type} (optimizer : SplitOptimizer) (solver : WaterFill)
  (quoter : OracleQuoter State) (snapshot : GraphSnapshot) (tokenIn tokenOut : Address)

/-! ### The splits of allocations -/

/-- The split that an allocation becomes, unless it is left out. -/
def materializedSplit (allocation : Allocation) : Option SplitPlan :=
  if allocation.amount = 0 then
    none
  else
    (snapshot.edgePool allocation.edgeRef).bind fun pool =>
      splitPlan optimizer tokenIn tokenOut pool allocation.amount
        (if 0 < allocation.quoted then
          allocation.quoted
        else
          quoter.oracle pool tokenIn tokenOut allocation.amount)

/-- What is allocated to legs that are left out. -/
def leftOut (allocations : List Allocation) : Nat :=
  ((allocations.filter fun allocation =>
    (materializedSplit optimizer quoter snapshot tokenIn tokenOut allocation).isNone).map
      Allocation.amount).sum

/-! ### The condition -/

/-- The pool of the edge can be turned into a split: it is known, and it lists both tokens when
its family refers to them by position. -/
def Tradable (edgeRef : EdgeRef) : Prop :=
  ∃ pool extra, snapshot.edgePool edgeRef = some pool ∧
    splitExtra optimizer tokenIn tokenOut pool = some extra

/-- In every round of the greedy loop until the input is assigned, the best pool offers more for
the slice than it did without it and can be turned into a split. -/
def RoundsGain (totalIn minSlice : Nat) : Nat → GreedyState → State → Prop
  | 0, _, _ => True
  | fuel + 1, state, start =>
    state.assigned < totalIn →
      let slice := min (totalIn - state.assigned) minSlice
      Ensures (quoteJobs quoter.toQuoter snapshot tokenIn tokenOut
        (greedyJobs optimizer snapshot slice state)) start fun quotes middle =>
          ∃ winner allocation, bestMarginal state quotes = some winner ∧ winner.marginal ≠ 0 ∧
            state.allocations[winner.idx]? = some allocation ∧
            Tradable optimizer snapshot tokenIn tokenOut allocation.edgeRef ∧
            RoundsGain totalIn minSlice fuel (assignSlice slice winner state) middle

def greedyStart (edgeRefs : List EdgeRef) : GreedyState where
  allocations := edgeRefs.map fun edgeRef => { edgeRef, amount := 0, quoted := 0 }
  assigned := 0
  activeAllocations := 0

/-- The water-filling legs that are left out are allocated nothing, beyond what the allocations
exceed the input by when their sum wraps. -/
def LegsQuoted (totalIn : Nat) (edgeRefs : List EdgeRef) : Prop :=
  ∀ amounts, optimalV2Allocations solver snapshot edgeRefs tokenIn tokenOut totalIn =
    some amounts →
      leftOut optimizer quoter snapshot tokenIn tokenOut (unquotedAllocations edgeRefs amounts) +
        totalIn = amounts.sum

/-- When the input of a hop is split, either the water-filling legs are quoted, or, when none of
them is, the rounds of the greedy loop gain. -/
def PairRoutesAll (totalIn : Nat) (start : State) : Prop :=
  let edgeRefs := rankedPairEdges snapshot (snapshot.pairEdges tokenIn tokenOut)
    optimizer.pairEdgeScanLimit totalIn
  let minSlice := max (totalIn / 8) 1
  edgeRefs ≠ [] → shouldSplit edgeRefs.length totalIn minSlice = true →
    Ensures (v2Split optimizer solver quoter.toQuoter snapshot tokenIn tokenOut totalIn
      (edgeRefs.take optimizer.maxParallelPools)) start fun materialized middle =>
        if materialized.1 = [] then
          RoundsGain optimizer quoter snapshot tokenIn tokenOut totalIn minSlice totalIn
            (greedyStart edgeRefs) middle
        else
          LegsQuoted optimizer solver quoter snapshot tokenIn tokenOut totalIn
            (edgeRefs.take optimizer.maxParallelPools)

/-- The condition of each hop of a path, on the amount that reaches the hop. -/
def PathRoutesAll : List CandidateHop → Nat → State → Prop
  | [], _, _ => True
  | hop :: path, amount, start =>
    PairRoutesAll optimizer solver quoter snapshot hop.fromToken hop.toToken amount start ∧
      Ensures (optimizePair optimizer solver quoter.toQuoter snapshot hop.fromToken hop.toToken
        amount) start fun result middle => PathRoutesAll path result.2 middle

end Conservation

section Proofs

variable {State : Type} {optimizer : SplitOptimizer} {solver : WaterFill}
  {quoter : OracleQuoter State} {snapshot : GraphSnapshot} {tokenIn tokenOut : Address}

/-- A quote of the oracle is what the oracle says, and every quote is one. -/
theorem OracleQuoter.sound (quoter : OracleQuoter State) (snapshot : GraphSnapshot)
    (tokenIn tokenOut : Address) :
    quoter.toQuoter.Sound snapshot tokenIn tokenOut (fun _ => True)
      fun pool amount out => out = quoter.oracle pool tokenIn tokenOut amount := by
  intro poolId pool _ amount start _
  obtain ⟨finish, ran⟩ := quoter.answers pool tokenIn tokenOut amount start
  rw [ensures_iff_of_run ran]
  exact ⟨trivial, rfl⟩

theorem ensures_materializeAllocation_oracle (allocation : Allocation) (start : State) :
    Ensures (materializeAllocation optimizer quoter.toQuoter snapshot tokenIn tokenOut allocation)
      start fun split? _ => True ∧
        split? = materializedSplit optimizer quoter snapshot tokenIn tokenOut allocation := by
  unfold materializeAllocation materializedSplit GraphSnapshot.edgePool
  split
  · simp
  · cases snapshot.edge allocation.edgeRef with
    | none => simp
    | some edge =>
      cases found : snapshot.pool edge.poolId with
      | none => simp [found]
      | some pool =>
        simp only [ensures_bind, ensures_pure, Option.bind_some, found]
        unfold expectedOutput
        split
        · simp
        · obtain ⟨finish, ran⟩ := quoter.answers pool tokenIn tokenOut allocation.amount start
          rw [ensures_iff_of_run ran]
          exact ⟨trivial, rfl⟩

theorem amountIn_of_materializedSplit {allocation : Allocation} {split : SplitPlan}
    (planned : materializedSplit optimizer quoter snapshot tokenIn tokenOut allocation =
      some split) : split.amountIn = allocation.amount := by
  unfold materializedSplit at planned
  split at planned
  · cases planned
  · obtain ⟨pool, _, isPlan⟩ := Option.bind_eq_some_iff.mp planned
    exact (splitPlan_some isPlan).2.2.2.2.2.1

/-- What the splits route and what is left out make up what is allocated. -/
theorem routedAmount_add_leftOut (optimizer : SplitOptimizer) (quoter : OracleQuoter State)
    (snapshot : GraphSnapshot) (tokenIn tokenOut : Address) (allocations : List Allocation) :
    routedAmount (allocations.filterMap
        (materializedSplit optimizer quoter snapshot tokenIn tokenOut)) +
      leftOut optimizer quoter snapshot tokenIn tokenOut allocations =
        (allocations.map Allocation.amount).sum := by
  unfold routedAmount leftOut
  induction allocations with
  | nil => rfl
  | cons allocation rest inductionHypothesis =>
    rw [List.map_cons, List.sum_cons, ← inductionHypothesis]
    cases planned : materializedSplit optimizer quoter snapshot tokenIn tokenOut allocation with
    | none =>
      rw [List.filterMap_cons_none planned, List.filter_cons_of_pos (by rw [planned]; rfl),
        List.map_cons, List.sum_cons]
      omega
    | some split =>
      rw [List.filterMap_cons_some planned, List.filter_cons_of_neg (by rw [planned]; simp),
        List.map_cons, List.sum_cons, amountIn_of_materializedSplit planned]
      omega

/-- The splits of allocations are those that materialize, in some order. -/
theorem ensures_materializeAllocationsWithQuotes_oracle (allocations : List Allocation)
    (start : State) :
    Ensures (materializeAllocationsWithQuotes optimizer quoter.toQuoter snapshot tokenIn tokenOut
      allocations) start fun result _ =>
        result.1.Perm (allocations.filterMap
          (materializedSplit optimizer quoter snapshot tokenIn tokenOut)) ∧
        result.2 ≤ u128Max := by
  unfold materializeAllocationsWithQuotes
  rw [ensures_bind]
  refine (ensures_mapM _ (fun _ => True) (fun allocation split? =>
    split? = materializedSplit optimizer quoter snapshot tokenIn tokenOut allocation)
    (fun allocation _ start _ => ensures_materializeAllocation_oracle allocation start)
    trivial).mono ?_
  rintro materialized finish ⟨-, related⟩
  rw [ensures_pure]
  have same : allocations.map (materializedSplit optimizer quoter snapshot tokenIn tokenOut) =
      materialized.map id :=
    map_eq_map_of_related (fun _ _ isSplit => isSplit.symm) related
  rw [List.map_id] at same
  refine ⟨?_, ?_⟩
  · have kept : materialized.reduceOption = allocations.filterMap
        (materializedSplit optimizer quoter snapshot tokenIn tokenOut) := by
      rw [← same, List.reduceOption, List.filterMap_map, Function.id_comp]
    rw [← kept]
    exact List.perm_insertionSort _ _
  · rw [totalExpected_eq]
    exact Nat.min_le_right _ _

theorem routedAmount_of_perm {splits others : List SplitPlan} (perm : splits.Perm others) :
    routedAmount splits = routedAmount others :=
  (perm.map SplitPlan.amountIn).sum_nat

/-! ### The greedy loop -/

/-- What has been assigned is what is allocated, and everything allocated has been quoted. -/
structure GreedyAccount (totalIn : Nat) (state : GreedyState) : Prop where
  allocated : (state.allocations.map Allocation.amount).sum = state.assigned
  assigned_le : state.assigned ≤ totalIn
  quoted : ∀ allocation ∈ state.allocations, allocation.amount ≠ 0 → 0 < allocation.quoted

/-- Everything allocated so far can be turned into a split. -/
def AllTradable (optimizer : SplitOptimizer) (snapshot : GraphSnapshot)
    (tokenIn tokenOut : Address) (state : GreedyState) : Prop :=
  ∀ allocation ∈ state.allocations, allocation.amount ≠ 0 →
    Tradable optimizer snapshot tokenIn tokenOut allocation.edgeRef

theorem sum_amount_modify {allocations : List Allocation} {idx : Nat} {before : Allocation}
    (change : Allocation → Allocation) (found : allocations[idx]? = some before) :
    ((allocations.modify idx change).map Allocation.amount).sum + before.amount =
      (allocations.map Allocation.amount).sum + (change before).amount := by
  induction allocations generalizing idx with
  | nil => cases found
  | cons first rest inductionHypothesis =>
    cases idx with
    | zero =>
      injection found with same
      subst same
      rw [List.modify_zero_cons, List.map_cons, List.map_cons, List.sum_cons, List.sum_cons]
      omega
    | succ idx =>
      have others := inductionHypothesis found
      rw [List.modify_succ_cons, List.map_cons, List.map_cons, List.sum_cons, List.sum_cons]
      omega

theorem amount_le_sum {allocations : List Allocation} {allocation : Allocation}
    (member : allocation ∈ allocations) :
    allocation.amount ≤ (allocations.map Allocation.amount).sum :=
  List.le_sum_of_mem (List.mem_map_of_mem member)

/-- A round whose winner gains keeps the account. -/
theorem GreedyAccount.assignSlice {totalIn slice : Nat} {state : GreedyState}
    (account : GreedyAccount totalIn state) (fits : totalIn ≤ u128Max)
    (room : state.assigned + slice ≤ totalIn) {winner : RankedQuote} {allocation : Allocation}
    (found : state.allocations[winner.idx]? = some allocation) (gain : 0 < winner.totalQuote) :
    GreedyAccount totalIn (assignSlice slice winner state) := by
  have member := List.mem_of_getElem? found
  have below := (amount_le_sum member).trans_eq account.allocated
  have extended : (allocation.extend slice winner.totalQuote).amount =
      allocation.amount + slice := by
    exact saturatingAdd_of_le (by omega)
  have assigned : (DexArbitrage.assignSlice slice winner state).assigned =
      state.assigned + slice := by
    exact saturatingAdd_of_le (by omega)
  refine ⟨?_, assigned.trans_le room, fun other otherMember active => ?_⟩
  · have total := sum_amount_modify (·.extend slice winner.totalQuote) found
    rw [extended, account.allocated] at total
    rw [assigned]
    show ((state.allocations.modify winner.idx _).map Allocation.amount).sum = _
    omega
  · rcases mem_modify otherMember with old | ⟨before, stored, changed⟩
    · exact account.quoted other old active
    · rw [changed]
      exact gain

/-- After a round everything is tradable when it was before and the winner is. -/
theorem allTradable_assignSlice {slice : Nat} {state : GreedyState} {winner : RankedQuote}
    {allocation : Allocation} (found : state.allocations[winner.idx]? = some allocation)
    (active : (allocation.extend slice winner.totalQuote).amount ≠ 0) :
    AllTradable optimizer snapshot tokenIn tokenOut (assignSlice slice winner state) ↔
      AllTradable optimizer snapshot tokenIn tokenOut state ∧
        Tradable optimizer snapshot tokenIn tokenOut allocation.edgeRef := by
  have isWinner : allocation.extend slice winner.totalQuote ∈
      state.allocations.modify winner.idx (·.extend slice winner.totalQuote) := by
    refine List.mem_iff_getElem?.mpr ⟨winner.idx, ?_⟩
    rw [List.getElem?_modify, found]
    simp
  constructor
  · intro tradable
    have winnerTradable := tradable _ isWinner active
    refine ⟨fun other member otherActive => ?_, winnerTradable⟩
    obtain ⟨position, stored⟩ := List.mem_iff_getElem?.mp member
    by_cases own : winner.idx = position
    · rw [← own, found] at stored
      injection stored with same
      exact same ▸ winnerTradable
    · refine tradable other (List.mem_iff_getElem?.mpr ⟨position, ?_⟩) otherActive
      show (state.allocations.modify winner.idx _)[position]? = _
      rw [List.getElem?_modify, stored]
      simp [own]
  · rintro ⟨tradable, winnerTradable⟩ other member otherActive
    rcases mem_modify member with old | ⟨before, stored, changed⟩
    · exact tradable other old otherActive
    · rw [found] at stored
      injection stored with same
      rw [changed, ← same]
      exact winnerTradable

/-- A pool that gets a slice is used. -/
theorem Allocation.extend_amount_ne_zero (allocation : Allocation) {slice : Nat} (totalQuote : Nat)
    (positive : 0 < slice) : (allocation.extend slice totalQuote).amount ≠ 0 := by
  have isMin : (allocation.extend slice totalQuote).amount =
      min (allocation.amount + slice) u128Max := rfl
  have used : 0 < min (allocation.amount + slice) u128Max :=
    Nat.lt_min.mpr ⟨Nat.add_pos_right _ positive, by decide⟩
  rw [isMin]
  exact used.ne'

/-- A positive marginal quote is part of a positive quote. -/
theorem rankedQuote_gain {state : GreedyState} {quoted : Nat × Nat}
    (gain : (rankedQuote state quoted).marginal ≠ 0) : 0 < (rankedQuote state quoted).totalQuote :=
  Nat.lt_of_lt_of_le (Nat.pos_of_ne_zero gain) (Nat.sub_le _ _)

/-- The winner of a round is one of the allocations. -/
theorem exists_winner {slice : Nat} {state : GreedyState} {quotes : List (Nat × Nat)}
    {quotedBy : PoolState → Nat → Nat → Prop}
    (results : ∀ result ∈ quotes, ∃ job ∈ greedyJobs optimizer snapshot slice state,
      JobResult snapshot quotedBy job result)
    {winner : RankedQuote} (best : bestMarginal state quotes = some winner) :
    ∃ quoted allocation, winner = rankedQuote state quoted ∧
      state.allocations[winner.idx]? = some allocation := by
  obtain ⟨quoted, listed, same⟩ := bestMarginal_some best
  obtain ⟨job, isJob, isResult⟩ := results quoted listed
  obtain ⟨allocation, _, found, _⟩ := mem_greedyJobs isJob
  have label : winner.idx = job.label := by
    rw [same]
    exact isResult.1
  exact ⟨quoted, allocation, same, label ▸ found⟩

/-- The rounds from a state on gain when the best pool of its round gains and the rounds after it
do. -/
theorem roundsGain_succ {totalIn minSlice fuel : Nat} {state : GreedyState} {start middle : State}
    {quotes : List (Nat × Nat)} (missing : state.assigned < totalIn)
    (ran : (quoteJobs quoter.toQuoter snapshot tokenIn tokenOut
      (greedyJobs optimizer snapshot (min (totalIn - state.assigned) minSlice) state)).run start =
        .ok (quotes, middle)) :
    RoundsGain optimizer quoter snapshot tokenIn tokenOut totalIn minSlice (fuel + 1) state start ↔
      ∃ winner allocation, bestMarginal state quotes = some winner ∧ winner.marginal ≠ 0 ∧
        state.allocations[winner.idx]? = some allocation ∧
        Tradable optimizer snapshot tokenIn tokenOut allocation.edgeRef ∧
        RoundsGain optimizer quoter snapshot tokenIn tokenOut totalIn minSlice fuel
          (assignSlice (min (totalIn - state.assigned) minSlice) winner state) middle := by
  rw [RoundsGain]
  exact (imp_iff_right missing).trans (ensures_iff_of_run ran _)

/-- When the best pool is known, only its own tradability and the later rounds are left to ask. -/
theorem exists_best_iff {state : GreedyState} {quotes : List (Nat × Nat)} {winner : RankedQuote}
    {allocation : Allocation} (best : bestMarginal state quotes = some winner)
    (gain : winner.marginal ≠ 0) (found : state.allocations[winner.idx]? = some allocation)
    (later : RankedQuote → Prop) :
    (∃ winner allocation, bestMarginal state quotes = some winner ∧ winner.marginal ≠ 0 ∧
        state.allocations[winner.idx]? = some allocation ∧
        Tradable optimizer snapshot tokenIn tokenOut allocation.edgeRef ∧ later winner) ↔
      Tradable optimizer snapshot tokenIn tokenOut allocation.edgeRef ∧ later winner := by
  constructor
  · rintro ⟨other, otherAllocation, otherBest, _, otherFound, rest⟩
    rw [best] at otherBest
    injection otherBest with same
    subst same
    rw [found] at otherFound
    injection otherFound with sameAllocation
    exact sameAllocation ▸ rest
  · exact fun rest => ⟨winner, allocation, best, gain, found, rest⟩

/-- The loop assigns the whole input to tradable pools exactly when every round gains. -/
theorem ensures_greedyLoop_routes {totalIn minSlice : Nat} (fits : totalIn ≤ u128Max)
    (positive : 0 < minSlice) (fuel : Nat) {state : GreedyState} (start : State)
    (account : GreedyAccount totalIn state) (enough : totalIn ≤ state.assigned + fuel) :
    Ensures (greedyLoop optimizer quoter.toQuoter snapshot tokenIn tokenOut totalIn minSlice fuel
      state) start fun final _ => GreedyAccount totalIn final ∧
        (final.assigned = totalIn ∧ AllTradable optimizer snapshot tokenIn tokenOut final ↔
          AllTradable optimizer snapshot tokenIn tokenOut state ∧
            RoundsGain optimizer quoter snapshot tokenIn tokenOut totalIn minSlice fuel state
              start) := by
  induction fuel generalizing state start with
  | zero =>
    unfold greedyLoop
    rw [ensures_pure]
    have all : state.assigned = totalIn := Nat.le_antisymm account.assigned_le enough
    exact ⟨account, by rw [RoundsGain, and_true, and_iff_right all]⟩
  | succ fuel inductionHypothesis =>
    unfold greedyLoop
    split
    · rename_i missing
      rw [ensures_bind]
      intro quotes middle ran
      have results := (ensures_quoteJobs (quoter.sound snapshot tokenIn tokenOut) _ trivial
        quotes middle ran).2
      rw [roundsGain_succ missing ran]
      have short : ∀ tradable gains : Prop, ¬ gains →
          (state.assigned = totalIn ∧ tradable ↔ tradable ∧ gains) := fun _ _ stuck =>
        iff_of_false (fun all => missing.ne all.1) fun both => stuck both.2
      split
      · rename_i winner best
        split
        · rename_i noGain
          rw [ensures_pure]
          refine ⟨account, short _ _ ?_⟩
          rintro ⟨other, _, otherBest, gain, _⟩
          rw [best] at otherBest
          injection otherBest with same
          exact gain (same ▸ noGain)
        · rename_i gain
          obtain ⟨quoted, allocation, isRanked, found⟩ := exists_winner results best
          have total : 0 < winner.totalQuote := by
            rw [isRanked] at gain ⊢
            exact rankedQuote_gain gain
          have slice : 0 < min (totalIn - state.assigned) minSlice :=
            Nat.lt_min.mpr ⟨Nat.sub_pos_of_lt missing, positive⟩
          have room : state.assigned + min (totalIn - state.assigned) minSlice ≤ totalIn := by
            omega
          have assigned : (assignSlice (min (totalIn - state.assigned) minSlice) winner
              state).assigned = state.assigned + min (totalIn - state.assigned) minSlice :=
            saturatingAdd_of_le (room.trans fits)
          have active : (allocation.extend (min (totalIn - state.assigned) minSlice)
              winner.totalQuote).amount ≠ 0 := allocation.extend_amount_ne_zero _ slice
          have next := inductionHypothesis middle
            (account.assignSlice fits room found total) (by omega)
          refine next.mono fun final finish routed => ⟨routed.1, routed.2.trans ?_⟩
          rw [allTradable_assignSlice found active, and_assoc]
          exact and_congr_right fun _ => (exists_best_iff best gain found fun winner =>
            RoundsGain optimizer quoter snapshot tokenIn tokenOut totalIn minSlice fuel
              (assignSlice (min (totalIn - state.assigned) minSlice) winner state) middle).symm
      · rename_i none
        rw [ensures_pure]
        refine ⟨account, short _ _ ?_⟩
        rintro ⟨other, _, otherBest, _⟩
        rw [none] at otherBest
        cases otherBest
    · rename_i complete
      rw [ensures_pure]
      have all : state.assigned = totalIn :=
        Nat.le_antisymm account.assigned_le (Nat.not_lt.mp complete)
      have rounds : RoundsGain optimizer quoter snapshot tokenIn tokenOut totalIn minSlice
          (fuel + 1) state start := by
        rw [RoundsGain]
        exact fun missing => absurd missing complete
      exact ⟨account, by rw [and_iff_left rounds, and_iff_right all]⟩

/-- A quoted allocation is left out exactly when its pool is not tradable. -/
theorem materializedSplit_eq_none_iff (quoter : OracleQuoter State) {allocation : Allocation}
    (active : allocation.amount ≠ 0) (quoted : 0 < allocation.quoted) :
    materializedSplit optimizer quoter snapshot tokenIn tokenOut allocation = none ↔
      ¬ Tradable optimizer snapshot tokenIn tokenOut allocation.edgeRef := by
  unfold materializedSplit Tradable
  rw [if_neg active]
  cases snapshot.edgePool allocation.edgeRef with
  | none => simp
  | some pool =>
    rw [Option.bind_some, if_pos quoted, splitPlan, if_neg quoted.ne', Option.map_eq_none_iff]
    cases extra? : splitExtra optimizer tokenIn tokenOut pool with
    | none => simp [extra?]
    | some extra => simp [extra?]

theorem leftOut_eq_zero_iff (quoter : OracleQuoter State) {allocations : List Allocation}
    (quoted : ∀ allocation ∈ allocations, allocation.amount ≠ 0 → 0 < allocation.quoted) :
    leftOut optimizer quoter snapshot tokenIn tokenOut allocations = 0 ↔
      ∀ allocation ∈ allocations, allocation.amount ≠ 0 →
        Tradable optimizer snapshot tokenIn tokenOut allocation.edgeRef := by
  unfold leftOut
  rw [List.sum_eq_zero_iff]
  constructor
  · intro nothing allocation member active
    by_contra untradable
    have omitted := (materializedSplit_eq_none_iff quoter active
      (quoted allocation member active)).mpr untradable
    refine active (nothing allocation.amount (List.mem_map_of_mem ?_))
    exact List.mem_filter.mpr ⟨member, by rw [omitted]; rfl⟩
  · intro tradable amount listed
    obtain ⟨allocation, kept, same⟩ := List.mem_map.mp listed
    obtain ⟨member, omitted⟩ := List.mem_filter.mp kept
    rw [← same]
    by_contra active
    exact (materializedSplit_eq_none_iff quoter active (quoted allocation member active)).mp
      (Option.isNone_iff_eq_none.mp omitted) (tradable allocation member active)

/-! ### One hop -/

theorem greedyAccount_greedyStart (totalIn : Nat) (edgeRefs : List EdgeRef) :
    GreedyAccount totalIn (greedyStart edgeRefs) := by
  refine ⟨?_, Nat.zero_le _, fun allocation member active => ?_⟩
  · unfold greedyStart
    simp only [List.map_map]
    refine List.sum_eq_zero fun amount member => ?_
    simpa using (List.mem_map.mp member).choose_spec.2.symm
  · obtain ⟨edgeRef, _, same⟩ := List.mem_map.mp member
    exact absurd (same ▸ rfl) active

theorem ensures_greedySplit_routes {totalIn minSlice : Nat} (fits : totalIn ≤ u128Max)
    (positive : 0 < minSlice) (edgeRefs : List EdgeRef) (start : State) :
    Ensures (greedySplit optimizer quoter.toQuoter snapshot tokenIn tokenOut totalIn minSlice
      edgeRefs) start fun result _ => result.2 ≤ u128Max ∧
        (routedAmount result.1 = totalIn ↔
          RoundsGain optimizer quoter snapshot tokenIn tokenOut totalIn minSlice totalIn
            (greedyStart edgeRefs) start) := by
  have begun := greedyAccount_greedyStart totalIn edgeRefs
  have untouched : AllTradable optimizer snapshot tokenIn tokenOut (greedyStart edgeRefs) := by
    intro allocation member active
    obtain ⟨edgeRef, _, same⟩ := List.mem_map.mp member
    exact absurd (same ▸ rfl) active
  unfold greedySplit
  rw [ensures_bind]
  refine (ensures_greedyLoop_routes fits positive totalIn start begun
    (Nat.le_add_left _ _)).mono ?_
  rintro final middle ⟨account, routes⟩
  rw [and_iff_right untouched] at routes
  refine (ensures_materializeAllocationsWithQuotes_oracle final.allocations middle).mono ?_
  rintro result finish ⟨perm, bounded⟩
  have total := routedAmount_add_leftOut optimizer quoter snapshot tokenIn tokenOut
    final.allocations
  rw [← routedAmount_of_perm perm, account.allocated] at total
  have assigned := account.assigned_le
  refine ⟨bounded, Iff.trans ?_ routes⟩
  rw [AllTradable, ← leftOut_eq_zero_iff quoter account.quoted]
  omega

theorem sum_unquotedAllocations {edgeRefs : List EdgeRef} {amounts : List Nat}
    (length : amounts.length = edgeRefs.length) :
    ((unquotedAllocations edgeRefs amounts).map Allocation.amount).sum = amounts.sum := by
  unfold unquotedAllocations
  rw [List.map_map]
  show ((edgeRefs.zip amounts).map Prod.snd).sum = amounts.sum
  rw [List.map_snd_zip length.le]

theorem length_optimalV2Allocations {edgeRefs : List EdgeRef} {totalIn : Nat}
    (fits : totalIn ≤ u128Max) {amounts : List Nat}
    (solved : optimalV2Allocations solver snapshot edgeRefs tokenIn tokenOut totalIn =
      some amounts) : amounts.length = edgeRefs.length := by
  unfold optimalV2Allocations at solved
  split at solved
  · cases solved
  · obtain ⟨legs, read, solves⟩ := Option.bind_eq_some_iff.mp solved
    rw [(solveAllocations_some fits solves).2, ← (forall₂_of_mapM read).length_eq]

theorem ensures_v2Split_routes {totalIn : Nat} (fits : totalIn ≤ u128Max)
    (edgeRefs : List EdgeRef) (start : State) :
    Ensures (v2Split optimizer solver quoter.toQuoter snapshot tokenIn tokenOut totalIn edgeRefs)
      start fun result _ => result.2 ≤ u128Max ∧ (result.1 ≠ [] →
        (routedAmount result.1 = totalIn ↔
          LegsQuoted optimizer solver quoter snapshot tokenIn tokenOut totalIn edgeRefs)) := by
  unfold v2Split LegsQuoted
  cases solved : optimalV2Allocations solver snapshot edgeRefs tokenIn tokenOut totalIn with
  | none =>
    simp only
    rw [ensures_pure]
    exact ⟨Nat.zero_le _, fun nonempty => absurd rfl nonempty⟩
  | some amounts =>
    refine (ensures_materializeAllocationsWithQuotes_oracle _ start).mono ?_
    rintro result finish ⟨perm, bounded⟩
    have total := routedAmount_add_leftOut optimizer quoter snapshot tokenIn tokenOut
      (unquotedAllocations edgeRefs amounts)
    rw [← routedAmount_of_perm perm,
      sum_unquotedAllocations (length_optimalV2Allocations fits solved)] at total
    refine ⟨bounded, fun _ => ?_⟩
    simp only [Option.some.injEq, forall_eq']
    omega

/-- Putting the whole input into one pool routes it. -/
theorem ensures_singleBest_routes (totalIn : Nat) (edgeRefs : List EdgeRef) (start : State) :
    Ensures (singleBest optimizer quoter.toQuoter snapshot tokenIn tokenOut totalIn edgeRefs)
      start fun result _ => result.2 ≤ u128Max ∧
        (result.1 ≠ [] → routedAmount result.1 = totalIn) := by
  unfold singleBest
  rw [ensures_bind]
  intro quotes middle _
  split
  · rename_i edgeRef out _
    refine (ensures_materializeAllocationsWithQuotes_oracle _ middle).mono ?_
    rintro result finish ⟨perm, bounded⟩
    refine ⟨bounded, fun nonempty => ?_⟩
    rw [routedAmount_of_perm perm]
    cases planned : materializedSplit optimizer quoter snapshot tokenIn tokenOut
        { edgeRef, amount := totalIn, quoted := out } with
    | none =>
      rw [List.filterMap_cons_none planned] at perm
      exact absurd perm.eq_nil nonempty
    | some split =>
      rw [List.filterMap_cons_some planned]
      exact amountIn_of_materializedSplit planned
  · rw [ensures_pure]
    exact ⟨Nat.zero_le _, fun nonempty => absurd rfl nonempty⟩

/-- A hop that yields splits routes its whole input exactly under the condition of the hop. -/
theorem ensures_optimizePair_routes {totalIn : Nat} (fits : totalIn ≤ u128Max) (start : State) :
    Ensures (optimizePair optimizer solver quoter.toQuoter snapshot tokenIn tokenOut totalIn)
      start fun result _ => result.2 ≤ u128Max ∧ (result.1 ≠ [] →
        (routedAmount result.1 = totalIn ↔
          PairRoutesAll optimizer solver quoter snapshot tokenIn tokenOut totalIn start)) := by
  unfold optimizePair PairRoutesAll
  simp only
  split
  · rw [ensures_pure]
    exact ⟨Nat.zero_le _, fun nonempty => absurd rfl nonempty⟩
  · rename_i edges
    rw [Ne, imp_iff_right edges]
    split
    · rename_i whole
      have unsplit := Bool.not_eq_true' _ ▸ whole
      refine (ensures_singleBest_routes totalIn _ start).mono ?_
      rintro result finish ⟨bounded, routed⟩
      refine ⟨bounded, fun nonempty => iff_of_true (routed nonempty) fun split => ?_⟩
      rw [split] at whole
      cases whole
    · rename_i divided
      rw [Bool.not_eq_true', Bool.not_eq_false] at divided
      rw [imp_iff_right divided, ensures_bind]
      intro materialized middle ran
      obtain ⟨bounded, routed⟩ := ensures_v2Split_routes fits _ start materialized middle ran
      rw [ensures_iff_of_run ran]
      have positive : 0 < max (totalIn / 8) 1 :=
        Nat.lt_of_lt_of_le Nat.one_pos (Nat.le_max_right _ _)
      split
      · refine (ensures_greedySplit_routes fits positive _ middle).mono ?_
        rintro result finish ⟨resultBounded, routes⟩
        exact ⟨resultBounded, fun _ => routes⟩
      · rename_i nonempty
        rw [ensures_pure]
        exact ⟨bounded, routed⟩

/-! ### All hops -/

theorem ensures_quoteHops_routes (path : List CandidateHop) {amount : Nat}
    (fits : amount ≤ u128Max) (start : State) :
    Ensures (quoteHops optimizer solver quoter.toQuoter snapshot path amount) start
      fun quoted _ => ∀ hops final, quoted = some (hops, final) →
        ((∀ hop ∈ hops, routedAmount hop.splits = hop.totalIn) ↔
          PathRoutesAll optimizer solver quoter snapshot path amount start) ∧
        ∀ hop, hops.head? = some hop → hop.totalIn = amount := by
  induction path generalizing amount start with
  | nil =>
    unfold quoteHops
    rw [ensures_pure]
    intro hops final same
    injection same with same
    injection same with noHops
    rw [← noHops]
    exact ⟨iff_of_true (fun hop member => absurd member List.not_mem_nil) trivial,
      fun hop first => by cases first⟩
  | cons hop path inductionHypothesis =>
    unfold quoteHops
    rw [ensures_bind]
    rintro ⟨splits, out⟩ middle ran
    obtain ⟨bounded, routed⟩ := ensures_optimizePair_routes fits start (splits, out) middle ran
    simp only
    split
    · rw [ensures_pure]
      intro hops final none
      cases none
    · rename_i yields
      rw [not_or] at yields
      rw [ensures_bind]
      refine (inductionHypothesis bounded middle).mono ?_
      rintro rest finish routes
      rw [ensures_pure]
      intro hops final quoted
      obtain ⟨⟨restHops, restFinal⟩, found, same⟩ := Option.map_eq_some_iff.mp quoted
      injection same with sameHops
      rw [← sameHops]
      refine ⟨?_, fun first isFirst => ?_⟩
      · rw [List.forall_mem_cons, PathRoutesAll, ensures_iff_of_run ran, routed yields.2,
          (routes restHops restFinal found).1]
      · injection isFirst with isHop
        rw [← isHop]

/-- For every snapshot, candidate, input and oracle, a returned plan routes the whole input of each
of its hops exactly when each hop meets its condition. -/
theorem ensures_conservesInput_iff (optimizer : SplitOptimizer) (solver : WaterFill)
    (quoter : OracleQuoter State) (snapshot : GraphSnapshot) (candidate : CandidatePath)
    {inputAmount : Nat} (fits : inputAmount ≤ u128Max) (flashPremiumPpm : Nat) (start : State) :
    Ensures (quoteCandidateWithOptimizer optimizer solver quoter.toQuoter snapshot candidate
      inputAmount flashPremiumPpm) start fun returned _ => ∀ plan, returned = some plan →
        (ConservesInput plan ↔
          PathRoutesAll optimizer solver quoter snapshot candidate.path inputAmount start) := by
  unfold quoteCandidateWithOptimizer
  rw [ensures_bind]
  refine (ensures_quoteHops_routes candidate.path fits start).mono ?_
  intro quoted finish routes
  rw [ensures_pure]
  intro plan returned
  obtain ⟨⟨hops, final⟩, found, profitable⟩ := Option.bind_eq_some_iff.mp returned
  obtain ⟨sameHops, sameInput, _⟩ := profitablePlan_some profitable
  obtain ⟨conserved, first⟩ := routes hops final found
  rw [← conserved]
  constructor
  · intro conserves
    exact sameHops ▸ conserves.hops
  · intro routed
    exact ⟨sameHops ▸ routed, by rw [sameHops, sameInput]; exact first⟩

/-- A pair with one edge always routes its whole input. -/
theorem pairRoutesAll_of_oneEdge (single : (snapshot.pairEdges tokenIn tokenOut).length ≤ 1)
    (totalIn : Nat) (start : State) :
    PairRoutesAll optimizer solver quoter snapshot tokenIn tokenOut totalIn start := by
  obtain ⟨nodup, listed⟩ := rankedPairEdges_spec snapshot (snapshot.pairEdges tokenIn tokenOut)
    optimizer.pairEdgeScanLimit totalIn
  have atMost := (List.subperm_of_subset nodup listed).length_le.trans single
  unfold PairRoutesAll
  simp only
  intro _ split
  rw [shouldSplit, Bool.and_eq_true, decide_eq_true_eq] at split
  exact absurd split.1 (Nat.not_lt.mpr atMost)

end Proofs

/-! ### A triangle whose first pair runs out of capacity -/

def trianglePool (poolId token0 token1 : Address) (reserve0 reserve1 : Nat) : PoolState :=
  { crossedPool poolId reserve0 reserve1 with tokenAddresses := [token0, token1] }

def trianglePools : HashMap Address PoolState :=
  HashMap.ofList
    [(10, trianglePool 10 1 2 1000000 1000000000000),
      (11, trianglePool 11 1 2 1000000 1000000000000),
      (12, trianglePool 12 2 3 10000000000000 10000000000000),
      (13, trianglePool 13 3 1 10000000000000 100000000)]

/-- Two pools between the first two tokens, each with a capacity of 100000, and one pool for each
of the other pairs. -/
def triangleSnapshot : GraphSnapshot :=
  GraphSnapshot.build crossedRates 1 none [crossedToken 1, crossedToken 2, crossedToken 3]
    trianglePools

def triangleCandidate : CandidatePath :=
  { crossedCandidate with path := [crossedHop 1 2 10, crossedHop 2 3 12, crossedHop 3 1 13] }

/-- The constant-product quote of the pool. -/
def constantProductOracle (pool : PoolState) (tokenIn _tokenOut : Address) (amount : Nat) : Nat :=
  match pool.state with
  | .uniswapV2Like state =>
    (UniswapV2.quoteExactIn state (pool.tokenAddresses.head? = some tokenIn) amount).getD 0
  | _ => 0

def constantProductQuoter : OracleQuoter Unit where
  quotePool pool tokenIn tokenOut amount :=
    pure (constantProductOracle pool tokenIn tokenOut amount)
  finishOrder _ count := List.range count
  finishOrder_perm _ count := perm_inOrder count
  oracle := constantProductOracle
  answers _ _ _ _ _ := ⟨(), rfl⟩

def trianglePlan (inputAmount : Nat) : Except RpcError (Option ExactPlan × Unit) :=
  (quoteCandidateWithOptimizer crossedOptimizer crossedSolver constantProductQuoter.toQuoter
    triangleSnapshot triangleCandidate inputAmount 0).run ()

/-- What the hops of the plan route, and what they take. -/
def triangleHops (inputAmount : Nat) : Option (List (Nat × Nat)) :=
  ((trianglePlan inputAmount).toOption.bind Prod.fst).map fun plan =>
    plan.hops.map fun hop => (routedAmount hop.splits, hop.totalIn)

theorem exists_trianglePlan {inputAmount : Nat} {hops : List (Nat × Nat)}
    (routed : triangleHops inputAmount = some hops) :
    ∃ plan finish, trianglePlan inputAmount = .ok (some plan, finish) ∧
      plan.hops.map (fun hop => (routedAmount hop.splits, hop.totalIn)) = hops := by
  obtain ⟨plan, found, same⟩ := Option.map_eq_some_iff.mp routed
  cases ran : trianglePlan inputAmount with
  | error reason =>
    rw [ran] at found
    cases found
  | ok outcome =>
    obtain ⟨plan?, finish⟩ := outcome
    rw [ran] at found
    have isPlan : plan? = some plan := found
    exact ⟨plan, finish, by rw [isPlan], same⟩

/-- A single unit goes through one pool in each hop. -/
theorem conservesInput_oneUnit :
    ∃ plan finish, trianglePlan 1 = .ok (some plan, finish) ∧ ConservesInput plan := by
  have routed : triangleHops 1 = some [(1, 1), (996999, 996999), (994007, 994007)] := by
    decide +kernel
  obtain ⟨plan, finish, ran, _⟩ := exists_trianglePlan routed
  refine ⟨plan, finish, ran, (ensures_conservesInput_iff crossedOptimizer crossedSolver
    constantProductQuoter triangleSnapshot triangleCandidate (by decide) 0 () (some plan) finish
    ran plan rfl).mpr ⟨fun _ split => ?_, fun _ _ _ => ⟨?_, fun _ _ _ => ⟨?_, ?_⟩⟩⟩⟩
  · exact absurd split (by decide +kernel)
  · exact pairRoutesAll_of_oneEdge (by decide +kernel) _ _
  · exact pairRoutesAll_of_oneEdge (by decide +kernel) _ _
  · exact fun _ _ _ => trivial

/-- Of 210000 units the two pools of the first pair take three slices of 26250 each; the fourth one
exceeds their capacity, and 52500 units stay unrouted. -/
theorem not_conservesInput_capacity :
    ∃ plan finish, trianglePlan 210000 = .ok (some plan, finish) ∧ ¬ ConservesInput plan := by
  have routed : triangleHops 210000 = some [(157500, 210000), (145596196616, 145596196616),
      (143082431914, 143082431914)] := by
    decide +kernel
  obtain ⟨plan, finish, ran, hops⟩ := exists_trianglePlan routed
  refine ⟨plan, finish, ran, fun conserves => ?_⟩
  have first : (157500, 210000) ∈
      plan.hops.map fun hop => (routedAmount hop.splits, hop.totalIn) := by
    rw [hops]
    exact List.mem_cons_self
  obtain ⟨hop, member, same⟩ := List.mem_map.mp first
  injection same with sameRouted sameTotal
  have total := conserves.hops hop member
  rw [sameRouted, sameTotal] at total
  exact absurd total (by decide)

end DexArbitrage
