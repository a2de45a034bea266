/-
This file proves what the splits of one hop have in common, whichever way the
optimizer takes: they belong to pairwise different edges of the pair, there are
at most as many as parallel pools are allowed, and each of them carries a quote
that the exact quoter returned for its pool and its amount.

What a quote ensures, and what it keeps, is assumed of the quoter once
(`Quoter.Sound`) and handed through the single-pool, the water-filling and the
greedy way.
-/

import DexArbitrage.Router.SplitOptimizer

namespace DexArbitrage

/-- The pool of an edge. -/
def GraphSnapshot.edgePool (snapshot : GraphSnapshot) (edgeRef : EdgeRef) : Option PoolState :=
  (snapshot.edge edgeRef).bind fun edge => snapshot.pool edge.poolId

/-! ### Ranking keeps the edges apart -/

theorem perm_sortEdgeRefs (order : EdgeRef → EdgeRef → Ordering) (edgeRefs : List EdgeRef) :
    (sortEdgeRefs order edgeRefs).Perm edgeRefs :=
  List.perm_insertionSort _ edgeRefs

theorem pushUnique_spec (maxEdges : Nat) (candidates : List EdgeRef)
    {selected edgeRefs : List EdgeRef} (nodup : selected.Nodup)
    (selectedListed : ∀ edgeRef ∈ selected, edgeRef ∈ candidates)
    (listed : ∀ edgeRef ∈ edgeRefs, edgeRef ∈ candidates) :
    (pushUnique maxEdges selected edgeRefs).Nodup ∧
      ∀ edgeRef ∈ pushUnique maxEdges selected edgeRefs, edgeRef ∈ candidates := by
  induction edgeRefs generalizing selected with
  | nil => exact ⟨nodup, selectedListed⟩
  | cons edgeRef rest inductionHypothesis =>
    have restListed : ∀ edgeRef ∈ rest, edgeRef ∈ candidates :=
      fun edgeRef member => listed edgeRef (List.mem_cons_of_mem _ member)
    unfold pushUnique
    split
    · exact ⟨nodup, selectedListed⟩
    · split
      · exact inductionHypothesis nodup selectedListed restListed
      · rename_i fresh
        refine inductionHypothesis ?_ ?_ restListed
        · exact nodup.append (List.nodup_singleton _) (List.disjoint_singleton.mpr fresh)
        · intro other member
          rcases List.mem_append.mp member with old | new
          · exact selectedListed other old
          · rw [List.mem_singleton.mp new]
            exact listed edgeRef List.mem_cons_self

/-- The ranked edges are pairwise different edges of the given ones. -/
theorem rankedPairEdges_spec (snapshot : GraphSnapshot) (edgeRefs : List EdgeRef)
    (maxEdges targetInput : Nat) :
    (rankedPairEdges snapshot edgeRefs maxEdges targetInput).Nodup ∧
      ∀ edgeRef ∈ rankedPairEdges snapshot edgeRefs maxEdges targetInput,
        edgeRef ∈ edgeRefs := by
  have sorted : ∀ order, ∀ edgeRef ∈ sortEdgeRefs order edgeRefs, edgeRef ∈ edgeRefs :=
    fun order edgeRef member => (perm_sortEdgeRefs order edgeRefs).mem_iff.mp member
  have cheapest : ∀ edgeRef ∈ (sortEdgeRefs (compareEdgeRefsForPrice snapshot) edgeRefs).take
      ((max maxEdges 1 + 1) / 2), edgeRef ∈ edgeRefs :=
    fun edgeRef member => sorted _ edgeRef (List.mem_of_mem_take member)
  have byPrice := pushUnique_spec (max maxEdges 1) edgeRefs List.nodup_nil (by simp) cheapest
  have byCapacity := pushUnique_spec (max maxEdges 1) edgeRefs byPrice.1 byPrice.2
    (sorted (compareEdgeRefsForCapacity snapshot targetInput))
  have resorted := perm_sortEdgeRefs (compareEdgeRefsForPrice snapshot)
  exact ⟨(resorted _).nodup_iff.mpr byCapacity.1,
    fun edgeRef member => byCapacity.2 edgeRef ((resorted _).mem_iff.mp member)⟩

section Quotes

variable {State : Type} {optimizer : SplitOptimizer} {solver : WaterFill}
  {quoter : Quoter State} {snapshot : GraphSnapshot} {tokenIn tokenOut : Address}
  {invariant : State → Prop} {quotedBy : PoolState → Nat → Nat → Prop}

/-- On the pools of the snapshot every quote keeps the invariant and returns an amount that the
pool is quoted by. -/
def Quoter.Sound (quoter : Quoter State) (snapshot : GraphSnapshot) (tokenIn tokenOut : Address)
    (invariant : State → Prop) (quotedBy : PoolState → Nat → Nat → Prop) : Prop :=
  ∀ poolId pool, snapshot.pool poolId = some pool → ∀ amount start, invariant start →
    Ensures (quoter.quotePool pool tokenIn tokenOut amount) start fun out finish =>
      invariant finish ∧ quotedBy pool amount out

/-! ### Materializing allocations -/

/-- A positive quote of the allocation is one that the quoter returned. -/
def QuotedAllocation (snapshot : GraphSnapshot) (quotedBy : PoolState → Nat → Nat → Prop)
    (allocation : Allocation) : Prop :=
  allocation.quoted = 0 ∨ ∃ pool, snapshot.edgePool allocation.edgeRef = some pool ∧
    quotedBy pool allocation.amount allocation.quoted

/-- The split is made of the allocation and a quote for it. -/
def SplitOf (optimizer : SplitOptimizer) (snapshot : GraphSnapshot) (tokenIn tokenOut : Address)
    (quotedBy : PoolState → Nat → Nat → Prop) (allocation : Allocation) (split : SplitPlan) :
    Prop :=
  ∃ pool, snapshot.edgePool allocation.edgeRef = some pool ∧ allocation.amount ≠ 0 ∧
    quotedBy pool allocation.amount split.expectedAmountOut ∧
    splitPlan optimizer tokenIn tokenOut pool allocation.amount split.expectedAmountOut =
      some split

/-- What an optimized hop consists of: one split for each of some allocations to different edges
of the pair, and the sum of what the splits are expected to yield. -/
def PairSplits (optimizer : SplitOptimizer) (snapshot : GraphSnapshot)
    (tokenIn tokenOut : Address) (quotedBy : PoolState → Nat → Nat → Prop)
    (result : List SplitPlan × Nat) : Prop :=
  ∃ allocations unsorted,
    (allocations.map Allocation.edgeRef).Nodup ∧
    (∀ allocation ∈ allocations, allocation.edgeRef ∈ snapshot.pairEdges tokenIn tokenOut) ∧
    allocations.length ≤ optimizer.maxParallelPools ∧
    List.Forall₂ (SplitOf optimizer snapshot tokenIn tokenOut quotedBy) allocations unsorted ∧
    result.1.Perm unsorted ∧
    result.2 = min (result.1.map SplitPlan.expectedAmountOut).sum u128Max

theorem pairSplits_nil :
    PairSplits optimizer snapshot tokenIn tokenOut quotedBy ([], 0) :=
  ⟨[], [], List.nodup_nil, by simp, Nat.zero_le _, List.Forall₂.nil, List.Perm.refl _, rfl⟩

theorem splitPlan_some {pool : PoolState} {amount expected : Nat} {split : SplitPlan}
    (planned : splitPlan optimizer tokenIn tokenOut pool amount expected = some split) :
    expected ≠ 0 ∧ split.expectedAmountOut = expected ∧ split.poolId = pool.poolId ∧
      split.tokenIn = tokenIn ∧ split.tokenOut = tokenOut ∧ split.amountIn = amount ∧
      splitExtra optimizer tokenIn tokenOut pool = some split.extra := by
  unfold splitPlan at planned
  split at planned
  · cases planned
  · rename_i positive
    obtain ⟨extra, found, same⟩ := Option.map_eq_some_iff.mp planned
    subst same
    exact ⟨positive, rfl, rfl, rfl, rfl, rfl, found⟩

theorem ensures_expectedOutput
    (sound : quoter.Sound snapshot tokenIn tokenOut invariant quotedBy)
    {allocation : Allocation} (quoted : QuotedAllocation snapshot quotedBy allocation)
    {pool : PoolState} (edgePool : snapshot.edgePool allocation.edgeRef = some pool)
    {start : State} (holds : invariant start) :
    Ensures (expectedOutput quoter tokenIn tokenOut pool allocation) start
      fun expected finish => invariant finish ∧ quotedBy pool allocation.amount expected := by
  unfold expectedOutput
  split
  · rename_i positive
    rw [ensures_pure]
    refine ⟨holds, ?_⟩
    rcases quoted with unquoted | ⟨other, otherPool, quotedOther⟩
    · exact absurd unquoted positive.ne'
    · rw [edgePool] at otherPool
      injection otherPool with same
      exact same ▸ quotedOther
  · obtain ⟨edge, _, found⟩ := Option.bind_eq_some_iff.mp edgePool
    exact sound edge.poolId pool found allocation.amount start holds

theorem ensures_materializeAllocation
    (sound : quoter.Sound snapshot tokenIn tokenOut invariant quotedBy)
    {allocation : Allocation} (quoted : QuotedAllocation snapshot quotedBy allocation)
    {start : State} (holds : invariant start) :
    Ensures (materializeAllocation optimizer quoter snapshot tokenIn tokenOut allocation) start
      fun split? finish => invariant finish ∧ ∀ split, split? = some split →
        SplitOf optimizer snapshot tokenIn tokenOut quotedBy allocation split := by
  unfold materializeAllocation
  split
  · simp [holds]
  · rename_i amount
    split
    · simp [holds]
    · rename_i edge resolves
      split
      · simp [holds]
      · rename_i pool found
        have edgePool : snapshot.edgePool allocation.edgeRef = some pool := by
          unfold GraphSnapshot.edgePool
          rw [resolves]
          exact found
        have asSplit : ∀ expected, quotedBy pool allocation.amount expected → ∀ split,
            splitPlan optimizer tokenIn tokenOut pool allocation.amount expected = some split →
            SplitOf optimizer snapshot tokenIn tokenOut quotedBy allocation split := by
          intro expected quotedExpected split planned
          have fields := (splitPlan_some planned).2.1
          exact ⟨pool, edgePool, amount, fields ▸ quotedExpected, fields ▸ planned⟩
        rw [ensures_bind]
        refine (ensures_expectedOutput sound quoted edgePool holds).mono ?_
        rintro expected finish ⟨kept, quotedExpected⟩
        rw [ensures_pure]
        exact ⟨kept, asSplit expected quotedExpected⟩

theorem totalExpected_eq (plans : List SplitPlan) :
    totalExpected plans = min (plans.map SplitPlan.expectedAmountOut).sum u128Max := by
  unfold totalExpected
  rw [foldl_saturatingAdd u128Max _ plans (Nat.zero_le _), Nat.zero_add]

/-- The number of edges that have been allocated something. -/
def activeCount (allocations : List Allocation) : Nat :=
  allocations.countP fun allocation => allocation.amount ≠ 0

theorem length_le_activeCount {allocations kept : List Allocation} {splits : List SplitPlan}
    (sublist : kept.Sublist allocations)
    (related : List.Forall₂ (SplitOf optimizer snapshot tokenIn tokenOut quotedBy) kept splits) :
    kept.length ≤ activeCount allocations := by
  have allActive : ∀ allocation ∈ kept, decide (allocation.amount ≠ 0) = true := by
    intro allocation member
    obtain ⟨split, _, pool, _, amount, _⟩ := exists_related_of_mem related member
    exact decide_eq_true amount
  have counted : activeCount kept = kept.length := List.countP_eq_length.mpr allActive
  rw [← counted]
  exact sublist.countP_le

/-- The splits are made of some of the allocations. -/
theorem ensures_materializedSplits
    (sound : quoter.Sound snapshot tokenIn tokenOut invariant quotedBy)
    {allocations : List Allocation}
    (quoted : ∀ allocation ∈ allocations, QuotedAllocation snapshot quotedBy allocation)
    {start : State} (holds : invariant start) :
    Ensures (materializeAllocationsWithQuotes optimizer quoter snapshot tokenIn tokenOut
      allocations) start fun result finish => invariant finish ∧
        ∃ used unsorted, used.Sublist allocations ∧
          List.Forall₂ (SplitOf optimizer snapshot tokenIn tokenOut quotedBy) used unsorted ∧
          result.1.Perm unsorted ∧
          result.2 = min (result.1.map SplitPlan.expectedAmountOut).sum u128Max := by
  unfold materializeAllocationsWithQuotes
  rw [ensures_bind]
  refine (ensures_mapM _ invariant _ (fun allocation member start kept =>
    ensures_materializeAllocation sound (quoted allocation member) kept) holds).mono ?_
  rintro materialized finish ⟨kept, related⟩
  rw [ensures_pure]
  refine ⟨kept, ?_⟩
  obtain ⟨used, sublist, relatedUsed⟩ := exists_sublist_related_reduceOption related
  have sorted : (materialized.reduceOption.insertionSort fun a b =>
      (compareSplitPlans a b).isLE).Perm materialized.reduceOption := List.perm_insertionSort _ _
  refine ⟨used, materialized.reduceOption, sublist, relatedUsed, sorted, ?_⟩
  have total := (sorted.map SplitPlan.expectedAmountOut).sum_nat
  rw [totalExpected_eq, ← total]

theorem ensures_materializeAllocationsWithQuotes
    (sound : quoter.Sound snapshot tokenIn tokenOut invariant quotedBy)
    {allocations : List Allocation}
    (quoted : ∀ allocation ∈ allocations, QuotedAllocation snapshot quotedBy allocation)
    (nodup : (allocations.map Allocation.edgeRef).Nodup)
    (listed : ∀ allocation ∈ allocations,
      allocation.edgeRef ∈ snapshot.pairEdges tokenIn tokenOut)
    (active : activeCount allocations ≤ optimizer.maxParallelPools)
    {start : State} (holds : invariant start) :
    Ensures (materializeAllocationsWithQuotes optimizer quoter snapshot tokenIn tokenOut
      allocations) start fun result finish => invariant finish ∧
        PairSplits optimizer snapshot tokenIn tokenOut quotedBy result := by
  refine (ensures_materializedSplits sound quoted holds).mono ?_
  rintro result finish ⟨kept, used, unsorted, sublist, related, sorted, total⟩
  exact ⟨kept, used, unsorted, nodup.sublist (sublist.map _),
    fun allocation member => listed allocation (sublist.subset member),
    (length_le_activeCount sublist related).trans active, related, sorted, total⟩

/-! ### Quoting jobs -/

/-- The result of a job: a quote of zero, or one that the quoter returned. -/
def JobResult {Label : Type} (snapshot : GraphSnapshot)
    (quotedBy : PoolState → Nat → Nat → Prop) (job : QuoteJob Label) (result : Label × Nat) :
    Prop :=
  result.1 = job.label ∧ (result.2 = 0 ∨ ∃ pool, snapshot.pool job.poolId = some pool ∧
    quotedBy pool job.amount result.2)

theorem ensures_quoteJob {Label : Type}
    (sound : quoter.Sound snapshot tokenIn tokenOut invariant quotedBy) (job : QuoteJob Label)
    {start : State} (holds : invariant start) :
    Ensures (quoteJob quoter snapshot tokenIn tokenOut job) start fun result finish =>
      invariant finish ∧ JobResult snapshot quotedBy job result := by
  unfold quoteJob
  split
  · rw [ensures_pure]
    exact ⟨holds, rfl, Or.inl rfl⟩
  · rename_i pool found
    rw [ensures_bind]
    refine (sound job.poolId pool found job.amount start holds).mono ?_
    rintro quote finish ⟨kept, quotedQuote⟩
    rw [ensures_pure]
    exact ⟨kept, rfl, Or.inr ⟨pool, found, quotedQuote⟩⟩

/-- Every result belongs to one of the jobs. -/
theorem ensures_quoteJobs {Label : Type}
    (sound : quoter.Sound snapshot tokenIn tokenOut invariant quotedBy)
    (jobs : List (QuoteJob Label)) {start : State} (holds : invariant start) :
    Ensures (quoteJobs quoter snapshot tokenIn tokenOut jobs) start fun results finish =>
      invariant finish ∧
        ∀ result ∈ results, ∃ job ∈ jobs, JobResult snapshot quotedBy job result := by
  unfold quoteJobs
  rw [ensures_bind, ensures_get]
  refine (ensures_mapM _ invariant _ (fun job _ start kept =>
    ensures_quoteJob sound job kept) holds).mono ?_
  rintro results finish ⟨kept, related⟩
  refine ⟨kept, fun result member => ?_⟩
  obtain ⟨job, finished, isResult⟩ := exists_related_of_mem_right related member
  obtain ⟨position, _, found⟩ := List.mem_filterMap.mp finished
  exact ⟨job, List.mem_of_getElem? found, isResult⟩

/-! ### One pool -/

theorem foldl_betterQuote_some {quotes : List (EdgeRef × Nat)}
    {start : Option (EdgeRef × Nat)} {best : EdgeRef × Nat}
    (found : quotes.foldl betterQuote start = some best) :
    start = some best ∨ best ∈ quotes ∧ 0 < best.2 := by
  induction quotes generalizing start with
  | nil => exact Or.inl found
  | cons quoted rest inductionHypothesis =>
    rcases inductionHypothesis found with before | ⟨listed, positive⟩
    · unfold betterQuote at before
      split at before
      · rename_i better
        injection before with same
        rw [Bool.and_eq_true, decide_eq_true_eq] at better
        exact Or.inr ⟨same ▸ List.mem_cons_self, same ▸ better.1⟩
      · exact Or.inl before
    · exact Or.inr ⟨List.mem_cons_of_mem _ listed, positive⟩

theorem bestQuote_some {quotes : List (EdgeRef × Nat)} {best : EdgeRef × Nat}
    (found : bestQuote quotes = some best) : best ∈ quotes ∧ 0 < best.2 := by
  rcases foldl_betterQuote_some found with none | listed
  · cases none
  · exact listed

theorem mem_singleBestJobs {totalIn : Nat} {edgeRefs : List EdgeRef} {job : QuoteJob EdgeRef}
    (member : job ∈ singleBestJobs snapshot totalIn edgeRefs) :
    job.label ∈ edgeRefs ∧ job.amount = totalIn ∧
      ∃ edge, snapshot.edge job.label = some edge ∧ job.poolId = edge.poolId := by
  obtain ⟨edgeRef, listed, found⟩ := List.mem_filterMap.mp member
  obtain ⟨edge, resolves, kept⟩ := Option.bind_eq_some_iff.mp found
  split at kept
  · cases kept
  · injection kept with same
    subst same
    exact ⟨listed, rfl, edge, resolves, rfl⟩

/-- A positive result of a job is a quote for the edge that the job was made for. -/
theorem quotedAllocation_of_jobResult {Label : Type} {job : QuoteJob Label}
    {result : Label × Nat} (isResult : JobResult snapshot quotedBy job result)
    {edgeRef : EdgeRef} {edge : Edge} (resolves : snapshot.edge edgeRef = some edge)
    (samePool : job.poolId = edge.poolId) :
    QuotedAllocation snapshot quotedBy
      { edgeRef, amount := job.amount, quoted := result.2 } := by
  rcases isResult.2 with zero | ⟨pool, found, quotedResult⟩
  · exact Or.inl zero
  · refine Or.inr ⟨pool, ?_, quotedResult⟩
    unfold GraphSnapshot.edgePool
    rw [resolves, ← found, samePool]
    rfl

theorem ensures_singleBest
    (sound : quoter.Sound snapshot tokenIn tokenOut invariant quotedBy) (totalIn : Nat)
    {edgeRefs : List EdgeRef}
    (listed : ∀ edgeRef ∈ edgeRefs, edgeRef ∈ snapshot.pairEdges tokenIn tokenOut)
    {start : State} (holds : invariant start) :
    Ensures (singleBest optimizer quoter snapshot tokenIn tokenOut totalIn edgeRefs) start
      fun result finish => invariant finish ∧
        PairSplits optimizer snapshot tokenIn tokenOut quotedBy result := by
  unfold singleBest
  rw [ensures_bind]
  refine (ensures_quoteJobs sound (singleBestJobs snapshot totalIn edgeRefs) holds).mono ?_
  rintro quotes middle ⟨kept, results⟩
  split
  · rename_i edgeRef out best
    obtain ⟨job, isJob, isResult⟩ := results _ (bestQuote_some best).1
    obtain ⟨inRefs, amount, edge, resolves, samePool⟩ := mem_singleBestJobs isJob
    have label : edgeRef = job.label := isResult.1
    have quoted := quotedAllocation_of_jobResult isResult resolves samePool
    rw [← label, amount] at quoted
    refine ensures_materializeAllocationsWithQuotes sound ?_ ?_ ?_ ?_ kept
    · intro allocation member
      rw [List.mem_singleton.mp member]
      exact quoted
    · exact List.nodup_singleton edgeRef
    · intro allocation member
      rw [List.mem_singleton.mp member]
      exact listed edgeRef (label ▸ inRefs)
    · exact (List.countP_le_length).trans optimizer.maxParallelPools_range.1
  · rw [ensures_pure]
    exact ⟨kept, pairSplits_nil⟩

/-! ### Slice by slice -/

/-- What every round of the greedy loop keeps. -/
structure GreedyInvariant (optimizer : SplitOptimizer) (snapshot : GraphSnapshot)
    (quotedBy : PoolState → Nat → Nat → Prop) (edgeRefs : List EdgeRef) (state : GreedyState) :
    Prop where
  edgeRefs : state.allocations.map Allocation.edgeRef = edgeRefs
  quoted : ∀ allocation ∈ state.allocations, QuotedAllocation snapshot quotedBy allocation
  active : activeCount state.allocations ≤ state.activeAllocations
  bounded : state.activeAllocations ≤ optimizer.maxParallelPools

theorem mem_greedyJobs {slice : Nat} {state : GreedyState} {job : QuoteJob Nat}
    (member : job ∈ greedyJobs optimizer snapshot slice state) :
    ∃ allocation edge, state.allocations[job.label]? = some allocation ∧
      snapshot.edge allocation.edgeRef = some edge ∧ job.poolId = edge.poolId ∧
      job.amount = saturatingAdd u128Max allocation.amount slice ∧
      (allocation.amount = 0 → state.activeAllocations < optimizer.maxParallelPools) := by
  obtain ⟨⟨allocation, idx⟩, listed, found⟩ := List.mem_filterMap.mp member
  rw [List.mem_zipIdx_iff_getElem?] at listed
  simp only at found
  split at found
  · cases found
  · rename_i usable
    obtain ⟨edge, resolves, kept⟩ := Option.bind_eq_some_iff.mp found
    split at kept
    · cases kept
    · injection kept with same
      subst same
      refine ⟨allocation, edge, listed, resolves, rfl, rfl, fun unused => ?_⟩
      exact Nat.lt_of_not_le fun full => usable ⟨unused, full⟩

theorem bestMarginal_some {state : GreedyState} {quotes : List (Nat × Nat)}
    {winner : RankedQuote} (found : bestMarginal state quotes = some winner) :
    ∃ quoted ∈ quotes, winner = rankedQuote state quoted := by
  have listed := List.mem_of_mem_head? (Option.mem_def.mpr found)
  rw [(List.perm_insertionSort _ _).mem_iff] at listed
  obtain ⟨quoted, member, same⟩ := List.mem_map.mp listed
  exact ⟨quoted, member, same.symm⟩

theorem activeCount_modify {allocations : List Allocation} {idx : Nat} {before : Allocation}
    (change : Allocation → Allocation) (found : allocations[idx]? = some before)
    (positive : (change before).amount ≠ 0) :
    activeCount (allocations.modify idx change) =
      activeCount allocations + if before.amount = 0 then 1 else 0 := by
  unfold activeCount
  induction allocations generalizing idx with
  | nil => cases found
  | cons first rest inductionHypothesis =>
    cases idx with
    | zero =>
      injection found with same
      subst same
      rw [List.modify_zero_cons, List.countP_cons, List.countP_cons]
      by_cases unused : first.amount = 0
      · simp [unused, positive]
      · simp [unused, positive]
    | succ idx =>
      rw [List.modify_succ_cons, List.countP_cons, List.countP_cons, inductionHypothesis found]
      exact Nat.add_right_comm _ _ _

theorem mem_modify {allocations : List Allocation} {idx : Nat} {change : Allocation → Allocation}
    {allocation : Allocation} (member : allocation ∈ allocations.modify idx change) :
    allocation ∈ allocations ∨
      ∃ before, allocations[idx]? = some before ∧ allocation = change before := by
  obtain ⟨position, found⟩ := List.mem_iff_getElem?.mp member
  rw [List.getElem?_modify] at found
  obtain ⟨before, stored, same⟩ := Option.map_eq_some_iff.mp found
  split at same
  · rename_i own
    exact Or.inr ⟨before, own ▸ stored, same.symm⟩
  · exact Or.inl (same ▸ List.mem_of_getElem? stored)

/-- Giving a slice to the winner of a round keeps the invariant. -/
theorem greedyInvariant_assignSlice {edgeRefs : List EdgeRef} {slice : Nat}
    {state : GreedyState} (kept : GreedyInvariant optimizer snapshot quotedBy edgeRefs state)
    (positive : 0 < slice) {quotes : List (Nat × Nat)}
    (results : ∀ result ∈ quotes, ∃ job ∈ greedyJobs optimizer snapshot slice state,
      JobResult snapshot quotedBy job result)
    {winner : RankedQuote} (best : bestMarginal state quotes = some winner) :
    GreedyInvariant optimizer snapshot quotedBy edgeRefs (assignSlice slice winner state) := by
  obtain ⟨quoted, listed, same⟩ := bestMarginal_some best
  obtain ⟨job, isJob, isResult⟩ := results quoted listed
  obtain ⟨allocation, edge, found, resolves, samePool, amount, room⟩ := mem_greedyJobs isJob
  have label : winner.idx = job.label := by
    rw [same]
    exact isResult.1
  have totalQuote : winner.totalQuote = quoted.2 := by
    rw [same]
    rfl
  have foundWinner : state.allocations[winner.idx]? = some allocation := label ▸ found
  have assigned : (allocation.extend slice winner.totalQuote).amount ≠ 0 := by
    unfold Allocation.extend saturatingAdd u128Max
    simp only
    omega
  have counted := activeCount_modify (·.extend slice winner.totalQuote) foundWinner assigned
  have active : (assignSlice slice winner state).activeAllocations =
      state.activeAllocations + if allocation.amount = 0 then 1 else 0 := by
    unfold assignSlice
    rw [foundWinner, Option.map_some, Option.getD_some]
    split <;> rfl
  refine ⟨?_, ?_, ?_, ?_⟩
  · rw [← kept.edgeRefs]
    refine List.ext_getElem? fun position => ?_
    show ((state.allocations.modify winner.idx _).map Allocation.edgeRef)[position]? = _
    rw [List.getElem?_map, List.getElem?_map, List.getElem?_modify]
    cases state.allocations[position]? with
    | none => rfl
    | some stored => by_cases own : winner.idx = position <;> simp [own, Allocation.extend]
  · intro other member
    rcases mem_modify member with old | ⟨before, stored, changed⟩
    · exact kept.quoted other old
    · rw [foundWinner] at stored
      injection stored with own
      rw [changed, ← own]
      have quotedWinner := quotedAllocation_of_jobResult isResult resolves samePool
      rw [amount, ← totalQuote] at quotedWinner
      exact quotedWinner
  · rw [active]
    refine (Nat.le_of_eq counted).trans ?_
    exact Nat.add_le_add_right kept.active _
  · rw [active]
    split
    · rename_i unused
      exact room unused
    · exact kept.bounded

theorem ensures_greedyLoop
    (sound : quoter.Sound snapshot tokenIn tokenOut invariant quotedBy) (totalIn : Nat)
    {minSlice : Nat} (positive : 0 < minSlice) {edgeRefs : List EdgeRef} (fuel : Nat)
    {state : GreedyState} (kept : GreedyInvariant optimizer snapshot quotedBy edgeRefs state)
    {start : State} (holds : invariant start) :
    Ensures (greedyLoop optimizer quoter snapshot tokenIn tokenOut totalIn minSlice fuel state)
      start fun final finish => invariant finish ∧
        GreedyInvariant optimizer snapshot quotedBy edgeRefs final := by
  induction fuel generalizing state start with
  | zero =>
    unfold greedyLoop
    rw [ensures_pure]
    exact ⟨holds, kept⟩
  | succ fuel inductionHypothesis =>
    unfold greedyLoop
    split
    · rename_i missing
      rw [ensures_bind]
      refine (ensures_quoteJobs sound _ holds).mono ?_
      rintro quotes middle ⟨holdsMiddle, results⟩
      split
      · rename_i winner best
        split
        · rw [ensures_pure]
          exact ⟨holdsMiddle, kept⟩
        · have slice : 0 < min (totalIn - state.assigned) minSlice :=
            Nat.lt_min.mpr ⟨Nat.sub_pos_of_lt missing, positive⟩
          exact inductionHypothesis (greedyInvariant_assignSlice kept slice results best)
            holdsMiddle
      · rw [ensures_pure]
        exact ⟨holdsMiddle, kept⟩
    · rw [ensures_pure]
      exact ⟨holds, kept⟩

theorem greedyInvariant_unassigned (edgeRefs : List EdgeRef) :
    GreedyInvariant optimizer snapshot quotedBy edgeRefs
      { allocations := edgeRefs.map fun edgeRef => { edgeRef, amount := 0, quoted := 0 }
        assigned := 0
        activeAllocations := 0 } := by
  refine ⟨?_, ?_, ?_, Nat.zero_le _⟩
  · rw [List.map_map]
    exact List.map_id edgeRefs
  · intro allocation member
    obtain ⟨edgeRef, _, same⟩ := List.mem_map.mp member
    exact Or.inl (same ▸ rfl)
  · simp [activeCount]

theorem ensures_greedySplit
    (sound : quoter.Sound snapshot tokenIn tokenOut invariant quotedBy) (totalIn : Nat)
    {minSlice : Nat} (positive : 0 < minSlice) {edgeRefs : List EdgeRef} (nodup : edgeRefs.Nodup)
    (listed : ∀ edgeRef ∈ edgeRefs, edgeRef ∈ snapshot.pairEdges tokenIn tokenOut)
    {start : State} (holds : invariant start) :
    Ensures (greedySplit optimizer quoter snapshot tokenIn tokenOut totalIn minSlice edgeRefs)
      start fun result finish => invariant finish ∧
        PairSplits optimizer snapshot tokenIn tokenOut quotedBy result := by
  unfold greedySplit
  rw [ensures_bind]
  refine (ensures_greedyLoop sound totalIn positive totalIn
    (greedyInvariant_unassigned edgeRefs) holds).mono ?_
  rintro final middle ⟨holdsMiddle, kept⟩
  refine ensures_materializeAllocationsWithQuotes sound kept.quoted ?_ ?_
    (kept.active.trans kept.bounded) holdsMiddle
  · rw [kept.edgeRefs]
    exact nodup
  · intro allocation member
    refine listed allocation.edgeRef ?_
    rw [← kept.edgeRefs]
    exact List.mem_map_of_mem member

/-! ### Every way -/

theorem map_edgeRef_unquotedAllocations (edgeRefs : List EdgeRef) (amounts : List Nat) :
    (unquotedAllocations edgeRefs amounts).map Allocation.edgeRef =
      edgeRefs.take amounts.length := by
  unfold unquotedAllocations
  induction edgeRefs generalizing amounts with
  | nil => simp
  | cons edgeRef rest inductionHypothesis =>
    cases amounts with
    | nil => rfl
    | cons amount amounts =>
      rw [List.zip_cons_cons, List.map_cons, List.map_cons, inductionHypothesis]
      rfl

/-- The amounts of the solver, as allocations of the edges they were computed for. -/
theorem unquotedAllocations_spec {edgeRefs : List EdgeRef} (amounts : List Nat)
    (nodup : edgeRefs.Nodup)
    (listed : ∀ edgeRef ∈ edgeRefs, edgeRef ∈ snapshot.pairEdges tokenIn tokenOut)
    (atMost : edgeRefs.length ≤ optimizer.maxParallelPools) :
    ((unquotedAllocations edgeRefs amounts).map Allocation.edgeRef).Nodup ∧
      (∀ allocation ∈ unquotedAllocations edgeRefs amounts,
        allocation.edgeRef ∈ snapshot.pairEdges tokenIn tokenOut) ∧
      activeCount (unquotedAllocations edgeRefs amounts) ≤ optimizer.maxParallelPools ∧
      ∀ allocation ∈ unquotedAllocations edgeRefs amounts,
        QuotedAllocation snapshot quotedBy allocation := by
  have refs := map_edgeRef_unquotedAllocations edgeRefs amounts
  have length : (unquotedAllocations edgeRefs amounts).length ≤ edgeRefs.length := by
    unfold unquotedAllocations
    rw [List.length_map, List.length_zip]
    exact Nat.min_le_left _ _
  refine ⟨?_, ?_, List.countP_le_length.trans (length.trans atMost), ?_⟩
  · rw [refs]
    exact nodup.sublist (List.take_sublist _ _)
  · intro allocation member
    have inRefs : allocation.edgeRef ∈ edgeRefs.take amounts.length := by
      rw [← refs]
      exact List.mem_map_of_mem member
    exact listed allocation.edgeRef (List.mem_of_mem_take inRefs)
  · intro allocation member
    obtain ⟨pair, _, same⟩ := List.mem_map.mp member
    exact Or.inl (same ▸ rfl)

theorem ensures_v2Split
    (sound : quoter.Sound snapshot tokenIn tokenOut invariant quotedBy) (totalIn : Nat)
    {edgeRefs : List EdgeRef} (nodup : edgeRefs.Nodup)
    (listed : ∀ edgeRef ∈ edgeRefs, edgeRef ∈ snapshot.pairEdges tokenIn tokenOut)
    (atMost : edgeRefs.length ≤ optimizer.maxParallelPools)
    {start : State} (holds : invariant start) :
    Ensures (v2Split optimizer solver quoter snapshot tokenIn tokenOut totalIn edgeRefs) start
      fun result finish => invariant finish ∧
        PairSplits optimizer snapshot tokenIn tokenOut quotedBy result := by
  unfold v2Split
  split
  · rename_i amounts _
    obtain ⟨refsNodup, refsListed, active, quoted⟩ :=
      unquotedAllocations_spec amounts nodup listed atMost
    exact ensures_materializeAllocationsWithQuotes sound quoted refsNodup refsListed active holds
  · rw [ensures_pure]
    exact ⟨holds, pairSplits_nil⟩

/-- Whichever way the optimizer takes, it returns splits of the pair. -/
theorem ensures_optimizePair
    (sound : quoter.Sound snapshot tokenIn tokenOut invariant quotedBy) (totalIn : Nat)
    {start : State} (holds : invariant start) :
    Ensures (optimizePair optimizer solver quoter snapshot tokenIn tokenOut totalIn) start
      fun result finish => invariant finish ∧
        PairSplits optimizer snapshot tokenIn tokenOut quotedBy result := by
  obtain ⟨rankedNodup, listed⟩ := rankedPairEdges_spec snapshot
    (snapshot.pairEdges tokenIn tokenOut) optimizer.pairEdgeScanLimit totalIn
  unfold optimizePair
  simp only
  split
  · rw [ensures_pure]
    exact ⟨holds, pairSplits_nil⟩
  · split
    · exact ensures_singleBest sound totalIn listed holds
    · rw [ensures_bind]
      refine (ensures_v2Split sound totalIn (rankedNodup.sublist (List.take_sublist _ _))
        (fun edgeRef member => listed edgeRef (List.mem_of_mem_take member))
        (List.length_take_le _ _) holds).mono ?_
      rintro materialized middle ⟨holdsMiddle, splits⟩
      split
      · exact ensures_greedySplit sound totalIn
          (Nat.lt_of_lt_of_le Nat.one_pos (Nat.le_max_right _ _)) rankedNodup listed holdsMiddle
      · rw [ensures_pure]
        exact ⟨holdsMiddle, splits⟩

end Quotes

end DexArbitrage
