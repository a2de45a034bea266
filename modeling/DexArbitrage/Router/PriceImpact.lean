/-
This file compares the outputs a plan predicts with the outputs its swaps
yield when they are made one after the other, each moving the reserves of its
pool. Every hop is quoted on the reserves of the snapshot, so a pool that two
hops use is quoted in the second one as if the first one had not traded; the
prediction is exact for plans that use no pool in two hops.

A swap is made as the executor makes it: with the output that `_getAmountOut`
computes from the present reserves and the fee in the split.
-/

import Mathlib.Algebra.Order.BigOperators.Group.List
import Mathlib.Algebra.Order.Ring.Nat
import DexArbitrage.Contracts.V2Quote
import DexArbitrage.Graph.PairIndex
import DexArbitrage.Router.ExactQuoter
import DexArbitrage.Router.QuoteCandidate

namespace DexArbitrage

/-! ### The exact quoter with its cache -/

/-- The cache, and how many quotes have been made. -/
structure QuoterState where
  cache : QuoteCache
  calls : Nat

/-- What the quotes hear from outside, and in which order concurrent ones finish, by the number of
quotes made before. -/
structure QuoterOracle where
  replies : Nat → QuoteReplies
  finishOrder : Nat → Nat → List Nat
  finishOrder_perm : ∀ calls count, (finishOrder calls count).Perm (List.range count)

def exactQuoter (settings : QuoterSettings) (localQuotes : LocalQuotes) (oracle : QuoterOracle)
    (snapshotId : Nat) : Quoter QuoterState where
  quotePool pool tokenIn tokenOut amountIn := fun state =>
    match quotePool settings localQuotes (oracle.replies state.calls) snapshotId pool tokenIn
      tokenOut amountIn state.cache with
    | (.ok amountOut, cache) => .ok (amountOut, { cache, calls := state.calls + 1 })
    | (.error error, _) => .error error
  finishOrder state := oracle.finishOrder state.calls
  finishOrder_perm state := oracle.finishOrder_perm state.calls

/-- What the cache holds under the id of the snapshot are quotes of the snapshot. -/
def OwnEntries (settings : QuoterSettings) (localQuotes : LocalQuotes)
    (snapshot : GraphSnapshot) (state : QuoterState) : Prop :=
  ∀ key amount, key.snapshotId = snapshot.snapshotId → state.cache.stored key = some amount →
    EntryOf settings localQuotes snapshot key amount

section ExactQuoter

variable {settings : QuoterSettings} {localQuotes : LocalQuotes} {oracle : QuoterOracle}
  {snapshot : GraphSnapshot}

/-- On the pools of the snapshot the exact quoter returns quotes of these pools, and keeps the
cache consistent. -/
theorem sound_exactQuoter (filed : PoolsFiled snapshot.pools) (tokenIn tokenOut : Address) :
    (exactQuoter settings localQuotes oracle snapshot.snapshotId).Sound snapshot tokenIn tokenOut
      (OwnEntries settings localQuotes snapshot)
      fun pool => QuotedBy settings localQuotes pool tokenIn tokenOut := by
  intro poolId pool found amount start own out finish ran
  rw [← filed poolId pool found] at found
  have quoted : ∃ cache, quotePool settings localQuotes (oracle.replies start.calls)
      snapshot.snapshotId pool tokenIn tokenOut amount start.cache = (.ok out, cache) ∧
      finish = { cache, calls := start.calls + 1 } := by
    have unfolded : (match quotePool settings localQuotes (oracle.replies start.calls)
        snapshot.snapshotId pool tokenIn tokenOut amount start.cache with
      | (.ok amountOut, cache) => Except.ok (amountOut, QuoterState.mk cache (start.calls + 1))
      | (.error error, _) => .error error) = Except.ok (out, finish) := ran
    split at unfolded
    · rename_i amountOut cache result
      injection unfolded with same
      injection same with sameOut sameFinish
      exact ⟨cache, sameOut ▸ result, sameFinish.symm⟩
    · cases unfolded
  obtain ⟨cache, result, same⟩ := quoted
  subst same
  constructor
  · intro key value sameId stored
    have after : (quotePool settings localQuotes (oracle.replies start.calls)
        snapshot.snapshotId pool tokenIn tokenOut amount start.cache).2.stored key =
        some value := by
      rw [result]
      exact stored
    rcases stored_quotePool after with before | ⟨isKey, quotedNow⟩
    · exact own key value sameId before
    · rw [isKey]
      exact ⟨rfl, pool, found, quotedNow⟩
  · rcases quotePool_cases result with hit | quotedNow
    · obtain ⟨_, other, otherFound, quotedBefore⟩ := own _ out rfl hit
      have sameOther : some other = some pool := by
        rw [← otherFound, ← found]
        rfl
      injection sameOther with sameOther
      exact sameOther ▸ quotedBefore
    · exact quotedNow

end ExactQuoter

/-! ### Making the swaps of a plan -/

def PoolState.zeroForOne (pool : PoolState) (tokenIn : Address) : Bool :=
  pool.tokenAddresses.head? = some tokenIn

/-- The reserves after a swap. -/
def V2PoolState.swap (state : V2PoolState) (zeroForOne : Bool) (amountIn amountOut : Nat) :
    V2PoolState :=
  if zeroForOne then
    { state with reserve0 := state.reserve0 + amountIn, reserve1 := state.reserve1 - amountOut }
  else
    { state with reserve0 := state.reserve0 - amountOut, reserve1 := state.reserve1 + amountIn }

/-- The output of a swap and the pool after it: the pool pays what the executor requests. -/
def poolSwap (split : SplitPlan) (pool : PoolState) : Except Revert (Nat × PoolState) :=
  match pool.state, split.extra with
  | .uniswapV2Like state, .v2 feePpm =>
    let zeroForOne := pool.zeroForOne split.tokenIn
    (getAmountOut split.amountIn (state.reserveIn zeroForOne) (state.reserveOut zeroForOne)
      feePpm).map fun amountOut =>
        (amountOut,
          { pool with state := .uniswapV2Like (state.swap zeroForOne split.amountIn amountOut) })
  | _, _ => .error "UNSUPPORTED_ADAPTER"

def swapSplit (split : SplitPlan) : Program (HashMap Address PoolState) Revert Nat := fun pools =>
  match pools.lookup split.poolId with
  | some pool => (poolSwap split pool).map fun (amountOut, swapped) =>
      (amountOut, pools.update split.poolId fun _ => swapped)
  | none => .error "UNKNOWN_POOL"

/-- The outputs of all swaps, hop by hop. -/
def swapHops (hops : List HopPlan) :
    Program (HashMap Address PoolState) Revert (List (List Nat)) :=
  hops.mapM fun hop => hop.splits.mapM swapSplit

/-- The outputs that a plan predicts. -/
def predictedOutputs (hops : List HopPlan) : List (List Nat) :=
  hops.map fun hop => hop.splits.map SplitPlan.expectedAmountOut

/-- Every swap yields what is predicted for it, and the swaps of the last hop together yield the
output of the plan. -/
def ExecutesAsPredicted (snapshot : GraphSnapshot) (plan : ExactPlan) : Prop :=
  (∃ pools, (swapHops plan.hops).run snapshot.pools = .ok (predictedOutputs plan.hops, pools)) ∧
    (predictedOutputs plan.hops).getLast?.map List.sum = some plan.outputAmount

/-- The exact numerator and denominator of a quote fit in 128 bits. -/
def SplitFits (snapshot : GraphSnapshot) (split : SplitPlan) : Prop :=
  ∀ pool state, snapshot.pool split.poolId = some pool → pool.state = .uniswapV2Like state →
    UniswapV2.exactNumerator state (pool.zeroForOne split.tokenIn) split.amountIn ≤ u128Max ∧
      UniswapV2.exactDenominator state (pool.zeroForOne split.tokenIn) split.amountIn ≤ u128Max

/-- No two hops use the same pool. -/
def HopsApart (hops : List HopPlan) : Prop :=
  hops.Pairwise fun first second =>
    ∀ split ∈ first.splits, ∀ other ∈ second.splits, split.poolId ≠ other.poolId

instance (hops : List HopPlan) : Decidable (HopsApart hops) :=
  inferInstanceAs (Decidable (List.Pairwise _ hops))

/-- The test for `SplitFits`. -/
def splitFits (snapshot : GraphSnapshot) (split : SplitPlan) : Bool :=
  (snapshot.pool split.poolId).all fun pool =>
    match pool.state with
    | .uniswapV2Like state =>
      UniswapV2.exactNumerator state (pool.zeroForOne split.tokenIn) split.amountIn ≤ u128Max &&
        UniswapV2.exactDenominator state (pool.zeroForOne split.tokenIn) split.amountIn ≤ u128Max
    | _ => true

theorem splitFits_iff (snapshot : GraphSnapshot) (split : SplitPlan) :
    splitFits snapshot split = true ↔ SplitFits snapshot split := by
  unfold splitFits
  constructor
  · intro check pool state found isState
    rw [found, Option.all_some, isState, Bool.and_eq_true, decide_eq_true_eq,
      decide_eq_true_eq] at check
    exact check
  · intro fits
    cases found : snapshot.pool split.poolId with
    | none => rfl
    | some pool =>
      rw [Option.all_some]
      split
      · rename_i state isState
        rw [Bool.and_eq_true, decide_eq_true_eq, decide_eq_true_eq]
        exact fits pool state found isState
      · rfl

instance (snapshot : GraphSnapshot) (split : SplitPlan) : Decidable (SplitFits snapshot split) :=
  decidable_of_iff _ (splitFits_iff snapshot split)

theorem run_swapSplit_ok {split : SplitPlan} {pools finish : HashMap Address PoolState}
    {amountOut : Nat} (ran : (swapSplit split).run pools = .ok (amountOut, finish)) :
    ∃ pool swapped, pools.lookup split.poolId = some pool ∧
      poolSwap split pool = .ok (amountOut, swapped) ∧
      finish = pools.update split.poolId fun _ => swapped := by
  have unfolded : (match pools.lookup split.poolId with
    | some pool => (poolSwap split pool).map fun (amountOut, swapped) =>
        (amountOut, pools.update split.poolId fun _ => swapped)
    | none => .error "UNKNOWN_POOL") = Except.ok (amountOut, finish) := ran
  split at unfolded
  · rename_i pool found
    cases swap : poolSwap split pool with
    | error reason =>
      rw [swap] at unfolded
      cases unfolded
    | ok result =>
      rw [swap] at unfolded
      injection unfolded with same
      injection same with sameOut sameFinish
      exact ⟨pool, result.2, found, sameOut ▸ swap, sameFinish.symm⟩
  · cases unfolded

theorem run_swapSplit {split : SplitPlan} {pools : HashMap Address PoolState}
    {pool swapped : PoolState} {amountOut : Nat} (found : pools.lookup split.poolId = some pool)
    (swap : poolSwap split pool = .ok (amountOut, swapped)) :
    (swapSplit split).run pools =
      .ok (amountOut, pools.update split.poolId fun _ => swapped) := by
  show swapSplit split pools = _
  unfold swapSplit
  rw [found]
  simp only [swap]
  rfl

/-- A swap reads and moves the reserves of its own pool only. -/
theorem localProgram_swapSplit :
    LocalProgram (fun (pools : HashMap Address PoolState) poolId => pools.lookup poolId)
      SplitPlan.poolId swapSplit := by
  constructor
  · intro split start amountOut finish ran other different
    obtain ⟨pool, swapped, _, _, moved⟩ := run_swapSplit_ok ran
    rw [moved]
    exact HashMap.lookup_update_ne start different _
  · intro split start other amountOut finish sameCell ran
    obtain ⟨pool, swapped, found, swap, _⟩ := run_swapSplit_ok ran
    exact ⟨_, run_swapSplit (sameCell ▸ found) swap⟩

/-- Hops that use no pool twice execute as predicted, when every swap does so on the reserves at
the start. -/
theorem run_swapHops {hops : List HopPlan}
    (nodup : ∀ hop ∈ hops, (hop.splits.map SplitPlan.poolId).Nodup) (apart : HopsApart hops)
    {pools : HashMap Address PoolState}
    (each : ∀ hop ∈ hops, ∀ split ∈ hop.splits, ∃ finish,
      (swapSplit split).run pools = .ok (split.expectedAmountOut, finish)) :
    ∃ finish, (swapHops hops).run pools = .ok (predictedOutputs hops, finish) := by
  induction hops generalizing pools with
  | nil => exact ⟨pools, rfl⟩
  | cons hop rest inductionHypothesis =>
    obtain ⟨apartFirst, apartRest⟩ := List.pairwise_cons.mp apart
    obtain ⟨middle, first, unchanged⟩ := localProgram_swapSplit.run_mapM
      (nodup hop List.mem_cons_self) SplitPlan.expectedAmountOut (each hop List.mem_cons_self)
    have restEach : ∀ later ∈ rest, ∀ split ∈ later.splits, ∃ finish,
        (swapSplit split).run middle = .ok (split.expectedAmountOut, finish) := by
      intro later member split inLater
      obtain ⟨finish, ran⟩ := each later (List.mem_cons_of_mem _ member) split inLater
      have untouched : split.poolId ∉ hop.splits.map SplitPlan.poolId := by
        intro used
        obtain ⟨other, inHop, same⟩ := List.mem_map.mp used
        exact apartFirst later member other inHop split inLater same
      exact localProgram_swapSplit.reads split pools middle _ finish
        (unchanged split.poolId untouched).symm ran
    obtain ⟨finish, ran⟩ := inductionHypothesis
      (fun later member => nodup later (List.mem_cons_of_mem _ member)) apartRest restEach
    exact ⟨finish, run_mapM_cons first ran⟩

/-! ### The quote of a pair is what the executor requests -/

theorem zeroForOne_of_idxOf? {pool : PoolState} {tokenIn tokenOut : Address} {i j : Nat}
    (twoTokens : pool.tokenAddresses.length = 2)
    (inAt : pool.tokenAddresses.idxOf? tokenIn = some i)
    (outAt : pool.tokenAddresses.idxOf? tokenOut = some j) (different : i ≠ j) :
    (i = 0 && j = 1 : Bool) = pool.zeroForOne tokenIn := by
  unfold PoolState.zeroForOne
  obtain ⟨token0, token1, tokens⟩ := List.length_eq_two.mp twoTokens
  rw [tokens] at inAt outAt ⊢
  have position : ∀ {token : Address} {k : Nat}, [token0, token1].idxOf? token = some k →
      k = 0 ∧ token0 = token ∨ k = 1 ∧ token0 ≠ token := by
    intro token k found
    rw [List.idxOf?_cons, List.idxOf?_cons, List.idxOf?_nil] at found
    split at found
    · rename_i same
      injection found with zero
      exact Or.inl ⟨zero.symm, eq_of_beq same⟩
    · rename_i notSame
      obtain ⟨rest, inRest, next⟩ := Option.map_eq_some_iff.mp found
      split at inRest
      · injection inRest with zero
        exact Or.inr ⟨by rw [← next, ← zero], fun same => notSame (beq_iff_eq.mpr same)⟩
      · cases inRest
  rw [List.head?_cons]
  rcases position inAt with ⟨zero, first⟩ | ⟨one, notFirst⟩
  · rcases position outAt with ⟨alsoZero, _⟩ | ⟨one, _⟩
    · exact absurd (zero.trans alsoZero.symm) different
    · simp [zero, one, first]
  · simp [one, notFirst]

/-- A positive quote of a constant-product pool is the quote between its two tokens. -/
theorem quoteExactIn_of_quotedBy {settings : QuoterSettings} {localQuotes : LocalQuotes}
    {pool : PoolState} {state : V2PoolState} (isV2 : pool.state = .uniswapV2Like state)
    {tokenIn tokenOut : Address} {amountIn expected : Nat} (positive : expected ≠ 0)
    (quoted : QuotedBy settings localQuotes pool tokenIn tokenOut amountIn expected) :
    tokenIn ≠ tokenOut ∧ UniswapV2.quoteExactIn state (pool.zeroForOne tokenIn) amountIn =
      some expected := by
  obtain ⟨replies, computed | ⟨_, zero⟩⟩ := quoted
  · unfold computeQuote at computed
    split at computed
    · rename_i i j inAt outAt
      split at computed
      · injection computed with zero
        exact absurd zero.symm positive
      · rename_i different
        have tokensDiffer : tokenIn ≠ tokenOut := by
          intro same
          rw [same, outAt] at inAt
          injection inAt with samePosition
          exact different samePosition.symm
        refine ⟨tokensDiffer, ?_⟩
        unfold quoteState at computed
        rw [isV2] at computed
        simp only [decide_eq_true_eq] at computed
        split at computed
        · rename_i twoTokens
          rw [zeroForOne_of_idxOf? twoTokens inAt outAt different] at computed
          injection computed with same
          cases quote : UniswapV2.quoteExactIn state (pool.zeroForOne tokenIn) amountIn with
          | none =>
            rw [quote] at same
            exact absurd same.symm positive
          | some value =>
            rw [quote] at same
            exact congrArg some same
        · cases computed
    · injection computed with zero
      exact absurd zero.symm positive
  · exact absurd zero positive

/-- A quote that fits is what `_getAmountOut` computes on the same reserves, and is small. -/
theorem getAmountOut_of_quoteExactIn {state : V2PoolState} {zeroForOne : Bool}
    {amountIn expected : Nat} (amount : amountIn ≠ 0) (positive : expected ≠ 0)
    (quoted : UniswapV2.quoteExactIn state zeroForOne amountIn = some expected)
    (numerator : UniswapV2.exactNumerator state zeroForOne amountIn ≤ u128Max)
    (denominator : UniswapV2.exactDenominator state zeroForOne amountIn ≤ u128Max) :
    getAmountOut amountIn (state.reserveIn zeroForOne) (state.reserveOut zeroForOne)
        state.feePpm = .ok expected ∧
      expected ≤ u128Max / 1000000 := by
  have reserves : state.reserveIn zeroForOne ≠ 0 ∧ state.reserveOut zeroForOne ≠ 0 := by
    rw [← not_or]
    intro empty
    unfold UniswapV2.quoteExactIn at quoted
    rw [if_neg amount] at quoted
    simp only [if_pos empty] at quoted
    cases quoted
  have exact := UniswapV2.quoteExactIn_eq state zeroForOne amountIn amount reserves.1 reserves.2
  rw [quoted, Nat.min_eq_left numerator, Nat.min_eq_left denominator] at exact
  injection exact with quotient
  have fee : state.feePpm < 1000000 := by
    by_contra whole
    have noFactor : 1000000 - state.feePpm = 0 := Nat.sub_eq_zero_of_le (Nat.not_lt.mp whole)
    have noOutput : UniswapV2.exactNumerator state zeroForOne amountIn = 0 := by
      unfold UniswapV2.exactNumerator
      rw [noFactor, Nat.mul_zero, Nat.zero_mul]
    rw [noOutput, Nat.zero_div] at quotient
    exact positive quotient
  have word : u128Max < 2 ^ 256 := by decide
  constructor
  · rw [getAmountOut_of_fits (Nat.pos_of_ne_zero amount)
      ⟨Nat.pos_of_ne_zero reserves.1, Nat.pos_of_ne_zero reserves.2⟩ fee
      (Nat.lt_of_le_of_lt numerator word) (Nat.lt_of_le_of_lt denominator word), quotient]
  · have scaled : 1000000 ≤ UniswapV2.exactDenominator state zeroForOne amountIn := by
      have pooled : 1000000 ≤ state.reserveIn zeroForOne * 1000000 :=
        Nat.le_mul_of_pos_left 1000000 (Nat.pos_of_ne_zero reserves.1)
      exact pooled.trans (Nat.le_add_right _ _)
    rw [quotient]
    exact (Nat.div_le_div_left scaled (by decide)).trans (Nat.div_le_div_right numerator)

/-! ### Plans that use no pool twice -/

section Prediction

variable {optimizer : SplitOptimizer} {settings : QuoterSettings} {localQuotes : LocalQuotes}
  {rates : FloatRates} {snapshotId : Nat} {blockRef : Option BlockRef} {tokens : List TokenInfo}
  {pools : HashMap Address PoolState} {snapshot : GraphSnapshot} {tokenIn tokenOut : Address}

/-- A split of a pair of constant-product pools yields on the snapshot's reserves what it is
expected to yield. -/
theorem swapSplit_of_splitOf (filed : PoolsFiled snapshot.pools)
    (v2Like : snapshot.PairIsV2Like tokenIn tokenOut) {allocation : Allocation}
    (listed : allocation.edgeRef ∈ snapshot.pairEdges tokenIn tokenOut) {split : SplitPlan}
    (isSplit : SplitOf optimizer snapshot tokenIn tokenOut
      (fun pool => QuotedBy settings localQuotes pool tokenIn tokenOut) allocation split)
    (fits : SplitFits snapshot split) :
    tokenIn ≠ tokenOut ∧ (snapshot.edge allocation.edgeRef).map Edge.poolId = some split.poolId ∧
      split.expectedAmountOut ≤ u128Max / 1000000 ∧
      ∃ finish, (swapSplit split).run snapshot.pools = .ok (split.expectedAmountOut, finish) := by
  obtain ⟨pool, edgePool, amount, quoted, planned⟩ := isSplit
  obtain ⟨edge, resolves, found⟩ := Option.bind_eq_some_iff.mp edgePool
  obtain ⟨positive, _, samePool, splitIn, _, splitAmount, extra⟩ := splitPlan_some planned
  have poolId : edge.poolId = split.poolId := by rw [samePool, filed edge.poolId pool found]
  have isV2Like := v2Like allocation.edgeRef listed edge resolves pool found
  rw [poolId] at found
  cases isV2 : pool.state with
  | uniswapV2Like state =>
    obtain ⟨different, quote⟩ := quoteExactIn_of_quotedBy isV2 positive quoted
    obtain ⟨numerator, denominator⟩ := fits pool state found isV2
    rw [splitIn, splitAmount] at numerator denominator
    obtain ⟨requested, small⟩ := getAmountOut_of_quoteExactIn amount positive quote numerator
      denominator
    have swap : poolSwap split pool = .ok (split.expectedAmountOut,
        { pool with state := .uniswapV2Like (state.swap (pool.zeroForOne tokenIn)
            allocation.amount split.expectedAmountOut) }) := by
      unfold splitExtra at extra
      rw [isV2] at extra
      injection extra with sameExtra
      unfold poolSwap
      rw [isV2, ← sameExtra, splitIn, splitAmount]
      simp only [requested]
      rfl
    exact ⟨different, by rw [resolves, Option.map_some, poolId], small, _,
      run_swapSplit found swap⟩
  | aerodromeV2Like state => simp [PoolState.IsV2Like, isV2] at isV2Like
  | uniswapV3Like state => simp [PoolState.IsV2Like, isV2] at isV2Like
  | traderJoeLb state => simp [PoolState.IsV2Like, isV2] at isV2Like
  | curvePlain state => simp [PoolState.IsV2Like, isV2] at isV2Like
  | balancerWeighted state => simp [PoolState.IsV2Like, isV2] at isV2Like

/-- Allocations to different edges of a pair are allocations to different pools when the edges of
the pair belong to different pools. -/
theorem nodup_poolIds_of_edgeRefs {allocations : List Allocation}
    (edgesApart : ((snapshot.pairEdges tokenIn tokenOut).map fun edgeRef =>
      (snapshot.edge edgeRef).map Edge.poolId).Nodup)
    (refs : (allocations.map Allocation.edgeRef).Nodup)
    (listed : ∀ allocation ∈ allocations,
      allocation.edgeRef ∈ snapshot.pairEdges tokenIn tokenOut) :
    (allocations.map fun allocation =>
      (snapshot.edge allocation.edgeRef).map Edge.poolId).Nodup := by
  have composed : (allocations.map fun allocation =>
      (snapshot.edge allocation.edgeRef).map Edge.poolId) =
      (allocations.map Allocation.edgeRef).map fun edgeRef =>
        (snapshot.edge edgeRef).map Edge.poolId := by
    rw [List.map_map]
    rfl
  rw [composed]
  refine refs.map_on ?_
  intro edgeRef member other otherMember same
  obtain ⟨allocation, inAllocations, isRef⟩ := List.mem_map.mp member
  obtain ⟨otherAllocation, otherIn, isOther⟩ := List.mem_map.mp otherMember
  exact List.inj_on_of_nodup_map edgesApart (isRef ▸ listed allocation inAllocations)
    (isOther ▸ listed otherAllocation otherIn) same

/-- At most 32 outputs, each of them small, add up to an amount in range. -/
theorem sum_expectedAmountOut_le {splits : List SplitPlan} (count : splits.length ≤ 32)
    (small : ∀ split ∈ splits, split.expectedAmountOut ≤ u128Max / 1000000) :
    (splits.map SplitPlan.expectedAmountOut).sum ≤ u128Max := by
  have bounded := List.sum_le_card_nsmul (splits.map SplitPlan.expectedAmountOut)
    (u128Max / 1000000) (by
      intro expected member
      obtain ⟨split, inSplits, same⟩ := List.mem_map.mp member
      exact same ▸ small split inSplits)
  rw [List.length_map, Nat.nsmul_eq_mul] at bounded
  exact bounded.trans ((Nat.mul_le_mul_right _ count).trans (by decide))

/-- The splits of one hop use different pools, and together yield its output. -/
theorem hop_of_pairSplits (filed : PoolsFiled pools)
    (built : snapshot = GraphSnapshot.build rates snapshotId blockRef tokens pools)
    (v2Like : snapshot.PairIsV2Like tokenIn tokenOut) {hop : HopPlan}
    (splits : PairSplits optimizer snapshot tokenIn tokenOut
      (fun pool => QuotedBy settings localQuotes pool tokenIn tokenOut)
      (hop.splits, hop.totalOut))
    (nonempty : hop.splits ≠ []) (fits : ∀ split ∈ hop.splits, SplitFits snapshot split) :
    (hop.splits.map SplitPlan.poolId).Nodup ∧
      hop.totalOut = (hop.splits.map SplitPlan.expectedAmountOut).sum ∧
      ∀ split ∈ hop.splits, ∃ finish,
        (swapSplit split).run snapshot.pools = .ok (split.expectedAmountOut, finish) := by
  obtain ⟨allocations, unsorted, refs, listed, atMost, related, sorted, total⟩ := splits
  have snapshotFiled : PoolsFiled snapshot.pools := by
    rw [built]
    exact filed
  have each : ∀ allocation ∈ allocations, ∀ split ∈ unsorted,
      SplitOf optimizer snapshot tokenIn tokenOut
        (fun pool => QuotedBy settings localQuotes pool tokenIn tokenOut) allocation split →
      tokenIn ≠ tokenOut ∧
        (snapshot.edge allocation.edgeRef).map Edge.poolId = some split.poolId ∧
        split.expectedAmountOut ≤ u128Max / 1000000 ∧
        ∃ finish, (swapSplit split).run snapshot.pools = .ok (split.expectedAmountOut, finish) :=
    fun allocation inAllocations split member isSplit =>
      swapSplit_of_splitOf snapshotFiled v2Like (listed allocation inAllocations) isSplit
        (fits split (sorted.mem_iff.mpr member))
  have eachSplit : ∀ split ∈ hop.splits, tokenIn ≠ tokenOut ∧
      split.expectedAmountOut ≤ u128Max / 1000000 ∧
      ∃ finish, (swapSplit split).run snapshot.pools = .ok (split.expectedAmountOut, finish) := by
    intro split member
    have inUnsorted := sorted.mem_iff.mp member
    obtain ⟨allocation, inAllocations, isSplit⟩ := exists_related_of_mem_right related inUnsorted
    obtain ⟨different, _, small, ran⟩ := each allocation inAllocations split inUnsorted isSplit
    exact ⟨different, small, ran⟩
  obtain ⟨first, inHop⟩ := List.exists_mem_of_ne_nil hop.splits nonempty
  have different : tokenIn ≠ tokenOut := (eachSplit first inHop).1
  have edgesApart : ((snapshot.pairEdges tokenIn tokenOut).map fun edgeRef =>
      (snapshot.edge edgeRef).map Edge.poolId).Nodup := by
    rw [built] at v2Like ⊢
    exact GraphSnapshot.nodup_poolIds_pairEdges filed different v2Like
  have poolIds : allocations.map (fun allocation =>
      (snapshot.edge allocation.edgeRef).map Edge.poolId) =
      (unsorted.map SplitPlan.poolId).map some := by
    rw [List.map_map]
    refine map_eq_map_of_related ?_ (related_and_mem related)
    rintro allocation split ⟨inAllocations, inUnsorted, isSplit⟩
    exact (each allocation inAllocations split inUnsorted isSplit).2.1
  have count : hop.splits.length ≤ 32 := by
    rw [sorted.length_eq, ← related.length_eq]
    exact atMost.trans optimizer.maxParallelPools_range.2
  refine ⟨?_, ?_, fun split member => (eachSplit split member).2.2⟩
  · have allocationsApart := nodup_poolIds_of_edgeRefs edgesApart refs listed
    rw [poolIds] at allocationsApart
    exact ((sorted.map SplitPlan.poolId).nodup_iff).mpr (allocationsApart.of_map some)
  · exact total.trans (Nat.min_eq_left
      (sum_expectedAmountOut_le count fun split member => (eachSplit split member).2.1))

/-- A plan for constant-product pools that uses no pool in two hops executes as it predicts. -/
theorem executesAsPredicted_of_hopsApart {solver : WaterFill} {oracle : QuoterOracle}
    (filed : PoolsFiled pools)
    (built : snapshot = GraphSnapshot.build rates snapshotId blockRef tokens pools)
    {candidate : CandidatePath}
    (v2Like : ∀ hop ∈ candidate.path, snapshot.PairIsV2Like hop.fromToken hop.toToken)
    {inputAmount flashPremiumPpm : Nat} {start finish : QuoterState}
    (own : OwnEntries settings localQuotes snapshot start) {plan : ExactPlan}
    (returned : (quoteCandidateWithOptimizer optimizer solver
      (exactQuoter settings localQuotes oracle snapshot.snapshotId) snapshot candidate inputAmount
      flashPremiumPpm).run start = .ok (some plan, finish))
    (fits : ∀ hop ∈ plan.hops, ∀ split ∈ hop.splits, SplitFits snapshot split)
    (apart : HopsApart plan.hops) : ExecutesAsPredicted snapshot plan := by
  have snapshotFiled : PoolsFiled snapshot.pools := by
    rw [built]
    exact filed
  have optimized : ∀ hop ∈ candidate.path, ∀ amount start,
      OwnEntries settings localQuotes snapshot start →
      Ensures (optimizePair optimizer solver
        (exactQuoter settings localQuotes oracle snapshot.snapshotId) snapshot hop.fromToken
        hop.toToken amount) start fun result finish =>
          OwnEntries settings localQuotes snapshot finish ∧
            PairSplits optimizer snapshot hop.fromToken hop.toToken
              (fun pool => QuotedBy settings localQuotes pool hop.fromToken hop.toToken) result :=
    fun hop _ amount start own => ensures_optimizePair
      (sound_exactQuoter snapshotFiled hop.fromToken hop.toToken) amount own
  obtain ⟨_, quoted⟩ := ensures_quoteCandidateWithOptimizer
    (fun tokenIn tokenOut => PairSplits optimizer snapshot tokenIn tokenOut
      fun pool => QuotedBy settings localQuotes pool tokenIn tokenOut) optimized
    inputAmount flashPremiumPpm own (some plan) finish returned
  obtain ⟨_, follows, gross, profit⟩ := quoted plan rfl
  have eachHop : ∀ hop ∈ plan.hops, (hop.splits.map SplitPlan.poolId).Nodup ∧
      hop.totalOut = (hop.splits.map SplitPlan.expectedAmountOut).sum ∧
      ∀ split ∈ hop.splits, ∃ finish,
        (swapSplit split).run snapshot.pools = .ok (split.expectedAmountOut, finish) := by
    intro hop member
    obtain ⟨pathHop, inPath, _, _, nonempty, splits⟩ := follows.exists_hop hop member
    exact hop_of_pairSplits filed built (v2Like pathHop inPath) splits nonempty (fits hop member)
  constructor
  · exact run_swapHops (fun hop member => (eachHop hop member).1) apart
      fun hop member => (eachHop hop member).2.2
  · rcases follows.getLast?_totalOut with ⟨_, unchanged⟩ | ⟨last, isLast, total⟩
    · rw [unchanged, sub_self] at gross
      rw [gross] at profit
      exact absurd profit (by decide)
    · have inHops := List.mem_of_mem_getLast? (Option.mem_def.mpr isLast)
      unfold predictedOutputs
      rw [List.getLast?_map, isLast, Option.map_some, Option.map_some, ← (eachHop last inHops).2.1,
        total]

end Prediction

/-! ### Two pools with crossed prices -/

def crossedOptimizer : SplitOptimizer where
  maxParallelPools := 3
  pairEdgeScanLimit := 12
  splitMinOutputBps := 9950
  v3SqrtPriceLimitBps := 200
  maxParallelPools_range := by decide
  maxParallelPools_le := by decide
  splitMinOutputBps_range := by decide
  v3SqrtPriceLimitBps_lt := by decide

/-- Marginal rates in parts of `2 ^ 64`. On the two pools below the water level is reached when
the cheaper pool is at its capacity. -/
def crossedSolver : WaterFill where
  marginalAt leg amount :=
    let feeFactor := 1000000 - leg.feePpm
    (feeFactor * leg.reserveOut * (leg.reserveIn * 1000000) * 2 ^ 64 /
      (leg.reserveIn * 1000000 + feeFactor * amount) ^ 2 : Nat)
  roundedAllocation _ totalIn leg :=
    if leg.reserveIn = 1000000 then min totalIn 100000 else totalIn - 100000

def crossedRates : FloatRates where
  spot state i _ :=
    match state with
    | .uniswapV2Like pair =>
      if pair.reserveIn (i = 0) = 1000000 then
        (u128Max, -5941184675)
      else
        (84815379955043911791572529724625256448, 5966993211)
    | _ => (0, 0)
  priceLimitCapacityIn _ _ := none

def crossedToken (address : Address) : TokenInfo where
  address := address
  symbol := ""
  decimals := 18
  isStable := false
  isCycleAnchor := true
  flashLoanEnabled := false
  allowSelfFunded := true
  manualPriceUsdE8 := none
  maxPositionUsdE8 := none
  maxFlashLoanUsdE8 := none

def crossedPool (poolId : Address) (reserve0 reserve1 : Nat) : PoolState where
  poolId := poolId
  dexName := "uniswap_v2"
  kind := .uniswapV2Like
  tokenAddresses := [1, 2]
  factory := none
  registry := none
  vault := none
  quoter := none
  admissionStatus := .allowed
  health :=
    { stale := false, paused := false, quarantined := false, confidenceBps := 10000
      lastSuccessfulRefreshBlock := 100, lastRefreshAt := 0, recentRevertCount := 0 }
  state := .uniswapV2Like { reserve0, reserve1, feePpm := 3000 }
  lastUpdatedBlock := 100

def crossedPools : HashMap Address PoolState :=
  HashMap.ofList [(10, crossedPool 10 1000000 4000000), (11, crossedPool 11 4000000 1000000)]

def crossedSnapshot : GraphSnapshot :=
  GraphSnapshot.build crossedRates 1 none [crossedToken 1, crossedToken 2] crossedPools

def crossedHop (fromToken toToken poolId : Address) : CandidateHop where
  fromToken := fromToken
  toToken := toToken
  poolId := poolId
  ammKind := .uniswapV2Like
  dexName := "uniswap_v2"

def crossedCandidate : CandidatePath where
  snapshotId := 1
  startToken := 1
  startSymbol := ""
  screeningScoreQ32 := -11882369350
  routeCapacityUsdE8 := 0
  routeQualityBps := 10000
  cycleKey := ""
  path := [crossedHop 1 2 10, crossedHop 2 1 11]

def inOrderOracle : QuoterOracle where
  replies _ := silentReplies
  finishOrder _ count := List.range count
  finishOrder_perm _ count := perm_inOrder count

def emptyQuoter : QuoterState where
  cache := { maxSegments := 4, maxEntriesPerSegment := 20000, segments := ∅ }
  calls := 0

/-- The plan that is quoted for an input. -/
def crossedPlan (inputAmount : Nat) : Except RpcError (Option ExactPlan × QuoterState) :=
  (quoteCandidateWithOptimizer crossedOptimizer crossedSolver
    (exactQuoter localSettings zeroQuotes inOrderOracle crossedSnapshot.snapshotId)
    crossedSnapshot crossedCandidate inputAmount 0).run emptyQuoter

def quotedPlan (inputAmount : Nat) : ExactPlan :=
  ((crossedPlan inputAmount).toOption.bind Prod.fst).getD default

theorem crossedPlan_eq (inputAmount : Nat)
    (returned : ((crossedPlan inputAmount).toOption.bind Prod.fst).isSome = true) :
    ∃ finish, crossedPlan inputAmount = .ok (some (quotedPlan inputAmount), finish) := by
  unfold quotedPlan
  cases ran : crossedPlan inputAmount with
  | error reason =>
    rw [ran] at returned
    cases returned
  | ok outcome =>
    obtain ⟨plan?, finish⟩ := outcome
    rw [ran] at returned
    cases plan? with
    | none => cases returned
    | some plan => exact ⟨finish, rfl⟩

theorem crossedPool_of_lookup {poolId : Address} {pool : PoolState}
    (found : crossedPools.lookup poolId = some pool) :
    pool.poolId = poolId ∧ pool.IsV2Like := by
  rcases List.mem_pair.mp (HashMap.mem_of_lookup_ofList found) with first | second
  · injection first with sameId samePool
    rw [samePool, sameId]
    exact ⟨rfl, trivial⟩
  · injection second with sameId samePool
    rw [samePool, sameId]
    exact ⟨rfl, trivial⟩

theorem pairIsV2Like_crossedSnapshot (tokenIn tokenOut : Address) :
    crossedSnapshot.PairIsV2Like tokenIn tokenOut :=
  fun _ _ _ _ _ found => (crossedPool_of_lookup found).2

theorem ownEntries_emptyQuoter :
    OwnEntries localSettings zeroQuotes crossedSnapshot emptyQuoter := by
  intro key amount _ stored
  cases stored

/-- A small input goes through one pool there and through the other one back. -/
theorem executesAsPredicted_smallInput :
    ExecutesAsPredicted crossedSnapshot (quotedPlan 10000) := by
  obtain ⟨finish, returned⟩ := crossedPlan_eq 10000 (by decide +kernel)
  exact executesAsPredicted_of_hopsApart (fun _ _ found => (crossedPool_of_lookup found).1) rfl
    (fun hop _ => pairIsV2Like_crossedSnapshot hop.fromToken hop.toToken) ownEntries_emptyQuoter
    returned (by decide +kernel) (by decide +kernel)

/-- With a larger input the way back uses both pools, and the first of them is quoted there as if
the way out had not moved it: the plan predicts 61441, the pool pays 73871. -/
theorem not_executesAsPredicted_largeInput :
    PoolsFiled crossedPools ∧
    (∀ hop ∈ crossedCandidate.path,
      crossedSnapshot.PairIsV2Like hop.fromToken hop.toToken) ∧
    OwnEntries localSettings zeroQuotes crossedSnapshot emptyQuoter ∧
    (∃ finish, crossedPlan 100000 = .ok (some (quotedPlan 100000), finish)) ∧
    (∀ hop ∈ (quotedPlan 100000).hops, ∀ split ∈ hop.splits, SplitFits crossedSnapshot split) ∧
    ¬ ExecutesAsPredicted crossedSnapshot (quotedPlan 100000) := by
  refine ⟨fun _ _ found => (crossedPool_of_lookup found).1,
    fun hop _ => pairIsV2Like_crossedSnapshot hop.fromToken hop.toToken, ownEntries_emptyQuoter,
    crossedPlan_eq 100000 (by decide +kernel), by decide +kernel, ?_⟩
  rintro ⟨⟨pools, ran⟩, _⟩
  have paid : ((swapHops (quotedPlan 100000).hops).run crossedSnapshot.pools).toOption.map
      Prod.fst = some [[362644], [362644, 73871]] := by decide +kernel
  have predicted : predictedOutputs (quotedPlan 100000).hops = [[362644], [362644, 61441]] := by
    decide +kernel
  rw [ran, predicted] at paid
  have same : [[362644], [362644, 61441]] = [[362644], [362644, 73871]] := Option.some.inj paid
  exact absurd same (by decide)

end DexArbitrage
