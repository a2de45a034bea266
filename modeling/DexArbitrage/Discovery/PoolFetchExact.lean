/-
This file is about what a batch of fetched pools says of the chain. Whatever the
size of the chunks and whichever requests fail, every spec of a batch has one
outcome: the pool that its own contracts describe, or a reason to skip it. A pool
that they do describe is skipped only when it could not be read on its own either.

The results of a multicall are matched with the specs by position, so the
argument is that the calls of the specs of a chunk have the length of the stride;
the fees of Aerodrome pools are matched by the order of those that have a factory.
-/

import DexArbitrage.Discovery.PoolFetch

namespace DexArbitrage

namespace PoolFetcher

variable {fetcher : PoolFetcher} {reads : PoolReads} {readsAt : BatchMoment → PoolReads}
  {answer : Address × PoolCall → Option Bytes}

/-- What is read is what the chain answers, in the order of the calls, and an address is decoded
from its low bytes. -/
structure ReadsChain (fetcher : PoolFetcher) (reads : PoolReads)
    (answer : Address × PoolCall → Option Bytes) : Prop where
  batch : ∀ calls results, reads.aggregate3 calls = .ok results → results = calls.map answer
  single : ∀ target call raw, reads.ethCall target call = .ok raw →
    answer (target, call) = some raw
  address : ∀ raw, (fetcher.decoder.address raw).toOption =
    if raw.length < 32 then none else some (lowAddress raw)

theorem chunkSize_pos (fetcher : PoolFetcher) : 0 < fetcher.chunkSize := by
  unfold chunkSize envUsize
  cases kept : fetcher.multicallChunkSize.filter (0 < ·) with
  | none => decide
  | some size =>
    have positive := (Option.filter_eq_some_iff.mp kept).2
    exact of_decide_eq_true positive

theorem flatten_chunksOf (fetcher : PoolFetcher) (specs : List DiscoveredPool) :
    (fetcher.chunksOf specs).flatten = specs.zipIdx :=
  flatten_toChunks fetcher.chunkSize specs.zipIdx

theorem fst_fetchSingly (zeroLiquidity returnedNone failed : String)
    (hasLiquidity : PoolState → Bool)
    (fetch : DiscoveredPool → Except RpcError (Option PoolState)) (spec : DiscoveredPool) :
    (fetchSingly zeroLiquidity returnedNone failed hasLiquidity fetch spec).1 = spec := by
  unfold fetchSingly
  split
  · rfl
  · rfl
  · rfl

/-! ### The outcome for each spec -/

/-- One outcome for each spec, and what it says of the spec at its position. -/
def OutcomesFor (holds : PlacedSpec → Except String PoolState → Prop)
    (specs : List PlacedSpec) (outcomes : List (DiscoveredPool × Except String PoolState)) :
    Prop :=
  List.Forall₂ (fun placed entry => entry.1 = placed.1 ∧ holds placed entry.2) specs outcomes

theorem OutcomesFor.mono {holds implied : PlacedSpec → Except String PoolState → Prop}
    (implies : ∀ placed outcome, holds placed outcome → implied placed outcome)
    {specs : List PlacedSpec} {outcomes : List (DiscoveredPool × Except String PoolState)}
    (each : OutcomesFor holds specs outcomes) : OutcomesFor implied specs outcomes :=
  each.imp fun placed entry right => ⟨right.1, implies placed entry.2 right.2⟩

theorem OutcomesFor.exists_outcome {holds : PlacedSpec → Except String PoolState → Prop}
    {specs : List PlacedSpec} {outcomes : List (DiscoveredPool × Except String PoolState)}
    (each : OutcomesFor holds specs outcomes) {placed : PlacedSpec} (member : placed ∈ specs) :
    ∃ outcome, (placed.1, outcome) ∈ outcomes ∧ holds placed outcome := by
  obtain ⟨⟨spec, outcome⟩, inOutcomes, same, right⟩ := exists_related_of_mem each member
  cases same
  exact ⟨outcome, inOutcomes, right⟩

theorem OutcomesFor.exists_placed {holds : PlacedSpec → Except String PoolState → Prop}
    {specs : List PlacedSpec} {outcomes : List (DiscoveredPool × Except String PoolState)}
    (each : OutcomesFor holds specs outcomes) {entry : DiscoveredPool × Except String PoolState}
    (member : entry ∈ outcomes) :
    ∃ position, (entry.1, position) ∈ specs ∧ holds (entry.1, position) entry.2 := by
  obtain ⟨⟨spec, position⟩, inSpecs, same, right⟩ := exists_related_of_mem_right each member
  dsimp only at same
  subst same
  exact ⟨position, inSpecs, right⟩

theorem outcomesFor_flatten {holds : PlacedSpec → Except String PoolState → Prop}
    {chunks : List (List PlacedSpec)}
    {outcomes : List (List (DiscoveredPool × Except String PoolState))}
    (related : List.Forall₂ (OutcomesFor holds) chunks outcomes) :
    OutcomesFor holds chunks.flatten outcomes.flatten :=
  List.rel_flatten related

/-- How a batch with a fixed number of calls for each pool came to an outcome. -/
def ChunkOutcome (answer : Address × PoolCall → Option Bytes)
    (calls : Address → List (Address × PoolCall))
    (decode : DiscoveredPool → List (Option Bytes) → Except RpcError (Except String PoolState))
    (singly : PlacedSpec → DiscoveredPool × Except String PoolState)
    (placed : PlacedSpec) (outcome : Except String PoolState) : Prop :=
  decode placed.1 ((calls placed.1.address).map answer) = .ok outcome ∨
    (placed.1, outcome) = singly placed

section Chunks

variable {stride : Nat} {calls : Address → List (Address × PoolCall)}
  {decode : DiscoveredPool → List (Option Bytes) → Except RpcError (Except String PoolState)}
  {singly : PoolReads → DiscoveredPool → DiscoveredPool × Except String PoolState}

/-- The results of a multicall for a chunk, cut into those of each spec. -/
theorem toChunks_results (positive : 0 < stride) (full : ∀ pool, (calls pool).length = stride)
    (chunk : List PlacedSpec) :
    ((chunk.flatMap fun placed => calls placed.1.address).map answer).toChunks stride =
      chunk.map fun placed => (calls placed.1.address).map answer := by
  rw [List.map_flatMap]
  refine toChunks_flatMap positive fun placed _ => ?_
  rw [List.length_map]
  exact full placed.1.address

theorem outcomesFor_decoded {alone : PlacedSpec → DiscoveredPool × Except String PoolState}
    {chunk : List PlacedSpec} {outcomes : List (DiscoveredPool × Except String PoolState)}
    (decoded : ((chunk.zip (chunk.map fun placed => (calls placed.1.address).map answer)).mapM
      fun entry => do
        let outcome ← decode entry.1.1 entry.2
        return (entry.1.1, outcome)) = .ok outcomes) :
    OutcomesFor (ChunkOutcome answer calls decode alone) chunk outcomes := by
  rw [← List.map_prod_left_eq_zip] at decoded
  have related := List.forall₂_map_left_iff.mp (forall₂_of_mapM_ok decoded)
  refine related.imp fun placed entry isRead => ?_
  obtain ⟨outcome, isOutcome, same⟩ := bind_eq_ok_iff.mp isRead
  cases same
  exact ⟨rfl, Or.inl isOutcome⟩

/-- One outcome for each spec of a batch, from its own calls or from its own fetch. -/
theorem fetchInChunks_outcomes (truthful : ∀ moment, ReadsChain fetcher (readsAt moment) answer)
    (positive : 0 < stride) (full : ∀ pool, (calls pool).length = stride)
    (own : ∀ reads spec, (singly reads spec).1 = spec)
    {specs : List DiscoveredPool} {batch : PoolFetchBatch}
    (fetched : fetcher.fetchInChunks readsAt stride calls decode singly specs = .ok batch) :
    ∃ outcomes, OutcomesFor (ChunkOutcome answer calls decode
        fun placed => singly (readsAt (.spec placed.2)) placed.1) specs.zipIdx outcomes ∧
      batch = collectBatch outcomes := by
  obtain ⟨outcomes, isRead, same⟩ := bind_eq_ok_iff.mp fetched
  cases same
  refine ⟨outcomes.flatten, ?_, rfl⟩
  rw [← flatten_chunksOf fetcher specs]
  refine outcomesFor_flatten ((forall₂_of_mapM_ok isRead).imp fun chunk entries ofChunk => ?_)
  split at ofChunk
  · rename_i results returned
    rw [(truthful _).batch _ _ returned, toChunks_results positive full] at ofChunk
    exact outcomesFor_decoded ofChunk
  · cases ofChunk
    refine List.forall₂_map_right_iff.mpr (List.forall₂_same.mpr fun placed _ => ?_)
    exact ⟨own _ placed.1, Or.inr (Prod.ext (own _ placed.1).symm rfl)⟩

end Chunks

/-! ### What a pool's own contracts describe -/

/-- An outcome is right: a pool is one that the contracts of its spec describe, or it has an excuse
for what it is, and a spec for which they describe one is skipped only when its own fetch fails. -/
structure RightOutcome (describes excused : DiscoveredPool → PoolState → Prop)
    (fetch : PoolReads → DiscoveredPool → Except RpcError (Option PoolState))
    (readsAt : BatchMoment → PoolReads) (placed : PlacedSpec)
    (outcome : Except String PoolState) : Prop where
  described : ∀ pool, outcome = .ok pool → describes placed.1 pool ∨ excused placed.1 pool
  missed : ∀ reason pool, outcome = .error reason → describes placed.1 pool →
    ∃ err, fetch (readsAt (.spec placed.2)) placed.1 = .error err

/-- A fetch of one pool finds the pool that its contracts describe. -/
structure RightFetch (describes : DiscoveredPool → PoolState → Prop)
    (fetch : DiscoveredPool → Except RpcError (Option PoolState))
    (hasLiquidity : PoolState → Bool) : Prop where
  found : ∀ spec pool, fetch spec = .ok (some pool) → hasLiquidity pool = true →
    describes spec pool
  finds : ∀ spec pool result, describes spec pool → fetch spec = .ok result →
    ∃ other, result = some other ∧ hasLiquidity other = true

theorem RightFetch.rightOutcome {describes excused : DiscoveredPool → PoolState → Prop}
    {fetch : PoolReads → DiscoveredPool → Except RpcError (Option PoolState)}
    {hasLiquidity : PoolState → Bool} {placed : PlacedSpec}
    (right : RightFetch describes (fetch (readsAt (.spec placed.2))) hasLiquidity)
    (zeroLiquidity returnedNone failed : String) :
    RightOutcome describes excused fetch readsAt placed
      (fetchSingly zeroLiquidity returnedNone failed hasLiquidity
        (fetch (readsAt (.spec placed.2))) placed.1).2 := by
  unfold fetchSingly
  cases fetched : fetch (readsAt (.spec placed.2)) placed.1 with
  | error err => exact ⟨fun _ found => (nomatch found), fun _ _ _ _ => ⟨err, fetched⟩⟩
  | ok result =>
    cases result with
    | none =>
      refine ⟨fun _ found => (nomatch found), fun reason pool _ described => ?_⟩
      obtain ⟨_, same, _⟩ := right.finds placed.1 pool none described fetched
      cases same
    | some pool =>
      by_cases liquid : hasLiquidity pool = true
      · dsimp only
        rw [if_pos liquid]
        refine ⟨fun other found => ?_, fun _ _ missing => (nomatch missing)⟩
        cases found
        exact Or.inl (right.found placed.1 pool fetched liquid)
      · dsimp only
        rw [if_neg liquid]
        refine ⟨fun _ found => (nomatch found), fun reason other _ described => ?_⟩
        obtain ⟨_, same, isLiquid⟩ := right.finds placed.1 other _ described fetched
        cases same
        exact absurd isLiquid liquid

/-- The results of the calls of a pool decode to the pool that its contracts describe. -/
structure RightDecoding (answer : Address × PoolCall → Option Bytes)
    (describes : DiscoveredPool → PoolState → Prop)
    (calls : Address → List (Address × PoolCall))
    (decode : DiscoveredPool → List (Option Bytes) → Except RpcError (Except String PoolState)) :
    Prop where
  found : ∀ spec pool, decode spec ((calls spec.address).map answer) = .ok (.ok pool) →
    describes spec pool
  finds : ∀ spec pool reason, describes spec pool →
    decode spec ((calls spec.address).map answer) ≠ .ok (.error reason)

/-- A batch with a right outcome for each of its specs. -/
def BatchExact (describes excused : DiscoveredPool → PoolState → Prop)
    (fetch : PoolReads → DiscoveredPool → Except RpcError (Option PoolState))
    (readsAt : BatchMoment → PoolReads) (specs : List DiscoveredPool)
    (batch : PoolFetchBatch) : Prop :=
  ∃ outcomes, OutcomesFor (RightOutcome describes excused fetch readsAt) specs.zipIdx outcomes ∧
    batch = collectBatch outcomes

theorem batchExact_fetchInChunks
    (truthful : ∀ moment, ReadsChain fetcher (readsAt moment) answer) {stride : Nat}
    (positive : 0 < stride) {calls : Address → List (Address × PoolCall)}
    (full : ∀ pool, (calls pool).length = stride)
    {describes excused : DiscoveredPool → PoolState → Prop}
    {decode : DiscoveredPool → List (Option Bytes) → Except RpcError (Except String PoolState)}
    (decodes : RightDecoding answer describes calls decode)
    {fetch : PoolReads → DiscoveredPool → Except RpcError (Option PoolState)}
    {hasLiquidity : PoolState → Bool}
    (right : ∀ moment, RightFetch describes (fetch (readsAt moment)) hasLiquidity)
    {zeroLiquidity returnedNone failed : String} {specs : List DiscoveredPool}
    {batch : PoolFetchBatch}
    (fetched : fetcher.fetchInChunks readsAt stride calls decode
      (fun reads => fetchSingly zeroLiquidity returnedNone failed hasLiquidity (fetch reads))
      specs = .ok batch) :
    BatchExact describes excused fetch readsAt specs batch := by
  obtain ⟨outcomes, came, same⟩ := fetchInChunks_outcomes truthful positive full
    (fun _ _ => fst_fetchSingly _ _ _ _ _ _) fetched
  refine ⟨outcomes, came.mono fun placed outcome how => ?_, same⟩
  rcases how with decoded | fetchedSingly
  · refine ⟨fun pool isPool => ?_, fun reason pool isError described => ?_⟩
    · rw [isPool] at decoded
      exact Or.inl (decodes.found placed.1 pool decoded)
    · rw [isError] at decoded
      exact absurd decoded (decodes.finds placed.1 pool reason described)
  · rw [show outcome = _ from congrArg Prod.snd fetchedSingly]
    exact (right (.spec placed.2)).rightOutcome _ _ _

/-! ### One pool -/

section Single

variable {pool : Address} {call : PoolCall} {Value : Type} {value : Value}
  {decode : Bytes → Except RpcError Value}

theorem decodeAt_of_resultAt {results : List (Option Bytes)} {position : Nat} {missing : RpcError}
    (read : resultAt results position missing decode = .ok value) :
    decodeAt results position decode = some value := by
  unfold resultAt at read
  unfold decodeAt
  cases found : results[position]?.join with
  | none =>
    rw [found] at read
    cases read
  | some raw =>
    rw [found] at read
    dsimp only at read
    rw [Option.bind_some, read]
    rfl

/-- A value read by a call of its own is the one that a batch decodes. -/
theorem decoded_of_ethCall (truthful : ReadsChain fetcher reads answer)
    (read : (reads.ethCall pool call >>= decode) = .ok value) :
    ((answer (pool, call)).bind fun raw => (decode raw).toOption) = some value := by
  obtain ⟨raw, returned, decoded⟩ := bind_eq_ok_iff.mp read
  rw [truthful.single _ _ _ returned, Option.bind_some, decoded]
  rfl

theorem decoded_of_callAddress (truthful : ReadsChain fetcher reads answer) {token : Address}
    (read : callAddress reads pool call = .ok token) :
    ((answer (pool, call)).bind fun raw => (fetcher.decoder.address raw).toOption) =
      some token := by
  obtain ⟨raw, returned, decoded⟩ := bind_eq_ok_iff.mp read
  rw [truthful.single _ _ _ returned, Option.bind_some, truthful.address]
  split at decoded
  · cases decoded
  · rename_i long
    rw [if_neg long]
    cases decoded
    rfl

variable (fetcher answer) in
/-- The values of a pool, as a multicall of its calls would return them. -/
def ownV2Values (pool : Address) : Option (Address × Address × Nat × Nat) :=
  fetcher.decodeV2BatchResult ((v2Calls pool).map answer)

theorem ownV2Values_of_multicall (truthful : ReadsChain fetcher reads answer)
    {values : Address × Address × Nat × Nat}
    (read : fetcher.fetchV2Multicall reads pool = .ok values) :
    ownV2Values fetcher answer pool = some values := by
  obtain ⟨results, returned, read⟩ := bind_eq_ok_iff.mp read
  obtain ⟨token0, isToken0, read⟩ := bind_eq_ok_iff.mp read
  obtain ⟨token1, isToken1, read⟩ := bind_eq_ok_iff.mp read
  obtain ⟨reserves, isReserves, read⟩ := bind_eq_ok_iff.mp read
  cases read
  unfold ownV2Values decodeV2BatchResult
  rw [← truthful.batch _ _ returned, decodeAt_of_resultAt isToken0, decodeAt_of_resultAt isToken1,
    decodeAt_of_resultAt isReserves]
  rfl

theorem ownV2Values_of_sequential (truthful : ReadsChain fetcher reads answer)
    {values : Address × Address × Nat × Nat}
    (read : fetcher.fetchV2Sequential reads pool = .ok values) :
    ownV2Values fetcher answer pool = some values := by
  obtain ⟨token0, isToken0, read⟩ := bind_eq_ok_iff.mp read
  obtain ⟨token1, isToken1, read⟩ := bind_eq_ok_iff.mp read
  obtain ⟨raw, returned, read⟩ := bind_eq_ok_iff.mp read
  obtain ⟨reserves, isReserves, read⟩ := bind_eq_ok_iff.mp read
  cases read
  have both : (reads.ethCall pool .getReserves >>= fetcher.decoder.getReserves) =
      .ok reserves := bind_eq_ok_iff.mpr ⟨raw, returned, isReserves⟩
  unfold ownV2Values decodeV2BatchResult decodeAt
  simp only [v2Calls, List.map_cons, List.map_nil, List.getElem?_cons_zero,
    List.getElem?_cons_succ, Option.join_some]
  rw [decoded_of_callAddress truthful isToken0, decoded_of_callAddress truthful isToken1,
    decoded_of_ethCall truthful both]
  rfl

theorem ownV2Values_of_fetchV2 (truthful : ReadsChain fetcher reads answer) {spec : DiscoveredPool}
    {blockNumber : Option Nat} {result : Option PoolState}
    (fetched : fetcher.fetchV2 reads spec blockNumber = .ok result) :
    ∃ values, ownV2Values fetcher answer spec.address = some values ∧
      result = some (fetcher.buildV2Pool spec values blockNumber) := by
  obtain ⟨values, read, same⟩ := bind_eq_ok_iff.mp fetched
  cases same
  refine ⟨values, ?_, rfl⟩
  split at read
  · rename_i isValues
    cases read
    exact ownV2Values_of_multicall truthful isValues
  · exact ownV2Values_of_sequential truthful read

variable (fetcher answer) in
/-- The values of a V3 pool, as a multicall of its calls would return them. -/
def ownV3Values (pool : Address) (slipstream : Bool) : Option (Address × Address × V3PoolState) :=
  fetcher.decodeV3BatchResult ((v3Calls pool).map answer) slipstream

theorem ownV3Values_of_multicall (truthful : ReadsChain fetcher reads answer) {slipstream : Bool}
    {values : Address × Address × V3PoolState}
    (read : fetcher.fetchV3Multicall reads pool slipstream = .ok values) :
    ownV3Values fetcher answer pool slipstream = some values := by
  obtain ⟨results, returned, read⟩ := bind_eq_ok_iff.mp read
  obtain ⟨token0, isToken0, read⟩ := bind_eq_ok_iff.mp read
  obtain ⟨token1, isToken1, read⟩ := bind_eq_ok_iff.mp read
  obtain ⟨fee, isFee, read⟩ := bind_eq_ok_iff.mp read
  obtain ⟨tickSpacing, isTickSpacing, read⟩ := bind_eq_ok_iff.mp read
  obtain ⟨liquidity, isLiquidity, read⟩ := bind_eq_ok_iff.mp read
  obtain ⟨slot0, isSlot0, read⟩ := bind_eq_ok_iff.mp read
  cases read
  unfold ownV3Values decodeV3BatchResult
  rw [← truthful.batch _ _ returned, decodeAt_of_resultAt isToken0, decodeAt_of_resultAt isToken1,
    decodeAt_of_resultAt isFee, decodeAt_of_resultAt isTickSpacing,
    decodeAt_of_resultAt isLiquidity, decodeAt_of_resultAt isSlot0]
  rfl

theorem ownV3Values_of_sequential (truthful : ReadsChain fetcher reads answer) {slipstream : Bool}
    {values : Address × Address × V3PoolState}
    (read : fetcher.fetchV3Sequential reads pool slipstream = .ok values) :
    ownV3Values fetcher answer pool slipstream = some values := by
  obtain ⟨token0, isToken0, read⟩ := bind_eq_ok_iff.mp read
  obtain ⟨token1, isToken1, read⟩ := bind_eq_ok_iff.mp read
  obtain ⟨rawFee, returnedFee, read⟩ := bind_eq_ok_iff.mp read
  obtain ⟨fee, isFee, read⟩ := bind_eq_ok_iff.mp read
  obtain ⟨rawSpacing, returnedSpacing, read⟩ := bind_eq_ok_iff.mp read
  obtain ⟨tickSpacing, isTickSpacing, read⟩ := bind_eq_ok_iff.mp read
  obtain ⟨rawLiquidity, returnedLiquidity, read⟩ := bind_eq_ok_iff.mp read
  obtain ⟨liquidity, isLiquidity, read⟩ := bind_eq_ok_iff.mp read
  obtain ⟨rawSlot0, returnedSlot0, read⟩ := bind_eq_ok_iff.mp read
  obtain ⟨slot0, isSlot0, read⟩ := bind_eq_ok_iff.mp read
  cases read
  unfold ownV3Values decodeV3BatchResult decodeAt
  simp only [v3Calls, List.map_cons, List.map_nil, List.getElem?_cons_zero,
    List.getElem?_cons_succ, Option.join_some]
  rw [decoded_of_callAddress truthful isToken0, decoded_of_callAddress truthful isToken1,
    decoded_of_ethCall truthful (bind_eq_ok_iff.mpr ⟨rawFee, returnedFee, isFee⟩),
    decoded_of_ethCall truthful (bind_eq_ok_iff.mpr ⟨rawSpacing, returnedSpacing, isTickSpacing⟩),
    decoded_of_ethCall truthful (bind_eq_ok_iff.mpr ⟨rawLiquidity, returnedLiquidity, isLiquidity⟩),
    decoded_of_ethCall truthful (bind_eq_ok_iff.mpr ⟨rawSlot0, returnedSlot0, isSlot0⟩)]
  rfl

theorem ownV3Values_of_fetchV3 (truthful : ReadsChain fetcher reads answer) {spec : DiscoveredPool}
    {blockNumber : Option Nat} {result : Option PoolState}
    (fetched : fetcher.fetchV3 reads spec blockNumber = .ok result) :
    ∃ values, ownV3Values fetcher answer spec.address (isSlipstreamV3Spec spec) = some values ∧
      result = some (fetcher.buildV3Pool spec values blockNumber) := by
  obtain ⟨values, read, same⟩ := bind_eq_ok_iff.mp fetched
  cases same
  refine ⟨values, ?_, rfl⟩
  split at read
  · rename_i isValues
    cases read
    exact ownV3Values_of_multicall truthful isValues
  · exact ownV3Values_of_sequential truthful read

end Single

section Kinds

variable (blockNumber : Option Nat)

variable (fetcher answer) in
/-- The Uniswap V2 pool that the contracts of a spec describe, if it has liquidity. -/
def DescribesV2 (spec : DiscoveredPool) (pool : PoolState) : Prop :=
  ∃ values, ownV2Values fetcher answer spec.address = some values ∧
    ¬ (values.2.2.1 = 0 ∨ values.2.2.2 = 0) ∧ pool = fetcher.buildV2Pool spec values blockNumber

theorem v2PoolHasLiquidity_build (spec : DiscoveredPool)
    (values : Address × Address × Nat × Nat) :
    v2PoolHasLiquidity (fetcher.buildV2Pool spec values blockNumber) = true ↔
      ¬ (values.2.2.1 = 0 ∨ values.2.2.2 = 0) := by
  unfold v2PoolHasLiquidity buildV2Pool buildPool
  simp only [Bool.and_eq_true, decide_eq_true_eq, not_or, Nat.pos_iff_ne_zero]

theorem rightFetch_fetchV2 (truthful : ReadsChain fetcher reads answer) :
    RightFetch (DescribesV2 fetcher answer blockNumber) (fetcher.fetchV2 reads · blockNumber)
      v2PoolHasLiquidity := by
  refine ⟨fun spec pool fetched liquid => ?_, fun spec pool result described fetched => ?_⟩
  · obtain ⟨values, isOwn, same⟩ := ownV2Values_of_fetchV2 truthful fetched
    cases same
    exact ⟨values, isOwn, (v2PoolHasLiquidity_build blockNumber spec values).mp liquid, rfl⟩
  · obtain ⟨values, isOwn, liquid, isPool⟩ := described
    obtain ⟨others, areOwn, same⟩ := ownV2Values_of_fetchV2 truthful fetched
    cases isOwn.symm.trans areOwn
    exact ⟨_, same, (v2PoolHasLiquidity_build blockNumber spec values).mpr liquid⟩

theorem batchExact_fetchV2Batch
    (truthful : ∀ moment, ReadsChain fetcher (readsAt moment) answer)
    {specs : List DiscoveredPool} {batch : PoolFetchBatch}
    {excused : DiscoveredPool → PoolState → Prop}
    (fetched : fetcher.fetchV2Batch readsAt blockNumber specs = .ok batch) :
    BatchExact (DescribesV2 fetcher answer blockNumber) excused
      (fun reads spec => fetcher.fetchV2 reads spec blockNumber) readsAt specs batch := by
  unfold fetchV2Batch at fetched
  refine batchExact_fetchInChunks truthful (Nat.succ_pos 2)
    (fun pool => (rfl : (v2Calls pool).length = 3)) ⟨?_, ?_⟩ 
    (fun moment => rightFetch_fetchV2 blockNumber (truthful moment))
    fetched
  · intro spec pool decoded
    split at decoded
    · cases decoded
    · rename_i values isOwn
      split at decoded
      · cases decoded
      · rename_i liquid
        cases decoded
        exact ⟨values, isOwn, liquid, rfl⟩
  · rintro spec pool reason ⟨values, isOwn, liquid, _⟩
    unfold ownV2Values at isOwn
    rw [isOwn]
    dsimp only
    rw [if_neg liquid]
    exact nofun

variable (fetcher answer) in
/-- The Uniswap V3 pool that the contracts of a spec describe, if it has liquidity. -/
def DescribesV3 (spec : DiscoveredPool) (pool : PoolState) : Prop :=
  ∃ values, ownV3Values fetcher answer spec.address (isSlipstreamV3Spec spec) = some values ∧
    values.2.2.liquidity ≠ 0 ∧ pool = fetcher.buildV3Pool spec values blockNumber

theorem v3PoolHasLiquidity_build (spec : DiscoveredPool)
    (values : Address × Address × V3PoolState) :
    v3PoolHasLiquidity (fetcher.buildV3Pool spec values blockNumber) = true ↔
      values.2.2.liquidity ≠ 0 := by
  unfold v3PoolHasLiquidity buildV3Pool buildPool
  simp only [decide_eq_true_eq, Nat.pos_iff_ne_zero]

theorem rightFetch_fetchV3 (truthful : ReadsChain fetcher reads answer) :
    RightFetch (DescribesV3 fetcher answer blockNumber) (fetcher.fetchV3 reads · blockNumber)
      v3PoolHasLiquidity := by
  refine ⟨fun spec pool fetched liquid => ?_, fun spec pool result described fetched => ?_⟩
  · obtain ⟨values, isOwn, same⟩ := ownV3Values_of_fetchV3 truthful fetched
    cases same
    exact ⟨values, isOwn, (v3PoolHasLiquidity_build blockNumber spec values).mp liquid, rfl⟩
  · obtain ⟨values, isOwn, liquid, isPool⟩ := described
    obtain ⟨others, areOwn, same⟩ := ownV3Values_of_fetchV3 truthful fetched
    cases isOwn.symm.trans areOwn
    exact ⟨_, same, (v3PoolHasLiquidity_build blockNumber spec values).mpr liquid⟩

theorem batchExact_fetchV3Batch
    (truthful : ∀ moment, ReadsChain fetcher (readsAt moment) answer)
    {specs : List DiscoveredPool} {batch : PoolFetchBatch}
    {excused : DiscoveredPool → PoolState → Prop}
    (fetched : fetcher.fetchV3Batch readsAt blockNumber specs = .ok batch) :
    BatchExact (DescribesV3 fetcher answer blockNumber) excused
      (fun reads spec => fetcher.fetchV3 reads spec blockNumber) readsAt specs batch := by
  unfold fetchV3Batch at fetched
  refine batchExact_fetchInChunks truthful (Nat.succ_pos 5)
    (fun pool => (rfl : (v3Calls pool).length = 6)) ⟨?_, ?_⟩ 
    (fun moment => rightFetch_fetchV3 blockNumber (truthful moment))
    fetched
  · intro spec pool decoded
    split at decoded
    · cases decoded
    · rename_i values isOwn
      split at decoded
      · cases decoded
      · rename_i liquid
        cases decoded
        exact ⟨values, isOwn, liquid, rfl⟩
  · rintro spec pool reason ⟨values, isOwn, liquid, _⟩
    unfold ownV3Values at isOwn
    rw [isOwn]
    dsimp only
    rw [if_neg liquid]
    exact nofun

variable (fetcher answer) in
/-- The liquidity book that the contracts of a spec describe, if it has liquidity. -/
def DescribesTraderJoeLb (spec : DiscoveredPool) (pool : PoolState) : Prop :=
  fetcher.decodeTraderJoeLbBatchResult spec ((traderJoeLbCalls spec.address).map answer)
    blockNumber = .ok (some pool)

theorem rightFetch_fetchTraderJoeLb (truthful : ReadsChain fetcher reads answer) :
    RightFetch (DescribesTraderJoeLb fetcher answer blockNumber)
      (fetcher.fetchTraderJoeLb reads · blockNumber) (fun _ => true) := by
  refine ⟨fun spec pool fetched _ => ?_,
    fun spec pool result described fetched => ⟨pool, ?_, rfl⟩⟩
  · obtain ⟨results, returned, decoded⟩ := bind_eq_ok_iff.mp fetched
    rw [truthful.batch _ _ returned] at decoded
    exact decoded
  · obtain ⟨results, returned, decoded⟩ := bind_eq_ok_iff.mp fetched
    rw [truthful.batch _ _ returned] at decoded
    exact Except.ok.inj (decoded.symm.trans described)

theorem batchExact_fetchTraderJoeLbBatch
    (truthful : ∀ moment, ReadsChain fetcher (readsAt moment) answer)
    {specs : List DiscoveredPool} {batch : PoolFetchBatch}
    {excused : DiscoveredPool → PoolState → Prop}
    (fetched : fetcher.fetchTraderJoeLbBatch readsAt blockNumber specs = .ok batch) :
    BatchExact (DescribesTraderJoeLb fetcher answer blockNumber) excused
      (fun reads spec => fetcher.fetchTraderJoeLb reads spec blockNumber) readsAt specs batch := by
  unfold fetchTraderJoeLbBatch at fetched
  refine batchExact_fetchInChunks truthful (Nat.succ_pos 4)
    (fun pool => (rfl : (traderJoeLbCalls pool).length = 5)) ⟨?_, ?_⟩
    
    (fun moment => rightFetch_fetchTraderJoeLb blockNumber (truthful moment)) fetched
  · intro spec pool decoded
    cases read : fetcher.decodeTraderJoeLbBatchResult spec
        ((traderJoeLbCalls spec.address).map answer) blockNumber with
    | error err =>
      rw [read] at decoded
      cases decoded
    | ok pool? =>
      rw [read] at decoded
      cases pool? with
      | none => cases decoded
      | some found =>
        cases decoded
        exact read
  · intro spec pool reason described
    rw [(described : _ = _)]
    exact nofun

/-! ### Aerodrome V2 -/

variable (fetcher answer) in
/-- The fee of a pool: what its factory says, or the usual one if it has no factory, or one that
does not answer. -/
def ownFeePpm (spec : DiscoveredPool) (metadata : AerodromeV2Metadata) : Nat :=
  fetcher.feePpmOf metadata ((feeCall? spec metadata).bind answer)

variable (fetcher answer) in
def DescribesAerodromeV2 (spec : DiscoveredPool) (pool : PoolState) : Prop :=
  ∃ metadata, fetcher.readMetadata (answer (spec.address, .metadata)) = .ok metadata ∧
    pool = fetcher.buildAerodromeV2Pool spec metadata (ownFeePpm fetcher answer spec metadata)
      blockNumber

variable (fetcher answer) in
/-- What the metadata of the specs of a chunk come to, as the chain has them. -/
def ownMetadata (chunk : List PlacedSpec) :
    List (DiscoveredPool × Except String AerodromeV2Metadata) :=
  chunk.map fun placed => (placed.1, fetcher.readMetadata (answer (placed.1.address, .metadata)))

variable (fetcher readsAt answer) in
/-- The multicall for the fees of a chunk failed. -/
def FeesUnread (chunk : List PlacedSpec) : Prop :=
  ∃ err, (readsOfChunk readsAt chunk).aggregate3 (feeCalls (ownMetadata fetcher answer chunk)) =
    .error err

variable (fetcher readsAt answer) in
/-- The pool is as the contracts of its spec describe it, but that it has the usual fee instead of
its own, since the multicall for the fees of the chunk of the spec failed. -/
def UsualFee (specs : List DiscoveredPool) (spec : DiscoveredPool) (pool : PoolState) : Prop :=
  ∃ chunk ∈ fetcher.chunksOf specs, (∃ position, (spec, position) ∈ chunk) ∧
    spec.factory.isSome = true ∧ FeesUnread fetcher readsAt answer chunk ∧
      ∃ metadata, fetcher.readMetadata (answer (spec.address, .metadata)) = .ok metadata ∧
        pool = fetcher.buildAerodromeV2Pool spec metadata (defaultAerodromeFeePpm metadata.stable)
          blockNumber

theorem aerodromeV2PoolHasLiquidity_build (spec : DiscoveredPool)
    (metadata : AerodromeV2Metadata) (feePpm : Nat) :
    aerodromeV2PoolHasLiquidity (fetcher.buildAerodromeV2Pool spec metadata feePpm blockNumber) =
        true ↔
      ¬ (metadata.reserve0 = 0 ∨ metadata.reserve1 = 0) := by
  unfold aerodromeV2PoolHasLiquidity buildAerodromeV2Pool buildPool
  simp only [Bool.and_eq_true, decide_eq_true_eq, not_or, Nat.pos_iff_ne_zero]

theorem readMetadata_eq_ok_iff (raw : Bytes) (metadata : AerodromeV2Metadata) :
    fetcher.readMetadata (some raw) = .ok metadata ↔
      fetcher.decoder.metadata raw = .ok metadata ∧
        ¬ (metadata.reserve0 = 0 ∨ metadata.reserve1 = 0) := by
  unfold readMetadata
  rw [Option.bind_some]
  cases fetcher.decoder.metadata raw with
  | error err => exact iff_of_false nofun nofun
  | ok other =>
    dsimp only [Except.toOption]
    split
    · rename_i empty
      refine iff_of_false nofun ?_
      rintro ⟨same, liquid⟩
      cases same
      exact liquid empty
    · rename_i liquid
      constructor
      · intro same
        cases same
        exact ⟨rfl, liquid⟩
      · rintro ⟨same, _⟩
        cases same
        rfl

/-- What a fetch of one pool comes to. -/
theorem exists_metadata_of_fetchAerodromeV2 (truthful : ReadsChain fetcher reads answer)
    {spec : DiscoveredPool} {result : Option PoolState}
    (fetched : fetcher.fetchAerodromeV2 reads spec blockNumber = .ok result) :
    ∃ raw metadata, answer (spec.address, .metadata) = some raw ∧
      fetcher.decoder.metadata raw = .ok metadata ∧
        result = some (fetcher.buildAerodromeV2Pool spec metadata
          (ownFeePpm fetcher answer spec metadata) blockNumber) := by
  obtain ⟨raw, returned, fetched⟩ := bind_eq_ok_iff.mp fetched
  obtain ⟨metadata, isMetadata, fetched⟩ := bind_eq_ok_iff.mp fetched
  obtain ⟨feePpm, isFee, same⟩ := bind_eq_ok_iff.mp fetched
  cases same
  have isOwn : feePpm = ownFeePpm fetcher answer spec metadata := by
    unfold ownFeePpm feeCall?
    cases isFactory : spec.factory with
    | none =>
      rw [isFactory] at isFee
      cases isFee
      rfl
    | some factory =>
      rw [isFactory] at isFee
      dsimp only at isFee
      cases asked : reads.ethCall factory (.getFee spec.address metadata.stable) with
      | error err =>
        rw [asked] at isFee
        cases isFee
      | ok rawFee =>
        rw [asked] at isFee
        cases isFee
        rw [Option.map_some, Option.bind_some, truthful.single _ _ _ asked]
  exact ⟨raw, metadata, truthful.single _ _ _ returned, isMetadata, by rw [isOwn]⟩

theorem rightFetch_fetchAerodromeV2 (truthful : ReadsChain fetcher reads answer) :
    RightFetch (DescribesAerodromeV2 fetcher answer blockNumber)
      (fetcher.fetchAerodromeV2 reads · blockNumber) aerodromeV2PoolHasLiquidity := by
  refine ⟨fun spec pool fetched liquid => ?_, fun spec pool result described fetched => ?_⟩
  · obtain ⟨raw, metadata, isRaw, isMetadata, same⟩ :=
      exists_metadata_of_fetchAerodromeV2 blockNumber truthful fetched
    cases same
    refine ⟨metadata, ?_, rfl⟩
    rw [isRaw]
    exact (readMetadata_eq_ok_iff raw metadata).mpr ⟨isMetadata,
      (aerodromeV2PoolHasLiquidity_build blockNumber spec metadata _).mp liquid⟩
  · obtain ⟨raw, metadata, isRaw, isMetadata, same⟩ :=
      exists_metadata_of_fetchAerodromeV2 blockNumber truthful fetched
    obtain ⟨other, isOther, _⟩ := described
    rw [isRaw] at isOther
    obtain ⟨decoded, liquid⟩ := (readMetadata_eq_ok_iff raw other).mp isOther
    cases isMetadata.symm.trans decoded
    exact ⟨_, same, (aerodromeV2PoolHasLiquidity_build blockNumber spec _ _).mpr liquid⟩

/-- The fees that are handed out are those that were asked for. -/
theorem withFees_answered (decoded : List (DiscoveredPool × AerodromeV2Metadata)) :
    fetcher.withFees blockNumber decoded
        ((decoded.filterMap fun entry => feeCall? entry.1 entry.2).map answer) =
      decoded.map fun entry => fetcher.buildAerodromeV2Pool entry.1 entry.2
        (fetcher.feePpmOf entry.2 ((feeCall? entry.1 entry.2).bind answer)) blockNumber := by
  induction decoded with
  | nil => rfl
  | cons entry rest inductionHypothesis =>
    obtain ⟨spec, metadata⟩ := entry
    unfold withFees
    rw [List.map_cons]
    cases isFactory : spec.factory with
    | none =>
      have noCall : feeCall? (spec, metadata).1 (spec, metadata).2 = none := by
        unfold feeCall?
        rw [isFactory]
        rfl
      rw [List.filterMap_cons, noCall]
      dsimp only
      rw [inductionHypothesis]
      rfl
    | some factory =>
      have isCall : feeCall? (spec, metadata).1 (spec, metadata).2 =
          some (factory, .getFee spec.address metadata.stable) := by
        unfold feeCall?
        rw [isFactory]
        rfl
      rw [List.filterMap_cons, isCall]
      dsimp only
      rw [List.map_cons, List.tail_cons, inductionHypothesis]
      rfl

/-- Without results every pool has the usual fee. -/
theorem withFees_nil (decoded : List (DiscoveredPool × AerodromeV2Metadata)) :
    fetcher.withFees blockNumber decoded [] =
      decoded.map fun entry => fetcher.buildAerodromeV2Pool entry.1 entry.2
        (defaultAerodromeFeePpm entry.2.stable) blockNumber := by
  induction decoded with
  | nil => rfl
  | cons entry rest inductionHypothesis =>
    obtain ⟨spec, metadata⟩ := entry
    unfold withFees
    rw [List.tail_nil, inductionHypothesis, List.map_cons]
    split
    · rfl
    · rfl

/-- However the request for the fees ends, it leaves every pool its own fee, or the usual one. -/
theorem exists_feeOf (truthful : ReadsChain fetcher reads answer)
    (outcomes : List (DiscoveredPool × Except String AerodromeV2Metadata)) :
    ∃ feeOf : DiscoveredPool → AerodromeV2Metadata → Nat,
      (∀ spec metadata, feeOf spec metadata = ownFeePpm fetcher answer spec metadata ∨
        feeOf spec metadata = defaultAerodromeFeePpm metadata.stable ∧
          spec.factory.isSome = true ∧
            ∃ err, reads.aggregate3 (feeCalls outcomes) = .error err) ∧
        fetcher.withFees blockNumber (readPools outcomes)
            (if feeCalls outcomes = [] then []
              else (reads.aggregate3 (feeCalls outcomes)).toOption.getD []) =
          (readPools outcomes).map fun entry => fetcher.buildAerodromeV2Pool entry.1 entry.2
            (feeOf entry.1 entry.2) blockNumber := by
  generalize isCalls : feeCalls outcomes = calls
  unfold feeCalls at isCalls
  generalize readPools outcomes = decoded at isCalls ⊢
  split
  · rename_i noCalls
    refine ⟨ownFeePpm fetcher answer, fun _ _ => Or.inl rfl, ?_⟩
    unfold ownFeePpm
    rw [← withFees_answered, isCalls, noCalls]
    rfl
  · cases replied : reads.aggregate3 calls with
    | error err =>
      refine ⟨fun _ metadata => defaultAerodromeFeePpm metadata.stable, fun spec metadata => ?_,
        withFees_nil blockNumber decoded⟩
      cases isFactory : spec.factory with
      | none =>
        -- A pool without a factory has the usual fee in any case.
        refine Or.inl ?_
        unfold ownFeePpm feeCall?
        rw [isFactory]
        rfl
      | some factory => exact Or.inr ⟨rfl, rfl, err, rfl⟩
    | ok results =>
      refine ⟨ownFeePpm fetcher answer, fun _ _ => Or.inl rfl, ?_⟩
      unfold ownFeePpm
      rw [← withFees_answered, isCalls, truthful.batch _ _ replied]
      rfl

theorem chunkMetadata_answered (chunk : List PlacedSpec) :
    fetcher.chunkMetadata chunk
        ((chunk.map fun placed => (placed.1.address, PoolCall.metadata)).map answer) =
      ownMetadata fetcher answer chunk := by
  unfold chunkMetadata ownMetadata
  rw [List.map_map, ← List.map_prod_left_eq_zip, List.map_map]
  rfl

/-- What a chunk of a batch comes to. -/
theorem exists_outcomes_chunk (truthful : ∀ moment, ReadsChain fetcher (readsAt moment) answer)
    {specs : List DiscoveredPool} {chunk : List PlacedSpec}
    (isChunk : chunk ∈ fetcher.chunksOf specs) :
    ∃ outcomes, OutcomesFor (RightOutcome (DescribesAerodromeV2 fetcher answer blockNumber)
        (UsualFee fetcher readsAt answer blockNumber specs)
        (fun reads spec => fetcher.fetchAerodromeV2 reads spec blockNumber) readsAt)
          chunk outcomes ∧
      fetcher.fetchAerodromeV2Chunk readsAt blockNumber chunk = collectBatch outcomes := by
  have truthfulChunk : ReadsChain fetcher (readsOfChunk readsAt chunk) answer := truthful _
  unfold fetchAerodromeV2Chunk
  split
  · refine ⟨_, List.forall₂_map_right_iff.mpr (List.forall₂_same.mpr fun placed _ =>
      ⟨fst_fetchSingly _ _ _ _ _ placed.1, ?_⟩), rfl⟩
    refine RightFetch.rightOutcome ?_ _ _ _
    exact rightFetch_fetchAerodromeV2 blockNumber (truthful (.spec placed.2))
  · rename_i results returned
    rw [truthfulChunk.batch _ _ returned, chunkMetadata_answered]
    dsimp only
    obtain ⟨feeOf, right, pools⟩ := exists_feeOf blockNumber truthfulChunk
      (ownMetadata fetcher answer chunk)
    rw [pools]
    -- The outcome for a spec is its metadata with its fee.
    refine ⟨chunk.map fun placed => (placed.1,
      (fetcher.readMetadata (answer (placed.1.address, .metadata))).map fun metadata =>
        fetcher.buildAerodromeV2Pool placed.1 metadata (feeOf placed.1 metadata) blockNumber),
      ?_, ?_⟩
    · refine List.forall₂_map_right_iff.mpr (List.forall₂_same.mpr fun placed member =>
        ⟨rfl, ?_, ?_⟩)
      · intro pool found
        cases isRead : fetcher.readMetadata (answer (placed.1.address, .metadata)) with
        | error reason =>
          rw [isRead] at found
          cases found
        | ok metadata =>
          rw [isRead] at found
          cases found
          dsimp only
          rcases right placed.1 metadata with isOwn | ⟨isUsual, asked, unread⟩
          · rw [isOwn]
            exact Or.inl ⟨metadata, isRead, rfl⟩
          · rw [isUsual]
            exact Or.inr ⟨chunk, isChunk, ⟨placed.2, member⟩, asked, unread, metadata, isRead, rfl⟩
      · rintro reason pool missing ⟨metadata, isRead, _⟩
        rw [isRead] at missing
        cases missing
    · unfold collectBatch readPools ownMetadata
      rw [List.map_filterMap, List.filterMap_map, List.filterMap_map, List.filterMap_map,
        List.filterMap_map]
      congr 1
      · refine List.filterMap_congr fun placed _ => ?_
        dsimp only [Function.comp]
        cases fetcher.readMetadata (answer (placed.1.address, .metadata)) with
        | error reason => rfl
        | ok metadata => rfl
      · refine List.filterMap_congr fun placed _ => ?_
        dsimp only [Function.comp]
        cases fetcher.readMetadata (answer (placed.1.address, .metadata)) with
        | error reason => rfl
        | ok metadata => rfl

theorem collectBatch_flatten
    (outcomes : List (List (DiscoveredPool × Except String PoolState))) :
    collectBatch outcomes.flatten =
      { pools := (outcomes.map collectBatch).flatMap PoolFetchBatch.pools
        skipped := (outcomes.map collectBatch).flatMap PoolFetchBatch.skipped } := by
  unfold collectBatch
  rw [List.filterMap_flatten, List.filterMap_flatten, List.flatMap_map, List.flatMap_map]
  rfl

theorem batchExact_fetchAerodromeV2Batch
    (truthful : ∀ moment, ReadsChain fetcher (readsAt moment) answer)
    {specs : List DiscoveredPool} {batch : PoolFetchBatch}
    (fetched : fetcher.fetchAerodromeV2Batch readsAt blockNumber specs = .ok batch) :
    BatchExact (DescribesAerodromeV2 fetcher answer blockNumber)
      (UsualFee fetcher readsAt answer blockNumber specs)
      (fun reads spec => fetcher.fetchAerodromeV2 reads spec blockNumber) readsAt specs batch := by
  cases fetched
  obtain ⟨outcomes, related⟩ : ∃ outcomes, List.Forall₂ (fun chunk entries =>
      OutcomesFor (RightOutcome (DescribesAerodromeV2 fetcher answer blockNumber)
        (UsualFee fetcher readsAt answer blockNumber specs)
        (fun reads spec => fetcher.fetchAerodromeV2 reads spec blockNumber) readsAt)
          chunk entries ∧
      fetcher.fetchAerodromeV2Chunk readsAt blockNumber chunk = collectBatch entries)
      (fetcher.chunksOf specs) outcomes :=
    exists_forall₂ fun chunk isChunk => exists_outcomes_chunk blockNumber truthful isChunk
  refine ⟨outcomes.flatten, ?_, ?_⟩
  · rw [← flatten_chunksOf fetcher specs]
    exact outcomesFor_flatten (related.imp fun _ _ both => both.1)
  · rw [collectBatch_flatten, map_eq_map_of_related (fun _ _ both => both.2) related]

/-! ### Every kind of batch -/

theorem poolId_of_traderJoeLb {spec : DiscoveredPool} {raw : List (Option Bytes)}
    {pool : PoolState}
    (decoded : fetcher.decodeTraderJoeLbBatchResult spec raw blockNumber = .ok (some pool)) :
    pool.poolId = spec.address := by
  unfold decodeTraderJoeLbBatchResult at decoded
  split at decoded
  · obtain ⟨tokenX, _, decoded⟩ := bind_eq_ok_iff.mp decoded
    obtain ⟨tokenY, _, decoded⟩ := bind_eq_ok_iff.mp decoded
    obtain ⟨binStep, _, decoded⟩ := bind_eq_ok_iff.mp decoded
    obtain ⟨activeId, _, decoded⟩ := bind_eq_ok_iff.mp decoded
    obtain ⟨reserves, _, decoded⟩ := bind_eq_ok_iff.mp decoded
    split at decoded
    · cases decoded
    · cases decoded
      rfl
  · cases decoded

variable (fetcher answer) in
/-- The pool with liquidity that the contracts of a spec describe. -/
def Describes (kind : BatchKind) (spec : DiscoveredPool) (pool : PoolState) : Prop :=
  match kind with
  | .v2 => DescribesV2 fetcher answer blockNumber spec pool
  | .aerodromeV2 => DescribesAerodromeV2 fetcher answer blockNumber spec pool
  | .v3 => DescribesV3 fetcher answer blockNumber spec pool
  | .traderJoeLb => DescribesTraderJoeLb fetcher answer blockNumber spec pool

/-- The pool that is described for a spec is filed under its address. -/
theorem Describes.poolId {kind : BatchKind} {spec : DiscoveredPool} {pool : PoolState}
    (described : Describes fetcher answer blockNumber kind spec pool) :
    pool.poolId = spec.address := by
  cases kind with
  | v2 =>
    obtain ⟨values, _, _, same⟩ := described
    rw [same]
    rfl
  | aerodromeV2 =>
    obtain ⟨metadata, _, same⟩ := described
    rw [same]
    rfl
  | v3 =>
    obtain ⟨values, _, _, same⟩ := described
    rw [same]
    rfl
  | traderJoeLb => exact poolId_of_traderJoeLb blockNumber described

variable (fetcher readsAt answer) in
/-- Why a pool need not be the one that the contracts of its spec describe. -/
def Excused (kind : BatchKind) (specs : List DiscoveredPool) (spec : DiscoveredPool)
    (pool : PoolState) : Prop :=
  kind = .aerodromeV2 ∧ UsualFee fetcher readsAt answer blockNumber specs spec pool

theorem Excused.poolId {kind : BatchKind} {specs : List DiscoveredPool} {spec : DiscoveredPool}
    {pool : PoolState}
    (excused : Excused fetcher readsAt answer blockNumber kind specs spec pool) :
    pool.poolId = spec.address := by
  obtain ⟨_, _, _, _, _, _, metadata, _, same⟩ := excused
  rw [same]
  rfl

theorem exact_of_fetchBatch (truthful : ∀ moment, ReadsChain fetcher (readsAt moment) answer)
    {kind : BatchKind} {specs : List DiscoveredPool} {batch : PoolFetchBatch}
    (fetched : fetcher.fetchBatch readsAt blockNumber kind specs = .ok batch) :
    BatchExact (Describes fetcher answer blockNumber kind)
      (Excused fetcher readsAt answer blockNumber kind specs)
      (fun reads spec => fetcher.fetchKind reads blockNumber kind spec) readsAt specs batch := by
  cases kind with
  | v2 => exact batchExact_fetchV2Batch blockNumber truthful fetched
  | aerodromeV2 =>
    obtain ⟨outcomes, right, same⟩ :=
      batchExact_fetchAerodromeV2Batch blockNumber truthful fetched
    exact ⟨outcomes, right.mono fun placed outcome isRight =>
      ⟨fun pool found => (isRight.described pool found).imp_right fun excused => ⟨rfl, excused⟩,
        isRight.missed⟩, same⟩
  | v3 => exact batchExact_fetchV3Batch blockNumber truthful fetched
  | traderJoeLb => exact batchExact_fetchTraderJoeLbBatch blockNumber truthful fetched

end Kinds

/-! ### A fetch with retries -/

variable {blockNumber : Option Nat}

/-- What a fetch with retries finds is found by one of its attempts. -/
theorem exists_attempt_of_fetchPoolWithRetries {readsAt : Nat → PoolReads}
    {spec : DiscoveredPool} {result : Option PoolState}
    (fetched : fetcher.fetchPoolWithRetries blockNumber readsAt spec = .ok result) :
    ∃ attempt, fetcher.fetchPool (readsAt attempt) blockNumber spec = .ok result := by
  unfold fetchPoolWithRetries at fetched
  generalize fetcher.maxRetriesForKind spec.ammKind = retries at fetched
  generalize 0 = attempt at fetched
  induction retries generalizing attempt with
  | zero =>
    unfold fetchAttempts at fetched
    split at fetched
    · rename_i found isFound
      cases fetched
      exact ⟨attempt, isFound⟩
    · cases fetched
  | succ remaining inductionHypothesis =>
    unfold fetchAttempts at fetched
    split at fetched
    · rename_i found isFound
      cases fetched
      exact ⟨attempt, isFound⟩
    · dsimp only at fetched
      split at fetched
      · cases fetched
      · exact inductionHypothesis (attempt + 1) fetched

/-- A pool of a kind that is not fetched in batches is filed under the address of its spec. -/
theorem poolId_of_fetchPool {spec : DiscoveredPool} {pool : PoolState}
    (other : spec.ammKind = .curvePlain ∨ spec.ammKind = .balancerWeighted)
    (fetched : fetcher.fetchPool reads blockNumber spec = .ok (some pool)) :
    pool.poolId = spec.address := by
  unfold fetchPool at fetched
  rcases other with isCurve | isBalancer
  · rw [isCurve] at fetched
    obtain ⟨rawAmp, _, fetched⟩ := bind_eq_ok_iff.mp fetched
    obtain ⟨amp, _, fetched⟩ := bind_eq_ok_iff.mp fetched
    obtain ⟨rawFee, _, fetched⟩ := bind_eq_ok_iff.mp fetched
    obtain ⟨fee, _, fetched⟩ := bind_eq_ok_iff.mp fetched
    obtain ⟨coins, _, fetched⟩ := bind_eq_ok_iff.mp fetched
    split at fetched
    · cases fetched
    · cases fetched
      rfl
  · rw [isBalancer] at fetched
    obtain ⟨poolId, _, fetched⟩ := bind_eq_ok_iff.mp fetched
    split at fetched
    · cases fetched
    · obtain ⟨rawTokens, _, fetched⟩ := bind_eq_ok_iff.mp fetched
      obtain ⟨tokens, _, fetched⟩ := bind_eq_ok_iff.mp fetched
      obtain ⟨rawWeights, _, fetched⟩ := bind_eq_ok_iff.mp fetched
      obtain ⟨weights, _, fetched⟩ := bind_eq_ok_iff.mp fetched
      obtain ⟨rawFee, _, fetched⟩ := bind_eq_ok_iff.mp fetched
      obtain ⟨fee, _, fetched⟩ := bind_eq_ok_iff.mp fetched
      cases fetched
      rfl

/-! ### A pool with a factory and one without -/

/-- Every pool has reserves, and every factory asks for a fee of 30 basis points. -/
def sampleAnswer (call : Address × PoolCall) : Option Bytes :=
  match call.2 with
  | .metadata => some []
  | .getFee _ _ => some []
  | _ => none

def sampleFetcher : PoolFetcher where
  dexFeePpm := []
  dexVault := []
  multicallChunkSize := some 1
  decoder :=
    { address := fun raw =>
        if raw.length < 32 then .error "buffer overrun" else .ok (lowAddress raw)
      getReserves := fun _ => .error "buffer overrun"
      fee := fun _ => .error "buffer overrun"
      tickSpacing := fun _ => .error "buffer overrun"
      liquidity := fun _ => .error "buffer overrun"
      slot0 := fun _ _ => .error "buffer overrun"
      binStep := fun _ => .error "buffer overrun"
      activeId := fun _ => .error "buffer overrun"
      lbReserves := fun _ => .error "buffer overrun"
      metadata := fun _ => .ok
        { decimals0 := 10 ^ 6, decimals1 := 10 ^ 18, reserve0 := 5, reserve1 := 7, stable := false
          token0 := 1, token1 := 2 }
      feeBps := fun _ => .ok 30
      number := fun _ => .error "buffer overrun"
      poolId := fun _ => .error "buffer overrun"
      poolTokens := fun _ => .error "buffer overrun"
      weights := fun _ => .error "buffer overrun"
      paused := fun _ => .error "buffer overrun" }
  clock := fun _ => 0
  maxRetries := none
  otherMaxRetries := none

def sampleReads : PoolReads where
  aggregate3 calls := .ok (calls.map sampleAnswer)
  ethCall target call := (sampleAnswer (target, call)).elim (.error "reverted") .ok

/-- What the batch reads: the multicall for the fees of the second pool fails. -/
def sampleReadsAt (moment : BatchMoment) : PoolReads :=
  { sampleReads with
    aggregate3 := fun calls =>
      if moment = .chunk [1] ∧ calls = [(5, .getFee 4 false)] then .error "timed out"
      else sampleReads.aggregate3 calls }

theorem sampleFetcher_readsChain (moment : BatchMoment) :
    ReadsChain sampleFetcher (sampleReadsAt moment) sampleAnswer := by
  refine ⟨fun calls results returned => ?_, fun target call raw returned => ?_, fun raw => ?_⟩
  · unfold sampleReadsAt at returned
    dsimp only at returned
    split at returned
    · cases returned
    · cases returned
      rfl
  · unfold sampleReadsAt sampleReads at returned
    dsimp only at returned
    cases answered : sampleAnswer (target, call) with
    | none =>
      rw [answered] at returned
      cases returned
    | some found =>
      rw [answered] at returned
      cases returned
      rfl
  · unfold sampleFetcher
    dsimp only
    split
    · rfl
    · rfl

/-- An Aerodrome pool. -/
def aerodromeSpec (address : Address) (factory : Option Address) : DiscoveredPool where
  address
  dexName := "aerodrome_v2"
  ammKind := .aerodromeV2Like
  factory
  registry := none
  vault := none
  quoter := none
  balancerPoolId := none
  priority := false

end PoolFetcher

end DexArbitrage
