/-
This file is about the replay of events in a bootstrap. A pool of which an event
does not decode is fetched again or comes out stale; any other has the patch of
its first event.

The pools to fetch again are fetched in batches, so what is proved of all
fetches is a property that each of them keeps, or one that the fetch of one pool
brings about and the others keep.
-/

import DexArbitrage.Discovery.BatchFold
import DexArbitrage.Discovery.BootstrapFates

namespace DexArbitrage

/-! ### Which pools a batch asks to fetch again -/

section Triggers

variable {signatureHash : String → B256} {snapshot : GraphSnapshot}

/-- Every trigger names the pool that it is filed under. -/
def AllNamed (triggers : HashMap Address RefreshTrigger) : Prop :=
  ∀ poolId trigger, triggers.lookup poolId = some trigger → trigger.poolId = some poolId

theorem routeLog_poolId {log : RpcLog} {poolId : Address} {trigger : RefreshTrigger}
    (routed : routeLog signatureHash snapshot log = some (poolId, trigger)) :
    trigger.poolId = some poolId := by
  unfold routeLog at routed
  split at routed
  · cases routed
    rfl
  · obtain ⟨topic1, _, routed⟩ := Option.bind_eq_some_iff.mp routed
    obtain ⟨vaultPool, _, routed⟩ := Option.bind_eq_some_iff.mp routed
    cases routed
    rfl

theorem allNamed_collectTriggers (logs : List RpcLog) :
    AllNamed (collectTriggers signatureHash snapshot logs) := by
  refine foldl_keeps AllNamed (fun log _ triggers named => ?_) fun _ _ stored => ?_
  · unfold upsertLog
    cases routed : routeLog signatureHash snapshot log with
    | none => exact named
    | some target =>
      obtain ⟨poolId, trigger⟩ := target
      intro other found stored
      by_cases same : other = poolId
      · subst same
        rcases lookup_upsertTrigger_cases triggers other trigger with new | old
        · rw [new] at stored
          cases stored
          exact routeLog_poolId routed
        · exact named other found (old ▸ stored)
      · rw [lookup_upsertTrigger_ne triggers trigger same] at stored
        exact named other found stored
  · cases stored

/-- The trigger of a pool asks for a full refresh. -/
def AsksFull (triggers : HashMap Address RefreshTrigger) (poolId : Address) : Prop :=
  ∃ trigger, triggers.lookup poolId = some trigger ∧ trigger.fullRefresh = true

theorem AsksFull.upsertLog {triggers : HashMap Address RefreshTrigger} {poolId : Address}
    (asks : AsksFull triggers poolId) (log : RpcLog) :
    AsksFull (upsertLog signatureHash snapshot triggers log) poolId := by
  unfold DexArbitrage.upsertLog
  cases routeLog signatureHash snapshot log with
  | none => exact asks
  | some target =>
    obtain ⟨routed, trigger⟩ := target
    obtain ⟨existing, stored, full⟩ := asks
    refine ⟨existing, ?_, full⟩
    by_cases same : poolId = routed
    · subst same
      dsimp only
      unfold upsertTrigger
      simp only [stored, full, if_true]
    · dsimp only
      rw [lookup_upsertTrigger_ne triggers trigger same, stored]

/-- A log that does not decode asks for a full refresh of its pool. -/
theorem asksFull_of_undecoded {logs : List RpcLog} {poolId : Address}
    (undecoded : none ∈ decodedLogs signatureHash snapshot poolId logs) :
    AsksFull (collectTriggers signatureHash snapshot logs) poolId := by
  obtain ⟨log, member, decoded⟩ := List.mem_filterMap.mp undecoded
  refine foldl_reaches (AsksFull · poolId) (fun other _ triggers asks => asks.upsertLog other)
    member (fun triggers => ?_) _
  unfold upsertLog
  cases routed : routeLog signatureHash snapshot log with
  | none =>
    rw [routed] at decoded
    cases decoded
  | some target =>
    obtain ⟨routedPool, trigger⟩ := target
    rw [routed] at decoded
    dsimp only at decoded
    split at decoded
    · rename_i own
      subst own
      injection decoded with noPatch
      have full : trigger.fullRefresh = true := by
        rw [(routeLog_filed routed).refresh, noPatch]
        rfl
      dsimp only
      cases stored : triggers.lookup routedPool with
      | none => exact ⟨trigger, lookup_upsertTrigger_none trigger stored, full⟩
      | some existing =>
        unfold upsertTrigger
        rw [stored]
        dsimp only
        split
        · rename_i already
          exact ⟨existing, stored, already⟩
        · exact ⟨trigger, AList.lookup_insert triggers, full⟩
    · cases decoded

/-- A pool whose logs all decode is not asked for. -/
theorem not_asksFull_of_decoded {logs : List RpcLog} {poolId : Address}
    {patches : List PoolStatePatch}
    (decodes : decodedLogs signatureHash snapshot poolId logs = patches.map some) :
    ¬ AsksFull (collectTriggers signatureHash snapshot logs) poolId := by
  rintro ⟨trigger, stored, full⟩
  have kept : ((collectTriggers signatureHash snapshot logs).lookup poolId).map
      RefreshTrigger.patch = (decodedLogs signatureHash snapshot poolId logs).head? := by
    refine patch_foldl_upsertLog (fun _ none => by cases none) fun patch member => ?_
    rw [decodes] at member
    obtain ⟨decoded, _, same⟩ := List.mem_map.mp member
    rw [← same]
    rfl
  rw [stored, decodes, List.head?_map] at kept
  obtain ⟨patch, _, same⟩ := Option.map_eq_some_iff.mp kept.symm
  rw [(allFiled_collectTriggers snapshot logs poolId trigger stored).refresh, ← same] at full
  cases full

end Triggers

namespace BootstrapEnv

section Specs

variable {signatureHash : String → B256} {snapshot : GraphSnapshot} {logs : List RpcLog}
  {order : List RefreshTrigger → List RefreshTrigger} {pools : HashMap Address PoolState}

/-- The pools to fetch again are those held of which a trigger asks for it. -/
theorem mem_collectReplayFullRefreshSpecs (shuffles : ∀ triggers, (order triggers).Perm triggers)
    (spec : DiscoveredPool) :
    spec ∈ collectReplayFullRefreshSpecs pools
        (buildRefreshBatch signatureHash order snapshot logs) ↔
      ∃ poolId pool, AsksFull (collectTriggers signatureHash snapshot logs) poolId ∧
        pools.lookup poolId = some pool ∧ spec = poolToSpec pool := by
  have asked : ∀ poolId, poolId ∈ ((buildRefreshBatch signatureHash order snapshot
      logs).triggers.filter RefreshTrigger.fullRefresh).filterMap RefreshTrigger.poolId ↔
        AsksFull (collectTriggers signatureHash snapshot logs) poolId := by
    intro poolId
    rw [List.mem_filterMap]
    constructor
    · rintro ⟨trigger, selected, isPool⟩
      obtain ⟨member, full⟩ := List.mem_filter.mp selected
      have inMap : trigger ∈ (collectTriggers signatureHash snapshot logs).values :=
        (shuffles _).mem_iff.mp member
      obtain ⟨other, stored⟩ := (HashMap.mem_values _ trigger).mp inMap
      have named := allNamed_collectTriggers logs other trigger stored
      rw [isPool] at named
      cases named
      exact ⟨trigger, stored, full⟩
    · rintro ⟨trigger, stored, full⟩
      refine ⟨trigger, List.mem_filter.mpr ⟨?_, full⟩,
        allNamed_collectTriggers logs poolId trigger stored⟩
      exact (shuffles _).mem_iff.mpr ((HashMap.mem_values _ trigger).mpr ⟨poolId, stored⟩)
  unfold collectReplayFullRefreshSpecs
  rw [List.mem_map]
  constructor
  · rintro ⟨pool, found, same⟩
    obtain ⟨poolId, member, stored⟩ := List.mem_filterMap.mp found
    exact ⟨poolId, pool, (asked poolId).mp (List.mem_eraseDups.mp member), stored, same.symm⟩
  · rintro ⟨poolId, pool, asks, stored, same⟩
    refine ⟨pool, List.mem_filterMap.mpr ⟨poolId, ?_, stored⟩, same.symm⟩
    exact List.mem_eraseDups.mpr ((asked poolId).mpr asks)

theorem specs_foldl_pushFetchSpec (specs : List DiscoveredPool) (plan : FetchPlan)
    (kind : Option PoolFetcher.BatchKind) :
    (specs.foldl pushFetchSpec plan).specs kind =
      plan.specs kind ++ specs.filter fun spec => batchKindOf spec.ammKind = kind := by
  induction specs generalizing plan with
  | nil => exact (List.append_nil _).symm
  | cons spec rest inductionHypothesis =>
    rw [List.foldl_cons, inductionHypothesis, specs_pushFetchSpec, List.append_assoc]
    refine congrArg (plan.specs kind ++ ·) ?_
    by_cases isKind : batchKindOf spec.ammKind = kind
    · rw [if_pos isKind, List.filter_cons_of_pos (by simpa using isKind)]
      rfl
    · rw [if_neg isKind, List.filter_cons_of_neg (by simpa using isKind)]
      rfl

end Specs

/-! ### Fetching pools again -/

section Refetch

variable {env : BootstrapEnv} {replies : BootstrapReplies} {round : FetchRound}
  {answer : Address × PoolCall → Option Bytes} {specs : List DiscoveredPool}

variable (env replies round answer) in
/-- Why a pool is not fetched again. -/
def Missing (spec : DiscoveredPool) : Prop :=
  NotFound env replies round answer spec ∨
    ∃ pool, Found env replies round answer spec pool ∧ env.admitPool replies pool = false

variable (env replies round answer) in
/-- What fetching a pool again comes to. -/
inductive Refetched (refetching : Refetching) (spec : DiscoveredPool) : Prop
  | found (pool : PoolState) (isFound : Found env replies round answer spec pool)
      (stored : refetching.store.pools.lookup spec.address = some pool)
      (current : spec.address ∉ refetching.failed)
  | failed (listed : spec.address ∈ refetching.failed)
      (missing : Missing env replies round answer spec)

/-- No two specs have the same address. -/
def OneEach (specs : List DiscoveredPool) : Prop :=
  ∀ spec ∈ specs, ∀ other ∈ specs, other.address = spec.address → other = spec

theorem mem_failed_keep (refetching : Refetching) (pool : PoolState) (address : Address) :
    address ∈ (refetching.keep pool).failed ↔
      address ∈ refetching.failed ∧ address ≠ pool.poolId := by
  unfold Refetching.keep
  rw [List.mem_filter, decide_eq_true_eq]

theorem mem_failed_fail (refetching : Refetching) (spec : DiscoveredPool) (reason : String)
    (address : Address) :
    address ∈ (refetching.fail replies spec reason).failed ↔
      address = spec.address ∨ address ∈ refetching.failed := by
  unfold Refetching.fail
  exact List.mem_insert_iff

theorem refetched_keep (refetching : Refetching) {spec : DiscoveredPool} {pool : PoolState}
    (isFound : Found env replies round answer spec pool) :
    Refetched env replies round answer (refetching.keep pool) spec := by
  refine .found pool isFound ?_ fun listed => ?_
  · exact (lookup_keepPool refetching.store pool spec.address).trans
      (if_pos isFound.poolId.symm)
  · exact ((mem_failed_keep refetching pool spec.address).mp listed).2 isFound.poolId.symm

theorem refetched_fail (refetching : Refetching) {spec : DiscoveredPool} (reason : String)
    (missing : Missing env replies round answer spec) :
    Refetched env replies round answer (refetching.fail replies spec reason) spec :=
  .failed ((mem_failed_fail refetching spec reason spec.address).mpr (Or.inl rfl)) missing

theorem Refetched.keep {refetching : Refetching} {spec other : DiscoveredPool} {pool : PoolState}
    (refetched : Refetched env replies round answer refetching spec)
    (oneEach : OneEach specs) (member : spec ∈ specs) (isOther : other ∈ specs)
    (isFound : Found env replies round answer other pool) :
    Refetched env replies round answer (refetching.keep pool) spec := by
  by_cases own : other.address = spec.address
  · cases oneEach spec member other isOther own
    exact refetched_keep refetching isFound
  · have notOwn : spec.address ≠ pool.poolId := fun same => own (isFound.poolId ▸ same.symm)
    cases refetched with
    | found held heldFound stored current =>
      refine .found held heldFound ?_ fun listed => ?_
      · exact (lookup_keepPool refetching.store pool spec.address).trans
          ((if_neg notOwn).trans stored)
      · exact current ((mem_failed_keep refetching pool spec.address).mp listed).1
    | failed listed missing =>
      exact .failed ((mem_failed_keep refetching pool spec.address).mpr ⟨listed, notOwn⟩) missing

theorem Refetched.fail {refetching : Refetching} {spec other : DiscoveredPool}
    (refetched : Refetched env replies round answer refetching spec)
    (oneEach : OneEach specs) (member : spec ∈ specs) (isOther : other ∈ specs) (reason : String)
    (missing : Missing env replies round answer other) :
    Refetched env replies round answer (refetching.fail replies other reason) spec := by
  by_cases own : other.address = spec.address
  · cases oneEach spec member other isOther own
    exact refetched_fail refetching reason missing
  · cases refetched with
    | found held heldFound stored current =>
      refine .found held heldFound stored fun listed => ?_
      rcases (mem_failed_fail refetching other reason spec.address).mp listed with same | before
      · exact own same.symm
      · exact current before
    | failed listed alsoMissing =>
      exact .failed ((mem_failed_fail refetching other reason spec.address).mpr (Or.inr listed))
        alsoMissing

/-! ### What all fetches keep, and what one of them reaches -/

section Keeps

variable {holds : Refetching → Prop}

variable (env replies round answer specs holds) in
/-- Neither a pool that is found nor one that is missing takes the property away. -/
structure Kept : Prop where
  keep : ∀ refetching : Refetching, ∀ spec ∈ specs, ∀ pool,
    Found env replies round answer spec pool → holds refetching →
      holds (refetching.keep pool)
  fail : ∀ refetching : Refetching, ∀ spec ∈ specs, ∀ reason,
    Missing env replies round answer spec → holds refetching →
      holds (refetching.fail replies spec reason)

variable (env replies round answer holds) in
/-- The fetch of a pool brings the property about. -/
structure Reached (spec : DiscoveredPool) : Prop where
  keep : ∀ (refetching : Refetching) (pool : PoolState),
    Found env replies round answer spec pool → holds (refetching.keep pool)
  fail : ∀ (refetching : Refetching) (reason : String),
    Missing env replies round answer spec → holds (refetching.fail replies spec reason)

variable {batch : PoolFetchBatch}

theorem Kept.storeBatch (kept : Kept env replies round answer specs holds)
    {ofKind : List DiscoveredPool} (fewer : ∀ spec ∈ ofKind, spec ∈ specs)
    (covers : BatchCovers env replies round answer ofKind batch) {refetching : Refetching}
    (now : holds refetching) : holds (refetching.storeBatch replies batch) := by
  refine foldl_keeps holds (fun pool member after holdsAfter => ?_)
    (foldl_keeps holds (fun skipped member after holdsAfter => ?_) now)
  · obtain ⟨spec, inSpecs, isFound⟩ := covers.pools pool member
    exact kept.keep after spec (fewer spec inSpecs) pool isFound holdsAfter
  · obtain ⟨inSpecs, missing⟩ := covers.skipped skipped member
    exact kept.fail after _ (fewer _ inSpecs) skipped.reason (Or.inl missing) holdsAfter

theorem Reached.storeBatch (kept : Kept env replies round answer specs holds)
    {ofKind : List DiscoveredPool} (fewer : ∀ spec ∈ ofKind, spec ∈ specs)
    (covers : BatchCovers env replies round answer ofKind batch) {spec : DiscoveredPool}
    (reached : Reached env replies round answer holds spec) (member : spec ∈ ofKind)
    (refetching : Refetching) : holds (refetching.storeBatch replies batch) := by
  have keeps : ∀ pool ∈ batch.pools, ∀ after, holds after → holds (after.keep pool) := by
    intro pool inPools after holdsAfter
    obtain ⟨other, inSpecs, isFound⟩ := covers.pools pool inPools
    exact kept.keep after other (fewer other inSpecs) pool isFound holdsAfter
  rcases covers.covers spec member with ⟨pool, inPools, isFound⟩ | ⟨skipped, inSkipped, isSpec⟩
  · exact foldl_reaches holds keeps inPools (fun after => reached.keep after pool isFound) _
  · refine foldl_keeps holds keeps (foldl_reaches holds (fun entry inBatch after holdsAfter => ?_)
      inSkipped (fun after => ?_) refetching)
    · obtain ⟨inSpecs, missing⟩ := covers.skipped entry inBatch
      exact kept.fail after _ (fewer _ inSpecs) entry.reason (Or.inl missing) holdsAfter
    · obtain ⟨_, missing⟩ := covers.skipped skipped inSkipped
      rw [isSpec] at missing ⊢
      exact reached.fail after skipped.reason (Or.inl missing)

variable (env replies answer) in
/-- A fetch of one pool keeps a pool that is found and admitted, or fails. -/
theorem storeOther_cases {placed : PlacedSpec} (isKind : batchKindOf placed.1.ammKind = none)
    (isPlaced : placed ∈ (round.toFetch.specs none).zipIdx) (refetching : Refetching) :
    (∃ pool, Found env replies round answer placed.1 pool ∧
      Refetching.storeOther env replies round refetching placed = refetching.keep pool) ∨
      ∃ reason, Missing env replies round answer placed.1 ∧
        Refetching.storeOther env replies round refetching placed =
          refetching.fail replies placed.1 reason := by
  unfold Refetching.storeOther
  cases fetched : env.fetchOther replies round placed with
  | error err =>
    exact Or.inr ⟨_, Or.inl (notFound_of_fetchOther isKind isPlaced fun pool found => by
      rw [fetched] at found
      cases found), rfl⟩
  | ok result =>
    cases result with
    | none =>
      exact Or.inr ⟨_, Or.inl (notFound_of_fetchOther isKind isPlaced fun pool found => by
        rw [fetched] at found
        cases found), rfl⟩
    | some pool =>
      have isFound : Found env replies round answer placed.1 pool :=
        found_of_fetchOther isKind isPlaced fetched
      by_cases admitted : env.admitPool replies pool = true
      · exact Or.inl ⟨pool, isFound, if_pos admitted⟩
      · exact Or.inr ⟨_, Or.inr ⟨pool, isFound, Bool.eq_false_of_not_eq_true admitted⟩,
          if_neg admitted⟩

variable {latest : Nat} {refetching after : Refetching}

/-- The round of a replay asks for each spec in its way. -/
theorem mem_specs_replayRound {spec : DiscoveredPool} {kind : Option PoolFetcher.BatchKind} :
    spec ∈ (replayRound specs latest).toFetch.specs kind ↔
      spec ∈ specs ∧ batchKindOf spec.ammKind = kind := by
  have nothing : FetchPlan.empty.specs kind = [] := by
    rcases kind with _ | (_ | _ | _ | _) <;> rfl
  unfold replayRound
  dsimp only
  rw [specs_foldl_pushFetchSpec, nothing, List.nil_append, List.mem_filter, decide_eq_true_eq]

theorem exists_refetchBatches
    (fetched : env.fetchReplayFullRefreshPools replies specs latest refetching = .ok after) :
    ∃ batches : PoolFetcher.BatchKind → PoolFetchBatch,
      (∀ kind, env.fetcher.fetchBatch ((replayRound specs latest).reads replies kind)
        (replayRound specs latest).blockNumber kind
        ((replayRound specs latest).toFetch.specs (some kind)) = .ok (batches kind)) ∧
      after = ((replayRound specs latest).toFetch.specs none).zipIdx.foldl
        (Refetching.storeOther env replies (replayRound specs latest))
        (batchKinds.foldl (fun refetching kind => refetching.storeBatch replies (batches kind))
          refetching) := by
  obtain ⟨v2, isV2, fetched⟩ := bind_eq_ok_iff.mp fetched
  obtain ⟨aerodromeV2, isAerodromeV2, fetched⟩ := bind_eq_ok_iff.mp fetched
  obtain ⟨v3, isV3, fetched⟩ := bind_eq_ok_iff.mp fetched
  obtain ⟨traderJoeLb, isTraderJoeLb, fetched⟩ := bind_eq_ok_iff.mp fetched
  cases fetched
  refine ⟨batchOf v2 aerodromeV2 v3 traderJoeLb, fun kind => ?_, rfl⟩
  cases kind with
  | v2 => exact isV2
  | aerodromeV2 => exact isAerodromeV2
  | v3 => exact isV3
  | traderJoeLb => exact isTraderJoeLb

theorem refetchCovers (reads : ReadsPools env replies answer) {kind : PoolFetcher.BatchKind}
    (fetched : env.fetcher.fetchBatch ((replayRound specs latest).reads replies kind)
      (replayRound specs latest).blockNumber kind
      ((replayRound specs latest).toFetch.specs (some kind)) = .ok batch) :
    BatchCovers env replies (replayRound specs latest) answer
      ((replayRound specs latest).toFetch.specs (some kind)) batch :=
  batchCovers reads (fun _ member => (mem_specs_replayRound.mp member).2) fetched

theorem Kept.storeOther (kept : Kept env replies round answer specs holds) {placed : PlacedSpec}
    (member : placed.1 ∈ specs) (isKind : batchKindOf placed.1.ammKind = none)
    (isPlaced : placed ∈ (round.toFetch.specs none).zipIdx) (now : holds refetching) :
    holds (Refetching.storeOther env replies round refetching placed) := by
  rcases storeOther_cases env replies answer isKind isPlaced refetching with
    ⟨pool, isFound, same⟩ | ⟨reason, missing, same⟩
  · rw [same]
    exact kept.keep refetching placed.1 member pool isFound now
  · rw [same]
    exact kept.fail refetching placed.1 member reason missing now

/-- The fetches of single pools keep what neither a found nor a missing pool takes away. -/
theorem Kept.storeOthers (kept : Kept env replies (replayRound specs latest) answer specs holds) :
    ∀ placed ∈ ((replayRound specs latest).toFetch.specs none).zipIdx, ∀ state, holds state →
      holds (Refetching.storeOther env replies (replayRound specs latest) state placed) := by
  intro placed isPlaced state holdsNow
  obtain ⟨inSpecs, isKind⟩ := mem_specs_replayRound.mp (mem_of_mem_zipIdx isPlaced)
  exact kept.storeOther inSpecs isKind isPlaced holdsNow

/-- What neither a pool that is found nor one that is missing takes away holds after all fetches. -/
theorem Kept.fetched (reads : ReadsPools env replies answer)
    (kept : Kept env replies (replayRound specs latest) answer specs holds)
    (fetched : env.fetchReplayFullRefreshPools replies specs latest refetching = .ok after)
    (now : holds refetching) : holds after := by
  obtain ⟨batches, areBatches, same⟩ := exists_refetchBatches fetched
  rw [same]
  refine foldl_keeps holds kept.storeOthers
    (foldl_keeps holds (fun kind _ state holdsNow => ?_) now)
  exact kept.storeBatch (fun spec member => (mem_specs_replayRound.mp member).1)
    (refetchCovers reads (areBatches kind)) holdsNow

/-- What the fetch of one pool brings about holds after all fetches. -/
theorem Reached.fetched (reads : ReadsPools env replies answer)
    (kept : Kept env replies (replayRound specs latest) answer specs holds)
    {spec : DiscoveredPool}
    (reached : Reached env replies (replayRound specs latest) answer holds spec)
    (member : spec ∈ specs)
    (fetched : env.fetchReplayFullRefreshPools replies specs latest refetching = .ok after) :
    holds after := by
  obtain ⟨batches, areBatches, same⟩ := exists_refetchBatches fetched
  have inSpecs : ∀ kind, ∀ other ∈ (replayRound specs latest).toFetch.specs (some kind),
      other ∈ specs := fun kind other isOther => (mem_specs_replayRound.mp isOther).1
  rw [same]
  cases isKind : batchKindOf spec.ammKind with
  | none =>
    obtain ⟨position, isPlaced⟩ := exists_mem_zipIdx
      (mem_specs_replayRound.mpr ⟨member, isKind⟩ :
        spec ∈ (replayRound specs latest).toFetch.specs none)
    refine foldl_reaches holds kept.storeOthers isPlaced (fun state => ?_) _
    rcases storeOther_cases env replies answer isKind isPlaced state with
      ⟨pool, isFound, stored⟩ | ⟨reason, missing, stored⟩
    · rw [stored]
      exact reached.keep state pool isFound
    · rw [stored]
      exact reached.fail state reason missing
  | some kind =>
    have isOfKind : spec ∈ (replayRound specs latest).toFetch.specs (some kind) :=
      mem_specs_replayRound.mpr ⟨member, isKind⟩
    refine foldl_keeps holds kept.storeOthers
      (foldl_reaches holds (fun other _ state holdsNow => ?_) (mem_batchKinds kind)
        (fun state => ?_) refetching)
    · exact kept.storeBatch (inSpecs other) (refetchCovers reads (areBatches other)) holdsNow
    · exact reached.storeBatch kept (inSpecs kind) (refetchCovers reads (areBatches kind)) isOfKind
        state

/-- A pool that is fetched again is found, or it is on the list of those for which that failed. -/
theorem refetched_of_fetched (reads : ReadsPools env replies answer)
    (oneEach : OneEach specs) {spec : DiscoveredPool} (member : spec ∈ specs)
    (fetched : env.fetchReplayFullRefreshPools replies specs latest refetching = .ok after) :
    Refetched env replies (replayRound specs latest) answer after spec := by
  have kept : Kept env replies (replayRound specs latest) answer specs
      (Refetched env replies (replayRound specs latest) answer · spec) :=
    ⟨fun _ _ isOther _ isFound now => now.keep oneEach member isOther isFound,
      fun _ _ isOther reason missing now => now.fail oneEach member isOther reason missing⟩
  have reached : Reached env replies (replayRound specs latest) answer
      (Refetched env replies (replayRound specs latest) answer · spec) spec :=
    ⟨fun state _ isFound => refetched_keep state isFound,
      fun state reason missing => refetched_fail state reason missing⟩
  exact reached.fetched reads kept member fetched

/-- An address that no pool to fetch again has is left alone. -/
theorem untouched_of_fetched (reads : ReadsPools env replies answer)
    {address : Address} (other : ∀ spec ∈ specs, spec.address ≠ address)
    (fetched : env.fetchReplayFullRefreshPools replies specs latest refetching = .ok after) :
    (after.store.pools.lookup address = refetching.store.pools.lookup address ∧
      after.store.skippedPools.lookup address =
        refetching.store.skippedPools.lookup address) ∧
      (address ∈ after.failed → address ∈ refetching.failed) := by
  have kept : Kept env replies (replayRound specs latest) answer specs fun state =>
      (state.store.pools.lookup address = refetching.store.pools.lookup address ∧
        state.store.skippedPools.lookup address =
          refetching.store.skippedPools.lookup address) ∧
        (address ∈ state.failed → address ∈ refetching.failed) := by
    refine ⟨?_, ?_⟩
    · rintro state spec member pool isFound ⟨⟨same, sameSkipped⟩, fewer⟩
      have notOwn : address ≠ pool.poolId := fun own =>
        other spec member (isFound.poolId.symm.trans own.symm)
      refine ⟨⟨?_, ?_⟩, fun listed => fewer ((mem_failed_keep state pool address).mp listed).1⟩
      · exact (lookup_keepPool state.store pool address).trans ((if_neg notOwn).trans same)
      · exact (lookup_skipped_keepPool state.store pool address).trans
          ((if_neg notOwn).trans sameSkipped)
    · rintro state spec member reason missing ⟨⟨same, sameSkipped⟩, fewer⟩
      have notOwn : address ≠ spec.address := fun own => other spec member own.symm
      refine ⟨⟨same, ?_⟩, fun listed => ?_⟩
      · exact (lookup_insertSkippedPoolReason state.store spec reason address).trans
          ((if_neg notOwn).trans sameSkipped)
      · rcases (mem_failed_fail state spec reason address).mp listed with own | before
        · exact absurd own notOwn
        · exact fewer before
  exact kept.fetched reads fetched ⟨⟨rfl, rfl⟩, id⟩

/-- A pool that is held stays held. -/
theorem held_of_fetched (reads : ReadsPools env replies answer) {address : Address}
    (fetched : env.fetchReplayFullRefreshPools replies specs latest refetching = .ok after)
    (held : (refetching.store.pools.lookup address).isSome = true) :
    (after.store.pools.lookup address).isSome = true := by
  have kept : Kept env replies (replayRound specs latest) answer specs fun state =>
      (state.store.pools.lookup address).isSome = true := by
    refine ⟨fun state spec _ pool _ now => ?_, fun state spec _ reason _ now => now⟩
    unfold Refetching.keep
    rw [lookup_keepPool]
    split
    · rfl
    · exact now
  exact kept.fetched reads fetched held

end Keeps

end Refetch

/-! ### Marking the pools -/

theorem lookup_markStale_of_notMem {failed : List Address} {address : Address}
    (current : address ∉ failed) (pools : HashMap Address PoolState) :
    AList.lookup address (failed.foldl (fun pools poolId => HashMap.update pools poolId markStale)
      pools) = pools.lookup address := by
  refine foldl_untouched (fun pools : HashMap Address PoolState => pools.lookup address)
    (fun poolId member pools => ?_) pools
  refine HashMap.lookup_update_ne pools (fun same => current ?_) markStale
  rw [same]
  exact member

theorem exists_stale_of_mem {failed : List Address} {address : Address}
    (listed : address ∈ failed) {pools : HashMap Address PoolState}
    (held : (pools.lookup address).isSome = true) :
    ∃ pool, AList.lookup address (failed.foldl (fun pools poolId =>
      HashMap.update pools poolId markStale) pools) = some pool ∧ pool.health.stale = true := by
  refine foldl_establishes
    (fun pools : HashMap Address PoolState => (pools.lookup address).isSome = true)
    (fun pools : HashMap Address PoolState =>
      ∃ pool, pools.lookup address = some pool ∧ pool.health.stale = true)
    (fun poolId _ pools isHeld => ?_) (fun poolId _ pools _ isStale => ?_) listed
    (fun pools isHeld => ?_) held
  · rw [HashMap.lookup_update]
    split
    · rename_i same
      rw [← same, Option.isSome_map]
      exact isHeld
    · exact isHeld
  · obtain ⟨pool, stored, stale⟩ := isStale
    rw [HashMap.lookup_update]
    split
    · rename_i same
      exact ⟨markStale pool, by rw [← same, stored]; rfl, rfl⟩
    · exact ⟨pool, stored, stale⟩
  · obtain ⟨pool, stored⟩ := Option.isSome_iff_exists.mp isHeld
    exact ⟨markStale pool, by rw [HashMap.lookup_update_self, stored]; rfl, rfl⟩

theorem exists_map_some_of_notMem {Value : Type} {values : List (Option Value)}
    (present : none ∉ values) : ∃ others : List Value, values = others.map some := by
  refine ⟨values.reduceOption, ?_⟩
  induction values with
  | nil => rfl
  | cons value rest inductionHypothesis =>
    rw [List.mem_cons, not_or] at present
    cases value with
    | none => exact absurd rfl present.1
    | some held =>
      rw [List.reduceOption_cons_of_some, List.map_cons, ← inductionHypothesis present.2]

theorem mem_watchedAddresses {snapshot : GraphSnapshot} {poolId : Address} {pool : PoolState}
    (stored : snapshot.pools.lookup poolId = some pool) :
    poolId ∈ watchedAddresses snapshot := by
  have isKey : poolId ∈ snapshot.pools.keys :=
    AList.mem_keys.mp (AList.lookup_isSome.mp (by rw [stored]; rfl))
  refine foldl_keeps (fun addresses : List Address => poolId ∈ addresses)
    (fun pool _ addresses member => ?_) isKey
  split
  · split
    · exact member
    · exact List.mem_append_left _ member
  · exact member

/-! ### The replay -/

section Replay

variable {env : BootstrapEnv} {replies : BootstrapReplies}
  {answer : Address × PoolCall → Option Bytes} {anchor latest : Nat} {store after : PoolStore}

variable (env replies latest) in
/-- The fetches that some logs ask for. -/
def askedRound (snapshot : GraphSnapshot) (logs : List RpcLog) : FetchRound :=
  replayRound (collectReplayFullRefreshSpecs snapshot.pools
    (buildRefreshBatch env.signatureHash replies.triggerOrder snapshot logs)) latest

variable (env replies answer latest) in
/-- What the replay of some logs makes of a pool. -/
structure Replayed (snapshot : GraphSnapshot) (logs : List RpcLog) (before later : PoolState) :
    Prop where
  first : ∀ patches : List PoolStatePatch,
    decodedLogs env.signatureHash snapshot before.poolId logs = patches.map some →
      ∃ patched, later = markReplayed replies latest patched ∧
        patched.state = patchStates before.tokenAddresses before.state (patches.take 1)
  again : none ∈ decodedLogs env.signatureHash snapshot before.poolId logs →
    (∃ pool, Found env replies (askedRound env replies latest snapshot logs) answer
        (poolToSpec before) pool ∧
      later = markReplayed replies latest pool) ∨
    later.health.stale = true ∧
      Missing env replies (askedRound env replies latest snapshot logs) answer (poolToSpec before)

theorem oneEach_collectReplayFullRefreshSpecs (filed : PoolsFiled store.pools)
    (shuffles : ∀ triggers, (replies.triggerOrder triggers).Perm triggers)
    (snapshot : GraphSnapshot) (logs : List RpcLog) :
    OneEach (collectReplayFullRefreshSpecs store.pools
      (buildRefreshBatch env.signatureHash replies.triggerOrder snapshot logs)) := by
  intro spec member other isOther same
  obtain ⟨poolId, pool, _, stored, isSpec⟩ :=
    (mem_collectReplayFullRefreshSpecs shuffles spec).mp member
  obtain ⟨otherId, otherPool, _, otherStored, isOtherSpec⟩ :=
    (mem_collectReplayFullRefreshSpecs shuffles other).mp isOther
  have sameId : otherId = poolId := by
    rw [← filed _ _ stored, ← filed _ _ otherStored]
    rw [isSpec, isOtherSpec] at same
    exact same
  rw [sameId, stored] at otherStored
  cases otherStored
  rw [isSpec, isOtherSpec]

section Batch

variable {snapshot : GraphSnapshot} {logs : List RpcLog} {address : Address}
  {before : PoolState} {refetched : Refetching}

variable (replies) in
theorem map_fst_stampPatches (batch : RefreshBatch) :
    (stampPatches replies batch).map Prod.fst = collectPatches batch := by
  unfold stampPatches
  rw [List.map_map]
  exact List.zipIdx_map_fst 0 (collectPatches batch)

theorem held_applyPatches (stored : store.pools.lookup address = some before)
    (stamped : List (PoolStatePatch × SystemTime)) :
    ((applyPatches (some latest) store.pools stamped).lookup address).isSome = true := by
  have states := applyPatches_state (some latest) address stamped store.pools
  rw [stored] at states
  cases patched : (applyPatches (some latest) store.pools stamped).lookup address with
  | none =>
    rw [patched] at states
    cases states
  | some pool => rfl

variable (env replies snapshot logs latest store refetched) in
/-- The pools that a batch asks for are fetched again, after its patches were applied. -/
def Refreshed : Prop :=
  env.fetchReplayFullRefreshPools replies
    (collectReplayFullRefreshSpecs store.pools
      (buildRefreshBatch env.signatureHash replies.triggerOrder snapshot logs)) latest
    { store := { store with
        pools := applyPatches (some latest) store.pools (stampPatches replies
          (buildRefreshBatch env.signatureHash replies.triggerOrder snapshot logs)) }
      failed := [] } = .ok refetched

/-- A pool with a log that does not decode is fetched again. -/
theorem replayed_undecoded (reads : ReadsPools env replies answer)
    (filed : PoolsFiled store.pools)
    (shuffles : ∀ triggers, (replies.triggerOrder triggers).Perm triggers)
    (samePools : snapshot.pools = store.pools)
    (refreshed : Refreshed env replies latest store snapshot logs refetched)
    (stored : store.pools.lookup address = some before)
    (undecoded : none ∈ decodedLogs env.signatureHash snapshot address logs) :
    ∃ later, (markRefetched replies latest refetched).pools.lookup address = some later ∧
      Replayed env replies answer latest snapshot logs before later := by
  have isOwn : before.poolId = address := filed address before stored
  have isSpec : poolToSpec before ∈ collectReplayFullRefreshSpecs store.pools
      (buildRefreshBatch env.signatureHash replies.triggerOrder snapshot logs) :=
    (mem_collectReplayFullRefreshSpecs shuffles _).mpr
      ⟨address, before, asksFull_of_undecoded undecoded, stored, rfl⟩
  have notFirst : ∀ patches : List PoolStatePatch,
      decodedLogs env.signatureHash snapshot before.poolId logs ≠ patches.map some := by
    intro patches decodes
    rw [isOwn] at decodes
    rw [decodes] at undecoded
    obtain ⟨_, _, isNone⟩ := List.mem_map.mp undecoded
    cases isNone
  have isAddress : (poolToSpec before).address = address := isOwn
  have isRound : askedRound env replies latest snapshot logs =
      replayRound (collectReplayFullRefreshSpecs store.pools
        (buildRefreshBatch env.signatureHash replies.triggerOrder snapshot logs)) latest := by
    unfold askedRound
    rw [samePools]
  cases refetched_of_fetched reads
    (oneEach_collectReplayFullRefreshSpecs filed shuffles snapshot logs) isSpec refreshed with
  | found pool isFound isStored current =>
    rw [isAddress] at isStored current
    refine ⟨markReplayed replies latest pool, ?_,
      fun patches decodes => absurd decodes (notFirst patches), fun _ =>
        Or.inl ⟨pool, isRound ▸ isFound, rfl⟩⟩
    refine (lookup_markStale_of_notMem current _).trans ?_
    rw [markReplayedPoolsCurrent, HashMap.lookup_mapValues, isStored]
    rfl
  | failed listed missing =>
    rw [isAddress] at listed
    have held : ((markReplayedPoolsCurrent replies latest refetched.store.pools).lookup
        address).isSome = true := by
      rw [markReplayedPoolsCurrent, HashMap.lookup_mapValues, Option.isSome_map]
      exact held_of_fetched reads refreshed (held_applyPatches stored _)
    obtain ⟨later, isLater, stale⟩ := exists_stale_of_mem listed held
    exact ⟨later, isLater, fun patches decodes => absurd decodes (notFirst patches), fun _ =>
      Or.inr ⟨stale, isRound ▸ missing⟩⟩

/-- A pool whose logs all decode has the patch of the first one. -/
theorem replayed_decoded (reads : ReadsPools env replies answer)
    (filed : PoolsFiled store.pools)
    (shuffles : ∀ triggers, (replies.triggerOrder triggers).Perm triggers)
    (samePools : snapshot.pools = store.pools)
    (refreshed : Refreshed env replies latest store snapshot logs refetched)
    (stored : store.pools.lookup address = some before) {patches : List PoolStatePatch}
    (decodes : decodedLogs env.signatureHash snapshot address logs = patches.map some) :
    ∃ later, (markRefetched replies latest refetched).pools.lookup address = some later ∧
      Replayed env replies answer latest snapshot logs before later := by
  have isOwn : before.poolId = address := filed address before stored
  have notAsked : ∀ spec ∈ collectReplayFullRefreshSpecs store.pools
      (buildRefreshBatch env.signatureHash replies.triggerOrder snapshot logs),
        spec.address ≠ address := by
    intro spec member same
    obtain ⟨poolId, pool, asks, isStored, isSpec⟩ :=
      (mem_collectReplayFullRefreshSpecs shuffles spec).mp member
    have sameId : poolId = address := by
      rw [← filed _ _ isStored, ← same, isSpec]
      rfl
    exact not_asksFull_of_decoded decodes (sameId ▸ asks)
  obtain ⟨⟨same, _⟩, fewer⟩ := untouched_of_fetched reads notAsked refreshed
  have states := applyPatches_batch shuffles (samePools ▸ stored) decodes
    (map_fst_stampPatches replies _) (some latest)
  rw [samePools] at states
  obtain ⟨patched, isPatched, state⟩ := Option.map_eq_some_iff.mp states
  refine ⟨markReplayed replies latest patched, ?_, fun others alsoDecodes => ⟨patched, rfl, ?_⟩,
    fun isUndecoded => ?_⟩
  · refine (lookup_markStale_of_notMem (fun listed => nomatch fewer listed) _).trans ?_
    rw [markReplayedPoolsCurrent, HashMap.lookup_mapValues, same, isPatched]
    rfl
  · rw [isOwn, decodes] at alsoDecodes
    rw [state, List.map_injective_iff.mpr (Option.some_injective _) alsoDecodes]
  · rw [isOwn, decodes] at isUndecoded
    obtain ⟨_, _, isNone⟩ := List.mem_map.mp isUndecoded
    cases isNone

end Batch

/-- The replay reads the events of its range and makes of every pool what they say. -/
theorem replayed_of_replay (reads : ReadsPools env replies answer)
    (filed : PoolsFiled store.pools)
    (shuffles : ∀ triggers, (replies.triggerOrder triggers).Perm triggers)
    (ahead : anchor < latest)
    (ran : env.replayCachedPoolStateEvents replies anchor latest store = .ok after)
    {address : Address} {before : PoolState}
    (stored : store.pools.lookup address = some before) :
    ∃ logs, replies.reconcileLogs
        (watchedAddresses (GraphSnapshot.build env.rates 0 none [] store.pools))
        (eventTopics env.signatureHash) (anchor - env.eventBackfillBlocks) latest = .ok logs ∧
      ∃ later, after.pools.lookup address = some later ∧
        Replayed env replies answer latest
          (GraphSnapshot.build env.rates 0 none [] store.pools) logs before later := by
  unfold replayCachedPoolStateEvents at ran
  rw [if_neg (by omega)] at ran
  generalize isSnapshot : GraphSnapshot.build env.rates 0 none [] store.pools = snapshot at ran ⊢
  have samePools : snapshot.pools = store.pools := by
    rw [← isSnapshot]
    rfl
  obtain ⟨batch, isBatch, ran⟩ := bind_eq_ok_iff.mp ran
  obtain ⟨refetched, refreshed, ran⟩ := bind_eq_ok_iff.mp ran
  cases ran
  unfold backfillOnce at isBatch
  have watched : (watchedAddresses snapshot).isEmpty = false :=
    List.isEmpty_eq_false_iff.mpr
      (List.ne_nil_of_mem (mem_watchedAddresses (samePools ▸ stored)))
  dsimp only at isBatch
  rw [watched, Bool.false_or, if_neg (by simp only [decide_eq_true_eq]; omega)] at isBatch
  obtain ⟨logs, areLogs, isBatch⟩ := bind_eq_ok_iff.mp isBatch
  cases isBatch
  refine ⟨logs, areLogs, ?_⟩
  by_cases undecoded : none ∈ decodedLogs env.signatureHash snapshot address logs
  · exact replayed_undecoded reads filed shuffles samePools refreshed stored undecoded
  · obtain ⟨patches, decodes⟩ := exists_map_some_of_notMem undecoded
    exact replayed_decoded reads filed shuffles samePools refreshed stored decodes

/-- An address under which no pool is held is as before the replay. -/
theorem untouched_of_replay (reads : ReadsPools env replies answer)
    (filed : PoolsFiled store.pools)
    (ran : env.replayCachedPoolStateEvents replies anchor latest store = .ok after)
    {address : Address} (absent : store.pools.lookup address = none) :
    after.pools.lookup address = none ∧
      after.skippedPools.lookup address = store.skippedPools.lookup address := by
  unfold replayCachedPoolStateEvents at ran
  split at ran
  · cases ran
    refine ⟨?_, rfl⟩
    dsimp only
    rw [markReplayedPoolsCurrent, HashMap.lookup_mapValues, absent]
    rfl
  · obtain ⟨batch, isBatch, ran⟩ := bind_eq_ok_iff.mp ran
    obtain ⟨refetched, refreshed, ran⟩ := bind_eq_ok_iff.mp ran
    cases ran
    have notAsked : ∀ spec ∈ collectReplayFullRefreshSpecs store.pools batch,
        spec.address ≠ address := by
      intro spec member same
      obtain ⟨pool, found, isSpec⟩ := List.mem_map.mp member
      obtain ⟨poolId, _, stored⟩ := List.mem_filterMap.mp found
      have sameId : poolId = address := by
        rw [← filed _ _ stored, ← same, ← isSpec]
        rfl
      rw [sameId, absent] at stored
      cases stored
    obtain ⟨⟨same, sameSkipped⟩, fewer⟩ := untouched_of_fetched reads notAsked refreshed
    refine ⟨?_, sameSkipped⟩
    refine (lookup_markStale_of_notMem (fun listed => nomatch fewer listed) _).trans ?_
    rw [markReplayedPoolsCurrent, HashMap.lookup_mapValues, same]
    have states := applyPatches_state (some latest) address (stampPatches replies batch)
      store.pools
    rw [absent] at states
    rw [Option.map_eq_none_iff.mp states]
    rfl

/-- The replay holds the pools that were held. -/
theorem isSome_lookup_replay (reads : ReadsPools env replies answer)
    (filed : PoolsFiled store.pools)
    (shuffles : ∀ triggers, (replies.triggerOrder triggers).Perm triggers)
    (ran : env.replayCachedPoolStateEvents replies anchor latest store = .ok after)
    (address : Address) :
    (after.pools.lookup address).isSome = (store.pools.lookup address).isSome := by
  cases stored : store.pools.lookup address with
  | none => rw [(untouched_of_replay reads filed ran stored).1]
  | some before =>
    by_cases ahead : anchor < latest
    · obtain ⟨_, _, later, isLater, _⟩ :=
        replayed_of_replay reads filed shuffles ahead ran stored
      rw [isLater]
      rfl
    · unfold replayCachedPoolStateEvents at ran
      rw [if_pos (Or.inr (by omega))] at ran
      cases ran
      dsimp only
      rw [markReplayedPoolsCurrent, HashMap.lookup_mapValues, stored]
      rfl

end Replay

end BootstrapEnv

end DexArbitrage
