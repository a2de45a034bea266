/-
This file is about what becomes of the discovered pools in a bootstrap. A pool
that is held was kept from the cache or is what its contracts describe, and
admitted. A discovered pool that is not held is on the list of those left out,
which names why, or it is one of a few that the bootstrap passes over.

Two specs may have the same address, so what is said of a spec is said of its
address, and the reason may be that of the other spec.
-/

import DexArbitrage.Lib.Folds
import DexArbitrage.Discovery.Bootstrap
import DexArbitrage.Discovery.PoolFetchExact

namespace DexArbitrage

namespace BootstrapEnv

/-- How the pools of a kind are fetched in batches, if they are. -/
def batchKindOf : AmmKind → Option PoolFetcher.BatchKind
  | .uniswapV2Like => some .v2
  | .aerodromeV2Like => some .aerodromeV2
  | .uniswapV3Like => some .v3
  | .traderJoeLb => some .traderJoeLb
  | .curvePlain | .balancerWeighted => none

theorem batchKindOf_eq_none_iff {kind : AmmKind} :
    batchKindOf kind = none ↔ kind = .curvePlain ∨ kind = .balancerWeighted := by
  cases kind <;> decide

/-- The specs that are fetched in one way. -/
def FetchPlan.specs (plan : FetchPlan) : Option PoolFetcher.BatchKind → List DiscoveredPool
  | some .v2 => plan.v2
  | some .aerodromeV2 => plan.aerodromeV2
  | some .v3 => plan.v3
  | some .traderJoeLb => plan.traderJoeLb
  | none => plan.other

theorem specs_pushFetchSpec (plan : FetchPlan) (spec : DiscoveredPool)
    (kind : Option PoolFetcher.BatchKind) :
    (pushFetchSpec plan spec).specs kind =
      plan.specs kind ++ if batchKindOf spec.ammKind = kind then [spec] else [] := by
  cases isKind : spec.ammKind <;> rcases kind with _ | (_ | _ | _ | _) <;>
    simp [pushFetchSpec, FetchPlan.specs, batchKindOf, isKind]

section Fates

variable {env : BootstrapEnv} {replies : BootstrapReplies} {start : Start} {replay : Bool}
  {round : FetchRound} {answer : Address × PoolCall → Option Bytes}
  {discovered : List DiscoveredPool}

variable (env replies start replay) in
/-- The cache has the pool of a spec, and it is good enough to go on with. -/
structure KeptFromCache (spec : DiscoveredPool) (pool : PoolState) : Prop where
  cached : start.cachedPools.lookup spec.address = some pool
  same : poolMatchesSpec pool spec = true
  usable : env.admitPool replies pool = true ∨
    replay = true ∧ pool.health.stale = false ∧ env.admission.shouldRefreshCached pool = true

variable (env replies answer) in
/-- All that is read of pools in batches is as the chain has it. -/
def ReadsPools : Prop :=
  ∀ phase kind moment, PoolFetcher.ReadsChain env.fetcher (replies.batchReads phase kind moment)
    answer

variable (env replies round answer) in
/-- The pool is what the round finds for a spec: what its contracts describe, but for the fee of an
Aerodrome pool when the multicall for the fees of its chunk fails. -/
def Found (spec : DiscoveredPool) (pool : PoolState) : Prop :=
  match batchKindOf spec.ammKind with
  | some kind => env.fetcher.Describes answer round.blockNumber kind spec pool ∨
      env.fetcher.Excused (round.reads replies kind) answer round.blockNumber kind
        (round.toFetch.specs (some kind)) spec pool
  | none => ∃ position, (spec, position) ∈ (round.toFetch.specs none).zipIdx ∧
      env.fetchOther replies round (spec, position) = .ok (some pool)

variable (env replies round answer) in
/-- Nothing is found for a spec, or it cannot be read. -/
def NotFound (spec : DiscoveredPool) : Prop :=
  match batchKindOf spec.ammKind with
  | some kind => (∀ pool, ¬ env.fetcher.Describes answer round.blockNumber kind spec pool) ∨
      ∃ position err, (spec, position) ∈ (round.toFetch.specs (some kind)).zipIdx ∧
        env.fetcher.fetchKind (round.reads replies kind (.spec position)) round.blockNumber kind
          spec = .error err
  | none => ∃ position, (spec, position) ∈ (round.toFetch.specs none).zipIdx ∧
      ∀ pool, env.fetchOther replies round (spec, position) ≠ .ok (some pool)

variable (env replies start round answer discovered) in
/-- Why the pool of a spec need not be held. -/
inductive PassedOver (spec : DiscoveredPool) : Prop
  | unusable (other : DiscoveredPool) (pool : PoolState) (isDiscovered : other ∈ discovered)
      (address : other.address = spec.address)
      (cached : start.cachedPools.lookup spec.address = some pool)
      (same : poolMatchesSpec pool other = true)
      (refused : env.admission.shouldRefreshCached pool = false)
  | refused (other : DiscoveredPool) (pool : PoolState) (isDiscovered : other ∈ discovered)
      (address : other.address = spec.address)
      (found : Found env replies round answer other pool)
      (refused : env.admitPool replies pool = false)
  | unseen (other : DiscoveredPool) (isDiscovered : other ∈ discovered)
      (address : other.address = spec.address) (unseen : env.fetchesUnseen start = false)
      (many : isHighCardinalityPoolKind other.ammKind = true) (ordinary : other.priority = false)

variable (env replies start round answer discovered) in
/-- What becomes of a discovered pool. -/
inductive Fate (store : PoolStore) (spec : DiscoveredPool) : Prop
  | held (pool : PoolState) (stored : store.pools.lookup spec.address = some pool)
  | leftOut (entry : SkippedPoolCacheEntry)
      (listed : store.skippedPools.lookup spec.address = some entry)
      (known : start.skippedPools.lookup spec.address = some entry)
      (same : skippedPoolMatchesSpec entry spec = true)
      (applies : skippedPoolCacheAppliesToSpec entry spec = true)
  | notFound (entry : SkippedPoolCacheEntry)
      (listed : store.skippedPools.lookup spec.address = some entry)
      (isDiscovered : entry.spec ∈ discovered) (address : entry.spec.address = spec.address)
      (missing : NotFound env replies round answer entry.spec)
  | passedOver (why : PassedOver env replies start round answer discovered spec)

/-- The fate of a pool is told by what is stored under its address. -/
theorem Fate.congr {before after : PoolStore} {spec : DiscoveredPool}
    (fate : Fate env replies start round answer discovered before spec)
    (pools : after.pools.lookup spec.address = before.pools.lookup spec.address)
    (skipped : after.skippedPools.lookup spec.address =
      before.skippedPools.lookup spec.address) :
    Fate env replies start round answer discovered after spec := by
  cases fate with
  | held pool stored => exact .held pool (pools.trans stored)
  | leftOut entry listed known same applies =>
    exact .leftOut entry (skipped.trans listed) known same applies
  | notFound entry listed isDiscovered address missing =>
    exact .notFound entry (skipped.trans listed) isDiscovered address missing
  | passedOver why => exact .passedOver why

/-! ### What the loop over the discovered pools does -/

/-- The store, possibly without the entry for an address on the list of those left out. -/
structure Trimmed (before : PoolStore) (address : Address) (after : PoolStore) : Prop where
  pools : after.pools = before.pools
  skippedPools : after.skippedPools = before.skippedPools ∨
    after.skippedPools = before.skippedPools.erase address

variable (env replies start replay) in
/-- What one round does. -/
inductive PlanStep (before : Planning) (spec : DiscoveredPool) : Planning → Prop
  | kept (pool : PoolState) (cached : before.cachedPools.lookup spec.address = some pool)
      (same : poolMatchesSpec pool spec = true)
      (usable : env.admitPool replies pool = true ∨ replay = true ∧ pool.health.stale = false ∧
        env.admission.shouldRefreshCached pool = true) :
      PlanStep before spec
        { before with
          store := before.store.insertPool pool
          cachedPools := before.cachedPools.erase spec.address }
  | asked (store : PoolStore) (trimmed : Trimmed before.store spec.address store) :
      PlanStep before spec
        { store
          cachedPools := before.cachedPools.erase spec.address
          toFetch := pushFetchSpec before.toFetch spec }
  | unusable (pool : PoolState) (cached : before.cachedPools.lookup spec.address = some pool)
      (same : poolMatchesSpec pool spec = true)
      (refused : env.admission.shouldRefreshCached pool = false) :
      PlanStep before spec
        { before with cachedPools := before.cachedPools.erase spec.address }
  | leftOut (entry : SkippedPoolCacheEntry)
      (listed : before.store.skippedPools.lookup spec.address = some entry)
      (same : skippedPoolMatchesSpec entry spec = true)
      (applies : skippedPoolCacheAppliesToSpec entry spec = true) :
      PlanStep before spec
        { before with cachedPools := before.cachedPools.erase spec.address }
  | passedOver (store : PoolStore) (trimmed : Trimmed before.store spec.address store)
      (unseen : env.fetchesUnseen start = false)
      (many : isHighCardinalityPoolKind spec.ammKind = true) (ordinary : spec.priority = false) :
      PlanStep before spec
        { before with store, cachedPools := before.cachedPools.erase spec.address }

theorem planStep_planUnseen (before : Planning) (spec : DiscoveredPool) (store : PoolStore)
    (trimmed : Trimmed before.store spec.address store) :
    PlanStep env replies start replay before spec
      (env.planUnseen start
        { before with store, cachedPools := before.cachedPools.erase spec.address } spec) := by
  unfold planUnseen
  split
  · rename_i passes
    rw [Bool.and_eq_true, Bool.and_eq_true, Bool.not_eq_true', Bool.not_eq_true'] at passes
    exact .passedOver store trimmed passes.1.1 passes.1.2 passes.2
  · exact .asked store trimmed

theorem planStep_planSpec (before : Planning) (spec : DiscoveredPool) :
    PlanStep env replies start replay before spec
      (env.planSpec replies start replay before spec) := by
  unfold planSpec
  dsimp only
  split
  · rename_i pool isCached
    obtain ⟨cached, same⟩ := Option.filter_eq_some_iff.mp isCached
    unfold planCached
    split
    · rename_i admitted
      exact .kept pool cached same (Or.inl admitted)
    · split
      · rename_i fresh
        rw [Bool.and_eq_true, Bool.and_eq_true, Bool.not_eq_true'] at fresh
        exact .kept pool cached same (Or.inr ⟨fresh.1.1, fresh.1.2, fresh.2⟩)
      · split
        · exact .asked before.store ⟨rfl, Or.inl rfl⟩
        · rename_i refused
          exact .unusable pool cached same (Bool.eq_false_of_not_eq_true refused)
  · split
    · rename_i entry listed
      split
      · rename_i hit
        rw [Bool.and_eq_true] at hit
        exact .leftOut entry listed hit.1 hit.2
      · exact planStep_planUnseen before spec _ ⟨rfl, Or.inr rfl⟩
    · exact planStep_planUnseen before spec before.store ⟨rfl, Or.inl rfl⟩

theorem Trimmed.lookup {before after : PoolStore} {address : Address}
    (trimmed : Trimmed before address after) (other : Address) :
    after.skippedPools.lookup other = before.skippedPools.lookup other ∨
      other = address ∧ after.skippedPools.lookup other = none := by
  rcases trimmed.skippedPools with same | erased
  · exact Or.inl (by rw [same])
  · rw [erased, HashMap.lookup_erase]
    split
    · rename_i same
      exact Or.inr ⟨same, rfl⟩
    · exact Or.inl rfl

/-! ### What the plan has of the caches and of the discovered pools -/

variable (env replies start replay discovered) in
structure PlanSound (planning : Planning) : Prop where
  cached : ∀ address pool, planning.cachedPools.lookup address = some pool →
    start.cachedPools.lookup address = some pool
  skipped : ∀ address entry, planning.store.skippedPools.lookup address = some entry →
    start.skippedPools.lookup address = some entry
  held : ∀ address pool, planning.store.pools.lookup address = some pool →
    ∃ spec ∈ discovered, spec.address = address ∧ KeptFromCache env replies start replay spec pool
  asked : ∀ kind, ∀ spec ∈ planning.toFetch.specs kind,
    spec ∈ discovered ∧ batchKindOf spec.ammKind = kind

theorem Trimmed.of_start {before after : PoolStore} {address : Address}
    (trimmed : Trimmed before address after)
    (skipped : ∀ address entry, before.skippedPools.lookup address = some entry →
      start.skippedPools.lookup address = some entry) :
    ∀ address entry, after.skippedPools.lookup address = some entry →
      start.skippedPools.lookup address = some entry := by
  intro other entry listed
  rcases trimmed.lookup other with same | ⟨_, gone⟩
  · exact skipped other entry (same ▸ listed)
  · rw [gone] at listed
    cases listed

theorem poolId_of_matches {pool : PoolState} {spec : DiscoveredPool}
    (same : poolMatchesSpec pool spec = true) : pool.poolId = spec.address := by
  unfold poolMatchesSpec at same
  simp only [Bool.and_eq_true, decide_eq_true_eq] at same
  exact same.1.1.1.1.1.1

theorem lookup_insertPool (store : PoolStore) (pool : PoolState) (address : Address) :
    (store.insertPool pool).pools.lookup address =
      if address = pool.poolId then some pool else store.pools.lookup address :=
  HashMap.lookup_insert store.pools pool.poolId address pool

theorem PlanSound.step {before after : Planning}
    (sound : PlanSound env replies start replay discovered before) {spec : DiscoveredPool}
    (isDiscovered : spec ∈ discovered)
    (taken : PlanStep env replies start replay before spec after) :
    PlanSound env replies start replay discovered after := by
  have cached : ∀ address pool,
      AList.lookup address (before.cachedPools.erase spec.address) = some pool →
        start.cachedPools.lookup address = some pool := by
    intro address pool found
    rw [HashMap.lookup_erase] at found
    split at found
    · cases found
    · exact sound.cached address pool found
  cases taken with
  | kept pool found same usable =>
    refine ⟨cached, sound.skipped, fun address held stored => ?_, sound.asked⟩
    dsimp only at stored
    rw [lookup_insertPool] at stored
    split at stored
    · rename_i isOwn
      cases stored
      exact ⟨spec, isDiscovered, (isOwn.trans (poolId_of_matches same)).symm,
        sound.cached _ _ found, same, usable⟩
    · exact sound.held address held stored
  | asked store trimmed =>
    refine ⟨cached, trimmed.of_start sound.skipped, fun address held stored => ?_,
      fun kind other asked => ?_⟩
    · dsimp only at stored
      rw [trimmed.pools] at stored
      exact sound.held address held stored
    · dsimp only at asked
      rw [specs_pushFetchSpec, List.mem_append] at asked
      rcases asked with before | new
      · exact sound.asked kind other before
      · split at new
        · rename_i isKind
          rw [List.mem_singleton] at new
          rw [new]
          exact ⟨isDiscovered, isKind⟩
        · cases new
  | unusable pool found same refused => exact ⟨cached, sound.skipped, sound.held, sound.asked⟩
  | leftOut entry listed same applies => exact ⟨cached, sound.skipped, sound.held, sound.asked⟩
  | passedOver store trimmed unseen many ordinary =>
    refine ⟨cached, trimmed.of_start sound.skipped, fun address held stored => ?_, sound.asked⟩
    dsimp only at stored
    rw [trimmed.pools] at stored
    exact sound.held address held stored

/-! ### What the plan has for each discovered pool -/

variable (env replies start round answer discovered) in
/-- The pool has its fate, or the bootstrap is to fetch it. -/
def Planned (planning : Planning) (spec : DiscoveredPool) : Prop :=
  Fate env replies start round answer discovered planning.store spec ∨
    ∃ other ∈ planning.toFetch.specs (batchKindOf other.ammKind), other.address = spec.address

theorem mem_pushFetchSpec {plan : FetchPlan} {spec other : DiscoveredPool}
    {kind : Option PoolFetcher.BatchKind} (asked : other ∈ plan.specs kind) :
    other ∈ (pushFetchSpec plan spec).specs kind := by
  rw [specs_pushFetchSpec]
  exact List.mem_append_left _ asked

theorem mem_pushFetchSpec_self (plan : FetchPlan) (spec : DiscoveredPool) :
    spec ∈ (pushFetchSpec plan spec).specs (batchKindOf spec.ammKind) := by
  rw [specs_pushFetchSpec, if_pos rfl]
  exact List.mem_append_right _ List.mem_cons_self

/-- After its round, a pool is planned. -/
theorem planned_own {before after : Planning} {spec : DiscoveredPool}
    (sound : PlanSound env replies start replay discovered before)
    (isDiscovered : spec ∈ discovered)
    (taken : PlanStep env replies start replay before spec after) :
    Planned env replies start round answer discovered after spec := by
  cases taken with
  | kept pool cached same usable =>
    refine Or.inl (.held pool ?_)
    dsimp only
    rw [lookup_insertPool, if_pos (poolId_of_matches same).symm]
  | asked store trimmed => exact Or.inr ⟨spec, mem_pushFetchSpec_self _ spec, rfl⟩
  | unusable pool cached same refused =>
    exact Or.inl (.passedOver (.unusable spec pool isDiscovered rfl
      (sound.cached _ _ cached) same refused))
  | leftOut entry listed same applies =>
    exact Or.inl (.leftOut entry listed (sound.skipped _ _ listed) same applies)
  | passedOver store trimmed unseen many ordinary =>
    exact Or.inl (.passedOver (.unseen spec isDiscovered rfl unseen many ordinary))

/-- A round for another address changes nothing for a pool that is planned. -/
theorem Planned.other {before after : Planning} {spec rounded : DiscoveredPool}
    (planned : Planned env replies start round answer discovered before spec)
    (taken : PlanStep env replies start replay before rounded after)
    (other : rounded.address ≠ spec.address) :
    Planned env replies start round answer discovered after spec := by
  have frame : after.store.pools.lookup spec.address =
      before.store.pools.lookup spec.address ∧
        after.store.skippedPools.lookup spec.address =
          before.store.skippedPools.lookup spec.address ∧
        ∀ kind, ∀ asked ∈ before.toFetch.specs kind, asked ∈ after.toFetch.specs kind := by
    have untrimmed : ∀ {store}, Trimmed before.store rounded.address store →
        store.skippedPools.lookup spec.address =
          before.store.skippedPools.lookup spec.address := by
      intro store trimmed
      rcases trimmed.lookup spec.address with same | ⟨own, _⟩
      · exact same
      · exact absurd own.symm other
    cases taken with
    | kept pool cached same usable =>
      refine ⟨?_, rfl, fun _ _ asked => asked⟩
      dsimp only
      rw [lookup_insertPool, if_neg]
      intro own
      exact other ((poolId_of_matches same).symm.trans own.symm)
    | asked store trimmed =>
      exact ⟨by rw [trimmed.pools], untrimmed trimmed, fun _ _ asked => mem_pushFetchSpec asked⟩
    | unusable pool cached same refused => exact ⟨rfl, rfl, fun _ _ asked => asked⟩
    | leftOut entry listed same applies => exact ⟨rfl, rfl, fun _ _ asked => asked⟩
    | passedOver store trimmed unseen many ordinary =>
      exact ⟨by rw [trimmed.pools], untrimmed trimmed, fun _ _ asked => asked⟩
  rcases planned with fate | ⟨asked, inPlan, address⟩
  · exact Or.inl (fate.congr frame.1 frame.2.1)
  · exact Or.inr ⟨asked, frame.2.2 _ asked inPlan, address⟩

/-- What is said of a pool is said of its address, but for an entry that names its spec. -/
theorem Planned.sameAddress {before after : Planning} {spec rounded : DiscoveredPool}
    (planned : Planned env replies start round answer discovered before spec)
    (sound : PlanSound env replies start replay discovered before)
    (isDiscovered : rounded ∈ discovered)
    (taken : PlanStep env replies start replay before rounded after)
    (same : rounded.address = spec.address) :
    Planned env replies start round answer discovered after spec := by
  cases taken with
  | kept pool cached matched usable =>
    refine Or.inl (.held pool ?_)
    dsimp only
    rw [lookup_insertPool, if_pos (same.symm.trans (poolId_of_matches matched).symm)]
  | asked store trimmed => exact Or.inr ⟨rounded, mem_pushFetchSpec_self _ rounded, same⟩
  | unusable pool cached matched refused =>
    exact Or.inl (.passedOver (.unusable rounded pool isDiscovered same
      (same ▸ sound.cached _ _ cached) matched refused))
  | leftOut entry listed matched applies => exact planned
  | passedOver store trimmed unseen many ordinary =>
    exact Or.inl (.passedOver (.unseen rounded isDiscovered same unseen many ordinary))

variable (env replies start replay discovered) in
/-- The plan that a bootstrap starts with. -/
theorem planSound_start : PlanSound env replies start replay discovered
    { store := { pools := ∅, skippedPools := start.skippedPools }
      cachedPools := start.cachedPools
      toFetch := .empty } := by
  refine ⟨fun _ _ cached => cached, fun _ _ listed => listed, fun _ _ stored => ?_, ?_⟩
  · cases stored
  · rintro (_ | _ | _ | _ | _) spec asked <;> cases asked

variable (env replies start replay discovered) in
theorem planSound_plan :
    PlanSound env replies start replay discovered (env.plan replies start replay discovered) :=
  foldl_keeps (PlanSound env replies start replay discovered)
    (fun spec isDiscovered before sound =>
      sound.step isDiscovered (planStep_planSpec before spec))
    (planSound_start env replies start replay discovered)

variable (env replies start replay round answer) in
/-- The plan has a fate or a fetch for every discovered pool. -/
theorem planned_plan {spec : DiscoveredPool} (isDiscovered : spec ∈ discovered) :
    Planned env replies start round answer discovered
      (env.plan replies start replay discovered) spec := by
  refine foldl_establishes (PlanSound env replies start replay discovered)
    (fun planning => Planned env replies start round answer discovered planning spec)
    (fun rounded member before sound => sound.step member (planStep_planSpec before rounded))
    (fun rounded member before sound planned => ?_) isDiscovered
    (fun before sound => planned_own sound isDiscovered (planStep_planSpec before spec))
    (planSound_start env replies start replay discovered)
  by_cases same : rounded.address = spec.address
  · exact planned.sameAddress sound member (planStep_planSpec before rounded) same
  · exact planned.other (planStep_planSpec before rounded) same

/-! ### What the fetches bring -/

theorem Found.poolId {spec : DiscoveredPool} {pool : PoolState}
    (found : Found env replies round answer spec pool) : pool.poolId = spec.address := by
  unfold Found at found
  cases isKind : batchKindOf spec.ammKind with
  | some kind =>
    rw [isKind] at found
    rcases found with described | excused
    · exact described.poolId
    · exact excused.poolId
  | none =>
    rw [isKind] at found
    obtain ⟨position, _, fetched⟩ := found
    obtain ⟨attempt, fetched⟩ := PoolFetcher.exists_attempt_of_fetchPoolWithRetries fetched
    exact PoolFetcher.poolId_of_fetchPool (batchKindOf_eq_none_iff.mp isKind) fetched

variable (env replies round answer) in
/-- A batch has a pool or an entry on the list for each of its specs, and nothing else. -/
structure BatchCovers (specs : List DiscoveredPool) (batch : PoolFetchBatch) : Prop where
  skipped : ∀ skipped ∈ batch.skipped, skipped.spec ∈ specs ∧
    NotFound env replies round answer skipped.spec
  pools : ∀ pool ∈ batch.pools, ∃ spec ∈ specs, Found env replies round answer spec pool
  covers : ∀ spec ∈ specs, (∃ pool ∈ batch.pools,
    Found env replies round answer spec pool) ∨
      ∃ skipped ∈ batch.skipped, skipped.spec = spec

theorem batchCovers (reads : ReadsPools env replies answer) {kind : PoolFetcher.BatchKind}
    (kinds : ∀ spec ∈ round.toFetch.specs (some kind), batchKindOf spec.ammKind = some kind)
    {batch : PoolFetchBatch}
    (fetched : env.fetcher.fetchBatch (round.reads replies kind) round.blockNumber kind
      (round.toFetch.specs (some kind)) = .ok batch) :
    BatchCovers env replies round answer (round.toFetch.specs (some kind)) batch := by
  obtain ⟨outcomes, right, same⟩ :=
    PoolFetcher.exact_of_fetchBatch round.blockNumber (reads round.phase kind) fetched
  have isSpec : ∀ {spec position}, (spec, position) ∈ (round.toFetch.specs (some kind)).zipIdx →
      spec ∈ round.toFetch.specs (some kind) := fun placed => mem_of_mem_zipIdx placed
  have found : ∀ entry ∈ outcomes, ∀ pool, entry.2 = .ok pool →
      entry.1 ∈ round.toFetch.specs (some kind) ∧
        Found env replies round answer entry.1 pool := by
    intro entry member pool isPool
    obtain ⟨position, placed, isRight⟩ := right.exists_placed member
    refine ⟨isSpec placed, ?_⟩
    unfold Found
    rw [kinds entry.1 (isSpec placed)]
    exact isRight.described pool isPool
  have notFound : ∀ entry ∈ outcomes, ∀ reason, entry.2 = .error reason →
      entry.1 ∈ round.toFetch.specs (some kind) ∧
        NotFound env replies round answer entry.1 := by
    intro entry member reason isReason
    obtain ⟨position, placed, isRight⟩ := right.exists_placed member
    refine ⟨isSpec placed, ?_⟩
    unfold NotFound
    rw [kinds entry.1 (isSpec placed)]
    by_cases described :
        ∃ pool, env.fetcher.Describes answer round.blockNumber kind entry.1 pool
    · obtain ⟨pool, isDescribed⟩ := described
      obtain ⟨err, failed⟩ := isRight.missed reason pool isReason isDescribed
      exact Or.inr ⟨position, err, placed, failed⟩
    · exact Or.inl fun pool isDescribed => described ⟨pool, isDescribed⟩
  rw [same]
  refine ⟨fun skipped member => ?_, fun pool member => ?_, fun spec member => ?_⟩
  · obtain ⟨entry, inOutcomes, isSkipped⟩ := List.mem_filterMap.mp member
    split at isSkipped
    · cases isSkipped
    · rename_i reason isReason
      cases isSkipped
      exact notFound entry inOutcomes reason isReason
  · obtain ⟨entry, inOutcomes, isPool⟩ := List.mem_filterMap.mp member
    refine ⟨entry.1, found entry inOutcomes pool ?_⟩
    cases outcome : entry.2 with
    | error reason =>
      rw [outcome] at isPool
      cases isPool
    | ok other =>
      rw [outcome] at isPool
      cases isPool
      rfl
  · obtain ⟨position, placed⟩ := exists_mem_zipIdx member
    obtain ⟨outcome, inOutcomes, _⟩ := right.exists_outcome placed
    cases outcome with
    | error reason =>
      refine Or.inr ⟨{ spec, reason }, ?_, rfl⟩
      exact List.mem_filterMap.mpr ⟨_, inOutcomes, rfl⟩
    | ok pool =>
      refine Or.inl ⟨pool, ?_, (found _ inOutcomes pool rfl).2⟩
      exact List.mem_filterMap.mpr ⟨_, inOutcomes, rfl⟩

/-! ### What the fetches store -/

theorem lookup_keepPool (store : PoolStore) (pool : PoolState) (address : Address) :
    (keepPool store pool).pools.lookup address =
      if address = pool.poolId then some pool else store.pools.lookup address :=
  lookup_insertPool _ pool address

theorem lookup_skipped_keepPool (store : PoolStore) (pool : PoolState) (address : Address) :
    (keepPool store pool).skippedPools.lookup address =
      if address = pool.poolId then none else store.skippedPools.lookup address :=
  HashMap.lookup_erase store.skippedPools pool.poolId address

theorem lookup_insertSkippedPoolReason (store : PoolStore) (spec : DiscoveredPool)
    (reason : String) (address : Address) :
    (insertSkippedPoolReason replies store spec reason).skippedPools.lookup address =
      if address = spec.address then
        some { spec, reason, skippedAtUnixSecs := replies.unixClock spec.address }
      else
        store.skippedPools.lookup address :=
  HashMap.lookup_insert store.skippedPools spec.address address _

theorem Fate.keepPool {store : PoolStore} {spec : DiscoveredPool}
    (fate : Fate env replies start round answer discovered store spec)
    (pool : PoolState) :
    Fate env replies start round answer discovered (keepPool store pool) spec := by
  by_cases own : spec.address = pool.poolId
  · exact .held pool (by rw [lookup_keepPool, if_pos own])
  · exact fate.congr (by rw [lookup_keepPool, if_neg own])
      (by rw [lookup_skipped_keepPool, if_neg own])

theorem Fate.keepIfAdmitted {store : PoolStore} {spec : DiscoveredPool}
    (fate : Fate env replies start round answer discovered store spec)
    (pool : PoolState) :
    Fate env replies start round answer discovered
      (env.keepIfAdmitted replies store pool) spec := by
  unfold BootstrapEnv.keepIfAdmitted
  split
  · exact fate.keepPool pool
  · exact fate

theorem fate_keepIfAdmitted (store : PoolStore) {spec other : DiscoveredPool}
    {pool : PoolState} (isDiscovered : other ∈ discovered) (address : other.address = spec.address)
    (found : Found env replies round answer other pool) :
    Fate env replies start round answer discovered
      (env.keepIfAdmitted replies store pool) spec := by
  unfold keepIfAdmitted
  split
  · refine .held pool ?_
    rw [lookup_keepPool, if_pos (address.symm.trans found.poolId.symm)]
  · rename_i refused
    exact .passedOver (.refused other pool isDiscovered address found
      (Bool.eq_false_of_not_eq_true refused))

theorem fate_insertSkippedPoolReason (store : PoolStore) {spec other : DiscoveredPool}
    (reason : String) (isDiscovered : other ∈ discovered)
    (address : other.address = spec.address)
    (missing : NotFound env replies round answer other) :
    Fate env replies start round answer discovered
      (insertSkippedPoolReason replies store other reason) spec := by
  refine .notFound
    { spec := other, reason, skippedAtUnixSecs := replies.unixClock other.address } ?_
    isDiscovered address missing
  rw [lookup_insertSkippedPoolReason, if_pos address.symm]

theorem Fate.insertSkippedPoolReason {store : PoolStore} {spec other : DiscoveredPool}
    (fate : Fate env replies start round answer discovered store spec) (reason : String)
    (isDiscovered : other ∈ discovered)
    (missing : NotFound env replies round answer other) :
    Fate env replies start round answer discovered
      (insertSkippedPoolReason replies store other reason) spec := by
  by_cases own : other.address = spec.address
  · exact fate_insertSkippedPoolReason store reason isDiscovered own missing
  · refine fate.congr rfl ?_
    rw [lookup_insertSkippedPoolReason, if_neg (Ne.symm own)]

section Stored

variable {specs : List DiscoveredPool} {batch : PoolFetchBatch}

theorem Fate.storeBatch {store : PoolStore} {spec : DiscoveredPool}
    (fate : Fate env replies start round answer discovered store spec)
    (covers : BatchCovers env replies round answer specs batch)
    (discoveredSpecs : ∀ spec ∈ specs, spec ∈ discovered) :
    Fate env replies start round answer discovered
      (env.storeBatch replies store batch) spec := by
  refine foldl_keeps (Fate env replies start round answer discovered · spec)
    (fun pool _ now fateNow => fateNow.keepIfAdmitted pool) ?_
  refine foldl_keeps (Fate env replies start round answer discovered · spec)
    (fun skipped member now fateNow => ?_) fate
  obtain ⟨inSpecs, missing⟩ := covers.skipped skipped member
  exact fateNow.insertSkippedPoolReason skipped.reason (discoveredSpecs _ inSpecs) missing

/-- After its batch, a pool has its fate. -/
theorem fate_storeBatch (store : PoolStore) {spec other : DiscoveredPool}
    (covers : BatchCovers env replies round answer specs batch)
    (discoveredSpecs : ∀ spec ∈ specs, spec ∈ discovered) (member : other ∈ specs)
    (address : other.address = spec.address) :
    Fate env replies start round answer discovered
      (env.storeBatch replies store batch) spec := by
  rcases covers.covers other member with ⟨pool, inPools, found⟩ | ⟨skipped, inSkipped, isOther⟩
  · exact foldl_reaches (Fate env replies start round answer discovered · spec)
      (fun pool _ now fateNow => fateNow.keepIfAdmitted pool) inPools
      (fun now => fate_keepIfAdmitted now (discoveredSpecs _ member) address found) _
  · refine foldl_keeps (Fate env replies start round answer discovered · spec)
      (fun pool _ now fateNow => fateNow.keepIfAdmitted pool) ?_
    refine foldl_reaches (Fate env replies start round answer discovered · spec)
      (fun entry isEntry now fateNow => ?_) inSkipped (fun now => ?_) store
    · obtain ⟨inSpecs, missing⟩ := covers.skipped entry isEntry
      exact fateNow.insertSkippedPoolReason entry.reason (discoveredSpecs _ inSpecs) missing
    · obtain ⟨_, missing⟩ := covers.skipped skipped inSkipped
      exact fate_insertSkippedPoolReason now skipped.reason
        (isOther ▸ discoveredSpecs _ member) (isOther ▸ address) missing

end Stored

section Others

variable {placed : PlacedSpec}

theorem notFound_of_fetchOther (isKind : batchKindOf placed.1.ammKind = none)
    (isPlaced : placed ∈ (round.toFetch.specs none).zipIdx)
    (missing : ∀ pool, env.fetchOther replies round placed ≠ .ok (some pool)) :
    NotFound env replies round answer placed.1 := by
  unfold NotFound
  rw [isKind]
  exact ⟨placed.2, isPlaced, missing⟩

theorem found_of_fetchOther (isKind : batchKindOf placed.1.ammKind = none)
    (isPlaced : placed ∈ (round.toFetch.specs none).zipIdx) {pool : PoolState}
    (found : env.fetchOther replies round placed = .ok (some pool)) :
    Found env replies round answer placed.1 pool := by
  unfold Found
  rw [isKind]
  exact ⟨placed.2, isPlaced, found⟩

theorem Fate.storeOther {store : PoolStore} {spec : DiscoveredPool}
    (fate : Fate env replies start round answer discovered store spec)
    (isDiscovered : placed.1 ∈ discovered) (isKind : batchKindOf placed.1.ammKind = none)
    (isPlaced : placed ∈ (round.toFetch.specs none).zipIdx) :
    Fate env replies start round answer discovered
      (env.storeOther replies round store placed) spec := by
  unfold BootstrapEnv.storeOther
  split
  · exact fate.keepIfAdmitted _
  · rename_i fetched
    exact fate.insertSkippedPoolReason _ isDiscovered
      (notFound_of_fetchOther isKind isPlaced fun pool found => by
        rw [fetched] at found
        cases found)
  · rename_i fetched
    exact fate.insertSkippedPoolReason _ isDiscovered
      (notFound_of_fetchOther isKind isPlaced fun pool found => by
        rw [fetched] at found
        cases found)

theorem fate_storeOther (store : PoolStore) {spec : DiscoveredPool}
    (isDiscovered : placed.1 ∈ discovered) (isKind : batchKindOf placed.1.ammKind = none)
    (isPlaced : placed ∈ (round.toFetch.specs none).zipIdx)
    (address : placed.1.address = spec.address) :
    Fate env replies start round answer discovered
      (env.storeOther replies round store placed) spec := by
  unfold storeOther
  split
  · rename_i pool fetched
    exact fate_keepIfAdmitted store isDiscovered address
      (found_of_fetchOther isKind isPlaced fetched)
  · rename_i fetched
    exact fate_insertSkippedPoolReason store _ isDiscovered address
      (notFound_of_fetchOther isKind isPlaced fun pool found => by
        rw [fetched] at found
        cases found)
  · rename_i fetched
    exact fate_insertSkippedPoolReason store _ isDiscovered address
      (notFound_of_fetchOther isKind isPlaced fun pool found => by
        rw [fetched] at found
        cases found)

end Others

/-! ### All fetches -/

def batchKinds : List PoolFetcher.BatchKind :=
  [.v2, .aerodromeV2, .v3, .traderJoeLb]

theorem mem_batchKinds (kind : PoolFetcher.BatchKind) : kind ∈ batchKinds := by
  cases kind <;> decide

/-- The batch of each kind. -/
def batchOf (v2 aerodromeV2 v3 traderJoeLb : PoolFetchBatch) :
    PoolFetcher.BatchKind → PoolFetchBatch
  | .v2 => v2
  | .aerodromeV2 => aerodromeV2
  | .v3 => v3
  | .traderJoeLb => traderJoeLb

/-- The fetches that succeed are one batch for each kind, and the others one by one. -/
theorem exists_batches {store after : PoolStore}
    (fetched : env.fetchPlanned replies round store = .ok after) :
    ∃ batches : PoolFetcher.BatchKind → PoolFetchBatch,
      (∀ kind, env.fetcher.fetchBatch (round.reads replies kind) round.blockNumber kind
        (round.toFetch.specs (some kind)) = .ok (batches kind)) ∧
      after = (round.toFetch.specs none).zipIdx.foldl (env.storeOther replies round)
        (batchKinds.foldl (fun store kind => env.storeBatch replies store (batches kind))
          store) := by
  obtain ⟨v2, isV2, fetched⟩ := bind_eq_ok_iff.mp fetched
  obtain ⟨aerodromeV2, isAerodromeV2, fetched⟩ := bind_eq_ok_iff.mp fetched
  obtain ⟨v3, isV3, fetched⟩ := bind_eq_ok_iff.mp fetched
  obtain ⟨traderJoeLb, isTraderJoeLb, fetched⟩ := bind_eq_ok_iff.mp fetched
  cases fetched
  refine ⟨batchOf v2 aerodromeV2 v3 traderJoeLb, fun kind => ?_, rfl⟩
  cases kind with
  | v2 => exact isV2
  | aerodromeV2 => exact isAerodromeV2
  | v3 => exact isV3
  | traderJoeLb => exact isTraderJoeLb

variable (env replies start replay round answer discovered) in
/-- Every pool that is held was kept from the cache, or it was found and admitted. -/
def HeldFound (store : PoolStore) : Prop :=
  ∀ address pool, store.pools.lookup address = some pool →
    ∃ spec ∈ discovered, spec.address = address ∧
      (KeptFromCache env replies start replay spec pool ∨
        Found env replies round answer spec pool ∧ env.admitPool replies pool = true)

theorem HeldFound.keepIfAdmitted {store : PoolStore}
    (held : HeldFound env replies start replay round answer discovered store)
    {spec : DiscoveredPool} (isDiscovered : spec ∈ discovered) {pool : PoolState}
    (found : Found env replies round answer spec pool) :
    HeldFound env replies start replay round answer discovered
      (env.keepIfAdmitted replies store pool) := by
  unfold BootstrapEnv.keepIfAdmitted
  split
  · rename_i admitted
    intro address other stored
    rw [lookup_keepPool] at stored
    split at stored
    · rename_i own
      cases stored
      exact ⟨spec, isDiscovered, (own.trans found.poolId).symm, Or.inr ⟨found, admitted⟩⟩
    · exact held address other stored
  · exact held

theorem HeldFound.storeBatch {store : PoolStore} {specs : List DiscoveredPool}
    {batch : PoolFetchBatch}
    (held : HeldFound env replies start replay round answer discovered store)
    (covers : BatchCovers env replies round answer specs batch)
    (discoveredSpecs : ∀ spec ∈ specs, spec ∈ discovered) :
    HeldFound env replies start replay round answer discovered
      (env.storeBatch replies store batch) := by
  refine foldl_keeps (HeldFound env replies start replay round answer discovered)
    (fun pool member now heldNow => ?_) ?_
  · obtain ⟨spec, inSpecs, found⟩ := covers.pools pool member
    exact heldNow.keepIfAdmitted (discoveredSpecs spec inSpecs) found
  · have unchanged : (batch.skipped.foldl (insertSkippedPool replies) store).pools =
        store.pools := by
      refine foldl_untouched PoolStore.pools ?_ store
      exact fun _ _ _ => rfl
    unfold HeldFound
    rw [unchanged]
    exact held

theorem HeldFound.storeOther {store : PoolStore} {placed : PlacedSpec}
    (held : HeldFound env replies start replay round answer discovered store)
    (isDiscovered : placed.1 ∈ discovered) (isKind : batchKindOf placed.1.ammKind = none)
    (isPlaced : placed ∈ (round.toFetch.specs none).zipIdx) :
    HeldFound env replies start replay round answer discovered
      (env.storeOther replies round store placed) := by
  unfold BootstrapEnv.storeOther
  split
  · rename_i pool fetched
    exact held.keepIfAdmitted isDiscovered (found_of_fetchOther isKind isPlaced fetched)
  · exact held
  · exact held

section Gathered

variable {latest : Nat} {store : PoolStore}

/-- After the fetches of a bootstrap every discovered pool has its fate, and every pool that is held
was kept from the cache, or it was found and admitted. -/
theorem fates_of_gather (reads : ReadsPools env replies answer)
    (gathered : env.gather replies start discovered latest = .ok store) :
    (∀ spec ∈ discovered, Fate env replies start (env.plannedRound replies start discovered latest)
      answer discovered store spec) ∧
      HeldFound env replies start (env.replaysCached start latest)
        (env.plannedRound replies start discovered latest) answer discovered store := by
  have sound : PlanSound env replies start (env.replaysCached start latest) discovered
      (env.planning replies start discovered latest) := planSound_plan ..
  have planned : ∀ round, ∀ spec ∈ discovered, Planned env replies start round answer discovered
      (env.planning replies start discovered latest) spec :=
    fun round spec isDiscovered => planned_plan env replies start _ round answer isDiscovered
  have asked : ∀ kind, ∀ spec ∈
      (env.plannedRound replies start discovered latest).toFetch.specs kind,
        spec ∈ discovered ∧ batchKindOf spec.ammKind = kind := sound.asked
  have isPlan : (env.planning replies start discovered latest).toFetch =
      (env.plannedRound replies start discovered latest).toFetch := rfl
  unfold gather at gathered
  generalize env.replaysCached start latest = replay at sound ⊢
  generalize env.planning replies start discovered latest = planning
    at gathered sound planned isPlan
  generalize env.plannedRound replies start discovered latest = round at gathered asked isPlan ⊢
  obtain ⟨batches, areBatches, same⟩ := exists_batches gathered
  have covers : ∀ kind, BatchCovers env replies round answer
      (round.toFetch.specs (some kind)) (batches kind) :=
    fun kind => batchCovers reads (fun spec member => (asked (some kind) spec member).2)
      (areBatches kind)
  have askedOther : ∀ placed ∈ (round.toFetch.specs none).zipIdx,
      placed.1 ∈ discovered ∧ batchKindOf placed.1.ammKind = none := fun placed member =>
    asked none placed.1 (mem_of_mem_zipIdx member)
  rw [same]
  refine ⟨fun spec isDiscovered => ?_, ?_⟩
  · have batchesKeep : ∀ kind ∈ batchKinds, ∀ now,
        Fate env replies start round answer discovered now spec →
          Fate env replies start round answer discovered
            (env.storeBatch replies now (batches kind)) spec := fun kind _ now fate =>
      fate.storeBatch (covers kind) fun other member => (asked (some kind) other member).1
    have othersKeep : ∀ placed ∈ (round.toFetch.specs none).zipIdx,
        ∀ now, Fate env replies start round answer discovered now spec →
          Fate env replies start round answer discovered
            (env.storeOther replies round now placed) spec := fun placed member now fate =>
      fate.storeOther (askedOther placed member).1 (askedOther placed member).2 member
    rcases planned round spec isDiscovered with fate | ⟨other, isAsked, address⟩
    · exact foldl_keeps _ othersKeep (foldl_keeps _ batchesKeep fate)
    · rw [isPlan] at isAsked
      cases isKind : batchKindOf other.ammKind with
      | none =>
        rw [isKind] at isAsked
        obtain ⟨position, placed⟩ := exists_mem_zipIdx isAsked
        exact foldl_reaches (Fate env replies start round answer discovered · spec)
          othersKeep placed
          (fun now => fate_storeOther now (askedOther _ placed).1 isKind placed address) _
      | some kind =>
        rw [isKind] at isAsked
        refine foldl_keeps _ othersKeep ?_
        exact foldl_reaches (Fate env replies start round answer discovered · spec)
          batchesKeep (mem_batchKinds kind)
          (fun now => fate_storeBatch now (covers kind)
            (fun spec member => (asked (some kind) spec member).1) isAsked address) _
  · refine foldl_keeps (HeldFound env replies start replay round answer discovered)
      (fun placed member now held => held.storeOther (askedOther placed member).1
        (askedOther placed member).2 member) ?_
    refine foldl_keeps (HeldFound env replies start replay round answer discovered)
      (fun kind _ now held => held.storeBatch (covers kind) fun spec member =>
        (asked (some kind) spec member).1) ?_
    intro address pool stored
    obtain ⟨spec, isDiscovered, isOwn, kept⟩ := sound.held address pool stored
    exact ⟨spec, isDiscovered, isOwn, Or.inl kept⟩

end Gathered

end Fates

end BootstrapEnv

end DexArbitrage
