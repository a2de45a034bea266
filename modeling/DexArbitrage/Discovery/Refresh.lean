/-
This file models the admission filter of `src/discovery/admission.rs` and
`refresh_pools` of `src/discovery/mod.rs`, which applies the patches of a batch
to the pools of the current snapshot, fetches the pools that need a full
refresh, and builds the next snapshot under the next id.

What the refresh reads from outside comes with its call as `RefreshReplies`:
the answers of the pool fetcher, the clock readings, and the token list after
its extension and pricing.
-/

import DexArbitrage.Lib.Program
import DexArbitrage.Discovery.PoolPatch
import DexArbitrage.Discovery.RefreshBatch

namespace DexArbitrage

/-! ### Admission -/

def PoolHealth.healthy (health : PoolHealth) (minConfidenceBps stalenessTimeout : Nat)
    (now : SystemTime) : Bool :=
  if health.paused || health.quarantined || health.stale then
    false
  else if health.confidenceBps < minConfidenceBps then
    false
  else if health.lastRefreshAt ≤ now then
    now - health.lastRefreshAt ≤ stalenessTimeout
  else
    true

def hasUsableLiquidity (pool : PoolState) : Bool :=
  match pool.state with
  | .uniswapV2Like state => 0 < state.reserve0 && 0 < state.reserve1
  | .aerodromeV2Like state => 0 < state.reserve0 && 0 < state.reserve1
  | .uniswapV3Like state => 0 < state.liquidity
  | .traderJoeLb state => 0 < state.reserveX && 0 < state.reserveY
  | .curvePlain state => state.balances.any (0 < ·)
  | .balancerWeighted state => state.balances.any (0 < ·)

def poolHasAdmissibleShape (pool : PoolState) : Bool :=
  if pool.tokenAddresses.length < 2 then
    false
  else if pool.admissionStatus = .excluded then
    false
  else
    hasUsableLiquidity pool

structure AdmissionFilter where
  minConfidenceBps : Nat
  stalenessTimeout : Nat
  deriving DecidableEq, Repr

def AdmissionFilter.admit (admission : AdmissionFilter) (pool : PoolState) (now : SystemTime) :
    Bool :=
  poolHasAdmissibleShape pool &&
    pool.health.healthy admission.minConfidenceBps admission.stalenessTimeout now

/-! ### What a batch asks for -/

structure DiscoveredPool where
  address : Address
  dexName : String
  ammKind : AmmKind
  factory : Option Address
  registry : Option Address
  vault : Option Address
  quoter : Option Address
  balancerPoolId : Option B256
  priority : Bool
  deriving DecidableEq, Repr

def poolToSpec (pool : PoolState) : DiscoveredPool where
  address := pool.poolId
  dexName := pool.dexName
  ammKind := pool.kind
  factory := pool.factory
  registry := pool.registry
  vault := pool.vault
  quoter := pool.quoter
  balancerPoolId :=
    match pool.state with
    | .balancerWeighted state => some state.poolId
    | _ => none
  priority := false

/-- The pools of the selected triggers, each pool at its first trigger. -/
def triggeredSpecs (snapshot : GraphSnapshot) (select : RefreshTrigger → Bool)
    (triggers : List RefreshTrigger) : List DiscoveredPool :=
  (((triggers.filter select).filterMap RefreshTrigger.poolId).eraseDups.filterMap
    snapshot.pool).map poolToSpec

def collectChangedSpecs (snapshot : GraphSnapshot) (batch : RefreshBatch) :
    List DiscoveredPool :=
  if batch.triggers.any RefreshTrigger.fullRefresh then
    triggeredSpecs snapshot RefreshTrigger.fullRefresh batch.triggers
  else
    triggeredSpecs snapshot (fun trigger => trigger.patch.isNone) batch.triggers

/-! ### Refreshing -/

/-- What one refresh reads from outside. -/
structure RefreshReplies where
  patchClock : Nat → SystemTime
  admitClock : SystemTime
  fetchPool : DiscoveredPool → Except RpcError (Option PoolState)
  extendTokens : List TokenInfo → HashMap Address PoolState → Except RpcError (List TokenInfo)

/-- The pools that a list of patches changes, in the order of the patches. -/
def patchedPools (blockNumber : Option Nat) :
    HashMap Address PoolState → List (PoolStatePatch × SystemTime) → List Address
  | _, [] => []
  | pools, (patch, now) :: rest =>
    let changed :=
      match pools.lookup patch.poolId with
      | some pool => if (applyPoolPatch now pool patch blockNumber).2 then [pool.poolId] else []
      | none => []
    changed ++ patchedPools blockNumber (applyPatch blockNumber pools (patch, now)) rest

/-- The pools after the full fetches, and the pools fetched, in order. -/
def fetchAll (admission : AdmissionFilter) (replies : RefreshReplies) :
    List DiscoveredPool → HashMap Address PoolState × List Address →
      Except RpcError (HashMap Address PoolState × List Address)
  | [], pools => .ok pools
  | spec :: rest, (pools, changed) => do
    match ← replies.fetchPool spec with
    | some pool =>
      if admission.admit pool replies.admitClock then
        fetchAll admission replies rest (pools.insert pool.poolId pool, changed ++ [pool.poolId])
      else
        fetchAll admission replies rest (pools, changed)
    | none => fetchAll admission replies rest (pools, changed)

def refreshPools (rates : FloatRates) (admission : AdmissionFilter) (replies : RefreshReplies)
    (currentSnapshotId : Nat) (tokens : List TokenInfo)
    (currentPools : HashMap Address PoolState) (changedSpecs : List DiscoveredPool)
    (patches : List PoolStatePatch) (blockRef : Option BlockRef) :
    Except RpcError (GraphSnapshot × List Address) := do
  let stamped := patches.zipIdx.map fun (patch, idx) => (patch, replies.patchClock idx)
  let blockNumber := blockRef.map BlockRef.number
  let (pools, changed) ← fetchAll admission replies changedSpecs
    (applyPatches blockNumber currentPools stamped,
      patchedPools blockNumber currentPools stamped)
  let tokens ← replies.extendTokens tokens pools
  return (GraphSnapshot.build rates ((currentSnapshotId + 1) % 2 ^ 64) blockRef tokens pools,
    changed)

/-! ### Pools stay filed under their own id -/

theorem poolsFiled_applyPatch {pools : HashMap Address PoolState} (filed : PoolsFiled pools)
    (blockNumber : Option Nat) (patch : PoolStatePatch × SystemTime) :
    PoolsFiled (applyPatch blockNumber pools patch) := by
  intro poolId pool stored
  unfold applyPatch at stored
  rw [HashMap.lookup_update] at stored
  split at stored
  · rename_i own
    obtain ⟨before, found, same⟩ := Option.map_eq_some_iff.mp stored
    rw [← same, applyPoolPatch_poolId, filed _ before found, own]
  · exact filed poolId pool stored

theorem poolsFiled_applyPatches {pools : HashMap Address PoolState} (filed : PoolsFiled pools)
    (blockNumber : Option Nat) (patches : List (PoolStatePatch × SystemTime)) :
    PoolsFiled (applyPatches blockNumber pools patches) := by
  induction patches generalizing pools with
  | nil => exact filed
  | cons patch rest inductionHypothesis =>
    exact inductionHypothesis (poolsFiled_applyPatch filed blockNumber patch)

theorem poolsFiled_insert {pools : HashMap Address PoolState} (filed : PoolsFiled pools)
    (pool : PoolState) : PoolsFiled (pools.insert pool.poolId pool) := by
  intro poolId found stored
  rw [HashMap.lookup_insert] at stored
  split at stored
  · rename_i own
    injection stored with same
    rw [own, same]
  · exact filed poolId found stored

theorem poolsFiled_fetchAll {admission : AdmissionFilter} {replies : RefreshReplies}
    {specs : List DiscoveredPool} {before after : HashMap Address PoolState × List Address}
    (filed : PoolsFiled before.1) (fetched : fetchAll admission replies specs before = .ok after) :
    PoolsFiled after.1 := by
  induction specs generalizing before with
  | nil =>
    cases fetched
    exact filed
  | cons spec rest inductionHypothesis =>
    obtain ⟨pools, changed⟩ := before
    unfold fetchAll at fetched
    cases reply : replies.fetchPool spec with
    | error reason =>
      rw [reply] at fetched
      cases fetched
    | ok found =>
      rw [reply, ok_bind] at fetched
      cases found with
      | none => exact inductionHypothesis filed fetched
      | some pool =>
        by_cases admitted : admission.admit pool replies.admitClock = true
        · simp only [if_pos admitted] at fetched
          exact inductionHypothesis (poolsFiled_insert filed pool) fetched
        · simp only [if_neg admitted] at fetched
          exact inductionHypothesis filed fetched

/-! ### What a full fetch stores -/

/-- One of the pools asked for is fetched with the given state, under the given id, and
admitted. -/
def FetchedAndAdmitted (admission : AdmissionFilter) (replies : RefreshReplies)
    (specs : List DiscoveredPool) (poolId : Address) (pool : PoolState) : Prop :=
  ∃ spec ∈ specs, replies.fetchPool spec = .ok (some pool) ∧
    admission.admit pool replies.admitClock = true ∧ pool.poolId = poolId

theorem FetchedAndAdmitted.cons {admission : AdmissionFilter} {replies : RefreshReplies}
    {specs : List DiscoveredPool} {poolId : Address} {pool : PoolState}
    (fetched : FetchedAndAdmitted admission replies specs poolId pool) (spec : DiscoveredPool) :
    FetchedAndAdmitted admission replies (spec :: specs) poolId pool := by
  obtain ⟨other, member, found⟩ := fetched
  exact ⟨other, List.mem_cons_of_mem _ member, found⟩

/-- Under an id there is a fetched and admitted pool, or nothing has changed. -/
theorem lookup_fetchAll {admission : AdmissionFilter} {replies : RefreshReplies}
    {specs : List DiscoveredPool} {before after : HashMap Address PoolState × List Address}
    (fetched : fetchAll admission replies specs before = .ok after) (poolId : Address) :
    (∃ pool, FetchedAndAdmitted admission replies specs poolId pool ∧
        after.1.lookup poolId = some pool) ∨
      (∀ pool, ¬ FetchedAndAdmitted admission replies specs poolId pool) ∧
        after.1.lookup poolId = before.1.lookup poolId := by
  induction specs generalizing before with
  | nil =>
    cases fetched
    exact Or.inr ⟨fun pool ⟨spec, member, _⟩ => (by cases member), rfl⟩
  | cons spec rest inductionHypothesis =>
    obtain ⟨pools, changed⟩ := before
    unfold fetchAll at fetched
    -- A spec that stores nothing under the id leaves both cases to the rest.
    have passOn : ∀ {middle : HashMap Address PoolState × List Address},
        fetchAll admission replies rest middle = .ok after →
        middle.1.lookup poolId = pools.lookup poolId →
        (∀ pool, replies.fetchPool spec = .ok (some pool) →
          admission.admit pool replies.admitClock = true → pool.poolId ≠ poolId) →
        (∃ pool, FetchedAndAdmitted admission replies (spec :: rest) poolId pool ∧
            after.1.lookup poolId = some pool) ∨
          (∀ pool, ¬ FetchedAndAdmitted admission replies (spec :: rest) poolId pool) ∧
            after.1.lookup poolId = pools.lookup poolId := by
      intro middle restFetched kept notOwn
      rcases inductionHypothesis restFetched with ⟨pool, found, stored⟩ | ⟨none, same⟩
      · exact Or.inl ⟨pool, found.cons spec, stored⟩
      · refine Or.inr ⟨?_, same.trans kept⟩
        rintro pool ⟨other, member, reply, admitted, own⟩
        rcases List.mem_cons.mp member with isFirst | inRest
        · rw [isFirst] at reply
          exact notOwn pool reply admitted own
        · exact none pool ⟨other, inRest, reply, admitted, own⟩
    cases reply : replies.fetchPool spec with
    | error reason =>
      rw [reply] at fetched
      cases fetched
    | ok found =>
      rw [reply, ok_bind] at fetched
      cases found with
      | none => exact passOn fetched rfl fun pool other => by rw [reply] at other; cases other
      | some pool =>
        by_cases admitted : admission.admit pool replies.admitClock = true
        · simp only [if_pos admitted] at fetched
          by_cases own : pool.poolId = poolId
          · rcases inductionHypothesis fetched with ⟨later, found, stored⟩ | ⟨_, same⟩
            · exact Or.inl ⟨later, found.cons spec, stored⟩
            · refine Or.inl ⟨pool, ⟨spec, List.mem_cons_self, reply, admitted, own⟩, ?_⟩
              rw [same, HashMap.lookup_insert, if_pos own.symm]
          · refine passOn fetched ?_ fun other otherReply _ => ?_
            · rw [HashMap.lookup_insert, if_neg (Ne.symm own)]
            · rw [reply] at otherReply
              injection otherReply with same
              injection same with same
              rw [← same]
              exact own
        · simp only [if_neg admitted] at fetched
          refine passOn fetched rfl fun other otherReply otherAdmitted => ?_
          rw [reply] at otherReply
          injection otherReply with same
          injection same with same
          exact absurd (same ▸ otherAdmitted) admitted

/-! ### What a refresh returns -/

/-- The pools with the patches of a batch applied, before anything is fetched. -/
def poolsAfterPatches (replies : RefreshReplies) (currentPools : HashMap Address PoolState)
    (patches : List PoolStatePatch) (blockRef : Option BlockRef) : HashMap Address PoolState :=
  applyPatches (blockRef.map BlockRef.number) currentPools
    (patches.zipIdx.map fun (patch, idx) => (patch, replies.patchClock idx))

/-- The pools after the patches and the fetches of a refresh, with those that it has changed. -/
def refreshedPools (admission : AdmissionFilter) (replies : RefreshReplies)
    (currentPools : HashMap Address PoolState) (changedSpecs : List DiscoveredPool)
    (patches : List PoolStatePatch) (blockRef : Option BlockRef) :
    Except RpcError (HashMap Address PoolState × List Address) :=
  fetchAll admission replies changedSpecs
    (poolsAfterPatches replies currentPools patches blockRef,
      patchedPools (blockRef.map BlockRef.number) currentPools
        (patches.zipIdx.map fun (patch, idx) => (patch, replies.patchClock idx)))

/-- Every request that a refresh makes is answered. -/
structure RefreshAnswered (admission : AdmissionFilter) (replies : RefreshReplies)
    (tokens : List TokenInfo) (currentPools : HashMap Address PoolState)
    (changedSpecs : List DiscoveredPool) (patches : List PoolStatePatch)
    (blockRef : Option BlockRef) : Prop where
  fetches : ∀ spec ∈ changedSpecs, ∃ found, replies.fetchPool spec = .ok found
  tokens : ∀ pools, refreshedPools admission replies currentPools changedSpecs patches blockRef =
    .ok pools → ∃ extended, replies.extendTokens tokens pools.1 = .ok extended

theorem exists_fetchAll_iff {admission : AdmissionFilter} {replies : RefreshReplies}
    {specs : List DiscoveredPool} {before : HashMap Address PoolState × List Address} :
    (∃ after, fetchAll admission replies specs before = .ok after) ↔
      ∀ spec ∈ specs, ∃ found, replies.fetchPool spec = .ok found := by
  induction specs generalizing before with
  | nil => exact ⟨fun _ _ member => (nomatch member), fun _ => ⟨before, rfl⟩⟩
  | cons spec rest inductionHypothesis =>
    obtain ⟨pools, changed⟩ := before
    rw [List.forall_mem_cons]
    unfold fetchAll
    cases reply : replies.fetchPool spec with
    | error reason =>
      refine iff_of_false ?_ ?_
      · rintro ⟨after, fetched⟩
        cases fetched
      · rintro ⟨⟨found, answered⟩, _⟩
        cases answered
    | ok found =>
      rw [ok_bind, and_iff_right ⟨found, rfl⟩]
      cases found with
      | none => exact inductionHypothesis
      | some pool =>
        dsimp only
        split
        · exact inductionHypothesis
        · exact inductionHypothesis

section Refreshed

variable {rates : FloatRates} {admission : AdmissionFilter} {replies : RefreshReplies}
  {currentSnapshotId : Nat} {tokens : List TokenInfo} {currentPools : HashMap Address PoolState}
  {changedSpecs : List DiscoveredPool} {patches : List PoolStatePatch} {blockRef : Option BlockRef}
  {snapshot : GraphSnapshot} {changed : List Address}

/-- A refresh that succeeds builds a snapshot under the next id from the pools after the patches
and the fetches. -/
theorem exists_fetchAll_of_refreshPools
    (refreshed : refreshPools rates admission replies currentSnapshotId tokens currentPools
      changedSpecs patches blockRef = .ok (snapshot, changed)) :
    ∃ patched fetched extended,
      fetchAll admission replies changedSpecs
        (poolsAfterPatches replies currentPools patches blockRef, patched) = .ok fetched ∧
      snapshot = GraphSnapshot.build rates ((currentSnapshotId + 1) % 2 ^ 64) blockRef extended
        fetched.1 := by
  unfold refreshPools at refreshed
  simp only at refreshed
  cases fetch : fetchAll admission replies changedSpecs
      (poolsAfterPatches replies currentPools patches blockRef,
        patchedPools (blockRef.map BlockRef.number) currentPools
          (patches.zipIdx.map fun (patch, idx) => (patch, replies.patchClock idx))) with
  | error reason =>
    unfold poolsAfterPatches at fetch
    rw [fetch] at refreshed
    cases refreshed
  | ok fetched =>
    have fetchedAll := fetch
    unfold poolsAfterPatches at fetch
    rw [fetch, ok_bind] at refreshed
    cases extension : replies.extendTokens tokens fetched.1 with
    | error reason =>
      rw [extension] at refreshed
      cases refreshed
    | ok extended =>
      rw [extension, ok_bind] at refreshed
      injection refreshed with same
      injection same with same _
      exact ⟨_, fetched, extended, fetchedAll, same.symm⟩

/-- A refresh succeeds when every request that it makes is answered. -/
theorem exists_refreshPools_iff :
    (∃ result, refreshPools rates admission replies currentSnapshotId tokens currentPools
      changedSpecs patches blockRef = .ok result) ↔
      RefreshAnswered admission replies tokens currentPools changedSpecs patches blockRef := by
  have inTwo : refreshPools rates admission replies currentSnapshotId tokens currentPools
      changedSpecs patches blockRef =
      refreshedPools admission replies currentPools changedSpecs patches blockRef >>=
        fun pools => replies.extendTokens tokens pools.1 >>= fun extended =>
          .ok (GraphSnapshot.build rates ((currentSnapshotId + 1) % 2 ^ 64) blockRef extended
            pools.1, pools.2) := rfl
  constructor
  · rintro ⟨result, refreshed⟩
    rw [inTwo, bind_eq_ok_iff] at refreshed
    obtain ⟨pools, fetched, refreshed⟩ := refreshed
    obtain ⟨extended, tokensRead, _⟩ := bind_eq_ok_iff.mp refreshed
    refine ⟨exists_fetchAll_iff.mp ⟨pools, fetched⟩, fun other otherFetched => ?_⟩
    rw [fetched] at otherFetched
    injection otherFetched with same
    exact ⟨extended, same ▸ tokensRead⟩
  · rintro ⟨fetches, tokensRead⟩
    obtain ⟨pools, fetched⟩ : ∃ pools, refreshedPools admission replies currentPools changedSpecs
        patches blockRef = .ok pools := exists_fetchAll_iff.mpr fetches
    obtain ⟨extended, answered⟩ := tokensRead pools fetched
    rw [inTwo, fetched, ok_bind, answered, ok_bind]
    exact ⟨_, rfl⟩

/-- A refresh that succeeds builds a snapshot under the next id, from pools that are filed when
the given ones are. -/
theorem refreshPools_ok
    (refreshed : refreshPools rates admission replies currentSnapshotId tokens currentPools
      changedSpecs patches blockRef = .ok (snapshot, changed)) :
    snapshot.snapshotId = (currentSnapshotId + 1) % 2 ^ 64 ∧
      (PoolsFiled currentPools → PoolsFiled snapshot.pools) := by
  obtain ⟨patched, fetched, extended, fetch, same⟩ := exists_fetchAll_of_refreshPools refreshed
  rw [same]
  exact ⟨rfl, fun filed => poolsFiled_fetchAll (poolsFiled_applyPatches filed _ _) fetch⟩

end Refreshed

end DexArbitrage
