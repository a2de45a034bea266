/-
This file is about a whole bootstrap: what becomes of every discovered pool, and
what the replay has read. It reads every event since the oldest cached state, so
it misses none of a cached pool; that it applies only the first patch of a pool is
right when the later events change nothing in total.
-/

import DexArbitrage.Discovery.Replay

namespace DexArbitrage

namespace BootstrapEnv

/-! ### A whole bootstrap -/

section Bootstrapped

variable {env : BootstrapEnv} {replies : BootstrapReplies}
  {answer : Address × PoolCall → Option Bytes} {discovered : List DiscoveredPool}
  {latest : Nat} {after : PoolStore}

theorem HeldFound.filed {start : Start} {replay : Bool} {round : FetchRound}
    {store : PoolStore}
    (held : HeldFound env replies start replay round answer discovered store) :
    PoolsFiled store.pools := by
  intro address pool stored
  obtain ⟨spec, _, isOwn, kept | ⟨found, _⟩⟩ := held address pool stored
  · exact (poolId_of_matches kept.same).trans isOwn
  · exact found.poolId.trans isOwn

/-- A bootstrap gathers the pools and then replays the events, if it does. -/
theorem gathered_of_bringUp (ran : env.bringUp replies discovered latest = .ok after) :
    ∃ store, env.gather replies (env.start replies) discovered latest = .ok store ∧
      (after = store ∨ ∃ anchor, (env.start replies).anchorBlock = some anchor ∧
        env.replaysCached (env.start replies) latest = true ∧
        env.replayCachedPoolStateEvents replies anchor latest store = .ok after) := by
  obtain ⟨store, gathered, ran⟩ := bind_eq_ok_iff.mp ran
  refine ⟨store, gathered, ?_⟩
  split at ran
  · rename_i anchor isAnchor
    split at ran
    · rename_i replays
      exact Or.inr ⟨anchor, isAnchor, replays, ran⟩
    · cases ran
      exact Or.inl rfl
  · cases ran
    exact Or.inl rfl

variable (env replies) in
/-- What a bootstrap hands on, and what it saves, is what it has brought up. -/
structure HandsOn (output : DiscoveryOutput) (saved : Option PoolStateCache) (store : PoolStore) :
    Prop where
  pools : output.pools = store.pools
  snapshot : output.snapshot.pools = store.pools
  saved : saved = env.savedCache replies store

theorem broughtUp_of_bootstrap {output : DiscoveryOutput} {saved : Option PoolStateCache}
    (ran : env.bootstrap replies = .ok (output, saved)) :
    ∃ discovered after, replies.scanAll = .ok discovered ∧
      env.bringUp replies discovered (latestAtBootstrap replies) = .ok after ∧
        HandsOn env replies output saved after := by
  obtain ⟨_, _, ran⟩ := bind_eq_ok_iff.mp ran
  obtain ⟨discovered, scanned, ran⟩ := bind_eq_ok_iff.mp ran
  obtain ⟨after, broughtUp, ran⟩ := bind_eq_ok_iff.mp ran
  obtain ⟨_, _, ran⟩ := bind_eq_ok_iff.mp ran
  cases ran
  exact ⟨discovered, after, scanned, broughtUp, rfl, rfl, rfl⟩

/-- After a bootstrap every discovered pool is held, or it is on the list of those left out for a
reason that holds, or it is one of a few that are passed over. What is held is held for a discovered
pool that was kept from the cache, or that was found as its contracts describe it and admitted. -/
theorem bootstrap_fates (env : BootstrapEnv) (replies : BootstrapReplies)
    (answer : Address × PoolCall → Option Bytes) (reads : ReadsPools env replies answer)
    (shuffles : ∀ triggers, (replies.triggerOrder triggers).Perm triggers)
    (output : DiscoveryOutput) (saved : Option PoolStateCache)
    (ran : env.bootstrap replies = .ok (output, saved)) :
    ∃ discovered after, replies.scanAll = .ok discovered ∧
      HandsOn env replies output saved after ∧
      let start := env.start replies
      let latest := latestAtBootstrap replies
      let round := env.plannedRound replies start discovered latest
      (∀ spec ∈ discovered, Fate env replies start round answer discovered after spec) ∧
        ∃ store, env.gather replies start discovered latest = .ok store ∧
          HeldFound env replies start (env.replaysCached start latest) round answer discovered
            store ∧
          ∀ address, (after.pools.lookup address).isSome =
            (store.pools.lookup address).isSome := by
  obtain ⟨discovered, after, scanned, broughtUp, handsOn⟩ := broughtUp_of_bootstrap ran
  refine ⟨discovered, after, scanned, handsOn, ?_⟩
  obtain ⟨store, gathered, replayed⟩ := gathered_of_bringUp broughtUp
  obtain ⟨fates, held⟩ := fates_of_gather reads gathered
  rcases replayed with same | ⟨anchor, _, _, replayed⟩
  · exact ⟨same ▸ fates, store, gathered, held, fun address => by rw [same]⟩
  · have isSome := isSome_lookup_replay reads held.filed shuffles replayed
    refine ⟨fun spec isDiscovered => ?_, store, gathered, held, isSome⟩
    cases stored : store.pools.lookup spec.address with
    | some pool =>
      obtain ⟨later, isLater⟩ := Option.isSome_iff_exists.mp
        ((isSome spec.address).trans (by rw [stored]; rfl))
      exact .held later isLater
    | none =>
      obtain ⟨absent, same⟩ := untouched_of_replay reads held.filed replayed stored
      exact (fates spec isDiscovered).congr (absent.trans stored.symm) same

/-! ### No event is missed -/

theorem exists_oldestBlock {pools : List PoolState} {pool : PoolState} (member : pool ∈ pools)
    (known : 0 < pool.lastUpdatedBlock) :
    ∃ oldest, oldestBlock pools = some oldest ∧ oldest ≤ pool.lastUpdatedBlock := by
  have listed : pool.lastUpdatedBlock ∈ pools.filterMap fun pool =>
      if 0 < pool.lastUpdatedBlock then some pool.lastUpdatedBlock else none :=
    List.mem_filterMap.mpr ⟨pool, member, if_pos known⟩
  unfold oldestBlock
  cases least : (pools.filterMap fun pool =>
      if 0 < pool.lastUpdatedBlock then some pool.lastUpdatedBlock else none).min? with
  | none =>
    rw [List.min?_eq_none_iff.mp least] at listed
    cases listed
  | some oldest => exact ⟨oldest, rfl, (List.min?_eq_some_iff.mp least).2 _ listed⟩

/-- The anchor of a cache is no later than any state in it, but for those of an unknown block. -/
theorem anchorBlock_le {cache : PoolStateCache} {anchor : Nat}
    (isAnchor : cache.anchorBlock = some anchor) {pool : PoolState} (member : pool ∈ cache.pools)
    (known : 0 < pool.lastUpdatedBlock) : anchor ≤ pool.lastUpdatedBlock := by
  obtain ⟨oldest, isOldest, atMost⟩ := exists_oldestBlock member known
  unfold PoolStateCache.anchorBlock at isAnchor
  rw [isOldest] at isAnchor
  split at isAnchor
  · rename_i saved poolAnchor _ same
    cases same
    cases isAnchor
    exact (Nat.min_le_right _ _).trans atMost
  · rename_i none_
    cases none_
  · rename_i poolAnchor _ same
    cases same
    cases isAnchor
    exact atMost
  · rename_i none_
    cases none_

theorem start_anchorBlock_le {anchor : Nat}
    (isAnchor : (env.start replies).anchorBlock = some anchor) {address : Address}
    {cached : PoolState} (stored : (env.start replies).cachedPools.lookup address = some cached)
    (known : 0 < cached.lastUpdatedBlock) : anchor ≤ cached.lastUpdatedBlock := by
  unfold start at isAnchor stored
  split at isAnchor
  · cases isAnchor
  · rename_i enabled
    rw [if_neg enabled] at stored
    split at isAnchor
    · rename_i cache loaded
      rw [loaded] at stored
      obtain ⟨pool, member, same⟩ := List.mem_map.mp (HashMap.mem_of_lookup_ofList stored)
      cases same
      exact anchorBlock_le isAnchor member known
    · cases isAnchor

/-- The ranges of events are read by the event stream. -/
def ReadByStream (env : BootstrapEnv) (replies : BootstrapReplies) (latest : Nat) (scan : PollEnv)
    (chain : Chain) (logs : LogReplies) (receipts : ReceiptReplies) (mode : RangeMode) : Prop :=
  ∀ addresses first found, replies.reconcileLogs addresses (eventTopics env.signatureHash) first
    latest = .ok found → ∃ rounds, pollLogs scan chain logs receipts addresses
      (eventTopics env.signatureHash) mode first latest rounds = some (.ok found)

/-- A bootstrap that replays has read, for every pool that it holds, all events of the blocks since
the oldest cached state, so all since the pool's own. A pool of which one does not decode is fetched
again as its contracts describe it, or comes out stale; any other has the patch of its first event,
and with it the state that all its events describe exactly when the later ones change nothing in
total. -/
theorem bootstrap_replays (env : BootstrapEnv) (replies : BootstrapReplies)
    (answer : Address × PoolCall → Option Bytes) (reads : ReadsPools env replies answer)
    (shuffles : ∀ triggers, (replies.triggerOrder triggers).Perm triggers)
    (scan : PollEnv) (chain : Chain) (logs : LogReplies) (receipts : ReceiptReplies)
    (mode : RangeMode) (blocks : Nat → List RpcLog) (truthful : Truthful logs receipts blocks)
    (latest : Nat) (isLatest : replies.latestBlock = .ok latest) (fits : latest ≤ u64Max)
    (streamed : ReadByStream env replies latest scan chain logs receipts mode)
    (output : DiscoveryOutput) (saved : Option PoolStateCache)
    (ran : env.bootstrap replies = .ok (output, saved)) (anchor : Nat)
    (isAnchor : (env.start replies).anchorBlock = some anchor)
    (replays : env.replaysCached (env.start replies) latest = true) (ahead : anchor < latest) :
    ∃ discovered store, replies.scanAll = .ok discovered ∧
      env.gather replies (env.start replies) discovered latest = .ok store ∧
      let snapshot := GraphSnapshot.build env.rates 0 none [] store.pools
      ∀ address before, store.pools.lookup address = some before → ∃ found later,
        output.pools.lookup address = some later ∧
        found.Perm ((rangeLogs blocks (anchor - env.eventBackfillBlocks) latest).filter
          (isWatched (watchedAddresses snapshot) (eventTopics env.signatureHash))) ∧
        Replayed env replies answer latest snapshot found before later ∧
        (∀ patches : List PoolStatePatch,
          decodedLogs env.signatureHash snapshot before.poolId found = patches.map some →
            (later.state = patchStates before.tokenAddresses before.state patches ↔
              LaterPatchesHarmless before patches)) ∧
        ∀ cached, (env.start replies).cachedPools.lookup address = some cached →
          0 < cached.lastUpdatedBlock → ∀ block, cached.lastUpdatedBlock ≤ block →
            block ≤ latest → ∀ log ∈ blocks block,
              isWatched (watchedAddresses snapshot) (eventTopics env.signatureHash) log = true →
                log ∈ found := by
  obtain ⟨discovered, after, scanned, broughtUp, handsOn⟩ := broughtUp_of_bootstrap ran
  have sameLatest : latestAtBootstrap replies = latest := by
    unfold latestAtBootstrap
    rw [isLatest]
    rfl
  rw [sameLatest] at broughtUp
  obtain ⟨store, gathered, replayed⟩ := gathered_of_bringUp broughtUp
  obtain ⟨_, held⟩ := fates_of_gather reads gathered
  refine ⟨discovered, store, scanned, gathered, ?_⟩
  intro snapshot address before stored
  rw [handsOn.pools]
  have ranReplay : env.replayCachedPoolStateEvents replies anchor latest store = .ok after := by
    rcases replayed with same | ⟨other, isOther, _, ranOther⟩
    · obtain ⟨_, gatheredAgain, ranAgain⟩ := bind_eq_ok_iff.mp broughtUp
      rw [isAnchor] at ranAgain
      cases gathered.symm.trans gatheredAgain
      dsimp only at ranAgain
      rw [if_pos replays] at ranAgain
      exact ranAgain
    · cases isAnchor.symm.trans isOther
      exact ranOther
  obtain ⟨found, isFound, later, isLater, replayedAs⟩ :=
    replayed_of_replay reads held.filed shuffles ahead ranReplay stored
  obtain ⟨rounds, polled⟩ := streamed _ _ _ isFound
  have ordered : anchor - env.eventBackfillBlocks ≤ latest := by omega
  have whole := truthful.pollLogs_complete (eventTopics_ne_nil env.signatureHash)
    (nodup_watchedAddresses snapshot) ordered fits polled
  refine ⟨found, later, isLater, whole, replayedAs, fun patches decodes => ?_, ?_⟩
  · obtain ⟨patched, same, state⟩ := replayedAs.first patches decodes
    rw [← patchStates_take_one_iff, ← state, same]
    have unmarked : (markReplayed replies latest patched).state = patched.state := by
      unfold markReplayed markReplayedPoolCurrent
      split <;> rfl
    rw [unmarked]
  · intro cached isCached known block since upTo log inBlock isWatchedLog
    have anchored := start_anchorBlock_le isAnchor isCached known
    rw [whole.mem_iff, List.mem_filter]
    refine ⟨?_, isWatchedLog⟩
    unfold rangeLogs
    exact List.mem_flatMap.mpr ⟨block, mem_blockRange.mpr ⟨by omega, upTo⟩, inBlock⟩

end Bootstrapped

/-! ### A cached pair with one event, and a pool that is new -/

def sampleEnv : BootstrapEnv where
  chainId := 8453
  disablePoolStateCache := none
  discoveryFetchUnseenPools := none
  bootstrapReplayCachedPoolStates := none
  replayMaxBlocks := none
  disableSkippedPoolCache := none
  skippedPoolCacheTtlSecs := none
  eventBackfillBlocks := 2
  admission := { minConfidenceBps := 9000, stalenessTimeout := 60 }
  fetcher := PoolFetcher.sampleFetcher
  signatureHash := syncSignatureHash
  rates := { spot := fun _ _ _ => (0, 0), priceLimitCapacityIn := fun _ _ => none }
  derivePoolPrices := false
  priceEstimators :=
    { fromBalances := derivePriceFromBalances
      v3PriceOfToken1 := fun _ _ _ _ => none
      v3PriceOfToken0 := fun _ _ _ _ => none }

/-- Block 101 has a sync of the pair. -/
def sampleBlocks (block : Nat) : List RpcLog :=
  if block = 101 then [syncLog 1100 910] else []

def sampleScan : PollEnv where
  scan := defaultLogScanEnv
  eventReceiptMaxBlocks := none
  receiptsTopicFallback := false

def sampleLogs : LogReplies where
  getLogs _ _ request :=
    .ok ((rangeLogs sampleBlocks request.fromBlock request.toBlock).filter request.matches_)
  finishOrder _ count := List.range count
  finishOrder_perm _ count := perm_range_self count

def sampleReceipts : ReceiptReplies where
  getBlockReceiptsLogs block := .ok (sampleBlocks block)
  finishOrder _ count := List.range count
  finishOrder_perm _ count := perm_range_self count

/-- The event stream reads by topic. -/
def sampleReconcile (addresses : List Address) (topics : List B256) (first last : Nat) :
    Except RpcError (List RpcLog) :=
  (pollLogs sampleScan .base sampleLogs sampleReceipts addresses topics .topicLogs first last
    4).getD (.error "unfinished")

def sampleDiscovered : List DiscoveredPool :=
  [poolToSpec syncedPair, { PoolFetcher.aerodromeSpec 3 none with priority := true }]

def sampleReplies : BootstrapReplies where
  flashReserves := .ok []
  scanAll := .ok sampleDiscovered
  latestBlock := .ok 102
  poolStateCache := .ok (PoolStateCache.fromParts 8453 0 [syncedPair] [])
  admitClock _ := 0
  unixClock _ := 0
  batchReads _ _ := PoolFetcher.sampleReadsAt
  otherReads _ _ _ := PoolFetcher.sampleReads
  reconcileLogs := sampleReconcile
  triggerOrder triggers := triggers
  patchClock _ := 0
  replayClock _ := 0
  discoverTokens _ _ := .ok []
  priceOrders _ := { order := id, perm := List.Perm.refl }
  blockRef := .error "no block"
  saveClock := 0

theorem exists_sampleBootstrap :
    ∃ output saved, sampleEnv.bootstrap sampleReplies = .ok (output, saved) := by
  have succeeds : (sampleEnv.bootstrap sampleReplies).isOk = true := by decide +kernel
  cases ran : sampleEnv.bootstrap sampleReplies with
  | ok result => exact ⟨result.1, result.2, rfl⟩
  | error err =>
    rw [ran] at succeeds
    cases succeeds

/-- The pair and the new pool have their fates. -/
theorem bootstrap_fates_pair :
    ∃ output saved, sampleEnv.bootstrap sampleReplies = .ok (output, saved) ∧
      ∃ discovered after, sampleReplies.scanAll = .ok discovered ∧
        HandsOn sampleEnv sampleReplies output saved after ∧
        ∀ spec ∈ discovered,
          Fate sampleEnv sampleReplies (sampleEnv.start sampleReplies)
            (sampleEnv.plannedRound sampleReplies (sampleEnv.start sampleReplies) discovered
              (latestAtBootstrap sampleReplies))
            PoolFetcher.sampleAnswer discovered after spec := by
  obtain ⟨output, saved, ran⟩ := exists_sampleBootstrap
  obtain ⟨discovered, after, scanned, handsOn, fates, _⟩ :=
    bootstrap_fates sampleEnv sampleReplies PoolFetcher.sampleAnswer
      (fun _ _ => PoolFetcher.sampleFetcher_readsChain) (fun _ => List.Perm.refl _) output saved ran
  exact ⟨output, saved, ran, discovered, after, scanned, handsOn, fates⟩

theorem sampleLogs_truthful : Truthful sampleLogs sampleReceipts sampleBlocks := by
  refine ⟨fun _ _ request answer answered => ?_, fun block answer answered => ?_⟩
  · cases answered
    rfl
  · cases answered
    rfl

theorem sampleReplies_readByStream :
    ReadByStream sampleEnv sampleReplies 102 sampleScan .base sampleLogs sampleReceipts
      .topicLogs := by
  intro addresses first found read
  refine ⟨4, ?_⟩
  have reconciled : (pollLogs sampleScan .base sampleLogs sampleReceipts addresses
      (eventTopics sampleEnv.signatureHash) .topicLogs first 102 4).getD (.error "unfinished") =
        .ok found := read
  cases polled : pollLogs sampleScan .base sampleLogs sampleReceipts addresses
      (eventTopics sampleEnv.signatureHash) .topicLogs first 102 4 with
  | none =>
    rw [polled] at reconciled
    cases reconciled
  | some result =>
    rw [polled] at reconciled
    exact congrArg some reconciled

/-- The event of the pair is read and applied. -/
theorem bootstrap_replays_pair :
    ∃ output saved, sampleEnv.bootstrap sampleReplies = .ok (output, saved) ∧
      ∃ discovered store, sampleReplies.scanAll = .ok discovered ∧
        sampleEnv.gather sampleReplies (sampleEnv.start sampleReplies) discovered 102 =
          .ok store ∧
        ∀ before, store.pools.lookup (10 : Address) = some before → ∃ found later,
          output.pools.lookup (10 : Address) = some later ∧
          Replayed sampleEnv sampleReplies PoolFetcher.sampleAnswer 102
            (GraphSnapshot.build sampleEnv.rates 0 none [] store.pools) found before later := by
  obtain ⟨output, saved, ran⟩ := exists_sampleBootstrap
  obtain ⟨discovered, store, scanned, gathered, replayed⟩ :=
    bootstrap_replays sampleEnv sampleReplies PoolFetcher.sampleAnswer
      (fun _ _ => PoolFetcher.sampleFetcher_readsChain) (fun _ => List.Perm.refl _)
      sampleScan .base sampleLogs sampleReceipts .topicLogs sampleBlocks sampleLogs_truthful 102 rfl
      (by decide) sampleReplies_readByStream output saved ran 100 (by decide +kernel)
      (by decide +kernel) (by decide)
  refine ⟨output, saved, ran, discovered, store, scanned, gathered, fun before stored => ?_⟩
  obtain ⟨found, later, isLater, _, replayedAs, _⟩ := replayed 10 before stored
  exact ⟨found, later, isLater, replayedAs⟩

end BootstrapEnv

end DexArbitrage
