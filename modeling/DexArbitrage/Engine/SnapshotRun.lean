/-
This file settles whether a snapshot id names one snapshot, and what follows for
the quote cache, which files its entries under that id.

A refresh takes the id of the snapshot it started from plus one. After a
rollback the current snapshot is an older one, so the next refresh hands out an
id that has been used before. `uniqueIds_iff_publishesAtNewest` shows that this
is the only way: ids are unique throughout a run whose publishes all happen
while the newest snapshot is current, every quote on the current snapshot is
then one of its own, and conversely a run with unique ids never publishes from
an older snapshot.
-/

import DexArbitrage.Lib.Run
import DexArbitrage.Discovery.Refresh
import DexArbitrage.Graph.Snapshot
import DexArbitrage.Router.ExactQuoter

namespace DexArbitrage

/-- The store, the quote cache, and a record of every snapshot that has been current, the last
published one first. -/
structure SnapshotSystem where
  store : GraphStore
  cache : QuoteCache
  published : List GraphSnapshot

inductive SnapshotEvent
  | refresh (changedSpecs : List DiscoveredPool) (patches : List PoolStatePatch)
      (blockRef : Option BlockRef) (replies : RefreshReplies)
  | rollbackToBlock (blockNumber : Nat)
  | rollbackToSnapshot (snapshotId : Nat)
  | quote (poolId tokenIn tokenOut : Address) (amountIn : Nat) (replies : QuoteReplies)

def SnapshotSystem.start (initial : GraphSnapshot) (maxSnapshots maxSegments maxEntries : Nat) :
    SnapshotSystem where
  store := GraphStore.new initial maxSnapshots
  cache := { maxSegments, maxEntriesPerSegment := maxEntries, segments := ∅ }
  published := [initial]

section Run

variable (rates : FloatRates) (admission : AdmissionFilter) (settings : QuoterSettings)
  (localQuotes : LocalQuotes)

/-- The snapshot that a round of the engine loop publishes: the refreshed one, unless the refresh
fails or touches no edge. -/
def refreshedSnapshot (system : SnapshotSystem) (changedSpecs : List DiscoveredPool)
    (patches : List PoolStatePatch) (blockRef : Option BlockRef) (replies : RefreshReplies) :
    Option GraphSnapshot :=
  let snapshot := system.store.load
  match refreshPools rates admission replies snapshot.snapshotId snapshot.tokens snapshot.pools
      changedSpecs patches blockRef with
  | .error _ => none
  | .ok (next, changed) =>
    let changedEdges := changed.flatMap fun poolId => (next.poolToEdges.lookup poolId).getD []
    if changedEdges.isEmpty then none else some next

def publishSnapshot (system : SnapshotSystem) (next : GraphSnapshot) : SnapshotSystem :=
  { system with store := system.store.publish next, published := next :: system.published }

def snapshotStep (system : SnapshotSystem) (event : SnapshotEvent) : SnapshotSystem :=
  match event with
  | .refresh changedSpecs patches blockRef replies =>
    match refreshedSnapshot rates admission system changedSpecs patches blockRef replies with
    | some next => publishSnapshot system next
    | none => system
  | .rollbackToBlock blockNumber =>
    { system with store := (system.store.rollbackToBlock blockNumber).2 }
  | .rollbackToSnapshot snapshotId =>
    { system with store := (system.store.rollbackToSnapshot snapshotId).2 }
  | .quote poolId tokenIn tokenOut amountIn replies =>
    let snapshot := system.store.load
    match snapshot.pool poolId with
    | some pool =>
      { system with
        cache := (quotePool settings localQuotes replies snapshot.snapshotId pool tokenIn tokenOut
          amountIn system.cache).2 }
    | none => system

/-! ### What holds in every state -/

/-- No two snapshots that have been current share an id. -/
def UniqueIds (system : SnapshotSystem) : Prop :=
  (system.published.map GraphSnapshot.snapshotId).Nodup

/-- Every quote on the current snapshot returns a value of the current state of the pool. -/
def OwnQuotes (system : SnapshotSystem) : Prop :=
  ∀ poolId pool, system.store.current.pool poolId = some pool →
    ∀ replies tokenIn tokenOut amountIn amount after,
      quotePool settings localQuotes replies system.store.current.snapshotId pool tokenIn tokenOut
          amountIn system.cache = (.ok amount, after) →
        QuotedBy settings localQuotes pool tokenIn tokenOut amountIn amount

/-- The current snapshot has the largest id so far, and there is a larger one. -/
def AtNewest (system : SnapshotSystem) : Prop :=
  system.store.current.snapshotId + 1 < 2 ^ 64 ∧
    ∀ earlier ∈ system.published, earlier.snapshotId ≤ system.store.current.snapshotId

/-- If the step publishes a snapshot, the newest one is current. -/
def PublishesAtNewest (system : SnapshotSystem) (event : SnapshotEvent) : Prop :=
  match event with
  | .refresh changedSpecs patches blockRef replies =>
    (refreshedSnapshot rates admission system changedSpecs patches blockRef replies).isSome →
      AtNewest system
  | _ => True

/-! ### The invariant -/

/-- What holds in every run: the store offers published snapshots only, their pools are filed
under their own ids, and every cached value is of a published snapshot. -/
structure Consistent (system : SnapshotSystem) : Prop where
  current : system.store.current ∈ system.published
  ring : ∀ entry ∈ system.store.ring, entry ∈ system.published
  filed : ∀ entry ∈ system.published, PoolsFiled entry.pools
  cache : ∀ key amount, system.cache.stored key = some amount →
    ∃ entry ∈ system.published, EntryOf settings localQuotes entry key amount

theorem refreshedSnapshot_some {system : SnapshotSystem} {changedSpecs : List DiscoveredPool}
    {patches : List PoolStatePatch} {blockRef : Option BlockRef} {replies : RefreshReplies}
    {next : GraphSnapshot}
    (refreshed : refreshedSnapshot rates admission system changedSpecs patches blockRef replies =
      some next) :
    next.snapshotId = (system.store.current.snapshotId + 1) % 2 ^ 64 ∧
      (PoolsFiled system.store.current.pools → PoolsFiled next.pools) := by
  unfold refreshedSnapshot at refreshed
  simp only at refreshed
  split at refreshed
  · cases refreshed
  · rename_i built changed result
    split at refreshed
    · cases refreshed
    · injection refreshed with same
      exact same ▸ refreshPools_ok result

/-- What one step does: nothing, a new snapshot, an older snapshot of the ring, or one quote. -/
theorem snapshotStep_cases (system : SnapshotSystem) (event : SnapshotEvent) :
    (∃ next, snapshotStep rates admission settings localQuotes system event =
        publishSnapshot system next ∧
      next.snapshotId = (system.store.current.snapshotId + 1) % 2 ^ 64 ∧
      (PoolsFiled system.store.current.pools → PoolsFiled next.pools) ∧
      (PublishesAtNewest rates admission system event ↔ AtNewest system)) ∨
    PublishesAtNewest rates admission system event ∧
      ((∃ store, snapshotStep rates admission settings localQuotes system event =
          { system with store } ∧ store.ring = system.store.ring ∧
        (store.current = system.store.current ∨ store.current ∈ system.store.ring)) ∨
      ∃ poolId pool replies tokenIn tokenOut amountIn,
        system.store.current.pool poolId = some pool ∧
        snapshotStep rates admission settings localQuotes system event =
          { system with
            cache := (quotePool settings localQuotes replies system.store.current.snapshotId
              pool tokenIn tokenOut amountIn system.cache).2 }) := by
  cases event with
  | refresh changedSpecs patches blockRef replies =>
    cases refreshed : refreshedSnapshot rates admission system changedSpecs patches blockRef
        replies with
    | some next =>
      obtain ⟨nextId, filed⟩ := refreshedSnapshot_some rates admission refreshed
      refine Or.inl ⟨next, by simp only [snapshotStep, refreshed], nextId, filed, ?_, ?_⟩
      · intro publishes
        exact publishes (by rw [refreshed]; rfl)
      · intro newest _
        exact newest
    | none =>
      refine Or.inr ⟨fun published => ?_, Or.inl ⟨system.store, ?_, rfl, Or.inl rfl⟩⟩
      · rw [refreshed] at published
        cases published
      · simp only [snapshotStep, refreshed]
  | rollbackToBlock blockNumber =>
    exact Or.inr ⟨trivial, Or.inl ⟨_, rfl, system.store.ring_rollbackToBlock blockNumber,
      system.store.current_rollbackToBlock blockNumber⟩⟩
  | rollbackToSnapshot snapshotId =>
    exact Or.inr ⟨trivial, Or.inl ⟨_, rfl, system.store.ring_rollbackToSnapshot snapshotId,
      system.store.current_rollbackToSnapshot snapshotId⟩⟩
  | quote poolId tokenIn tokenOut amountIn replies =>
    refine Or.inr ⟨trivial, ?_⟩
    cases found : system.store.load.pool poolId with
    | some pool =>
      refine Or.inr ⟨poolId, pool, replies, tokenIn, tokenOut, amountIn, found, ?_⟩
      simp only [snapshotStep, found]
      rfl
    | none =>
      refine Or.inl ⟨system.store, ?_, rfl, Or.inl rfl⟩
      simp only [snapshotStep, found]

variable {rates admission settings localQuotes}

theorem consistent_publish {system : SnapshotSystem} {next : GraphSnapshot}
    (consistent : Consistent settings localQuotes system) (filed : PoolsFiled next.pools) :
    Consistent settings localQuotes (publishSnapshot system next) where
  current := List.mem_cons_self
  ring := by
    intro entry member
    rcases GraphStore.ring_publish member with same | old
    · exact same ▸ List.mem_cons_self
    · exact List.mem_cons_of_mem _ (consistent.ring entry old)
  filed := by
    intro entry member
    rcases List.mem_cons.mp member with same | old
    · exact same ▸ filed
    · exact consistent.filed entry old
  cache := by
    intro key amount stored
    obtain ⟨entry, member, entryOf⟩ := consistent.cache key amount stored
    exact ⟨entry, List.mem_cons_of_mem _ member, entryOf⟩

theorem consistent_step {system : SnapshotSystem} (event : SnapshotEvent)
    (consistent : Consistent settings localQuotes system) :
    Consistent settings localQuotes
      (snapshotStep rates admission settings localQuotes system event) := by
  rcases snapshotStep_cases rates admission settings localQuotes system event with
    ⟨next, stepped, _, filed, _⟩ | ⟨_, ⟨store, stepped, ring, current⟩ |
      ⟨poolId, pool, replies, tokenIn, tokenOut, amountIn, found, stepped⟩⟩
  · rw [stepped]
    exact consistent_publish consistent (filed (consistent.filed _ consistent.current))
  · rw [stepped]
    refine ⟨?_, fun entry member => consistent.ring entry (ring ▸ member), consistent.filed,
      consistent.cache⟩
    rcases current with same | older
    · show store.current ∈ system.published
      rw [same]
      exact consistent.current
    · exact consistent.ring _ older
  · rw [stepped]
    refine ⟨consistent.current, consistent.ring, consistent.filed, fun key amount stored => ?_⟩
    rcases stored_quotePool stored with old | ⟨same, quoted⟩
    · exact consistent.cache key amount old
    · refine ⟨system.store.current, consistent.current, ?_⟩
      have own : pool.poolId = poolId :=
        consistent.filed _ consistent.current poolId pool found
      rw [same]
      exact ⟨rfl, pool, by rw [quoteKey, own]; exact found, quoted⟩

/-- With unique ids a consistent cache answers for the current snapshot only. -/
theorem ownQuotes_of_uniqueIds {system : SnapshotSystem}
    (consistent : Consistent settings localQuotes system) (unique : UniqueIds system) :
    OwnQuotes settings localQuotes system := by
  intro poolId pool found replies tokenIn tokenOut amountIn amount after quoted
  rcases quotePool_cases quoted with stored | computed
  · obtain ⟨entry, member, sameId, entryPool, entryFound, entryQuoted⟩ :=
      consistent.cache _ amount stored
    have same : entry = system.store.current :=
      List.inj_on_of_nodup_map unique member consistent.current sameId
    have own : pool.poolId = poolId := consistent.filed _ consistent.current poolId pool found
    subst same
    rw [quoteKey, own] at entryFound
    have samePool : entryPool = pool := Option.some.inj (entryFound.symm.trans found)
    exact samePool ▸ entryQuoted
  · exact computed

theorem uniqueIds_publish {system : SnapshotSystem} {next : GraphSnapshot}
    (unique : UniqueIds system) (newest : AtNewest system)
    (nextId : next.snapshotId = (system.store.current.snapshotId + 1) % 2 ^ 64) :
    UniqueIds (publishSnapshot system next) := by
  refine List.nodup_cons.mpr ⟨fun member => ?_, unique⟩
  obtain ⟨entry, earlier, sameId⟩ := List.mem_map.mp member
  have bound := newest.2 entry earlier
  rw [sameId, nextId, Nat.mod_eq_of_lt newest.1] at bound
  exact Nat.not_succ_le_self _ bound

theorem uniqueIds_step {system : SnapshotSystem} {event : SnapshotEvent}
    (unique : UniqueIds system) (condition : PublishesAtNewest rates admission system event) :
    UniqueIds (snapshotStep rates admission settings localQuotes system event) := by
  rcases snapshotStep_cases rates admission settings localQuotes system event with
    ⟨next, stepped, nextId, _, newest⟩ | ⟨_, ⟨store, stepped, _⟩ | ⟨_, _, _, _, _, _, _, stepped⟩⟩
  · rw [stepped]
    exact uniqueIds_publish unique (newest.mp condition) nextId
  · rw [stepped]
    exact unique
  · rw [stepped]
    exact unique

/-! ### The converse, before the ids wrap -/

/-- No id between the first one and a published one has been left out. -/
structure NoIdSkipped (first : Nat) (system : SnapshotSystem) : Prop where
  above : ∀ entry ∈ system.published, first ≤ entry.snapshotId
  filled : ∀ entry ∈ system.published, ∀ id, first ≤ id → id ≤ entry.snapshotId →
    ∃ earlier ∈ system.published, earlier.snapshotId = id

theorem noIdSkipped_publish {first : Nat} {system : SnapshotSystem} {next : GraphSnapshot}
    (noneSkipped : NoIdSkipped first system) (current : system.store.current ∈ system.published)
    (nextId : next.snapshotId = system.store.current.snapshotId + 1) :
    NoIdSkipped first (publishSnapshot system next) where
  above := by
    intro entry member
    rcases List.mem_cons.mp member with same | old
    · rw [same, nextId]
      exact (noneSkipped.above _ current).trans (Nat.le_succ _)
    · exact noneSkipped.above entry old
  filled := by
    intro entry member id atLeast atMost
    rcases List.mem_cons.mp member with same | old
    · subst same
      rcases Nat.lt_or_ge id entry.snapshotId with less | notLess
      · rw [nextId] at less
        obtain ⟨earlier, found, sameId⟩ := noneSkipped.filled _ current id atLeast
          (Nat.lt_succ_iff.mp less)
        exact ⟨earlier, List.mem_cons_of_mem _ found, sameId⟩
      · exact ⟨entry, List.mem_cons_self, Nat.le_antisymm notLess atMost⟩
    · obtain ⟨earlier, found, sameId⟩ := noneSkipped.filled entry old id atLeast atMost
      exact ⟨earlier, List.mem_cons_of_mem _ found, sameId⟩

/-- Publishing from an older snapshot hands out an id that is taken. -/
theorem atNewest_of_uniqueIds_publish {first : Nat} {system : SnapshotSystem}
    {next : GraphSnapshot} (noneSkipped : NoIdSkipped first system)
    (current : system.store.current ∈ system.published)
    (nextId : next.snapshotId = system.store.current.snapshotId + 1)
    (unique : UniqueIds (publishSnapshot system next)) :
    ∀ earlier ∈ system.published, earlier.snapshotId ≤ system.store.current.snapshotId := by
  intro earlier member
  by_contra older
  obtain ⟨taken, found, sameId⟩ := noneSkipped.filled earlier member
    (system.store.current.snapshotId + 1)
    ((noneSkipped.above _ current).trans (Nat.le_succ _)) (Nat.lt_of_not_le older)
  refine (List.nodup_cons.mp unique).1 (List.mem_map.mpr ⟨taken, found, ?_⟩)
  rw [sameId, nextId]

theorem stepsMeet_of_always_uniqueIds {first : Nat} {system : SnapshotSystem}
    {events : List SnapshotEvent} (consistent : Consistent settings localQuotes system)
    (noneSkipped : NoIdSkipped first system)
    (room : ∀ entry ∈ system.published, entry.snapshotId + events.length < 2 ^ 64)
    (always : Always (snapshotStep rates admission settings localQuotes) UniqueIds system
      events) :
    StepsMeet (snapshotStep rates admission settings localQuotes)
      (PublishesAtNewest rates admission) system events := by
  induction events generalizing system with
  | nil => exact trivial
  | cons event rest inductionHypothesis =>
    have consistentAfter : Consistent settings localQuotes
        (snapshotStep rates admission settings localQuotes system event) :=
      consistent_step event consistent
    have shorter : ∀ entry ∈ system.published, entry.snapshotId + 1 + rest.length < 2 ^ 64 := by
      intro entry member
      have bound := room entry member
      rw [List.length_cons] at bound
      omega
    rcases snapshotStep_cases rates admission settings localQuotes system event with
      ⟨next, stepped, nextId, _, newest⟩ | ⟨condition, kept⟩
    · have bound := shorter _ consistent.current
      rw [Nat.mod_eq_of_lt (by omega)] at nextId
      have unique : UniqueIds (publishSnapshot system next) := stepped ▸ always.2.start
      refine ⟨newest.mpr ⟨by omega, ?_⟩, inductionHypothesis consistentAfter ?_ ?_ always.2⟩
      · exact atNewest_of_uniqueIds_publish noneSkipped consistent.current nextId unique
      · rw [stepped]
        exact noIdSkipped_publish noneSkipped consistent.current nextId
      · rw [stepped]
        intro entry member
        rcases List.mem_cons.mp member with same | old
        · rw [same, nextId]
          exact bound
        · have := shorter entry old
          omega
    · have published : (snapshotStep rates admission settings localQuotes system
          event).published = system.published := by
        rcases kept with ⟨_, stepped, _⟩ | ⟨_, _, _, _, _, _, _, stepped⟩ <;> rw [stepped]
      refine ⟨condition, inductionHypothesis consistentAfter ⟨?_, ?_⟩ ?_ always.2⟩
      · rw [published]
        exact noneSkipped.above
      · rw [published]
        exact noneSkipped.filled
      · rw [published]
        intro entry member
        have := shorter entry member
        omega

/-! ### Runs from the initial snapshot -/

theorem consistent_start {initial : GraphSnapshot} (filed : PoolsFiled initial.pools)
    (maxSnapshots maxSegments maxEntries : Nat) :
    Consistent settings localQuotes
      (.start initial maxSnapshots maxSegments maxEntries) where
  current := List.mem_cons_self
  ring := fun _ member => member
  filed := fun entry member => List.mem_singleton.mp member ▸ filed
  cache := fun _ _ stored => by cases stored

/-- In every run in which each publish happens while the newest snapshot is current, no two
snapshots share an id and every quote on the current snapshot is one of its own. Conversely, as
long as the ids do not wrap, a run with unique ids is one that publishes only so. -/
theorem uniqueIds_iff_publishesAtNewest (initial : GraphSnapshot)
    (filed : PoolsFiled initial.pools) (maxSnapshots maxSegments maxEntries : Nat)
    (events : List SnapshotEvent) :
    (StepsMeet (snapshotStep rates admission settings localQuotes)
        (PublishesAtNewest rates admission)
        (.start initial maxSnapshots maxSegments maxEntries) events →
      Always (snapshotStep rates admission settings localQuotes)
        (fun system => UniqueIds system ∧ OwnQuotes settings localQuotes system)
        (.start initial maxSnapshots maxSegments maxEntries) events) ∧
    (initial.snapshotId + events.length < 2 ^ 64 →
      Always (snapshotStep rates admission settings localQuotes) UniqueIds
        (.start initial maxSnapshots maxSegments maxEntries) events →
      StepsMeet (snapshotStep rates admission settings localQuotes)
        (PublishesAtNewest rates admission)
        (.start initial maxSnapshots maxSegments maxEntries) events) := by
  have consistent : Consistent settings localQuotes
      (.start initial maxSnapshots maxSegments maxEntries) :=
    consistent_start filed maxSnapshots maxSegments maxEntries
  constructor
  · intro meets
    have preserved : ∀ system event,
        (Consistent settings localQuotes system ∧ UniqueIds system) →
        PublishesAtNewest rates admission system event →
        Consistent settings localQuotes
            (snapshotStep rates admission settings localQuotes system event) ∧
          UniqueIds (snapshotStep rates admission settings localQuotes system event) :=
      fun system event invariant condition =>
        ⟨consistent_step event invariant.1, uniqueIds_step invariant.2 condition⟩
    refine (always_of_stepsMeet preserved ⟨consistent, List.nodup_singleton _⟩ meets).mono ?_
    exact fun system invariant =>
      ⟨invariant.2, ownQuotes_of_uniqueIds invariant.1 invariant.2⟩
  · intro room always
    have noneSkipped : NoIdSkipped initial.snapshotId
        (.start initial maxSnapshots maxSegments maxEntries) := by
      refine ⟨fun entry member => ?_, fun entry member id atLeast atMost => ?_⟩
      · rw [List.mem_singleton.mp member]
      · rw [List.mem_singleton.mp member] at atMost
        exact ⟨initial, List.mem_cons_self, Nat.le_antisymm atLeast atMost⟩
    refine stepsMeet_of_always_uniqueIds consistent noneSkipped (fun entry member => ?_) always
    rw [List.mem_singleton.mp member]
    exact room

end Run

/-! ### A refresh after a rollback -/

def refreshRates : FloatRates where
  spot := fun _ _ _ => (0, 0)
  priceLimitCapacityIn := fun _ _ => none

def refreshToken (address : Address) : TokenInfo where
  address := address
  symbol := ""
  decimals := 18
  isStable := false
  isCycleAnchor := false
  flashLoanEnabled := false
  allowSelfFunded := true
  manualPriceUsdE8 := none
  maxPositionUsdE8 := none
  maxFlashLoanUsdE8 := none

def refreshPair : PoolState where
  poolId := 10
  dexName := "uniswap_v2"
  kind := .uniswapV2Like
  tokenAddresses := [1, 2]
  factory := none
  registry := none
  vault := none
  quoter := none
  admissionStatus := .allowed
  health :=
    { stale := false, paused := false, quarantined := false, confidenceBps := 10000
      lastSuccessfulRefreshBlock := 100, lastRefreshAt := 0, recentRevertCount := 0 }
  state := .uniswapV2Like { reserve0 := 1000, reserve1 := 1000, feePpm := 3000 }
  lastUpdatedBlock := 100

def refreshBlock (number : Nat) : BlockRef where
  number := number
  hash := number
  parentHash := 0
  finality := .sealed

/-- The snapshot of block 100, with the one pair. -/
def snapshotAt100 : GraphSnapshot :=
  GraphSnapshot.build refreshRates 0 (some (refreshBlock 100))
    [refreshToken 1, refreshToken 2] (HashMap.ofList [(refreshPair.poolId, refreshPair)])

/-- A refresh that syncs the pair to the given reserves at block 101. -/
def syncRefresh (reserve0 reserve1 : Nat) : SnapshotEvent :=
  .refresh [] [.uniswapV2Sync 10 reserve0 reserve1 (some 101)] (some (refreshBlock 101))
    { patchClock := fun _ => 0
      admitClock := 0
      fetchPool := fun _ => .ok none
      extendTokens := fun tokens _ => .ok tokens }

def refreshAdmission : AdmissionFilter where
  minConfidenceBps := 0
  stalenessTimeout := 0

def pairSystem : SnapshotSystem :=
  .start snapshotAt100 8 4 20000

def pairStep : SnapshotSystem → SnapshotEvent → SnapshotSystem :=
  snapshotStep refreshRates refreshAdmission localSettings zeroQuotes

def pairQuote : SnapshotEvent :=
  .quote 10 1 2 100 silentReplies

theorem poolsFiled_snapshotAt100 : PoolsFiled snapshotAt100.pools := by
  intro poolId pool stored
  have found : (HashMap.ofList [(refreshPair.poolId, refreshPair)]).lookup poolId = some pool :=
    stored
  rw [HashMap.ofList, List.foldl_cons, List.foldl_nil, HashMap.lookup_insert] at found
  split at found
  · rename_i own
    injection found with same
    rw [← same, own]
  · cases found

/-- A run without a rollback in between. -/
theorem uniqueIds_refreshTwice :
    Always pairStep (fun system => UniqueIds system ∧ OwnQuotes localSettings zeroQuotes system)
      pairSystem [syncRefresh 1100 910, pairQuote, syncRefresh 1200 834, pairQuote] := by
  refine (uniqueIds_iff_publishesAtNewest snapshotAt100 poolsFiled_snapshotAt100 8 4 20000
    [syncRefresh 1100 910, pairQuote, syncRefresh 1200 834, pairQuote]).1
    ⟨fun _ => ?_, trivial, fun _ => ?_, trivial, trivial⟩
  · exact ⟨by decide, by decide +kernel⟩
  · exact ⟨by decide +kernel, by decide +kernel⟩

/-- The second refresh starts from block 100 again and reuses the id of the first one. The quote
of the first snapshot, 75, is then returned for the reserves of the second, which give 63. -/
theorem not_uniqueIds_refreshAfterRollback :
    ¬ Always pairStep UniqueIds pairSystem
        [syncRefresh 1100 910, pairQuote, .rollbackToBlock 100, syncRefresh 1200 834] ∧
      let system := runFrom pairStep pairSystem
        [syncRefresh 1100 910, pairQuote, .rollbackToBlock 100, syncRefresh 1200 834]
      (system.store.current.pool 10).map (fun pool =>
        ((quotePool localSettings zeroQuotes silentReplies system.store.current.snapshotId pool
            1 2 100 system.cache).1,
          computeQuote localSettings zeroQuotes silentReplies pool 1 2 100)) =
        some (.ok 75, .cached 63) := by
  refine ⟨fun always => ?_, rfl⟩
  have last : UniqueIds (runFrom pairStep pairSystem
      [syncRefresh 1100 910, pairQuote, .rollbackToBlock 100, syncRefresh 1200 834]) :=
    always.last
  have ids : (runFrom pairStep pairSystem [syncRefresh 1100 910, pairQuote, .rollbackToBlock 100,
      syncRefresh 1200 834]).published.map GraphSnapshot.snapshotId = [1, 1, 0] := by
    decide +kernel
  unfold UniqueIds at last
  rw [ids] at last
  exact absurd last (by decide)

end DexArbitrage
