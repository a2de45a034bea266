/-
This file says when the scans of a factory that only grows find all of its
entries. A scan records how many entries the factory has, and later scans start
from there. The batches of a scan leave out the entries whose calls failed
without saying so, hence an entry that is missed once is missed for good. If
no call of a batch fails, unless the whole batch does and the scan falls back
to single calls, then every stored scan covers the entries below its cursor.
-/

import DexArbitrage.Contracts.Abi
import DexArbitrage.Discovery.FactoryScan
import DexArbitrage.Lib.Program
import DexArbitrage.Lib.Run

namespace DexArbitrage

/-! ### A factory that only grows -/

/-- The index that a call asks for. -/
def FactoryCall.index? : FactoryCall → Option Nat
  | .allPairs index => some index
  | .allPools index => some index
  | _ => none

/-- Whatever is returned for an index, now or while the factory was shorter, is its entry, and a
batch is answered call by call. -/
structure AnswersFrom (decoder : ReturnDecoder) (factory : Address) (contents : List Address)
    (replies : RpcReplies) : Prop where
  entry : ∀ call index raw address, call.index? = some index →
    replies.ethCall factory call = .ok raw → decoder.address raw = .ok address →
      contents[index]? = some address
  batch : ∀ target calls results, replies.multicall target calls = .ok results →
    List.Forall₂ (fun call result => call.1 = factory → ∀ index address,
      call.2.index? = some index → result.success = true →
        decoder.address result.returnData = .ok address → contents[index]? = some address)
      calls results

/-- The calls of one of the two factories. -/
structure FactoryApi.Indexed (api : FactoryApi) : Prop where
  entryCall : ∀ index, (api.entryCall index).index? = some index

theorem indexed_uniswapV2Api : uniswapV2Api.Indexed := ⟨fun _ => rfl⟩

theorem indexed_solidlyApi : solidlyApi.Indexed := ⟨fun _ => rfl⟩

/-- The entries of the factory below a number are among the pools. -/
def CoversBelow (contents : List Address) (count : Nat) (pools : List DiscoveredPool) : Prop :=
  ∀ index < count, ∃ entry, contents[index]? = some entry ∧ ∃ pool ∈ pools, pool.address = entry

theorem CoversBelow.grow {contents : List Address} {count : Nat} {pools : List DiscoveredPool}
    (covers : CoversBelow contents count pools) (more : List Address) :
    CoversBelow (contents ++ more) count pools := by
  intro index below
  obtain ⟨entry, found, listed⟩ := covers index below
  have inContents := (List.getElem?_eq_some_iff.mp found).1
  exact ⟨entry, (List.getElem?_append_left inContents).trans found, listed⟩

theorem CoversBelow.fewer {contents : List Address} {count fewer : Nat}
    {pools : List DiscoveredPool} (covers : CoversBelow contents count pools)
    (below : fewer ≤ count) : CoversBelow contents fewer pools :=
  fun index inside => covers index (Nat.lt_of_lt_of_le inside below)

/-- The addresses are the entries at the indices. -/
def EntriesAt (contents : List Address) (indices : List Nat) (addresses : List Address) : Prop :=
  List.Forall₂ (fun index address => contents[index]? = some address) indices addresses

/-- Dropping duplicates and sorting keep every address. -/
theorem CoversBelow.dedupPools {contents : List Address} {count : Nat}
    {pools : List DiscoveredPool} (covers : CoversBelow contents count pools) :
    CoversBelow contents count (dedupPools pools) := by
  intro index below
  obtain ⟨entry, found, pool, listed, isEntry⟩ := covers index below
  have sorted := (List.perm_insertionSort
    (fun a b : DiscoveredPool => b.priority ≤ a.priority) pools).mem_iff.mpr listed
  obtain ⟨kept, inKept, sameKey⟩ :=
    exists_mem_dedupBy (fun pool => (pool.dexName, pool.address)) sorted List.not_mem_nil
  injection sameKey with _ sameAddress
  exact ⟨entry, found, kept, inKept, sameAddress.trans isEntry⟩

/-! ### Batches of indices -/

theorem flatten_indexBatches {chunkSize len : Nat} (positive : 0 < chunkSize)
    (fits : len ≤ u64Max) (fuel start : Nat) (enough : len ≤ start + fuel) :
    (indexBatches chunkSize len fuel start).flatten = List.range' start (len - start) := by
  induction fuel generalizing start with
  | zero =>
    have none : len - start = 0 := by omega
    rw [none]
    rfl
  | succ fuel inductionHypothesis =>
    unfold indexBatches
    split
    · rename_i below
      simp only
      have stop : start < min (saturatingAdd u64Max start chunkSize) len ∧
          min (saturatingAdd u64Max start chunkSize) len ≤ len := by
        unfold saturatingAdd
        omega
      generalize min (saturatingAdd u64Max start chunkSize) len = next at stop
      rw [List.flatten_cons, inductionHypothesis next (by omega)]
      have joined := List.range'_append_1 (m := next - start) (n := len - next) (s := start)
      rw [Nat.add_sub_cancel' stop.1.le] at joined
      rw [joined]
      congr 1
      omega
    · have none : len - start = 0 := by omega
      rw [none]
      rfl

theorem chunkSize_pos (env : DiscoveryEnv) : 0 < env.chunkSize := by
  unfold DiscoveryEnv.chunkSize envUsize
  cases kept : env.multicallChunkSize.filter (0 < ·) with
  | none => exact (by decide : 0 < 500)
  | some size => exact of_decide_eq_true (Option.filter_eq_some_iff.mp kept).2

theorem u256ToU64_le (value : Nat) : u256ToU64 value ≤ u64Max := by
  unfold u256ToU64
  split
  · assumption
  · exact Nat.zero_le _

/-! ### The entries that a scan looks up -/

section Lookup

variable {env : DiscoveryEnv} {replies : RpcReplies} {decoder : ReturnDecoder}
  {factory : Address} {contents : List Address} {api : FactoryApi}

/-- What the calls of a batch are reported to have returned. -/
def Reported (env : DiscoveryEnv) (replies : RpcReplies) (calls : List (Address × FactoryCall))
    (results : List MulticallResult) : Prop :=
  calls = [] ∧ results = [] ∨ calls ≠ [] ∧ ∃ target, env.multicallTarget = some target ∧
    replies.multicall target calls = .ok results

theorem Reported.eq {calls : List (Address × FactoryCall)} {results others : List MulticallResult}
    (reported : Reported env replies calls results) (other : Reported env replies calls others) :
    results = others := by
  rcases reported with ⟨empty, noResults⟩ | ⟨nonempty, target, isTarget, replied⟩
  · rcases other with ⟨_, noOthers⟩ | ⟨nonempty, _⟩
    · exact noResults.trans noOthers.symm
    · exact absurd empty nonempty
  · rcases other with ⟨empty, _⟩ | ⟨_, otherTarget, isOther, otherReplied⟩
    · exact absurd empty nonempty
    · rw [isTarget] at isOther
      injection isOther with same
      rw [← same, replied] at otherReplied
      injection otherReplied

/-- Every call of every batch of the scan succeeds, as far as the batch is answered. -/
def SubcallsSucceed (env : DiscoveryEnv) (replies : RpcReplies) (api : FactoryApi)
    (factory : Address) (start len : Nat) : Prop :=
  ∀ indices ∈ indexBatches env.chunkSize len (len - start) start, ∀ results,
    Reported env replies (batchCalls api factory indices) results →
      ∀ result ∈ results, result.success = true

theorem aggregate3_ok {calls : List (Address × FactoryCall)} {returned : List (Option Bytes)}
    (aggregated : aggregate3 env replies calls = .ok returned) :
    ∃ results, Reported env replies calls results ∧ returned = results.map fun result =>
      if result.success then some result.returnData else none := by
  unfold aggregate3 at aggregated
  split at aggregated
  · rename_i empty
    injection aggregated with same
    exact ⟨[], Or.inl ⟨empty, rfl⟩, same.symm⟩
  · rename_i nonempty
    split at aggregated
    · cases aggregated
    · rename_i target isTarget
      obtain ⟨results, replied, same⟩ := bind_eq_ok_iff.mp aggregated
      injection same with same
      exact ⟨results, Or.inr ⟨nonempty, target, isTarget, replied⟩, same.symm⟩

theorem replyContext_ok {Value : Type} {context : RpcError} {result : Except RpcError Value}
    {value : Value} (succeeds : replyContext context result = .ok value) : result = .ok value := by
  cases result with
  | error reason => cases succeeds
  | ok found => exact succeeds

/-- What is returned by successful calls. -/
theorem reduceOption_results (results : List MulticallResult) :
    (results.map fun result => if result.success then some result.returnData else none).reduceOption
      = (results.filter MulticallResult.success).map MulticallResult.returnData := by
  induction results with
  | nil => rfl
  | cons result rest inductionHypothesis =>
    rw [List.map_cons]
    cases success : result.success with
    | true =>
      rw [if_pos rfl, List.reduceOption_cons_of_some, inductionHypothesis,
        List.filter_cons_of_pos success, List.map_cons]
    | false =>
      rw [if_neg Bool.false_ne_true, List.reduceOption_cons_of_none, inductionHypothesis,
        List.filter_cons_of_neg (by rw [success]; exact Bool.false_ne_true)]

/-- A batch yields at most one address for each index, and the entries at its indices if all of
its calls succeeded. -/
theorem scanBatch_ok (answers : AnswersFrom decoder factory contents replies)
    (indexed : api.Indexed) {indices : List Nat} {addresses : List Address}
    (scanned : scanBatch env replies decoder api factory indices = .ok addresses) :
    ∃ results, Reported env replies (batchCalls api factory indices) results ∧
      addresses.length ≤ indices.length ∧
      (addresses.length = indices.length ↔ ∀ result ∈ results, result.success = true) ∧
      (addresses.length = indices.length → EntriesAt contents indices addresses) := by
  obtain ⟨returned, aggregated, decoded⟩ := bind_eq_ok_iff.mp scanned
  obtain ⟨results, reported, same⟩ := aggregate3_ok aggregated
  have matched : List.Forall₂ (fun call result => call.1 = factory → ∀ index address,
      call.2.index? = some index → result.success = true →
        decoder.address result.returnData = .ok address → contents[index]? = some address)
      (batchCalls api factory indices) results := by
    rcases reported with ⟨noCalls, noResults⟩ | ⟨_, target, _, replied⟩
    · rw [noCalls, noResults]
      exact List.Forall₂.nil
    · exact answers.batch target _ results replied
  have lengths : indices.length = results.length := by
    rw [← matched.length_eq]
    exact (List.length_map _).symm
  have found := forall₂_of_mapM_ok decoded
  rw [same, reduceOption_results, List.forall₂_map_left_iff] at found
  have someFail := List.length_filter_le MulticallResult.success results
  have allSucceed := List.length_filter_eq_length_iff (p := MulticallResult.success) (l := results)
  rw [found.length_eq] at someFail allSucceed
  refine ⟨results, reported, lengths ▸ someFail, lengths ▸ allSucceed, fun full => ?_⟩
  have succeed := allSucceed.mp (full.trans lengths)
  rw [List.filter_eq_self.mpr succeed] at found
  unfold batchCalls at matched
  rw [List.forall₂_map_left_iff] at matched
  refine forall₂_compose ?_ matched (related_and_mem found)
  intro index result address answered decodes
  exact answered rfl index address (indexed.entryCall index) (succeed result decodes.1)
    (replyContext_ok decodes.2.2)

theorem scanSequential_ok (answers : AnswersFrom decoder factory contents replies)
    (indexed : api.Indexed) {start len : Nat} {addresses : List Address}
    (scanned : scanSequential replies decoder api factory start len = .ok addresses) :
    EntriesAt contents (List.range' start (len - start)) addresses := by
  refine (forall₂_of_mapM_ok scanned).imp fun index address looked => ?_
  obtain ⟨raw, replied, decodes⟩ := bind_eq_ok_iff.mp looked
  exact answers.entry _ index raw address (indexed.entryCall index) replied
    (replyContext_ok decodes)

/-- The batches yield all entries exactly if every call of every batch succeeds. -/
theorem scanMulticall_ok (answers : AnswersFrom decoder factory contents replies)
    (indexed : api.Indexed) {start len : Nat} (fits : len ≤ u64Max) {addresses : List Address}
    (scanned : scanMulticall env replies decoder api factory start len = .ok addresses) :
    addresses.length ≤ len - start ∧
      (addresses.length = len - start ↔ SubcallsSucceed env replies api factory start len) ∧
      (addresses.length = len - start →
        EntriesAt contents (List.range' start (len - start)) addresses) := by
  unfold scanMulticall at scanned
  split at scanned
  · cases scanned
  · obtain ⟨parts, all, same⟩ := bind_eq_ok_iff.mp scanned
    injection same with same
    have related := forall₂_of_mapM_ok all
    have indices := flatten_indexBatches (chunkSize_pos env) fits (len - start) start (by omega)
    have shorter : ∀ indices part,
        scanBatch env replies decoder api factory indices = .ok part →
          part.length ≤ indices.length := by
      intro indices part ok
      obtain ⟨_, _, atMost, _⟩ := scanBatch_ok answers indexed ok
      exact atMost
    have count : (indexBatches env.chunkSize len (len - start) start).flatten.length =
        len - start := by
      rw [indices]
      exact List.length_range'
    have fromParts : List.Forall₂ (EntriesAt contents)
        (indexBatches env.chunkSize len (len - start) start) parts →
          EntriesAt contents (List.range' start (len - start)) addresses := by
      intro each
      rw [← indices, ← same]
      exact List.rel_flatten each
    refine ⟨?_, ⟨fun full => ?_, fun succeed => ?_⟩, fun full => ?_⟩
    · rw [← same, ← count]
      exact length_flatten_le shorter related
    · rw [← same, ← count] at full
      intro batch member results reported result isResult
      obtain ⟨part, _, ok, fullPart⟩ :=
        exists_related_of_mem (forall₂_length_eq shorter related full.ge) member
      obtain ⟨others, otherReported, _, succeed, _⟩ := scanBatch_ok answers indexed ok
      exact succeed.mp fullPart result (reported.eq otherReported ▸ isResult)
    · have each := (related_and_mem related).imp fun batch part ⟨member, _, ok⟩ => by
        obtain ⟨results, reported, _, full, entries⟩ := scanBatch_ok answers indexed ok
        exact entries (full.mpr (succeed batch member results reported))
      rw [← (fromParts each).length_eq, List.length_range']
    · rw [← same, ← count] at full
      refine fromParts ((forall₂_length_eq shorter related full.ge).imp ?_)
      intro batch part ⟨ok, fullPart⟩
      obtain ⟨_, _, _, _, entries⟩ := scanBatch_ok answers indexed ok
      exact entries fullPart

end Lookup

/-! ### One scan -/

section Scan

variable {env : DiscoveryEnv} {replies : RpcReplies} {decoder : ReturnDecoder}
  {factory : Address} {contents : List Address} {api : FactoryApi}

/-- The batch is answered, and what its successful calls returned decodes. -/
def BatchDecodes (env : DiscoveryEnv) (replies : RpcReplies) (decoder : ReturnDecoder)
    (api : FactoryApi) (factory : Address) (indices : List Nat) : Prop :=
  ∃ results, Reported env replies (batchCalls api factory indices) results ∧
    ∀ result ∈ results, result.success = true →
      ∃ address, decoder.address result.returnData = .ok address

/-- The batches are disabled, or one of them is not answered or does not decode; then the scan
falls back. -/
def BatchesFail (env : DiscoveryEnv) (replies : RpcReplies) (decoder : ReturnDecoder)
    (api : FactoryApi) (factory : Address) (start len : Nat) : Prop :=
  env.disableMulticall = true ∨
    ∃ indices ∈ indexBatches env.chunkSize len (len - start) start,
      ¬ BatchDecodes env replies decoder api factory indices

/-- The batches fail as a whole, or all of their calls succeed. -/
def NothingSkipped (env : DiscoveryEnv) (replies : RpcReplies) (decoder : ReturnDecoder)
    (api : FactoryApi) (factory : Address) (start len : Nat) : Prop :=
  BatchesFail env replies decoder api factory start len ∨
    SubcallsSucceed env replies api factory start len

theorem batchDecodes_of_scanBatch {indices : List Nat} {addresses : List Address}
    (scanned : scanBatch env replies decoder api factory indices = .ok addresses) :
    BatchDecodes env replies decoder api factory indices := by
  obtain ⟨returned, aggregated, decoded⟩ := bind_eq_ok_iff.mp scanned
  obtain ⟨results, reported, same⟩ := aggregate3_ok aggregated
  have found := forall₂_of_mapM_ok decoded
  rw [same, reduceOption_results, List.forall₂_map_left_iff] at found
  refine ⟨results, reported, fun result member success => ?_⟩
  obtain ⟨address, _, decodes⟩ :=
    exists_related_of_mem found (List.mem_filter.mpr ⟨member, success⟩)
  exact ⟨address, replyContext_ok decodes⟩

/-- Batches that yield entries have not failed. -/
theorem not_batchesFail_of_ok {start len : Nat} {addresses : List Address}
    (scanned : scanMulticall env replies decoder api factory start len = .ok addresses) :
    ¬ BatchesFail env replies decoder api factory start len := by
  unfold scanMulticall at scanned
  split at scanned
  · cases scanned
  · rename_i enabled
    rintro (disabled | ⟨indices, member, undecoded⟩)
    · exact enabled disabled
    · obtain ⟨parts, all, _⟩ := bind_eq_ok_iff.mp scanned
      obtain ⟨part, _, ok⟩ := exists_related_of_mem (forall₂_of_mapM_ok all) member
      exact undecoded (batchDecodes_of_scanBatch ok)

/-- The cached scan of the factory, if there is one, covers the entries below its cursor. -/
def CacheComplete (factory : Address) (contents : List Address)
    (cached : Option CachedDexScan) : Prop :=
  ∀ scan, cached = some scan → scan.factory = some factory →
    CoversBelow contents scan.cursor.count scan.pools

theorem factory_of_isMatch {cached : CachedDexScan} {dex : DexConfig} {latest : Nat}
    (isMatch : cached.isMatch dex latest = true) :
    cached.factory = dex.factory ∧ cached.sameDex dex = true := by
  have sameDex := (Bool.and_eq_true _ _ ▸ isMatch).1
  refine ⟨?_, sameDex⟩
  unfold CachedDexScan.sameDex at sameDex
  simp only [Bool.and_eq_true, decide_eq_true_eq] at sameDex
  exact sameDex.1.1.1.2

/-- The cached pools cover the entries before the start. -/
theorem coversBelow_scanStart {cached : Option CachedDexScan} {dex : DexConfig}
    (complete : CacheComplete factory contents cached) (isFactory : dex.factory = some factory)
    (latest len : Nat) :
    CoversBelow contents (scanStart cached dex latest len) (cachedPools cached dex) := by
  unfold scanStart cachedPools
  cases matching : cached.filter (·.isMatch dex latest) with
  | none => exact fun index below => absurd below (Nat.not_lt_zero index)
  | some scan =>
    obtain ⟨isCached, isMatch⟩ := Option.filter_eq_some_iff.mp matching
    obtain ⟨sameFactory, sameDex⟩ := factory_of_isMatch isMatch
    have kept : cached.filter (·.sameDex dex) = some scan :=
      Option.filter_eq_some_iff.mpr ⟨isCached, sameDex⟩
    rw [kept]
    exact (complete scan isCached (sameFactory.trans isFactory)).fewer (Nat.min_le_left _ _)

/-- Known pools up to an index and the entries from there on cover all of them. -/
theorem CoversBelow.extend {start len : Nat} {known : List DiscoveredPool}
    {addresses : List Address} (covers : CoversBelow contents start known)
    (entries : EntriesAt contents (List.range' start (len - start)) addresses)
    (pool : Address → DiscoveredPool) (samePool : ∀ address, (pool address).address = address)
    (seeded : List DiscoveredPool) :
    CoversBelow contents len (known ++ addresses.map pool ++ seeded) := by
  intro index below
  rcases Nat.lt_or_ge index start with before | after
  · obtain ⟨entry, found, old, listed, isEntry⟩ := covers index before
    exact ⟨entry, found, old, List.mem_append_left _ (List.mem_append_left _ listed), isEntry⟩
  · have inRange : index ∈ List.range' start (len - start) := by
      rw [List.mem_range'_1]
      omega
    obtain ⟨entry, listed, found⟩ := exists_related_of_mem entries inRange
    refine ⟨entry, found, pool entry, ?_, samePool entry⟩
    exact List.mem_append_left _ (List.mem_append_right _ (List.mem_map_of_mem listed))

/-- A scan of the factory that skips nothing goes on from a complete cache to complete pools. -/
theorem coversBelow_scanFactory (answers : AnswersFrom decoder factory contents replies)
    (indexed : api.Indexed) {seeds : Except RpcError (List DiscoveredPool)} {dex : DexConfig}
    {cached : Option CachedDexScan} {latest : Nat} (isFactory : dex.factory = some factory)
    (complete : CacheComplete factory contents cached)
    (nothingSkipped : ∀ raw ret, replies.ethCall factory api.lengthCall = .ok raw →
      decoder.uint256 raw = .ok ret → NothingSkipped env replies decoder api factory
        (scanStart cached dex latest (u256ToU64 ret)) (u256ToU64 ret))
    {pools : List DiscoveredPool} {cursor : ScanCursor}
    (scanned : scanFactory replies decoder api (scanMulticall env replies decoder api)
      (scanSequential replies decoder api) seeds dex cached latest = .ok (pools, cursor)) :
    CoversBelow contents cursor.count pools := by
  unfold scanFactory at scanned
  rw [isFactory] at scanned
  simp only at scanned
  obtain ⟨raw, replied, scanned⟩ := bind_eq_ok_iff.mp scanned
  obtain ⟨ret, decoded, scanned⟩ := bind_eq_ok_iff.mp scanned
  have skipped := nothingSkipped raw ret replied (replyContext_ok decoded)
  have fits := u256ToU64_le ret
  generalize u256ToU64 ret = len at scanned skipped fits
  split at scanned
  · rename_i scan full
    obtain ⟨matching, enough⟩ := Option.filter_eq_some_iff.mp full
    obtain ⟨isCached, isMatch⟩ := Option.filter_eq_some_iff.mp matching
    have sameFactory := (factory_of_isMatch isMatch).1
    injection scanned with same
    injection same with samePools sameCursor
    rw [← samePools, ← sameCursor]
    exact (complete scan isCached (sameFactory.trans isFactory)).fewer (of_decide_eq_true enough)
  · obtain ⟨addresses, looked, scanned⟩ := bind_eq_ok_iff.mp scanned
    obtain ⟨seeded, _, same⟩ := bind_eq_ok_iff.mp scanned
    injection same with same
    injection same with samePools sameCursor
    rw [← samePools, ← sameCursor]
    have entries : EntriesAt contents
        (List.range' (scanStart cached dex latest len) (len - scanStart cached dex latest len))
        addresses := by
      unfold entriesWithFallback at looked
      split at looked
      · rename_i found batches
        injection looked with same
        rw [← same]
        have fromBatches := scanMulticall_ok answers indexed fits batches
        rcases skipped with failed | succeed
        · exact absurd failed (not_batchesFail_of_ok batches)
        · exact fromBatches.2.2 (fromBatches.2.1.mpr succeed)
      · exact scanSequential_ok answers indexed looked
    have known := coversBelow_scanStart complete isFactory latest len
    exact (known.extend entries (dex.pool false) (fun _ => rfl) seeded).dedupPools

/-- The batches and the single calls yield the same entries exactly if all calls of the batches
succeed. -/
theorem scanMulticall_eq_scanSequential_iff
    (answers : AnswersFrom decoder factory contents replies) (indexed : api.Indexed)
    {start len : Nat} (fits : len ≤ u64Max) {batched single : List Address}
    (multicall : scanMulticall env replies decoder api factory start len = .ok batched)
    (sequential : scanSequential replies decoder api factory start len = .ok single) :
    batched = single ↔ SubcallsSucceed env replies api factory start len := by
  obtain ⟨_, full, entries⟩ := scanMulticall_ok answers indexed fits multicall
  have singleEntries := scanSequential_ok answers indexed sequential
  rw [← full]
  constructor
  · intro same
    rw [same, ← singleEntries.length_eq, List.length_range']
  · intro all
    refine eq_of_forall₂ (fun index address other found otherFound => ?_) (entries all)
      singleEntries
    rw [found] at otherFound
    injection otherFound

end Scan

/-! ### Histories of scans -/

/-- The entries of the factory, and the scan in the cache. -/
structure DiscoveryState where
  contents : List Address
  stored : Option CachedDexScan

structure ScanRequest where
  dex : DexConfig
  latest : Nat
  env : DiscoveryEnv
  replies : RpcReplies

/-- The factory grows, the cache is lost, or one of the two scans is made. What the factory gains
while a scan runs is gained before it, since replies may be about fewer entries. -/
inductive DiscoveryEvent
  | grow (entries : List Address)
  | forget
  | scanV2 (request : ScanRequest)
  | scanSolidly (tokens : List Address) (request : ScanRequest)

/-- The scan that an event makes, with the calls of its factory. -/
def DiscoveryEvent.scan? : DiscoveryEvent → Option (FactoryApi × ScanRequest)
  | .scanV2 request => some (uniswapV2Api, request)
  | .scanSolidly _ request => some (solidlyApi, request)
  | _ => none

section History

variable (decoder : ReturnDecoder) (factory : Address)

/-- A scan that succeeds is stored. -/
def storeScan (request : ScanRequest) (state : DiscoveryState)
    (scanned : Except RpcError (List DiscoveredPool × ScanCursor)) : DiscoveryState :=
  match scanned with
  | .ok (pools, cursor) =>
    { state with stored := some (.fromScan request.dex request.latest cursor pools) }
  | .error _ => state

def discoveryStep (state : DiscoveryState) : DiscoveryEvent → DiscoveryState
  | .grow entries => { state with contents := state.contents ++ entries }
  | .forget => { state with stored := none }
  | .scanV2 request => storeScan request state <|
      scanV2Factory request.env request.replies decoder request.dex state.stored request.latest
  | .scanSolidly tokens request => storeScan request state <|
      scanSolidlyFactory request.env request.replies decoder tokens request.dex state.stored
        request.latest

/-- The replies to a scan are about the entries of the factory. -/
def ScansAnswered (state : DiscoveryState) (event : DiscoveryEvent) : Prop :=
  ∀ api request, event.scan? = some (api, request) →
    AnswersFrom decoder factory state.contents request.replies

/-- A scan of the factory skips nothing. -/
def ScansSkipNothing (state : DiscoveryState) (event : DiscoveryEvent) : Prop :=
  ∀ api request, event.scan? = some (api, request) → request.dex.factory = some factory →
    ∀ raw ret, request.replies.ethCall factory api.lengthCall = .ok raw →
      decoder.uint256 raw = .ok ret →
        NothingSkipped request.env request.replies decoder api factory
          (scanStart state.stored request.dex request.latest (u256ToU64 ret)) (u256ToU64 ret)

def DiscoveryComplete (state : DiscoveryState) : Prop :=
  CacheComplete factory state.contents state.stored

variable {decoder factory}

theorem contents_storeScan (request : ScanRequest) (state : DiscoveryState)
    (scanned : Except RpcError (List DiscoveredPool × ScanCursor)) :
    (storeScan request state scanned).contents = state.contents := by
  cases scanned with
  | error reason => rfl
  | ok outcome => rfl

theorem discoveryComplete_storeScan {request : ScanRequest} {state : DiscoveryState}
    {scanned : Except RpcError (List DiscoveredPool × ScanCursor)}
    (complete : DiscoveryComplete factory state)
    (covers : ∀ pools cursor, scanned = .ok (pools, cursor) → request.dex.factory = some factory →
      CoversBelow state.contents cursor.count pools) :
    DiscoveryComplete factory (storeScan request state scanned) := by
  cases scanned with
  | error reason => exact complete
  | ok outcome =>
    intro scan isStored isFactory
    injection isStored with same
    subst same
    exact covers outcome.1 outcome.2 rfl isFactory

theorem discoveryComplete_step {state : DiscoveryState} {event : DiscoveryEvent}
    (complete : DiscoveryComplete factory state)
    (answered : ScansAnswered decoder factory state event)
    (skipNothing : ScansSkipNothing decoder factory state event) :
    DiscoveryComplete factory (discoveryStep decoder state event) := by
  cases event with
  | grow entries =>
    intro scan isStored isFactory
    exact (complete scan isStored isFactory).grow entries
  | forget =>
    intro scan none
    cases none
  | scanV2 request =>
    refine discoveryComplete_storeScan complete fun pools cursor scanned isFactory => ?_
    exact coversBelow_scanFactory (answered _ _ rfl) indexed_uniswapV2Api isFactory complete
      (skipNothing _ _ rfl isFactory) scanned
  | scanSolidly tokens request =>
    refine discoveryComplete_storeScan complete fun pools cursor scanned isFactory => ?_
    exact coversBelow_scanFactory (answered _ _ rfl) indexed_solidlyApi isFactory complete
      (skipNothing _ _ rfl isFactory) scanned

/-- In a history that starts without a cache and whose scans skip nothing, every stored scan of the
factory covers the entries below its cursor; and the batches of a scan yield what single calls
would exactly if all calls of the batches succeed. -/
theorem discoveryComplete_history (decoder : ReturnDecoder) (factory : Address) :
    (∀ start events, start.stored = none →
      StepsMeet (discoveryStep decoder) (ScansAnswered decoder factory) start events →
      StepsMeet (discoveryStep decoder) (ScansSkipNothing decoder factory) start events →
        Always (discoveryStep decoder) (DiscoveryComplete factory) start events) ∧
    ∀ api contents env replies start len batched single, FactoryApi.Indexed api →
      AnswersFrom decoder factory contents replies → len ≤ u64Max →
      scanMulticall env replies decoder api factory start len = .ok batched →
      scanSequential replies decoder api factory start len = .ok single →
        (batched = single ↔ SubcallsSucceed env replies api factory start len) := by
  constructor
  · intro start events cold answered skipNothing
    refine always_of_stepsMeet (fun state event complete meets => ?_) ?_
      (stepsMeet_and.mpr ⟨answered, skipNothing⟩)
    · exact discoveryComplete_step complete meets.1 meets.2
    · intro scan isStored
      rw [cold] at isStored
      cases isStored
  · intro api contents env replies start len batched single indexed answers fits
    exact scanMulticall_eq_scanSequential_iff answers indexed fits

end History

/-! ### A call that fails once -/

/-- A decoder of one word. -/
def wordDecoder : ReturnDecoder where
  uint256 raw := (decodeUint256 raw).elim (.error "Overrun") .ok
  address raw := (decodeAddress raw 0).elim (.error "Overrun") .ok

/-- The entry that a call asks for. -/
def entryOf (contents : List Address) (call : FactoryCall) : Option Address :=
  call.index?.bind (contents[·]?)

/-- A call of a batch fails when there is no entry, or for some of the indices. -/
def callResult (contents : List Address) (fails : Nat → Bool) (call : FactoryCall) :
    MulticallResult :=
  if call.index?.any fails then
    { success := false, returnData := [] }
  else
    (entryOf contents call).elim { success := false, returnData := [] } fun entry =>
      { success := true, returnData := encodeWord entry.toNat }

/-- What a factory with the given entries replies. -/
def chainReplies (contents : List Address) (fails : Nat → Bool) : RpcReplies where
  ethCall _ call :=
    if call.index?.isSome then
      (entryOf contents call).elim (.error "execution reverted") fun entry =>
        .ok (encodeWord entry.toNat)
    else
      .ok (encodeWord contents.length)
  multicall _ calls := .ok (calls.map fun call => callResult contents fails call.2)

theorem wordDecoder_address (raw : Bytes) :
    wordDecoder.address raw = (decodeAddress raw 0).elim (.error "Overrun") .ok := rfl

theorem wordDecoder_uint256 (raw : Bytes) :
    wordDecoder.uint256 raw = (abiWord raw 0).elim (.error "Overrun") .ok := rfl

theorem eq_of_wordDecoder {entry address : Address}
    (decoded : wordDecoder.address (encodeWord entry.toNat) = .ok address) : entry = address := by
  rw [wordDecoder_address, decodeAddress_encodeWord, Option.elim_some] at decoded
  exact Except.ok.inj decoded

theorem answersFrom_chainReplies (factory : Address) (contents : List Address)
    (fails : Nat → Bool) :
    AnswersFrom wordDecoder factory contents (chainReplies contents fails) := by
  have entryAt : ∀ call index, call.index? = some index →
      entryOf contents call = contents[index]? := by
    intro call index isIndex
    unfold entryOf
    rw [isIndex, Option.bind_some]
  constructor
  · intro call index raw address isIndex replied decoded
    unfold chainReplies at replied
    simp only [isIndex, Option.isSome_some, if_true, entryAt call index isIndex] at replied
    cases found : contents[index]? with
    | none =>
      rw [found, Option.elim_none] at replied
      cases replied
    | some entry =>
      rw [found, Option.elim_some] at replied
      rw [← Except.ok.inj replied] at decoded
      exact congrArg some (eq_of_wordDecoder decoded)
  · intro target calls results replied
    rw [← Except.ok.inj replied, List.forall₂_map_right_iff, List.forall₂_same]
    intro call _ _ index address isIndex success decoded
    unfold callResult at success decoded
    split at success
    · cases success
    · rename_i works
      rw [if_neg works, entryAt _ index isIndex] at decoded
      rw [entryAt _ index isIndex] at success
      cases found : contents[index]? with
      | none =>
        rw [found, Option.elim_none] at success
        cases success
      | some entry =>
        rw [found, Option.elim_some] at decoded
        exact congrArg some (eq_of_wordDecoder decoded)

/-- Without failing calls, nothing is skipped of a factory with the given entries. -/
theorem subcallsSucceed_chainReplies {api : FactoryApi} (indexed : api.Indexed)
    (env : DiscoveryEnv) (factory : Address) {contents : List Address}
    (fits : contents.length ≤ u64Max) (start : Nat) :
    SubcallsSucceed env (chainReplies contents fun _ => false) api factory start
      contents.length := by
  intro indices member results reported result isResult
  rcases reported with ⟨_, noResults⟩ | ⟨_, target, _, replied⟩
  · rw [noResults] at isResult
    cases isResult
  · rw [← Except.ok.inj replied] at isResult
    unfold batchCalls at isResult
    rw [List.map_map] at isResult
    obtain ⟨index, inBatch, same⟩ := List.mem_map.mp isResult
    have inRange : index ∈ List.range' start (contents.length - start) := by
      rw [← flatten_indexBatches (chunkSize_pos env) fits (contents.length - start) start
        (by omega)]
      exact List.mem_flatten.mpr ⟨indices, member, inBatch⟩
    rw [List.mem_range'_1] at inRange
    have found : contents[index]? = some contents[index] := List.getElem?_eq_getElem (by omega)
    rw [← same]
    simp [callResult, entryOf, indexed.entryCall index, found]

/-- The factory of the pairs. -/
def pairFactory : DexConfig where
  name := "uniswap_v2"
  ammKind := .uniswapV2Like
  discoveryKind := .factoryAllPairs
  factory := some 9
  registry := none
  vault := none
  quoter := none

/-- Batches of two. -/
def pairEnv : DiscoveryEnv where
  multicall3Address := none
  disableMulticall := false
  multicallChunkSize := some 2
  refreshConfiguredSeeds := false

def pairScan (latest : Nat) (contents : List Address) (fails : Nat → Bool) : DiscoveryEvent :=
  .scanV2 { dex := pairFactory, latest, env := pairEnv, replies := chainReplies contents fails }

section PairScan

variable {state : DiscoveryState} {contents : List Address}

theorem scansAnswered_pairScan (latest : Nat) (fails : Nat → Bool)
    (same : state.contents = contents) :
    ScansAnswered wordDecoder 9 state (pairScan latest contents fails) := by
  intro api request isScan
  injection isScan with isScan
  injection isScan with _ isRequest
  rw [← isRequest, same]
  exact answersFrom_chainReplies 9 contents fails

theorem scansSkipNothing_pairScan (latest : Nat) (fits : contents.length ≤ u64Max) :
    ScansSkipNothing wordDecoder 9 state (pairScan latest contents fun _ => false) := by
  intro api request isScan _ raw ret replied decoded
  injection isScan with isScan
  injection isScan with isApi isRequest
  rw [← isApi, ← isRequest] at replied ⊢
  rw [← Except.ok.inj replied] at decoded
  have small : contents.length < 2 ^ 256 :=
    Nat.lt_of_le_of_lt fits (by decide)
  have word : wordDecoder.uint256 (encodeWord contents.length) = .ok contents.length := by
    rw [wordDecoder_uint256, abiWord_encodeWord _ small, Option.elim_some]
  rw [← Except.ok.inj (word.symm.trans decoded)]
  have count : u256ToU64 contents.length = contents.length := if_pos fits
  rw [count]
  exact Or.inr (subcallsSucceed_chainReplies indexed_uniswapV2Api _ 9 fits _)

end PairScan

/-- Two scans while the factory grows from three pairs to four, and the two ways to look up the
first three. -/
theorem discoveryComplete_growing :
    Always (discoveryStep wordDecoder) (DiscoveryComplete 9) { contents := [], stored := none }
        [.grow [11, 12, 13], pairScan 100 [11, 12, 13] fun _ => false, .grow [14],
          pairScan 101 [11, 12, 13, 14] fun _ => false] ∧
      (([11, 12, 13] : List Address) = [11, 12, 13] ↔
        SubcallsSucceed pairEnv (chainReplies [11, 12, 13] fun _ => false) uniswapV2Api 9 0 3) := by
  have grow : ∀ entries state, ScansAnswered wordDecoder 9 state (.grow entries) ∧
      ScansSkipNothing wordDecoder 9 state (.grow entries) := by
    intro entries state
    refine ⟨fun api request none => ?_, fun api request none => ?_⟩
    · cases none
    · cases none
  constructor
  · refine (discoveryComplete_history wordDecoder 9).1 _ _ rfl
      ⟨(grow _ _).1, scansAnswered_pairScan 100 _ rfl, (grow _ _).1,
        scansAnswered_pairScan 101 _ ?_, trivial⟩
      ⟨(grow _ _).2, scansSkipNothing_pairScan 100 (by decide), (grow _ _).2,
        scansSkipNothing_pairScan 101 (by decide), trivial⟩
    exact congrArg (· ++ _) (contents_storeScan _ _ _)
  · exact (discoveryComplete_history wordDecoder 9).2 uniswapV2Api [11, 12, 13] pairEnv
      (chainReplies [11, 12, 13] fun _ => false) 0 3 _ _ indexed_uniswapV2Api
      (answersFrom_chainReplies 9 _ _) (by decide) (by decide +kernel) (by decide +kernel)

/-- The history in which the call for the second pair fails in the first scan. -/
def skippingHistory : List DiscoveryEvent :=
  [.grow [11, 12, 13], pairScan 100 [11, 12, 13] (· = 1), pairScan 101 [11, 12, 13] fun _ => false]

/-- The second pair is not among the pools of the cache, whose cursor is behind all three pairs, and
a second scan that works does not look it up. -/
theorem not_discoveryComplete_skipped :
    StepsMeet (discoveryStep wordDecoder) (ScansAnswered wordDecoder 9)
        { contents := [], stored := none } skippingHistory ∧
      ¬ Always (discoveryStep wordDecoder) (DiscoveryComplete 9) { contents := [], stored := none }
        skippingHistory := by
  constructor
  · refine ⟨fun api request none => ?_, scansAnswered_pairScan 100 _ rfl,
      scansAnswered_pairScan 101 _ ?_, trivial⟩
    · cases none
    · exact contents_storeScan _ _ _
  · intro always
    have last := always.last
    have cache : (runFrom (discoveryStep wordDecoder) { contents := [], stored := none }
        skippingHistory).stored.map (fun scan => (scan.factory, scan.cursor.count,
          scan.pools.map DiscoveredPool.address)) = some (some 9, 3, [11, 13]) := by
      decide +kernel
    have contents : (runFrom (discoveryStep wordDecoder) { contents := [], stored := none }
        skippingHistory).contents = [11, 12, 13] := by
      decide +kernel
    obtain ⟨scan, isStored, fields⟩ := Option.map_eq_some_iff.mp cache
    injection fields with isFactory fields
    injection fields with count addresses
    have covers := last scan isStored isFactory
    rw [contents, count] at covers
    obtain ⟨entry, found, pool, listed, isEntry⟩ := covers 1 (by decide)
    have missing : entry ∈ scan.pools.map DiscoveredPool.address :=
      isEntry ▸ List.mem_map_of_mem listed
    injection found with isSecond
    rw [addresses, ← isSecond] at missing
    exact absurd missing (by decide)

end DexArbitrage
