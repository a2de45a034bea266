/-
This file is the failure cache of `src/execution/validator.rs`. A plan whose
simulation failed is filed under texts that name its route, and for some classes
of failures also the directions of its pools and its token pairs; for a while,
every plan that shares one of these texts is skipped.

What a plan is skipped for depends on the recorded failures alone: for each of
its texts, the last failure that was filed under it, unless that has expired.
-/

import DexArbitrage.Lib.Expiring
import DexArbitrage.Lib.Run
import DexArbitrage.Rpc.Client

namespace DexArbitrage

/-- The environment variables that are set. -/
abbrev EnvironmentTexts := String → Option String

/-- A flag counts as set only by one of four words; any other text clears it. -/
def EnvironmentTexts.envBool (texts : EnvironmentTexts) (key : String) (default : Bool) : Bool :=
  ((texts key).map fun value =>
    decide (value.map Char.toLower ∈ ["1", "true", "yes", "on"])).getD default

/-! ### Classes of failures -/

inductive FailureClass
  | slippage
  | transfer
  | callback
  | overflow
  | hopMismatch
  | other
  deriving DecidableEq, Repr

/-- The parts of a text between the occurrences of a separator. The part being read is kept
backwards, and `skip` characters of a separator are still to be passed over. -/
def splitFrom (separator : List Char) : List Char → Nat → List Char → List (List Char)
  | part, _, [] => [part.reverse]
  | part, skip + 1, _ :: rest => splitFrom separator part skip rest
  | part, 0, char :: rest =>
    if separator.isPrefixOf (char :: rest) then
      part.reverse :: splitFrom separator [] (separator.length - 1) rest
    else
      splitFrom separator (char :: part) 0 rest

def splitText (text separator : String) : List String :=
  (splitFrom separator.toList [] 0 text.toList).map String.ofList

def normalizeFailureReason (reason : String) : String :=
  let reverted := (splitText reason "execution reverted: ")[1]?.getD reason
  (splitText reverted " for method").head?.getD reason

def FailureClass.fromReason (reason : String) : FailureClass :=
  let normalized := normalizeFailureReason reason
  if textOccurs "SPLIT_SLIPPAGE" normalized then .slippage
  else if textOccurs "TRANSFER_FAILED" normalized then .transfer
  else if textOccurs "NO_CALLBACK_PAYMENT" normalized then .callback
  else if textOccurs "underflow" normalized || textOccurs "overflow" normalized then .overflow
  else if textOccurs "HOP_INPUT_SUM_MISMATCH" normalized then .hopMismatch
  else .other

/-! ### The texts of a plan -/

def AdapterType.debugText : AdapterType → String
  | .uniswapV2Like => "UniswapV2Like"
  | .uniswapV3Like => "UniswapV3Like"
  | .traderJoeLb => "TraderJoeLb"
  | .curvePlain => "CurvePlain"
  | .balancerWeighted => "BalancerWeighted"
  | .aerodromeV2Like => "AerodromeV2Like"

section Keys

variable (displayAddress : Address → String)

def ExactPlan.splits (plan : ExactPlan) : List SplitPlan :=
  plan.hops.flatMap HopPlan.splits

def routeFailureKey (plan : ExactPlan) : String :=
  String.intercalate "|" (("route:" ++ displayAddress plan.inputToken) ::
    plan.splits.map fun split =>
      displayAddress split.poolId ++ ":" ++ displayAddress split.tokenIn ++ ">" ++
        displayAddress split.tokenOut)

def poolDirectionFailureKeys (plan : ExactPlan) : List String :=
  plan.splits.map fun split =>
    "pool:" ++ displayAddress split.poolId ++ ":" ++ split.adapterType.debugText ++ ":" ++
      displayAddress split.tokenIn ++ ">" ++ displayAddress split.tokenOut

def tokenPairFailureKeys (plan : ExactPlan) : List String :=
  plan.splits.map fun split =>
    "token:" ++ displayAddress split.tokenIn ++ ">" ++ displayAddress split.tokenOut

def failureKeys (plan : ExactPlan) : List String :=
  [routeFailureKey displayAddress plan] ++ poolDirectionFailureKeys displayAddress plan ++
    tokenPairFailureKeys displayAddress plan

def failureKeysForClass (plan : ExactPlan) : FailureClass → List String
  | .transfer =>
    [routeFailureKey displayAddress plan] ++ poolDirectionFailureKeys displayAddress plan ++
      tokenPairFailureKeys displayAddress plan
  | .callback =>
    [routeFailureKey displayAddress plan] ++
      (poolDirectionFailureKeys displayAddress plan).filter (textOccurs ":UniswapV3Like:")
  | .overflow => routeFailureKey displayAddress plan :: poolDirectionFailureKeys displayAddress plan
  | .slippage => routeFailureKey displayAddress plan :: poolDirectionFailureKeys displayAddress plan
  | .hopMismatch => [routeFailureKey displayAddress plan]
  | .other => [routeFailureKey displayAddress plan]

end Keys

/-! ### The cache -/

/-- The times to live are in milliseconds. -/
structure FailureCache where
  enabled : Bool
  entries : HashMap String (Timed String)
  slippageTtl : Nat
  transferTtl : Nat
  callbackTtl : Nat
  overflowTtl : Nat
  routeTtl : Nat

namespace FailureCache

def fromEnv (texts : EnvironmentTexts) (env : Environment) : FailureCache where
  enabled := texts.envBool "VALIDATOR_FAILURE_CACHE" true
  entries := ∅
  slippageTtl := 1000 * env.envUsize "FAILURE_CACHE_SLIPPAGE_SECS" 180
  transferTtl := 1000 * env.envUsize "FAILURE_CACHE_TRANSFER_SECS" 1800
  callbackTtl := 1000 * env.envUsize "FAILURE_CACHE_CALLBACK_SECS" 600
  overflowTtl := 1000 * env.envUsize "FAILURE_CACHE_OVERFLOW_SECS" 600
  routeTtl := 1000 * env.envUsize "FAILURE_CACHE_ROUTE_SECS" 300

def ttlFor (cache : FailureCache) : FailureClass → Nat
  | .slippage => cache.slippageTtl
  | .transfer => cache.transferTtl
  | .callback => cache.callbackTtl
  | .overflow => cache.overflowTtl
  | .hopMismatch => cache.routeTtl
  | .other => cache.routeTtl

variable (displayAddress : Address → String)

def skipReason (cache : FailureCache) (plan : ExactPlan) (now : Instant) :
    Option String × FailureCache :=
  if ! cache.enabled then
    (none, cache)
  else
    let pruned := prune cache.entries now
    ((failureKeys displayAddress plan).findSome? fun key => (pruned.lookup key).map Timed.value,
      { cache with entries := pruned })

/-- The clock is read for the pruning and again for the expiry. -/
def record (cache : FailureCache) (plan : ExactPlan) (reason : String) (now later : Instant) :
    FailureCache :=
  if ! cache.enabled then
    cache
  else
    let pruned := prune cache.entries now
    let failureClass := FailureClass.fromReason reason
    let ttl := cache.ttlFor failureClass
    if ttl = 0 then
      { cache with entries := pruned }
    else
      let failure : Timed String :=
        { expiresAt := later + ttl, value := normalizeFailureReason reason }
      { cache with
        entries := (failureKeysForClass displayAddress plan failureClass).foldl
          (fun entries key => entries.insert key failure) pruned }

end FailureCache

/-! ### What was recorded -/

/-- A plan whose simulation failed, and when its failure was recorded. -/
structure RecordedFailure where
  plan : ExactPlan
  reason : String
  recordedAt : Instant

section History

variable (displayAddress : Address → String) (cache : FailureCache)

namespace RecordedFailure

variable (failure : RecordedFailure)

def ttl : Nat :=
  cache.ttlFor (.fromReason failure.reason)

/-- What is filed, with the time when it expires. -/
def entry : Timed String where
  expiresAt := failure.recordedAt + failure.ttl cache
  value := normalizeFailureReason failure.reason

/-- The texts under which the failure is filed; none when failures of its class are not kept. -/
def filedUnder : List String :=
  if failure.ttl cache = 0 then
    []
  else
    failureKeysForClass displayAddress failure.plan (.fromReason failure.reason)

end RecordedFailure

/-- What the failures, latest first, leave under a text: the last one that is filed under it, if it
has not expired. -/
def unexpiredFailure (failures : List RecordedFailure) (now : Instant) (key : String) :
    Option RecordedFailure :=
  (failures.find? fun failure => key ∈ failure.filedUnder displayAddress cache).filter
    fun failure => (failure.entry cache).isLive now

/-- What is done to the table for the failures. -/
def failureEvents (failures : List RecordedFailure) : List (TableEvent String String) :=
  failures.flatMap fun failure =>
    ((failure.filedUnder displayAddress cache).map fun key =>
      .put key (failure.entry cache)).reverse

theorem liveEntry_failureEvents (failures : List RecordedFailure) (now : Instant) (key : String) :
    liveEntry (failureEvents displayAddress cache failures) now key =
      (unexpiredFailure displayAddress cache failures now key).map (·.entry cache) := by
  have last : lastPut (failureEvents displayAddress cache failures) key =
      (failures.find? fun failure =>
        key ∈ failure.filedUnder displayAddress cache).map (·.entry cache) := by
    induction failures with
    | nil => rfl
    | cons failure earlier inductionHypothesis =>
      rw [failureEvents, List.flatMap_cons, lastPut_putAll, ← failureEvents, inductionHypothesis,
        List.find?_cons]
      by_cases filed : key ∈ failure.filedUnder displayAddress cache
      · rw [if_pos filed, decide_eq_true filed]
        rfl
      · rw [if_neg filed, decide_eq_false filed]
  rw [liveEntry, last, unexpiredFailure, Option.filter_map, Function.comp_def]

end History

/-! ### Runs of the cache -/

/-- The two uses of the cache, with what they read from the clock. -/
inductive FailureCacheCall
  | skipReason (plan : ExactPlan) (now : Instant)
  | record (plan : ExactPlan) (reason : String) (now later : Instant)

namespace FailureCacheCall

def times : FailureCacheCall → List Instant
  | .skipReason _ now => [now]
  | .record _ _ now later => [now, later]

/-- The failure that a call records. -/
def failure : FailureCacheCall → List RecordedFailure
  | .skipReason _ _ => []
  | .record plan reason _ later => [{ plan, reason, recordedAt := later }]

end FailureCacheCall

section Runs

variable (displayAddress : Address → String)

def failureCacheStep (cache : FailureCache) : FailureCacheCall → FailureCache
  | .skipReason plan now => (cache.skipReason displayAddress plan now).2
  | .record plan reason now later => cache.record displayAddress plan reason now later

/-- The failures of a run, latest first. -/
def recordedFailures (calls : List FailureCacheCall) : List RecordedFailure :=
  (calls.flatMap FailureCacheCall.failure).reverse

/-- The settings are those of the start, and while the cache is used it remembers the failures. -/
structure TracksFailures (start cache : FailureCache) (failures : List RecordedFailure)
    (clock : Instant) : Prop where
  settings : ∃ entries, cache = { start with entries }
  remembers : start.enabled = true →
    Remembers cache.entries (failureEvents displayAddress start failures) clock

variable {displayAddress} {start cache : FailureCache} {failures : List RecordedFailure}
  {clock : Instant}

namespace TracksFailures

theorem mono (tracks : TracksFailures displayAddress start cache failures clock) {later : Instant}
    (inOrder : clock ≤ later) : TracksFailures displayAddress start cache failures later where
  settings := tracks.settings
  remembers := fun on => (tracks.remembers on).mono inOrder

theorem skipReason (tracks : TracksFailures displayAddress start cache failures clock)
    (plan : ExactPlan) {now : Instant} (inOrder : clock ≤ now) :
    TracksFailures displayAddress start (cache.skipReason displayAddress plan now).2 failures
      now := by
  obtain ⟨entries, rfl⟩ := tracks.settings
  unfold FailureCache.skipReason
  split
  · rename_i off
    exact ⟨⟨_, rfl⟩, fun on => absurd (on ▸ off) (by decide)⟩
  · exact ⟨⟨_, rfl⟩, fun on => (tracks.remembers on).prune inOrder⟩

/-- What a plan is skipped for. -/
theorem fst_skipReason (tracks : TracksFailures displayAddress start cache failures clock)
    (plan : ExactPlan) {now : Instant} (inOrder : clock ≤ now) :
    (cache.skipReason displayAddress plan now).1 =
      if start.enabled then
        (failureKeys displayAddress plan).findSome? fun key =>
          (unexpiredFailure displayAddress start failures now key).map fun failure =>
            normalizeFailureReason failure.reason
      else
        none := by
  obtain ⟨entries, rfl⟩ := tracks.settings
  unfold FailureCache.skipReason
  dsimp only
  cases on : start.enabled with
  | false => rfl
  | true =>
    have found : ∀ key, ((prune entries now).lookup key).map Timed.value =
        (unexpiredFailure displayAddress start failures now key).map fun failure =>
          normalizeFailureReason failure.reason := by
      intro key
      rw [(tracks.remembers on).lookup_prune inOrder, liveEntry_failureEvents, Option.map_map]
      rfl
    simp only [Bool.not_true, Bool.false_eq_true, if_false, found, if_true]

theorem record (tracks : TracksFailures displayAddress start cache failures clock)
    (plan : ExactPlan) (reason : String) {now later : Instant} (inOrder : clock ≤ now)
    (after : now ≤ later) :
    TracksFailures displayAddress start
      (cache.record displayAddress plan reason now later)
      ({ plan, reason, recordedAt := later } :: failures) later := by
  obtain ⟨entries, rfl⟩ := tracks.settings
  have pruned : start.enabled = true →
      Remembers (prune entries now) (failureEvents displayAddress start failures) later :=
    fun on => ((tracks.remembers on).prune inOrder).mono after
  unfold FailureCache.record
  split
  · rename_i off
    exact ⟨⟨_, rfl⟩, fun on => absurd (on ▸ off) (by decide)⟩
  · dsimp only
    rw [show FailureCache.ttlFor { start with entries } = start.ttlFor from rfl]
    split
    · rename_i unkept
      refine ⟨⟨_, rfl⟩, fun on => ?_⟩
      rw [failureEvents, List.flatMap_cons, RecordedFailure.filedUnder, RecordedFailure.ttl,
        if_pos unkept]
      exact pruned on
    · rename_i kept
      refine ⟨⟨_, rfl⟩, fun on => ?_⟩
      rw [failureEvents, List.flatMap_cons, RecordedFailure.filedUnder, RecordedFailure.entry,
        RecordedFailure.ttl, if_neg kept]
      dsimp only
      exact (pruned on).putAll _ _

end TracksFailures

/-- One call of the cache, at times that are not before the clock. -/
theorem TracksFailures.step
    (tracks : TracksFailures displayAddress start cache failures clock) (call : FailureCacheCall)
    (inOrder : (clock :: call.times).Pairwise (· ≤ ·)) :
    ∃ later, (later = clock ∨ later ∈ call.times) ∧
      TracksFailures displayAddress start (failureCacheStep displayAddress cache call)
        (call.failure.reverse ++ failures) later := by
  cases call with
  | skipReason plan now =>
    exact ⟨now, Or.inr List.mem_cons_self,
      tracks.skipReason plan (List.rel_of_pairwise_cons inOrder List.mem_cons_self)⟩
  | record plan reason now later =>
    have first : clock ≤ now := List.rel_of_pairwise_cons inOrder List.mem_cons_self
    have second : now ≤ later :=
      List.rel_of_pairwise_cons (List.pairwise_cons.mp inOrder).2 List.mem_cons_self
    exact ⟨later, Or.inr (List.mem_cons_of_mem _ List.mem_cons_self),
      tracks.record plan reason first second⟩

/-- A run of the cache at times in order. -/
theorem TracksFailures.run
    (tracks : TracksFailures displayAddress start cache failures clock)
    (calls : List FailureCacheCall) {now : Instant}
    (inOrder : (clock :: (calls.flatMap FailureCacheCall.times ++ [now])).Pairwise (· ≤ ·)) :
    ∃ later, later ≤ now ∧
      TracksFailures displayAddress start
        (runFrom (failureCacheStep displayAddress) cache calls)
        (recordedFailures calls ++ failures) later := by
  induction calls generalizing cache failures clock with
  | nil => exact ⟨clock, List.rel_of_pairwise_cons inOrder List.mem_cons_self, tracks⟩
  | cons call rest inductionHypothesis =>
    rw [List.flatMap_cons, List.append_assoc, ← List.cons_append, List.pairwise_append] at inOrder
    obtain ⟨own, others, between⟩ := inOrder
    obtain ⟨later, isTime, tracked⟩ := tracks.step call own
    have onwards : (later :: (rest.flatMap FailureCacheCall.times ++ [now])).Pairwise (· ≤ ·) :=
      List.pairwise_cons.mpr
        ⟨between later (List.mem_cons.mpr isTime), others⟩
    rw [runFrom_cons, recordedFailures, List.flatMap_cons, List.reverse_append, List.append_assoc]
    exact inductionHypothesis tracked onwards

/-- Over every run of the cache with a clock that does not run backwards: a plan is skipped for the
first of its texts under which the last failure that was filed has not expired, and for no other
reason. -/
theorem skipReason_run (displayAddress : Address → String) (texts : EnvironmentTexts)
    (env : Environment) (calls : List FailureCacheCall) (plan : ExactPlan) (now : Instant)
    (inOrder : (calls.flatMap FailureCacheCall.times ++ [now]).Pairwise (· ≤ ·)) :
    ((runFrom (failureCacheStep displayAddress) (.fromEnv texts env) calls).skipReason
        displayAddress plan now).1 =
      if (FailureCache.fromEnv texts env).enabled then
        (failureKeys displayAddress plan).findSome? fun key =>
          (unexpiredFailure displayAddress (.fromEnv texts env) (recordedFailures calls) now
            key).map fun failure => normalizeFailureReason failure.reason
      else
        none := by
  have tracks : TracksFailures displayAddress (.fromEnv texts env) (.fromEnv texts env) [] 0 :=
    ⟨⟨_, rfl⟩, fun _ => Remembers.start⟩
  obtain ⟨later, before, tracked⟩ := tracks.run calls
    (List.pairwise_cons.mpr ⟨fun time _ => Nat.zero_le time, inOrder⟩)
  rw [List.append_nil] at tracked
  exact tracked.fst_skipReason plan before

end Runs

def plainSplit (dexName : String) (poolId tokenIn tokenOut : Address) (amountIn amountOut : Nat) :
    SplitPlan where
  dexName := dexName
  poolId := poolId
  adapterType := .uniswapV2Like
  tokenIn := tokenIn
  tokenOut := tokenOut
  amountIn := amountIn
  minAmountOut := amountOut * 9950 / 10000
  expectedAmountOut := amountOut
  extra := .v2 3000

/-- There and back over two pairs. -/
def twoPairPlan : ExactPlan :=
  { (default : ExactPlan) with
    snapshotId := 4, inputToken := 1, outputToken := 1, inputAmount := 1000, outputAmount := 1020
    grossProfitRaw := 20, netProfitBeforeGasRaw := 20, expectedProfit := 20
    hops :=
      [{ tokenIn := 1, tokenOut := 2, totalIn := 1000, totalOut := 1990
         splits := [plainSplit "uniswap_v2" 10 1 2 1000 1990] },
        { tokenIn := 2, tokenOut := 1, totalIn := 1990, totalOut := 1020
          splits := [plainSplit "baseswap" 11 2 1 1990 1020] }] }

def mismatchRecorded : FailureCacheCall :=
  .record twoPairPlan "execution reverted: HOP_INPUT_SUM_MISMATCH for method eth_call" 5 6

/-- A route whose amounts did not add up is skipped 100 seconds later. -/
theorem skipReason_run_mismatch :
    ((runFrom (failureCacheStep fun address => toString address.toNat)
        (.fromEnv (fun _ => none) fun _ => none) [mismatchRecorded]).skipReason
      (fun address => toString address.toNat) twoPairPlan 100000).1 =
        some "HOP_INPUT_SUM_MISMATCH" :=
  (skipReason_run (fun address => toString address.toNat) (fun _ => none) (fun _ => none)
    [mismatchRecorded] twoPairPlan 100000 (by decide)).trans (by decide +kernel)

end DexArbitrage
