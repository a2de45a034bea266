/-
This file models `src/risk/gas_tracker.rs`: what a transaction will cost. The
gas price is asked for a few times and kept for a while; when it cannot be had,
one that is not too old is used instead. On Base the fee for the data of the
transaction is asked for in addition.

The buffer on the fee is computed in floating point and is a parameter.
-/

import DexArbitrage.Discovery.ChunkedLogs
import DexArbitrage.Lib.Run
import DexArbitrage.Rpc.Client

namespace DexArbitrage

structure GasQuote where
  maxFeePerGas : Nat
  maxPriorityFeePerGas : Nat
  l2ExecutionCostWei : Nat
  l1DataFeeWei : Nat
  bufferedTotalCostWei : Nat
  deriving DecidableEq, Repr

structure CachedGasQuote where
  fetchedAt : Instant
  base : Nat
  priority : Nat
  deriving DecidableEq, Repr

structure GasTracker where
  chain : Chain
  ceilingWei : Nat
  /-- The fee with the risk buffer on it. -/
  buffered : Nat → Nat
  cache : Option CachedGasQuote

/-- What one quote hears from the chain, attempt by attempt, and what it reads from the clock: for
the age of the cached quote, for its age after a failed refresh, and for a new quote. -/
structure GasReplies where
  gasPrice : Nat → Except RpcError Nat
  maxPriorityFeePerGas : Nat → Except RpcError Nat
  l1FeeUpperBound : Nat → Nat → Except RpcError Bytes
  decodeL1Fee : Bytes → Except RpcError Nat
  now : Instant
  failedAt : Instant
  fetchedAt : Instant

/-- Ask again until an answer comes or no attempt is left. -/
def retryFrom {Answer : Type} (fetch : Nat → Except RpcError Answer) (attempt : Nat) :
    Nat → Except RpcError Answer
  | 0 => fetch attempt
  | more + 1 =>
    match fetch attempt with
    | .ok answer => .ok answer
    | .error _ => retryFrom fetch (attempt + 1) more

section Quote

variable (env : Environment)

def gasQuoteCacheMs : Nat := env.envU64 "GAS_QUOTE_CACHE_MS" 1500

def gasQuoteStaleCacheMs : Nat := env.envU64 "GAS_QUOTE_STALE_CACHE_MS" 30000

def gasQuoteAttempts : Nat := env.envU64 "GAS_QUOTE_RETRIES" 3

variable (replies : GasReplies)

/-- One attempt. Without a priority fee a part of the base fee is used. -/
def fetchGasQuote (attempt : Nat) : Except RpcError (Nat × Nat) :=
  (replies.gasPrice attempt).map fun base =>
    (base, match replies.maxPriorityFeePerGas attempt with
      | .ok priority => priority
      | .error _ => base / 20)

def fetchGasQuoteWithRetry : Except RpcError (Nat × Nat) :=
  retryFrom (fetchGasQuote replies) 1 (gasQuoteAttempts env - 1)

namespace GasTracker

variable (tracker : GasTracker)

/-- The base and the priority fee, and whether they are new. -/
def fees : Except RpcError (Nat × Nat × Bool) :=
  match tracker.cache with
  | some cached =>
    if replies.now - cached.fetchedAt ≤ gasQuoteCacheMs env then
      .ok (cached.base, cached.priority, false)
    else
      match fetchGasQuoteWithRetry env replies with
      | .ok (base, priority) => .ok (base, priority, true)
      | .error err =>
        if replies.failedAt - cached.fetchedAt ≤ gasQuoteStaleCacheMs env then
          .ok (cached.base, cached.priority, false)
        else
          .error err
  | none =>
    match fetchGasQuoteWithRetry env replies with
    | .ok (base, priority) => .ok (base, priority, true)
    | .error err => .error err

def estimateL1DataFee (calldataLen : Nat) : Except RpcError Nat :=
  if tracker.chain ≠ .base then
    .ok 0
  else
    let overhead := env.envUsize "BASE_L1_FEE_TX_SIZE_OVERHEAD_BYTES" 160
    let txSize := min usizeMax (calldataLen + overhead)
    (retryFrom (replies.l1FeeUpperBound txSize) 1 (gasQuoteAttempts env - 1)).bind
      replies.decodeL1Fee

def quote (gasLimit calldataLen : Nat) : Except RpcError GasQuote × GasTracker :=
  match tracker.fees env replies with
  | .error err => (.error err, tracker)
  | .ok (base, priority, fresh) =>
    let tracker :=
      if fresh then
        { tracker with cache := some { fetchedAt := replies.fetchedAt, base, priority } }
      else
        tracker
    let buffered := tracker.buffered (min u128Max (base + priority))
    let l2ExecutionCostWei := buffered * gasLimit
    match tracker.estimateL1DataFee env replies calldataLen with
    | .error err => (.error err, tracker)
    | .ok l1DataFeeWei =>
      (.ok
        { maxFeePerGas := buffered
          maxPriorityFeePerGas := min priority buffered
          l2ExecutionCostWei
          l1DataFeeWei
          bufferedTotalCostWei := min u256Max (l2ExecutionCostWei + l1DataFeeWei) }, tracker)

def aboveCeiling (quote : GasQuote) : Bool :=
  tracker.ceilingWei < quote.maxFeePerGas

end GasTracker

end Quote

/-! ### How old a gas price can be -/

/-- One use of the tracker. -/
structure GasCall where
  gasLimit : Nat
  calldataLen : Nat
  replies : GasReplies

def gasStep (env : Environment) (tracker : GasTracker) (call : GasCall) : GasTracker :=
  (tracker.quote env call.replies call.gasLimit call.calldataLen).2

section Ages

variable {env : Environment} {tracker : GasTracker}

/-- The kept gas price is one that the chain reported in an earlier call. -/
def ReportedEarlier (env : Environment) (calls : List GasCall) (cached : CachedGasQuote) : Prop :=
  ∃ earlier ∈ calls, earlier.replies.fetchedAt = cached.fetchedAt ∧
    fetchGasQuoteWithRetry env earlier.replies = .ok (cached.base, cached.priority)

/-- Where the fees of a quote come from: they are new, or they are kept ones that are fresh, or
kept ones that are not too old when the chain does not answer. -/
inductive FeesFrom (env : Environment) (cache : Option CachedGasQuote) (replies : GasReplies)
    (base priority : Nat) : Bool → Prop
  | reported (answered : fetchGasQuoteWithRetry env replies = .ok (base, priority)) :
      FeesFrom env cache replies base priority true
  | fresh (cached : CachedGasQuote) (kept : cache = some cached)
      (same : base = cached.base ∧ priority = cached.priority)
      (age : replies.now - cached.fetchedAt ≤ gasQuoteCacheMs env) :
      FeesFrom env cache replies base priority false
  | stale (cached : CachedGasQuote) (kept : cache = some cached)
      (same : base = cached.base ∧ priority = cached.priority) (err : RpcError)
      (failed : fetchGasQuoteWithRetry env replies = .error err)
      (age : replies.failedAt - cached.fetchedAt ≤ gasQuoteStaleCacheMs env) :
      FeesFrom env cache replies base priority false

theorem feesFrom_of_fees {replies : GasReplies} {base priority : Nat} {new : Bool}
    (quoted : tracker.fees env replies = .ok (base, priority, new)) :
    FeesFrom env tracker.cache replies base priority new := by
  unfold GasTracker.fees at quoted
  split at quoted
  · rename_i cached kept
    split at quoted
    · rename_i age
      cases quoted
      exact .fresh cached kept ⟨rfl, rfl⟩ age
    · split at quoted
      · rename_i answered
        cases quoted
        exact .reported answered
      · rename_i err failed
        split at quoted
        · rename_i age
          cases quoted
          exact .stale cached kept ⟨rfl, rfl⟩ err failed age
        · cases quoted
  · split at quoted
    · rename_i answered
      cases quoted
      exact .reported answered
    · cases quoted

/-- What one use of the tracker leaves in its cache. -/
theorem cache_gasStep (call : GasCall) {cached : CachedGasQuote}
    (kept : (gasStep env tracker call).cache = some cached) :
    tracker.cache = some cached ∨ ReportedEarlier env [call] cached := by
  unfold gasStep GasTracker.quote at kept
  split at kept
  · exact Or.inl kept
  · rename_i base priority new quoted
    have remains : (if new = true then
        { tracker with cache := some ⟨call.replies.fetchedAt, base, priority⟩ }
      else tracker).cache = some cached := by
      dsimp only at kept
      split at kept
      · exact kept
      · exact kept
    split at remains
    · rename_i isNew
      injection remains with same
      cases feesFrom_of_fees (isNew ▸ quoted) with
      | reported answered =>
        exact Or.inr ⟨call, List.mem_singleton_self call, same ▸ rfl, same ▸ answered⟩
    · exact Or.inl remains

theorem cache_runFrom_gasStep (calls : List GasCall) {cached : CachedGasQuote}
    (kept : (runFrom (gasStep env) tracker calls).cache = some cached) :
    tracker.cache = some cached ∨ ReportedEarlier env calls cached := by
  induction calls generalizing tracker with
  | nil => exact Or.inl kept
  | cons call rest inductionHypothesis =>
    rcases inductionHypothesis kept with before | ⟨earlier, member, reported⟩
    · rcases cache_gasStep call before with start | ⟨earlier, member, reported⟩
      · exact Or.inl start
      · exact Or.inr ⟨earlier, List.mem_singleton.mp member ▸ List.mem_cons_self, reported⟩
    · exact Or.inr ⟨earlier, List.mem_cons_of_mem _ member, reported⟩

/-- After every run of a new tracker: the fees of a quote are those the chain reports now, or those
it reported in an earlier call, which is then no longer ago than the time a quote is kept, or,
when the chain does not answer now, than the time a stale one may be used. -/
theorem quotedFees_recent (env : Environment) (chain : Chain) (ceilingWei : Nat)
    (buffered : Nat → Nat) (calls : List GasCall) (replies : GasReplies) (base priority : Nat)
    (new : Bool)
    (quoted : (runFrom (gasStep env) ⟨chain, ceilingWei, buffered, none⟩ calls).fees env replies =
      .ok (base, priority, new)) :
    fetchGasQuoteWithRetry env replies = .ok (base, priority) ∨
      ∃ earlier ∈ calls,
        fetchGasQuoteWithRetry env earlier.replies = .ok (base, priority) ∧
          (replies.now - earlier.replies.fetchedAt ≤ gasQuoteCacheMs env ∨
            (∃ err, fetchGasQuoteWithRetry env replies = .error err) ∧
              replies.failedAt - earlier.replies.fetchedAt ≤ gasQuoteStaleCacheMs env) := by
  cases feesFrom_of_fees quoted with
  | reported answered => exact Or.inl answered
  | fresh cached kept same age =>
    obtain ⟨earlier, member, at_, answered⟩ :=
      (cache_runFrom_gasStep calls kept).resolve_left nofun
    refine Or.inr ⟨earlier, member, ?_, Or.inl (at_ ▸ age)⟩
    rw [same.1, same.2]
    exact answered
  | stale cached kept same err failed age =>
    obtain ⟨earlier, member, at_, answered⟩ :=
      (cache_runFrom_gasStep calls kept).resolve_left nofun
    refine Or.inr ⟨earlier, member, ?_, Or.inr ⟨⟨err, failed⟩, at_ ▸ age⟩⟩
    rw [same.1, same.2]
    exact answered

end Ages

/-! ### A chain that stops answering -/

/-- The chain answers with a price, or does not answer, at a time. -/
def gasRepliesAt (time : Instant) (price : Except RpcError Nat) : GasReplies where
  gasPrice := fun _ => price
  maxPriorityFeePerGas := fun _ => .error "unsupported"
  l1FeeUpperBound := fun _ _ => .ok []
  decodeL1Fee := fun _ => .ok 0
  now := time
  failedAt := time
  fetchedAt := time

/-- A price of 1000 is still used 20 seconds later. -/
theorem quotedFees_recent_stale :
    fetchGasQuoteWithRetry (fun _ => none) (gasRepliesAt 20000 (.error "timed out")) =
        .ok (1000, 50) ∨
      ∃ earlier ∈ [(⟨21000, 4, gasRepliesAt 0 (.ok 1000)⟩ : GasCall)],
        fetchGasQuoteWithRetry (fun _ => none) earlier.replies = .ok (1000, 50) ∧
          (20000 - earlier.replies.fetchedAt ≤ gasQuoteCacheMs (fun _ => none) ∨
            (∃ err, fetchGasQuoteWithRetry (fun _ => none)
                (gasRepliesAt 20000 (.error "timed out")) = .error err) ∧
              20000 - earlier.replies.fetchedAt ≤ gasQuoteStaleCacheMs (fun _ => none)) :=
  quotedFees_recent (fun _ => none) .polygon 100000 (fun fee => fee + fee / 10)
    [⟨21000, 4, gasRepliesAt 0 (.ok 1000)⟩] (gasRepliesAt 20000 (.error "timed out")) 1000 50 false
    rfl

end DexArbitrage
