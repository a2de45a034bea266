/-
This file models `quote_pool` of `src/router/exact_quoter.rs`. A quote is looked
up under the snapshot id, the pool, the tokens and the amount, and otherwise
computed from the state of the pool and put into the cache.

`computeQuote` is that computation. The local quotes of the families other than
the constant-product pairs are a parameter, `LocalQuotes`; what one call hears
from the RPC quoters and from the record of failing directions comes with it as
`QuoteReplies`.
-/

import DexArbitrage.Amm.UniswapV2
import DexArbitrage.Graph.Model
import DexArbitrage.Router.QuoteCache

namespace DexArbitrage

structure QuoterSettings where
  useV3RpcQuoter : Bool
  useLbRpcQuoter : Bool
  useCurveRpcQuoter : Bool
  useBalancerRpcQuoter : Bool
  deriving DecidableEq, Repr

/-- The quotes that are computed from the pool state alone. -/
structure LocalQuotes where
  aerodromeV2 : AerodromeV2PoolState → Bool → Nat → Option Nat
  uniswapV3 : V3PoolState → Bool → Nat → Nat
  traderJoeLb : TraderJoeLbPoolState → Bool → Nat → Option Nat
  curve : CurvePoolState → Nat → Nat → Nat → Nat
  balancer : BalancerPoolState → Nat → Nat → Nat → Nat

/-- How a quote ends: with an amount that is cached, with a zero that is not, or in an error. -/
inductive QuoteOutcome
  | cached (amount : Nat)
  | uncachedZero
  | failed (error : RpcError)
  deriving DecidableEq, Repr

/-- What one call hears from outside: whether the direction is blocked, and the answers of the
RPC quoters. -/
structure QuoteReplies where
  directionBlocked : Bool
  revertBlocked : Bool
  uniswapV3 : QuoteOutcome
  traderJoeLb : QuoteOutcome
  curve : QuoteOutcome
  balancer : QuoteOutcome

/-- The quote of a pool between its tokens at two different positions. -/
def quoteState (settings : QuoterSettings) (localQuotes : LocalQuotes) (replies : QuoteReplies)
    (pool : PoolState) (i j amountIn : Nat) : QuoteOutcome :=
  let zeroForOne : Bool := i = 0 && j = 1
  let twoTokens : Bool := pool.tokenAddresses.length = 2
  match pool.state with
  | .uniswapV2Like state =>
    if twoTokens then
      .cached ((UniswapV2.quoteExactIn state zeroForOne amountIn).getD 0)
    else
      .uncachedZero
  | .aerodromeV2Like state =>
    if twoTokens then
      .cached ((localQuotes.aerodromeV2 state zeroForOne amountIn).getD 0)
    else
      .uncachedZero
  | .uniswapV3Like state =>
    if ! twoTokens then
      .uncachedZero
    else if replies.directionBlocked then
      .cached 0
    else if settings.useV3RpcQuoter then
      if replies.revertBlocked then
        .cached 0
      else if pool.quoter.isSome then
        replies.uniswapV3
      else
        .cached (localQuotes.uniswapV3 state zeroForOne amountIn)
    else
      .cached (localQuotes.uniswapV3 state zeroForOne amountIn)
  | .traderJoeLb state =>
    if ! twoTokens then
      .uncachedZero
    else if settings.useLbRpcQuoter then
      replies.traderJoeLb
    else
      .cached ((localQuotes.traderJoeLb state zeroForOne amountIn).getD 0)
  | .curvePlain state =>
    if settings.useCurveRpcQuoter then
      replies.curve
    else
      .cached (localQuotes.curve state i j amountIn)
  | .balancerWeighted state =>
    if settings.useBalancerRpcQuoter && pool.vault.isSome then
      replies.balancer
    else
      .cached (localQuotes.balancer state i j amountIn)

/-- The quote of a pool, computed without the cache. -/
def computeQuote (settings : QuoterSettings) (localQuotes : LocalQuotes) (replies : QuoteReplies)
    (pool : PoolState) (tokenIn tokenOut : Address) (amountIn : Nat) : QuoteOutcome :=
  match pool.tokenAddresses.idxOf? tokenIn, pool.tokenAddresses.idxOf? tokenOut with
  | some i, some j =>
    if i = j then .cached 0 else quoteState settings localQuotes replies pool i j amountIn
  | _, _ => .cached 0

/-- The cache key of a request. -/
def quoteKey (snapshotId : Nat) (pool : PoolState) (tokenIn tokenOut : Address)
    (amountIn : Nat) : QuoteKey :=
  { snapshotId, poolId := pool.poolId, tokenIn, tokenOut, amountIn }

def quotePool (settings : QuoterSettings) (localQuotes : LocalQuotes) (replies : QuoteReplies)
    (snapshotId : Nat) (pool : PoolState) (tokenIn tokenOut : Address) (amountIn : Nat)
    (cache : QuoteCache) : Except RpcError Nat × QuoteCache :=
  let cacheKey := quoteKey snapshotId pool tokenIn tokenOut amountIn
  match cache.get cacheKey with
  | (some amount, cache) => (.ok amount, cache)
  | (none, cache) =>
    match computeQuote settings localQuotes replies pool tokenIn tokenOut amountIn with
    | .cached amount => (.ok amount, cache.insert cacheKey amount)
    | .uncachedZero => (.ok 0, cache)
    | .failed error => (.error error, cache)

/-! ### Which values a quote can return -/

variable (settings : QuoterSettings) (localQuotes : LocalQuotes)

/-- The value is one that the computation yields for this pool, for some replies from outside. -/
def QuotedBy (pool : PoolState) (tokenIn tokenOut : Address) (amountIn amount : Nat) : Prop :=
  ∃ replies, computeQuote settings localQuotes replies pool tokenIn tokenOut amountIn =
      .cached amount ∨
    computeQuote settings localQuotes replies pool tokenIn tokenOut amountIn = .uncachedZero ∧
      amount = 0

/-- The cached value is one of the snapshot that the key names. -/
def EntryOf (snapshot : GraphSnapshot) (key : QuoteKey) (amount : Nat) : Prop :=
  snapshot.snapshotId = key.snapshotId ∧
    ∃ pool, snapshot.pool key.poolId = some pool ∧
      QuotedBy settings localQuotes pool key.tokenIn key.tokenOut key.amountIn amount

variable {settings localQuotes}

/-- A quote returns what the cache holds under its key, or a value quoted now. -/
theorem quotePool_cases {replies : QuoteReplies} {snapshotId : Nat} {pool : PoolState}
    {tokenIn tokenOut : Address} {amountIn amount : Nat} {before after : QuoteCache}
    (quoted : quotePool settings localQuotes replies snapshotId pool tokenIn tokenOut amountIn
      before = (.ok amount, after)) :
    before.stored (quoteKey snapshotId pool tokenIn tokenOut amountIn) = some amount ∨
      QuotedBy settings localQuotes pool tokenIn tokenOut amountIn amount := by
  unfold quotePool at quoted
  simp only at quoted
  split at quoted
  · rename_i stored cache hit
    injection quoted with same _
    injection same with same
    left
    rw [← QuoteCache.get_fst, hit, same]
  · right
    split at quoted
    · rename_i computed
      injection quoted with same _
      injection same with same
      exact ⟨replies, Or.inl (same ▸ computed)⟩
    · rename_i computed
      injection quoted with same _
      injection same with same
      exact ⟨replies, Or.inr ⟨computed, same.symm⟩⟩
    · injection quoted with same _
      cases same

/-- After a quote the cache holds under each key what it held before, or a value quoted now. -/
theorem stored_quotePool {replies : QuoteReplies} {snapshotId : Nat} {pool : PoolState}
    {tokenIn tokenOut : Address} {amountIn found : Nat} {cache : QuoteCache} {key : QuoteKey}
    (stored : (quotePool settings localQuotes replies snapshotId pool tokenIn tokenOut amountIn
      cache).2.stored key = some found) :
    cache.stored key = some found ∨
      key = quoteKey snapshotId pool tokenIn tokenOut amountIn ∧
        QuotedBy settings localQuotes pool tokenIn tokenOut amountIn found := by
  have read : ∀ other,
      (cache.get (quoteKey snapshotId pool tokenIn tokenOut amountIn)).2.stored other =
        cache.stored other := QuoteCache.stored_get cache _
  unfold quotePool at stored
  simp only at stored
  split at stored
  · rename_i hit
    rw [hit] at read
    exact Or.inl (read key ▸ stored)
  · rename_i miss
    rw [miss] at read
    split at stored
    · rename_i computed
      rcases QuoteCache.stored_insert stored with ⟨same, value⟩ | old
      · exact Or.inr ⟨same, replies, Or.inl (value ▸ computed)⟩
      · exact Or.inl (read key ▸ old)
    · exact Or.inl (read key ▸ stored)
    · exact Or.inl (read key ▸ stored)

/-! ### A quoter that hears nothing from outside -/

def silentReplies : QuoteReplies where
  directionBlocked := false
  revertBlocked := false
  uniswapV3 := .uncachedZero
  traderJoeLb := .uncachedZero
  curve := .uncachedZero
  balancer := .uncachedZero

def zeroQuotes : LocalQuotes where
  aerodromeV2 := fun _ _ _ => none
  uniswapV3 := fun _ _ _ => 0
  traderJoeLb := fun _ _ _ => none
  curve := fun _ _ _ _ => 0
  balancer := fun _ _ _ _ => 0

def localSettings : QuoterSettings where
  useV3RpcQuoter := false
  useLbRpcQuoter := false
  useCurveRpcQuoter := false
  useBalancerRpcQuoter := false

end DexArbitrage
