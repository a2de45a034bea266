/-
This file models the WebSocket side of `src/discovery/event_stream.rs`: the
stream that drains the logs a subscription has delivered and, from time to
time, reads the log range it may have missed over RPC.

The stream remembers the keys of the logs it has drained, so that a range read
does not deliver them twice, and the last block up to which it has read. Both
are updated while a poll runs, whether or not the poll returns a batch.

The readings of the clock and the answers of the RPC come with each poll as
`PollReplies`; the hash of a log's data is a parameter.
-/

import DexArbitrage.Lib.Dedup
import DexArbitrage.Lib.Program
import DexArbitrage.Discovery.RefreshBatch

namespace DexArbitrage

def watchedAddresses (snapshot : GraphSnapshot) : List Address :=
  snapshot.pools.values.foldl (fun addresses pool =>
    match pool.vault with
    | some vault => if vault ∈ addresses then addresses else addresses ++ [vault]
    | none => addresses) snapshot.pools.keys

def eventSignatures : List String :=
  ["Sync(uint112,uint112)",
    "Sync(uint256,uint256)",
    "Swap(address,address,int256,int256,uint160,uint128,int24)",
    "Mint(address,address,int24,int24,uint128,uint256,uint256)",
    "Burn(address,int24,int24,uint128,uint256,uint256)",
    "Initialize(uint160,int24)",
    "TokenExchange(address,int128,uint256,int128,uint256)",
    "TokenExchangeUnderlying(address,int128,uint256,int128,uint256)",
    "AddLiquidity(address,uint256[8],uint256[8],uint256,uint256)",
    "RemoveLiquidity(address,uint256[8],uint256[8],uint256)",
    "RemoveLiquidityOne(address,uint256,int128,uint256)",
    "RemoveLiquidityImbalance(address,uint256[8],uint256[8],uint256,uint256)",
    "RampA(uint256,uint256,uint256,uint256)",
    "StopRampA(uint256,uint256)",
    "Swap(bytes32,address,address,uint256,uint256)",
    "PoolBalanceChanged(bytes32,address,address[],int256[],uint256[])"]

def eventTopics (signatureHash : String → B256) : List B256 :=
  eventSignatures.map signatureHash

/-- The log is of a watched address and starts with a watched topic. -/
def isWatched (addresses : List Address) (topics : List B256) (log : RpcLog) : Bool :=
  log.address ∈ addresses &&
    match log.topics.head? with
    | some topic => topic ∈ topics
    | none => false

def filterWatchedLogs (logs : List RpcLog) (addresses : List Address) (topics : List B256) :
    List RpcLog :=
  logs.filter (isWatched addresses topics)

structure LogKey where
  blockNumber : Option Nat
  txHash : Option B256
  address : Address
  topic0 : Option B256
  dataHash : Nat
  deriving DecidableEq, Repr

def logKey (hashLogData : Bytes → Nat) (log : RpcLog) : LogKey where
  blockNumber := log.blockNumber
  txHash := log.txHash
  address := log.address
  topic0 := log.topics.head?
  dataHash := hashLogData log.data

def dedupLogs (hashLogData : Bytes → Nat) (logs : List RpcLog) : List RpcLog :=
  dedupBy (logKey hashLogData) [] logs

inductive WssReconcileStrategy
  | adaptive
  | fixed
  | off
  deriving DecidableEq, Repr

/-- The settings of the WebSocket stream, most of them from the environment. -/
structure WssSettings where
  wsUrlConfigured : Bool
  recentLogCapacity : Nat
  reconcileStrategy : WssReconcileStrategy
  reconcileConfirmationBlocks : Nat
  reconcileIntervalBlocks : Nat
  reconcileInterval : Nat
  auditIntervalBlocks : Nat
  auditInterval : Nat
  reconcileBurstThreshold : Nat
  reconcileBurstDuration : Nat
  deriving DecidableEq, Repr

/-- The receiver holds the logs delivered and not yet drained; there is none before the first
subscription. -/
structure EventStream where
  wsStarted : Bool
  wsRx : Option (List RpcLog)
  recentWssLogs : RecentKeys LogKey
  lastWssReconcileAt : Option Instant
  lastWssReconciledBlock : Option Nat
  wssReconcileBurstUntil : Option Instant

/-- What one poll reads from outside. -/
structure PollReplies where
  blockNumber : Except RpcError Nat
  getLogs : Nat → Nat → Except RpcError (List RpcLog)
  dueClock : Instant
  reconcileClock : Instant
  burstClock : Instant

namespace EventStream

def new : EventStream where
  wsStarted := false
  wsRx := none
  recentWssLogs := RecentKeys.empty
  lastWssReconcileAt := none
  lastWssReconciledBlock := none
  wssReconcileBurstUntil := none

/-- The subscription hands a log over. -/
def deliver (stream : EventStream) (log : RpcLog) : EventStream :=
  { stream with wsRx := stream.wsRx.map (· ++ [log]) }

/-- The subscription task ends. -/
def subscriptionStopped (stream : EventStream) : EventStream :=
  { stream with wsStarted := false }

def startWss (settings : WssSettings) (stream : EventStream) : Bool × EventStream :=
  if stream.wsStarted then
    (true, stream)
  else if settings.wsUrlConfigured then
    (true, { stream with wsStarted := true, wsRx := some [] })
  else
    (false, stream)

def drainWssLogs (stream : EventStream) : List RpcLog × EventStream :=
  match stream.wsRx with
  | some logs => (logs, { stream with wsRx := some [] })
  | none => ([], stream)

def recordWssLogKeys (settings : WssSettings) (hashLogData : Bytes → Nat) (logs : List RpcLog)
    (stream : EventStream) : EventStream :=
  { stream with
    recentWssLogs := (logs.map (logKey hashLogData)).foldl
      (fun recent key => recent.insert key settings.recentLogCapacity) stream.recentWssLogs }

def filterSeenWssLogs (hashLogData : Bytes → Nat) (stream : EventStream) (logs : List RpcLog) :
    List RpcLog :=
  logs.filter fun log => ! stream.recentWssLogs.contains (logKey hashLogData log)

def ensureWssReconciledBlock (fromBlock : Nat) (stream : EventStream) : Nat × EventStream :=
  let value := stream.lastWssReconciledBlock.getD fromBlock
  (value, { stream with lastWssReconciledBlock := some value })

def reconcileGapDue (stream : EventStream) (blockGap intervalBlocks interval : Nat)
    (now : Instant) : Bool :=
  if intervalBlocks ≤ blockGap then
    true
  else
    match stream.lastWssReconcileAt with
    | some last => interval ≤ now - last
    | none => 0 < blockGap

def wssReconcileDue (stream : EventStream) (settings : WssSettings) (force : Bool)
    (fromBlock toBlock : Nat) (now : Instant) : Bool :=
  if settings.reconcileStrategy = .off then
    false
  else if force then
    true
  else
    let blockGap := toBlock - fromBlock
    let burstActive : Bool :=
      match stream.wssReconcileBurstUntil with
      | some deadline => now < deadline
      | none => false
    if burstActive || settings.reconcileStrategy = .fixed then
      stream.reconcileGapDue blockGap settings.reconcileIntervalBlocks settings.reconcileInterval
        now
    else
      stream.reconcileGapDue blockGap settings.auditIntervalBlocks settings.auditInterval now

def updateWssReconcileBurst (settings : WssSettings) (uniqueBackfillLogCount : Nat)
    (now : Instant) (stream : EventStream) : EventStream :=
  if settings.reconcileBurstThreshold = 0 ∨
      uniqueBackfillLogCount < settings.reconcileBurstThreshold then
    stream
  else
    { stream with wssReconcileBurstUntil := some (now + settings.reconcileBurstDuration) }

/-- The logs of a block range, read over RPC. -/
def pollWssReconcileLogs (replies : PollReplies) (fromBlock toBlock : Nat)
    (addresses : List Address) (topics : List B256) : Except RpcError (List RpcLog) := do
  let logs ← replies.getLogs fromBlock toBlock
  return filterWatchedLogs logs addresses topics

/-- The drained logs that the poll keeps: watched, and of a block after the given one. -/
def keptWssLogs (fromBlock : Nat) (addresses : List Address) (topics : List B256)
    (rawWssLogs : List RpcLog) : List RpcLog :=
  (filterWatchedLogs rawWssLogs addresses topics).filter fun log =>
    match log.blockNumber with
    | some block => fromBlock < block
    | none => true

section Poll

variable (settings : WssSettings) (hashLogData : Bytes → Nat)

/-- The range read of a poll, when one is due: the logs it adds, and the stream afterwards. -/
def reconcile (replies : PollReplies) (addresses : List Address) (topics : List B256)
    (lastReconciled reconcileTo : Nat) (stream : EventStream) :
    Except RpcError (List RpcLog × EventStream) := do
  let backfillLogs ←
    pollWssReconcileLogs replies (lastReconciled + 1) reconcileTo addresses topics
  let backfillLogs := stream.filterSeenWssLogs hashLogData backfillLogs
  return (backfillLogs,
    updateWssReconcileBurst settings backfillLogs.length replies.burstClock
      { stream with
        lastWssReconciledBlock := some reconcileTo
        lastWssReconcileAt := some replies.reconcileClock })

/-- Whether a poll reads the range after the last reconciled block. -/
def shouldReconcile (stream : EventStream) (force : Bool) (lastReconciled reconcileTo : Nat)
    (now : Instant) : Bool :=
  lastReconciled < reconcileTo &&
    stream.wssReconcileDue settings force lastReconciled reconcileTo now

/-- The part of a poll that runs when a subscription is running: drain, record, reconcile. -/
def pollSubscription (replies : PollReplies) (latest fromBlock : Nat) (force : Bool)
    (addresses : List Address) (topics : List B256) (stream : EventStream) :
    Except RpcError (Nat × List RpcLog) × EventStream :=
  let (rawWssLogs, stream) := stream.drainWssLogs
  let wssLogs := keptWssLogs fromBlock addresses topics rawWssLogs
  let stream := stream.recordWssLogKeys settings hashLogData wssLogs
  let (lastReconciled, stream) := stream.ensureWssReconciledBlock fromBlock
  let reconcileTo := latest - settings.reconcileConfirmationBlocks
  if stream.shouldReconcile settings force lastReconciled reconcileTo replies.dueClock then
    match reconcile settings hashLogData replies addresses topics lastReconciled reconcileTo
        stream with
    | .ok (backfillLogs, stream) =>
      (.ok (max latest fromBlock, dedupLogs hashLogData (backfillLogs ++ wssLogs)), stream)
    | .error error => (.error error, stream)
  else
    (.ok (max latest fromBlock, dedupLogs hashLogData wssLogs), stream)

/-- The block to go on from and the logs of the batch. -/
def pollWssHybrid (replies : PollReplies) (fromBlock : Nat) (addresses : List Address)
    (topics : List B256) (stream : EventStream) :
    Except RpcError (Nat × List RpcLog) × EventStream :=
  match replies.blockNumber with
  | .error error => (.error error, stream)
  | .ok latest =>
    let wasStarted := stream.wsStarted
    match stream.startWss settings with
    | (true, stream) =>
      stream.pollSubscription settings hashLogData replies latest fromBlock (! wasStarted)
        addresses topics
    | (false, stream) =>
      if latest ≤ fromBlock then
        (.ok (fromBlock, []), stream)
      else
        ((pollWssReconcileLogs replies (fromBlock + 1) latest addresses topics).map
          fun logs => (latest, logs), stream)

/-- `poll_once` of a stream that ingests over WebSocket. -/
def pollOnce (signatureHash : String → B256) (replies : PollReplies) (snapshot : GraphSnapshot)
    (fromBlock : Nat) (stream : EventStream) :
    Except RpcError (Nat × List RpcLog) × EventStream :=
  let addresses := watchedAddresses snapshot
  if addresses.isEmpty then
    (.ok (fromBlock, []), stream)
  else
    stream.pollWssHybrid settings hashLogData replies fromBlock addresses
      (eventTopics signatureHash)

end Poll

/-! ### What a poll does to the reconciled block -/

section Cases

variable (settings : WssSettings) (hashLogData : Bytes → Nat)

@[simp] theorem lastWssReconciledBlock_updateWssReconcileBurst (uniqueBackfillLogCount : Nat)
    (now : Instant) (stream : EventStream) :
    (updateWssReconcileBurst settings uniqueBackfillLogCount now
      stream).lastWssReconciledBlock = stream.lastWssReconciledBlock := by
  unfold updateWssReconcileBurst
  split <;> rfl

@[simp] theorem wsStarted_updateWssReconcileBurst (uniqueBackfillLogCount : Nat)
    (now : Instant) (stream : EventStream) :
    (updateWssReconcileBurst settings uniqueBackfillLogCount now stream).wsStarted =
      stream.wsStarted := by
  unfold updateWssReconcileBurst
  split <;> rfl

/-- The record of seen keys after the keys of the given logs were added. -/
def recordedKeys (stream : EventStream) (logs : List RpcLog) : RecentKeys LogKey :=
  (recordWssLogKeys settings hashLogData logs stream).recentWssLogs

/-- The stream after it was drained, the keys of the kept logs recorded, and the reconciled block
set if there was none. -/
def recorded (stream : EventStream) (fromBlock : Nat) (kept : List RpcLog) : EventStream :=
  { stream with
    wsRx := stream.wsRx.map fun _ => []
    recentWssLogs := recordedKeys settings hashLogData stream kept
    lastWssReconciledBlock := some (stream.lastWssReconciledBlock.getD fromBlock) }

theorem pollSubscription_eq (replies : PollReplies) (latest fromBlock : Nat) (force : Bool)
    (addresses : List Address) (topics : List B256) (stream : EventStream) :
    stream.pollSubscription settings hashLogData replies latest fromBlock force addresses topics =
      let kept := keptWssLogs fromBlock addresses topics (stream.wsRx.getD [])
      let last := stream.lastWssReconciledBlock.getD fromBlock
      let reconcileTo := latest - settings.reconcileConfirmationBlocks
      let after := stream.recorded settings hashLogData fromBlock kept
      if stream.shouldReconcile settings force last reconcileTo replies.dueClock then
        match reconcile settings hashLogData replies addresses topics last reconcileTo after with
        | .ok (backfillLogs, stream) =>
          (.ok (max latest fromBlock, dedupLogs hashLogData (backfillLogs ++ kept)), stream)
        | .error error => (.error error, after)
      else
        (.ok (max latest fromBlock, dedupLogs hashLogData kept), after) := by
  obtain ⟨started, queue, recent, reconcileAt, reconciled, burst⟩ := stream
  cases queue <;> rfl

/-- What a poll of a running subscription returns and leaves behind: it has read no range and kept
the reconciled block, or it has read one and moved the reconciled block to its end. -/
theorem pollSubscription_cases {replies : PollReplies} {latest fromBlock : Nat} {force : Bool}
    {addresses : List Address} {topics : List B256} {stream after : EventStream}
    {kept : List RpcLog} {last reconcileTo : Nat}
    {result : Except RpcError (Nat × List RpcLog)}
    (polled : stream.pollSubscription settings hashLogData replies latest fromBlock force
      addresses topics = (result, after))
    (keptLogs : kept = keptWssLogs fromBlock addresses topics (stream.wsRx.getD []))
    (lastBlock : last = stream.lastWssReconciledBlock.getD fromBlock)
    (target : reconcileTo = latest - settings.reconcileConfirmationBlocks) :
    after.wsStarted = stream.wsStarted ∧
      (after.lastWssReconciledBlock = some last ∧
          (stream.shouldReconcile settings force last reconcileTo replies.dueClock = true →
            ∀ logs, replies.getLogs (last + 1) reconcileTo ≠ .ok logs) ∨
        stream.shouldReconcile settings force last reconcileTo replies.dueClock = true ∧
          ∃ logs, replies.getLogs (last + 1) reconcileTo = .ok logs ∧
            result = .ok (max latest fromBlock, dedupLogs hashLogData
              ((filterWatchedLogs logs addresses topics).filter (fun log =>
                ! (recordedKeys settings hashLogData stream kept).contains
                  (logKey hashLogData log)) ++ kept)) ∧
            after.lastWssReconciledBlock = some reconcileTo) := by
  rw [pollSubscription_eq, ← keptLogs, ← lastBlock, ← target] at polled
  simp only at polled
  split at polled
  · rename_i due
    unfold reconcile pollWssReconcileLogs at polled
    cases reply : replies.getLogs (last + 1) reconcileTo with
    | error error =>
      rw [reply] at polled
      injection polled with outcome stream
      subst stream
      exact ⟨rfl, Or.inl ⟨by rw [lastBlock]; rfl, fun _ _ => by simp⟩⟩
    | ok logs =>
      rw [reply] at polled
      injection polled with outcome stream
      subst stream
      refine ⟨?_, Or.inr ⟨due, logs, rfl, outcome.symm, ?_⟩⟩
      · rw [wsStarted_updateWssReconcileBurst]
        rfl
      · rw [lastWssReconciledBlock_updateWssReconcileBurst]
  · rename_i notDue
    injection polled with outcome stream
    subst stream
    exact ⟨rfl, Or.inl ⟨by rw [lastBlock]; rfl, fun due => absurd due notDue⟩⟩

end Cases

end EventStream

end DexArbitrage
