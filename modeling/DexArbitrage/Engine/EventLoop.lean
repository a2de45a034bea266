/-
This file models the main loop of `src/engine.rs` for a stream that ingests
over WebSocket: poll the stream, answer a reorg by rolling the store back, and
otherwise refresh the pools that the batch touches and publish the result.

A round of the loop also reports what became of the logs of its batch, since
three of its exits leave the batch unprocessed: a failed poll, a reorg, and an
error that ends the loop.
-/

import DexArbitrage.Discovery.EventStream
import DexArbitrage.Discovery.Refresh
import DexArbitrage.Graph.Snapshot
import DexArbitrage.Reorg.Detector

namespace DexArbitrage

structure LoopSettings where
  wss : WssSettings
  admission : AdmissionFilter
  eventBackfillBlocks : Nat

/-- The parts of the code whose results are not modelled: floating-point rates, the two hash
functions, and the iteration order of the trigger map. -/
structure LoopOracles where
  rates : FloatRates
  signatureHash : String → B256
  hashLogData : Bytes → Nat
  order : List RefreshTrigger → List RefreshTrigger

structure EventLoop where
  running : Bool
  store : GraphStore
  stream : EventStream
  pollFromBlock : Nat

/-- What one round reads from outside. The reorg detector answers with an event or with none, and
its error ends the loop. -/
structure LoopReplies where
  poll : PollReplies
  reorg : Except String (Option ReorgEvent)
  blockRef : Option BlockRef
  refresh : RefreshReplies

/-- What became of the logs of a round. -/
inductive BatchFate
  | failed
  | discarded (logs : List RpcLog)
  | processed (logs : List RpcLog)
  deriving DecidableEq, Repr

/-- The block from which polling starts on a snapshot. -/
def initialPollFromBlock (settings : LoopSettings) (snapshot : GraphSnapshot) : Nat :=
  match snapshot.blockRef with
  | some block => block.number - settings.eventBackfillBlocks
  | none => 0

def EventLoop.start (settings : LoopSettings) (store : GraphStore) : EventLoop where
  running := true
  store := store
  stream := EventStream.new
  pollFromBlock := initialPollFromBlock settings store.load

/-- The store after the rollback, and the block to poll from. -/
def handleReorgEvent (settings : LoopSettings) (store : GraphStore) (event : ReorgEvent) :
    GraphStore × Nat :=
  match store.rollbackToBlock event.targetBlock with
  | (some snapshot, store) =>
    (store, (snapshot.blockRef.map BlockRef.number).getD event.targetBlock -
      settings.eventBackfillBlocks)
  | (none, store) => (store, event.targetBlock - settings.eventBackfillBlocks)

section Loop

variable (settings : LoopSettings) (oracles : LoopOracles)

/-- The end of a round whose batch is neither discarded nor lost: refresh and publish. -/
def processBatch (loop : EventLoop) (snapshot : GraphSnapshot) (logs : List RpcLog)
    (replies : LoopReplies) : BatchFate × EventLoop :=
  let batch := buildRefreshBatch oracles.signatureHash oracles.order snapshot logs
  let changedSpecs := collectChangedSpecs snapshot batch
  let patches := collectPatches batch
  if batch.triggers.isEmpty || changedSpecs.isEmpty && patches.isEmpty then
    (.processed logs, loop)
  else
    match refreshPools oracles.rates settings.admission replies.refresh snapshot.snapshotId
        snapshot.tokens snapshot.pools changedSpecs patches replies.blockRef with
    | .error _ => (.discarded logs, { loop with running := false })
    | .ok (next, changed) =>
      let changedEdges := changed.flatMap fun poolId => (next.poolToEdges.lookup poolId).getD []
      if changedEdges.isEmpty then
        (.processed logs, loop)
      else
        (.processed logs, { loop with store := loop.store.publish next })

/-- A round after a successful poll. -/
def finishRound (loop : EventLoop) (snapshot : GraphSnapshot) (logs : List RpcLog)
    (replies : LoopReplies) : BatchFate × EventLoop :=
  match replies.reorg with
  | .error _ => (.discarded logs, { loop with running := false })
  | .ok (some event) =>
    let (store, pollFromBlock) := handleReorgEvent settings loop.store event
    (.discarded logs, { loop with store, pollFromBlock })
  | .ok none => processBatch settings oracles loop snapshot logs replies

def loopRound (loop : EventLoop) (replies : LoopReplies) : BatchFate × EventLoop :=
  let snapshot := loop.store.load
  match loop.stream.pollOnce settings.wss oracles.hashLogData oracles.signatureHash replies.poll
      snapshot loop.pollFromBlock with
  | (.error _, stream) => (.failed, { loop with stream })
  | (.ok (latestBlock, logs), stream) =>
    finishRound settings oracles { loop with stream, pollFromBlock := latestBlock } snapshot logs
      replies

/-! ### What a round reports and leaves alone -/

/-- The logs of a batch are accepted: no reorg is reported, and when the batch makes a refresh
necessary, all its requests are answered. -/
structure BatchAccepted (snapshot : GraphSnapshot) (logs : List RpcLog) (replies : LoopReplies) :
    Prop where
  noReorg : replies.reorg = .ok none
  answered :
    let batch := buildRefreshBatch oracles.signatureHash oracles.order snapshot logs
    let changedSpecs := collectChangedSpecs snapshot batch
    let patches := collectPatches batch
    (batch.triggers.isEmpty || changedSpecs.isEmpty && patches.isEmpty) = false →
      RefreshAnswered settings.admission replies.refresh snapshot.tokens snapshot.pools
        changedSpecs patches replies.blockRef

theorem processBatch_cases (loop : EventLoop) (snapshot : GraphSnapshot) (logs : List RpcLog)
    (replies : LoopReplies) :
    ((processBatch settings oracles loop snapshot logs replies).1 = .processed logs ∨
      (processBatch settings oracles loop snapshot logs replies).1 = .discarded logs) ∧
    (processBatch settings oracles loop snapshot logs replies).2.stream = loop.stream := by
  unfold processBatch
  simp only
  split
  · exact ⟨Or.inl rfl, rfl⟩
  · split
    · exact ⟨Or.inr rfl, rfl⟩
    · split
      · exact ⟨Or.inl rfl, rfl⟩
      · exact ⟨Or.inl rfl, rfl⟩

/-- A round after a successful poll reports the logs of the poll, processed or discarded, and
keeps the stream. -/
theorem finishRound_cases (loop : EventLoop) (snapshot : GraphSnapshot) (logs : List RpcLog)
    (replies : LoopReplies) :
    (finishRound settings oracles loop snapshot logs replies).2.stream = loop.stream ∧
      ((finishRound settings oracles loop snapshot logs replies).1 = .processed logs ∨
        (finishRound settings oracles loop snapshot logs replies).1 = .discarded logs) := by
  unfold finishRound
  split
  · exact ⟨rfl, Or.inr rfl⟩
  · exact ⟨rfl, Or.inr rfl⟩
  · obtain ⟨fate, stream⟩ := processBatch_cases settings oracles loop snapshot logs replies
    exact ⟨stream, fate⟩

/-- The logs that a round has processed are those of its poll when the batch is accepted. -/
theorem finishRound_eq_processed_iff (loop : EventLoop) (snapshot : GraphSnapshot)
    (logs : List RpcLog) (replies : LoopReplies) :
    (finishRound settings oracles loop snapshot logs replies).1 = .processed logs ↔
      BatchAccepted settings oracles snapshot logs replies := by
  have noReorg : BatchAccepted settings oracles snapshot logs replies → replies.reorg = .ok none :=
    BatchAccepted.noReorg
  unfold finishRound
  cases reorg : replies.reorg with
  | error reason =>
    rw [reorg] at noReorg
    exact iff_of_false (fun same => nomatch same) fun accepted => nomatch noReorg accepted
  | ok event? =>
    cases event? with
    | some event =>
      rw [reorg] at noReorg
      exact iff_of_false (fun same => nomatch same) fun accepted => nomatch noReorg accepted
    | none =>
      dsimp only
      unfold processBatch
      dsimp only
      split
      · rename_i nothing
        refine iff_of_true rfl ⟨reorg, fun something => ?_⟩
        rw [nothing] at something
        cases something
      · rename_i something
        split
        · rename_i reason failed
          refine iff_of_false (fun same => nomatch same) fun accepted => ?_
          obtain ⟨result, refreshed⟩ := exists_refreshPools_iff.mpr
            (accepted.answered (Bool.eq_false_iff.mpr something))
          rw [failed] at refreshed
          cases refreshed
        · rename_i next changed refreshed
          have accepted : BatchAccepted settings oracles snapshot logs replies :=
            ⟨reorg, fun _ => exists_refreshPools_iff.mp ⟨_, refreshed⟩⟩
          split
          · exact iff_of_true rfl accepted
          · exact iff_of_true rfl accepted

end Loop

/-! ### Settings with one confirmation block -/

def hybridSettings : LoopSettings where
  wss :=
    { wsUrlConfigured := true
      recentLogCapacity := 100000
      reconcileStrategy := .fixed
      reconcileConfirmationBlocks := 1
      reconcileIntervalBlocks := 2
      reconcileInterval := 10000
      auditIntervalBlocks := 64
      auditInterval := 60000
      reconcileBurstThreshold := 16
      reconcileBurstDuration := 30000 }
  admission := { minConfidenceBps := 0, stalenessTimeout := 0 }
  eventBackfillBlocks := 0

end DexArbitrage
