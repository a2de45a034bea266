/-
This file is the main loop of `src/engine.rs` for a stream that polls ranges of
blocks, and what its rounds read over a whole run. A round asks for the blocks
after the last one it has read, up to the head of the chain, and goes on from
the head when its batch is taken.

While no reorg is reported, the batches that were processed lie end to end: each
block after the start, up to the one to poll from, was read by exactly one of
them. After reorgs blocks are read again; when every change of the chain is
answered in the round that sees it, what was read last is what the chain has.
-/

import DexArbitrage.Discovery.PollModes
import DexArbitrage.Engine.NoLostLog

namespace DexArbitrage

structure PollingSettings where
  mode : RangeMode
  poll : PollEnv
  chain : Chain
  loop : LoopSettings

/-- What one round reads from outside, and the chain as the provider has it in the round, which the
loop does not see. The part of the replies that belongs to a subscription is not used. -/
structure PollingReplies where
  blocks : Nat → List RpcLog
  blockNumber : Except RpcError Nat
  logs : LogReplies
  receipts : ReceiptReplies
  rounds : Nat
  loop : LoopReplies

section Polling

variable (settings : PollingSettings) (oracles : LoopOracles)

/-- `poll_once` in a mode that reads ranges; none while the scan is under way. -/
def pollRange (replies : PollingReplies) (snapshot : GraphSnapshot) (fromBlock : Nat) :
    Option (Except RpcError (Nat × List RpcLog)) :=
  let addresses := watchedAddresses snapshot
  if addresses.isEmpty then
    some (.ok (fromBlock, []))
  else
    match replies.blockNumber with
    | .error err => some (.error err)
    | .ok latest =>
      if latest ≤ fromBlock then
        some (.ok (fromBlock, []))
      else
        (pollLogs settings.poll settings.chain replies.logs replies.receipts addresses
          (eventTopics oracles.signatureHash) settings.mode (fromBlock + 1) latest
          replies.rounds).map fun result => result.map fun logs => (latest, logs)

def pollingRound (loop : EventLoop) (replies : PollingReplies) : BatchFate × EventLoop :=
  let snapshot := loop.store.load
  match pollRange settings oracles replies snapshot loop.pollFromBlock with
  | none => (.failed, loop)
  | some (.error _) => (.failed, loop)
  | some (.ok (latestBlock, logs)) =>
    finishRound settings.loop oracles { loop with pollFromBlock := latestBlock } snapshot logs
      replies.loop

/-- A processed batch that read a range: the range and its logs, the addresses watched, and the
chain it was read from. -/
structure ReadBatch where
  piece : Piece RpcLog
  addresses : List Address
  blocks : Nat → List RpcLog

/-- The loop, the batches that were processed, and the chain of the last round. -/
structure PollingLoop where
  loop : EventLoop
  batches : List ReadBatch
  blocks : Nat → List RpcLog

def PollingLoop.start (store : GraphStore) (blocks : Nat → List RpcLog) : PollingLoop where
  loop := .start settings.loop store
  batches := []
  blocks := blocks

/-- The batch of a round, when it read a range and was processed. -/
def readBatch (blocks : Nat → List RpcLog) (loop after : EventLoop) : BatchFate → List ReadBatch
  | .processed logs =>
    if loop.pollFromBlock < after.pollFromBlock then
      [{ piece := ⟨loop.pollFromBlock + 1, after.pollFromBlock, logs⟩
         addresses := watchedAddresses loop.store.load
         blocks := blocks }]
    else
      []
  | _ => []

def pollingStep (state : PollingLoop) (replies : PollingReplies) : PollingLoop :=
  if state.loop.running then
    let (fate, after) := pollingRound settings oracles state.loop replies
    { loop := after
      batches := state.batches ++ readBatch replies.blocks state.loop after fate
      blocks := replies.blocks }
  else
    state

/-! ### What one round does -/

/-- The logs of the batch are those its chain has for the range and the addresses, each as often. -/
def ReadBatch.Complete (batch : ReadBatch) : Prop :=
  batch.piece.logs.Perm
    ((rangeLogs batch.blocks batch.piece.first batch.piece.last).filter
      (isWatched batch.addresses (eventTopics oracles.signatureHash)))

/-- The provider tells the truth about the chain, and its block numbers are machine integers. -/
structure TruthfulReplies (replies : PollingReplies) : Prop where
  provider : Truthful replies.logs replies.receipts replies.blocks
  fits : ∀ latest, replies.blockNumber = .ok latest → latest ≤ u64Max

variable {settings oracles}

/-- A poll that succeeds stays where it was, without logs, or has read the range up to its head. -/
theorem pollRange_ok {replies : PollingReplies} (truthful : TruthfulReplies replies)
    {snapshot : GraphSnapshot} {fromBlock latest : Nat} {logs : List RpcLog}
    (polled : pollRange settings oracles replies snapshot fromBlock = some (.ok (latest, logs))) :
    latest = fromBlock ∧ logs = [] ∨
      fromBlock < latest ∧
        ReadBatch.Complete oracles
          { piece := ⟨fromBlock + 1, latest, logs⟩, addresses := watchedAddresses snapshot,
            blocks := replies.blocks } := by
  unfold pollRange at polled
  dsimp only at polled
  split at polled
  · cases polled
    exact Or.inl ⟨rfl, rfl⟩
  · split at polled
    · cases polled
    · rename_i head isHead
      split at polled
      · cases polled
        exact Or.inl ⟨rfl, rfl⟩
      · rename_i newer
        obtain ⟨result, read, same⟩ := Option.map_eq_some_iff.mp polled
        cases result with
        | error err => cases same
        | ok found =>
          cases same
          have ahead : fromBlock + 1 ≤ latest := Nat.lt_of_not_le newer
          exact Or.inr ⟨ahead, truthful.provider.pollLogs_complete (eventTopics_ne_nil _)
            (nodup_watchedAddresses snapshot) ahead (truthful.fits latest isHead) read⟩

/-- What the end of a round does to the block to poll from. -/
theorem finishRound_pollFromBlock (loop : EventLoop) (snapshot : GraphSnapshot)
    (logs : List RpcLog) (replies : LoopReplies) :
    (finishRound settings.loop oracles loop snapshot logs replies).1 = .discarded logs ∧
        ((finishRound settings.loop oracles loop snapshot logs replies).2.running = false ∨
          ∃ event, replies.reorg = .ok (some event) ∧
            (finishRound settings.loop oracles loop snapshot logs replies).2.pollFromBlock =
              (handleReorgEvent settings.loop loop.store event).2) ∨
      (finishRound settings.loop oracles loop snapshot logs replies).1 = .processed logs ∧
        (finishRound settings.loop oracles loop snapshot logs replies).2.pollFromBlock =
          loop.pollFromBlock := by
  unfold finishRound
  split
  · exact Or.inl ⟨rfl, Or.inl rfl⟩
  · rename_i event isReorg
    exact Or.inl ⟨rfl, Or.inr ⟨event, isReorg, rfl⟩⟩
  · unfold processBatch
    dsimp only
    split
    · exact Or.inr ⟨rfl, rfl⟩
    · split
      · exact Or.inl ⟨rfl, Or.inl rfl⟩
      · split
        · exact Or.inr ⟨rfl, rfl⟩
        · exact Or.inr ⟨rfl, rfl⟩

/-- What a step of the run does to the batches and to the block to poll from. -/
inductive PollingMoves (settings : PollingSettings) (oracles : LoopOracles)
    (replies : PollingReplies) (before after : PollingLoop) : Prop
  | stops (batches : after.batches = before.batches) (stopped : after.loop.running = false)
  | stays (ran : before.loop.running = true) (blocks : after.blocks = replies.blocks)
      (batches : after.batches = before.batches)
      (pollFromBlock : after.loop.pollFromBlock = before.loop.pollFromBlock)
  | reads (ran : before.loop.running = true) (blocks : after.blocks = replies.blocks)
      (ahead : before.loop.pollFromBlock < after.loop.pollFromBlock) (batch : ReadBatch)
      (piece : batch.piece =
        ⟨before.loop.pollFromBlock + 1, after.loop.pollFromBlock, batch.piece.logs⟩)
      (complete : batch.Complete oracles) (current : batch.blocks = replies.blocks)
      (batches : after.batches = before.batches ++ [batch])
  | rewinds (ran : before.loop.running = true) (blocks : after.blocks = replies.blocks)
      (event : ReorgEvent) (reorg : replies.loop.reorg = .ok (some event))
      (batches : after.batches = before.batches)
      (pollFromBlock : after.loop.pollFromBlock =
        (handleReorgEvent settings.loop before.loop.store event).2)

theorem pollingStep_moves (settings : PollingSettings) (oracles : LoopOracles)
    {replies : PollingReplies} (truthful : TruthfulReplies replies) (state : PollingLoop) :
    PollingMoves settings oracles replies state
      (pollingStep settings oracles state replies) := by
  unfold pollingStep
  split
  · rename_i ran
    unfold pollingRound
    dsimp only
    split
    · exact .stays ran rfl (List.append_nil _) rfl
    · exact .stays ran rfl (List.append_nil _) rfl
    · rename_i latest logs polled
      have read := pollRange_ok truthful polled
      rcases finishRound_pollFromBlock { state.loop with pollFromBlock := latest }
        state.loop.store.load logs replies.loop with
        ⟨discarded, stopped | ⟨event, isReorg, rewound⟩⟩ | ⟨processed, stays⟩
      · exact .stops (by rw [discarded]; exact List.append_nil _) stopped
      · exact .rewinds ran rfl event isReorg (by rw [discarded]; exact List.append_nil _) rewound
      · rw [processed]
        unfold readBatch
        dsimp only
        rw [stays]
        dsimp only
        rcases read with ⟨rfl, _⟩ | ⟨ahead, complete⟩
        · rw [if_neg (Nat.lt_irrefl _)]
          exact .stays ran rfl (List.append_nil _) stays
        · rw [if_pos ahead]
          exact .reads ran rfl (stays.symm ▸ ahead) _ (by rw [stays]) complete rfl rfl
  · rename_i stopped
    exact .stops rfl (Bool.eq_false_iff.mpr stopped)

/-! ### Whole runs -/

theorem complete_append {batches : List ReadBatch} {batch : ReadBatch}
    (all : ∀ other ∈ batches, other.Complete oracles)
    (complete : batch.Complete oracles) :
    ∀ other ∈ batches ++ [batch], other.Complete oracles := by
  intro other member
  rcases List.mem_append.mp member with old | new
  · exact all other old
  · rw [List.mem_singleton.mp new]
    exact complete

/-- While the loop runs, the processed batches lie end to end from the start to the block to poll
from, and each of them has all the logs of its range. -/
structure ReadOnce (oracles : LoopOracles) (startBlock : Nat)
    (state : PollingLoop) : Prop where
  tiles : state.loop.running = true →
    Tiles (startBlock + 1) state.loop.pollFromBlock (state.batches.map ReadBatch.piece)
  complete : ∀ batch ∈ state.batches, batch.Complete oracles

theorem ReadOnce.step {startBlock : Nat} {state after : PollingLoop} {replies : PollingReplies}
    (readOnce : ReadOnce oracles startBlock state) (noReorg : replies.loop.reorg = .ok none)
    (moves : PollingMoves settings oracles replies state after) :
    ReadOnce oracles startBlock after := by
  cases moves with
  | stops batches stopped =>
    refine ⟨fun running => absurd running (Bool.eq_false_iff.mp stopped), ?_⟩
    rw [batches]
    exact readOnce.complete
  | stays ran _ batches pollFromBlock =>
    refine ⟨fun _ => ?_, ?_⟩
    · rw [pollFromBlock, batches]
      exact readOnce.tiles ran
    · rw [batches]
      exact readOnce.complete
  | reads ran _ ahead batch piece complete _ batches =>
    refine ⟨fun _ => ?_, ?_⟩
    · rw [batches, List.map_append, List.map_singleton, piece]
      exact (readOnce.tiles ran).snoc _ ahead
    · rw [batches]
      exact complete_append readOnce.complete complete
  | rewinds ran _ event reorg batches pollFromBlock =>
    rw [noReorg] at reorg
    cases reorg

/-- Of the processed batches with the block in their range, the last one. -/
def lastRead (batches : List ReadBatch) (block : Nat) : Option ReadBatch :=
  batches.reverse.find? fun batch =>
    decide (batch.piece.first ≤ block) && decide (block ≤ batch.piece.last)

/-- A new batch is the last one for the blocks of its range, and for no others. -/
theorem lastRead_append (batches : List ReadBatch) (batch : ReadBatch) (block : Nat) :
    lastRead (batches ++ [batch]) block =
      if batch.piece.first ≤ block ∧ block ≤ batch.piece.last then some batch
      else lastRead batches block := by
  unfold lastRead
  rw [List.reverse_append, List.reverse_singleton, List.singleton_append, List.find?_cons,
    ← Bool.decide_and]
  by_cases covered : batch.piece.first ≤ block ∧ block ≤ batch.piece.last
  · rw [decide_eq_true covered, if_pos covered]
  · rw [decide_eq_false covered, if_neg covered]

/-- While the loop runs, every block after the start, up to the block to poll from, has been read,
and the batch that read it last read it as the chain has it now. -/
structure ReadAll (oracles : LoopOracles) (startBlock : Nat) (state : PollingLoop) : Prop where
  covers : state.loop.running = true → ∀ block, startBlock < block →
    block ≤ state.loop.pollFromBlock →
    ∃ batch, lastRead state.batches block = some batch ∧
      batch.blocks block = state.blocks block
  complete : ∀ batch ∈ state.batches, batch.Complete oracles

/-- A change of the chain that a round sees is answered in the round: a reorg does not move the loop
forward, and the blocks that stay read are those that have not changed. -/
structure ChangesAnswered (settings : PollingSettings) (oracles : LoopOracles) (startBlock : Nat)
    (state : PollingLoop) (replies : PollingReplies) : Prop where
  back : ∀ event, replies.loop.reorg = .ok (some event) →
    (handleReorgEvent settings.loop state.loop.store event).2 ≤ state.loop.pollFromBlock
  unchanged : ∀ block, startBlock < block → block ≤ state.loop.pollFromBlock →
    block ≤ (pollingStep settings oracles state replies).loop.pollFromBlock →
    replies.blocks block = state.blocks block

theorem ReadAll.step {startBlock : Nat} {state : PollingLoop} {replies : PollingReplies}
    (readAll : ReadAll oracles startBlock state)
    (answered : ChangesAnswered settings oracles startBlock state replies)
    (moves : PollingMoves settings oracles replies state
      (pollingStep settings oracles state replies)) :
    ReadAll oracles startBlock (pollingStep settings oracles state replies) := by
  have kept : state.loop.running = true → ∀ block, startBlock < block →
      block ≤ state.loop.pollFromBlock →
      block ≤ (pollingStep settings oracles state replies).loop.pollFromBlock →
      ∃ batch, lastRead state.batches block = some batch ∧
        batch.blocks block = replies.blocks block := by
    intro ran block begun before upTo
    obtain ⟨batch, last, same⟩ := readAll.covers ran block begun before
    exact ⟨batch, last, same.trans (answered.unchanged block begun before upTo).symm⟩
  cases moves with
  | stops batches stopped =>
    refine ⟨fun running => absurd running (Bool.eq_false_iff.mp stopped), ?_⟩
    rw [batches]
    exact readAll.complete
  | stays ran blocks batches pollFromBlock =>
    refine ⟨fun _ block begun upTo => ?_, ?_⟩
    · rw [batches, blocks]
      exact kept ran block begun (pollFromBlock ▸ upTo) upTo
    · rw [batches]
      exact readAll.complete
  | reads ran blocks ahead batch piece complete current batches =>
    refine ⟨fun _ block begun upTo => ?_, ?_⟩
    · rw [batches, blocks, lastRead_append, piece]
      dsimp only
      rcases Nat.lt_or_ge state.loop.pollFromBlock block with later | earlier
      · rw [if_pos ⟨later, upTo⟩]
        exact ⟨batch, rfl, congrFun current block⟩
      · rw [if_neg fun covered => Nat.not_succ_le_self _ (covered.1.trans earlier)]
        exact kept ran block begun earlier upTo
    · rw [batches]
      exact complete_append readAll.complete complete
  | rewinds ran blocks event reorg batches pollFromBlock =>
    refine ⟨fun _ block begun upTo => ?_, ?_⟩
    · rw [batches, blocks]
      refine kept ran block begun (upTo.trans ?_) upTo
      rw [pollFromBlock]
      exact answered.back event reorg
    · rw [batches]
      exact readAll.complete

/-- Over every run of rounds in which the provider tells the truth and no reorg is reported: the
batches processed lie end to end from the start to the block to poll from, as long as the loop
runs, and each of them has the watched logs of its range, as often as the chain has them. -/
theorem pollingRun_readOnce (settings : PollingSettings) (oracles : LoopOracles)
    (blocks : Nat → List RpcLog) (store : GraphStore) (rounds : List PollingReplies)
    (truthful : ∀ replies ∈ rounds, TruthfulReplies replies)
    (noReorg : ∀ replies ∈ rounds, replies.loop.reorg = .ok none) :
    Always (pollingStep settings oracles)
      (ReadOnce oracles (initialPollFromBlock settings.loop store.load))
      (.start settings store blocks) rounds := by
  have meets : StepsMeet (pollingStep settings oracles)
      (fun _ replies => TruthfulReplies replies ∧ replies.loop.reorg = .ok none)
      (.start settings store blocks) rounds :=
    stepsMeet_of_forall_mem fun replies member => ⟨truthful replies member, noReorg replies member⟩
  refine always_of_stepsMeet (fun state replies readOnce condition => ?_) ?_ meets
  · exact readOnce.step condition.2 (pollingStep_moves settings oracles condition.1 state)
  · exact ⟨fun _ => .nil _, fun _ member => nomatch member⟩

/-- Over every run of rounds in which the provider tells the truth and every change of the chain is
answered in the round that sees it: no block after the start is passed over, and what was last read
of it is what the chain has now, whatever was rolled back and read again. -/
theorem pollingRun_readAll (settings : PollingSettings) (oracles : LoopOracles)
    (blocks : Nat → List RpcLog) (store : GraphStore) (rounds : List PollingReplies)
    (truthful : ∀ replies ∈ rounds, TruthfulReplies replies)
    (answered : StepsMeet (pollingStep settings oracles)
      (ChangesAnswered settings oracles (initialPollFromBlock settings.loop store.load))
      (.start settings store blocks) rounds) :
    Always (pollingStep settings oracles)
      (ReadAll oracles (initialPollFromBlock settings.loop store.load))
      (.start settings store blocks) rounds := by
  have meets : StepsMeet (pollingStep settings oracles)
      (fun state replies => TruthfulReplies replies ∧
        ChangesAnswered settings oracles (initialPollFromBlock settings.loop store.load) state
          replies)
      (.start settings store blocks) rounds :=
    stepsMeet_and.mpr ⟨stepsMeet_of_forall_mem truthful, answered⟩
  refine always_of_stepsMeet (fun state replies readAll condition => ?_) ?_ meets
  · exact readAll.step condition.2 (pollingStep_moves settings oracles condition.1 state)
  · refine ⟨fun _ block begun upTo => ?_, fun _ member => nomatch member⟩
    exact absurd upTo (Nat.not_le.mpr begun)

end Polling

/-! ### A log that a reorg takes back -/

def samplePolling : PollingSettings where
  mode := .addressLogs
  poll :=
    { scan := defaultLogScanEnv, eventReceiptMaxBlocks := none, receiptsTopicFallback := false }
  chain := .base
  loop := hybridSettings

/-- Block 101 has a log of the pair. -/
def blocksWithLog (block : Nat) : List RpcLog :=
  if block = 101 then [hybridLog] else []

/-- The provider has the given chain up to its head, and tells the truth. -/
def samplePollingRound (blocks : Nat → List RpcLog) (latest : Except RpcError Nat)
    (reorg : Option ReorgEvent) : PollingReplies where
  blocks := blocks
  blockNumber := latest
  logs :=
    { getLogs := fun _ _ request =>
        .ok ((rangeLogs blocks request.fromBlock request.toBlock).filter request.matches_)
      finishOrder := fun _ count => List.range count
      finishOrder_perm := fun _ count => perm_range_self count }
  receipts :=
    { getBlockReceiptsLogs := fun block => .ok (blocks block)
      finishOrder := fun _ count => List.range count
      finishOrder_perm := fun _ count => perm_range_self count }
  rounds := 10
  loop :=
    { poll :=
        { blockNumber := latest, getLogs := fun _ _ => .ok [], dueClock := 0, reconcileClock := 0
          burstClock := 0 }
      reorg := .ok reorg
      blockRef := none
      refresh :=
        { patchClock := fun _ => 0
          admitClock := 0
          fetchPool := fun _ => .ok none
          extendTokens := fun tokens _ => .ok tokens } }

theorem samplePollingRound_truthful (blocks : Nat → List RpcLog) (latest : Except RpcError Nat)
    (reorg : Option ReorgEvent) (fits : ∀ head, latest = .ok head → head ≤ u64Max) :
    TruthfulReplies (samplePollingRound blocks latest reorg) where
  provider :=
    { getLogs := fun _ _ _ _ answered => by injection answered with same; exact same.symm
      receipts := fun _ _ answered => by injection answered with same; exact same.symm }
  fits := fits

/-- A poll without news, one that fails, and one that reads two blocks. -/
theorem pollingRun_readOnce_sample :
    Always (pollingStep samplePolling hybridOracles) (ReadOnce hybridOracles 100)
      (.start samplePolling hybridStore blocksWithLog)
      [samplePollingRound blocksWithLog (.ok 100) none,
        samplePollingRound blocksWithLog (.error "timed out") none,
        samplePollingRound blocksWithLog (.ok 102) none] := by
  refine pollingRun_readOnce samplePolling hybridOracles blocksWithLog hybridStore _
    (fun replies member => ?_) fun replies member => ?_
  · simp only [List.mem_cons, List.not_mem_nil, or_false] at member
    rcases member with rfl | rfl | rfl
    · exact samplePollingRound_truthful _ _ _ fun head same => by cases same; decide
    · exact samplePollingRound_truthful _ _ _ fun head same => by cases same
    · exact samplePollingRound_truthful _ _ _ fun head same => by cases same; decide
  · simp only [List.mem_cons, List.not_mem_nil, or_false] at member
    rcases member with rfl | rfl | rfl
    all_goals rfl

/-- The log is read, then block 101 is replaced by an empty one, and read again. -/
def reorgRounds : List PollingReplies :=
  [samplePollingRound blocksWithLog (.ok 101) none,
    samplePollingRound (fun _ => []) (.ok 102) (some (.detected 101 201 100)),
    samplePollingRound (fun _ => []) (.ok 102) none]

theorem pollingRun_readAll_reorg :
    Always (pollingStep samplePolling hybridOracles) (ReadAll hybridOracles 100)
      (.start samplePolling hybridStore blocksWithLog) reorgRounds := by
  have rewound : (runFrom (pollingStep samplePolling hybridOracles)
      (.start samplePolling hybridStore blocksWithLog) (reorgRounds.take 2)).loop.pollFromBlock =
        100 := by decide +kernel
  refine pollingRun_readAll samplePolling hybridOracles blocksWithLog hybridStore reorgRounds
    (fun replies member => ?_) ⟨⟨?_, ?_⟩, ⟨?_, ?_⟩, ⟨?_, ?_⟩, trivial⟩
  · simp only [reorgRounds, List.mem_cons, List.not_mem_nil, or_false] at member
    rcases member with rfl | rfl | rfl
    all_goals exact samplePollingRound_truthful _ _ _ fun head same => by cases same; decide
  · intro event isReorg
    cases isReorg
  · exact fun _ _ _ _ => rfl
  · intro event isReorg
    cases isReorg
    decide +kernel
  · intro block begun upTo after
    exact absurd (after.trans rewound.le) (Nat.not_le.mpr begun)
  · intro event isReorg
    cases isReorg
  · intro block begun upTo after
    exact absurd (upTo.trans rewound.le) (Nat.not_le.mpr begun)

end DexArbitrage
