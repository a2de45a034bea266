/-
This file settles when the WebSocket stream and the loop around it lose a log.

The run below adds to the loop what is needed to say so: the logs of the
canonical chain at each moment, the addresses that every polled snapshot
watched, and the logs of the batches that were processed. A log is lost when
the reconciled block has moved past it although no processed batch held it.

A poll records the logs it drains as seen before it reads the range they
belong to, and moves the reconciled block before the loop has decided to
process the batch. So a log of the range is lost when its key has been recorded
by a round whose batch was not processed, or when the batch of this round is
not accepted. It is also lost when the node leaves it out of the read, or when
the chain puts it below the reconciled block afterwards.
`noLogLost_iff_roundsSafe` shows that there are no other ways.
-/

import DexArbitrage.Lib.Run
import DexArbitrage.Engine.EventLoop

namespace DexArbitrage

structure TrackedLoop where
  loop : EventLoop
  startBlock : Nat
  watched : List Address
  canonical : List RpcLog
  processed : List RpcLog

inductive LoopEvent
  | deliver (log : RpcLog)
  | subscriptionStops
  | chainMoves (canonical : List RpcLog)
  | round (replies : LoopReplies)

def TrackedLoop.start (settings : LoopSettings) (store : GraphStore) : TrackedLoop where
  loop := .start settings store
  startBlock := initialPollFromBlock settings store.load
  watched := watchedAddresses store.load
  canonical := []
  processed := []

section Track

variable (settings : LoopSettings) (oracles : LoopOracles)

def BatchFate.processedLogs : BatchFate → List RpcLog
  | .processed logs => logs
  | .failed | .discarded _ => []

theorem mem_processedLogs_finishRound_iff {loop : EventLoop} {snapshot : GraphSnapshot}
    {logs : List RpcLog} {replies : LoopReplies} {log : RpcLog} :
    log ∈ (finishRound settings oracles loop snapshot logs replies).1.processedLogs ↔
      log ∈ logs ∧ BatchAccepted settings oracles snapshot logs replies := by
  rw [← finishRound_eq_processed_iff settings oracles loop]
  rcases (finishRound_cases settings oracles loop snapshot logs replies).2 with
    processed | discarded
  · rw [processed]
    exact (and_iff_left rfl).symm
  · rw [discarded]
    exact iff_of_false List.not_mem_nil fun both => nomatch both.2

def trackedRound (tracked : TrackedLoop) (replies : LoopReplies) : TrackedLoop :=
  if tracked.loop.running then
    let (fate, loop) := loopRound settings oracles tracked.loop replies
    { tracked with
      loop
      watched := tracked.watched.filter (· ∈ watchedAddresses tracked.loop.store.load)
      processed := tracked.processed ++ fate.processedLogs }
  else
    tracked

def trackedStep (tracked : TrackedLoop) (event : LoopEvent) : TrackedLoop :=
  match event with
  | .deliver log =>
    { tracked with loop := { tracked.loop with stream := tracked.loop.stream.deliver log } }
  | .subscriptionStops =>
    { tracked with loop := { tracked.loop with stream := tracked.loop.stream.subscriptionStopped } }
  | .chainMoves canonical => { tracked with canonical }
  | .round replies => trackedRound settings oracles tracked replies

/-- The log is a canonical, watched one of a block after the first and up to the second. -/
def TrackedLoop.CanonicalIn (tracked : TrackedLoop) (after upTo : Nat) (log : RpcLog) : Prop :=
  log ∈ tracked.canonical ∧
    isWatched tracked.watched (eventTopics oracles.signatureHash) log = true ∧
    ∃ block, log.blockNumber = some block ∧ after < block ∧ block ≤ upTo

/-- Every canonical watched log from the start of the stream up to the reconciled block has been
in a processed batch. The logs up to the start are part of the bootstrap snapshot. -/
def NoLogLost (tracked : TrackedLoop) : Prop :=
  ∀ reconciled, tracked.loop.stream.lastWssReconciledBlock = some reconciled →
    ∀ log, tracked.CanonicalIn oracles tracked.startBlock reconciled log →
      log ∈ tracked.processed

/-! ### When a round loses no log -/

/-- The loop runs and its next poll drains a subscription. -/
def TrackedLoop.Subscribed (tracked : TrackedLoop) : Prop :=
  tracked.loop.running = true ∧ watchedAddresses tracked.loop.store.load ≠ [] ∧
    (tracked.loop.stream.wsStarted = true ∨ settings.wss.wsUrlConfigured = true)

/-- The stream once the poll has made sure that a subscription runs. -/
def TrackedLoop.startedStream (tracked : TrackedLoop) : EventStream :=
  (tracked.loop.stream.startWss settings.wss).2

/-- The logs the next poll will drain and keep. -/
def TrackedLoop.keptLogs (tracked : TrackedLoop) : List RpcLog :=
  EventStream.keptWssLogs tracked.loop.pollFromBlock (watchedAddresses tracked.loop.store.load)
    (eventTopics oracles.signatureHash) ((tracked.startedStream settings).wsRx.getD [])

/-- The last reconciled block, as the next poll will see it. -/
def TrackedLoop.lastReconciled (tracked : TrackedLoop) : Nat :=
  tracked.loop.stream.lastWssReconciledBlock.getD tracked.loop.pollFromBlock

/-- The next poll, when the chain is at the given block, reads a range. -/
def TrackedLoop.ReadsRange (tracked : TrackedLoop) (replies : LoopReplies) (latest : Nat) : Prop :=
  (tracked.startedStream settings).shouldReconcile settings.wss
    (! tracked.loop.stream.wsStarted) tracked.lastReconciled
    (latest - settings.wss.reconcileConfirmationBlocks) replies.poll.dueClock = true

/-- The addresses that every polled snapshot has watched, with that of the next poll. -/
def TrackedLoop.stillWatched (tracked : TrackedLoop) : List Address :=
  tracked.watched.filter (· ∈ watchedAddresses tracked.loop.store.load)

/-- The logs that a range read answered with the given logs makes into a batch: those read whose
keys are not recorded as seen, and the drained ones. -/
def TrackedLoop.mergedLogs (tracked : TrackedLoop) (logs : List RpcLog) : List RpcLog :=
  (filterWatchedLogs logs (watchedAddresses tracked.loop.store.load)
      (eventTopics oracles.signatureHash)).filter (fun log =>
    ! (EventStream.recordedKeys settings.wss oracles.hashLogData (tracked.startedStream settings)
      (tracked.keptLogs settings oracles)).contains (logKey oracles.hashLogData log)) ++
    tracked.keptLogs settings oracles

/-- The log is drained, or read and not recorded as seen, and no other one has its key before. -/
def TrackedLoop.TakesIn (tracked : TrackedLoop) (logs : List RpcLog) (log : RpcLog) : Prop :=
  ∃ before after, tracked.mergedLogs settings oracles logs = before ++ log :: after ∧
    ∀ other ∈ before, logKey oracles.hashLogData other ≠ logKey oracles.hashLogData log

/-- A round that loses no log: when it reads a range, each canonical watched log of the range has
been processed before, or is taken in with a batch that is accepted. -/
def RoundSafe (tracked : TrackedLoop) (replies : LoopReplies) (latest : Nat) : Prop :=
  tracked.ReadsRange settings replies latest →
    ∀ logs, replies.poll.getLogs (tracked.lastReconciled + 1)
      (latest - settings.wss.reconcileConfirmationBlocks) = .ok logs →
    ∀ log, TrackedLoop.CanonicalIn oracles { tracked with watched := tracked.stillWatched }
        (max tracked.startBlock tracked.lastReconciled)
        (latest - settings.wss.reconcileConfirmationBlocks) log →
      log ∈ tracked.processed ∨
        tracked.TakesIn settings oracles logs log ∧
          BatchAccepted settings oracles tracked.loop.store.load
            (dedupLogs oracles.hashLogData (tracked.mergedLogs settings oracles logs)) replies

/-- The condition on a step of the run: a round loses no log, and a change of the chain brings no
log that is still to be processed into the blocks up to the reconciled one. -/
def StepSafe (tracked : TrackedLoop) (event : LoopEvent) : Prop :=
  match event with
  | .deliver _ | .subscriptionStops => True
  | .chainMoves canonical =>
    ∀ reconciled, tracked.loop.stream.lastWssReconciledBlock = some reconciled →
      ∀ log, log ∉ tracked.canonical → TrackedLoop.CanonicalIn oracles { tracked with canonical }
        tracked.startBlock reconciled log → log ∈ tracked.processed
  | .round replies =>
    tracked.Subscribed settings → ∀ latest, replies.poll.blockNumber = .ok latest →
      RoundSafe settings oracles tracked replies latest

/-! ### What a round does to the reconciled block -/

/-- As long as there is no reconciled block, polling has not moved on; and a subscription runs only
where one is configured. -/
structure Anchored (tracked : TrackedLoop) : Prop where
  unreconciled : tracked.loop.stream.lastWssReconciledBlock = none →
    settings.wss.wsUrlConfigured = false ∨ tracked.watched = [] ∨
      tracked.loop.pollFromBlock = tracked.startBlock
  unconfigured : settings.wss.wsUrlConfigured = false → tracked.loop.stream.wsStarted = false

theorem isWatched_mono {fewer addresses : List Address} {topics : List B256} {log : RpcLog}
    (subset : ∀ address ∈ fewer, address ∈ addresses)
    (watched : isWatched fewer topics log = true) : isWatched addresses topics log = true := by
  unfold isWatched at watched ⊢
  rw [Bool.and_eq_true, decide_eq_true_iff] at watched ⊢
  exact ⟨subset _ watched.1, watched.2⟩

/-- What a round does when its poll drains no subscription: the stream stays, and the block to
poll from only moves when there is nothing to reconcile. -/
theorem loopRound_unsubscribed {tracked : TrackedLoop} {replies : LoopReplies}
    (unsubscribed : watchedAddresses tracked.loop.store.load = [] ∨
      tracked.loop.stream.wsStarted = false ∧ settings.wss.wsUrlConfigured = false ∨
      ∃ error, replies.poll.blockNumber = .error error) :
    (loopRound settings oracles tracked.loop replies).2.stream = tracked.loop.stream ∧
      (watchedAddresses tracked.loop.store.load = [] ∨ settings.wss.wsUrlConfigured = false ∨
        (loopRound settings oracles tracked.loop replies).2.pollFromBlock =
          tracked.loop.pollFromBlock) := by
  unfold loopRound EventStream.pollOnce
  simp only
  by_cases empty : watchedAddresses tracked.loop.store.load = []
  · rw [empty]
    exact ⟨(finishRound_cases settings oracles _ _ _ replies).1, Or.inl rfl⟩
  · have nonempty : (watchedAddresses tracked.loop.store.load).isEmpty = false := by
      rw [List.isEmpty_eq_false_iff]
      exact empty
    simp only [nonempty, Bool.false_eq_true, if_false]
    unfold EventStream.pollWssHybrid
    cases block : replies.poll.blockNumber with
    | error error => exact ⟨rfl, Or.inr (Or.inr rfl)⟩
    | ok latest =>
      obtain ⟨stopped, unconfigured⟩ : tracked.loop.stream.wsStarted = false ∧
          settings.wss.wsUrlConfigured = false := by
        rcases unsubscribed with isEmpty | off | ⟨error, failed⟩
        · exact absurd isEmpty empty
        · exact off
        · rw [block] at failed
          cases failed
      have notStarted : tracked.loop.stream.startWss settings.wss =
          (false, tracked.loop.stream) := by
        unfold EventStream.startWss
        simp only [stopped, unconfigured, Bool.false_eq_true, if_false]
      refine ⟨?_, Or.inr (Or.inl unconfigured)⟩
      simp only [notStarted]
      by_cases noBlocks : latest ≤ tracked.loop.pollFromBlock
      · simp only [if_pos noBlocks]
        exact (finishRound_cases settings oracles _ _ _ replies).1
      · simp only [if_neg noBlocks]
        cases EventStream.pollWssReconcileLogs replies.poll (tracked.loop.pollFromBlock + 1) latest
            (watchedAddresses tracked.loop.store.load) (eventTopics oracles.signatureHash) with
        | error error => rfl
        | ok logs => exact (finishRound_cases settings oracles _ _ _ replies).1

/-- Starting the subscription changes neither the reconciled block nor the seen keys. -/
theorem startedStream_same (tracked : TrackedLoop) :
    (tracked.startedStream settings).lastWssReconciledBlock =
        tracked.loop.stream.lastWssReconciledBlock ∧
      (tracked.startedStream settings).recentWssLogs = tracked.loop.stream.recentWssLogs := by
  unfold TrackedLoop.startedStream EventStream.startWss
  split
  · exact ⟨rfl, rfl⟩
  · split <;> exact ⟨rfl, rfl⟩

/-- The poll of a round drains the subscription, which runs already or starts now. -/
theorem pollOnce_subscribed {tracked : TrackedLoop} {replies : LoopReplies} {latest : Nat}
    (subscribed : tracked.Subscribed settings)
    (block : replies.poll.blockNumber = .ok latest) :
    tracked.loop.stream.pollOnce settings.wss oracles.hashLogData oracles.signatureHash replies.poll
        tracked.loop.store.load tracked.loop.pollFromBlock =
      (tracked.startedStream settings).pollSubscription settings.wss oracles.hashLogData
        replies.poll latest tracked.loop.pollFromBlock (! tracked.loop.stream.wsStarted)
        (watchedAddresses tracked.loop.store.load) (eventTopics oracles.signatureHash) := by
  obtain ⟨_, nonempty, startable⟩ := subscribed
  have notEmpty : (watchedAddresses tracked.loop.store.load).isEmpty = false := by
    rw [List.isEmpty_eq_false_iff]
    exact nonempty
  have started : tracked.loop.stream.startWss settings.wss =
      (true, tracked.startedStream settings) := by
    unfold TrackedLoop.startedStream EventStream.startWss
    by_cases running : tracked.loop.stream.wsStarted = true
    · rw [if_pos running]
    · rw [if_neg running, if_pos (startable.resolve_left running)]
  unfold EventStream.pollOnce EventStream.pollWssHybrid
  simp only [notEmpty, Bool.false_eq_true, if_false, block, started]

/-- What a round does when its poll drains a subscription: the reconciled block is the last one, or
the end of the range that is read, and then the batch consists of what is taken in. -/
theorem loopRound_subscribed {tracked : TrackedLoop} {replies : LoopReplies} {latest : Nat}
    (subscribed : tracked.Subscribed settings)
    (block : replies.poll.blockNumber = .ok latest) :
    let round := loopRound settings oracles tracked.loop replies
    round.2.stream.wsStarted = (tracked.startedStream settings).wsStarted ∧
      (round.2.stream.lastWssReconciledBlock = some tracked.lastReconciled ∧
          (tracked.ReadsRange settings replies latest → ∀ logs,
            replies.poll.getLogs (tracked.lastReconciled + 1)
              (latest - settings.wss.reconcileConfirmationBlocks) ≠ .ok logs) ∨
        tracked.ReadsRange settings replies latest ∧
          ∃ logs, replies.poll.getLogs (tracked.lastReconciled + 1)
              (latest - settings.wss.reconcileConfirmationBlocks) = .ok logs ∧
            round.2.stream.lastWssReconciledBlock =
              some (latest - settings.wss.reconcileConfirmationBlocks) ∧
            ∀ log, log ∈ round.1.processedLogs ↔ tracked.TakesIn settings oracles logs log ∧
              BatchAccepted settings oracles tracked.loop.store.load
                (dedupLogs oracles.hashLogData (tracked.mergedLogs settings oracles logs))
                replies) := by
  have last : tracked.lastReconciled =
      (tracked.startedStream settings).lastWssReconciledBlock.getD tracked.loop.pollFromBlock := by
    rw [(startedStream_same settings tracked).1]
    rfl
  cases polled : (tracked.startedStream settings).pollSubscription settings.wss
      oracles.hashLogData replies.poll latest tracked.loop.pollFromBlock
      (! tracked.loop.stream.wsStarted) (watchedAddresses tracked.loop.store.load)
      (eventTopics oracles.signatureHash) with
  | mk result after =>
    have whole := (pollOnce_subscribed settings oracles subscribed block).trans polled
    obtain ⟨wsStarted, outcome⟩ := EventStream.pollSubscription_cases settings.wss
      oracles.hashLogData polled (rfl : tracked.keptLogs settings oracles = _) last rfl
    intro round
    have roundEq : round = loopRound settings oracles tracked.loop replies := rfl
    unfold loopRound at roundEq
    simp only [whole] at roundEq
    have stream : round.2.stream = after := by
      rw [roundEq]
      cases result with
      | error error => rfl
      | ok batch => exact (finishRound_cases settings oracles _ _ _ replies).1
    refine ⟨stream ▸ wsStarted, ?_⟩
    rcases outcome with ⟨cursor, unread⟩ | ⟨due, logs, reply, ok, cursor⟩
    · exact Or.inl ⟨stream ▸ cursor, unread⟩
    · refine Or.inr ⟨due, logs, reply, stream ▸ cursor, fun log => ?_⟩
      rw [ok] at roundEq
      rw [roundEq, mem_processedLogs_finishRound_iff, dedupLogs, mem_dedupBy_iff]
      exact and_congr_left' (and_iff_right List.not_mem_nil)

variable {settings oracles}

/-! ### One step -/

theorem trackedRound_running {tracked : TrackedLoop} {replies : LoopReplies}
    (running : tracked.loop.running = true) :
    trackedRound settings oracles tracked replies =
      { tracked with
        loop := (loopRound settings oracles tracked.loop replies).2
        watched := tracked.stillWatched
        processed := tracked.processed ++
          (loopRound settings oracles tracked.loop replies).1.processedLogs } := by
  unfold trackedRound
  rw [if_pos running]
  rfl

/-- A loop that has stopped runs no rounds. -/
theorem trackedStep_stopped {tracked : TrackedLoop} {replies : LoopReplies}
    (stopped : ¬ tracked.loop.running = true) :
    trackedStep settings oracles tracked (.round replies) = tracked :=
  if_neg stopped

theorem mem_watched_of_stillWatched {tracked : TrackedLoop} :
    ∀ address ∈ tracked.stillWatched, address ∈ tracked.watched :=
  fun _ member => List.mem_of_mem_filter member

/-- Dropping addresses and processing more logs loses no log. -/
theorem noLogLost_mono {tracked after : TrackedLoop} (noLogLost : NoLogLost oracles tracked)
    (reconciled : after.loop.stream.lastWssReconciledBlock =
      tracked.loop.stream.lastWssReconciledBlock)
    (startBlock : after.startBlock = tracked.startBlock)
    (canonical : after.canonical = tracked.canonical)
    (watched : ∀ address ∈ after.watched, address ∈ tracked.watched)
    (processed : ∀ log ∈ tracked.processed, log ∈ after.processed) :
    NoLogLost oracles after := by
  rintro block found log ⟨member, isWatchedLog, inBlocks⟩
  refine processed log (noLogLost block (reconciled ▸ found) log ⟨canonical ▸ member, ?_, ?_⟩)
  · exact isWatched_mono watched isWatchedLog
  · exact startBlock ▸ inBlocks

/-- The logs up to the last reconciled block have been processed. -/
theorem processed_of_lastReconciled {tracked : TrackedLoop} (anchored : Anchored settings tracked)
    (noLogLost : NoLogLost oracles tracked) (subscribed : tracked.Subscribed settings)
    {log : RpcLog}
    (inBlocks : tracked.CanonicalIn oracles tracked.startBlock tracked.lastReconciled log) :
    log ∈ tracked.processed := by
  cases cursor : tracked.loop.stream.lastWssReconciledBlock with
  | some reconciled =>
    have last : tracked.lastReconciled = reconciled := by
      rw [TrackedLoop.lastReconciled, cursor]
      rfl
    exact noLogLost reconciled cursor log (last ▸ inBlocks)
  | none =>
    have last : tracked.lastReconciled = tracked.loop.pollFromBlock := by
      rw [TrackedLoop.lastReconciled, cursor]
      rfl
    obtain ⟨_, watched, block, _, after, upTo⟩ := inBlocks
    rcases anchored.unreconciled cursor with unconfigured | nothing | atStart
    · rcases subscribed.2.2 with started | configured
      · rw [anchored.unconfigured unconfigured] at started
        cases started
      · rw [unconfigured] at configured
        cases configured
    · rw [nothing] at watched
      cases watched
    · rw [last, atStart] at upTo
      exact absurd after (Nat.not_lt.mpr upTo)

/-- A round that polls no subscription leaves the loop anchored and loses no log. -/
theorem trackedRound_unsubscribed {tracked : TrackedLoop} {replies : LoopReplies}
    (running : tracked.loop.running = true)
    (unsubscribed : watchedAddresses tracked.loop.store.load = [] ∨
      tracked.loop.stream.wsStarted = false ∧ settings.wss.wsUrlConfigured = false ∨
      ∃ error, replies.poll.blockNumber = .error error) :
    (Anchored settings tracked →
        Anchored settings (trackedRound settings oracles tracked replies)) ∧
      (NoLogLost oracles tracked →
        NoLogLost oracles (trackedRound settings oracles tracked replies)) := by
  obtain ⟨stream, polls⟩ := loopRound_unsubscribed settings oracles unsubscribed
  rw [trackedRound_running running]
  refine ⟨fun anchored => ⟨fun unreconciled => ?_, fun unconfigured => ?_⟩, fun noLogLost => ?_⟩
  · rw [stream] at unreconciled
    rcases polls with noAddress | unconfigured | kept
    · right
      left
      unfold TrackedLoop.stillWatched
      rw [noAddress]
      exact List.filter_eq_nil_iff.mpr fun address _ => by simp
    · exact Or.inl unconfigured
    · rcases anchored.unreconciled unreconciled with off | nothing | atStart
      · exact Or.inl off
      · right
        left
        unfold TrackedLoop.stillWatched
        rw [nothing]
        rfl
      · exact Or.inr (Or.inr (kept.trans atStart))
  · rw [stream]
    exact anchored.unconfigured unconfigured
  · refine noLogLost_mono noLogLost ?_ rfl rfl mem_watched_of_stillWatched ?_
    · rw [stream]
    · exact fun log member => List.mem_append_left _ member

/-- After a round that polls a subscription there is a reconciled block. -/
theorem anchored_subscribed {tracked : TrackedLoop} {replies : LoopReplies} {latest : Nat}
    (anchored : Anchored settings tracked) (subscribed : tracked.Subscribed settings)
    (block : replies.poll.blockNumber = .ok latest) :
    Anchored settings (trackedRound settings oracles tracked replies) := by
  obtain ⟨_, outcome⟩ := loopRound_subscribed settings oracles subscribed block
  rw [trackedRound_running subscribed.1]
  refine ⟨fun unreconciled => ?_, fun unconfigured => ?_⟩
  · rcases outcome with ⟨last, _⟩ | ⟨_, _, _, last, _⟩ <;>
      exact absurd (last.symm.trans unreconciled) (by simp)
  · rcases subscribed.2.2 with wasStarted | configured
    · rw [anchored.unconfigured unconfigured] at wasStarted
      cases wasStarted
    · rw [unconfigured] at configured
      cases configured

/-- A round that polls a subscription loses no log exactly when it is safe. -/
theorem noLogLost_subscribed_iff {tracked : TrackedLoop} {replies : LoopReplies} {latest : Nat}
    (anchored : Anchored settings tracked) (noLogLost : NoLogLost oracles tracked)
    (subscribed : tracked.Subscribed settings) (block : replies.poll.blockNumber = .ok latest) :
    NoLogLost oracles (trackedRound settings oracles tracked replies) ↔
      RoundSafe settings oracles tracked replies latest := by
  have below : ∀ log, TrackedLoop.CanonicalIn oracles
      { tracked with watched := tracked.stillWatched } tracked.startBlock tracked.lastReconciled
        log → log ∈ tracked.processed := by
    rintro log ⟨canonical, watched, inBlocks⟩
    exact processed_of_lastReconciled anchored noLogLost subscribed
      ⟨canonical, isWatched_mono mem_watched_of_stillWatched watched, inBlocks⟩
  obtain ⟨_, outcome⟩ := loopRound_subscribed settings oracles subscribed block
  rw [trackedRound_running subscribed.1]
  rcases outcome with ⟨cursor, unread⟩ | ⟨due, logs, reply, cursor, processed⟩
  · refine iff_of_true ?_ fun due logs reply => absurd reply (unread due logs)
    intro reconciled found log inBlocks
    rw [cursor] at found
    injection found with same
    subst same
    exact List.mem_append_left _ (below log inBlocks)
  · constructor
    · rintro none _ others answer log ⟨canonical, watched, number, numbered, after, upTo⟩
      rw [reply] at answer
      injection answer with same
      subst same
      have inBatch := none _ cursor log ⟨canonical, watched, number, numbered,
        lt_of_le_of_lt (Nat.le_max_left _ _) after, upTo⟩
      exact (List.mem_append.mp inBatch).imp_right (processed log).mp
    · rintro safe reconciled found log ⟨canonical, watched, number, numbered, after, upTo⟩
      rw [cursor] at found
      injection found with same
      subst same
      apply List.mem_append.mpr
      rcases Nat.lt_or_ge tracked.lastReconciled number with inRange | within
      · exact (safe due logs reply log ⟨canonical, watched, number, numbered,
          Nat.max_lt.mpr ⟨after, inRange⟩, upTo⟩).imp_right (processed log).mpr
      · exact Or.inl (below log ⟨canonical, watched, number, numbered, after, within⟩)

/-- A round polls no subscription, or it does and the node tells it the block. -/
theorem subscribed_cases {tracked : TrackedLoop} (replies : LoopReplies)
    (running : tracked.loop.running = true) :
    (watchedAddresses tracked.loop.store.load = [] ∨
        tracked.loop.stream.wsStarted = false ∧ settings.wss.wsUrlConfigured = false ∨
        ∃ error, replies.poll.blockNumber = .error error) ∨
      tracked.Subscribed settings ∧ ∃ latest, replies.poll.blockNumber = .ok latest := by
  by_cases noAddress : watchedAddresses tracked.loop.store.load = []
  · exact Or.inl (Or.inl noAddress)
  · cases block : replies.poll.blockNumber with
    | error error => exact Or.inl (Or.inr (Or.inr ⟨error, rfl⟩))
    | ok latest =>
      by_cases startable : tracked.loop.stream.wsStarted = true ∨
          settings.wss.wsUrlConfigured = true
      · exact Or.inr ⟨⟨running, noAddress, startable⟩, latest, rfl⟩
      · rw [not_or, Bool.not_eq_true, Bool.not_eq_true] at startable
        exact Or.inl (Or.inr (Or.inl startable))

theorem anchored_step {tracked : TrackedLoop} (event : LoopEvent)
    (anchored : Anchored settings tracked) :
    Anchored settings (trackedStep settings oracles tracked event) := by
  cases event with
  | deliver log => exact ⟨anchored.unreconciled, anchored.unconfigured⟩
  | subscriptionStops => exact ⟨anchored.unreconciled, fun _ => rfl⟩
  | chainMoves canonical => exact ⟨anchored.unreconciled, anchored.unconfigured⟩
  | round replies =>
    by_cases running : tracked.loop.running = true
    · rcases subscribed_cases replies running with unsubscribed | ⟨subscribed, latest, block⟩
      · exact (trackedRound_unsubscribed running unsubscribed).1 anchored
      · exact anchored_subscribed anchored subscribed block
    · rw [trackedStep_stopped running]
      exact anchored

/-- A step loses no log exactly when it meets the condition. -/
theorem noLogLost_step_iff {tracked : TrackedLoop} (event : LoopEvent)
    (anchored : Anchored settings tracked) (noLogLost : NoLogLost oracles tracked) :
    NoLogLost oracles (trackedStep settings oracles tracked event) ↔
      StepSafe settings oracles tracked event := by
  cases event with
  | deliver log => exact iff_of_true noLogLost trivial
  | subscriptionStops => exact iff_of_true noLogLost trivial
  | chainMoves canonical =>
    refine forall₂_congr fun reconciled found => forall_congr' fun log => ?_
    refine ⟨fun kept _ => kept, fun kept inBlocks => ?_⟩
    by_cases known : log ∈ tracked.canonical
    · exact noLogLost reconciled found log ⟨known, inBlocks.2⟩
    · exact kept known inBlocks
  | round replies =>
    by_cases running : tracked.loop.running = true
    · rcases subscribed_cases replies running with unsubscribed | ⟨subscribed, latest, block⟩
      · refine iff_of_true ((trackedRound_unsubscribed running unsubscribed).2 noLogLost) ?_
        rintro ⟨_, nonempty, startable⟩ latest block
        rcases unsubscribed with empty | ⟨stopped, unconfigured⟩ | ⟨error, failed⟩
        · exact absurd empty nonempty
        · rcases startable with started | configured
          · rw [stopped] at started
            cases started
          · rw [unconfigured] at configured
            cases configured
        · rw [failed] at block
          cases block
      · refine (noLogLost_subscribed_iff anchored noLogLost subscribed block).trans
          ⟨fun safe _ other answer => ?_, fun safe => safe subscribed latest block⟩
        rw [block] at answer
        injection answer with same
        exact same ▸ safe
    · refine iff_of_true ?_ fun subscribed => absurd subscribed.1 running
      rw [trackedStep_stopped running]
      exact noLogLost

/-! ### Runs -/

theorem anchored_start (store : GraphStore) : Anchored settings (.start settings store) where
  unreconciled := fun _ => Or.inr (Or.inr rfl)
  unconfigured := fun _ => rfl

/-- No log is lost throughout a run, whatever the order of deliveries, losses, failures and reorgs,
exactly when all its steps are safe. -/
theorem noLogLost_iff_roundsSafe (store : GraphStore) (events : List LoopEvent) :
    Always (trackedStep settings oracles) (NoLogLost oracles) (.start settings store) events ↔
      StepsMeet (trackedStep settings oracles) (StepSafe settings oracles)
        (.start settings store) events := by
  have start : NoLogLost oracles (.start settings store) :=
    fun _ reconciled => by cases reconciled
  have agree : ∀ tracked event, Anchored settings tracked ∧ NoLogLost oracles tracked →
      (NoLogLost oracles (trackedStep settings oracles tracked event) ↔
        StepSafe settings oracles tracked event) :=
    fun _ event holds => noLogLost_step_iff event holds.1 holds.2
  rw [always_iff_stepsMeet, and_iff_right start]
  exact stepsMeet_iff_of_invariant agree
    (fun _ event holds safe => ⟨anchored_step event holds.1, (agree _ event holds).mpr safe⟩)
    ⟨anchored_start store, start⟩

end Track

/-! ### A drained log whose range read fails once -/

def hybridOracles : LoopOracles where
  rates :=
    { spot := fun _ _ _ => (0, 0), priceLimitCapacityIn := fun _ _ => none }
  signatureHash := fun signature =>
    if signature = "Sync(uint112,uint112)" then
      0x1c411e9a96e071241c2f21f7726b17ae89e3cab4c78be50e062b03a9fffbbad1
    else
      0
  hashLogData := fun data => fromBigEndian data % 2 ^ 64
  order := id

def hybridPair : PoolState where
  poolId := 10
  dexName := "uniswap_v2"
  kind := .uniswapV2Like
  tokenAddresses := [1, 2]
  factory := none
  registry := none
  vault := none
  quoter := none
  admissionStatus := .allowed
  health :=
    { stale := false, paused := false, quarantined := false, confidenceBps := 10000
      lastSuccessfulRefreshBlock := 100, lastRefreshAt := 0, recentRevertCount := 0 }
  state := .uniswapV2Like { reserve0 := 1000, reserve1 := 1000, feePpm := 3000 }
  lastUpdatedBlock := 100

/-- A store with the snapshot of block 100. -/
def hybridStore : GraphStore :=
  .new (GraphSnapshot.build hybridOracles.rates 0
    (some { number := 100, hash := 100, parentHash := 99, finality := .sealed }) []
    (HashMap.ofList [(hybridPair.poolId, hybridPair)])) 8

/-- A sync of the pair in block 101. -/
def hybridLog : RpcLog where
  address := 10
  topics := [hybridOracles.signatureHash "Sync(uint112,uint112)"]
  data := toBigEndian 32 1100 ++ toBigEndian 32 910
  blockNumber := some 101
  blockHash := some 101
  txHash := some 7

/-- A round at the given block whose range read, if it has one, is answered as given. -/
def hybridRound (latest : Nat) (logs : Except RpcError (List RpcLog)) : LoopEvent :=
  .round
    { poll :=
        { blockNumber := .ok latest
          getLogs := fun _ _ => logs
          dueClock := 0
          reconcileClock := 0
          burstClock := 0 }
      reorg := .ok none
      blockRef := none
      refresh :=
        { patchClock := fun _ => 0
          admitClock := 0
          fetchPool := fun _ => .ok none
          extendTokens := fun tokens _ => .ok tokens } }

/-- The first round reads the range and processes the log it finds there. -/
theorem noLogLost_completeRead :
    Always (trackedStep hybridSettings hybridOracles) (NoLogLost hybridOracles)
      (.start hybridSettings hybridStore)
      [.chainMoves [hybridLog], hybridRound 102 (.ok [hybridLog])] := by
  refine (noLogLost_iff_roundsSafe hybridStore _).mpr
    ⟨fun _ found => (by cases found), fun _ latest block => ?_, trivial⟩
  injection block with same
  subst same
  intro _ logs reply log inRange
  injection reply with same
  subst same
  have single : log = hybridLog := List.mem_singleton.mp inRange.1
  subst single
  refine Or.inr ⟨⟨[], [], by decide +kernel, fun other found => by cases found⟩, rfl,
    fun _ => ⟨fun _ _ => ⟨none, rfl⟩, fun _ _ => ⟨_, rfl⟩⟩⟩

/-- The round that drains the log fails to read the range, the next round reads it and drops the
log as seen. -/
theorem not_noLogLost_failedRead :
    ¬ Always (trackedStep hybridSettings hybridOracles) (NoLogLost hybridOracles)
      (.start hybridSettings hybridStore)
      [.chainMoves [hybridLog], hybridRound 100 (.ok []), .deliver hybridLog,
        hybridRound 102 (.error "timed out"), hybridRound 102 (.ok [hybridLog])] := by
  intro always
  have last := always.last 101 (by decide +kernel) hybridLog
    ⟨by decide +kernel, by decide +kernel, 101, rfl, by decide +kernel, by decide⟩
  have none : (runFrom (trackedStep hybridSettings hybridOracles)
      (.start hybridSettings hybridStore)
      [.chainMoves [hybridLog], hybridRound 100 (.ok []), .deliver hybridLog,
        hybridRound 102 (.error "timed out"), hybridRound 102 (.ok [hybridLog])]).processed =
        [] := by
    decide +kernel
  rw [none] at last
  cases last

end DexArbitrage
