/-
This file models how the event stream polls when it does not subscribe: the three
modes that read a range of blocks over RPC, by the receipts of every block, by
topic, or by address. It proves what a poll that succeeds has read: every log of
the range that is of a watched address and topic, each as often as the chain has
it, whatever the chunk sizes, the retries and the finishing orders were.

The provider is a parameter. That it answers a range with the logs of the range
that match the filter, when it answers at all, is what the interface promises.
-/

import DexArbitrage.Discovery.ChunkedLogs
import DexArbitrage.Discovery.EventStream
import DexArbitrage.Lib.Chunks
import DexArbitrage.Lib.StableSort

namespace DexArbitrage

/-- The modes of `EVENT_INGEST_MODE` that read ranges; the others subscribe, or read the logs of the
pending block. -/
inductive RangeMode
  | blockReceipts
  | topicLogs
  | addressLogs
  deriving DecidableEq, Repr

structure PollEnv where
  scan : LogScanEnv
  eventReceiptMaxBlocks : Option Nat
  receiptsTopicFallback : Bool
  deriving DecidableEq, Repr

/-- The receipts of each block, and the order in which the requests of a chunk finish. -/
structure ReceiptReplies where
  getBlockReceiptsLogs : Nat → Except RpcError (List RpcLog)
  finishOrder : Nat → Nat → List Nat
  finishOrder_perm : ∀ attempt count, (finishOrder attempt count).Perm (List.range count)

/-- Requests may finish in the order they were sent. -/
theorem perm_range_self (count : Nat) : (List.range count).Perm (List.range count) :=
  List.Perm.refl _

/-- A failed chunk ends the scan. -/
def receiptPolicy : RetryPolicy RpcError where
  accepted chunk := chunk
  rejected err _ := .error err
  patience _ := 0
  patience_lt := fun _ _ _ retried => nomatch retried

section Poll

variable (env : PollEnv) (chain : Chain) (logs : LogReplies) (receipts : ReceiptReplies)
variable (addresses : List Address) (topics : List B256)

/-- The receipts of the blocks of one chunk, taken as they come and sorted by block. -/
def receiptsOfChunk (attempt first last : Nat) : Except RpcError (List RpcLog) := do
  let byBlock ← (receipts.finishOrder attempt (last + 1 - first)).mapM fun position =>
    (receipts.getBlockReceiptsLogs (first + position)).map fun logs => (first + position, logs)
  return filterWatchedLogs ((sortBy (compareOn Prod.fst) byBlock).flatMap Prod.snd) addresses topics

def getBlockReceiptsRange (fromBlock toBlock : Nat) (rounds : Nat) :
    Option (Except RpcError (List RpcLog)) :=
  scanFrom u64Max toBlock receiptPolicy (receiptsOfChunk receipts addresses topics) fromBlock
    { blocks := envUsize env.eventReceiptMaxBlocks 64
      positive := envUsize_pos (by decide) _
      retryCount := 0 }
    rounds

/-- The topic scan, of which only watched logs are kept. -/
def watchedTopicLogs (fromBlock toBlock : Nat) (rounds : Nat) :
    Option (Except RpcError (List RpcLog)) :=
  (getTopicLogsChunked env.scan logs topics fromBlock toBlock rounds).map fun result =>
    result.map fun logs => filterWatchedLogs logs addresses topics

/-- The arms of `poll_logs` that read a range. -/
def pollLogs (mode : RangeMode) (fromBlock toBlock : Nat) (rounds : Nat) :
    Option (Except RpcError (List RpcLog)) :=
  match mode with
  | .blockReceipts =>
    (getBlockReceiptsRange env receipts addresses topics fromBlock toBlock rounds).bind
      fun result =>
        match result with
        | .ok logs => some (.ok logs)
        | .error _ =>
          if env.receiptsTopicFallback then
            watchedTopicLogs env logs addresses topics fromBlock toBlock rounds
          else
            some (.error "eth_getBlockReceipts failed and topic fallback is disabled")
  | .topicLogs => watchedTopicLogs env logs addresses topics fromBlock toBlock rounds
  | .addressLogs =>
    getAddressLogsChunked env.scan chain logs addresses topics fromBlock toBlock rounds

/-! ### The chain and its provider -/

/-- The logs of a range of blocks, in order. -/
def rangeLogs (blocks : Nat → List RpcLog) (first last : Nat) : List RpcLog :=
  (blockRange first last).flatMap blocks

/-- A log that a filter asks for. Without addresses, or without topics, it asks for all. -/
def LogRequest.matches_ (request : LogRequest) (log : RpcLog) : Bool :=
  (request.addresses.isEmpty || decide (log.address ∈ request.addresses)) &&
    (request.topics.isEmpty || log.topics.head?.any fun topic => topic ∈ request.topics)

/-- The provider answers with what the chain has. -/
structure Truthful (blocks : Nat → List RpcLog) : Prop where
  getLogs : ∀ attempt position request answer,
    logs.getLogs attempt position request = .ok answer →
      answer = (rangeLogs blocks request.fromBlock request.toBlock).filter request.matches_
  receipts : ∀ block answer, receipts.getBlockReceiptsLogs block = .ok answer →
    answer = blocks block

end Poll

theorem isWatched_eq (addresses : List Address) (topics : List B256) (log : RpcLog) :
    isWatched addresses topics log =
      (decide (log.address ∈ addresses) && log.topics.head?.any fun topic => topic ∈ topics) := by
  unfold isWatched
  cases log.topics.head? with
  | none => rfl
  | some topic => rfl

theorem Tiles.flatMap_rangeLogs {blocks : Nat → List RpcLog} {first last : Nat}
    {pieces : List (Piece RpcLog)} (tiles : Tiles first last pieces) :
    (pieces.flatMap fun piece => rangeLogs blocks piece.first piece.last) =
      rangeLogs blocks first last := by
  unfold rangeLogs
  rw [← tiles.flatMap_blockRange, List.flatMap_assoc]

/-- Pieces with the selected logs of their ranges have the selected logs of the whole range. -/
theorem Tiles.perm_flatMap_filter {blocks : Nat → List RpcLog} {first last : Nat}
    {pieces : List (Piece RpcLog)} (tiles : Tiles first last pieces) (test : RpcLog → Bool)
    (selected : ∀ piece ∈ pieces,
      piece.logs.Perm ((rangeLogs blocks piece.first piece.last).filter test)) :
    (pieces.flatMap Piece.logs).Perm ((rangeLogs blocks first last).filter test) := by
  rw [← tiles.flatMap_rangeLogs, List.filter_flatMap]
  exact List.Perm.flatMap_left _ selected

section Complete

variable {env : PollEnv} {chain : Chain} {logs : LogReplies} {receipts : ReceiptReplies}
variable {addresses : List Address} {topics : List B256} {blocks : Nat → List RpcLog}

theorem Truthful.topic_piece (truthful : Truthful logs receipts blocks)
    (asked : topics ≠ []) {attempt : Nat} {piece : Piece RpcLog}
    (answered : getLogsOnce logs [] topics attempt piece.first piece.last = .ok piece.logs) :
    filterWatchedLogs piece.logs addresses topics =
      (rangeLogs blocks piece.first piece.last).filter (isWatched addresses topics) := by
  have answer := truthful.getLogs _ _ _ _ answered
  unfold filterWatchedLogs
  rw [answer, List.filter_filter]
  refine List.filter_congr fun log _ => ?_
  rw [isWatched_eq]
  unfold LogRequest.matches_
  rw [List.isEmpty_eq_false_iff.mpr asked, List.isEmpty_nil, Bool.false_or, Bool.true_or,
    Bool.true_and, Bool.and_assoc, Bool.and_self]

theorem Truthful.topic_complete (truthful : Truthful logs receipts blocks) (asked : topics ≠ [])
    {fromBlock toBlock rounds : Nat} {found : List RpcLog} (ordered : fromBlock ≤ toBlock)
    (fits : toBlock ≤ u64Max)
    (ends : watchedTopicLogs env logs addresses topics fromBlock toBlock rounds =
      some (.ok found)) :
    found.Perm ((rangeLogs blocks fromBlock toBlock).filter (isWatched addresses topics)) := by
  obtain ⟨result, scanned, kept⟩ := Option.map_eq_some_iff.mp ends
  cases result with
  | error err => cases kept
  | ok raw =>
    injection kept with kept
    obtain ⟨pieces, tiles, same, answered⟩ := tiles_of_scanFrom fits ordered scanned
    have whole : found = pieces.flatMap fun piece =>
        (rangeLogs blocks piece.first piece.last).filter (isWatched addresses topics) := by
      rw [← kept, same]
      show (pieces.flatMap Piece.logs).filter (isWatched addresses topics) = _
      rw [List.filter_flatMap]
      refine List.flatMap_congr fun piece member => ?_
      obtain ⟨attempt, answer⟩ := answered piece member
      exact truthful.topic_piece asked answer
    rw [whole, ← List.filter_flatMap, tiles.flatMap_rangeLogs]

/-- One attempt of the address scan has read what the chain has for all the addresses. -/
theorem Truthful.address_piece (truthful : Truthful logs receipts blocks) (asked : topics ≠ [])
    (nodup : addresses.Nodup) {piece : Piece RpcLog}
    (answered : FromReplyToEachChunk env.scan logs addresses topics piece) :
    piece.logs.Perm
      ((rangeLogs blocks piece.first piece.last).filter (isWatched addresses topics)) := by
  obtain ⟨attempt, answer, order, each, perm, same⟩ := answered
  have whole : (addressChunks env.scan addresses).flatten = addresses := flatten_toChunks _ _
  have byChunk : ∀ position chunk, (addressChunks env.scan addresses)[position]? = some chunk →
      answer position =
        (rangeLogs blocks piece.first piece.last).filter (isWatched chunk topics) := by
    intro position chunk isChunk
    have nonempty : chunk ≠ [] := ne_nil_of_mem_toChunks (List.mem_of_getElem? isChunk)
    rw [truthful.getLogs _ _ _ _ (each position chunk isChunk)]
    refine List.filter_congr fun log _ => ?_
    rw [isWatched_eq]
    unfold LogRequest.matches_
    rw [List.isEmpty_eq_false_iff.mpr nonempty, List.isEmpty_eq_false_iff.mpr asked,
      Bool.false_or, Bool.false_or]
  have selected := perm_flatMap_filter (rangeLogs blocks piece.first piece.last) RpcLog.address
    (fun log => log.topics.head?.any fun topic => topic ∈ topics) (whole.symm ▸ nodup)
  rw [whole] at selected
  rw [same]
  refine (perm.flatMap_right answer).trans ?_
  rw [flatMap_range_length byChunk]
  have test : (fun chunk log => isWatched chunk topics log) = fun chunk log =>
      decide (log.address ∈ chunk) && log.topics.head?.any fun topic => topic ∈ topics :=
    funext fun chunk => funext fun log => isWatched_eq chunk topics log
  show ((addressChunks env.scan addresses).flatMap fun chunk => List.filter
    ((fun chunk log => isWatched chunk topics log) chunk) _).Perm (List.filter
    ((fun chunk log => isWatched chunk topics log) addresses) _)
  rw [test]
  exact selected

theorem Truthful.address_complete (truthful : Truthful logs receipts blocks) (asked : topics ≠ [])
    (nodup : addresses.Nodup) {fromBlock toBlock rounds : Nat} {found : List RpcLog}
    (ordered : fromBlock ≤ toBlock) (fits : toBlock ≤ u64Max)
    (ends : getAddressLogsChunked env.scan chain logs addresses topics fromBlock toBlock rounds =
      some (.ok found)) :
    found.Perm ((rangeLogs blocks fromBlock toBlock).filter (isWatched addresses topics)) := by
  obtain ⟨pieces, tiles, same, answered⟩ := tiles_of_scanFrom fits ordered ends
  rw [same]
  refine tiles.perm_flatMap_filter _ fun piece member => ?_
  obtain ⟨attempt, answer⟩ := answered piece member
  exact truthful.address_piece asked nodup
    (fromReplyToEachChunk_of_getLogsOfChunks env.scan logs addresses topics answer)

/-- Sorted by block, the receipts of a chunk are in the order of the chain. -/
theorem sortBy_block_eq {order : List Nat} {count first : Nat}
    (perm : order.Perm (List.range count)) (answer : Nat → List RpcLog) :
    sortBy (compareOn Prod.fst) (order.map fun position => (first + position, answer position)) =
      (List.range count).map fun position => (first + position, answer position) := by
  have sorted : ((List.range count).map fun position =>
      (first + position, answer position)).Pairwise
        fun left right => (compareOn Prod.fst left right).isLE := by
    rw [List.pairwise_map]
    refine List.pairwise_lt_range.imp fun {left right} below => ?_
    show (compare (first + left) (first + right)).isLE = true
    rw [Nat.isLE_compare]
    omega
  refine List.Perm.eq_of_pairwise ?_ (pairwise_sortBy _) sorted
    ((perm_sortBy _ _).trans (perm.map _))
  rintro ⟨leftBlock, leftLogs⟩ ⟨rightBlock, rightLogs⟩ inLeft inRight below above
  obtain ⟨left, _, leftSame⟩ := List.mem_map.mp ((mem_sortBy _ _ _).mp inLeft)
  obtain ⟨right, _, rightSame⟩ := List.mem_map.mp inRight
  have atMost : leftBlock ≤ rightBlock := Nat.isLE_compare.mp below
  have atLeast : rightBlock ≤ leftBlock := Nat.isLE_compare.mp above
  cases leftSame
  cases rightSame
  obtain rfl : left = right := by omega
  rfl

/-- A chunk of receipts that succeeds has read every block of the chunk, in order. -/
theorem Truthful.receipts_piece (truthful : Truthful logs receipts blocks) {attempt : Nat}
    {piece : Piece RpcLog}
    (answered : receiptsOfChunk receipts addresses topics attempt piece.first piece.last =
      .ok piece.logs) :
    piece.logs =
      (rangeLogs blocks piece.first piece.last).filter (isWatched addresses topics) := by
  obtain ⟨byBlock, replied, kept⟩ := bind_eq_ok_iff.mp answered
  injection kept with kept
  have order := receipts.finishOrder_perm attempt (piece.last + 1 - piece.first)
  have read : byBlock = (receipts.finishOrder attempt (piece.last + 1 - piece.first)).map
      fun position => (piece.first + position, blocks (piece.first + position)) := by
    have agree : ∀ position entry,
        (receipts.getBlockReceiptsLogs (piece.first + position)).map
          (fun logs => (piece.first + position, logs)) = .ok entry →
        (piece.first + position, blocks (piece.first + position)) = id entry := by
      intro position entry replies
      cases own : receipts.getBlockReceiptsLogs (piece.first + position) with
      | error err =>
        rw [own] at replies
        cases replies
      | ok answer =>
        rw [own] at replies
        injection replies with same
        rw [← same, truthful.receipts _ _ own]
        rfl
    rw [map_eq_map_of_related agree (forall₂_of_mapM_ok replied), List.map_id]
  rw [← kept, read, sortBy_block_eq order fun position => blocks (piece.first + position)]
  unfold filterWatchedLogs rangeLogs blockRange
  rw [List.flatMap_map, List.range'_eq_map_range, List.flatMap_map]

theorem Truthful.receipts_complete (truthful : Truthful logs receipts blocks)
    {fromBlock toBlock rounds : Nat} {found : List RpcLog} (ordered : fromBlock ≤ toBlock)
    (fits : toBlock ≤ u64Max)
    (ends : getBlockReceiptsRange env receipts addresses topics fromBlock toBlock rounds =
      some (.ok found)) :
    found.Perm ((rangeLogs blocks fromBlock toBlock).filter (isWatched addresses topics)) := by
  obtain ⟨pieces, tiles, same, answered⟩ := tiles_of_scanFrom fits ordered ends
  rw [same]
  refine tiles.perm_flatMap_filter _ fun piece member => ?_
  obtain ⟨attempt, answer⟩ := answered piece member
  rw [truthful.receipts_piece answer]

/-- A poll that succeeds has read the watched logs of its range, each as often as the chain has
it. -/
theorem Truthful.pollLogs_complete (truthful : Truthful logs receipts blocks) (asked : topics ≠ [])
    (nodup : addresses.Nodup) {mode : RangeMode} {fromBlock toBlock rounds : Nat}
    {found : List RpcLog} (ordered : fromBlock ≤ toBlock) (fits : toBlock ≤ u64Max)
    (ends : pollLogs env chain logs receipts addresses topics mode fromBlock toBlock rounds =
      some (.ok found)) :
    found.Perm ((rangeLogs blocks fromBlock toBlock).filter (isWatched addresses topics)) := by
  cases mode with
  | topicLogs => exact truthful.topic_complete asked ordered fits ends
  | addressLogs => exact truthful.address_complete asked nodup ordered fits ends
  | blockReceipts =>
    obtain ⟨result, scanned, rest⟩ := Option.bind_eq_some_iff.mp ends
    cases result with
    | ok answer =>
      injection rest with same
      injection same with same
      exact same ▸ truthful.receipts_complete ordered fits scanned
    | error err =>
      dsimp only at rest
      split at rest
      · exact truthful.topic_complete asked ordered fits rest
      · cases rest

end Complete

/-- No address is watched twice. -/
theorem nodup_watchedAddresses (snapshot : GraphSnapshot) : (watchedAddresses snapshot).Nodup := by
  unfold watchedAddresses
  refine List.foldlRecOn _ _ snapshot.pools.keys_nodup fun addresses nodup pool _ => ?_
  split
  · split
    · exact nodup
    · rename_i vault _ absent
      refine List.nodup_append.mpr ⟨nodup, List.nodup_singleton vault, ?_⟩
      rintro other member only isVault rfl
      exact absent (List.mem_singleton.mp isVault ▸ member)
  · exact nodup

theorem eventTopics_ne_nil (signatureHash : String → B256) : eventTopics signatureHash ≠ [] := by
  unfold eventTopics eventSignatures
  exact List.cons_ne_nil _ _

end DexArbitrage
