/-
This file models the chunked log scans: `get_topic_logs_chunked` and
`get_address_logs_chunked` of `src/discovery/event_stream.rs`,
`get_logs_chunked` of `src/discovery/factory_scanner.rs`, and what they use of
`src/rpc/mod.rs` to size their chunks and to read the texts of errors.

The three loops move through the range in the same way. They differ in their
chunk sizes, in when they retry, in what they ask for in one attempt, and in
whether chunks grow again. What each request of each attempt is answered with
is a parameter, and so is the order in which the requests of one attempt
finish. Delays before a retry are left out.
-/

import Mathlib.Data.List.Infix
import DexArbitrage.Discovery.FactoryScan
import DexArbitrage.Discovery.LogDecode
import DexArbitrage.Lib.ChunkedScan
import DexArbitrage.Lib.Program

namespace DexArbitrage

inductive Chain
  | base
  | polygon
  | avalanche
  | sonic
  | gnosis
  | celo
  | linea
  | bsc
  deriving DecidableEq, Repr

/-- The environment variables of the scans, as they parse. -/
structure LogScanEnv where
  rpcProviderMode : Option String
  eventLogChunkBlocks : Option Nat
  eventLogAddressChunkSize : Option Nat
  eventLogChunkMaxRetries : Option Nat
  eventLogMinChunkBlocks : Option Nat
  discoveryLogChunkBlocks : Option Nat
  discoveryLogMinChunkBlocks : Option Nat
  discoveryLogMaxRetries : Option Nat
  deriving DecidableEq, Repr

/-! ### Chunk sizes and error texts -/

def maxLogRangeForChain : Chain → Nat
  | .base => 10000
  | .polygon => 2000
  | .avalanche => 2000
  | .sonic => 2000
  | .gnosis => 2000
  | .celo => 2000
  | .linea => 100000
  | .bsc => 2000

/-- The names of the modes are plain letters, so Unicode and ASCII case agree on them. -/
def adaptLogChunkSize (chain : Chain) (providerMode : String) (currentSize : Nat) : Nat :=
  let maxAllowed := maxLogRangeForChain chain
  let mode := providerMode.toLower
  let adaptiveMax :=
    if mode = "payg" ∨ mode = "payasyougo" ∨ mode = "free" then
      maxAllowed
    else if mode = "dedicated" ∨ mode = "growth" ∨ mode = "scale" then
      max maxAllowed 10000
    else
      maxAllowed
  if currentSize = 0 then min 5000 adaptiveMax else min currentSize adaptiveMax

/-- The Kelvin sign is the one letter outside ASCII whose lower case, `k`, occurs in a text that
`shouldReduceChunkSize` looks for. -/
def lowerCase (letter : Char) : Char :=
  if letter = '\u212A' then 'k' else letter.toLower

def containsText (text needle : List Char) : Bool :=
  decide (needle <:+: text)

def shouldReduceChunkSize (error : String) : Bool :=
  let errorLower := error.toList.map lowerCase
  ["query returned more than", "exceeds range limit", "block range too large",
    "payload too large", "limited to a 10,000 range", "too many results", "timeout", "timed out",
    "413"].any fun needle => containsText errorLower needle.toList

def isTransientLogError (error : String) : Bool :=
  let error := error.toList.map Char.toLower
  ["503", "502", "504", "429", "service unavailable", "temporarily unavailable", "no backend",
    "currently healthy", "rate limit", "too many requests", "capacity", "connection", "transport",
    "request failed", "timeout", "timed out"].any fun needle => containsText error needle.toList

theorem envUsize_pos {fallback : Nat} (positive : 0 < fallback) (value : Option Nat) :
    0 < envUsize value fallback := by
  unfold envUsize
  cases kept : value.filter (0 < ·) with
  | none => exact positive
  | some number => exact of_decide_eq_true (Option.filter_eq_some_iff.mp kept).2

theorem maxLogRangeForChain_pos (chain : Chain) : 0 < maxLogRangeForChain chain := by
  cases chain <;> decide

theorem adaptLogChunkSize_pos (chain : Chain) (providerMode : String) (currentSize : Nat) :
    0 < adaptLogChunkSize chain providerMode currentSize := by
  have positive := maxLogRangeForChain_pos chain
  unfold adaptLogChunkSize
  dsimp only
  split_ifs <;> omega

namespace LogScanEnv

variable (env : LogScanEnv)

def providerMode : String :=
  env.rpcProviderMode.getD "payg"

def eventChunkBlocks : Nat :=
  envUsize env.eventLogChunkBlocks 5000

def addressChunkSize : Nat :=
  envUsize env.eventLogAddressChunkSize 200

/-- Zero retries can be asked for here. -/
def eventMaxRetries : Nat :=
  env.eventLogChunkMaxRetries.getD 5

def eventMinChunkBlocks : Nat :=
  envUsize env.eventLogMinChunkBlocks 100

def discoveryChunkBlocks : Nat :=
  envUsize env.discoveryLogChunkBlocks 50000

def logMinChunkBlocks : Nat :=
  envUsize env.discoveryLogMinChunkBlocks 100

def logMaxRetries : Nat :=
  envUsize env.discoveryLogMaxRetries 12

end LogScanEnv

/-! ### Retries -/

namespace ChunkState

/-- Try again with half as many blocks, but not with fewer than the least number. -/
def halve (chunk : ChunkState) (least : Nat) (positive : 0 < least) : ChunkState where
  blocks := max (chunk.blocks / 2) least
  positive := lt_max_of_lt_right positive
  retryCount := chunk.retryCount + 1

/-- Try again with as many blocks. -/
def again (chunk : ChunkState) : ChunkState :=
  { chunk with retryCount := chunk.retryCount + 1 }

/-- Halve the chunk while it is above the least size. -/
def shrink (chunk : ChunkState) (least : Nat) (positive : 0 < least) : ChunkState :=
  if least < chunk.blocks then chunk.halve least positive else chunk.again

theorem blocks_shrink_le (chunk : ChunkState) (least : Nat) (positive : 0 < least) :
    (chunk.shrink least positive).blocks ≤ chunk.blocks := by
  unfold shrink
  split
  · unfold halve
    dsimp only
    omega
  · exact Nat.le_refl _

@[simp] theorem retryCount_shrink (chunk : ChunkState) (least : Nat) (positive : 0 < least) :
    (chunk.shrink least positive).retryCount = chunk.retryCount + 1 := by
  unfold shrink
  split <;> rfl

/-- A new block range starts with no retries. -/
def fresh (chunk : ChunkState) : ChunkState :=
  { chunk with retryCount := 0 }

/-- Grow back towards the size the scan started with. -/
def regrow (chunk : ChunkState) (base : Nat) : ChunkState :=
  if below : chunk.blocks < base then
    { blocks := min (saturatingMul u64Max chunk.blocks 2) base
      positive := by
        have positive := chunk.positive
        unfold saturatingMul u64Max
        omega
      retryCount := 0 }
  else
    chunk.fresh

end ChunkState

/-- Halving does not count against the retries, and stops at one block. -/
def topicPolicy (maxRetries least : Nat) (positive : 0 < least) : RetryPolicy RpcError where
  accepted := ChunkState.fresh
  rejected error chunk :=
    if shouldReduceChunkSize error ∧ 1 < chunk.blocks then
      .ok (chunk.halve 1 Nat.one_pos)
    else if chunk.retryCount < maxRetries ∧ isTransientLogError error then
      .ok (chunk.shrink least positive)
    else
      .error "failed to get topic logs after retries"
  patience chunk := maxRetries - chunk.retryCount + chunk.blocks
  patience_lt := by
    intro error chunk next retried
    split_ifs at retried with reduces transient
    · cases retried
      unfold ChunkState.halve
      dsimp only
      omega
    · cases retried
      have smaller := chunk.blocks_shrink_le least positive
      rw [ChunkState.retryCount_shrink]
      omega

def addressPolicy (maxRetries least : Nat) (positive : 0 < least) : RetryPolicy RpcError where
  accepted := ChunkState.fresh
  rejected error chunk :=
    if shouldReduceChunkSize error ∧ chunk.retryCount < maxRetries then
      .ok (chunk.halve 1 Nat.one_pos)
    else if chunk.retryCount < maxRetries ∧ isTransientLogError error then
      .ok (chunk.shrink least positive)
    else
      .error "failed to get address logs after retries"
  patience chunk := maxRetries - chunk.retryCount
  patience_lt := by
    intro error chunk next retried
    split_ifs at retried with reduces transient
    · cases retried
      unfold ChunkState.halve
      dsimp only
      omega
    · cases retried
      rw [ChunkState.retryCount_shrink]
      omega

/-- Any error is worth a retry while the chunk can shrink; an error that asks for it is worth one at
the least size too. -/
def factoryPolicy (maxRetries base least : Nat) (positive : 0 < least) : RetryPolicy RpcError where
  accepted chunk := chunk.regrow base
  rejected error chunk :=
    if chunk.retryCount < maxRetries ∧ (shouldReduceChunkSize error ∨ least < chunk.blocks) then
      .ok (chunk.shrink least positive)
    else
      .error "failed to get logs after retries"
  patience chunk := maxRetries - chunk.retryCount
  patience_lt := by
    intro error chunk next retried
    split_ifs at retried with retries
    cases retried
    rw [ChunkState.retryCount_shrink]
    omega

/-! ### Requests -/

structure LogRequest where
  fromBlock : Nat
  toBlock : Nat
  addresses : List Address
  topics : List B256
  deriving DecidableEq, Repr

/-- What the requests of a scan are answered with, by the number of the attempt and the position of
the request in it; and the order in which the requests of an attempt finish. -/
structure LogReplies where
  getLogs : Nat → Nat → LogRequest → Except RpcError (List RpcLog)
  finishOrder : Nat → Nat → List Nat
  finishOrder_perm : ∀ attempt count, (finishOrder attempt count).Perm (List.range count)

section Requests

variable (env : LogScanEnv) (chain : Chain) (replies : LogReplies)
variable (addresses : List Address) (topics : List B256)

/-- The one request of an attempt. -/
def getLogsOnce (attempt fromBlock toBlock : Nat) : Except RpcError (List RpcLog) :=
  replies.getLogs attempt 0 { fromBlock, toBlock, addresses, topics }

def addressChunks : List (List Address) :=
  addresses.toChunks env.addressChunkSize

/-- One request for each address chunk. The first error in finishing order fails the attempt, with
the logs of the requests that finished before. -/
def getLogsOfChunks (attempt fromBlock toBlock : Nat) : Except RpcError (List RpcLog) := do
  let chunks := addressChunks env addresses
  let rangeLogs ← (replies.finishOrder attempt chunks.length).mapM fun position =>
    replies.getLogs attempt position
      { fromBlock, toBlock, addresses := chunks.getD position [], topics }
  return rangeLogs.flatten

/-! ### Scans -/

def getTopicLogsChunked (fromBlock toBlock : Nat) (rounds : Nat) :
    Option (Except RpcError (List RpcLog)) :=
  scanFrom u64Max toBlock
    (topicPolicy env.eventMaxRetries env.eventMinChunkBlocks (envUsize_pos (by decide) _))
    (getLogsOnce replies [] topics) fromBlock
    { blocks := env.eventChunkBlocks, positive := envUsize_pos (by decide) _, retryCount := 0 }
    rounds

def getAddressLogsChunked (fromBlock toBlock : Nat) (rounds : Nat) :
    Option (Except RpcError (List RpcLog)) :=
  scanFrom u64Max toBlock
    (addressPolicy env.eventMaxRetries env.eventMinChunkBlocks (envUsize_pos (by decide) _))
    (getLogsOfChunks env replies addresses topics) fromBlock
    { blocks := adaptLogChunkSize chain env.providerMode env.eventChunkBlocks
      positive := adaptLogChunkSize_pos _ _ _
      retryCount := 0 }
    rounds

/-- The scan of the factory scanner. -/
def getLogsChunked (fromBlock toBlock : Nat) (rounds : Nat) :
    Option (Except RpcError (List RpcLog)) :=
  let base := adaptLogChunkSize chain env.providerMode env.discoveryChunkBlocks
  let least := max (min env.logMinChunkBlocks base) 1
  scanFrom u64Max toBlock
    (factoryPolicy env.logMaxRetries base least (lt_max_of_lt_right Nat.one_pos))
    (getLogsOnce replies addresses topics) fromBlock
    { blocks := base, positive := adaptLogChunkSize_pos _ _ _, retryCount := 0 }
    rounds

/-! ### The scans partition their range -/

/-- The piece is what one attempt was answered with for the range. -/
def FromOneReply (piece : Piece RpcLog) : Prop :=
  ∃ attempt,
    replies.getLogs attempt 0
      { fromBlock := piece.first, toBlock := piece.last, addresses, topics } = .ok piece.logs

/-- The piece is what one attempt was answered with for the range and each of the address chunks,
every answer taken once. -/
def FromReplyToEachChunk (piece : Piece RpcLog) : Prop :=
  ∃ (attempt : Nat) (answer : Nat → List RpcLog) (order : List Nat),
    (∀ position chunk, (addressChunks env addresses)[position]? = some chunk →
      replies.getLogs attempt position
        { fromBlock := piece.first, toBlock := piece.last, addresses := chunk, topics } =
          .ok (answer position)) ∧
    order.Perm (List.range (addressChunks env addresses).length) ∧
    piece.logs = order.flatMap answer

theorem fromReplyToEachChunk_of_getLogsOfChunks {attempt : Nat} {piece : Piece RpcLog}
    (answered : getLogsOfChunks env replies addresses topics attempt piece.first piece.last =
      .ok piece.logs) :
    FromReplyToEachChunk env replies addresses topics piece := by
  obtain ⟨rangeLogs, replied, flat⟩ := bind_eq_ok_iff.mp answered
  obtain ⟨answer, each, same⟩ := exists_answer_of_mapM_ok replied
  injection flat with flat
  have order := replies.finishOrder_perm attempt (addressChunks env addresses).length
  refine ⟨attempt, answer, _, fun position chunk isChunk => ?_, order, ?_⟩
  · have inRange := (List.getElem?_eq_some_iff.mp isChunk).1
    have reply := each position (order.mem_iff.mpr (List.mem_range.mpr inRange))
    rwa [List.getD_eq_getElem?_getD, isChunk] at reply
  · rw [← flat, same, List.flatMap_def]

/-- The three scans of one range. -/
structure ChunkedScansPartition (fromBlock toBlock : Nat) : Prop where
  topic : EndsWithPartition fromBlock toBlock (FromOneReply replies [] topics)
    (getTopicLogsChunked env replies topics fromBlock toBlock)
  address : EndsWithPartition fromBlock toBlock
    (FromReplyToEachChunk env replies addresses topics)
    (getAddressLogsChunked env chain replies addresses topics fromBlock toBlock)
  factory : EndsWithPartition fromBlock toBlock (FromOneReply replies addresses topics)
    (getLogsChunked env chain replies addresses topics fromBlock toBlock)

/-- The scans end whatever they are answered with, up to the largest block number. -/
theorem chunkedScansPartition {fromBlock toBlock : Nat} (ordered : fromBlock ≤ toBlock)
    (fits : toBlock ≤ u64Max) :
    ChunkedScansPartition env chain replies addresses topics fromBlock toBlock where
  topic := endsWithPartition_scanFrom ordered fits _
  address := (endsWithPartition_scanFrom ordered fits _).imp fun _ ⟨_, answered⟩ =>
    fromReplyToEachChunk_of_getLogsOfChunks env replies addresses topics answered
  factory := endsWithPartition_scanFrom ordered fits _

end Requests

def logInBlock (block : Nat) : RpcLog where
  address := 0
  topics := [0]
  data := []
  blockNumber := some block
  blockHash := none
  txHash := none

/-- One log in each block. The requests of an attempt finish in the order they are made. -/
def logInEachBlock : LogReplies where
  getLogs _ _ request :=
    .ok ((List.range' request.fromBlock (request.toBlock + 1 - request.fromBlock)).map logInBlock)
  finishOrder _ count := List.range count
  finishOrder_perm _ _ := List.Perm.rfl

/-- No variable is set. -/
def defaultLogScanEnv : LogScanEnv where
  rpcProviderMode := none
  eventLogChunkBlocks := none
  eventLogAddressChunkSize := none
  eventLogChunkMaxRetries := none
  eventLogMinChunkBlocks := none
  discoveryLogChunkBlocks := none
  discoveryLogMinChunkBlocks := none
  discoveryLogMaxRetries := none

/-- The range may end with the largest block number, whose log is returned. -/
theorem chunkedScansPartition_u64Max :
    ChunkedScansPartition defaultLogScanEnv .base logInEachBlock [0] [0] (u64Max - 1) u64Max ∧
      getLogsChunked defaultLogScanEnv .base logInEachBlock [0] [0] (u64Max - 1) u64Max 1 =
        some (.ok [logInBlock (u64Max - 1), logInBlock u64Max]) :=
  ⟨chunkedScansPartition defaultLogScanEnv .base logInEachBlock [0] [0] (by decide) (by decide),
    by decide +kernel⟩

end DexArbitrage
