/-
This file is about scanning a range of blocks in chunks. A scan asks for the
logs of one chunk after the other. When an attempt fails, a retry policy either
gives up or says how many blocks the next attempt is to cover. Block numbers
are bounded, so the step past the last chunk is taken only where the bound
leaves room for it.

A scan ends, whatever the attempts are answered with: each chunk that is
answered leaves fewer blocks to cover, and each failed attempt leaves the
policy with less patience. If it ends with logs, the chunks they are from
partition the range.
-/

import Mathlib.Data.List.Chain
import DexArbitrage.Lib.Saturating

namespace DexArbitrage

/-! ### Partitions of a range -/

/-- A range of blocks with the logs found in it. -/
structure Piece (Log : Type) where
  first : Nat
  last : Nat
  logs : List Log
  deriving DecidableEq, Repr

variable {Log Error : Type}

def Piece.Covers (piece : Piece Log) (block : Nat) : Prop :=
  piece.first ≤ block ∧ block ≤ piece.last

/-- The pieces are consecutive, share no block, and cover exactly the blocks of the range. -/
structure Partitions (fromBlock toBlock : Nat) (pieces : List (Piece Log)) : Prop where
  consecutive : pieces.IsChain fun before after => after.first = before.last + 1
  disjoint : pieces.Pairwise fun before after =>
    ∀ block, ¬ (before.Covers block ∧ after.Covers block)
  covers : ∀ block, (∃ piece ∈ pieces, piece.Covers block) ↔ fromBlock ≤ block ∧ block ≤ toBlock

/-- Pieces laid end to end from the first block to the last one. -/
inductive Tiles : Nat → Nat → List (Piece Log) → Prop
  | nil (last : Nat) : Tiles (last + 1) last []
  | cons {first middle last : Nat} {rest : List (Piece Log)} (logs : List Log) :
      first ≤ middle → Tiles (middle + 1) last rest →
        Tiles first last (⟨first, middle, logs⟩ :: rest)

namespace Tiles

variable {first last : Nat} {pieces : List (Piece Log)}

theorem le_succ (tiles : Tiles first last pieces) : first ≤ last + 1 := by
  induction tiles with
  | nil => exact Nat.le_refl _
  | cons logs nonempty rest inductionHypothesis => omega

theorem head_first {piece : Piece Log} (tiles : Tiles first last (piece :: pieces)) :
    piece.first = first := by
  cases tiles
  rfl

theorem covers_iff (tiles : Tiles first last pieces) (block : Nat) :
    (∃ piece ∈ pieces, piece.Covers block) ↔ first ≤ block ∧ block ≤ last := by
  induction tiles with
  | nil last =>
    constructor
    · rintro ⟨piece, member, _⟩
      cases member
    · omega
  | @cons first middle last rest logs nonempty tiles inductionHypothesis =>
    have room := tiles.le_succ
    rw [List.exists_mem_cons_iff, inductionHypothesis]
    unfold Piece.Covers
    dsimp only
    omega

theorem consecutive (tiles : Tiles first last pieces) :
    pieces.IsChain fun before after => after.first = before.last + 1 := by
  induction tiles with
  | nil => exact .nil
  | @cons first middle last rest logs nonempty tiles inductionHypothesis =>
    cases rest with
    | nil => exact .singleton _
    | cons piece others => exact .cons_cons tiles.head_first inductionHypothesis

theorem disjoint (tiles : Tiles first last pieces) :
    pieces.Pairwise fun before after =>
      ∀ block, ¬ (before.Covers block ∧ after.Covers block) := by
  induction tiles with
  | nil => exact .nil
  | @cons first middle last rest logs nonempty tiles inductionHypothesis =>
    refine .cons ?_ inductionHypothesis
    rintro piece member block ⟨before, after⟩
    -- the later pieces begin past the first one
    have later := ((tiles.covers_iff block).mp ⟨piece, member, after⟩).1
    have earlier : block ≤ middle := before.2
    omega

theorem partitions (tiles : Tiles first last pieces) : Partitions first last pieces where
  consecutive := tiles.consecutive
  disjoint := tiles.disjoint
  covers := tiles.covers_iff

/-- A piece that begins where the others end is laid behind them. -/
theorem snoc (tiles : Tiles first last pieces) {next : Nat} (logs : List Log)
    (nonempty : last < next) : Tiles first next (pieces ++ [⟨last + 1, next, logs⟩]) := by
  induction tiles with
  | nil last => exact .cons logs nonempty (.nil next)
  | cons others inside rest inductionHypothesis =>
    exact .cons others inside (inductionHypothesis nonempty)

end Tiles

/-- The blocks of a range. -/
def blockRange (first last : Nat) : List Nat :=
  List.range' first (last + 1 - first)

theorem mem_blockRange {first last block : Nat} :
    block ∈ blockRange first last ↔ first ≤ block ∧ block ≤ last := by
  unfold blockRange
  rw [List.mem_range'_1]
  omega

/-- The blocks of pieces laid end to end are those of the whole range, in order. -/
theorem Tiles.flatMap_blockRange {first last : Nat} {pieces : List (Piece Log)}
    (tiles : Tiles first last pieces) :
    (pieces.flatMap fun piece => blockRange piece.first piece.last) = blockRange first last := by
  induction tiles with
  | nil last => simp [blockRange]
  | @cons first middle last rest logs nonempty tiles inductionHypothesis =>
    have room := tiles.le_succ
    rw [List.flatMap_cons, inductionHypothesis]
    unfold blockRange
    dsimp only
    have next : first + (middle + 1 - first) = middle + 1 := by omega
    have whole : last + 1 - first = (middle + 1 - first) + (last + 1 - (middle + 1)) := by omega
    rw [whole, ← List.range'_append_1, next]

/-! ### Scans -/

/-- How many blocks the next attempt covers, and how many attempts at its first block have
failed. -/
structure ChunkState where
  blocks : Nat
  positive : 0 < blocks
  retryCount : Nat

/-- What becomes of the chunk size after an attempt. A failed attempt is tried again or ends the
scan. -/
structure RetryPolicy (Error : Type) where
  accepted : ChunkState → ChunkState
  rejected : Error → ChunkState → Except Error ChunkState
  patience : ChunkState → Nat
  patience_lt : ∀ error chunk next,
    rejected error chunk = .ok next → patience next < patience chunk

structure ScanState (Log : Type) where
  start : Nat
  chunk : ChunkState
  attempt : Nat
  logs : List Log

section Scan

variable (bound toBlock : Nat) (policy : RetryPolicy Error)
variable (ask : Nat → Nat → Nat → Except Error (List Log))

/-- The last block of the next attempt. -/
def ScanState.last (state : ScanState Log) : Nat :=
  min (saturatingAdd bound state.start (state.chunk.blocks - 1)) toBlock

/-- One attempt, or the end of the scan. -/
def scanStep (state : ScanState Log) : ScanState Log ⊕ Except Error (List Log) :=
  if state.start ≤ toBlock then
    let last := state.last bound toBlock
    match ask state.attempt state.start last with
    | .ok chunk =>
      let logs := state.logs ++ chunk
      if last = bound then
        .inr (.ok logs)
      else
        .inl {
          start := saturatingAdd bound last 1
          chunk := policy.accepted state.chunk
          attempt := state.attempt + 1
          logs }
    | .error error =>
      match policy.rejected error state.chunk with
      | .ok chunk => .inl { state with chunk, attempt := state.attempt + 1 }
      | .error reason => .inr (.error reason)
  else
    .inr (.ok state.logs)

/-- The loop, cut off after a number of rounds. -/
def scanFor : Nat → ScanState Log → Option (Except Error (List Log))
  | 0, _ => none
  | rounds + 1, state =>
    match scanStep bound toBlock policy ask state with
    | .inl next => scanFor rounds next
    | .inr result => some result

def scanFrom (fromBlock : Nat) (chunk : ChunkState) (rounds : Nat) :
    Option (Except Error (List Log)) :=
  if toBlock < fromBlock then
    some (.ok [])
  else
    scanFor bound toBlock policy ask rounds { start := fromBlock, chunk, attempt := 0, logs := [] }

end Scan

/-! ### Steps -/

section Step

variable {bound toBlock : Nat} {policy : RetryPolicy Error}
variable {ask : Nat → Nat → Nat → Except Error (List Log)}

theorem ScanState.last_eq {state : ScanState Log} (fits : toBlock ≤ bound)
    (inside : state.start ≤ toBlock) :
    state.start ≤ state.last bound toBlock ∧ state.last bound toBlock ≤ toBlock := by
  unfold ScanState.last saturatingAdd
  omega

/-- The ways a round goes on: the attempt was answered and the scan moves past it, or it failed and
is made again with less patience. -/
theorem scanStep_inl (fits : toBlock ≤ bound) {state next : ScanState Log}
    (step : scanStep bound toBlock policy ask state = .inl next) :
    state.start ≤ toBlock ∧
      ((∃ last logs, state.start ≤ last ∧ last ≤ toBlock ∧
          ask state.attempt state.start last = .ok logs ∧
          next.start = last + 1 ∧ next.logs = state.logs ++ logs) ∨
        next.start = state.start ∧ next.logs = state.logs ∧
          policy.patience next.chunk < policy.patience state.chunk) := by
  unfold scanStep at step
  split at step
  case isFalse => cases step
  case isTrue inside =>
    obtain ⟨nonempty, within⟩ := ScanState.last_eq fits inside
    refine ⟨inside, ?_⟩
    dsimp only at step
    cases answer : ask state.attempt state.start (state.last bound toBlock) with
    | ok logs =>
      rw [answer] at step
      dsimp only at step
      split at step
      case isTrue => cases step
      case isFalse below =>
        cases step
        exact .inl ⟨_, logs, nonempty, within, answer, saturatingAdd_of_le (by omega), rfl⟩
    | error error =>
      rw [answer] at step
      dsimp only at step
      cases retry : policy.rejected error state.chunk with
      | ok chunk =>
        rw [retry] at step
        cases step
        exact .inr ⟨rfl, rfl, policy.patience_lt _ _ _ retry⟩
      | error reason =>
        rw [retry] at step
        cases step

/-- The ways a scan ends with logs: past the range, or with an answer that reaches the bound. -/
theorem scanStep_inr (fits : toBlock ≤ bound) {state : ScanState Log} {logs : List Log}
    (step : scanStep bound toBlock policy ask state = .inr (.ok logs)) :
    toBlock < state.start ∧ logs = state.logs ∨
      ∃ chunk, state.start ≤ toBlock ∧ ask state.attempt state.start toBlock = .ok chunk ∧
        logs = state.logs ++ chunk := by
  unfold scanStep at step
  split at step
  case isFalse outside =>
    cases step
    exact .inl ⟨Nat.lt_of_not_le outside, rfl⟩
  case isTrue inside =>
    obtain ⟨nonempty, within⟩ := ScanState.last_eq fits inside
    dsimp only at step
    cases answer : ask state.attempt state.start (state.last bound toBlock) with
    | ok chunk =>
      rw [answer] at step
      dsimp only at step
      split at step
      case isFalse => cases step
      case isTrue reached =>
        cases step
        have whole : state.last bound toBlock = toBlock := by omega
        rw [whole] at answer
        exact .inr ⟨chunk, inside, answer, rfl⟩
    | error error =>
      rw [answer] at step
      dsimp only at step
      cases retry : policy.rejected error state.chunk with
      | ok chunk =>
        rw [retry] at step
        cases step
      | error reason =>
        rw [retry] at step
        cases step

/-! ### Runs -/

/-- A scan ends: the blocks left come down, or they stay and the patience comes down. -/
theorem exists_scanFor_eq_some (fits : toBlock ≤ bound) (state : ScanState Log) :
    ∃ rounds result, scanFor bound toBlock policy ask rounds state = some result := by
  cases step : scanStep bound toBlock policy ask state with
  | inr result => exact ⟨1, result, by rw [scanFor, step]⟩
  | inl next =>
    have moves := scanStep_inl fits step
    have ends := exists_scanFor_eq_some fits next
    obtain ⟨rounds, result, same⟩ := ends
    exact ⟨rounds + 1, result, by rw [scanFor, step]; exact same⟩
termination_by (toBlock + 1 - state.start, policy.patience state.chunk)
decreasing_by
  obtain ⟨inside, ⟨last, logs, nonempty, within, _, moved, _⟩ | ⟨stays, _, patience⟩⟩ := moves
  · exact Prod.Lex.left _ _ (by omega)
  · rw [stays]
    exact Prod.Lex.right _ patience

/-- More rounds do not change the result. -/
theorem scanFor_of_le {rounds more : Nat} (enough : rounds ≤ more) {state : ScanState Log}
    {result : Except Error (List Log)}
    (ends : scanFor bound toBlock policy ask rounds state = some result) :
    scanFor bound toBlock policy ask more state = some result := by
  induction rounds generalizing more state with
  | zero => cases ends
  | succ rounds inductionHypothesis =>
    obtain ⟨more, rfl⟩ := Nat.exists_eq_add_of_le' (Nat.one_le_of_lt enough)
    unfold scanFor at ends ⊢
    cases step : scanStep bound toBlock policy ask state with
    | inr result => rwa [step] at ends
    | inl next =>
      rw [step] at ends
      exact inductionHypothesis (by omega) ends

/-- The logs a scan adds are those of pieces that cover what was left of the range. -/
theorem tiles_of_scanFor (fits : toBlock ≤ bound) {rounds : Nat} {state : ScanState Log}
    {logs : List Log} (room : state.start ≤ toBlock + 1)
    (ends : scanFor bound toBlock policy ask rounds state = some (.ok logs)) :
    ∃ pieces : List (Piece Log), Tiles state.start toBlock pieces ∧
      logs = state.logs ++ pieces.flatMap Piece.logs ∧
      ∀ piece ∈ pieces, ∃ attempt, ask attempt piece.first piece.last = .ok piece.logs := by
  induction rounds generalizing state with
  | zero => cases ends
  | succ rounds inductionHypothesis =>
    unfold scanFor at ends
    cases step : scanStep bound toBlock policy ask state with
    | inr result =>
      rw [step] at ends
      cases ends
      rcases scanStep_inr fits step with ⟨past, rfl⟩ | ⟨chunk, inside, answer, rfl⟩
      · have finished : state.start = toBlock + 1 := by omega
        rw [finished]
        exact ⟨[], .nil toBlock, by simp, by simp⟩
      · exact ⟨[⟨state.start, toBlock, chunk⟩], .cons chunk inside (.nil toBlock), by simp,
          by simpa using ⟨_, answer⟩⟩
    | inl next =>
      rw [step] at ends
      obtain ⟨inside, ⟨last, chunk, nonempty, within, answer, moved, grown⟩ | ⟨stays, kept, _⟩⟩ :=
        scanStep_inl fits step
      · obtain ⟨pieces, tiles, same, answered⟩ := inductionHypothesis (by omega) ends
        rw [moved] at tiles
        refine ⟨⟨state.start, last, chunk⟩ :: pieces, .cons chunk nonempty tiles, ?_, ?_⟩
        · rw [same, grown, List.flatMap_cons, List.append_assoc]
        · rw [List.forall_mem_cons]
          exact ⟨⟨_, answer⟩, answered⟩
      -- the failed attempt has left nothing behind
      · rw [← stays, ← kept]
        exact inductionHypothesis (by omega) ends

/-- A scan that ends with logs has laid pieces over its range. -/
theorem tiles_of_scanFrom (fits : toBlock ≤ bound) {fromBlock rounds : Nat} {chunk : ChunkState}
    {logs : List Log} (ordered : fromBlock ≤ toBlock)
    (ends : scanFrom bound toBlock policy ask fromBlock chunk rounds = some (.ok logs)) :
    ∃ pieces : List (Piece Log), Tiles fromBlock toBlock pieces ∧
      logs = pieces.flatMap Piece.logs ∧
      ∀ piece ∈ pieces, ∃ attempt, ask attempt piece.first piece.last = .ok piece.logs := by
  unfold scanFrom at ends
  rw [if_neg (Nat.not_lt.mpr ordered)] at ends
  obtain ⟨pieces, tiles, same, answered⟩ := tiles_of_scanFor fits (Nat.le_succ_of_le ordered) ends
  exact ⟨pieces, tiles, same, answered⟩

/-- From some number of rounds on the loop has one result, and if that is a list of logs, they are
those of pieces that partition the range, each of them answered once. -/
def EndsWithPartition (fromBlock toBlock : Nat) (answered : Piece Log → Prop)
    (scan : Nat → Option (Except Error (List Log))) : Prop :=
  ∃ rounds result, (∀ more, rounds ≤ more → scan more = some result) ∧
    ∀ logs, result = .ok logs → ∃ pieces, Partitions fromBlock toBlock pieces ∧
      (∀ piece ∈ pieces, answered piece) ∧ logs = pieces.flatMap Piece.logs

theorem endsWithPartition_scanFrom {fromBlock : Nat} (ordered : fromBlock ≤ toBlock)
    (fits : toBlock ≤ bound) (chunk : ChunkState) :
    EndsWithPartition fromBlock toBlock
      (fun piece => ∃ attempt, ask attempt piece.first piece.last = .ok piece.logs)
      (scanFrom bound toBlock policy ask fromBlock chunk) := by
  have entered : scanFrom bound toBlock policy ask fromBlock chunk =
      fun rounds => scanFor bound toBlock policy ask rounds
        { start := fromBlock, chunk, attempt := 0, logs := [] } := by
    funext rounds
    exact if_neg (Nat.not_lt.mpr ordered)
  rw [entered]
  obtain ⟨rounds, result, ends⟩ := exists_scanFor_eq_some fits
    { start := fromBlock, chunk, attempt := 0, logs := [] }
  refine ⟨rounds, result, fun more enough => scanFor_of_le enough ends, ?_⟩
  rintro logs rfl
  obtain ⟨pieces, tiles, same, answered⟩ := tiles_of_scanFor fits (by dsimp only; omega) ends
  exact ⟨pieces, tiles.partitions, answered, same⟩

theorem EndsWithPartition.imp {fromBlock toBlock : Nat} {answered delivered : Piece Log → Prop}
    {scan : Nat → Option (Except Error (List Log))}
    (ends : EndsWithPartition fromBlock toBlock answered scan)
    (weaker : ∀ piece, answered piece → delivered piece) :
    EndsWithPartition fromBlock toBlock delivered scan := by
  obtain ⟨rounds, result, same, partitioned⟩ := ends
  refine ⟨rounds, result, same, fun logs ok => ?_⟩
  obtain ⟨pieces, partitions, answers, whole⟩ := partitioned logs ok
  exact ⟨pieces, partitions, fun piece member => weaker piece (answers piece member), whole⟩

end Step

end DexArbitrage
