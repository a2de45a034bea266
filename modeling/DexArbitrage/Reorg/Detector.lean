/-
This file models `src/reorg/mod.rs`: the detector that tracks the canonical
chain in a queue and two maps, each behind its own mutex. `update_chain` takes
all three mutexes for its whole body; whether a second acquisition of one of
them blocks is a parameter, so that what the detector computes can also be
stated apart from its locking.

The queue is a list with the oldest block first.
-/

import DexArbitrage.Lib.Lock
import DexArbitrage.Types

namespace DexArbitrage

/-- Maximum number of blocks to keep in the canonical chain history. -/
def maxBlockHistory : Nat := 128

inductive ReorgEvent
  | detected (commonAncestorBlock newChainBlock depth : Nat)
  | rollback (fromBlock toBlock : Nat)
  | replay (fromBlock toBlock : Nat)
  deriving DecidableEq, Repr

/-- The block to which the event rolls back. -/
def ReorgEvent.targetBlock : ReorgEvent → Nat
  | .detected commonAncestorBlock _ _ => commonAncestorBlock
  | .rollback _ toBlock | .replay _ toBlock => toBlock

structure BlockHistoryEntry where
  number : Nat
  hash : B256
  parentHash : B256
  finality : FinalityLevel
  deriving DecidableEq, Repr

def BlockHistoryEntry.ofBlockRef (blockRef : BlockRef) : BlockHistoryEntry where
  number := blockRef.number
  hash := blockRef.hash
  parentHash := blockRef.parentHash
  finality := blockRef.finality

/-- Block numbers are `u64`, and a release build wraps the one after the largest. -/
def nextNumber (number : Nat) : Nat :=
  (number + 1) % 2 ^ 64

theorem nextNumber_ne (number : Nat) : nextNumber number ≠ number := by
  unfold nextNumber
  omega

theorem nextNumber_eq_succ {number : Nat} (fits : number + 1 < 2 ^ 64) :
    nextNumber number = number + 1 :=
  Nat.mod_eq_of_lt fits

inductive DetectorLock
  | chain
  | blockByHash
  | blockByNumber
  deriving DecidableEq, Repr

structure ReorgDetector where
  chain : List BlockHistoryEntry
  blockByHash : HashMap B256 Nat
  blockByNumber : HashMap Nat BlockHistoryEntry

abbrev DetectorProgram (Value : Type) : Type :=
  LockProgram DetectorLock ReorgDetector String Value

namespace ReorgDetector

def new : ReorgDetector where
  chain := []
  blockByHash := ∅
  blockByNumber := ∅

/-- The current tip of the canonical chain. -/
def currentTip (detector : ReorgDetector) : Option BlockHistoryEntry :=
  detector.chain.getLast?

/-- Get a block by hash. -/
def getByHash (detector : ReorgDetector) (hash : B256) : Option BlockHistoryEntry :=
  (detector.blockByHash.lookup hash).bind detector.blockByNumber.lookup

/-- Add an entry to the back of the queue and to both maps. -/
def pushBack (detector : ReorgDetector) (entry : BlockHistoryEntry) : ReorgDetector where
  chain := detector.chain ++ [entry]
  blockByHash := detector.blockByHash.insert entry.hash entry.number
  blockByNumber := detector.blockByNumber.insert entry.number entry

/-- Forget an entry in both maps. -/
def forget (detector : ReorgDetector) (entry : BlockHistoryEntry) : ReorgDetector :=
  { detector with
    blockByHash := detector.blockByHash.erase entry.hash
    blockByNumber := detector.blockByNumber.erase entry.number }

def popBack (detector : ReorgDetector) : ReorgDetector :=
  match detector.chain.getLast? with
  | some old => { detector with chain := detector.chain.dropLast }.forget old
  | none => detector

def popFront (detector : ReorgDetector) : ReorgDetector :=
  match detector.chain with
  | old :: rest => { detector with chain := rest }.forget old
  | [] => detector

/-- The pruning loop: one pop for each entry above the limit. -/
def prune : Nat → ReorgDetector → ReorgDetector
  | 0, detector => detector
  | excess + 1, detector => prune excess detector.popFront

def appendBlock (detector : ReorgDetector) (entry : BlockHistoryEntry) : ReorgDetector :=
  prune (detector.chain.length + 1 - maxBlockHistory) (detector.pushBack entry)

/-- The loop that pops tips until one of them is where to stop; `tips` is the chain, the latest
block first. -/
def popUntil (stop : BlockHistoryEntry → Bool) : List BlockHistoryEntry → ReorgDetector →
    ReorgDetector
  | [], detector => detector
  | tip :: rest, detector =>
    if stop tip then
      detector
    else
      popUntil stop rest detector.popBack

def rollbackUntil (detector : ReorgDetector) (stop : BlockHistoryEntry → Bool) : ReorgDetector :=
  popUntil stop detector.chain.reverse detector

/-! ### The handlers of `update_chain` -/

variable (discipline : LockDiscipline)

def findCommonAncestor (targetHash : B256) : DetectorProgram BlockHistoryEntry :=
  withLock discipline .blockByHash <| withLock discipline .blockByNumber do
    let detector ← get
    match detector.blockByHash.lookup targetHash with
    | none => fail s!"target hash 0x{targetHash.toHex} not in block history"
    | some targetNumber =>
      match detector.blockByNumber.lookup targetNumber with
      | none => fail s!"block number {targetNumber} not found in block by number"
      | some entry => pure entry

def handleReorgAtSameHeight (entry : BlockHistoryEntry) :
    DetectorProgram (Option ReorgEvent) := do
  let detector ← get
  match detector.currentTip with
  | none => fail "chain should have a tip"
  | some oldTip =>
    set (detector.popBack.pushBack entry)
    return some (.rollback oldTip.number oldTip.number)

def handleParentMismatch (entry : BlockHistoryEntry) : DetectorProgram (Option ReorgEvent) := do
  let commonAncestor ← findCommonAncestor discipline entry.parentHash
  let detector ← get
  let fromBlock := (detector.currentTip.map BlockHistoryEntry.number).getD 0
  let rolledBack := detector.rollbackUntil fun tip => tip.hash = commonAncestor.hash
  let depth := fromBlock - commonAncestor.number
  set (rolledBack.appendBlock entry)
  return some (.detected commonAncestor.number entry.number depth)

/-- Whether the parent is known only decides what is logged. -/
def handleReorgWithGap (entry : BlockHistoryEntry) : DetectorProgram (Option ReorgEvent) := do
  modify fun detector => detector.appendBlock entry
  return none

def handleReorgWithOlderBlock (entry : BlockHistoryEntry) :
    DetectorProgram (Option ReorgEvent) := do
  let detector ← get
  match detector.blockByNumber.lookup entry.number with
  | some existing =>
    if existing.hash ≠ entry.hash then
      handleParentMismatch discipline entry
    else
      return none
  | none => return none

/-- The body of `update_chain`, which runs while all three mutexes are held. -/
def updateLocked (entry : BlockHistoryEntry) : DetectorProgram (Option ReorgEvent) := do
  let detector ← get
  match detector.currentTip with
  | some tip =>
    if entry.number = tip.number then
      if entry.hash ≠ tip.hash then
        handleReorgAtSameHeight entry
      else
        return none
    else if entry.number = nextNumber tip.number then
      if entry.parentHash ≠ tip.hash then
        handleParentMismatch discipline entry
      else
        modify fun detector => detector.appendBlock entry
        return none
    else if tip.number < entry.number then
      handleReorgWithGap entry
    else
      handleReorgWithOlderBlock discipline entry
  | none =>
    modify fun detector => detector.appendBlock entry
    return none

/-- Update the canonical chain with a new block. -/
def updateChain (blockRef : BlockRef) : DetectorProgram (Option ReorgEvent) :=
  withLock discipline .chain <| withLock discipline .blockByHash <|
    withLock discipline .blockByNumber <|
      updateLocked discipline (.ofBlockRef blockRef)

/-- Rollback to a block number. -/
def rollbackToBlock (blockNumber : Nat) : DetectorProgram Unit :=
  withLock discipline .chain <| withLock discipline .blockByHash <|
    withLock discipline .blockByNumber <|
      modify fun detector => detector.rollbackUntil fun tip => tip.number ≤ blockNumber

end ReorgDetector

end DexArbitrage
