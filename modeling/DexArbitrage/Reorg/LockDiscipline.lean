/-
This file settles when `update_chain` blocks on itself. Its guards stay alive
across the branch handlers, and `find_common_ancestor` takes two of the three
mutexes again. So a call blocks exactly when it reaches `handle_parent_mismatch`:
on a block right above the tip whose parent is not the tip, or on an older
block that contradicts the stored block of its number. Right above a tip with
the largest number is block 0, since the sum wraps.
-/

import DexArbitrage.Reorg.Detector

namespace DexArbitrage

/-- The branch handler that looks for a common ancestor is reached. -/
def ParentMismatch (detector : ReorgDetector) (blockRef : BlockRef) : Prop :=
  ∃ tip, detector.currentTip = some tip ∧
    (blockRef.number = nextNumber tip.number ∧ blockRef.parentHash ≠ tip.hash ∨
      blockRef.number ≠ nextNumber tip.number ∧ blockRef.number < tip.number ∧
        ∃ existing, detector.blockByNumber.lookup blockRef.number = some existing ∧
          existing.hash ≠ blockRef.hash)

/-- The call returns an event, nothing, or an error. -/
def Returns {Value : Type} (program : DetectorProgram Value) (detector : ReorgDetector) : Prop :=
  (outcome program [] detector).1 ≠ .error .blocked

namespace ReorgDetector

/-- The locks `update_chain` holds while its handlers run. -/
def heldInUpdate : List DetectorLock := [.blockByNumber, .blockByHash, .chain]

theorem outcome_updateChain (discipline : LockDiscipline) (blockRef : BlockRef)
    (detector : ReorgDetector) :
    outcome (updateChain discipline blockRef) [] detector =
      outcome (updateLocked discipline (.ofBlockRef blockRef)) heldInUpdate detector := by
  unfold updateChain
  rw [outcome_withLock_free discipline _ detector (by decide),
    outcome_withLock_free discipline _ detector (by decide),
    outcome_withLock_free discipline _ detector (by decide)]
  rfl

/-- Inside `update_chain` the search for a common ancestor blocks. -/
theorem outcome_findCommonAncestor_held (targetHash : B256) (detector : ReorgDetector) :
    outcome (findCommonAncestor .nonReentrant targetHash) heldInUpdate detector =
      (.error .blocked, detector) :=
  outcome_withLock_held _ detector (by decide)

theorem outcome_handleParentMismatch_held (entry : BlockHistoryEntry) (detector : ReorgDetector) :
    outcome (handleParentMismatch .nonReentrant entry) heldInUpdate detector =
      (.error .blocked, detector) :=
  outcome_bind_error (outcome_findCommonAncestor_held entry.parentHash detector)

/-- On a parent mismatch the body is the handler that looks for a common ancestor. -/
theorem outcome_updateLocked_mismatch (discipline : LockDiscipline) (held : List DetectorLock)
    {detector : ReorgDetector} {blockRef : BlockRef}
    (mismatch : ParentMismatch detector blockRef) :
    outcome (updateLocked discipline (.ofBlockRef blockRef)) held detector =
      outcome (handleParentMismatch discipline (.ofBlockRef blockRef)) held detector := by
  obtain ⟨tip, current, ⟨next, parent⟩ | ⟨notNext, older, existing, stored, different⟩⟩ :=
    mismatch
  · have sameNumber : (BlockHistoryEntry.ofBlockRef blockRef).number = nextNumber tip.number :=
      next
    unfold updateLocked
    rw [outcome_bind_ok (outcome_get held detector), current]
    simp only [sameNumber, nextNumber_ne, if_false, if_true]
    exact congrFun (congrFun (congrArg outcome (if_pos parent)) held) detector
  · have notSame : ¬ (BlockHistoryEntry.ofBlockRef blockRef).number = tip.number := older.ne
    have notNext : ¬ (BlockHistoryEntry.ofBlockRef blockRef).number = nextNumber tip.number :=
      notNext
    have notAbove : ¬ tip.number < (BlockHistoryEntry.ofBlockRef blockRef).number := older.asymm
    have found : detector.blockByNumber.lookup (BlockHistoryEntry.ofBlockRef blockRef).number =
        some existing := stored
    have differs : existing.hash ≠ (BlockHistoryEntry.ofBlockRef blockRef).hash := different
    unfold updateLocked
    rw [outcome_bind_ok (outcome_get held detector), current]
    simp only [if_neg notSame, if_neg notNext, if_neg notAbove]
    unfold handleReorgWithOlderBlock
    rw [outcome_bind_ok (outcome_get held detector)]
    simp only [found, if_pos differs]

/-- Without one, the body returns. -/
theorem outcome_updateLocked_ok (discipline : LockDiscipline) (held : List DetectorLock)
    {detector : ReorgDetector} {blockRef : BlockRef}
    (matched : ¬ ParentMismatch detector blockRef) :
    ∃ event written,
      outcome (updateLocked discipline (.ofBlockRef blockRef)) held detector =
        (.ok event, written) := by
  unfold updateLocked
  rw [outcome_bind_ok (outcome_get held detector)]
  cases current : detector.currentTip with
  | none => exact ⟨_, _, outcome_modify_return _ none held detector⟩
  | some tip =>
    simp only
    split
    · split
      · unfold handleReorgAtSameHeight
        rw [outcome_bind_ok (outcome_get held detector), current]
        exact ⟨_, _, rfl⟩
      · exact ⟨none, detector, rfl⟩
    · split
      · rename_i next
        split
        · rename_i parent
          exact absurd ⟨tip, current, Or.inl ⟨next, parent⟩⟩ matched
        · exact ⟨_, _, outcome_modify_return _ none held detector⟩
      · split
        · exact ⟨_, _, outcome_modify_return _ none held detector⟩
        · rename_i notSame notNext notAbove
          have older : blockRef.number < tip.number :=
            Nat.lt_of_le_of_ne (Nat.not_lt.mp notAbove) notSame
          unfold handleReorgWithOlderBlock
          rw [outcome_bind_ok (outcome_get held detector)]
          cases stored : detector.blockByNumber.lookup
              (BlockHistoryEntry.ofBlockRef blockRef).number with
          | none => exact ⟨none, detector, rfl⟩
          | some existing =>
            simp only
            split
            · rename_i different
              exact absurd
                ⟨tip, current, Or.inr ⟨notNext, older, existing, stored, different⟩⟩ matched
            · exact ⟨none, detector, rfl⟩

/-- With mutexes that are not reentrant the call blocks on a parent mismatch. -/
theorem outcome_updateChain_blocked {detector : ReorgDetector} {blockRef : BlockRef}
    (mismatch : ParentMismatch detector blockRef) :
    outcome (updateChain .nonReentrant blockRef) [] detector = (.error .blocked, detector) := by
  rw [outcome_updateChain, outcome_updateLocked_mismatch .nonReentrant _ mismatch,
    outcome_handleParentMismatch_held]

end ReorgDetector

/-- `update_chain` returns exactly on the blocks that do not need a common ancestor. -/
theorem returns_updateChain_iff (detector : ReorgDetector) (blockRef : BlockRef) :
    Returns (ReorgDetector.updateChain .nonReentrant blockRef) detector ↔
      ¬ ParentMismatch detector blockRef := by
  unfold Returns
  constructor
  · intro returns mismatch
    rw [ReorgDetector.outcome_updateChain_blocked mismatch] at returns
    exact returns rfl
  · intro matched blocked
    obtain ⟨event, written, ended⟩ := ReorgDetector.outcome_updateLocked_ok .nonReentrant
      ReorgDetector.heldInUpdate matched
    rw [ReorgDetector.outcome_updateChain, ended] at blocked
    cases blocked

/-! ### A block whose parent is not the tip -/

def block100 : BlockRef where
  number := 100
  hash := 1
  parentHash := 0
  finality := .sealed

def block101 : BlockRef where
  number := 101
  hash := 3
  parentHash := 2
  finality := .sealed

/-- The detector that has seen one block. -/
def detectorAt100 : ReorgDetector := ReorgDetector.new.appendBlock (.ofBlockRef block100)

theorem not_returns_updateChain_block101 :
    outcome (ReorgDetector.updateChain .nonReentrant block100) [] .new =
      (.ok none, detectorAt100) ∧
    ¬ Returns (ReorgDetector.updateChain .nonReentrant block101) detectorAt100 := by
  refine ⟨rfl, fun returns => ?_⟩
  exact returns rfl

end DexArbitrage
