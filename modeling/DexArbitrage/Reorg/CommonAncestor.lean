/-
This file settles which observations of a reorganising chain make the detector
name a block of both chains. The observations are any sequence of blocks of a
block tree, each with its own number and parent. Two of them go wrong: a block
that replaces the tip makes the detector name the replaced height, and a block
that contradicts the chain and whose parent the detector does not track ends in
an error. Genesis after a tip with the largest number is such a block.
-/

import DexArbitrage.Lib.BlockTree
import DexArbitrage.Reorg.ChainInvariant

namespace DexArbitrage

open ReorgDetector

/-- A latest block of the chain, as it is observed. -/
structure Observation (tree : BlockTree B256) where
  blockRef : BlockRef
  fits : blockRef.number < 2 ^ 64
  isBlock : tree.isBlock blockRef.hash
  number : blockRef.number = tree.number blockRef.hash
  parent : blockRef.parentHash = tree.parent blockRef.hash

/-- A block of the tree, as it is observed. -/
def observe (tree : BlockTree B256) (hash : B256) (fits : tree.number hash < 2 ^ 64)
    (isBlock : tree.isBlock hash) : Observation tree where
  blockRef :=
    { number := tree.number hash, hash, parentHash := tree.parent hash, finality := .sealed }
  fits := fits
  isBlock := isBlock
  number := rfl
  parent := rfl

variable {tree : BlockTree B256}

/-- The call returns, and the target of an event it returns is the number of a block that the
detector tracks and that is on the chain of the observed block. -/
def NamesAncestor (detector : ReorgDetector) (observation : Observation tree) : Prop :=
  ∃ returned, ((DetectorCall.update observation.blockRef).perform detector).1 = .ok returned ∧
    ∀ event, returned = some event → ∃ entry ∈ detector.chain,
      entry.number = event.targetBlock ∧ tree.OnChain entry.hash observation.blockRef.hash

/-- The block does not replace the tip, and when its parent is looked for it is tracked. -/
def AncestorTracked (detector : ReorgDetector) (observation : Observation tree) : Prop :=
  ¬ Replaces detector observation.blockRef ∧
    (ParentMismatch detector observation.blockRef →
      ∃ entry ∈ detector.chain, entry.hash = observation.blockRef.parentHash)

def observeStep (detector : ReorgDetector) (observation : Observation tree) : ReorgDetector :=
  detectorStep detector (.update observation.blockRef)

/-- The entry is a block of the tree with its own number. -/
structure Recorded (tree : BlockTree B256) (entry : BlockHistoryEntry) : Prop where
  isBlock : tree.isBlock entry.hash
  number : entry.number = tree.number entry.hash

/-- The indexes are exact and every tracked entry is a block of the tree. -/
structure Tracking (tree : BlockTree B256) (detector : ReorgDetector) : Prop where
  indexed : Indexed detector
  recorded : ∀ entry ∈ detector.chain, Recorded tree entry

/-! ### One observation -/

theorem tracking_new (tree : BlockTree B256) : Tracking tree .new where
  indexed := indexed_new
  recorded _ member := absurd member List.not_mem_nil

/-- A block whose parent is tracked is not genesis. -/
theorem Tracking.number_ne_zero {detector : ReorgDetector} (tracking : Tracking tree detector)
    {observation : Observation tree} {entry : BlockHistoryEntry} (member : entry ∈ detector.chain)
    (parent : entry.hash = observation.blockRef.parentHash) :
    tree.number observation.blockRef.hash ≠ 0 := by
  refine BlockTree.number_ne_zero_of_parent observation.isBlock ?_
  rw [← observation.parent, ← parent]
  exact (tracking.recorded entry member).isBlock

/-- A tracked parent of a block is on the chain of the block. -/
theorem Tracking.onChain_parent {detector : ReorgDetector} (tracking : Tracking tree detector)
    {observation : Observation tree} {entry : BlockHistoryEntry} (member : entry ∈ detector.chain)
    (parent : entry.hash = observation.blockRef.parentHash) :
    tree.OnChain entry.hash observation.blockRef.hash := by
  rw [parent, observation.parent]
  exact BlockTree.onChain_parent observation.isBlock (tracking.number_ne_zero member parent)

/-- It has the number before the number of the block. -/
theorem Tracking.number_parent {detector : ReorgDetector} (tracking : Tracking tree detector)
    {observation : Observation tree} {entry : BlockHistoryEntry} (member : entry ∈ detector.chain)
    (parent : entry.hash = observation.blockRef.parentHash) :
    entry.number + 1 = observation.blockRef.number := by
  have notGenesis := tracking.number_ne_zero member parent
  rw [(tracking.recorded entry member).number, parent, observation.parent, observation.number,
    tree.number_parent _ observation.isBlock notGenesis]

theorem Tracking.lt_of_parent {detector : ReorgDetector} (tracking : Tracking tree detector)
    {observation : Observation tree} {entry : BlockHistoryEntry} (member : entry ∈ detector.chain)
    (parent : entry.hash = observation.blockRef.parentHash) :
    entry.number < observation.blockRef.number :=
  (Nat.lt_succ_self _).trans_eq (tracking.number_parent member parent)

/-- The child of a tracked tip is above it: its number has not wrapped. -/
theorem Tracking.not_wraps {detector : ReorgDetector} (tracking : Tracking tree detector)
    (observation : Observation tree) : ¬ Wraps detector observation.blockRef := by
  rintro ⟨tip, current, -, older, linked⟩
  have above := tracking.lt_of_parent (List.mem_of_getLast? current) linked.symm
  exact above.asymm older

theorem Tracking.updateStep {detector : ReorgDetector} (tracking : Tracking tree detector)
    {observation : Observation tree}
    {ended : Except (Halt String) (Option ReorgEvent) × ReorgDetector}
    (step : UpdateStep detector observation.blockRef ended) : Tracking tree ended.2 where
  indexed := by
    refine tracking.indexed.updateStep step (fun entry member sameHash => ?_)
      (fun _ entry member parent => tracking.lt_of_parent member parent)
      (tracking.not_wraps observation)
    rw [(tracking.recorded entry member).number, sameHash]
    exact observation.number.symm
  recorded := step.forall_mem_chain tracking.recorded ⟨observation.isBlock, observation.number⟩

/-- On a tracking detector an observation names a common ancestor exactly when it does not replace
the tip and a parent that is looked for is tracked. -/
theorem Tracking.namesAncestor_iff {detector : ReorgDetector} (tracking : Tracking tree detector)
    (observation : Observation tree) :
    NamesAncestor detector observation ↔ AncestorTracked detector observation := by
  have step := updateStep_updateChain detector observation.blockRef
  unfold NamesAncestor AncestorTracked
  rw [perform_update]
  revert step
  generalize outcome (updateChain .reentrant observation.blockRef) [] detector = ended
  intro step
  cases step with
  | kept steady matched _ =>
    refine iff_of_true ⟨none, rfl, fun event absent => ?_⟩ ⟨steady, fun mismatch => ?_⟩
    · cases absent
    · exact absurd mismatch matched
  | appended above =>
    refine iff_of_true ⟨none, rfl, fun event absent => ?_⟩
      ⟨above.not_replaces, fun mismatch => ?_⟩
    · cases absent
    · exact absurd mismatch above.not_parentMismatch
  | wrapped wraps => exact absurd wraps (tracking.not_wraps observation)
  | replaced tip current sameNumber different =>
    refine iff_of_false ?_ fun tracked => tracked.1 ⟨tip, current, sameNumber, different⟩
    rintro ⟨returned, ended, names⟩
    cases ended
    obtain ⟨entry, member, target, onChain⟩ := names _ rfl
    have tipMember : tip ∈ detector.chain := List.mem_of_getLast? current
    obtain rfl : entry = tip := tracking.indexed.eq_of_number member tipMember target
    refine different (onChain.eq_of_number_eq ?_).symm
    rw [← (tracking.recorded entry member).number, ← sameNumber, observation.number]
  | rejoined ancestor depth mismatch found =>
    obtain ⟨member, parent⟩ := tracking.indexed.getByHash_eq_some.mp found
    refine iff_of_true ⟨_, rfl, fun event returned => ?_⟩
      ⟨fun replaces => replaces.not_parentMismatch mismatch, fun _ => ⟨ancestor, member, parent⟩⟩
    obtain rfl := Option.some.inj returned
    exact ⟨ancestor, member, rfl, tracking.onChain_parent member parent⟩
  | unknownParent reason mismatch missing =>
    refine iff_of_false ?_ fun tracked => ?_
    · rintro ⟨returned, ended, -⟩
      cases ended
    · obtain ⟨entry, member, parent⟩ := tracked.2 mismatch
      exact tracking.indexed.getByHash_eq_none.mp missing entry member parent

/-! ### Whole runs -/

/-- A run of observations never ends in an error and names only common ancestors exactly when no
block replaces the tip and every parent that is looked for is tracked. -/
theorem stepsMeet_namesAncestor_iff (tree : BlockTree B256)
    (observations : List (Observation tree)) :
    StepsMeet observeStep NamesAncestor .new observations ↔
      StepsMeet observeStep AncestorTracked .new observations :=
  stepsMeet_iff_of_invariant
    (fun (detector : ReorgDetector) observation (tracking : Tracking tree detector) =>
      tracking.namesAncestor_iff observation)
    (fun detector observation tracking _ =>
      tracking.updateStep (updateStep_updateChain detector observation.blockRef))
    (tracking_new tree)

/-! ### A reorg of two blocks -/

theorem toNat_sub_two {hash : B256} (above : 2 < hash.toNat) :
    (hash - 2).toNat = hash.toNat - 2 :=
  BitVec.toNat_sub_of_le (BitVec.le_def.mpr (Nat.le_of_lt above))

theorem ne_zero_of_number {hash : B256} (notGenesis : (hash.toNat + 1) / 2 ≠ 0) : hash ≠ 0 := by
  rintro rfl
  exact notGenesis rfl

/-- Two branches of equal shape above one genesis block: the odd and the even numbers. -/
def twoBranches : BlockTree B256 where
  isBlock hash := hash ≠ BitVec.allOnes 256
  number hash := (hash.toNat + 1) / 2
  parent hash :=
    if hash = 0 then BitVec.allOnes 256 else if hash.toNat ≤ 2 then 0 else hash - 2
  genesis := 0
  isBlock_parent hash _ notGenesis := by
    rw [if_neg (ne_zero_of_number notGenesis)]
    split
    · decide
    · rename_i high
      intro same
      have lower := toNat_sub_two (Nat.lt_of_not_le high)
      rw [same, BitVec.toNat_allOnes] at lower
      have bound := hash.isLt
      omega
  number_parent hash _ notGenesis := by
    rw [if_neg (ne_zero_of_number notGenesis)]
    split
    · rename_i low
      have zero : (0 : B256).toNat = 0 := rfl
      rw [zero]
      omega
    · rename_i high
      rw [toNat_sub_two (Nat.lt_of_not_le high)]
      omega
  eq_genesis hash _ zero := by
    refine BitVec.eq_of_toNat_eq ?_
    show hash.toNat = 0
    omega
  parent_genesis isBlock := isBlock rfl

instance (hash : B256) : Decidable (twoBranches.isBlock hash) :=
  inferInstanceAs (Decidable (hash ≠ BitVec.allOnes 256))

/-- The second block of the other branch has a parent that was never observed. -/
theorem not_namesAncestor_unseenParent :
    ¬ StepsMeet observeStep NamesAncestor .new
      [observe twoBranches 1 (by decide) (by decide),
        observe twoBranches 3 (by decide) (by decide),
        observe twoBranches 6 (by decide) (by decide)] := by
  rintro ⟨-, -, ⟨returned, ended, -⟩, -⟩
  cases ended

end DexArbitrage
