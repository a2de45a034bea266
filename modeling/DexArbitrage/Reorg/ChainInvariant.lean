/-
This file settles which runs of the reorg detector keep its chain in order. A
run is any list of calls of `update_chain` and `rollback_to_block`, on blocks
whose hash fixes their number, a `u64`, and their parent. Three steps can leave
the chain broken: a block that replaces the tip but has another parent than the
block below the tip, a block whose parent is tracked at or above the block's own
number, and a block 0 that names a tip with the largest number as its parent. A
run without them keeps the chain in order, and a run in which one of them occurs
does not.
-/

import DexArbitrage.Reorg.Tracking

namespace DexArbitrage

open ReorgDetector

/-- A call of the detector. -/
inductive DetectorCall
  | update (blockRef : BlockRef)
  | rollback (blockNumber : Nat)
  deriving DecidableEq, Repr

/-- How a call ends, and the detector it leaves. -/
def DetectorCall.perform (detector : ReorgDetector) :
    DetectorCall → Except (Halt String) (Option ReorgEvent) × ReorgDetector
  | .update blockRef => outcome (updateChain .reentrant blockRef) [] detector
  | .rollback blockNumber =>
    let (result, written) := outcome (rollbackToBlock .reentrant blockNumber) [] detector
    (result.map fun _ => none, written)

def detectorStep (detector : ReorgDetector) (call : DetectorCall) : ReorgDetector :=
  (call.perform detector).2

/-- The next entry, when its number is the next one, names the entry before it as its parent. -/
def Linked (earlier later : BlockHistoryEntry) : Prop :=
  later.number = earlier.number + 1 → later.parentHash = earlier.hash

structure ChainInvariant (detector : ReorgDetector) : Prop where
  indexed : Indexed detector
  bounded : detector.chain.length ≤ maxBlockHistory
  linked : detector.chain.IsChain Linked

/-- A call that ends in an error has changed nothing. -/
def ErrorKeepsState (detector : ReorgDetector) (call : DetectorCall) : Prop :=
  ∀ halt, (call.perform detector).1 = .error halt → (call.perform detector).2 = detector

/-- A hash fixes the number and the parent of its block. -/
structure Identified (numberOf : B256 → Fin (2 ^ 64)) (parentOf : B256 → B256)
    (entry : BlockHistoryEntry) : Prop where
  number : entry.number = numberOf entry.hash
  parent : entry.parentHash = parentOf entry.hash

/-- A block that replaces the tip is a child of the block right below it, when that is tracked. -/
def ReplacesSibling (detector : ReorgDetector) (blockRef : BlockRef) : Prop :=
  Replaces detector blockRef → ∀ below, detector.chain.dropLast.getLast? = some below →
    blockRef.number = below.number + 1 → blockRef.parentHash = below.hash

/-- The tracked parent of an unexpected block is below the block. -/
def ParentBelow (detector : ReorgDetector) (blockRef : BlockRef) : Prop :=
  ParentMismatch detector blockRef → ∀ parent ∈ detector.chain,
    parent.hash = blockRef.parentHash → parent.number < blockRef.number

/-- The calls after which the chain is in order. -/
def KeepsOrder (detector : ReorgDetector) : DetectorCall → Prop
  | .update blockRef =>
    ReplacesSibling detector blockRef ∧ ParentBelow detector blockRef ∧ ¬ Wraps detector blockRef
  | .rollback _ => True

/-! ### One call -/

theorem perform_update (detector : ReorgDetector) (blockRef : BlockRef) :
    (DetectorCall.update blockRef).perform detector =
      outcome (updateChain .reentrant blockRef) [] detector := rfl

theorem outcome_rollbackToBlock (detector : ReorgDetector) (blockNumber : Nat) :
    outcome (rollbackToBlock .reentrant blockNumber) [] detector =
      (.ok (), detector.rollbackUntil fun tip => tip.number ≤ blockNumber) := by
  unfold rollbackToBlock
  rw [outcome_withLock_free .reentrant _ detector (by decide),
    outcome_withLock_free .reentrant _ detector (by decide),
    outcome_withLock_free .reentrant _ detector (by decide)]
  rfl

@[simp] theorem detectorStep_rollback (detector : ReorgDetector) (blockNumber : Nat) :
    detectorStep detector (.rollback blockNumber) =
      detector.rollbackUntil fun tip => tip.number ≤ blockNumber :=
  congrArg Prod.snd (outcome_rollbackToBlock detector blockNumber)

/-- A call of `update_chain` that fails has changed nothing. -/
theorem eq_of_updateStep_error {detector : ReorgDetector} {blockRef : BlockRef}
    {ended : Except (Halt String) (Option ReorgEvent) × ReorgDetector} {halt : Halt String}
    (step : UpdateStep detector blockRef ended) (failed : ended.1 = .error halt) :
    ended.2 = detector := by
  cases step with
  | kept | unknownParent => rfl
  | appended | wrapped | replaced | rejoined => cases failed

/-- Every call that fails has changed nothing. -/
theorem errorKeepsState (detector : ReorgDetector) (call : DetectorCall) :
    ErrorKeepsState detector call := by
  intro halt failed
  cases call with
  | rollback blockNumber =>
    have ended : ((DetectorCall.rollback blockNumber).perform detector).1 = .ok none :=
      congrArg (fun ended : Except (Halt String) Unit × ReorgDetector => ended.1.map fun _ => none)
        (outcome_rollbackToBlock detector blockNumber)
    rw [ended] at failed
    cases failed
  | update blockRef =>
    exact eq_of_updateStep_error (updateStep_updateChain detector blockRef) failed

theorem isChain_append_singleton {entries : List BlockHistoryEntry} {entry : BlockHistoryEntry} :
    (entries ++ [entry]).IsChain Linked ↔
      entries.IsChain Linked ∧ ∀ last, entries.getLast? = some last → Linked last entry := by
  rw [List.isChain_append]
  constructor
  · rintro ⟨first, -, joint⟩
    exact ⟨first, fun last found => joint last found entry rfl⟩
  · rintro ⟨first, joint⟩
    refine ⟨first, List.isChain_singleton entry, fun last found other head => ?_⟩
    obtain rfl : entry = other := Option.some.inj head
    exact joint last found

theorem ChainInvariant.rollback {detector : ReorgDetector} (invariant : ChainInvariant detector)
    (stop : BlockHistoryEntry → Bool) : ChainInvariant (detector.rollbackUntil stop) where
  indexed := invariant.indexed.rollbackUntil stop
  bounded := (chain_rollbackUntil_sublist detector stop).length_le.trans invariant.bounded
  linked := by
    rw [chain_rollbackUntil]
    exact List.IsChain.prefix invariant.linked (List.rdropWhile_prefix _ _)

/-- The links after a call: only the newest one can break. -/
theorem linked_of_updateStep {detector : ReorgDetector} (invariant : ChainInvariant detector)
    {blockRef : BlockRef} {ended : Except (Halt String) (Option ReorgEvent) × ReorgDetector}
    (step : UpdateStep detector blockRef ended) (fits : blockRef.number < 2 ^ 64)
    (sibling : ReplacesSibling detector blockRef) (noWrap : ¬ Wraps detector blockRef) :
    ended.2.chain.IsChain Linked := by
  cases step with
  | kept | unknownParent => exact invariant.linked
  | wrapped wraps => exact absurd wraps noWrap
  | appended above =>
    dsimp only
    rw [chain_appendBlock]
    refine (isChain_append_singleton.mpr ⟨invariant.linked, fun tip current next => ?_⟩).drop _
    have isNext : blockRef.number = tip.number + 1 := next
    exact (above tip current).2 (isNext.trans (nextNumber_eq_succ (isNext ▸ fits)).symm)
  | replaced tip current sameNumber different =>
    rw [chain_pushBack, chain_popBack]
    have below : detector.chain.dropLast.IsChain Linked :=
      List.IsChain.prefix invariant.linked (List.dropLast_prefix _)
    exact isChain_append_singleton.mpr
      ⟨below, sibling ⟨tip, current, sameNumber, different⟩⟩
  | rejoined ancestor depth mismatch found =>
    obtain ⟨member, parent⟩ := invariant.indexed.getByHash_eq_some.mp found
    obtain ⟨before, after, split, rolledBack⟩ := invariant.indexed.exists_split member
    have kept := (invariant.rollback fun tip => tip.hash = ancestor.hash).linked
    dsimp only [rejoin]
    rw [chain_appendBlock]
    refine (isChain_append_singleton.mpr ⟨kept, fun last current next => ?_⟩).drop _
    rw [rolledBack, List.getLast?_concat] at current
    obtain rfl : ancestor = last := Option.some.inj current
    exact parent.symm

/-- The hashes of the blocks of a call fix their numbers and parents. -/
def IdentifiedCall (numberOf : B256 → Fin (2 ^ 64)) (parentOf : B256 → B256)
    (call : DetectorCall) : Prop :=
  ∀ blockRef, call = .update blockRef → Identified numberOf parentOf (.ofBlockRef blockRef)

/-- The chain is in order, and the hashes of its entries fix their numbers and parents. -/
structure IdentifiedChain (numberOf : B256 → Fin (2 ^ 64)) (parentOf : B256 → B256)
    (detector : ReorgDetector) : Prop where
  invariant : ChainInvariant detector
  tracked : ∀ entry ∈ detector.chain, Identified numberOf parentOf entry

section Identified

variable {numberOf : B256 → Fin (2 ^ 64)} {parentOf : B256 → B256}

/-- A call that keeps the order keeps the invariant. -/
theorem IdentifiedChain.chainInvariant_step {detector : ReorgDetector}
    (chain : IdentifiedChain numberOf parentOf detector) {call : DetectorCall}
    (identified : IdentifiedCall numberOf parentOf call) (keeps : KeepsOrder detector call) :
    ChainInvariant (detectorStep detector call) := by
  obtain ⟨invariant, tracked⟩ := chain
  cases call with
  | rollback blockNumber =>
    rw [detectorStep_rollback]
    exact invariant.rollback _
  | update blockRef =>
    have step := updateStep_updateChain detector blockRef
    have sameNumber : ∀ entry ∈ detector.chain, entry.hash = blockRef.hash →
        entry.number = blockRef.number := by
      intro entry member sameHash
      rw [(tracked entry member).number, sameHash]
      exact (identified blockRef rfl).number.symm
    obtain ⟨sibling, below, noWrap⟩ := keeps
    have fits : blockRef.number < 2 ^ 64 :=
      (identified blockRef rfl).number.trans_lt (numberOf blockRef.hash).isLt
    exact {
      indexed := invariant.indexed.updateStep step sameNumber below noWrap
      bounded := step.length_chain_le invariant.bounded
      linked := linked_of_updateStep invariant step fits sibling noWrap }

/-- A replacement that leaves the chain in order is a sibling of what it replaces. -/
theorem replacesSibling_of_linked {detector : ReorgDetector} {blockRef : BlockRef}
    {ended : Except (Halt String) (Option ReorgEvent) × ReorgDetector}
    (step : UpdateStep detector blockRef ended) (linked : ended.2.chain.IsChain Linked) :
    ReplacesSibling detector blockRef := by
  intro replaces below found
  cases step with
  | kept steady _ _ => exact absurd replaces steady
  | appended above => exact absurd replaces above.not_replaces
  | wrapped wraps => exact absurd replaces wraps.not_replaces
  | rejoined _ _ mismatch | unknownParent _ mismatch =>
    exact absurd mismatch replaces.not_parentMismatch
  | replaced tip current sameNumber different =>
    rw [chain_pushBack, chain_popBack] at linked
    exact (isChain_append_singleton.mp linked).2 below found

/-- The last two entries of a chain that ends in them survive the pruning. -/
theorem ancestor_lt_of_ordered {detector : ReorgDetector} {before : List BlockHistoryEntry}
    {ancestor entry : BlockHistoryEntry} (kept : detector.chain = before ++ [ancestor])
    (indexed : Indexed (detector.appendBlock entry)) : ancestor.number < entry.number := by
  have ordered := indexed.ordered
  have short : detector.chain.length + 1 - maxBlockHistory ≤ before.length := by
    have length := congrArg List.length kept
    rw [List.length_append, List.length_singleton] at length
    have positive : 1 < maxBlockHistory := by decide
    omega
  rw [chain_appendBlock, kept, List.append_assoc, ← kept, List.drop_append_of_le_length short,
    List.pairwise_append] at ordered
  exact List.rel_of_pairwise_cons ordered.2.1 List.mem_cons_self

/-- A reorg that leaves the chain in order has its parent below the block. -/
theorem parentBelow_of_indexed {detector : ReorgDetector} (invariant : ChainInvariant detector)
    {blockRef : BlockRef} {ended : Except (Halt String) (Option ReorgEvent) × ReorgDetector}
    (step : UpdateStep detector blockRef ended) (indexed : Indexed ended.2) :
    ParentBelow detector blockRef := by
  intro mismatch parent member parentHash
  cases step with
  | kept steady matched _ => exact absurd mismatch matched
  | appended above => exact absurd mismatch above.not_parentMismatch
  | wrapped wraps => exact absurd mismatch wraps.not_parentMismatch
  | replaced tip current sameNumber different =>
    exact absurd mismatch
      (Replaces.not_parentMismatch ⟨tip, current, sameNumber, different⟩)
  | unknownParent _ _ missing =>
    exact absurd parentHash (invariant.indexed.getByHash_eq_none.mp missing parent member)
  | rejoined ancestor depth _ found =>
    obtain ⟨ancestorMember, ancestorHash⟩ := invariant.indexed.getByHash_eq_some.mp found
    obtain rfl : parent = ancestor :=
      invariant.indexed.eq_of_hash member ancestorMember (parentHash.trans ancestorHash.symm)
    obtain ⟨before, after, split, rolledBack⟩ := invariant.indexed.exists_split member
    dsimp only [rejoin] at indexed
    exact ancestor_lt_of_ordered rolledBack indexed

/-- A number that has wrapped does not leave the chain in order. -/
theorem not_wraps_of_indexed {detector : ReorgDetector} {blockRef : BlockRef}
    {ended : Except (Halt String) (Option ReorgEvent) × ReorgDetector}
    (step : UpdateStep detector blockRef ended) (indexed : Indexed ended.2) :
    ¬ Wraps detector blockRef := by
  intro wraps
  obtain ⟨tip, current, -, older, -⟩ := id wraps
  have kept : detector.chain = detector.chain.dropLast ++ [tip] :=
    (List.dropLast_append_getLast? tip current).symm
  cases step with
  | kept _ _ unwrapped => exact unwrapped wraps
  | appended above => exact older.asymm (above tip current).1
  | wrapped =>
    dsimp only at indexed
    exact older.asymm (ancestor_lt_of_ordered kept indexed)
  | replaced other otherCurrent sameNumber different =>
    exact wraps.not_replaces ⟨other, otherCurrent, sameNumber, different⟩
  | rejoined _ _ mismatch | unknownParent _ mismatch => exact wraps.not_parentMismatch mismatch

/-- On an identified chain the calls that keep the invariant are those that keep the order. -/
theorem IdentifiedChain.chainInvariant_step_iff {detector : ReorgDetector}
    (chain : IdentifiedChain numberOf parentOf detector) {call : DetectorCall}
    (identified : IdentifiedCall numberOf parentOf call) :
    ChainInvariant (detectorStep detector call) ↔ KeepsOrder detector call := by
  refine ⟨fun after => ?_, chain.chainInvariant_step identified⟩
  cases call with
  | rollback blockNumber => exact trivial
  | update blockRef =>
    have step := updateStep_updateChain detector blockRef
    exact ⟨replacesSibling_of_linked step after.linked,
      parentBelow_of_indexed chain.invariant step after.indexed,
      not_wraps_of_indexed step after.indexed⟩

/-- Every call tracks only blocks that were tracked or that it was given. -/
theorem IdentifiedChain.tracked_step {detector : ReorgDetector}
    (chain : IdentifiedChain numberOf parentOf detector) {call : DetectorCall}
    (identified : IdentifiedCall numberOf parentOf call) :
    ∀ entry ∈ (detectorStep detector call).chain, Identified numberOf parentOf entry := by
  obtain ⟨-, tracked⟩ := chain
  cases call with
  | rollback blockNumber =>
    rw [detectorStep_rollback]
    exact fun entry member => tracked entry ((chain_rollbackUntil_sublist detector _).mem member)
  | update blockRef =>
    exact (updateStep_updateChain detector blockRef).forall_mem_chain tracked
      (identified blockRef rfl)

end Identified

theorem chainInvariant_new : ChainInvariant .new where
  indexed := indexed_new
  bounded := Nat.zero_le _
  linked := List.isChain_nil

/-! ### Whole runs -/

/-- A run on blocks whose hash fixes their number and parent keeps the chain in order, with errors
that change nothing, exactly when each of its calls keeps the order. -/
theorem chainInvariant_iff (numberOf : B256 → Fin (2 ^ 64)) (parentOf : B256 → B256)
    (calls : List DetectorCall)
    (identified : ∀ blockRef, .update blockRef ∈ calls →
      Identified numberOf parentOf (.ofBlockRef blockRef)) :
    Always detectorStep ChainInvariant .new calls ∧
        StepsMeet detectorStep ErrorKeepsState .new calls ↔
      StepsMeet detectorStep KeepsOrder .new calls := by
  have errors : StepsMeet detectorStep ErrorKeepsState .new calls :=
    stepsMeet_of_forall errorKeepsState _ calls
  rw [and_iff_left errors, always_iff_stepsMeet, and_iff_right chainInvariant_new]
  refine stepsMeet_iff_of_inputs
    (fun detector call (chain : IdentifiedChain numberOf parentOf detector) =>
      chain.chainInvariant_step_iff)
    (fun detector call chain allowed keeps =>
      ⟨chain.chainInvariant_step allowed keeps, chain.tracked_step allowed⟩) ?_ ?_
  · exact ⟨chainInvariant_new, fun entry member => absurd member List.not_mem_nil⟩
  · rintro call member blockRef rfl
    exact identified blockRef member

/-! ### A sibling and a stranger replace the tip -/

def blockOf (number : Nat) (hash parentHash : B256) : BlockRef where
  number := number
  hash := hash
  parentHash := parentHash
  finality := .sealed

/-- Block 100, its child 101, and a second block 101 with the given parent. -/
def replacementRun (parentHash : B256) : List DetectorCall :=
  [.update (blockOf 100 1 0), .update (blockOf 101 2 1), .update (blockOf 101 3 parentHash)]

def replacementNumber (hash : B256) : Fin (2 ^ 64) :=
  if hash = 1 then 100 else 101

def replacementParent (parentHash hash : B256) : B256 :=
  if hash = 1 then 0 else if hash = 2 then 1 else parentHash

theorem identified_replacementRun (parentHash : B256) :
    ∀ blockRef, .update blockRef ∈ replacementRun parentHash →
      Identified replacementNumber (replacementParent parentHash) (.ofBlockRef blockRef) := by
  intro blockRef member
  simp only [replacementRun, List.mem_cons, DetectorCall.update.injEq, List.not_mem_nil,
    or_false] at member
  rcases member with rfl | rfl | rfl
  · exact ⟨rfl, rfl⟩
  · exact ⟨rfl, rfl⟩
  · exact ⟨rfl, rfl⟩

theorem chainInvariant_sibling :
    Always detectorStep ChainInvariant .new (replacementRun 1) ∧
      StepsMeet detectorStep ErrorKeepsState .new (replacementRun 1) := by
  refine (chainInvariant_iff replacementNumber (replacementParent 1) (replacementRun 1)
    (identified_replacementRun 1)).mpr ⟨⟨?_, ?_, ?_⟩, ⟨?_, ?_, ?_⟩, ⟨?_, ?_, ?_⟩, trivial⟩
  · rintro ⟨tip, current, -⟩
    cases current
  · rintro ⟨tip, current, -⟩
    cases current
  · rintro ⟨tip, current, -⟩
    cases current
  · rintro ⟨tip, current, sameNumber, -⟩
    cases current
    cases sameNumber
  · rintro ⟨tip, current, ⟨-, parent⟩ | ⟨-, older, -⟩⟩
    · cases current
      exact absurd rfl parent
    · cases current
      exact absurd older (by decide)
  · rintro ⟨tip, current, -, older, -⟩
    cases current
    exact absurd older (by decide)
  · rintro - below found -
    cases found
    rfl
  · rintro ⟨tip, current, ⟨next, -⟩ | ⟨-, older, -⟩⟩
    · cases current
      exact absurd next (by decide)
    · cases current
      exact absurd older (by decide)
  · rintro ⟨tip, current, -, older, -⟩
    cases current
    exact absurd older (by decide)

/-- A replacement with an unrelated parent leaves neighbours that are not linked. -/
theorem not_chainInvariant_stranger :
    (∀ blockRef, .update blockRef ∈ replacementRun 9 →
      Identified replacementNumber (replacementParent 9) (.ofBlockRef blockRef)) ∧
    ¬ (Always detectorStep ChainInvariant .new (replacementRun 9) ∧
      StepsMeet detectorStep ErrorKeepsState .new (replacementRun 9)) := by
  refine ⟨identified_replacementRun 9, fun ⟨always, _⟩ => ?_⟩
  have linked := always.last.linked
  have chain : (runFrom detectorStep .new (replacementRun 9)).chain =
      [.ofBlockRef (blockOf 100 1 0), .ofBlockRef (blockOf 101 3 9)] := rfl
  rw [chain, List.isChain_pair] at linked
  exact absurd (linked rfl) (by decide)

end DexArbitrage
