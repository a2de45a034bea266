/-
This file says once what a call of the reorg detector does when its mutexes
are taken as reentrant. `UpdateStep` lists the six ways in which
`update_chain` ends, each with the condition under which it is taken and the
detector it leaves.

The invariant behind the later files is `Indexed`: the numbers of the tracked
chain increase, and both maps are exactly its inverse indexes. It says that an
entry removed at either end of the chain is forgotten by both maps and by
nothing else, and that an entry above the tip with a fresh hash may be pushed.
-/

import DexArbitrage.Lib.Run
import DexArbitrage.Lib.HashMap
import DexArbitrage.Reorg.LockDiscipline
import Mathlib.Data.List.DropRight
import Mathlib.Data.List.Chain
import Mathlib.Order.Basic

namespace DexArbitrage

namespace ReorgDetector

/-! ### What one call does -/

/-- The block has the height of the tip and another hash. -/
def Replaces (detector : ReorgDetector) (blockRef : BlockRef) : Prop :=
  ∃ tip, detector.currentTip = some tip ∧ blockRef.number = tip.number ∧ blockRef.hash ≠ tip.hash

/-- The block can be put on top of the tracked chain. -/
def Extends (detector : ReorgDetector) (blockRef : BlockRef) : Prop :=
  ∀ tip, detector.currentTip = some tip → tip.number < blockRef.number ∧
    (blockRef.number = nextNumber tip.number → blockRef.parentHash = tip.hash)

/-- The block is a child of the tip whose number has wrapped. -/
def Wraps (detector : ReorgDetector) (blockRef : BlockRef) : Prop :=
  ∃ tip, detector.currentTip = some tip ∧ blockRef.number = nextNumber tip.number ∧
    blockRef.number < tip.number ∧ blockRef.parentHash = tip.hash

/-- The detector after a reorg to a known ancestor. -/
def rejoin (detector : ReorgDetector) (ancestor entry : BlockHistoryEntry) : ReorgDetector :=
  (detector.rollbackUntil fun tip => tip.hash = ancestor.hash).appendBlock entry

/-- How `update_chain` ends on a block, and the detector it leaves. -/
inductive UpdateStep (detector : ReorgDetector) (blockRef : BlockRef) :
    Except (Halt String) (Option ReorgEvent) × ReorgDetector → Prop
  | kept (steady : ¬ Replaces detector blockRef) (matched : ¬ ParentMismatch detector blockRef)
      (unwrapped : ¬ Wraps detector blockRef) : UpdateStep detector blockRef (.ok none, detector)
  | appended (above : Extends detector blockRef) :
      UpdateStep detector blockRef (.ok none, detector.appendBlock (.ofBlockRef blockRef))
  | wrapped (wraps : Wraps detector blockRef) :
      UpdateStep detector blockRef (.ok none, detector.appendBlock (.ofBlockRef blockRef))
  | replaced (tip : BlockHistoryEntry) (current : detector.currentTip = some tip)
      (sameNumber : blockRef.number = tip.number) (different : blockRef.hash ≠ tip.hash) :
      UpdateStep detector blockRef
        (.ok (some (.rollback tip.number tip.number)),
          detector.popBack.pushBack (.ofBlockRef blockRef))
  | rejoined (ancestor : BlockHistoryEntry) (depth : Nat)
      (mismatch : ParentMismatch detector blockRef)
      (found : detector.getByHash blockRef.parentHash = some ancestor) :
      UpdateStep detector blockRef
        (.ok (some (.detected ancestor.number blockRef.number depth)),
          detector.rejoin ancestor (.ofBlockRef blockRef))
  | unknownParent (reason : String) (mismatch : ParentMismatch detector blockRef)
      (missing : detector.getByHash blockRef.parentHash = none) :
      UpdateStep detector blockRef (.error (.failed reason), detector)

theorem Extends.not_replaces {detector : ReorgDetector} {blockRef : BlockRef}
    (above : Extends detector blockRef) : ¬ Replaces detector blockRef := by
  rintro ⟨tip, current, sameNumber, -⟩
  exact (above tip current).1.ne sameNumber.symm

theorem Extends.not_parentMismatch {detector : ReorgDetector} {blockRef : BlockRef}
    (above : Extends detector blockRef) : ¬ ParentMismatch detector blockRef := by
  rintro ⟨tip, current, ⟨next, parent⟩ | ⟨-, older, -⟩⟩
  · exact parent ((above tip current).2 next)
  · exact (above tip current).1.asymm older

section CurrentTip

variable {detector : ReorgDetector} {blockRef : BlockRef} {tip : BlockHistoryEntry}

theorem replaces_iff (current : detector.currentTip = some tip) :
    Replaces detector blockRef ↔ blockRef.number = tip.number ∧ blockRef.hash ≠ tip.hash := by
  simp only [Replaces, current, Option.some.injEq, exists_eq_left']

theorem extends_iff (current : detector.currentTip = some tip) :
    Extends detector blockRef ↔ tip.number < blockRef.number ∧
      (blockRef.number = nextNumber tip.number → blockRef.parentHash = tip.hash) := by
  simp only [Extends, current, Option.some.injEq, forall_eq']

theorem wraps_iff (current : detector.currentTip = some tip) :
    Wraps detector blockRef ↔ blockRef.number = nextNumber tip.number ∧
      blockRef.number < tip.number ∧ blockRef.parentHash = tip.hash := by
  simp only [Wraps, current, Option.some.injEq, exists_eq_left']

theorem Wraps.not_replaces (wraps : Wraps detector blockRef) : ¬ Replaces detector blockRef := by
  obtain ⟨tip, current, -, older, -⟩ := wraps
  rw [replaces_iff current]
  exact fun replaces => older.ne replaces.1

theorem Wraps.not_parentMismatch (wraps : Wraps detector blockRef) :
    ¬ ParentMismatch detector blockRef := by
  rintro ⟨tip, current, mismatch⟩
  obtain ⟨next, -, linked⟩ := (wraps_iff current).mp wraps
  rcases mismatch with ⟨-, parent⟩ | ⟨notNext, -⟩
  · exact parent linked
  · exact notNext next

theorem Replaces.not_parentMismatch (replaces : Replaces detector blockRef) :
    ¬ ParentMismatch detector blockRef := by
  rintro ⟨tip, current, mismatch⟩
  have sameNumber := ((replaces_iff current).mp replaces).1
  rcases mismatch with ⟨next, -⟩ | ⟨-, older, -⟩
  · exact nextNumber_ne tip.number (next.symm.trans sameNumber)
  · exact older.ne sameNumber

end CurrentTip

/-- The search for a common ancestor is a lookup by hash that fails with a reason. -/
theorem outcome_findCommonAncestor_reentrant (targetHash : B256) (detector : ReorgDetector) :
    (∃ ancestor, detector.getByHash targetHash = some ancestor ∧
        outcome (findCommonAncestor .reentrant targetHash) heldInUpdate detector =
          (.ok ancestor, detector)) ∨
      detector.getByHash targetHash = none ∧ ∃ reason,
        outcome (findCommonAncestor .reentrant targetHash) heldInUpdate detector =
          (.error (.failed reason), detector) := by
  unfold findCommonAncestor getByHash
  rw [outcome_withLock_reentrant _ detector (by decide),
    outcome_withLock_reentrant _ detector (by decide),
    outcome_bind_ok (outcome_get heldInUpdate detector)]
  cases byHash : detector.blockByHash.lookup targetHash with
  | none => exact Or.inr ⟨rfl, _, rfl⟩
  | some number =>
    cases byNumber : detector.blockByNumber.lookup number with
    | none =>
      simp only [Option.bind_some, byNumber]
      exact Or.inr ⟨trivial, _, rfl⟩
    | some ancestor =>
      simp only [Option.bind_some, byNumber]
      exact Or.inl ⟨ancestor, rfl, rfl⟩

/-- On a parent mismatch the call rolls back to the parent, or fails when it is not tracked. -/
theorem updateStep_of_parentMismatch {detector : ReorgDetector} {blockRef : BlockRef}
    (mismatch : ParentMismatch detector blockRef) :
    UpdateStep detector blockRef
      (outcome (handleParentMismatch .reentrant (.ofBlockRef blockRef)) heldInUpdate detector) := by
  rcases outcome_findCommonAncestor_reentrant blockRef.parentHash detector with
    ⟨ancestor, found, ended⟩ | ⟨missing, reason, ended⟩
  · have first : outcome (findCommonAncestor .reentrant
        (BlockHistoryEntry.ofBlockRef blockRef).parentHash) heldInUpdate detector =
          (.ok ancestor, detector) := ended
    unfold handleParentMismatch
    rw [outcome_bind_ok first]
    exact .rejoined ancestor _ mismatch found
  · have first : outcome (findCommonAncestor .reentrant
        (BlockHistoryEntry.ofBlockRef blockRef).parentHash) heldInUpdate detector =
          (.error (.failed reason), detector) := ended
    unfold handleParentMismatch
    rw [outcome_bind_error first]
    exact .unknownParent reason mismatch missing

/-- The handler of an older block finds no other block of its number, or there is a mismatch. -/
theorem updateStep_of_older {discipline : LockDiscipline} {detector : ReorgDetector}
    {blockRef : BlockRef} {tip : BlockHistoryEntry} (current : detector.currentTip = some tip)
    (notNext : blockRef.number ≠ nextNumber tip.number) (older : blockRef.number < tip.number)
    (matched : ¬ ParentMismatch detector blockRef) :
    UpdateStep detector blockRef
      (outcome (handleReorgWithOlderBlock discipline (.ofBlockRef blockRef)) heldInUpdate
        detector) := by
  have kept : UpdateStep detector blockRef (.ok none, detector) := by
    refine .kept ?_ matched ?_
    · rw [replaces_iff current]
      exact fun replaces => older.ne replaces.1
    · rw [wraps_iff current]
      exact fun wraps => notNext wraps.1
  unfold handleReorgWithOlderBlock
  rw [outcome_bind_ok (outcome_get heldInUpdate detector)]
  cases stored : detector.blockByNumber.lookup (BlockHistoryEntry.ofBlockRef blockRef).number with
  | none => exact kept
  | some existing =>
    simp only
    split
    · rename_i different
      exact absurd ⟨tip, current, Or.inr ⟨notNext, older, existing, stored, different⟩⟩ matched
    · exact kept

/-- Without a parent mismatch it does not matter whether the mutexes are reentrant. -/
theorem updateStep_of_matched (discipline : LockDiscipline) {detector : ReorgDetector}
    {blockRef : BlockRef} (matched : ¬ ParentMismatch detector blockRef) :
    UpdateStep detector blockRef (outcome (updateChain discipline blockRef) [] detector) := by
  rw [outcome_updateChain]
  unfold updateLocked
  rw [outcome_bind_ok (outcome_get heldInUpdate detector)]
  cases current : detector.currentTip with
  | none =>
    refine .appended fun tip some => ?_
    rw [current] at some
    cases some
  | some tip =>
    simp only
    split
    · rename_i sameNumber
      split
      · rename_i different
        unfold handleReorgAtSameHeight
        rw [outcome_bind_ok (outcome_get heldInUpdate detector), current]
        exact .replaced tip current sameNumber different
      · rename_i sameHash
        refine .kept ?_ matched ?_
        · rw [replaces_iff current]
          exact fun replaces => sameHash replaces.2
        · rw [wraps_iff current]
          exact fun wraps => wraps.2.1.ne sameNumber
    · rename_i notSame
      split
      · rename_i next
        split
        · rename_i parent
          exact absurd ⟨tip, current, Or.inl ⟨next, parent⟩⟩ matched
        · rename_i parent
          have linked : blockRef.parentHash = tip.hash := not_ne_iff.mp parent
          rcases Nat.lt_or_gt_of_ne notSame with older | above
          · exact .wrapped ((wraps_iff current).mpr ⟨next, older, linked⟩)
          · exact .appended ((extends_iff current).mpr ⟨above, fun _ => linked⟩)
      · rename_i notNext
        split
        · rename_i above
          exact .appended ((extends_iff current).mpr ⟨above, fun next => absurd next notNext⟩)
        · rename_i notAbove
          have older : blockRef.number < tip.number :=
            Nat.lt_of_le_of_ne (Nat.not_lt.mp notAbove) notSame
          exact updateStep_of_older current notNext older matched

theorem updateStep_updateChain (detector : ReorgDetector) (blockRef : BlockRef) :
    UpdateStep detector blockRef (outcome (updateChain .reentrant blockRef) [] detector) := by
  by_cases mismatch : ParentMismatch detector blockRef
  · rw [outcome_updateChain, outcome_updateLocked_mismatch .reentrant heldInUpdate mismatch]
    exact updateStep_of_parentMismatch mismatch
  · exact updateStep_of_matched .reentrant mismatch

/-- A call of `update_chain` blocks on itself, or it ends as if its mutexes were reentrant. -/
theorem blocked_or_updateStep (discipline : LockDiscipline) (detector : ReorgDetector)
    (blockRef : BlockRef) :
    discipline = .nonReentrant ∧ ParentMismatch detector blockRef ∧
        outcome (updateChain discipline blockRef) [] detector = (.error .blocked, detector) ∨
      (ParentMismatch detector blockRef → discipline = .reentrant) ∧
        UpdateStep detector blockRef (outcome (updateChain discipline blockRef) [] detector) := by
  by_cases mismatch : ParentMismatch detector blockRef
  · cases discipline with
    | nonReentrant => exact Or.inl ⟨rfl, mismatch, outcome_updateChain_blocked mismatch⟩
    | reentrant => exact Or.inr ⟨fun _ => rfl, updateStep_updateChain detector blockRef⟩
  · exact Or.inr ⟨fun absurdly => absurd absurdly mismatch,
      updateStep_of_matched discipline mismatch⟩

/-! ### The chain under the edits of the detector -/

@[simp] theorem chain_pushBack (detector : ReorgDetector) (entry : BlockHistoryEntry) :
    (detector.pushBack entry).chain = detector.chain ++ [entry] := rfl

@[simp] theorem chain_popBack (detector : ReorgDetector) :
    detector.popBack.chain = detector.chain.dropLast := by
  unfold popBack
  cases current : detector.chain.getLast? with
  | none => rw [List.getLast?_eq_none_iff.mp current, List.dropLast_nil]
  | some old => rfl

@[simp] theorem chain_popFront (detector : ReorgDetector) :
    detector.popFront.chain = detector.chain.tail := by
  unfold popFront
  cases stored : detector.chain with
  | nil => exact stored
  | cons old rest => rfl

theorem chain_prune (excess : Nat) (detector : ReorgDetector) :
    (prune excess detector).chain = detector.chain.drop excess := by
  induction excess generalizing detector with
  | zero => rfl
  | succ excess inductionHypothesis =>
    rw [prune, inductionHypothesis, chain_popFront, List.drop_tail]

theorem chain_appendBlock (detector : ReorgDetector) (entry : BlockHistoryEntry) :
    (detector.appendBlock entry).chain =
      (detector.chain ++ [entry]).drop (detector.chain.length + 1 - maxBlockHistory) := by
  unfold appendBlock
  rw [chain_prune, chain_pushBack]

theorem chain_popUntil (stop : BlockHistoryEntry → Bool) (tips : List BlockHistoryEntry)
    (detector : ReorgDetector) (reversed : detector.chain.reverse = tips) :
    (popUntil stop tips detector).chain = (tips.dropWhile fun tip => !stop tip).reverse := by
  induction tips generalizing detector with
  | nil => rw [popUntil, List.reverse_eq_nil_iff.mp reversed]; rfl
  | cons tip rest inductionHypothesis =>
    rw [popUntil, List.dropWhile_cons]
    cases stops : stop tip with
    | true =>
      simp only [Bool.not_true, if_true, Bool.false_eq_true, if_false]
      rw [← reversed, List.reverse_reverse]
    | false =>
      simp only [Bool.not_false, if_true, Bool.false_eq_true, if_false]
      refine inductionHypothesis detector.popBack ?_
      rw [chain_popBack, ← List.tail_reverse, reversed, List.tail_cons]

theorem chain_rollbackUntil (detector : ReorgDetector) (stop : BlockHistoryEntry → Bool) :
    (detector.rollbackUntil stop).chain = detector.chain.rdropWhile fun tip => !stop tip :=
  chain_popUntil stop _ detector rfl

/-- A rollback ends at the last entry that satisfies the test. -/
theorem chain_rollbackUntil_of_split {detector : ReorgDetector} {stop : BlockHistoryEntry → Bool}
    {before after : List BlockHistoryEntry} {tip : BlockHistoryEntry}
    (split : detector.chain = before ++ tip :: after) (stops : stop tip = true)
    (passes : ∀ entry ∈ after, stop entry = false) :
    (detector.rollbackUntil stop).chain = before ++ [tip] := by
  rw [chain_rollbackUntil, split, List.rdropWhile, List.reverse_append, List.reverse_cons,
    List.append_assoc, List.dropWhile_append_of_pos, List.singleton_append, List.dropWhile_cons]
  · simp [stops]
  · intro entry member
    simp [passes entry (List.mem_reverse.mp member)]

/-! ### The chain and its indexes -/

/-- The numbers of the tracked chain increase, and both maps are its inverse indexes. -/
structure Indexed (detector : ReorgDetector) : Prop where
  ordered : detector.chain.Pairwise fun earlier later => earlier.number < later.number
  byNumber : ∀ number entry, detector.blockByNumber.lookup number = some entry ↔
    entry ∈ detector.chain ∧ entry.number = number
  byHash : ∀ hash number, detector.blockByHash.lookup hash = some number ↔
    ∃ entry ∈ detector.chain, entry.hash = hash ∧ entry.number = number

theorem indexed_new : Indexed new where
  ordered := List.Pairwise.nil
  byNumber number entry := by simp [new]
  byHash hash number := by simp [new]

section Indexed

variable {detector : ReorgDetector}

theorem Indexed.eq_of_number (indexed : Indexed detector) {first second : BlockHistoryEntry}
    (firstMember : first ∈ detector.chain) (secondMember : second ∈ detector.chain)
    (sameNumber : first.number = second.number) : first = second := by
  have firstStored := (indexed.byNumber second.number first).mpr ⟨firstMember, sameNumber⟩
  have secondStored := (indexed.byNumber second.number second).mpr ⟨secondMember, rfl⟩
  exact Option.some.inj (firstStored.symm.trans secondStored)

theorem Indexed.eq_of_hash (indexed : Indexed detector) {first second : BlockHistoryEntry}
    (firstMember : first ∈ detector.chain) (secondMember : second ∈ detector.chain)
    (sameHash : first.hash = second.hash) : first = second := by
  have firstStored := (indexed.byHash second.hash first.number).mpr
    ⟨first, firstMember, sameHash, rfl⟩
  have secondStored := (indexed.byHash second.hash second.number).mpr
    ⟨second, secondMember, rfl, rfl⟩
  exact indexed.eq_of_number firstMember secondMember
    (Option.some.inj (firstStored.symm.trans secondStored))

/-- A lookup by hash finds exactly the tracked entries. -/
theorem Indexed.getByHash_eq_some (indexed : Indexed detector) {hash : B256}
    {entry : BlockHistoryEntry} :
    detector.getByHash hash = some entry ↔ entry ∈ detector.chain ∧ entry.hash = hash := by
  unfold getByHash
  rw [Option.bind_eq_some_iff]
  constructor
  · rintro ⟨number, hashed, stored⟩
    obtain ⟨member, sameNumber⟩ := (indexed.byNumber number entry).mp stored
    obtain ⟨other, otherMember, otherHash, otherNumber⟩ := (indexed.byHash hash number).mp hashed
    have same : entry = other :=
      indexed.eq_of_number member otherMember (sameNumber.trans otherNumber.symm)
    exact ⟨member, same ▸ otherHash⟩
  · rintro ⟨member, sameHash⟩
    exact ⟨entry.number, (indexed.byHash hash entry.number).mpr ⟨entry, member, sameHash, rfl⟩,
      (indexed.byNumber entry.number entry).mpr ⟨member, rfl⟩⟩

theorem Indexed.getByHash_eq_none (indexed : Indexed detector) {hash : B256} :
    detector.getByHash hash = none ↔ ∀ entry ∈ detector.chain, entry.hash ≠ hash := by
  constructor
  · intro missing entry member sameHash
    rw [indexed.getByHash_eq_some.mpr ⟨member, sameHash⟩] at missing
    cases missing
  · intro untracked
    cases found : detector.getByHash hash with
    | none => rfl
    | some entry =>
      obtain ⟨member, sameHash⟩ := indexed.getByHash_eq_some.mp found
      exact absurd sameHash (untracked entry member)

/-- An entry taken out of the chain and out of both maps leaves both maps inverse indexes. -/
theorem Indexed.remove (indexed : Indexed detector) {kept : List BlockHistoryEntry}
    {old : BlockHistoryEntry} (ordered : kept.Sublist detector.chain)
    (mem : ∀ entry, entry ∈ detector.chain ↔ entry = old ∨ entry ∈ kept) (gone : old ∉ kept) :
    Indexed ({ detector with chain := kept }.forget old) where
  ordered := indexed.ordered.sublist ordered
  byNumber number entry := by
    show AList.lookup number (detector.blockByNumber.erase old.number) = some entry ↔
      entry ∈ kept ∧ _
    have oldMember : old ∈ detector.chain := (mem old).mpr (Or.inl rfl)
    rw [HashMap.lookup_erase]
    split
    · rename_i same
      refine iff_of_false (by simp) ?_
      rintro ⟨member, sameNumber⟩
      have equal : entry = old := indexed.eq_of_number ((mem entry).mpr (Or.inr member)) oldMember
        (sameNumber.trans same)
      exact gone (equal ▸ member)
    · rename_i different
      rw [indexed.byNumber, mem]
      constructor
      · rintro ⟨rfl | member, sameNumber⟩
        · exact absurd sameNumber.symm different
        · exact ⟨member, sameNumber⟩
      · rintro ⟨member, sameNumber⟩
        exact ⟨Or.inr member, sameNumber⟩
  byHash hash number := by
    show AList.lookup hash (detector.blockByHash.erase old.hash) = some number ↔ ∃ entry ∈ kept, _
    have oldMember : old ∈ detector.chain := (mem old).mpr (Or.inl rfl)
    rw [HashMap.lookup_erase]
    split
    · rename_i same
      refine iff_of_false (by simp) ?_
      rintro ⟨entry, member, sameHash, -⟩
      have equal : entry = old := indexed.eq_of_hash ((mem entry).mpr (Or.inr member)) oldMember
        (sameHash.trans same)
      exact gone (equal ▸ member)
    · rename_i different
      rw [indexed.byHash]
      constructor
      · rintro ⟨entry, member, sameHash, sameNumber⟩
        rcases (mem entry).mp member with rfl | member
        · exact absurd sameHash.symm different
        · exact ⟨entry, member, sameHash, sameNumber⟩
      · rintro ⟨entry, member, sameHash, sameNumber⟩
        exact ⟨entry, (mem entry).mpr (Or.inr member), sameHash, sameNumber⟩

theorem Indexed.nodup (indexed : Indexed detector) : detector.chain.Nodup :=
  indexed.ordered.imp fun lower same => lower.ne (congrArg BlockHistoryEntry.number same)

theorem Indexed.popBack (indexed : Indexed detector) : Indexed detector.popBack := by
  unfold ReorgDetector.popBack
  cases current : detector.chain.getLast? with
  | none => exact indexed
  | some old =>
    have split : detector.chain.dropLast ++ [old] = detector.chain :=
      List.dropLast_append_getLast? old current
    have nodup : (detector.chain.dropLast ++ [old]).Nodup := split.symm ▸ indexed.nodup
    refine indexed.remove (List.dropLast_sublist _) (fun entry => ?_) ?_
    · rw [← split, List.mem_append, List.mem_singleton, List.dropLast_concat, or_comm]
    · exact fun member => List.disjoint_of_nodup_append nodup member List.mem_cons_self

theorem Indexed.popFront (indexed : Indexed detector) : Indexed detector.popFront := by
  unfold ReorgDetector.popFront
  have nodup := indexed.nodup
  cases stored : detector.chain with
  | nil => exact indexed
  | cons old rest =>
    rw [stored] at nodup
    refine indexed.remove (stored ▸ List.sublist_cons_self old rest) (fun entry => ?_) ?_
    · rw [stored, List.mem_cons]
    · exact (List.nodup_cons.mp nodup).1

theorem Indexed.prune (indexed : Indexed detector) (excess : Nat) :
    Indexed (prune excess detector) := by
  induction excess generalizing detector with
  | zero => exact indexed
  | succ excess inductionHypothesis => exact inductionHypothesis indexed.popFront

theorem Indexed.popUntil (indexed : Indexed detector) (stop : BlockHistoryEntry → Bool)
    (tips : List BlockHistoryEntry) : Indexed (popUntil stop tips detector) := by
  induction tips generalizing detector with
  | nil => exact indexed
  | cons tip rest inductionHypothesis =>
    rw [ReorgDetector.popUntil]
    split
    · exact indexed
    · exact inductionHypothesis indexed.popBack

theorem Indexed.rollbackUntil (indexed : Indexed detector) (stop : BlockHistoryEntry → Bool) :
    Indexed (detector.rollbackUntil stop) :=
  indexed.popUntil stop _

/-- An entry above all others with a fresh hash may be pushed. -/
theorem Indexed.pushBack (indexed : Indexed detector) {entry : BlockHistoryEntry}
    (above : ∀ earlier ∈ detector.chain, earlier.number < entry.number)
    (fresh : ∀ earlier ∈ detector.chain, earlier.hash ≠ entry.hash) :
    Indexed (detector.pushBack entry) where
  ordered := by
    rw [chain_pushBack, List.pairwise_append]
    refine ⟨indexed.ordered, List.pairwise_singleton _ _, fun earlier member later last => ?_⟩
    rw [List.mem_singleton.mp last]
    exact above earlier member
  byNumber number stored := by
    show AList.lookup number (detector.blockByNumber.insert entry.number entry) = some stored ↔
      stored ∈ detector.chain ++ [entry] ∧ _
    rw [HashMap.lookup_insert, List.mem_append, List.mem_singleton]
    split
    · rename_i same
      rw [Option.some.injEq]
      constructor
      · rintro rfl
        exact ⟨Or.inr rfl, same.symm⟩
      · rintro ⟨member | last, sameNumber⟩
        · exact absurd (sameNumber.trans same) (above stored member).ne
        · exact last.symm
    · rename_i different
      rw [indexed.byNumber]
      constructor
      · rintro ⟨member, sameNumber⟩
        exact ⟨Or.inl member, sameNumber⟩
      · rintro ⟨member | rfl, sameNumber⟩
        · exact ⟨member, sameNumber⟩
        · exact absurd sameNumber.symm different
  byHash hash number := by
    show AList.lookup hash (detector.blockByHash.insert entry.hash entry.number) = some number ↔
      ∃ stored ∈ detector.chain ++ [entry], _
    rw [HashMap.lookup_insert]
    split
    · rename_i same
      rw [Option.some.injEq]
      constructor
      · intro sameNumber
        exact ⟨entry, List.mem_append_right _ List.mem_cons_self, same.symm, sameNumber⟩
      · rintro ⟨stored, member, sameHash, sameNumber⟩
        rcases List.mem_append.mp member with earlier | last
        · exact absurd (sameHash.trans same) (fresh stored earlier)
        · exact List.mem_singleton.mp last ▸ sameNumber
    · rename_i different
      rw [indexed.byHash]
      constructor
      · rintro ⟨stored, member, found⟩
        exact ⟨stored, List.mem_append_left _ member, found⟩
      · rintro ⟨stored, member, sameHash, sameNumber⟩
        rcases List.mem_append.mp member with earlier | last
        · exact ⟨stored, earlier, sameHash, sameNumber⟩
        · rw [List.mem_singleton.mp last] at sameHash
          exact absurd sameHash.symm different

theorem Indexed.appendBlock (indexed : Indexed detector) {entry : BlockHistoryEntry}
    (above : ∀ earlier ∈ detector.chain, earlier.number < entry.number)
    (fresh : ∀ earlier ∈ detector.chain, earlier.hash ≠ entry.hash) :
    Indexed (detector.appendBlock entry) :=
  (indexed.pushBack above fresh).prune _

end Indexed

/-! ### What a call keeps -/

theorem chain_rollbackUntil_sublist (detector : ReorgDetector) (stop : BlockHistoryEntry → Bool) :
    (detector.rollbackUntil stop).chain.Sublist detector.chain := by
  rw [chain_rollbackUntil]
  exact (List.rdropWhile_prefix _ _).sublist

/-- The entries tracked after a call were tracked before it, or are its block. -/
theorem UpdateStep.mem_chain {detector : ReorgDetector} {blockRef : BlockRef}
    {ended : Except (Halt String) (Option ReorgEvent) × ReorgDetector}
    (step : UpdateStep detector blockRef ended) {entry : BlockHistoryEntry}
    (member : entry ∈ ended.2.chain) :
    entry ∈ detector.chain ∨ entry = .ofBlockRef blockRef := by
  cases step with
  | kept | unknownParent => exact Or.inl member
  | appended | wrapped =>
    rw [chain_appendBlock] at member
    exact (List.mem_append.mp (List.mem_of_mem_drop member)).imp_right List.mem_singleton.mp
  | replaced =>
    rw [chain_pushBack, chain_popBack] at member
    exact (List.mem_append.mp member).imp (@List.dropLast_subset _ _ _) List.mem_singleton.mp
  | rejoined ancestor =>
    rw [rejoin, chain_appendBlock] at member
    exact (List.mem_append.mp (List.mem_of_mem_drop member)).imp
      (chain_rollbackUntil_sublist detector _).mem List.mem_singleton.mp

theorem UpdateStep.forall_mem_chain {holds : BlockHistoryEntry → Prop} {detector : ReorgDetector}
    {blockRef : BlockRef} {ended : Except (Halt String) (Option ReorgEvent) × ReorgDetector}
    (step : UpdateStep detector blockRef ended) (tracked : ∀ entry ∈ detector.chain, holds entry)
    (observed : holds (.ofBlockRef blockRef)) : ∀ entry ∈ ended.2.chain, holds entry := by
  intro entry member
  rcases step.mem_chain member with earlier | rfl
  · exact tracked entry earlier
  · exact observed

theorem length_appendBlock_le (detector : ReorgDetector) (entry : BlockHistoryEntry) :
    (detector.appendBlock entry).chain.length ≤ maxBlockHistory := by
  rw [chain_appendBlock, List.length_drop, List.length_append, List.length_singleton]
  omega

theorem UpdateStep.length_chain_le {detector : ReorgDetector} {blockRef : BlockRef}
    {ended : Except (Halt String) (Option ReorgEvent) × ReorgDetector}
    (step : UpdateStep detector blockRef ended)
    (bounded : detector.chain.length ≤ maxBlockHistory) :
    ended.2.chain.length ≤ maxBlockHistory := by
  cases step with
  | kept | unknownParent => exact bounded
  | appended | wrapped =>
    dsimp only
    exact length_appendBlock_le detector _
  | replaced tip current =>
    have nonempty : 0 < detector.chain.length :=
      List.length_pos_of_mem (List.mem_of_getLast? current)
    rw [chain_pushBack, chain_popBack, List.length_append, List.length_dropLast,
      List.length_singleton]
    omega
  | rejoined =>
    dsimp only [rejoin]
    exact length_appendBlock_le _ _

section Indexed

variable {detector : ReorgDetector}

/-- No tracked entry is above the tip. -/
theorem Indexed.le_tip (indexed : Indexed detector) {tip entry : BlockHistoryEntry}
    (current : detector.currentTip = some tip) (member : entry ∈ detector.chain) :
    entry = tip ∨ entry ∈ detector.chain.dropLast ∧ entry.number < tip.number := by
  have split : detector.chain.dropLast ++ [tip] = detector.chain :=
    List.dropLast_append_getLast? tip current
  have ordered := indexed.ordered
  rw [← split, List.pairwise_append] at ordered
  rw [← split] at member
  rcases List.mem_append.mp member with earlier | last
  · exact Or.inr ⟨earlier, ordered.2.2 entry earlier tip List.mem_cons_self⟩
  · exact Or.inl (List.mem_singleton.mp last)

/-- The rollback to a tracked entry keeps the chain up to that entry. -/
theorem Indexed.exists_split (indexed : Indexed detector) {ancestor : BlockHistoryEntry}
    (member : ancestor ∈ detector.chain) :
    ∃ before after, detector.chain = before ++ ancestor :: after ∧
      (detector.rollbackUntil fun tip => tip.hash = ancestor.hash).chain =
        before ++ [ancestor] := by
  obtain ⟨before, after, split⟩ := List.append_of_mem member
  refine ⟨before, after, split, chain_rollbackUntil_of_split split (by simp) ?_⟩
  intro entry later
  refine decide_eq_false fun sameHash => ?_
  have nodup := indexed.nodup
  have laterMember : entry ∈ detector.chain := by
    rw [split]
    exact List.mem_append_right _ (List.mem_cons_of_mem _ later)
  rw [split, List.nodup_append, List.nodup_cons] at nodup
  exact nodup.2.1.1 (indexed.eq_of_hash laterMember member sameHash ▸ later)

/-- Every entry that a rollback keeps is at most the entry where it ends. -/
theorem Indexed.le_ancestor (indexed : Indexed detector) {ancestor entry : BlockHistoryEntry}
    {before after : List BlockHistoryEntry} (split : detector.chain = before ++ ancestor :: after)
    (member : entry ∈ before ++ [ancestor]) : entry.number ≤ ancestor.number := by
  have ordered := indexed.ordered
  rw [split, List.pairwise_append] at ordered
  rcases List.mem_append.mp member with earlier | last
  · exact (ordered.2.2 entry earlier ancestor List.mem_cons_self).le
  · rw [List.mem_singleton.mp last]

/-- A call keeps the indexes when its block's number has not wrapped, its hash is known only under
its own number and a tracked parent of an unexpected block is below the block. -/
theorem Indexed.updateStep (indexed : Indexed detector) {blockRef : BlockRef}
    {ended : Except (Halt String) (Option ReorgEvent) × ReorgDetector}
    (step : UpdateStep detector blockRef ended)
    (identified : ∀ entry ∈ detector.chain, entry.hash = blockRef.hash →
      entry.number = blockRef.number)
    (lower : ParentMismatch detector blockRef → ∀ entry ∈ detector.chain,
      entry.hash = blockRef.parentHash → entry.number < blockRef.number)
    (noWrap : ¬ Wraps detector blockRef) : Indexed ended.2 := by
  cases step with
  | kept | unknownParent => exact indexed
  | wrapped wraps => exact absurd wraps noWrap
  | appended above =>
    have below : ∀ earlier ∈ detector.chain, earlier.number < blockRef.number := by
      intro earlier member
      cases current : detector.currentTip with
      | none => exact absurd (List.getLast?_eq_none_iff.mp current) (List.ne_nil_of_mem member)
      | some tip =>
        have aboveTip := (above tip current).1
        rcases indexed.le_tip current member with rfl | ⟨-, lower⟩
        · exact aboveTip
        · exact lower.trans aboveTip
    dsimp only
    refine indexed.appendBlock below fun earlier member sameHash => ?_
    exact (below earlier member).ne (identified earlier member sameHash)
  | replaced tip current sameNumber different =>
    have below : ∀ earlier ∈ detector.popBack.chain, earlier.number < blockRef.number := by
      rw [chain_popBack, sameNumber]
      intro earlier member
      have split : detector.chain.dropLast ++ [tip] = detector.chain :=
        List.dropLast_append_getLast? tip current
      have ordered := indexed.ordered
      rw [← split, List.pairwise_append] at ordered
      exact ordered.2.2 earlier member tip List.mem_cons_self
    refine indexed.popBack.pushBack below fun earlier member sameHash => ?_
    have tracked : earlier ∈ detector.chain := by
      rw [chain_popBack] at member
      exact List.dropLast_subset _ member
    exact (below earlier member).ne (identified earlier tracked sameHash)
  | rejoined ancestor depth mismatch found =>
    obtain ⟨ancestorMember, parent⟩ := indexed.getByHash_eq_some.mp found
    obtain ⟨before, after, split, rolledBack⟩ := indexed.exists_split ancestorMember
    have below : ∀ earlier ∈ before ++ [ancestor], earlier.number < blockRef.number :=
      fun earlier member => (indexed.le_ancestor split member).trans_lt
        (lower mismatch ancestor ancestorMember parent)
    dsimp only [rejoin]
    refine (indexed.rollbackUntil _).appendBlock (rolledBack ▸ below)
      fun earlier member sameHash => ?_
    have tracked := (chain_rollbackUntil_sublist detector _).mem member
    exact (below earlier (rolledBack ▸ member)).ne (identified earlier tracked sameHash)

end Indexed

end ReorgDetector

end DexArbitrage
