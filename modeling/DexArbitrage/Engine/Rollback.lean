/-
This file settles when the rollback that answers a reorg makes a canonical
snapshot current. The machine holds the detector and the store; its inputs are
the observed blocks of a chain that may reorganise and published snapshots of
any block.

A reorg keeps the lower part of the tracked chain and puts the observed block on
top of it, while the store looks for its last snapshot at or below the block
that the event names. The rollback is right exactly when that snapshot, chosen
before the step, is of a block the reorg does not take away. It is wrong for a
block that replaces the tip when a snapshot of the replaced height was
published, and for a snapshot of an abandoned block that is still in the ring.

The detector's mutexes may be reentrant or not. When they are not, a block that
contradicts the chain ends the run, as any error of the detector does, and no
reorg event is ever answered for it.
-/

import DexArbitrage.Engine.EventLoop
import DexArbitrage.Reorg.CommonAncestor

namespace DexArbitrage

open ReorgDetector

/-- The detector and the store, as the main loop holds them. -/
structure TrackedStore where
  detector : ReorgDetector
  store : GraphStore
  running : Bool

/-- The loop at its start. -/
def TrackedStore.new (initial : GraphSnapshot) (maxSnapshots : Nat) : TrackedStore where
  detector := .new
  store := .new initial maxSnapshots
  running := true

inductive ChainInput (tree : BlockTree B256)
  | block (observation : Observation tree)
  | publish (snapshot : GraphSnapshot)

variable {tree : BlockTree B256}

section Step

variable (discipline : LockDiscipline) (settings : LoopSettings)

/-- A step of the main loop. The loop ends when the call of the detector fails or never returns. -/
def TrackedStore.step (system : TrackedStore) (input : ChainInput tree) : TrackedStore :=
  if system.running then
    match input with
    | .block observation =>
      match outcome (updateChain discipline observation.blockRef) [] system.detector with
      | (.ok (some event), detector) =>
        { system with detector, store := (handleReorgEvent settings system.store event).1 }
      | (.ok none, detector) => { system with detector }
      | (.error _, detector) => { system with detector, running := false }
    | .publish snapshot => { system with store := system.store.publish snapshot }
  else
    system

/-- The block is tracked, or below every tracked block. -/
def CanonicalIn (chain : List BlockHistoryEntry) (block : BlockRef) : Prop :=
  (∃ entry ∈ chain, entry.number = block.number ∧ entry.hash = block.hash) ∨
    ∀ entry ∈ chain, block.number < entry.number

/-- After a reorg event, the block of the current snapshot is canonical. -/
def RestoresCanonical (system : TrackedStore) : ChainInput tree → Prop
  | .block observation =>
    system.running = true → ∀ event,
      (outcome (updateChain discipline observation.blockRef) [] system.detector).1 =
        .ok (some event) →
      let after := system.step discipline settings (.block observation)
      ∀ block, after.store.current.blockRef = some block → CanonicalIn after.detector.chain block
  | .publish _ => True

/-- The last snapshot published for a block or for an earlier one, or else the current one. -/
def GraphStore.latestAtMost (store : GraphStore) (blockNumber : Nat) : GraphSnapshot :=
  (store.ring.filter (GraphStore.atMostBlock blockNumber)).getLast?.getD store.current

/-- The block of the snapshot is the observed one, or it is canonical and below the bound. -/
def Survives (chain : List BlockHistoryEntry) (observed : BlockRef) (bound : Nat)
    (snapshot : GraphSnapshot) : Prop :=
  ∀ block, snapshot.blockRef = some block →
    block.number = observed.number ∧ block.hash = observed.hash ∨
      CanonicalIn chain block ∧ block.number < bound

/-- The snapshot to which a reorg of the observed block falls back survives the reorg: it is below
the replaced block, or at most at the common ancestor, which only reentrant mutexes let the
detector look for. -/
def SourceSurvives (system : TrackedStore) : ChainInput tree → Prop
  | .block observation =>
    system.running = true →
      (Replaces system.detector observation.blockRef →
        Survives system.detector.chain observation.blockRef observation.blockRef.number
          (system.store.latestAtMost observation.blockRef.number)) ∧
      (discipline = .reentrant → ParentMismatch system.detector observation.blockRef →
        ∀ parent ∈ system.detector.chain, parent.hash = observation.blockRef.parentHash →
          Survives system.detector.chain observation.blockRef (parent.number + 1)
            (system.store.latestAtMost parent.number))
  | .publish _ => True

end Step

/-! ### The chain after a reorg -/

/-- What is canonical once the upper part of a chain is replaced by one entry. -/
theorem canonicalIn_splice {kept dropped : List BlockHistoryEntry} {observed : BlockRef}
    {bound : Nat} (keptBelow : ∀ entry ∈ kept, entry.number < bound)
    (droppedAbove : ∀ entry ∈ dropped, bound ≤ entry.number) (above : bound ≤ observed.number)
    (reached : ∃ entry ∈ kept ++ [.ofBlockRef observed], entry.number ≤ bound)
    (block : BlockRef) :
    CanonicalIn (kept ++ [.ofBlockRef observed]) block ↔
      block.number = observed.number ∧ block.hash = observed.hash ∨
        CanonicalIn (kept ++ dropped) block ∧ block.number < bound := by
  constructor
  · rintro (⟨entry, member, sameNumber, sameHash⟩ | below)
    · rcases List.mem_append.mp member with early | last
      · have low := keptBelow entry early
        exact Or.inr ⟨Or.inl ⟨entry, List.mem_append_left _ early, sameNumber, sameHash⟩,
          sameNumber ▸ low⟩
      · rw [List.mem_singleton.mp last] at sameNumber sameHash
        exact Or.inl ⟨sameNumber.symm, sameHash.symm⟩
    · obtain ⟨entry, member, atMost⟩ := reached
      have low := (below entry member).trans_le atMost
      refine Or.inr ⟨Or.inr fun other otherMember => ?_, low⟩
      rcases List.mem_append.mp otherMember with early | late
      · exact below other (List.mem_append_left _ early)
      · exact low.trans_le (droppedAbove other late)
  · rintro (⟨sameNumber, sameHash⟩ | ⟨⟨entry, member, sameNumber, sameHash⟩ | below, low⟩)
    · exact Or.inl ⟨.ofBlockRef observed, List.mem_append_right _ List.mem_cons_self,
        sameNumber.symm, sameHash.symm⟩
    · refine Or.inl ⟨entry, ?_, sameNumber, sameHash⟩
      rcases List.mem_append.mp member with early | late
      · exact List.mem_append_left _ early
      · exact absurd (sameNumber ▸ droppedAbove entry late) (Nat.not_le.mpr low)
    · refine Or.inr fun entry member => ?_
      rcases List.mem_append.mp member with early | last
      · exact below entry (List.mem_append_left _ early)
      · rw [List.mem_singleton.mp last]
        exact low.trans_le above

/-- The tracked chain is short and made of blocks of the tree. -/
structure BoundedTracking (tree : BlockTree B256) (detector : ReorgDetector) : Prop where
  tracking : Tracking tree detector
  bounded : detector.chain.length ≤ maxBlockHistory

/-- What is canonical after the tip is replaced. -/
theorem canonicalIn_replaced {detector : ReorgDetector} (tracking : Tracking tree detector)
    {tip : BlockHistoryEntry} (current : detector.currentTip = some tip) {blockRef : BlockRef}
    (sameNumber : blockRef.number = tip.number) (block : BlockRef) :
    CanonicalIn (detector.popBack.pushBack (.ofBlockRef blockRef)).chain block ↔
      block.number = blockRef.number ∧ block.hash = blockRef.hash ∨
        CanonicalIn detector.chain block ∧ block.number < blockRef.number := by
  have split : detector.chain.dropLast ++ [tip] = detector.chain :=
    List.dropLast_append_getLast? tip current
  have ordered := tracking.indexed.ordered
  rw [← split, List.pairwise_append] at ordered
  rw [chain_pushBack, chain_popBack, ← split, List.dropLast_concat]
  refine canonicalIn_splice (fun entry member => ?_) (fun entry member => ?_) (Nat.le_refl _)
    ⟨.ofBlockRef blockRef, List.mem_append_right _ List.mem_cons_self, Nat.le_refl _⟩ block
  · rw [sameNumber]
    exact ordered.2.2 entry member tip List.mem_cons_self
  · rw [List.mem_singleton.mp member, sameNumber]

/-- The tip is never the ancestor of a block that contradicts the tracked chain. -/
theorem ne_tip_of_parentMismatch {detector : ReorgDetector} {blockRef : BlockRef}
    (mismatch : ParentMismatch detector blockRef) {ancestor : BlockHistoryEntry}
    (parent : ancestor.hash = blockRef.parentHash) (lower : ancestor.number < blockRef.number) :
    detector.chain.getLast? ≠ some ancestor := by
  intro current
  obtain ⟨tip, tipCurrent, contradicts⟩ := mismatch
  obtain rfl : ancestor = tip := Option.some.inj (current.symm.trans tipCurrent)
  rcases contradicts with ⟨-, different⟩ | ⟨-, older, -⟩
  · exact different parent.symm
  · exact lower.asymm older

/-- What is canonical after a reorg to a tracked ancestor. -/
theorem canonicalIn_rejoined {detector : ReorgDetector} (tracking : BoundedTracking tree detector)
    {blockRef : BlockRef} (mismatch : ParentMismatch detector blockRef)
    {ancestor : BlockHistoryEntry} (member : ancestor ∈ detector.chain)
    (parent : ancestor.hash = blockRef.parentHash) (lower : ancestor.number < blockRef.number)
    (block : BlockRef) :
    CanonicalIn (detector.rejoin ancestor (.ofBlockRef blockRef)).chain block ↔
      block.number = blockRef.number ∧ block.hash = blockRef.hash ∨
        CanonicalIn detector.chain block ∧ block.number < ancestor.number + 1 := by
  obtain ⟨⟨indexed, -⟩, bounded⟩ := tracking
  obtain ⟨before, after, split, rolledBack⟩ := indexed.exists_split member
  have afterNonempty : 0 < after.length := by
    refine List.length_pos_iff.mpr fun empty => ne_tip_of_parentMismatch mismatch parent lower ?_
    rw [split, empty, List.getLast?_concat]
  have length := congrArg List.length split
  rw [List.length_append, List.length_cons] at length
  have noPruning : (before ++ [ancestor]).length + 1 - maxBlockHistory = 0 := by
    rw [List.length_append, List.length_singleton]
    omega
  have ordered := indexed.ordered
  rw [split, List.pairwise_append, List.pairwise_cons] at ordered
  rw [rejoin, chain_appendBlock, rolledBack, noPruning, List.drop_zero, split,
    List.append_cons before ancestor after]
  refine canonicalIn_splice (fun entry keptMember => ?_) (fun entry late => ?_) lower
    ⟨ancestor, ?_, Nat.le_succ _⟩ block
  · exact Nat.lt_succ_of_le (indexed.le_ancestor split keptMember)
  · exact ordered.2.1.1 entry late
  · exact List.mem_append_left _ (List.mem_append_right _ List.mem_cons_self)

/-! ### The store after a rollback -/

theorem GraphStore.current_rollbackToBlock_eq (store : GraphStore) (blockNumber : Nat) :
    (store.rollbackToBlock blockNumber).2.current = store.latestAtMost blockNumber := by
  unfold rollbackToBlock latestAtMost
  rw [← List.head?_reverse, ← List.filter_reverse, List.head?_filter]
  cases store.ring.reverse.find? (atMostBlock blockNumber) <;> rfl

theorem store_handleReorgEvent (settings : LoopSettings) (store : GraphStore)
    (event : ReorgEvent) :
    (handleReorgEvent settings store event).1 = (store.rollbackToBlock event.targetBlock).2 := by
  unfold handleReorgEvent
  split
  · rename_i rolledBack
    rw [rolledBack]
  · rename_i rolledBack
    rw [rolledBack]

/-! ### One step -/

section Runs

variable {discipline : LockDiscipline} {settings : LoopSettings}

/-- While the loop runs, the detector is what the call leaves. -/
theorem detector_step_block {system : TrackedStore} (running : system.running = true)
    (observation : Observation tree) :
    (system.step discipline settings (.block observation)).detector =
      (outcome (updateChain discipline observation.blockRef) [] system.detector).2 := by
  unfold TrackedStore.step
  rw [if_pos running]
  dsimp only
  split
  · rename_i ended
    rw [ended]
  · rename_i ended
    rw [ended]
  · rename_i ended
    rw [ended]

theorem boundedTracking_new (tree : BlockTree B256) : BoundedTracking tree .new where
  tracking := tracking_new tree
  bounded := Nat.zero_le _

theorem BoundedTracking.updateStep {detector : ReorgDetector}
    (tracking : BoundedTracking tree detector) {observation : Observation tree}
    {ended : Except (Halt String) (Option ReorgEvent) × ReorgDetector}
    (step : UpdateStep detector observation.blockRef ended) : BoundedTracking tree ended.2 where
  tracking := tracking.tracking.updateStep step
  bounded := step.length_chain_le tracking.bounded

theorem BoundedTracking.step {system : TrackedStore}
    (tracking : BoundedTracking tree system.detector) (input : ChainInput tree) :
    BoundedTracking tree (system.step discipline settings input).detector := by
  cases running : system.running with
  | false =>
    have same : system.step discipline settings input = system :=
      if_neg (by rw [running]; exact Bool.false_ne_true)
    exact same.symm ▸ tracking
  | true =>
    cases input with
    | publish snapshot =>
      unfold TrackedStore.step
      rw [if_pos running]
      exact tracking
    | block observation =>
      rw [detector_step_block running]
      rcases blocked_or_updateStep discipline system.detector observation.blockRef with
        ⟨-, -, ended⟩ | ⟨-, step⟩
      · rw [ended]
        exact tracking
      · exact tracking.updateStep step

/-- The target of the event and the detector after it decide whether the rollback is right. -/
theorem restoresCanonical_of_event {system : TrackedStore} (running : system.running = true)
    {observation : Observation tree} {event : ReorgEvent} {written : ReorgDetector}
    (ended : outcome (updateChain discipline observation.blockRef) [] system.detector =
      (.ok (some event), written)) :
    RestoresCanonical discipline settings system (.block observation) ↔
      ∀ block, (system.store.latestAtMost event.targetBlock).blockRef = some block →
        CanonicalIn written.chain block := by
  unfold RestoresCanonical TrackedStore.step
  simp only [running, if_true, forall_const, ended]
  rw [← GraphStore.current_rollbackToBlock_eq, ← store_handleReorgEvent settings]
  constructor
  · intro restores
    exact restores event rfl
  · intro restores other same
    cases same
    exact restores

/-- Without an event there is nothing to restore. -/
theorem restoresCanonical_of_noEvent {system : TrackedStore} {observation : Observation tree}
    (ended : ∀ event,
      (outcome (updateChain discipline observation.blockRef) [] system.detector).1 ≠
        .ok (some event)) :
    RestoresCanonical discipline settings system (.block observation) :=
  fun _ event happened => absurd happened (ended event)

/-- The rollback of a call that returns is right exactly when the snapshot it falls back to
survives. -/
theorem BoundedTracking.restoresCanonical_of_updateStep {system : TrackedStore}
    (tracking : BoundedTracking tree system.detector) (running : system.running = true)
    {observation : Observation tree}
    (searched : ParentMismatch system.detector observation.blockRef → discipline = .reentrant)
    {ended : Except (Halt String) (Option ReorgEvent) × ReorgDetector}
    (happened : outcome (updateChain discipline observation.blockRef) [] system.detector = ended)
    (step : UpdateStep system.detector observation.blockRef ended) :
    RestoresCanonical discipline settings system (.block observation) ↔
      SourceSurvives discipline system (.block observation) := by
  cases step with
  | kept steady matched =>
    refine iff_of_true (restoresCanonical_of_noEvent fun event => ?_)
      fun _ => ⟨fun replaces => absurd replaces steady, fun _ mismatch => absurd mismatch matched⟩
    rw [happened]
    exact fun same => by cases same
  | appended above =>
    refine iff_of_true (restoresCanonical_of_noEvent fun event => ?_) fun _ =>
      ⟨fun replaces => absurd replaces above.not_replaces,
        fun _ mismatch => absurd mismatch above.not_parentMismatch⟩
    rw [happened]
    exact fun same => by cases same
  | wrapped wraps => exact absurd wraps (tracking.tracking.not_wraps observation)
  | replaced tip current sameNumber different =>
    have replaces : Replaces system.detector observation.blockRef :=
      ⟨tip, current, sameNumber, different⟩
    rw [restoresCanonical_of_event running happened]
    simp only [ReorgEvent.targetBlock, ← sameNumber,
      canonicalIn_replaced tracking.tracking current sameNumber]
    exact ⟨fun survives _ => ⟨fun _ => survives,
      fun _ mismatch => absurd mismatch replaces.not_parentMismatch⟩, fun source =>
        (source running).1 replaces⟩
  | rejoined ancestor depth mismatch found =>
    have indexed := tracking.tracking.indexed
    obtain ⟨member, parent⟩ := indexed.getByHash_eq_some.mp found
    have lower : ancestor.number < observation.blockRef.number :=
      tracking.tracking.lt_of_parent member parent
    rw [restoresCanonical_of_event running happened]
    simp only [ReorgEvent.targetBlock,
      canonicalIn_rejoined tracking mismatch member parent lower]
    constructor
    · intro survives _
      refine ⟨fun replaces => absurd mismatch replaces.not_parentMismatch,
        fun _ _ other otherMember otherParent => ?_⟩
      obtain rfl : other = ancestor :=
        indexed.eq_of_hash otherMember member (otherParent.trans parent.symm)
      exact survives
    · intro source
      exact (source running).2 (searched mismatch) mismatch ancestor member parent
  | unknownParent reason mismatch missing =>
    refine iff_of_true (restoresCanonical_of_noEvent fun event => ?_) fun _ =>
      ⟨fun replaces => absurd mismatch replaces.not_parentMismatch,
        fun _ _ parent member parentHash => ?_⟩
    · rw [happened]
      exact fun same => by cases same
    · exact absurd parentHash
        (tracking.tracking.indexed.getByHash_eq_none.mp missing parent member)

/-- The rollback of a step is right exactly when the snapshot it falls back to survives. -/
theorem BoundedTracking.restoresCanonical_iff {system : TrackedStore}
    (tracking : BoundedTracking tree system.detector) (input : ChainInput tree) :
    RestoresCanonical discipline settings system input ↔
      SourceSurvives discipline system input := by
  cases input with
  | publish snapshot => exact Iff.rfl
  | block observation =>
    cases running : system.running with
    | false =>
      refine iff_of_true (fun runs => ?_) (fun runs => ?_)
      · rw [running] at runs
        cases runs
      · rw [running] at runs
        cases runs
    | true =>
      rcases blocked_or_updateStep discipline system.detector observation.blockRef with
        ⟨nonReentrant, mismatch, ended⟩ | ⟨searched, step⟩
      · refine iff_of_true (restoresCanonical_of_noEvent fun event => ?_) fun _ =>
          ⟨fun replaces => absurd mismatch replaces.not_parentMismatch, fun reentrant => ?_⟩
        · rw [ended]
          exact fun same => by cases same
        · rw [nonReentrant] at reentrant
          cases reentrant
      · exact tracking.restoresCanonical_of_updateStep running searched rfl step

end Runs

/-! ### Whole runs -/

/-- In a run of observed blocks and published snapshots, every reorg makes a canonical snapshot
current exactly when at every reorg the snapshot it falls back to survives. -/
theorem stepsMeet_restoresCanonical_iff (discipline : LockDiscipline) (settings : LoopSettings)
    (initial : GraphSnapshot) (maxSnapshots : Nat) (inputs : List (ChainInput tree)) :
    StepsMeet (TrackedStore.step discipline settings) (RestoresCanonical discipline settings)
        (.new initial maxSnapshots) inputs ↔
      StepsMeet (TrackedStore.step discipline settings) (SourceSurvives discipline)
        (.new initial maxSnapshots) inputs :=
  stepsMeet_iff_of_invariant
    (fun (system : TrackedStore) input (tracking : BoundedTracking tree system.detector) =>
      tracking.restoresCanonical_iff input)
    (fun _ input tracking _ => tracking.step input) (boundedTracking_new tree)

/-! ### A snapshot of the replaced height -/

/-- A snapshot of a block, without tokens and pools. -/
def emptySnapshot (blockRef : Option BlockRef) : GraphSnapshot :=
  GraphSnapshot.build { spot := fun _ _ _ => (0, 0), priceLimitCapacityIn := fun _ _ => none } 0
    blockRef [] ∅

/-- The event names the replaced height, and the snapshot of the replaced block is of that
height. -/
theorem not_restoresCanonical_sameHeight :
    ¬ StepsMeet (TrackedStore.step .nonReentrant hybridSettings)
      (RestoresCanonical .nonReentrant hybridSettings) (.new (emptySnapshot none) 8)
      [.block (observe twoBranches 1 (by decide) (by decide)),
        .publish (emptySnapshot (some (blockOf 1 1 0))),
        .block (observe twoBranches 2 (by decide) (by decide))] := by
  rintro ⟨-, -, restores, -⟩
  rcases restores rfl (.rollback 1 1) rfl (blockOf 1 1 0) rfl with
    ⟨entry, member, -, sameHash⟩ | below
  · have tracked : entry =
        .ofBlockRef (observe twoBranches 2 (by decide) (by decide)).blockRef :=
      List.mem_singleton.mp member
    rw [tracked] at sameHash
    exact absurd sameHash (by decide)
  · exact absurd (below _ List.mem_cons_self) (by decide)

end DexArbitrage
