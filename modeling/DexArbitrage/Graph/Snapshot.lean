/-
This file models `src/graph/snapshot.rs`: the store with the current snapshot
and a ring of the most recently published ones. Publishing appends to the ring
and drops its oldest entries; a rollback makes an entry of the ring current
again and leaves the ring as it is, so the entries it steps over stay in it.
-/

import DexArbitrage.Graph.Model

namespace DexArbitrage

/-- The ring has its oldest entry first. -/
structure GraphStore where
  current : GraphSnapshot
  ring : List GraphSnapshot
  maxSnapshots : Nat

namespace GraphStore

def new (initial : GraphSnapshot) (maxSnapshots : Nat) : GraphStore :=
  { current := initial, ring := [initial], maxSnapshots }

def load (store : GraphStore) : GraphSnapshot :=
  store.current

def publish (store : GraphStore) (snapshot : GraphSnapshot) : GraphStore :=
  let ring := store.ring ++ [snapshot]
  { store with current := snapshot, ring := ring.drop (ring.length - store.maxSnapshots) }

def rollbackToSnapshot (store : GraphStore) (snapshotId : Nat) :
    Option GraphSnapshot × GraphStore :=
  match store.ring.find? fun snapshot => snapshot.snapshotId = snapshotId with
  | some snapshot => (some snapshot, { store with current := snapshot })
  | none => (none, store)

/-- The snapshot is of a known block, at most the given one. -/
def atMostBlock (blockNumber : Nat) (snapshot : GraphSnapshot) : Bool :=
  match snapshot.blockRef with
  | some block => block.number ≤ blockNumber
  | none => false

def rollbackToBlock (store : GraphStore) (blockNumber : Nat) :
    Option GraphSnapshot × GraphStore :=
  match store.ring.reverse.find? (atMostBlock blockNumber) with
  | some snapshot => (some snapshot, { store with current := snapshot })
  | none => (none, store)

theorem ring_publish {store : GraphStore} {snapshot entry : GraphSnapshot}
    (member : entry ∈ (store.publish snapshot).ring) : entry = snapshot ∨ entry ∈ store.ring := by
  rcases List.mem_append.mp (List.mem_of_mem_drop member) with old | new
  · exact Or.inr old
  · exact Or.inl (List.mem_singleton.mp new)

@[simp] theorem ring_rollbackToSnapshot (store : GraphStore) (snapshotId : Nat) :
    (store.rollbackToSnapshot snapshotId).2.ring = store.ring := by
  unfold rollbackToSnapshot
  split <;> rfl

@[simp] theorem ring_rollbackToBlock (store : GraphStore) (blockNumber : Nat) :
    (store.rollbackToBlock blockNumber).2.ring = store.ring := by
  unfold rollbackToBlock
  split <;> rfl

/-- A rollback either changes nothing or makes an entry of the ring current. -/
theorem current_rollbackToSnapshot (store : GraphStore) (snapshotId : Nat) :
    (store.rollbackToSnapshot snapshotId).2.current = store.current ∨
      (store.rollbackToSnapshot snapshotId).2.current ∈ store.ring := by
  unfold rollbackToSnapshot
  split
  · rename_i snapshot found
    exact Or.inr (List.mem_of_find?_eq_some found)
  · exact Or.inl rfl

theorem current_rollbackToBlock (store : GraphStore) (blockNumber : Nat) :
    (store.rollbackToBlock blockNumber).2.current = store.current ∨
      (store.rollbackToBlock blockNumber).2.current ∈ store.ring := by
  unfold rollbackToBlock
  split
  · rename_i snapshot found
    exact Or.inr (List.mem_reverse.mp (List.mem_of_find?_eq_some found))
  · exact Or.inl rfl

end GraphStore

end DexArbitrage
