/-
This file is about the order in which keys have been used and what has last been
stored under them. The record of the uses is a list, with the latest use at its
end. One key has been used since another one when the record ends with a stretch
in which the first of them occurs and the other one does not.

A queue that moves every used key to its end is in the order of use. It holds no
key twice, and its first key is the one whose last use is the longest ago.
-/

import Mathlib.Data.List.Nodup

namespace DexArbitrage

section Recency

variable {Key Value : Type}

/-! ### The order of use -/

/-- Since some moment the second key has been used, and the first one has not. -/
def UsedSince (uses : List Key) (first second : Key) : Prop :=
  ∃ before after, uses = before ++ after ∧ first ∉ after ∧ second ∈ after

/-- All the other keys have been used since this one. -/
def LeastRecentlyUsed (uses keys : List Key) (key : Key) : Prop :=
  ∀ other ∈ keys, other ≠ key → UsedSince uses key other

/-- Keys that were used later stand later. -/
def InOrderOfUse (uses keys : List Key) : Prop :=
  keys.Pairwise (UsedSince uses)

variable {uses keys : List Key} {first second key : Key}

theorem UsedSince.ne (since : UsedSince uses first second) : first ≠ second := by
  obtain ⟨_, _, _, unused, used⟩ := since
  rintro rfl
  exact unused used

/-- The use of another key changes nothing. -/
theorem UsedSince.use_other (since : UsedSince uses first second) (other : key ≠ first) :
    UsedSince (uses ++ [key]) first second := by
  obtain ⟨before, after, rfl, unused, used⟩ := since
  refine ⟨before, after ++ [key], List.append_assoc before after [key], ?_,
    List.mem_append_left _ used⟩
  rw [List.mem_append, List.mem_singleton]
  exact fun member => member.elim unused (Ne.symm other)

theorem usedSince_use (uses : List Key) (other : first ≠ key) :
    UsedSince (uses ++ [key]) first key := by
  refine ⟨uses, [key], rfl, ?_, List.mem_cons_self⟩
  rw [List.mem_singleton]
  exact other

theorem InOrderOfUse.nodup (inOrder : InOrderOfUse uses keys) : keys.Nodup :=
  inOrder.imp UsedSince.ne

theorem InOrderOfUse.leastRecentlyUsed (inOrder : InOrderOfUse uses (key :: keys)) :
    LeastRecentlyUsed uses (key :: keys) key := by
  intro other member isOther
  exact List.rel_of_pairwise_cons inOrder ((List.mem_cons.mp member).resolve_left isOther)

theorem InOrderOfUse.use_other (inOrder : InOrderOfUse uses keys) (other : key ∉ keys) :
    InOrderOfUse (uses ++ [key]) keys := by
  refine List.Pairwise.imp_of_mem (fun firstMember _ since => ?_) inOrder
  exact since.use_other fun same => other (same ▸ firstMember)

variable [DecidableEq Key]

/-- The used key is moved to the end. -/
theorem InOrderOfUse.touch (inOrder : InOrderOfUse uses keys) (key : Key) :
    InOrderOfUse (uses ++ [key]) (keys.filter (· ≠ key) ++ [key]) := by
  have others : ∀ other ∈ keys.filter (· ≠ key), other ≠ key := by simp
  have kept : InOrderOfUse (uses ++ [key]) (keys.filter (· ≠ key)) := by
    refine InOrderOfUse.use_other (inOrder.sublist List.filter_sublist) fun member => ?_
    exact others key member rfl
  refine List.pairwise_append.mpr
    ⟨kept, List.pairwise_singleton _ _, fun other member last isLast => ?_⟩
  rw [List.mem_singleton.mp isLast]
  exact usedSince_use uses (others other member)

/-! ### What was stored last -/

/-- The value of the last pair with the key. -/
def lastStored (pairs : List (Key × Value)) (key : Key) : Option Value :=
  pairs.foldl (fun last pair => if pair.1 = key then some pair.2 else last) none

theorem lastStored_append (pairs : List (Key × Value)) (stored : Key) (value : Value) (key : Key) :
    lastStored (pairs ++ [(stored, value)]) key =
      if stored = key then some value else lastStored pairs key := by
  unfold lastStored
  rw [List.foldl_append]
  rfl

end Recency

end DexArbitrage
