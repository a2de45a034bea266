/-
This file is about tables whose entries expire. A reader prunes the table at the
time it reads, so an entry that has expired is not there; that pruning throws
something away can never be seen, as long as the clock does not run backwards.

What a reader finds is told by the history of the table alone: the last entry
that was put under the key, if it has not been dropped since and has not expired.
-/

import DexArbitrage.Lib.HashMap

namespace DexArbitrage

namespace HashMap

variable {Key Value : Type}

/-- Keep the entries whose values pass a test. -/
def retain (map : HashMap Key Value) (keep : Value → Bool) : HashMap Key Value where
  entries := map.entries.filter fun entry => keep entry.2
  nodupKeys := map.nodupKeys.sublist List.filter_sublist

variable [DecidableEq Key]

theorem lookup_retain (map : HashMap Key Value) (keep : Value → Bool) (key : Key) :
    (map.retain keep).lookup key = (map.lookup key).filter keep := by
  ext value
  rw [Option.filter_eq_some_iff, lookup_eq_some_iff, lookup_eq_some_iff]
  exact List.mem_filter

end HashMap

/-- A value with the time from which on it is gone. -/
structure Timed (Value : Type) where
  expiresAt : Nat
  value : Value

section Tables

variable {Key Value : Type}

def Timed.isLive (now : Nat) (entry : Timed Value) : Bool :=
  now < entry.expiresAt

/-- An entry that is live is one that was live before. -/
theorem Timed.isLive_of_le {now later : Nat} (inOrder : now ≤ later) {entry : Timed Value}
    (live : entry.isLive later = true) : entry.isLive now = true :=
  decide_eq_true (Nat.lt_of_le_of_lt inOrder (of_decide_eq_true live))

def prune (table : HashMap Key (Timed Value)) (now : Nat) : HashMap Key (Timed Value) :=
  table.retain (Timed.isLive now)

/-- What was done to a table. -/
inductive TableEvent (Key Value : Type)
  | put (key : Key) (entry : Timed Value)
  | drop (key : Key)

variable [DecidableEq Key]

/-- The entry that a history, latest event first, leaves under a key. -/
def lastPut : List (TableEvent Key Value) → Key → Option (Timed Value)
  | [], _ => none
  | .put written entry :: earlier, key => if key = written then some entry else lastPut earlier key
  | .drop dropped :: earlier, key => if key = dropped then none else lastPut earlier key

/-- The entry under a key that has not expired. -/
def liveEntry (history : List (TableEvent Key Value)) (now : Nat) (key : Key) :
    Option (Timed Value) :=
  (lastPut history key).filter (Timed.isLive now)

/-- From some time on the table shows what its history tells. -/
def Remembers (table : HashMap Key (Timed Value)) (history : List (TableEvent Key Value))
    (clock : Nat) : Prop :=
  ∀ now, clock ≤ now → ∀ key,
    (table.lookup key).filter (Timed.isLive now) = liveEntry history now key

namespace Remembers

variable {table : HashMap Key (Timed Value)} {history : List (TableEvent Key Value)} {clock : Nat}

theorem start : Remembers (∅ : HashMap Key (Timed Value)) [] 0 :=
  fun _ _ _ => rfl

theorem mono (remembers : Remembers table history clock) {later : Nat} (inOrder : clock ≤ later) :
    Remembers table history later :=
  fun now after => remembers now (Nat.le_trans inOrder after)

/-- Pruning is not seen at the time of the pruning, nor later. -/
theorem prune (remembers : Remembers table history clock) {now : Nat} (inOrder : clock ≤ now) :
    Remembers (prune table now) history now := by
  intro later after key
  rw [← remembers later (Nat.le_trans inOrder after), DexArbitrage.prune, HashMap.lookup_retain,
    Option.filter_filter]
  congr 1
  funext entry
  cases live : entry.isLive later with
  | false => exact Bool.and_false _
  | true => rw [Bool.and_true, Timed.isLive_of_le after live]

/-- What is read right after a pruning. -/
theorem lookup_prune (remembers : Remembers table history clock) {now : Nat}
    (inOrder : clock ≤ now) (key : Key) :
    (DexArbitrage.prune table now).lookup key = liveEntry history now key := by
  rw [← remembers now inOrder, DexArbitrage.prune, HashMap.lookup_retain]

theorem put (remembers : Remembers table history clock) (key : Key) (entry : Timed Value) :
    Remembers (table.insert key entry) (.put key entry :: history) clock := by
  intro now after other
  rw [HashMap.lookup_insert, liveEntry, lastPut]
  split
  · rfl
  · exact remembers now after other

theorem drop (remembers : Remembers table history clock) (key : Key) :
    Remembers (table.erase key) (.drop key :: history) clock := by
  intro now after other
  rw [HashMap.lookup_erase, liveEntry, lastPut]
  split
  · rfl
  · exact remembers now after other

/-- The same entry is put under several keys, one after the other. -/
theorem putAll (remembers : Remembers table history clock) (keys : List Key) (entry : Timed Value) :
    Remembers (keys.foldl (fun table key => table.insert key entry) table)
      ((keys.map fun key => .put key entry).reverse ++ history) clock := by
  induction keys generalizing table history with
  | nil => exact remembers
  | cons key rest inductionHypothesis =>
    rw [List.map_cons, List.reverse_cons, List.append_assoc]
    exact inductionHypothesis (remembers.put key entry)

end Remembers

/-- After an entry was put under several keys, it is what is left under each of them. -/
theorem lastPut_putAll (keys : List Key) (entry : Timed Value)
    (history : List (TableEvent Key Value)) (key : Key) :
    lastPut ((keys.map fun key => .put key entry).reverse ++ history) key =
      if key ∈ keys then some entry else lastPut history key := by
  induction keys generalizing history with
  | nil => rfl
  | cons first rest inductionHypothesis =>
    rw [List.map_cons, List.reverse_cons, List.append_assoc, inductionHypothesis]
    by_cases inRest : key ∈ rest
    · rw [if_pos inRest, if_pos (List.mem_cons_of_mem _ inRest)]
    · rw [if_neg inRest, List.singleton_append, lastPut]
      by_cases isFirst : key = first
      · rw [if_pos isFirst, if_pos (isFirst ▸ List.mem_cons_self)]
      · rw [if_neg isFirst, if_neg fun member => (List.mem_cons.mp member).elim isFirst inRest]

end Tables

end DexArbitrage
