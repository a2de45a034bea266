/-
This file models the quote cache of `src/router/exact_quoter.rs`. The cache has
one segment for each snapshot id; a segment keeps its entries in order of use
and drops the least recently used ones when it grows too large, and whole
segments with the smallest ids are dropped to make room for a new one.

`stored` is what the cache holds under a key. The lemmas say what `get` and
`insert` do to it: reading changes nothing, and inserting adds one entry and
may lose others, but never alters one.
-/

import DexArbitrage.Types

namespace DexArbitrage

structure QuoteKey where
  snapshotId : Nat
  poolId : Address
  tokenIn : Address
  tokenOut : Address
  amountIn : Nat
  deriving DecidableEq, Repr

/-- The entries of one snapshot id, and their keys with the least recently used one first. -/
structure QuoteSegment where
  entries : HashMap QuoteKey Nat
  lru : List QuoteKey

structure QuoteCache where
  maxSegments : Nat
  maxEntriesPerSegment : Nat
  segments : HashMap Nat QuoteSegment

namespace QuoteSegment

def empty : QuoteSegment :=
  { entries := ∅, lru := [] }

def touch (segment : QuoteSegment) (key : QuoteKey) : QuoteSegment :=
  { segment with lru := segment.lru.filter (· ≠ key) ++ [key] }

/-- Drop the least recently used entries while there are too many. -/
def trim (maxEntries : Nat) (entries : HashMap QuoteKey Nat) : List QuoteKey → QuoteSegment
  | [] => { entries, lru := [] }
  | oldest :: rest =>
    if maxEntries < entries.size then
      trim maxEntries (entries.erase oldest) rest
    else
      { entries, lru := oldest :: rest }

def insert (maxEntries : Nat) (segment : QuoteSegment) (key : QuoteKey) (value : Nat) :
    QuoteSegment :=
  let segment :=
    if key ∈ segment.entries then
      segment.touch key
    else
      { segment with lru := segment.lru ++ [key] }
  trim maxEntries (segment.entries.insert key value) segment.lru

theorem lookup_trim {maxEntries : Nat} {entries : HashMap QuoteKey Nat} {lru : List QuoteKey}
    {key : QuoteKey} {value : Nat}
    (found : (trim maxEntries entries lru).entries.lookup key = some value) :
    entries.lookup key = some value := by
  induction lru generalizing entries with
  | nil => exact found
  | cons oldest rest inductionHypothesis =>
    unfold trim at found
    split at found
    · have kept := inductionHypothesis found
      rw [HashMap.lookup_erase] at kept
      split at kept
      · cases kept
      · exact kept
    · exact found

/-- An entry after an insertion is the new one or an old one. -/
theorem lookup_insert {maxEntries : Nat} {segment : QuoteSegment} {key other : QuoteKey}
    {value found : Nat}
    (stored : (segment.insert maxEntries key value).entries.lookup other = some found) :
    other = key ∧ found = value ∨ segment.entries.lookup other = some found := by
  have untrimmed := lookup_trim stored
  have entries : (if key ∈ segment.entries then segment.touch key
      else { segment with lru := segment.lru ++ [key] }).entries = segment.entries := by
    split <;> rfl
  rw [entries, HashMap.lookup_insert] at untrimmed
  split at untrimmed
  · rename_i same
    injection untrimmed with equal
    exact Or.inl ⟨same, equal.symm⟩
  · exact Or.inr untrimmed

end QuoteSegment

namespace QuoteCache

/-- What the cache holds under a key. -/
def stored (cache : QuoteCache) (key : QuoteKey) : Option Nat :=
  (cache.segments.lookup key.snapshotId).bind fun segment => segment.entries.lookup key

def get (cache : QuoteCache) (key : QuoteKey) : Option Nat × QuoteCache :=
  match cache.segments.lookup key.snapshotId with
  | none => (none, cache)
  | some segment =>
    match segment.entries.lookup key with
    | none => (none, cache)
    | some value =>
      (some value,
        { cache with segments := cache.segments.update key.snapshotId (·.touch key) })

/-- Drop the segments with the smallest ids, in at most the given number of rounds, while there is
no room for another one. -/
def evictSegments (maxSegments : Nat) : Nat → HashMap Nat QuoteSegment → HashMap Nat QuoteSegment
  | 0, segments => segments
  | rounds + 1, segments =>
    if maxSegments ≤ segments.size then
      match segments.keys.min? with
      | some oldest => evictSegments maxSegments rounds (segments.erase oldest)
      | none => segments
    else
      segments

def evictOldSegmentsForNewSegment (cache : QuoteCache) : HashMap Nat QuoteSegment :=
  evictSegments cache.maxSegments cache.segments.size cache.segments

def insert (cache : QuoteCache) (key : QuoteKey) (value : Nat) : QuoteCache :=
  let segments :=
    if key.snapshotId ∈ cache.segments then
      cache.segments
    else
      cache.evictOldSegmentsForNewSegment
  let segment := (segments.lookup key.snapshotId).getD QuoteSegment.empty
  { cache with
    segments :=
      segments.insert key.snapshotId (segment.insert cache.maxEntriesPerSegment key value) }

theorem get_fst (cache : QuoteCache) (key : QuoteKey) : (cache.get key).1 = cache.stored key := by
  unfold get stored
  cases cache.segments.lookup key.snapshotId with
  | none => rfl
  | some segment =>
    show (match segment.entries.lookup key with
      | none => (none, cache)
      | some value => (some value, _)).1 = segment.entries.lookup key
    cases segment.entries.lookup key <;> rfl

/-- Reading changes the order of use only. -/
theorem stored_get (cache : QuoteCache) (key other : QuoteKey) :
    (cache.get key).2.stored other = cache.stored other := by
  unfold get
  cases found : cache.segments.lookup key.snapshotId with
  | none => rfl
  | some segment =>
    simp only
    cases segment.entries.lookup key with
    | none => rfl
    | some value =>
      unfold stored
      simp only [HashMap.lookup_update]
      split
      · rename_i same
        rw [same, found]
        rfl
      · rfl

theorem lookup_evictSegments {maxSegments rounds : Nat} {segments : HashMap Nat QuoteSegment}
    {snapshotId : Nat} {segment : QuoteSegment}
    (found : (evictSegments maxSegments rounds segments).lookup snapshotId = some segment) :
    segments.lookup snapshotId = some segment := by
  induction rounds generalizing segments with
  | zero => exact found
  | succ rounds inductionHypothesis =>
    unfold evictSegments at found
    split at found
    · split at found
      · have kept := inductionHypothesis found
        rw [HashMap.lookup_erase] at kept
        split at kept
        · cases kept
        · exact kept
      · exact found
    · exact found

/-- What the cache holds after an insertion is the new entry or an old one. -/
theorem stored_insert {cache : QuoteCache} {key other : QuoteKey} {value found : Nat}
    (stored : (cache.insert key value).stored other = some found) :
    other = key ∧ found = value ∨ cache.stored other = some found := by
  obtain ⟨segment, inSegments, entry⟩ := Option.bind_eq_some_iff.mp stored
  have kept : ∀ snapshotId segment,
      (if key.snapshotId ∈ cache.segments then cache.segments
        else cache.evictOldSegmentsForNewSegment).lookup snapshotId = some segment →
      cache.segments.lookup snapshotId = some segment := by
    intro snapshotId segment lookup
    split at lookup
    · exact lookup
    · exact lookup_evictSegments lookup
  unfold insert at inSegments
  simp only [HashMap.lookup_insert] at inSegments
  split at inSegments
  · rename_i sameId
    injection inSegments with same
    rw [← same] at entry
    rcases QuoteSegment.lookup_insert entry with new | old
    · exact Or.inl new
    · right
      cases before : AList.lookup key.snapshotId (if key.snapshotId ∈ cache.segments
          then cache.segments else cache.evictOldSegmentsForNewSegment) with
      | none =>
        rw [before] at old
        cases old
      | some earlier =>
        rw [before] at old
        exact Option.bind_eq_some_iff.mpr ⟨earlier, sameId ▸ kept _ _ before, old⟩
  · exact Or.inr (Option.bind_eq_some_iff.mpr ⟨segment, kept _ _ inSegments, entry⟩)

end QuoteCache

end DexArbitrage
