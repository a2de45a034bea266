/-
This file proves what the quote cache keeps over any sequence of reads and
insertions. Beside the cache a record is kept of what has been inserted and of
the keys in the order of their use; the cache does not read it.

The queue of a segment holds exactly the keys of its entries, in the order of
use, so what is taken from its front is the least recently used entry. One
insertion makes a segment at most one entry too large and opens at most one
segment, so one entry, respectively one segment, makes room.
-/

import DexArbitrage.Lib.Recency
import DexArbitrage.Lib.Run
import DexArbitrage.Router.QuoteCache

namespace DexArbitrage

/-! ### One segment -/

namespace QuoteSegment

/-- The queue holds the keys of the entries, in the order of their use. -/
structure Ordered (segment : QuoteSegment) (snapshotId : Nat) (uses : List QuoteKey) : Prop where
  inOrder : InOrderOfUse uses segment.lru
  listed : ∀ key, key ∈ segment.lru ↔ key ∈ segment.entries
  own : ∀ key ∈ segment.lru, key.snapshotId = snapshotId

variable {segment : QuoteSegment} {snapshotId : Nat} {uses : List QuoteKey} {key : QuoteKey}

theorem Ordered.perm_keys (ordered : segment.Ordered snapshotId uses) :
    segment.lru.Perm segment.entries.keys := by
  refine (List.perm_ext_iff_of_nodup ordered.inOrder.nodup segment.entries.keys_nodup).mpr ?_
  exact fun key => (ordered.listed key).trans AList.mem_keys

theorem Ordered.size_eq (ordered : segment.Ordered snapshotId uses) :
    segment.entries.size = segment.lru.length := by
  rw [ordered.perm_keys.length_eq]
  exact (List.length_map _).symm

theorem ordered_empty (snapshotId : Nat) (uses : List QuoteKey) :
    empty.Ordered snapshotId uses where
  inOrder := List.Pairwise.nil
  listed := fun _ => iff_of_false (List.not_mem_nil) (AList.notMem_empty _)
  own := fun _ member => nomatch member

/-- A key of another segment is used. -/
theorem Ordered.use_other (ordered : segment.Ordered snapshotId uses)
    (other : key.snapshotId ≠ snapshotId) : segment.Ordered snapshotId (uses ++ [key]) where
  inOrder := ordered.inOrder.use_other fun member => other (ordered.own key member)
  listed := ordered.listed
  own := ordered.own

/-- A key of the segment is used, and its entry is set. -/
theorem Ordered.use (ordered : segment.Ordered snapshotId uses) (own : key.snapshotId = snapshotId)
    {entries : HashMap QuoteKey Nat}
    (set : ∀ other, other ∈ entries ↔ key = other ∨ other ∈ segment.entries) :
    Ordered { entries, lru := segment.lru.filter (· ≠ key) ++ [key] } snapshotId
      (uses ++ [key]) where
  inOrder := ordered.inOrder.touch key
  listed := by
    intro other
    rw [set, ← ordered.listed, List.mem_append, List.mem_singleton, List.mem_filter,
      decide_eq_true_eq]
    constructor
    · rintro (⟨listed, _⟩ | rfl)
      · exact Or.inr listed
      · exact Or.inl rfl
    · rintro (rfl | listed)
      · exact Or.inr rfl
      · exact (Decidable.em (other = key)).symm.imp_left fun different => ⟨listed, different⟩
  own := by
    intro other member
    rcases List.mem_append.mp member with before | last
    · exact ordered.own other (List.mem_filter.mp before).1
    · rw [List.mem_singleton.mp last]
      exact own

theorem Ordered.touch (ordered : segment.Ordered snapshotId uses) (stored : key ∈ segment.entries) :
    (segment.touch key).Ordered snapshotId (uses ++ [key]) := by
  refine ordered.use (ordered.own key ((ordered.listed key).mpr stored)) fun other => ?_
  exact ⟨Or.inr, fun either => either.elim (fun same => same ▸ stored) id⟩

/-- The front of the queue is taken out. -/
theorem Ordered.pop {entries : HashMap QuoteKey Nat} {oldest : QuoteKey} {rest : List QuoteKey}
    (ordered : Ordered { entries, lru := oldest :: rest } snapshotId uses) :
    Ordered { entries := entries.erase oldest, lru := rest } snapshotId uses where
  inOrder := List.Pairwise.of_cons ordered.inOrder
  listed := by
    intro key
    have different : oldest ∉ rest := (List.nodup_cons.mp ordered.inOrder.nodup).1
    rw [AList.mem_erase, ← ordered.listed key, List.mem_cons]
    constructor
    · exact fun listed => ⟨fun same => different (same ▸ listed), Or.inr listed⟩
    · exact fun ⟨other, listed⟩ => listed.resolve_left other
  own := fun key member => ordered.own key (List.mem_cons_of_mem _ member)

theorem trim_of_fits {maxEntries : Nat} {entries : HashMap QuoteKey Nat} (lru : List QuoteKey)
    (fits : entries.size ≤ maxEntries) : trim maxEntries entries lru = { entries, lru } := by
  cases lru with
  | nil => rfl
  | cons oldest rest =>
    unfold trim
    rw [if_neg (Nat.not_lt.mpr fits)]

/-- When there is one entry too many, the front of the queue is dropped. -/
theorem Ordered.trim_of_full {maxEntries : Nat} {entries : HashMap QuoteKey Nat}
    {oldest : QuoteKey} {rest : List QuoteKey}
    (ordered : Ordered { entries, lru := oldest :: rest } snapshotId uses)
    (full : entries.size = maxEntries + 1) :
    trim maxEntries entries (oldest :: rest) =
      { entries := entries.erase oldest, lru := rest } := by
  have fits : HashMap.size (entries.erase oldest) ≤ maxEntries := by
    have sizeBefore : entries.size = (oldest :: rest).length := ordered.size_eq
    have sizeAfter : HashMap.size (entries.erase oldest) = rest.length := ordered.pop.size_eq
    rw [List.length_cons] at sizeBefore
    omega
  unfold trim
  rw [if_pos (by omega), trim_of_fits rest fits]

/-- An insertion puts the key at the end of the queue, whether it was there before or not. -/
theorem Ordered.insert_eq (ordered : segment.Ordered snapshotId uses) (maxEntries : Nat)
    (key : QuoteKey) (value : Nat) :
    segment.insert maxEntries key value =
      trim maxEntries (segment.entries.insert key value)
        (segment.lru.filter (· ≠ key) ++ [key]) := by
  unfold insert
  by_cases stored : key ∈ segment.entries
  · rw [if_pos stored]
    rfl
  · have absent : ∀ other ∈ segment.lru, decide (other ≠ key) = true := by
      intro other member
      refine decide_eq_true fun same => stored ?_
      exact (ordered.listed key).mp (same ▸ member)
    rw [if_neg stored, List.filter_eq_self.mpr absent]

/-- What an insertion leaves of a segment that kept its limit. -/
structure Inserted (segment after : QuoteSegment) (snapshotId : Nat) (uses : List QuoteKey)
    (maxEntries : Nat) (key : QuoteKey) (value : Nat) : Prop where
  ordered : after.Ordered snapshotId (uses ++ [key])
  within : after.entries.size ≤ maxEntries
  stored : after.entries.lookup key = some value
  dropped : ∀ other ∈ segment.entries, other ∉ after.entries →
    key ∉ segment.entries ∧ segment.entries.size = maxEntries ∧
      LeastRecentlyUsed uses segment.entries.keys other

theorem Ordered.inserted (ordered : segment.Ordered snapshotId uses)
    (own : key.snapshotId = snapshotId) {maxEntries : Nat} (positive : 1 ≤ maxEntries)
    (within : segment.entries.size ≤ maxEntries) (value : Nat) :
    segment.Inserted (segment.insert maxEntries key value) snapshotId uses maxEntries key
      value := by
  have used : Ordered { entries := segment.entries.insert key value
                        lru := segment.lru.filter (· ≠ key) ++ [key] } snapshotId
      (uses ++ [key]) := ordered.use own fun other => by rw [AList.mem_insert, eq_comm]
  have size : HashMap.size (segment.entries.insert key value) =
      (segment.lru.filter (· ≠ key)).length + 1 := used.size_eq.trans List.length_append
  rw [ordered.insert_eq]
  by_cases fits : HashMap.size (segment.entries.insert key value) ≤ maxEntries
  · rw [trim_of_fits _ fits]
    refine ⟨used, fits, AList.lookup_insert _, fun other stored gone => ?_⟩
    exact (gone ((AList.mem_insert _).mpr (Or.inr stored))).elim
  · -- All entries were kept and there is one more, so the key is new and the segment was full.
    have kept : (segment.lru.filter (· ≠ key)).length ≤ segment.lru.length :=
      List.length_filter_le _ _
    rw [ordered.size_eq] at within
    have all : segment.lru.filter (· ≠ key) = segment.lru :=
      List.filter_sublist.eq_of_length (by omega)
    have new : key ∉ segment.entries := by
      rw [← ordered.listed, ← all]
      simp
    rw [all] at used size ⊢
    cases queue : segment.lru with
    | nil =>
      rw [queue, List.length_nil] at size
      omega
    | cons oldest rest =>
      rw [queue, List.cons_append] at used
      rw [queue] at size within
      rw [List.cons_append, used.trim_of_full (by omega)]
      have isOther : oldest ≠ key := by
        rintro rfl
        exact new ((ordered.listed oldest).mp (queue ▸ List.mem_cons_self))
      refine ⟨used.pop, ?_, ?_, fun other stored gone => ⟨new, ?_, ?_⟩⟩
      · rw [used.pop.size_eq, List.length_append]
        rw [List.length_cons] at size within
        simpa using within
      · rw [AList.lookup_erase_ne isOther.symm, AList.lookup_insert]
      · rw [ordered.size_eq, queue]
        omega
      · have isOldest : other = oldest := by
          by_contra different
          exact gone (AList.mem_erase.mpr ⟨different, (AList.mem_insert _).mpr (Or.inr stored)⟩)
        have inOrder := ordered.inOrder
        rw [queue] at inOrder
        rw [isOldest]
        intro another member
        refine inOrder.leastRecentlyUsed another (queue ▸ (ordered.listed another).mpr ?_)
        exact AList.mem_keys.mpr member

end QuoteSegment

/-! ### The segments -/

namespace QuoteCache

/-- There is room for another segment, or the one with the smallest id makes room. -/
theorem evictOldSegmentsForNewSegment_cases {cache : QuoteCache} (positive : 1 ≤ cache.maxSegments)
    (within : cache.segments.size ≤ cache.maxSegments) :
    cache.evictOldSegmentsForNewSegment = cache.segments ∧
        cache.segments.size < cache.maxSegments ∨
      cache.segments.size = cache.maxSegments ∧ ∃ oldest ∈ cache.segments,
        (∀ snapshotId ∈ cache.segments, oldest ≤ snapshotId) ∧
        cache.evictOldSegmentsForNewSegment = cache.segments.erase oldest := by
  unfold evictOldSegmentsForNewSegment
  rcases Nat.lt_or_eq_of_le within with room | full
  · left
    refine ⟨?_, room⟩
    cases cache.segments.size with
    | zero => rfl
    | succ rounds =>
      unfold evictSegments
      rw [if_neg (Nat.not_le.mpr room)]
  · right
    have nonempty : cache.segments.keys ≠ [] := by
      intro none
      rw [HashMap.size_eq_length_keys, none, List.length_nil] at full
      omega
    obtain ⟨oldest, isOldest⟩ :=
      Option.ne_none_iff_exists'.mp (mt List.min?_eq_none_iff.mp nonempty)
    obtain ⟨listed, smallest⟩ := List.min?_eq_some_iff.mp isOldest
    refine ⟨full, oldest, AList.mem_keys.mpr listed, fun snapshotId member =>
      smallest snapshotId (AList.mem_keys.mp member), ?_⟩
    have smaller : HashMap.size (cache.segments.erase oldest) < cache.maxSegments := by
      rw [HashMap.size_erase_of_mem (AList.mem_keys.mpr listed)]
      omega
    obtain ⟨rounds, isSucc⟩ := Nat.exists_eq_succ_of_ne_zero
      (show cache.segments.size ≠ 0 by omega)
    rw [isSucc]
    unfold evictSegments
    rw [if_pos full.ge, isOldest]
    dsimp only
    cases rounds with
    | zero => rfl
    | succ rounds =>
      unfold evictSegments
      rw [if_neg (Nat.not_le.mpr smaller)]

/-- The segments among which the one with the given id finds room. -/
structure MakesRoom (cache : QuoteCache) (snapshotId : Nat) (room : HashMap Nat QuoteSegment) :
    Prop where
  kept : ∀ other segment, room.lookup other = some segment →
    cache.segments.lookup other = some segment
  within : ∀ segment, HashMap.size (room.insert snapshotId segment) ≤ cache.maxSegments
  dropped : ∀ other ∈ cache.segments, other ∉ room →
    snapshotId ∉ cache.segments ∧ cache.segments.size = cache.maxSegments ∧
      ∀ another ∈ cache.segments, other ≤ another

/-- An insertion makes room and sets the segment of the key. -/
theorem exists_makesRoom {cache : QuoteCache} (positive : 1 ≤ cache.maxSegments)
    (within : cache.segments.size ≤ cache.maxSegments) (key : QuoteKey) (value : Nat) :
    ∃ room, cache.MakesRoom key.snapshotId room ∧ cache.insert key value =
      { cache with
        segments := room.insert key.snapshotId
          (((cache.segments.lookup key.snapshotId).getD QuoteSegment.empty).insert
            cache.maxEntriesPerSegment key value) } := by
  by_cases opened : key.snapshotId ∈ cache.segments
  · refine ⟨cache.segments, ⟨fun _ _ => id, fun segment => ?_, fun _ stored gone => ?_⟩, ?_⟩
    · exact (HashMap.size_insert_of_mem opened segment).trans_le within
    · exact (gone stored).elim
    · simp only [insert, if_pos opened]
  · have isNew : cache.segments.lookup key.snapshotId = none := AList.lookup_eq_none.mpr opened
    have inserted : ∀ room, cache.evictOldSegmentsForNewSegment = room →
        room.lookup key.snapshotId = none → cache.insert key value =
          { cache with
            segments := room.insert key.snapshotId
              (((cache.segments.lookup key.snapshotId).getD QuoteSegment.empty).insert
                cache.maxEntriesPerSegment key value) } := by
      rintro room rfl isNewToo
      simp only [insert, if_neg opened, isNewToo, isNew]
    rcases evictOldSegmentsForNewSegment_cases positive within with
      ⟨unchanged, fewer⟩ | ⟨full, oldest, stored, smallest, erased⟩
    · refine ⟨cache.segments, ⟨fun _ _ => id, fun segment => ?_, fun _ stored gone => ?_⟩,
        inserted _ unchanged isNew⟩
      · exact (HashMap.size_insert_le _ _ _).trans fewer
      · exact (gone stored).elim
    · refine ⟨cache.segments.erase oldest, ⟨fun other segment found => ?_, fun segment => ?_,
        fun other wasStored gone => ?_⟩, inserted _ erased ?_⟩
      · rw [HashMap.lookup_erase] at found
        split at found
        · cases found
        · exact found
      · refine (HashMap.size_insert_le _ _ _).trans ?_
        rw [HashMap.size_erase_of_mem stored, full]
        omega
      · have isOldest : other = oldest := by
          by_contra different
          exact gone (AList.mem_erase.mpr ⟨different, wasStored⟩)
        exact ⟨opened, full, isOldest ▸ smallest⟩
      · rw [HashMap.lookup_erase, isNew, ite_self]

/-- A read finds an entry and touches its segment, or it leaves the cache as it is. -/
theorem get_cases (cache : QuoteCache) (key : QuoteKey) :
    cache.get key = (none, cache) ∨
      ∃ segment value, cache.segments.lookup key.snapshotId = some segment ∧
        key ∈ segment.entries ∧ cache.get key = (some value,
          { cache with segments := cache.segments.update key.snapshotId (·.touch key) }) := by
  unfold get
  cases inSegments : cache.segments.lookup key.snapshotId with
  | none => exact Or.inl rfl
  | some segment =>
    dsimp only
    cases found : segment.entries.lookup key with
    | none => exact Or.inl rfl
    | some value =>
      have stored : key ∈ segment.entries := AList.lookup_isSome.mp (by rw [found]; rfl)
      exact Or.inr ⟨segment, value, rfl, stored, rfl⟩

end QuoteCache

/-! ### Runs of the cache -/

inductive CacheOperation
  | get (key : QuoteKey)
  | insert (key : QuoteKey) (value : Nat)

/-- The cache, what has been inserted, and the keys in the order in which they were inserted or
found. -/
structure CacheRecord where
  cache : QuoteCache
  inserted : List (QuoteKey × Nat)
  uses : List QuoteKey

namespace CacheRecord

def start (maxSegments maxEntries : Nat) : CacheRecord where
  cache := { maxSegments, maxEntriesPerSegment := maxEntries, segments := ∅ }
  inserted := []
  uses := []

def step (record : CacheRecord) : CacheOperation → CacheRecord
  | .get key =>
    { record with
      cache := (record.cache.get key).2
      uses := if (record.cache.get key).1.isSome then record.uses ++ [key] else record.uses }
  | .insert key value =>
    { cache := record.cache.insert key value
      inserted := record.inserted ++ [(key, value)]
      uses := record.uses ++ [key] }

/-- The operation opens a new segment while the cache is full, and the key is one of the segment
with the smallest id. -/
def LeavesWithSegment (record : CacheRecord) (operation : CacheOperation) (key : QuoteKey) :
    Prop :=
  ∃ opened value, operation = .insert opened value ∧
    opened.snapshotId ∉ record.cache.segments ∧
    record.cache.segments.size = record.cache.maxSegments ∧
    ∀ snapshotId ∈ record.cache.segments, key.snapshotId ≤ snapshotId

/-- The operation adds an entry to a full segment, and the key is the least recently used one of
the segment. -/
def LeavesAsLeastRecentlyUsed (record : CacheRecord) (operation : CacheOperation)
    (key : QuoteKey) : Prop :=
  ∃ added value segment, operation = .insert added value ∧
    added.snapshotId = key.snapshotId ∧
    record.cache.segments.lookup key.snapshotId = some segment ∧ added ∉ segment.entries ∧
    segment.entries.size = record.cache.maxEntriesPerSegment ∧
    LeastRecentlyUsed record.uses segment.entries.keys key

/-- What the cache guarantees between two operations, and about the next one. -/
structure Guaranteed (maxSegments maxEntries : Nat) (record : CacheRecord) : Prop where
  returnsLast : ∀ key value, (record.cache.get key).1 = some value →
    lastStored record.inserted key = some value
  lruNodup : ∀ snapshotId segment, record.cache.segments.lookup snapshotId = some segment →
    segment.lru.Nodup
  lruPerm : ∀ snapshotId segment, record.cache.segments.lookup snapshotId = some segment →
    segment.lru.Perm segment.entries.keys
  segmentsWithin : record.cache.segments.size ≤ maxSegments
  entriesWithin : ∀ snapshotId segment, record.cache.segments.lookup snapshotId = some segment →
    segment.entries.size ≤ maxEntries
  leaves : ∀ operation key, (record.cache.stored key).isSome →
    (record.step operation).cache.stored key = none →
      record.LeavesWithSegment operation key ∨ record.LeavesAsLeastRecentlyUsed operation key

/-- The invariant of a run: the limits never change, and every segment is ordered. -/
structure Consistent (maxSegments maxEntries : Nat) (record : CacheRecord) : Prop where
  sameMaxSegments : record.cache.maxSegments = maxSegments
  sameMaxEntries : record.cache.maxEntriesPerSegment = maxEntries
  last : ∀ key value, record.cache.stored key = some value →
    lastStored record.inserted key = some value
  segmentsWithin : record.cache.segments.size ≤ maxSegments
  entriesWithin : ∀ snapshotId segment, record.cache.segments.lookup snapshotId = some segment →
    segment.entries.size ≤ maxEntries
  ordered : ∀ snapshotId segment, record.cache.segments.lookup snapshotId = some segment →
    segment.Ordered snapshotId record.uses

variable {maxSegments maxEntries : Nat} {record : CacheRecord}

theorem consistent_start (maxSegments maxEntries : Nat) :
    (start maxSegments maxEntries).Consistent maxSegments maxEntries where
  sameMaxSegments := rfl
  sameMaxEntries := rfl
  last := fun _ _ found => nomatch found
  segmentsWithin := Nat.zero_le _
  entriesWithin := fun _ _ found => nomatch found
  ordered := fun _ _ found => nomatch found

/-! ### Reading -/

theorem Consistent.get (consistent : record.Consistent maxSegments maxEntries) (key : QuoteKey) :
    (record.step (.get key)).Consistent maxSegments maxEntries := by
  rcases record.cache.get_cases key with missed | ⟨segment, value, inSegments, stored, hit⟩
  · have unchanged : record.step (.get key) = record := by simp [step, missed]
    rw [unchanged]
    exact consistent
  · have stepped : record.step (.get key) =
        { record with
          cache := { record.cache with
            segments := record.cache.segments.update key.snapshotId (·.touch key) }
          uses := record.uses ++ [key] } := by simp [step, hit]
    have touched : ∀ snapshotId after,
        (record.cache.segments.update key.snapshotId (·.touch key)).lookup snapshotId =
          some after →
        after.Ordered snapshotId (record.uses ++ [key]) ∧ after.entries.size ≤ maxEntries := by
      intro snapshotId after found
      rw [HashMap.lookup_update] at found
      split at found
      · rename_i same
        rw [inSegments] at found
        injection found with isAfter
        rw [← isAfter, same]
        exact ⟨(consistent.ordered _ segment inSegments).touch stored,
          consistent.entriesWithin _ segment inSegments⟩
      · rename_i other
        exact ⟨(consistent.ordered snapshotId after found).use_other (Ne.symm other),
          consistent.entriesWithin snapshotId after found⟩
    have kept : ∀ other, (record.step (.get key)).cache.stored other =
        record.cache.stored other := QuoteCache.stored_get record.cache key
    refine ⟨?_, ?_, fun other found same => ?_, ?_, fun id after found => ?_,
      fun id after found => ?_⟩
    · rw [stepped]
      exact consistent.sameMaxSegments
    · rw [stepped]
      exact consistent.sameMaxEntries
    · rw [kept] at same
      exact consistent.last other found same
    · rw [stepped]
      show HashMap.size (record.cache.segments.update key.snapshotId _) ≤ maxSegments
      rw [HashMap.size_eq_length_keys, HashMap.keys_update, ← HashMap.size_eq_length_keys]
      exact consistent.segmentsWithin
    · rw [stepped] at found
      exact (touched id after found).2
    · rw [stepped] at found ⊢
      exact (touched id after found).1

/-! ### Inserting -/

/-- The segment that an insertion sets, as it was before. -/
def segmentOf (record : CacheRecord) (key : QuoteKey) : QuoteSegment :=
  (record.cache.segments.lookup key.snapshotId).getD QuoteSegment.empty

theorem Consistent.segmentOf (consistent : record.Consistent maxSegments maxEntries)
    (key : QuoteKey) : (record.segmentOf key).Ordered key.snapshotId record.uses ∧
      (record.segmentOf key).entries.size ≤ maxEntries := by
  unfold CacheRecord.segmentOf
  cases found : record.cache.segments.lookup key.snapshotId with
  | none => exact ⟨QuoteSegment.ordered_empty _ _, Nat.zero_le _⟩
  | some segment =>
    exact ⟨consistent.ordered _ segment found, consistent.entriesWithin _ segment found⟩

/-- What an insertion does: it makes room, and sets the segment of the key. -/
structure InsertStep (maxSegments maxEntries : Nat) (record : CacheRecord) (key : QuoteKey)
    (value : Nat) (room : HashMap Nat QuoteSegment) (after : QuoteSegment) : Prop where
  makesRoom : record.cache.MakesRoom key.snapshotId room
  inserted : (record.segmentOf key).Inserted after key.snapshotId record.uses maxEntries key value
  stepped : record.step (.insert key value) =
    { cache := { record.cache with segments := room.insert key.snapshotId after }
      inserted := record.inserted ++ [(key, value)]
      uses := record.uses ++ [key] }

theorem Consistent.exists_insertStep (consistent : record.Consistent maxSegments maxEntries)
    (someSegments : 1 ≤ maxSegments) (someEntries : 1 ≤ maxEntries) (key : QuoteKey)
    (value : Nat) :
    ∃ room after, record.InsertStep maxSegments maxEntries key value room after := by
  obtain ⟨ordered, within⟩ := consistent.segmentOf key
  obtain ⟨room, makesRoom, inserted⟩ := QuoteCache.exists_makesRoom
    (consistent.sameMaxSegments.symm ▸ someSegments)
    (consistent.sameMaxSegments.symm ▸ consistent.segmentsWithin) key value
  have sameMaxEntries := consistent.sameMaxEntries
  subst sameMaxEntries
  refine ⟨room, _, makesRoom, ordered.inserted rfl someEntries within value, ?_⟩
  rw [step, inserted]
  rfl

variable {key : QuoteKey} {value : Nat} {room : HashMap Nat QuoteSegment} {after : QuoteSegment}

/-- A segment after an insertion is the one that was set, or one from before. -/
theorem InsertStep.lookup
    (insertStep : record.InsertStep maxSegments maxEntries key value room after)
    {snapshotId : Nat} {segment : QuoteSegment}
    (found : (record.step (.insert key value)).cache.segments.lookup snapshotId = some segment) :
    snapshotId = key.snapshotId ∧ segment = after ∨
      snapshotId ≠ key.snapshotId ∧ record.cache.segments.lookup snapshotId = some segment := by
  rw [insertStep.stepped] at found
  dsimp only at found
  rw [HashMap.lookup_insert] at found
  split at found
  · rename_i same
    injection found with isAfter
    exact Or.inl ⟨same, isAfter.symm⟩
  · rename_i other
    exact Or.inr ⟨other, insertStep.makesRoom.kept snapshotId segment found⟩

theorem InsertStep.stored_self
    (insertStep : record.InsertStep maxSegments maxEntries key value room after) :
    (record.step (.insert key value)).cache.stored key = some value := by
  rw [insertStep.stepped]
  unfold QuoteCache.stored
  rw [AList.lookup_insert]
  exact insertStep.inserted.stored

theorem Consistent.insert (consistent : record.Consistent maxSegments maxEntries)
    (insertStep : record.InsertStep maxSegments maxEntries key value room after) :
    (record.step (.insert key value)).Consistent maxSegments maxEntries where
  sameMaxSegments := by
    rw [insertStep.stepped]
    exact consistent.sameMaxSegments
  sameMaxEntries := by
    rw [insertStep.stepped]
    exact consistent.sameMaxEntries
  last := by
    intro other found stored
    show lastStored (record.inserted ++ [(key, value)]) other = some found
    rw [lastStored_append]
    split
    · rename_i same
      rw [← same, insertStep.stored_self] at stored
      exact stored
    · rename_i different
      rcases QuoteCache.stored_insert stored with ⟨same, _⟩ | old
      · exact (different same.symm).elim
      · exact consistent.last other found old
  segmentsWithin := by
    rw [insertStep.stepped, ← consistent.sameMaxSegments]
    exact insertStep.makesRoom.within after
  entriesWithin := by
    intro snapshotId segment found
    rcases insertStep.lookup found with ⟨_, rfl⟩ | ⟨_, old⟩
    · exact insertStep.inserted.within
    · exact consistent.entriesWithin snapshotId segment old
  ordered := by
    intro snapshotId segment found
    rcases insertStep.lookup found with ⟨rfl, rfl⟩ | ⟨other, old⟩
    · exact insertStep.inserted.ordered
    · exact (consistent.ordered snapshotId segment old).use_other other.symm

/-- An entry that an insertion removes leaves with its segment, or as the least recently used one of
a full segment. -/
theorem InsertStep.leaves
    (insertStep : record.InsertStep maxSegments maxEntries key value room after)
    (consistent : record.Consistent maxSegments maxEntries) {other : QuoteKey}
    (stored : (record.cache.stored other).isSome)
    (gone : (record.step (.insert key value)).cache.stored other = none) :
    record.LeavesWithSegment (.insert key value) other ∨
      record.LeavesAsLeastRecentlyUsed (.insert key value) other := by
  obtain ⟨found, isStored⟩ := Option.isSome_iff_exists.mp stored
  obtain ⟨segment, inSegments, entry⟩ := Option.bind_eq_some_iff.mp isStored
  have wasThere : other ∈ segment.entries := AList.lookup_isSome.mp (by rw [entry]; rfl)
  rw [insertStep.stepped] at gone
  unfold QuoteCache.stored at gone
  rw [HashMap.lookup_insert] at gone
  by_cases same : other.snapshotId = key.snapshotId
  · right
    rw [if_pos same, Option.bind_some] at gone
    have isSegment : record.segmentOf key = segment := by
      unfold CacheRecord.segmentOf
      rw [← same, inSegments]
      rfl
    obtain ⟨new, full, oldest⟩ := insertStep.inserted.dropped other (isSegment ▸ wasThere)
      (AList.lookup_eq_none.mp gone)
    rw [isSegment] at new full oldest
    exact ⟨key, value, segment, rfl, same.symm, inSegments, new,
      full.trans consistent.sameMaxEntries.symm, oldest⟩
  · left
    rw [if_neg same] at gone
    have dropped : other.snapshotId ∉ room := by
      intro inRoom
      obtain ⟨kept, isKept⟩ := Option.isSome_iff_exists.mp (AList.lookup_isSome.mpr inRoom)
      have wasKept := insertStep.makesRoom.kept _ kept isKept
      rw [inSegments] at wasKept
      injection wasKept with sameSegment
      rw [isKept, Option.bind_some, ← sameSegment, entry] at gone
      cases gone
    have wasSegment : other.snapshotId ∈ record.cache.segments :=
      AList.lookup_isSome.mp (by rw [inSegments]; rfl)
    obtain ⟨opened, full, smallest⟩ := insertStep.makesRoom.dropped _ wasSegment dropped
    exact ⟨key, value, rfl, opened, full, smallest⟩

theorem Consistent.guaranteed (consistent : record.Consistent maxSegments maxEntries)
    (someSegments : 1 ≤ maxSegments) (someEntries : 1 ≤ maxEntries) :
    record.Guaranteed maxSegments maxEntries where
  returnsLast := by
    intro key value returned
    rw [QuoteCache.get_fst] at returned
    exact consistent.last key value returned
  lruNodup := fun id segment found => (consistent.ordered id segment found).inOrder.nodup
  lruPerm := fun id segment found => (consistent.ordered id segment found).perm_keys
  segmentsWithin := consistent.segmentsWithin
  entriesWithin := consistent.entriesWithin
  leaves := by
    intro operation key stored gone
    cases operation with
    | get read =>
      have kept : (record.step (.get read)).cache.stored key = record.cache.stored key :=
        QuoteCache.stored_get record.cache read key
      rw [← kept, gone] at stored
      cases stored
    | insert added value =>
      obtain ⟨room, after, insertStep⟩ :=
        consistent.exists_insertStep someSegments someEntries added value
      exact insertStep.leaves consistent stored gone

end CacheRecord

/-- Over every sequence of operations, and between any two of them, the cache keeps its
guarantees. -/
theorem quoteCache_guaranteed {maxSegments maxEntries : Nat} (someSegments : 1 ≤ maxSegments)
    (someEntries : 1 ≤ maxEntries) (operations : List CacheOperation) :
    Always CacheRecord.step (CacheRecord.Guaranteed maxSegments maxEntries)
      (.start maxSegments maxEntries) operations := by
  have consistent : Always CacheRecord.step (CacheRecord.Consistent maxSegments maxEntries)
      (.start maxSegments maxEntries) operations := by
    have all : StepsMeet CacheRecord.step (fun _ _ => True) (.start maxSegments maxEntries)
        operations := stepsMeet_of_forall (fun _ _ => trivial) _ _
    refine always_of_stepsMeet (fun record operation holds _ => ?_)
      (CacheRecord.consistent_start _ _) all
    cases operation with
    | get key => exact holds.get key
    | insert key value =>
      obtain ⟨room, after, insertStep⟩ :=
        holds.exists_insertStep someSegments someEntries key value
      exact holds.insert insertStep
  exact consistent.mono fun record holds => holds.guaranteed someSegments someEntries

def sampleKey (snapshotId amountIn : Nat) : QuoteKey where
  snapshotId := snapshotId
  poolId := 1
  tokenIn := 2
  tokenOut := 3
  amountIn := amountIn

/-- A third amount takes the place of the one that was not read, and a new snapshot that of an old
one. -/
def crowdedOperations : List CacheOperation :=
  [.insert (sampleKey 1 100) 90, .insert (sampleKey 1 200) 170, .get (sampleKey 1 100),
    .insert (sampleKey 1 300) 240, .insert (sampleKey 2 100) 91, .insert (sampleKey 3 100) 92]

theorem quoteCache_guaranteed_crowded :
    (runFrom CacheRecord.step (.start 2 2) (crowdedOperations.take 4)).cache.stored
        (sampleKey 1 200) = none ∧
      (runFrom CacheRecord.step (.start 2 2) crowdedOperations).cache.stored (sampleKey 1 100) =
        none ∧
      Always CacheRecord.step (CacheRecord.Guaranteed 2 2) (.start 2 2) crowdedOperations :=
  ⟨by decide +kernel, by decide +kernel,
    quoteCache_guaranteed (by decide) (by decide) crowdedOperations⟩

end DexArbitrage
