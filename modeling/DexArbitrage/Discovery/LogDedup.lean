/-
This file is about the logs that the event stream drops as duplicates. Its key
of a log has the block, the transaction, the emitter, the first topic and the
hash of the data. Logs that differ only in a later topic share their key, and
these are the only ones that are taken for duplicates of each other without
being so.
-/

import DexArbitrage.Discovery.EventStream

namespace DexArbitrage

/-- The two logs agree in everything that tells logs apart on the chain. -/
structure SameLog (log other : RpcLog) : Prop where
  blockNumber : log.blockNumber = other.blockNumber
  txHash : log.txHash = other.txHash
  address : log.address = other.address
  topics : log.topics = other.topics
  data : log.data = other.data

/-- The two logs agree in what the key of a log is made of. -/
structure SameKeyFields (log other : RpcLog) : Prop where
  blockNumber : log.blockNumber = other.blockNumber
  txHash : log.txHash = other.txHash
  address : log.address = other.address
  firstTopic : log.topics.head? = other.topics.head?
  data : log.data = other.data

theorem SameKeyFields.sameLog {log other : RpcLog} (fields : SameKeyFields log other)
    (topics : log.topics = other.topics) : SameLog log other :=
  ⟨fields.blockNumber, fields.txHash, fields.address, topics, fields.data⟩

variable {hashLogData : Bytes → Nat}

theorem logKey_eq_iff (injective : Function.Injective hashLogData) (log other : RpcLog) :
    logKey hashLogData log = logKey hashLogData other ↔ SameKeyFields log other := by
  constructor
  · intro same
    injection same with blockNumber txHash address firstTopic data
    exact ⟨blockNumber, txHash, address, firstTopic, injective data⟩
  · rintro ⟨blockNumber, txHash, address, firstTopic, data⟩
    unfold logKey
    rw [blockNumber, txHash, address, firstTopic, data]

/-! ### Within one list of logs -/

/-- A log of the list is dropped only for a log kept before it that agrees with it. -/
def DedupDropsDuplicates (hashLogData : Bytes → Nat) (logs : List RpcLog) : Prop :=
  ∀ before log, before ++ [log] <+: logs →
    dedupLogs hashLogData (before ++ [log]) = dedupLogs hashLogData before →
      ∃ kept ∈ dedupLogs hashLogData before, SameLog kept log

/-- No two logs of the list are told apart by their later topics alone. -/
def TopicsTellNoneApart (logs : List RpcLog) : Prop :=
  ∀ log ∈ logs, ∀ other ∈ logs, SameKeyFields log other → log.topics = other.topics

/-- Each log of the list is kept or agrees with a kept one. -/
theorem DedupDropsDuplicates.exists_kept {logs : List RpcLog}
    (drops : DedupDropsDuplicates hashLogData logs) {log : RpcLog} (member : log ∈ logs) :
    ∃ kept ∈ dedupLogs hashLogData logs, SameLog kept log := by
  obtain ⟨before, after, split⟩ := List.append_of_mem member
  have isPrefix : before ++ [log] <+: logs := ⟨after, by rw [split, List.append_assoc]; rfl⟩
  obtain ⟨rest, whole⟩ : ∃ rest, dedupLogs hashLogData logs =
      dedupLogs hashLogData (before ++ [log]) ++ rest := by
    obtain ⟨after, split⟩ := isPrefix
    rw [← split]
    exact ⟨_, dedupBy_append _ _ _ _⟩
  rw [whole]
  by_cases found : logKey hashLogData log ∈
      (dedupLogs hashLogData before).map (logKey hashLogData)
  · have dropped := (dedupBy_concat_eq_iff _ _ _).mpr found
    obtain ⟨kept, inBefore, same⟩ := drops before log isPrefix dropped
    refine ⟨kept, List.mem_append_left _ ?_, same⟩
    rw [show dedupLogs hashLogData (before ++ [log]) = dedupLogs hashLogData before from dropped]
    exact inBefore
  · refine ⟨log, List.mem_append_left _ ?_, rfl, rfl, rfl, rfl, rfl⟩
    rw [show dedupLogs hashLogData (before ++ [log]) = dedupLogs hashLogData before ++ [log] from
      (dedupBy_concat _ _ _).trans (if_neg found)]
    exact List.mem_append_right _ List.mem_cons_self

theorem dedupDropsDuplicates_iff (injective : Function.Injective hashLogData)
    (logs : List RpcLog) :
    DedupDropsDuplicates hashLogData logs ↔ TopicsTellNoneApart logs := by
  constructor
  · intro drops log member other otherMember fields
    obtain ⟨kept, inKept, same⟩ := drops.exists_kept member
    obtain ⟨otherKept, otherInKept, otherSame⟩ := drops.exists_kept otherMember
    have keys : logKey hashLogData kept = logKey hashLogData otherKept := by
      rw [(logKey_eq_iff injective _ _).mpr ⟨same.blockNumber, same.txHash, same.address,
          congrArg List.head? same.topics, same.data⟩,
        (logKey_eq_iff injective _ _).mpr fields,
        (logKey_eq_iff injective _ _).mpr ⟨otherSame.blockNumber, otherSame.txHash,
          otherSame.address, congrArg List.head? otherSame.topics, otherSame.data⟩]
    have equal : kept = otherKept :=
      List.inj_on_of_nodup_map (nodup_keys_dedupBy _ _ _) inKept otherInKept keys
    rw [← same.topics, equal, otherSame.topics]
  · intro toldApart before log isPrefix dropped
    obtain ⟨kept, inBefore, sameKey⟩ :=
      List.mem_map.mp ((dedupBy_concat_eq_iff _ _ _).mp dropped)
    have fields := (logKey_eq_iff injective _ _).mp sameKey
    have keptMember : kept ∈ logs :=
      isPrefix.subset (List.mem_append_left _ (mem_of_mem_dedupBy inBefore))
    have member : log ∈ logs :=
      isPrefix.subset (List.mem_append_right _ List.mem_cons_self)
    exact ⟨kept, inBefore, fields.sameLog (toldApart kept keptMember log member fields)⟩

/-! ### Against the logs recorded before -/

/-- The stream after the given lists of logs were recorded. -/
def recordAll (settings : WssSettings) (hashLogData : Bytes → Nat)
    (batches : List (List RpcLog)) : EventStream :=
  batches.foldl (fun stream logs => stream.recordWssLogKeys settings hashLogData logs) .new

/-- A log is filtered out only when a recorded log agrees with it. -/
def FilterDropsRecorded (hashLogData : Bytes → Nat) (stream : EventStream)
    (recorded logs : List RpcLog) : Prop :=
  ∀ log ∈ logs, log ∉ stream.filterSeenWssLogs hashLogData logs →
    ∃ earlier ∈ recorded, SameLog earlier log

/-- A log that shares its key fields with a recorded log, and whose key is remembered, is itself
recorded. -/
def RememberedAreRecorded (hashLogData : Bytes → Nat) (stream : EventStream)
    (recorded logs : List RpcLog) : Prop :=
  ∀ log ∈ logs, ∀ earlier ∈ recorded, SameKeyFields earlier log →
    stream.recentWssLogs.contains (logKey hashLogData log) = true →
      ∃ same ∈ recorded, SameLog same log

/-- The remembered keys are keys of recorded logs. -/
theorem exists_recorded_of_contains {settings : WssSettings} {batches : List (List RpcLog)}
    {key : LogKey}
    (found : (recordAll settings hashLogData batches).recentWssLogs.contains key = true) :
    ∃ earlier ∈ batches.flatten, logKey hashLogData earlier = key := by
  induction batches using List.reverseRecOn with
  | nil =>
    have empty : (∅ : Finset LogKey).Nonempty := ⟨key, of_decide_eq_true found⟩
    exact absurd empty Finset.not_nonempty_empty
  | append_singleton batches logs inductionHypothesis =>
    unfold recordAll at found
    rw [List.foldl_append] at found
    rw [List.flatten_append]
    rcases RecentKeys.contains_foldl_insert found with new | old
    · obtain ⟨log, member, sameKey⟩ := List.mem_map.mp new
      refine ⟨log, List.mem_append_right _ ?_, sameKey⟩
      rw [List.flatten_singleton]
      exact member
    · obtain ⟨earlier, member, sameKey⟩ := inductionHypothesis old
      exact ⟨earlier, List.mem_append_left _ member, sameKey⟩

theorem filterDropsRecorded_iff (injective : Function.Injective hashLogData)
    (settings : WssSettings) (batches : List (List RpcLog)) (logs : List RpcLog) :
    FilterDropsRecorded hashLogData (recordAll settings hashLogData batches) batches.flatten
        logs ↔
      RememberedAreRecorded hashLogData (recordAll settings hashLogData batches) batches.flatten
        logs := by
  have filtered : ∀ log ∈ logs,
      (log ∉ (recordAll settings hashLogData batches).filterSeenWssLogs hashLogData logs ↔
        (recordAll settings hashLogData batches).recentWssLogs.contains
          (logKey hashLogData log) = true) := by
    intro log member
    unfold EventStream.filterSeenWssLogs
    rw [List.mem_filter, and_iff_right member, Bool.not_eq_true', Bool.not_eq_false]
  constructor
  · intro drops log member earlier _ _ remembered
    exact drops log member ((filtered log member).mpr remembered)
  · intro recorded log member dropped
    have remembered := (filtered log member).mp dropped
    obtain ⟨earlier, inBatches, sameKey⟩ := exists_recorded_of_contains remembered
    have fields := (logKey_eq_iff injective _ _).mp sameKey
    exact recorded log member earlier inBatches fields remembered

/-! ### Both filters -/

/-- As long as the hash tells data apart: the logs that are dropped agree with a log kept or
recorded before exactly when no two logs of a list differ in their later topics alone, and a log
that differs from a remembered one in its later topics alone was recorded itself. -/
theorem dropsOnlyDuplicates_iff (injective : Function.Injective hashLogData)
    (settings : WssSettings) (batches : List (List RpcLog)) (logs : List RpcLog) :
    (DedupDropsDuplicates hashLogData logs ↔ TopicsTellNoneApart logs) ∧
      (FilterDropsRecorded hashLogData (recordAll settings hashLogData batches) batches.flatten
          logs ↔
        RememberedAreRecorded hashLogData (recordAll settings hashLogData batches)
          batches.flatten logs) :=
  ⟨dedupDropsDuplicates_iff injective logs,
    filterDropsRecorded_iff injective settings batches logs⟩

/-! ### Two swaps of one vault -/

/-- A swap in the pool with the given id: two tokens, the amounts 5 and 7. -/
def vaultSwap (balancerPoolId : B256) : RpcLog where
  address := 500
  topics := [11, balancerPoolId, 21, 22]
  data := toBigEndian 32 5 ++ toBigEndian 32 7
  blockNumber := some 100
  blockHash := some 100
  txHash := some 9

/-- A hash that tells all data apart. -/
def numberOfData (data : Bytes) : Nat :=
  fromBigEndian (1 :: data)

def vaultSettings : WssSettings where
  wsUrlConfigured := true
  recentLogCapacity := 4096
  reconcileStrategy := .adaptive
  reconcileConfirmationBlocks := 0
  reconcileIntervalBlocks := 2
  reconcileInterval := 10
  auditIntervalBlocks := 30
  auditInterval := 60
  reconcileBurstThreshold := 3
  reconcileBurstDuration := 30

/-- A log that is delivered twice is dropped for itself. -/
theorem dropsOnlyDuplicates_repeated :
    DedupDropsDuplicates numberOfData [vaultSwap 1, vaultSwap 1] ∧
      FilterDropsRecorded numberOfData (recordAll vaultSettings numberOfData [[vaultSwap 1]])
        [vaultSwap 1] [vaultSwap 1] := by
  have both := dropsOnlyDuplicates_iff fromBigEndian_cons_one_injective vaultSettings
    [[vaultSwap 1]] [vaultSwap 1, vaultSwap 1]
  have once := dropsOnlyDuplicates_iff fromBigEndian_cons_one_injective vaultSettings
    [[vaultSwap 1]] [vaultSwap 1]
  refine ⟨both.1.mpr fun log member other otherMember _ => ?_,
    once.2.mpr fun log member _ _ _ _ => ?_⟩
  · have all : ∀ log ∈ [vaultSwap 1, vaultSwap 1], log = vaultSwap 1 := by simp
    rw [all log member, all other otherMember]
  · rw [List.mem_singleton.mp member]
    exact ⟨vaultSwap 1, List.mem_cons_self, rfl, rfl, rfl, rfl, rfl⟩

/-- Two pools of one vault swap the same amounts in one transaction: the second log is dropped for
the first one, in a list as well as after the first one was recorded. -/
theorem not_dropsOnlyDuplicates_twoPools :
    Function.Injective numberOfData ∧
      ¬ DedupDropsDuplicates numberOfData [vaultSwap 1, vaultSwap 2] ∧
      ¬ FilterDropsRecorded numberOfData (recordAll vaultSettings numberOfData [[vaultSwap 1]])
        [vaultSwap 1] [vaultSwap 2] := by
  refine ⟨fromBigEndian_cons_one_injective, fun drops => ?_, fun drops => ?_⟩
  · obtain ⟨kept, member, same⟩ :=
      drops [vaultSwap 1] (vaultSwap 2) (List.prefix_refl _) (by decide +kernel)
    have first : kept = vaultSwap 1 := List.mem_singleton.mp (mem_of_mem_dedupBy member)
    rw [first] at same
    exact absurd same.topics (by decide)
  · obtain ⟨earlier, member, same⟩ := drops (vaultSwap 2) List.mem_cons_self (by decide +kernel)
    rw [List.mem_singleton.mp member] at same
    exact absurd same.topics (by decide)

end DexArbitrage
