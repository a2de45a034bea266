/-
This file models how the logs of one poll become a refresh batch:
`build_refresh_batch` and `upsert_trigger` of `src/discovery/event_stream.rs`,
and the selection of patches in `src/engine.rs`.

The triggers are collected in a hash map and handed on in its iteration order,
which is a parameter of `buildRefreshBatch`. Of one pool the map keeps a single
trigger: a full refresh wins over patches, and among patches the first one
stays.
-/

import DexArbitrage.Discovery.LogDecode

namespace DexArbitrage

def upsertTrigger (triggers : HashMap Address RefreshTrigger) (poolId : Address)
    (trigger : RefreshTrigger) : HashMap Address RefreshTrigger :=
  match triggers.lookup poolId with
  | some existing =>
    if existing.fullRefresh then
      triggers
    else if trigger.fullRefresh then
      triggers.insert poolId trigger
    else
      triggers
  | none => triggers.insert poolId trigger

/-- The trigger of a pool for the patch its log decoded to, if it did. -/
def logTrigger (poolId : Address) (origin : String) (patch : Option PoolStatePatch) :
    RefreshTrigger where
  poolId := some poolId
  fullRefresh := patch.isNone
  source := if patch.isSome then origin ++ "-log-patch" else origin ++ "-log-refresh"
  patch := patch

section Batch

variable (signatureHash : String → B256)

/-- The pools of the Balancer vault, by their vault id. -/
def balancerMap (snapshot : GraphSnapshot) : HashMap B256 Address :=
  HashMap.ofList (snapshot.pools.values.filterMap fun pool =>
    match pool.state with
    | .balancerWeighted state => some (state.poolId, pool.poolId)
    | _ => none)

/-- The pool a log is about and the trigger it causes there, if any. -/
def routeLog (snapshot : GraphSnapshot) (log : RpcLog) : Option (Address × RefreshTrigger) :=
  if (snapshot.pools.lookup log.address).isSome then
    some (log.address, logTrigger log.address "pool" (decodePoolPatch signatureHash snapshot log))
  else do
    let topic1 ← log.topics[1]?
    let poolId ← (balancerMap snapshot).lookup topic1
    return (poolId,
      logTrigger poolId "balancer-vault" (decodeBalancerVaultPatch signatureHash poolId log))

def upsertLog (snapshot : GraphSnapshot) (triggers : HashMap Address RefreshTrigger)
    (log : RpcLog) : HashMap Address RefreshTrigger :=
  match routeLog signatureHash snapshot log with
  | some (poolId, trigger) => upsertTrigger triggers poolId trigger
  | none => triggers

def collectTriggers (snapshot : GraphSnapshot) (logs : List RpcLog) :
    HashMap Address RefreshTrigger :=
  logs.foldl (upsertLog signatureHash snapshot) ∅

/-- The batch, with the triggers in the order in which the hash map yields them. -/
def buildRefreshBatch (order : List RefreshTrigger → List RefreshTrigger)
    (snapshot : GraphSnapshot) (logs : List RpcLog) : RefreshBatch where
  triggers := order (collectTriggers signatureHash snapshot logs).values

def triggerPatch (trigger : RefreshTrigger) : Option PoolStatePatch :=
  if trigger.fullRefresh then none else trigger.patch

def collectPatches (batch : RefreshBatch) : List PoolStatePatch :=
  (batch.triggers.filter fun trigger => ! trigger.fullRefresh).filterMap RefreshTrigger.patch

/-- What the logs of a list that are about a pool decode to, in list order. -/
def decodedLogs (snapshot : GraphSnapshot) (poolId : Address) (logs : List RpcLog) :
    List (Option PoolStatePatch) :=
  logs.filterMap fun log =>
    match routeLog signatureHash snapshot log with
    | some (routed, trigger) => if routed = poolId then some trigger.patch else none
    | none => none

/-! ### Which trigger a pool is left with -/

variable {signatureHash}

/-- Every trigger is filed under its pool, asks for a full refresh exactly when it has no patch,
and its patch names the pool. -/
structure FiledUnder (poolId : Address) (trigger : RefreshTrigger) : Prop where
  refresh : trigger.fullRefresh = trigger.patch.isNone
  patch : ∀ patch, trigger.patch = some patch → patch.poolId = poolId

theorem routeLog_filed {snapshot : GraphSnapshot} {log : RpcLog} {poolId : Address}
    {trigger : RefreshTrigger}
    (routed : routeLog signatureHash snapshot log = some (poolId, trigger)) :
    FiledUnder poolId trigger := by
  unfold routeLog at routed
  split at routed
  · injection routed with routed
    injection routed with same sameTrigger
    subst same sameTrigger
    exact ⟨rfl, fun patch decoded => decodePoolPatch_poolId decoded⟩
  · obtain ⟨topic1, _, routed⟩ := Option.bind_eq_some_iff.mp routed
    obtain ⟨vaultPool, _, routed⟩ := Option.bind_eq_some_iff.mp routed
    injection routed with routed
    injection routed with same sameTrigger
    subst same sameTrigger
    exact ⟨rfl, fun patch decoded => decodeBalancerVaultPatch_poolId decoded⟩

theorem lookup_upsertTrigger_ne (triggers : HashMap Address RefreshTrigger)
    {poolId other : Address} (trigger : RefreshTrigger) (different : other ≠ poolId) :
    (upsertTrigger triggers poolId trigger).lookup other = triggers.lookup other := by
  unfold upsertTrigger
  cases triggers.lookup poolId with
  | none => exact AList.lookup_insert_ne different
  | some existing =>
    by_cases full : existing.fullRefresh = true
    · simp only [if_pos full]
    · by_cases refresh : trigger.fullRefresh = true
      · simp only [if_neg full, if_pos refresh]
        exact AList.lookup_insert_ne different
      · simp only [if_neg full, if_neg refresh]

/-- A pool without a trigger gets the new one. -/
theorem lookup_upsertTrigger_none {triggers : HashMap Address RefreshTrigger} {poolId : Address}
    (trigger : RefreshTrigger) (absent : triggers.lookup poolId = none) :
    (upsertTrigger triggers poolId trigger).lookup poolId = some trigger := by
  unfold upsertTrigger
  rw [absent]
  exact AList.lookup_insert triggers

/-- A patch that is already filed stays when another patch arrives. -/
theorem lookup_upsertTrigger_kept {triggers : HashMap Address RefreshTrigger} {poolId : Address}
    {existing trigger : RefreshTrigger} (stored : triggers.lookup poolId = some existing)
    (patch : trigger.fullRefresh = false) :
    (upsertTrigger triggers poolId trigger).lookup poolId = some existing := by
  unfold upsertTrigger
  simp only [stored, patch, Bool.false_eq_true, if_false, ite_self]

theorem lookup_upsertTrigger_cases (triggers : HashMap Address RefreshTrigger)
    (poolId : Address) (trigger : RefreshTrigger) :
    (upsertTrigger triggers poolId trigger).lookup poolId = some trigger ∨
      (upsertTrigger triggers poolId trigger).lookup poolId = triggers.lookup poolId := by
  unfold upsertTrigger
  cases stored : triggers.lookup poolId with
  | none => exact Or.inl (AList.lookup_insert triggers)
  | some existing =>
    by_cases full : existing.fullRefresh = true
    · exact Or.inr (by simp only [if_pos full, stored])
    · by_cases refresh : trigger.fullRefresh = true
      · simp only [if_neg full, if_pos refresh]
        exact Or.inl (AList.lookup_insert triggers)
      · exact Or.inr (by simp only [if_neg full, if_neg refresh, stored])

/-- Every trigger of the map is filed under its pool. -/
def AllFiled (triggers : HashMap Address RefreshTrigger) : Prop :=
  ∀ poolId trigger, triggers.lookup poolId = some trigger → FiledUnder poolId trigger

theorem allFiled_upsertLog {snapshot : GraphSnapshot}
    {triggers : HashMap Address RefreshTrigger} (filed : AllFiled triggers) (log : RpcLog) :
    AllFiled (upsertLog signatureHash snapshot triggers log) := by
  unfold upsertLog
  cases routed : routeLog signatureHash snapshot log with
  | none => exact filed
  | some target =>
    obtain ⟨poolId, trigger⟩ := target
    intro other found stored
    by_cases same : other = poolId
    · subst same
      rcases lookup_upsertTrigger_cases triggers other trigger with new | old
      · rw [new] at stored
        injection stored with same
        exact same ▸ routeLog_filed routed
      · exact filed other found (old ▸ stored)
    · rw [lookup_upsertTrigger_ne triggers trigger same] at stored
      exact filed other found stored

theorem allFiled_foldl {snapshot : GraphSnapshot} {triggers : HashMap Address RefreshTrigger}
    (filed : AllFiled triggers) (logs : List RpcLog) :
    AllFiled (logs.foldl (upsertLog signatureHash snapshot) triggers) := by
  induction logs generalizing triggers with
  | nil => exact filed
  | cons log rest inductionHypothesis => exact inductionHypothesis (allFiled_upsertLog filed log)

theorem allFiled_collectTriggers (snapshot : GraphSnapshot) (logs : List RpcLog) :
    AllFiled (collectTriggers signatureHash snapshot logs) :=
  allFiled_foldl (fun _ _ stored => by cases stored) logs

/-- One log about a pool whose logs decode: the first patch stays. -/
theorem patch_upsertLog {snapshot : GraphSnapshot} {triggers : HashMap Address RefreshTrigger}
    {poolId : Address} {log : RpcLog}
    (kept : ∀ trigger, triggers.lookup poolId = some trigger → trigger.patch.isSome = true)
    (decodes : ∀ patch ∈ decodedLogs signatureHash snapshot poolId [log], patch.isSome = true) :
    ((upsertLog signatureHash snapshot triggers log).lookup poolId).map RefreshTrigger.patch =
      ((triggers.lookup poolId).map RefreshTrigger.patch).or
        (decodedLogs signatureHash snapshot poolId [log]).head? := by
  unfold upsertLog decodedLogs at *
  cases routed : routeLog signatureHash snapshot log with
  | none => simp [routed]
  | some target =>
    obtain ⟨routedPool, trigger⟩ := target
    by_cases own : routedPool = poolId
    · subst own
      have decoded : trigger.patch.isSome = true := by simpa [routed] using decodes
      have patches : trigger.fullRefresh = false := by
        rw [(routeLog_filed routed).refresh, ← Option.not_isSome, decoded]
        rfl
      cases stored : triggers.lookup routedPool with
      | none => simp [routed, lookup_upsertTrigger_none trigger stored]
      | some existing => simp [lookup_upsertTrigger_kept stored patches]
    · simp [routed, own, lookup_upsertTrigger_ne triggers trigger (Ne.symm own)]

theorem decodedLogs_cons (snapshot : GraphSnapshot) (poolId : Address) (log : RpcLog)
    (rest : List RpcLog) :
    decodedLogs signatureHash snapshot poolId (log :: rest) =
      decodedLogs signatureHash snapshot poolId [log] ++
        decodedLogs signatureHash snapshot poolId rest := by
  show List.filterMap _ ([log] ++ rest) = _
  exact List.filterMap_append

/-- Over a whole list of logs that decode, the first patch stays. -/
theorem patch_foldl_upsertLog {snapshot : GraphSnapshot} {poolId : Address} {logs : List RpcLog}
    {triggers : HashMap Address RefreshTrigger}
    (kept : ∀ trigger, triggers.lookup poolId = some trigger → trigger.patch.isSome = true)
    (decodes : ∀ patch ∈ decodedLogs signatureHash snapshot poolId logs, patch.isSome = true) :
    ((logs.foldl (upsertLog signatureHash snapshot) triggers).lookup poolId).map
        RefreshTrigger.patch =
      ((triggers.lookup poolId).map RefreshTrigger.patch).or
        (decodedLogs signatureHash snapshot poolId logs).head? := by
  induction logs generalizing triggers with
  | nil => exact (Option.or_none).symm
  | cons log rest inductionHypothesis =>
    rw [decodedLogs_cons] at decodes
    have first := patch_upsertLog kept fun patch member =>
      decodes patch (List.mem_append_left _ member)
    have keptAfter : ∀ trigger,
        (upsertLog signatureHash snapshot triggers log).lookup poolId = some trigger →
          trigger.patch.isSome = true := by
      intro trigger stored
      rw [stored] at first
      cases before : triggers.lookup poolId with
      | some existing =>
        rw [before] at first
        have same : trigger.patch = existing.patch := Option.some.inj first
        rw [same]
        exact kept existing before
      | none =>
        rw [before] at first
        have found : some trigger.patch =
            (decodedLogs signatureHash snapshot poolId [log]).head? := first
        exact decodes trigger.patch
          (List.mem_append_left _ (List.mem_of_mem_head? found.symm))
    have others := inductionHypothesis keptAfter fun patch member =>
      decodes patch (List.mem_append_right _ member)
    rw [List.foldl_cons, others, first, decodedLogs_cons snapshot poolId log rest,
      List.head?_append, Option.or_assoc]

/-! ### Which patches are collected -/

theorem collectPatches_eq (batch : RefreshBatch) :
    collectPatches batch = batch.triggers.filterMap triggerPatch := by
  unfold collectPatches
  rw [List.filterMap_filter]
  refine List.filterMap_congr fun trigger _ => ?_
  unfold triggerPatch
  cases trigger.fullRefresh <;> rfl

/-- Of a pool whose logs all decode, exactly the patch of its first log is collected. -/
theorem collectPatches_own {order : List RefreshTrigger → List RefreshTrigger}
    (shuffles : ∀ triggers, (order triggers).Perm triggers) {snapshot : GraphSnapshot}
    {logs : List RpcLog} {poolId : Address} {patches : List PoolStatePatch}
    (decodes : decodedLogs signatureHash snapshot poolId logs = patches.map some) :
    (collectPatches (buildRefreshBatch signatureHash order snapshot logs)).filter
        (fun patch => patch.poolId = poolId) = patches.take 1 := by
  have filed : AllFiled (collectTriggers signatureHash snapshot logs) :=
    allFiled_collectTriggers snapshot logs
  have own : ∀ other trigger patch,
      (collectTriggers signatureHash snapshot logs).lookup other = some trigger →
      triggerPatch trigger = some patch →
      (decide (patch.poolId = poolId) = true ↔ other = poolId) := by
    intro other trigger patch stored selected
    unfold triggerPatch at selected
    split at selected
    · cases selected
    · rw [decide_eq_true_iff, (filed other trigger stored).patch patch selected]
  have yielded := HashMap.filter_filterMap_values (collectTriggers signatureHash snapshot logs)
    poolId triggerPatch (fun patch => patch.poolId = poolId) own
  have kept : ((collectTriggers signatureHash snapshot logs).lookup poolId).map
      RefreshTrigger.patch = (patches.map some).head? := by
    rw [← decodes]
    refine patch_foldl_upsertLog (fun _ stored => by cases stored) fun patch member => ?_
    rw [decodes] at member
    obtain ⟨decoded, _, same⟩ := List.mem_map.mp member
    rw [← same]
    rfl
  have selected : ((collectTriggers signatureHash snapshot logs).lookup poolId).bind triggerPatch =
      patches.head? := by
    cases stored : (collectTriggers signatureHash snapshot logs).lookup poolId with
    | none =>
      rw [stored, List.head?_map] at kept
      exact (Option.map_eq_none_iff.mp kept.symm).symm
    | some trigger =>
      rw [stored, List.head?_map] at kept
      obtain ⟨patch, first, same⟩ := Option.map_eq_some_iff.mp kept.symm
      rw [first]
      show (if trigger.fullRefresh then none else trigger.patch) = some patch
      rw [(filed poolId trigger stored).refresh, ← same]
      rfl
  have collected : ((collectPatches (buildRefreshBatch signatureHash order snapshot logs)).filter
      fun patch => patch.poolId = poolId).Perm patches.head?.toList := by
    rw [collectPatches_eq, ← selected, ← yielded]
    exact ((shuffles _).filterMap triggerPatch).filter _
  cases patches with
  | nil => exact List.perm_nil.mp collected
  | cons first rest => exact List.perm_singleton.mp collected

end Batch

end DexArbitrage
