/-
This file is the nonce manager under concurrent calls. `sync` and `reconcile`
wait for replies of the chain, and between their await points anything else may
run; every stretch between two awaits is atomic.

`sync` reads and stores the counter in one stretch. `reconcile` reads the
counter before it asks for receipts and stores it afterwards, so its value may
be out of date. It only asks for receipts of nonces from the on-chain one on,
however, and those have been reserved: so when it had to wait, the on-chain
nonce is below what it has read and it stores nothing. What remains is the wrap
of the counter, which is an `AtomicU64`: a nonce can come back, and the counter
decrease, only through a reservation of `u64::MAX`.
-/

import DexArbitrage.Execution.NonceManager
import DexArbitrage.Lib.Interleaving
import DexArbitrage.Lib.Run

namespace DexArbitrage

/-! ### Calls and their stretches -/

inductive NonceRequest
  | sync
  | reconcile
  deriving DecidableEq, Repr

/-- Where a call waits: `sync` and `reconcile` for the on-chain nonce, and `reconcile` for the
receipt of one transaction after the other. -/
inductive NonceCall
  | syncing
  | reconciling
  | checking (onchain current : Nat) (pending : PendingNonce) (rest : List PendingNonce)
      (receiptUpdates : List (Nat × NonceState))
  deriving DecidableEq, Repr

inductive NonceReply
  | onchainNonce (reply : Except RpcError Nat)
  | receiptStatus (reply : Except RpcError (Option Bool))

/-- What runs without an await point. -/
inductive NonceOperation
  | reserve
  | markSubmitted (nonce : Nat) (txHash : B256) (maxPriorityFee maxFee : Nat)
      (now later : Instant)
  | markIncluded (nonce : Nat)
  | markDropped (nonce : Nat)
  | cancel (nonce : Nat)
  deriving DecidableEq, Repr

/-- The manager, and the nonces that `reserve` has returned, the latest first. -/
structure NonceRecord where
  manager : NonceManager
  returned : List Nat

def NonceRequest.begins : NonceRequest → NonceCall
  | .sync => .syncing
  | .reconcile => .reconciling

/-- `reconcile` goes on to the next receipt, or to its last stretch. -/
def continueReconcile (record : NonceRecord) (onchain current : Nat) :
    List PendingNonce → List (Nat × NonceState) → NonceRecord × Option NonceCall
  | [], receiptUpdates =>
    ({ record with manager := record.manager.finishReconcile onchain current receiptUpdates },
      none)
  | pending :: rest, receiptUpdates =>
    (record, some (.checking onchain current pending rest receiptUpdates))

/-- The stretch of a call after a reply. A reply of another kind is none the call waits for. -/
def resumeNonceCall (call : NonceCall) (reply : NonceReply) (record : NonceRecord) :
    NonceRecord × Option NonceCall :=
  match call, reply with
  | .syncing, .onchainNonce reply =>
    match record.manager.sync reply with
    | .ok manager => ({ record with manager }, none)
    | .error _ => (record, none)
  | .reconciling, .onchainNonce (.ok onchain) =>
    continueReconcile record onchain record.manager.nextNonce
      (record.manager.receiptChecks onchain) []
  | .reconciling, .onchainNonce (.error _) => (record, none)
  | .checking onchain current pending rest receiptUpdates, .receiptStatus reply =>
    match NonceManager.receiptUpdate reply with
    | some state =>
      continueReconcile record onchain current rest (receiptUpdates ++ [(pending.nonce, state)])
    | none => continueReconcile record onchain current rest receiptUpdates
  | call, _ => (record, some call)

def performNonceOperation (record : NonceRecord) : NonceOperation → NonceRecord
  | .reserve =>
    { manager := record.manager.reserve.2
      returned := record.manager.reserve.1 :: record.returned }
  | .markSubmitted nonce txHash maxPriorityFee maxFee now later =>
    { record with
      manager := record.manager.markSubmitted nonce txHash maxPriorityFee maxFee now later }
  | .markIncluded nonce => { record with manager := record.manager.markIncluded nonce }
  | .markDropped nonce => { record with manager := record.manager.markDropped nonce }
  | .cancel nonce => { record with manager := (record.manager.cancel nonce).2 }

abbrev NonceSystem : Type := Interleaved NonceRecord NonceCall

abbrev NonceEvent : Type := InterleavedEvent NonceRequest NonceReply NonceOperation

def nonceStep : NonceSystem → NonceEvent → NonceSystem :=
  interleave NonceRequest.begins resumeNonceCall performNonceOperation

/-- A new manager, before any call. -/
def NonceSystem.start (replacementEnabled : Bool) : NonceSystem where
  shared := { manager := .withReplacement replacementEnabled, returned := [] }
  waiting := []

/-! ### The properties of the manager -/

/-- No nonce was returned twice. -/
def NoDuplicates (system : NonceSystem) : Prop :=
  system.shared.returned.Nodup

/-- The event does not decrease the counter. -/
def NeverDecreases (system : NonceSystem) (event : NonceEvent) : Prop :=
  system.shared.manager.nextNonce ≤ (nonceStep system event).shared.manager.nextNonce

/-- The event does not reserve the last nonce before the wrap of the counter. -/
def RoomToReserve (system : NonceSystem) (event : NonceEvent) : Prop :=
  event = .perform .reserve → system.shared.manager.nextNonce + 1 < 2 ^ 64

/-- Only nonces that `reserve` has returned are marked as submitted, as the engine does. -/
def SubmitsReserved (system : NonceSystem) (event : NonceEvent) : Prop :=
  ∀ nonce txHash maxPriorityFee maxFee now later,
    event = .perform (.markSubmitted nonce txHash maxPriorityFee maxFee now later) →
    nonce ∈ system.shared.returned

/-! ### The invariant -/

/-- Everything that was returned, and everything that waits for a receipt, is below the counter. -/
structure RecordHolds (record : NonceRecord) : Prop where
  nodup : record.returned.Nodup
  returned : ∀ nonce ∈ record.returned, nonce < record.manager.nextNonce
  pending : ∀ pending ∈ record.manager.pendingTxs.values,
    pending.nonce < record.manager.nextNonce

/-- A `reconcile` that waits for receipts is not going to store the counter. -/
def CallHolds : NonceCall → Prop
  | .checking onchain current _ _ _ => onchain ≤ current
  | _ => True

theorem RecordHolds.settle {record : NonceRecord} {manager : NonceManager}
    (holds : RecordHolds record) (settles : NonceManager.SettlesOnly record.manager manager) :
    RecordHolds { record with manager } := by
  refine ⟨holds.nodup, fun nonce member => ?_, fun pending member => ?_⟩
  · rw [settles.nextNonce]
    exact holds.returned nonce member
  · rw [settles.nextNonce]
    exact holds.pending pending (settles.pending pending member)

/-- The counter may grow. -/
theorem RecordHolds.raise {record : NonceRecord} (holds : RecordHolds record) {onchain : Nat}
    (higher : record.manager.nextNonce ≤ onchain) :
    RecordHolds { record with manager := { record.manager with nextNonce := onchain } } :=
  ⟨holds.nodup, fun nonce member => (holds.returned nonce member).trans_le higher,
    fun pending member => (holds.pending pending member).trans_le higher⟩

/-- A stretch keeps the invariant and does not decrease the counter. -/
structure Advances (before after : NonceRecord) : Prop where
  holds : RecordHolds after
  counter : before.manager.nextNonce ≤ after.manager.nextNonce

theorem RecordHolds.advances_self {record : NonceRecord} (holds : RecordHolds record) :
    Advances record record :=
  ⟨holds, le_rfl⟩

theorem RecordHolds.advances_settle {record : NonceRecord} {manager : NonceManager}
    (holds : RecordHolds record) (settles : NonceManager.SettlesOnly record.manager manager) :
    Advances record { record with manager } :=
  ⟨holds.settle settles, settles.nextNonce.ge⟩

theorem RecordHolds.advances_sync {record : NonceRecord} (holds : RecordHolds record)
    (reply : NonceReply) :
    Advances record (resumeNonceCall .syncing reply record).1 := by
  cases reply with
  | receiptStatus reply => exact holds.advances_self
  | onchainNonce reply =>
    cases reply with
    | error error => exact holds.advances_self
    | ok onchain =>
      simp only [resumeNonceCall, NonceManager.sync_ok]
      split
      · rename_i higher
        exact ⟨holds.raise higher.le, higher.le⟩
      · exact holds.advances_self

/-- Both ways in which `reconcile` goes on. It ends with an on-chain nonce that the counter it has
read exceeds, or in the stretch in which it has read the counter. -/
theorem RecordHolds.advances_continue {record : NonceRecord} (holds : RecordHolds record)
    {onchain current : Nat} {rest : List PendingNonce}
    (read : current < onchain → record.manager.nextNonce ≤ onchain)
    (low : rest ≠ [] → onchain ≤ current) (receiptUpdates : List (Nat × NonceState)) :
    Advances record (continueReconcile record onchain current rest receiptUpdates).1 ∧
      ∀ next, (continueReconcile record onchain current rest receiptUpdates).2 = some next →
        CallHolds next := by
  cases rest with
  | cons pending others =>
    refine ⟨holds.advances_self, fun next same => ?_⟩
    injection same with same
    rw [← same]
    exact low (List.cons_ne_nil pending others)
  | nil =>
    refine ⟨?_, fun next same => ?_⟩
    · obtain ⟨settled, settles, finished⟩ :=
        record.manager.finishReconcile_cases onchain current receiptUpdates
      rw [continueReconcile, finished]
      split
      · rename_i higher
        have raised : settled.nextNonce ≤ onchain := settles.nextNonce.le.trans (read higher)
        exact ⟨(holds.settle settles).raise raised, read higher⟩
      · exact holds.advances_settle settles
    · cases same

/-- A transaction whose receipt is asked for lies below the counter, and so does the on-chain
nonce. -/
theorem RecordHolds.onchain_le {record : NonceRecord} (holds : RecordHolds record) {onchain : Nat}
    (asks : record.manager.receiptChecks onchain ≠ []) : onchain ≤ record.manager.nextNonce := by
  obtain ⟨pending, rest, same⟩ := List.exists_cons_of_ne_nil asks
  have member : pending ∈ record.manager.receiptChecks onchain := same ▸ List.mem_cons_self
  obtain ⟨waits, above⟩ := List.mem_filter.mp member
  exact (of_decide_eq_true above).trans (holds.pending pending waits).le

theorem RecordHolds.advances_resume {record : NonceRecord} (holds : RecordHolds record)
    {call : NonceCall} (callHolds : CallHolds call) (reply : NonceReply) :
    Advances record (resumeNonceCall call reply record).1 ∧
      ∀ next, (resumeNonceCall call reply record).2 = some next → CallHolds next := by
  cases call with
  | syncing =>
    refine ⟨holds.advances_sync reply, fun next same => ?_⟩
    cases reply with
    | receiptStatus reply =>
      cases same
      exact trivial
    | onchainNonce reply =>
      simp only [resumeNonceCall] at same
      split at same
      · cases same
      · cases same
  | reconciling =>
    cases reply with
    | receiptStatus reply =>
      refine ⟨holds.advances_self, fun next same => ?_⟩
      cases same
      exact trivial
    | onchainNonce reply =>
      cases reply with
      | error error => exact ⟨holds.advances_self, fun next same => nomatch same⟩
      | ok onchain => exact holds.advances_continue (fun higher => higher.le) holds.onchain_le []
  | checking onchain current pending rest receiptUpdates =>
    have read : current < onchain → record.manager.nextNonce ≤ onchain := fun higher =>
      absurd higher (Nat.not_lt.mpr callHolds)
    cases reply with
    | onchainNonce reply =>
      refine ⟨holds.advances_self, fun next same => ?_⟩
      cases same
      exact callHolds
    | receiptStatus reply =>
      simp only [resumeNonceCall]
      split
      · exact holds.advances_continue read (fun _ => callHolds) _
      · exact holds.advances_continue read (fun _ => callHolds) _

theorem RecordHolds.advances_reserve {record : NonceRecord} (holds : RecordHolds record)
    (room : record.manager.nextNonce + 1 < 2 ^ 64) :
    Advances record (performNonceOperation record .reserve) := by
  have next : (performNonceOperation record .reserve).manager.nextNonce =
      record.manager.nextNonce + 1 := Nat.mod_eq_of_lt room
  refine ⟨⟨?_, fun nonce member => ?_, fun pending member => ?_⟩, next ▸ Nat.le_succ _⟩
  · refine List.nodup_cons.mpr ⟨fun member => ?_, holds.nodup⟩
    exact absurd (holds.returned _ member) (Nat.lt_irrefl _)
  · rw [next]
    rcases List.mem_cons.mp member with same | earlier
    · rw [same]
      exact Nat.lt_succ_self _
    · exact (holds.returned nonce earlier).trans (Nat.lt_succ_self _)
  · rw [next]
    exact (holds.pending pending member).trans (Nat.lt_succ_self _)

theorem RecordHolds.advances_perform {record : NonceRecord} (holds : RecordHolds record)
    (operation : NonceOperation)
    (room : operation = .reserve → record.manager.nextNonce + 1 < 2 ^ 64)
    (reserved : ∀ nonce txHash maxPriorityFee maxFee now later,
      operation = .markSubmitted nonce txHash maxPriorityFee maxFee now later →
      nonce ∈ record.returned) :
    Advances record (performNonceOperation record operation) := by
  cases operation with
  | reserve => exact holds.advances_reserve (room rfl)
  | markSubmitted nonce txHash maxPriorityFee maxFee now later =>
    refine ⟨⟨holds.nodup, holds.returned, fun pending member => ?_⟩, le_rfl⟩
    obtain ⟨key, found⟩ := (HashMap.mem_values _ _).mp member
    simp only [performNonceOperation, NonceManager.markSubmitted, HashMap.lookup_insert] at found
    split at found
    · cases found
      exact holds.returned nonce (reserved nonce txHash maxPriorityFee maxFee now later rfl)
    · exact holds.pending pending ((HashMap.mem_values _ _).mpr ⟨key, found⟩)
  | markIncluded nonce =>
    exact holds.advances_settle (NonceManager.settlesOnly_erase record.manager _ nonce)
  | markDropped nonce =>
    exact holds.advances_settle (NonceManager.settlesOnly_erase record.manager _ nonce)
  | cancel nonce => exact holds.advances_settle (record.manager.settlesOnly_cancel nonce)

/-! ### Every interleaving -/

abbrev NonceInvariant : NonceSystem → Prop := InterleavedInvariant RecordHolds CallHolds

theorem nonceInvariant_start (replacementEnabled : Bool) :
    NonceInvariant (.start replacementEnabled) where
  shared :=
    { nodup := List.nodup_nil
      returned := fun _ member => absurd member List.not_mem_nil
      pending := fun _ member => absurd member List.not_mem_nil }
  waiting := fun _ member => absurd member List.not_mem_nil

theorem NonceInvariant.performed {system : NonceSystem} {event : NonceEvent}
    (invariant : NonceInvariant system) (room : RoomToReserve system event)
    (reserved : SubmitsReserved system event) (operation : NonceOperation)
    (performs : event = .perform operation) :
    Advances system.shared (performNonceOperation system.shared operation) := by
  refine invariant.shared.advances_perform operation (fun same => room (same ▸ performs)) ?_
  intro nonce txHash maxPriorityFee maxFee now later same
  exact reserved nonce txHash maxPriorityFee maxFee now later (same ▸ performs)

theorem nonceInvariant_step {system : NonceSystem} {event : NonceEvent}
    (invariant : NonceInvariant system) (room : RoomToReserve system event)
    (reserved : SubmitsReserved system event) : NonceInvariant (nonceStep system event) := by
  refine InterleavedInvariant.step invariant (fun request => ?_) (fun call reply callHolds => ?_)
    fun operation performs =>
      (NonceInvariant.performed invariant room reserved operation performs).holds
  · cases request with
    | sync => exact trivial
    | reconcile => exact trivial
  · have resumed := invariant.shared.advances_resume callHolds reply
    exact ⟨resumed.1.holds, resumed.2⟩

theorem neverDecreases_iff {system : NonceSystem} {event : NonceEvent}
    (invariant : NonceInvariant system) (reserved : SubmitsReserved system event) :
    NeverDecreases system event ↔ RoomToReserve system event := by
  constructor
  · rintro kept rfl
    have wrapped : system.shared.manager.nextNonce ≤
        (system.shared.manager.nextNonce + 1) % 2 ^ 64 := kept
    omega
  · intro room
    exact invariant.relates
      (fun before after => before.manager.nextNonce ≤ after.manager.nextNonce) le_rfl
      (fun call reply callHolds => (invariant.shared.advances_resume callHolds reply).1.counter)
      fun operation performs =>
        (NonceInvariant.performed invariant room reserved operation performs).counter

theorem noDuplicates_of_roomToReserve {system : NonceSystem} {events : List NonceEvent}
    (invariant : NonceInvariant system)
    (reserved : StepsMeet nonceStep SubmitsReserved system events)
    (room : StepsMeet nonceStep RoomToReserve system events) :
    Always nonceStep NoDuplicates system events := by
  have always : Always nonceStep NonceInvariant system events :=
    always_of_stepsMeet (fun state event holds meets => nonceInvariant_step holds meets.2 meets.1)
      invariant (stepsMeet_and.mpr ⟨reserved, room⟩)
  exact always.mono fun state holds => holds.shared.nodup

theorem stepsMeet_neverDecreases_iff {system : NonceSystem} {events : List NonceEvent}
    (invariant : NonceInvariant system)
    (reserved : StepsMeet nonceStep SubmitsReserved system events) :
    StepsMeet nonceStep NeverDecreases system events ↔
      StepsMeet nonceStep RoomToReserve system events := by
  have agree : ∀ state event, NonceInvariant state →
      (SubmitsReserved state event ∧ NeverDecreases state event ↔
        SubmitsReserved state event ∧ RoomToReserve state event) := fun state event holds =>
    and_congr_right fun submits => neverDecreases_iff holds submits
  have together : StepsMeet nonceStep
      (fun state event => SubmitsReserved state event ∧ NeverDecreases state event) system events ↔
        StepsMeet nonceStep
          (fun state event => SubmitsReserved state event ∧ RoomToReserve state event)
          system events :=
    stepsMeet_iff_of_invariant agree
      (fun state event holds meets => nonceInvariant_step holds meets.2 meets.1) invariant
  rw [stepsMeet_and, stepsMeet_and, and_iff_right reserved, and_iff_right reserved] at together
  exact together

/-- As long as only reserved nonces are submitted: in an interleaving of any number of calls, with
any replies, no nonce is returned twice and the counter never decreases, exactly when `reserve` is
never called at `u64::MAX`. -/
theorem nonceUniqueness_iff (replacementEnabled : Bool) (events : List NonceEvent)
    (reserved : StepsMeet nonceStep SubmitsReserved (.start replacementEnabled) events) :
    Always nonceStep NoDuplicates (.start replacementEnabled) events ∧
        StepsMeet nonceStep NeverDecreases (.start replacementEnabled) events ↔
      StepsMeet nonceStep RoomToReserve (.start replacementEnabled) events := by
  have start := nonceInvariant_start replacementEnabled
  rw [stepsMeet_neverDecreases_iff start reserved]
  exact and_iff_right_of_imp (noDuplicates_of_roomToReserve start reserved)

/-- A transaction is submitted and a nonce reserved while `reconcile` waits. -/
def reconcilingEvents : List NonceEvent :=
  [.perform .reserve, .perform (.markSubmitted 0 1 0 0 0 0), .request .reconcile,
    .reply 0 (.onchainNonce (.ok 0)), .perform .reserve,
    .reply 0 (.receiptStatus (.ok (some true)))]

theorem nonceUniqueness_reconciling :
    Always nonceStep NoDuplicates (.start true) reconcilingEvents ∧
      StepsMeet nonceStep NeverDecreases (.start true) reconcilingEvents := by
  have submits : StepsMeet nonceStep SubmitsReserved (.start true) reconcilingEvents := by
    refine ⟨?_, ?_, ?_, ?_, ?_, ?_, trivial⟩
    · intro nonce txHash maxPriorityFee maxFee now later same
      cases same
    · intro nonce txHash maxPriorityFee maxFee now later same
      cases same
      decide
    all_goals
      intro nonce txHash maxPriorityFee maxFee now later same
      cases same
  refine (nonceUniqueness_iff true reconcilingEvents submits).mpr ?_
  refine ⟨fun _ => by decide, fun same => ?_, fun same => ?_, fun same => ?_, fun _ => by decide,
    fun same => ?_, trivial⟩
  all_goals cases same

/-- The chain reports the last nonce, it is reserved, and the chain reports it again. -/
def wrappingEvents : List NonceEvent :=
  [.request .sync, .reply 0 (.onchainNonce (.ok (2 ^ 64 - 1))), .perform .reserve,
    .request .sync, .reply 0 (.onchainNonce (.ok (2 ^ 64 - 1))), .perform .reserve]

/-- `reserve` returns `u64::MAX` twice, and decreases the counter from there to 0. -/
theorem not_nonceUniqueness_wrapping :
    ¬ Always nonceStep NoDuplicates (.start true) wrappingEvents ∧
      ¬ StepsMeet nonceStep NeverDecreases (.start true) wrappingEvents := by
  constructor
  · intro always
    have last : (runFrom nonceStep (.start true) wrappingEvents).shared.returned =
        [2 ^ 64 - 1, 2 ^ 64 - 1] := by decide +kernel
    have nodup : (runFrom nonceStep (.start true) wrappingEvents).shared.returned.Nodup :=
      always.last
    rw [last] at nodup
    exact absurd nodup (by decide)
  · rintro ⟨_, _, reserves, _⟩
    exact absurd reserves (by unfold NeverDecreases; decide +kernel)

end DexArbitrage
