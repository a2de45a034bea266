/-
This file models the locks of `src/execution/nonce_manager.rs`. The manager has
two mutexes, one for the states of the nonces and one for the transactions that
wait for a receipt, and no mutex is reentrant. A guard that is bound to no name
lives to the end of its statement, or to the end of the whole `match` or
`if let` whose scrutinee it is part of; so `cancel` still holds the states when
it marks a submitted nonce as dropped, which takes the states again.

An operation that returns does what the operation without locks does. The
stretches of `reconcile` before and after its requests for receipts are
operations of their own, since it holds no lock while it waits.
-/

import Mathlib.Data.List.MinMax
import DexArbitrage.Execution.NonceManager
import DexArbitrage.Lib.Lock
import DexArbitrage.Lib.Run

namespace DexArbitrage

inductive NonceLock
  | states
  | pendingTxs
  deriving DecidableEq, Repr

abbrev NonceProgram (Value : Type) : Type :=
  LockProgram NonceLock (Traced NonceLock NonceManager) RpcError Value

namespace NonceManager

/-- The nonce waits for longer than the timeout. -/
def isStuck (manager : NonceManager) (nonce timeout : Nat) (now : Instant) : Bool :=
  match manager.getState nonce with
  | some (.submitted _ submittedAt) => timeout < now - submittedAt
  | _ => false

/-- Of the transactions that wait for longer than the timeout, the one with the lowest nonce. -/
def oldestStuck (manager : NonceManager) (timeout : Nat) (now : Instant) : Option PendingNonce :=
  (manager.pendingTxs.values.filter fun pending =>
    timeout < now - pending.submittedAt).argmin PendingNonce.nonce

def nextReplacable (manager : NonceManager) (timeout : Nat) (now : Instant) :
    Option PendingNonce :=
  if manager.replacementEnabled then manager.oldestStuck timeout now else none

end NonceManager

namespace LockedNonceManager

/-! ### The operations -/

def insertState (nonce : Nat) (state : NonceState) : NonceProgram Unit :=
  acquire .states (update fun manager =>
    { manager with states := manager.states.insert nonce state })

def removePending (nonce : Nat) : NonceProgram Unit :=
  acquire .pendingTxs (update fun manager =>
    { manager with pendingTxs := manager.pendingTxs.erase nonce })

def sync (reply : Except RpcError Nat) : NonceProgram Unit :=
  match reply with
  | .ok onchain => update fun manager =>
    if manager.nextNonce < onchain then { manager with nextNonce := onchain } else manager
  | .error error => fail error

def reserve : NonceProgram Nat := do
  let nonce ← view NonceManager.nextNonce
  update fun manager => { manager with nextNonce := (nonce + 1) % 2 ^ 64 }
  insertState nonce .reserved
  return nonce

def markSubmitted (nonce : Nat) (txHash : B256) (maxPriorityFee maxFee : Nat)
    (now later : Instant) : NonceProgram Unit := do
  insertState nonce (.submitted txHash now)
  acquire .pendingTxs (update fun manager =>
    { manager with
      pendingTxs := manager.pendingTxs.insert nonce
        { nonce, txHash, submittedAt := later, maxPriorityFee, maxFee } })

def markIncluded (nonce : Nat) : NonceProgram Unit := do
  insertState nonce .included
  removePending nonce

def markDropped (nonce : Nat) : NonceProgram Unit := do
  insertState nonce .dropped
  removePending nonce

def pendingNonces : NonceProgram (List PendingNonce) :=
  acquire .pendingTxs (view fun manager => manager.pendingTxs.values)

/-- The guard lives to the end of the `match`. -/
def isStuck (nonce timeout : Nat) (now : Instant) : NonceProgram Bool :=
  acquire .states do
    match ← view fun manager => manager.getState nonce with
    | some (.submitted _ submittedAt) => return timeout < now - submittedAt
    | _ => return false

def nextReplacable (timeout : Nat) (now : Instant) : NonceProgram (Option PendingNonce) := do
  if ← view NonceManager.replacementEnabled then
    acquire .pendingTxs (view fun manager => manager.oldestStuck timeout now)
  else
    return none

/-- The guard lives to the end of the `if let`, its `else` included. -/
def cancel (nonce : Nat) : NonceProgram Bool :=
  acquire .states do
    match ← view fun manager => manager.getState nonce with
    | some (.submitted _ _) =>
      markDropped nonce
      return true
    | _ => return false

def currentNonce : NonceProgram Nat :=
  view NonceManager.nextNonce

def getState (nonce : Nat) : NonceProgram (Option NonceState) :=
  acquire .states (view fun manager => manager.getState nonce)

/-- The stretch of `reconcile` before the receipts: the counter, and what is asked for. -/
def reconcileChecks (onchain : Nat) : NonceProgram (Nat × List PendingNonce) := do
  let current ← view NonceManager.nextNonce
  let checks ← acquire .pendingTxs (view fun manager => manager.receiptChecks onchain)
  return (current, checks)

/-- The stretch after them, which holds both locks while it writes. -/
def reconcileFinish (onchain current : Nat) (receiptUpdates : List (Nat × NonceState)) :
    NonceProgram Unit := do
  acquire .states (acquire .pendingTxs (update fun manager =>
    manager.finishReconcile onchain onchain receiptUpdates))
  if current < onchain then
    update fun manager => { manager with nextNonce := onchain }

end LockedNonceManager

inductive LockedOperation
  | sync (reply : Except RpcError Nat)
  | reserve
  | markSubmitted (nonce : Nat) (txHash : B256) (maxPriorityFee maxFee : Nat)
      (now later : Instant)
  | markIncluded (nonce : Nat)
  | markDropped (nonce : Nat)
  | pendingNonces
  | isStuck (nonce timeout : Nat) (now : Instant)
  | nextReplacable (timeout : Nat) (now : Instant)
  | cancel (nonce : Nat)
  | currentNonce
  | getState (nonce : Nat)
  | reconcileChecks (onchain : Nat)
  | reconcileFinish (onchain current : Nat) (receiptUpdates : List (Nat × NonceState))

/-- What an operation returns. -/
inductive NonceAnswer
  | nothing
  | nonce (nonce : Nat)
  | flag (flag : Bool)
  | state (state : Option NonceState)
  | pending (pending : Option PendingNonce)
  | pendings (pendings : List PendingNonce)
  | checks (current : Nat) (pendings : List PendingNonce)
  deriving DecidableEq, Repr

def performLocked : LockedOperation → NonceProgram NonceAnswer
  | .sync reply => do LockedNonceManager.sync reply; return .nothing
  | .reserve => do return .nonce (← LockedNonceManager.reserve)
  | .markSubmitted nonce txHash maxPriorityFee maxFee now later => do
    LockedNonceManager.markSubmitted nonce txHash maxPriorityFee maxFee now later
    return .nothing
  | .markIncluded nonce => do LockedNonceManager.markIncluded nonce; return .nothing
  | .markDropped nonce => do LockedNonceManager.markDropped nonce; return .nothing
  | .pendingNonces => do return .pendings (← LockedNonceManager.pendingNonces)
  | .isStuck nonce timeout now => do return .flag (← LockedNonceManager.isStuck nonce timeout now)
  | .nextReplacable timeout now => do
    return .pending (← LockedNonceManager.nextReplacable timeout now)
  | .cancel nonce => do return .flag (← LockedNonceManager.cancel nonce)
  | .currentNonce => do return .nonce (← LockedNonceManager.currentNonce)
  | .getState nonce => do return .state (← LockedNonceManager.getState nonce)
  | .reconcileChecks onchain => do
    let (current, pendings) ← LockedNonceManager.reconcileChecks onchain
    return .checks current pendings
  | .reconcileFinish onchain current receiptUpdates => do
    LockedNonceManager.reconcileFinish onchain current receiptUpdates
    return .nothing

/-- The manager after an operation. -/
def lockedStep (manager : NonceManager) (operation : LockedOperation) : NonceManager :=
  (outcomeOn (performLocked operation) manager).2.data

/-! ### What an operation does when its locks are free -/

/-- The operation without locks. -/
def performUnlocked (manager : NonceManager) :
    LockedOperation → Except RpcError NonceAnswer × NonceManager
  | .sync reply =>
    match manager.sync reply with
    | .ok synced => (.ok .nothing, synced)
    | .error error => (.error error, manager)
  | .reserve => (.ok (.nonce manager.reserve.1), manager.reserve.2)
  | .markSubmitted nonce txHash maxPriorityFee maxFee now later =>
    (.ok .nothing, manager.markSubmitted nonce txHash maxPriorityFee maxFee now later)
  | .markIncluded nonce => (.ok .nothing, manager.markIncluded nonce)
  | .markDropped nonce => (.ok .nothing, manager.markDropped nonce)
  | .pendingNonces => (.ok (.pendings manager.pendingTxs.values), manager)
  | .isStuck nonce timeout now => (.ok (.flag (manager.isStuck nonce timeout now)), manager)
  | .nextReplacable timeout now =>
    (.ok (.pending (manager.nextReplacable timeout now)), manager)
  | .cancel nonce => (.ok (.flag (manager.cancel nonce).1), (manager.cancel nonce).2)
  | .currentNonce => (.ok (.nonce manager.nextNonce), manager)
  | .getState nonce => (.ok (.state (manager.getState nonce)), manager)
  | .reconcileChecks onchain =>
    (.ok (.checks manager.nextNonce (manager.receiptChecks onchain)), manager)
  | .reconcileFinish onchain current receiptUpdates =>
    (.ok .nothing, manager.finishReconcile onchain current receiptUpdates)

/-- The acquisitions of an operation that does not block. -/
def acquisitionsOf (manager : NonceManager) : LockedOperation → List (List NonceLock × NonceLock)
  | .sync _ | .currentNonce => []
  | .reserve | .isStuck .. | .cancel _ | .getState _ => [([], .states)]
  | .markSubmitted .. | .markIncluded _ | .markDropped _ => [([], .states), ([], .pendingTxs)]
  | .pendingNonces | .reconcileChecks _ => [([], .pendingTxs)]
  | .nextReplacable .. => if manager.replacementEnabled then [([], .pendingTxs)] else []
  | .reconcileFinish .. => [([], .states), ([.states], .pendingTxs)]

/-- The operation cancels a nonce that is submitted. -/
def CancelsSubmitted (manager : NonceManager) (operation : LockedOperation) : Prop :=
  ∃ nonce txHash submittedAt, operation = .cancel nonce ∧
    manager.getState nonce = some (.submitted txHash submittedAt)

section Outcome

variable {manager : NonceManager}

theorem outcomeOn_isStuck (nonce timeout : Nat) (now : Instant) :
    outcomeOn (performLocked (.isStuck nonce timeout now)) manager =
      (.ok (.flag (manager.isStuck nonce timeout now)),
        { data := manager, acquisitions := [([], .states)] }) := by
  have unfolded : outcomeOn (performLocked (.isStuck nonce timeout now)) manager =
      outcome (do
        let stuck ← (match manager.getState nonce with
          | some (.submitted _ submittedAt) => return timeout < now - submittedAt
          | _ => return false : NonceProgram Bool)
        return .flag stuck) [.states] { data := manager, acquisitions := [([], .states)] } := rfl
  rw [unfolded]
  unfold NonceManager.isStuck
  cases manager.getState nonce with
  | none => rfl
  | some state =>
    cases state with
    | reserved => rfl
    | submitted txHash submittedAt => rfl
    | included => rfl
    | dropped => rfl

theorem outcomeOn_nextReplacable (timeout : Nat) (now : Instant) :
    outcomeOn (performLocked (.nextReplacable timeout now)) manager =
      (.ok (.pending (manager.nextReplacable timeout now)),
        { data := manager
          acquisitions := if manager.replacementEnabled then [([], .pendingTxs)] else [] }) := by
  have unfolded : outcomeOn (performLocked (.nextReplacable timeout now)) manager =
      outcome (do
        let replacable ← (if manager.replacementEnabled then
          acquire .pendingTxs (view fun manager => manager.oldestStuck timeout now)
        else
          return none : NonceProgram (Option PendingNonce))
        return .pending replacable) [] { data := manager, acquisitions := [] } := rfl
  rw [unfolded]
  unfold NonceManager.nextReplacable
  cases manager.replacementEnabled with
  | true => rfl
  | false => rfl

/-- A cancel ends in marking the nonce as dropped, with the states still locked. -/
theorem outcomeOn_cancel (nonce : Nat) :
    outcomeOn (performLocked (.cancel nonce)) manager =
      outcome (do
        let cancelled ← (match manager.getState nonce with
          | some (.submitted _ _) => do
            LockedNonceManager.markDropped nonce
            return true
          | _ => return false : NonceProgram Bool)
        return .flag cancelled) [.states] { data := manager, acquisitions := [([], .states)] } :=
  rfl

theorem outcomeOn_cancel_other {nonce : Nat}
    (other : ∀ txHash submittedAt, manager.getState nonce ≠ some (.submitted txHash submittedAt)) :
    manager.cancel nonce = (false, manager) ∧
      outcomeOn (performLocked (.cancel nonce)) manager =
        (.ok (.flag false), { data := manager, acquisitions := [([], .states)] }) := by
  rw [outcomeOn_cancel]
  unfold NonceManager.cancel
  cases isState : manager.getState nonce with
  | none => exact ⟨rfl, rfl⟩
  | some state =>
    cases state with
    | reserved => exact ⟨rfl, rfl⟩
    | submitted txHash submittedAt => exact absurd isState (other txHash submittedAt)
    | included => exact ⟨rfl, rfl⟩
    | dropped => exact ⟨rfl, rfl⟩

theorem outcomeOn_reconcileFinish (onchain current : Nat)
    (receiptUpdates : List (Nat × NonceState)) :
    outcomeOn (performLocked (.reconcileFinish onchain current receiptUpdates)) manager =
      (.ok .nothing,
        { data := manager.finishReconcile onchain current receiptUpdates
          acquisitions := [([], .states), ([.states], .pendingTxs)] }) := by
  have unfolded : outcomeOn (performLocked (.reconcileFinish onchain current receiptUpdates))
      manager =
      outcome (do
        (if current < onchain then
          update fun manager => { manager with nextNonce := onchain }
        else
          pure () : NonceProgram Unit)
        return .nothing) []
        { data := manager.finishReconcile onchain onchain receiptUpdates
          acquisitions := [([], .states), ([.states], .pendingTxs)] } := rfl
  rw [unfolded]
  unfold NonceManager.finishReconcile
  dsimp only
  rw [if_neg (Nat.lt_irrefl onchain)]
  by_cases behind : current < onchain
  · rw [if_pos behind, if_pos behind]
    rfl
  · rw [if_neg behind, if_neg behind]
    rfl

/-- An operation that cancels no submitted nonce does what it does without locks. -/
theorem outcomeOn_performLocked {operation : LockedOperation}
    (other : ¬ CancelsSubmitted manager operation) :
    outcomeOn (performLocked operation) manager =
      ((performUnlocked manager operation).1.mapError .failed,
        { data := (performUnlocked manager operation).2
          acquisitions := acquisitionsOf manager operation }) := by
  cases operation with
  | sync reply =>
    cases reply with
    | error error => rfl
    | ok onchain =>
      have unlocked : performUnlocked manager (.sync (.ok onchain)) =
          (.ok .nothing, if manager.nextNonce < onchain then { manager with nextNonce := onchain }
            else manager) := by
        simp only [performUnlocked, NonceManager.sync_ok]
      rw [unlocked]
      rfl
  | reserve => rfl
  | markSubmitted nonce txHash maxPriorityFee maxFee now later => rfl
  | markIncluded nonce => rfl
  | markDropped nonce => rfl
  | pendingNonces => rfl
  | isStuck nonce timeout now => exact outcomeOn_isStuck nonce timeout now
  | nextReplacable timeout now => exact outcomeOn_nextReplacable timeout now
  | cancel nonce =>
    obtain ⟨unchanged, ended⟩ := outcomeOn_cancel_other fun txHash submittedAt isState =>
      other ⟨nonce, txHash, submittedAt, rfl, isState⟩
    have unlocked : performUnlocked manager (.cancel nonce) =
        (.ok (.flag false), manager) := by
      simp only [performUnlocked, unchanged]
    rw [ended, unlocked]
    rfl
  | currentNonce => rfl
  | getState nonce => rfl
  | reconcileChecks onchain => rfl
  | reconcileFinish onchain current receiptUpdates =>
    exact outcomeOn_reconcileFinish onchain current receiptUpdates

/-- Cancelling a submitted nonce takes the states while it holds them, and blocks. -/
theorem outcomeOn_cancel_submitted {nonce : Nat} {txHash : B256} {submittedAt : Instant}
    (isState : manager.getState nonce = some (.submitted txHash submittedAt)) :
    outcomeOn (performLocked (.cancel nonce)) manager =
      (.error .blocked,
        { data := manager, acquisitions := [([], .states), ([.states], .states)] }) := by
  rw [outcomeOn_cancel, isState]
  rfl

/-! ### The discipline -/

/-- The operation takes no lock that it holds, so it returns; and cancelling a submitted nonce
succeeds, drops the nonce and forgets its transaction. -/
structure KeepsLockDiscipline (manager : NonceManager) (operation : LockedOperation) : Prop where
  neverLocksItself : NeverLocksItself (performLocked operation) manager
  returns : (outcomeOn (performLocked operation) manager).1 ≠ .error .blocked
  cancels : ∀ nonce txHash submittedAt, operation = .cancel nonce →
    manager.getState nonce = some (.submitted txHash submittedAt) →
      (outcomeOn (performLocked operation) manager).1 = .ok (.flag true) ∧
        (lockedStep manager operation).getState nonce = some .dropped ∧
        (lockedStep manager operation).pendingTxs.lookup nonce = none

/-- What is taken while nothing is held, and the one nesting. -/
def allowedAcquisitions : List (List NonceLock × NonceLock) :=
  [([], .states), ([], .pendingTxs), ([.states], .pendingTxs)]

theorem acquisitionsOf_subset (operation : LockedOperation) :
    acquisitionsOf manager operation ⊆ allowedAcquisitions := by
  cases operation with
  | nextReplacable timeout now =>
    simp only [acquisitionsOf]
    split <;> simp [allowedAcquisitions]
  | _ => simp [acquisitionsOf, allowedAcquisitions]

theorem not_mem_of_mem_allowedAcquisitions : ∀ acquisition ∈ allowedAcquisitions,
    acquisition.2 ∉ acquisition.1 ∧ (acquisition.2 = .states → .pendingTxs ∉ acquisition.1) := by
  decide

theorem not_mem_held_of_acquisitionsOf {operation : LockedOperation}
    {acquisition : List NonceLock × NonceLock}
    (member : acquisition ∈ acquisitionsOf manager operation) :
    acquisition.2 ∉ acquisition.1 ∧ (acquisition.2 = .states → .pendingTxs ∉ acquisition.1) :=
  not_mem_of_mem_allowedAcquisitions acquisition (acquisitionsOf_subset operation member)

theorem keepsLockDiscipline_iff (operation : LockedOperation) :
    KeepsLockDiscipline manager operation ↔ ¬ CancelsSubmitted manager operation := by
  constructor
  · rintro keeps ⟨nonce, txHash, submittedAt, rfl, isState⟩
    have locksItself := keeps.neverLocksItself ([.states], .states)
    rw [outcomeOn_cancel_submitted isState] at locksItself
    exact locksItself (List.mem_cons_of_mem _ List.mem_cons_self) List.mem_cons_self
  · intro other
    have ended := outcomeOn_performLocked other
    refine ⟨fun acquisition member => ?_, fun blocked => ?_, ?_⟩
    · rw [ended] at member
      exact (not_mem_held_of_acquisitionsOf member).1
    · rw [ended] at blocked
      cases unlocked : (performUnlocked manager operation).1 with
      | ok answer =>
        rw [unlocked] at blocked
        cases blocked
      | error reason =>
        rw [unlocked] at blocked
        cases blocked
    · intro nonce txHash submittedAt isCancel isState
      exact absurd ⟨nonce, txHash, submittedAt, isCancel, isState⟩ other

/-- No operation takes the states while it holds the pending transactions. -/
theorem not_nests_pendingTxs_states (operation : LockedOperation) :
    ¬ Nests (performLocked operation) manager .pendingTxs .states := by
  rintro ⟨held, member, isHeld⟩
  by_cases cancels : CancelsSubmitted manager operation
  · obtain ⟨nonce, txHash, submittedAt, rfl, isState⟩ := cancels
    rw [outcomeOn_cancel_submitted isState] at member
    rcases List.mem_pair.mp member with same | same
    · injection same with none
      rw [none] at isHeld
      cases isHeld
    · injection same with states
      rw [states] at isHeld
      exact absurd isHeld (by decide)
  · rw [outcomeOn_performLocked cancels] at member
    exact (not_mem_held_of_acquisitionsOf member).2 rfl isHeld

end Outcome

/-! ### Whole runs -/

/-- A run that cancels no submitted nonce is the run without locks. -/
theorem runFrom_lockedStep {manager : NonceManager} {operations : List LockedOperation}
    (others : StepsMeet lockedStep (fun manager operation => ¬ CancelsSubmitted manager operation)
      manager operations) :
    runFrom lockedStep manager operations =
      runFrom (fun manager operation => (performUnlocked manager operation).2) manager
        operations := by
  induction operations generalizing manager with
  | nil => rfl
  | cons operation rest inductionHypothesis =>
    have one : lockedStep manager operation = (performUnlocked manager operation).2 := by
      unfold lockedStep
      rw [outcomeOn_performLocked others.1]
    rw [runFrom_cons, runFrom_cons, inductionHypothesis others.2, one]

/-- A run of operations, from whatever state, keeps the discipline exactly when it cancels no
submitted nonce; and no two operations nest the two locks in opposite orders. -/
theorem nonceLockDiscipline_iff (start : NonceManager) (operations : List LockedOperation) :
    (StepsMeet lockedStep KeepsLockDiscipline start operations ↔
      StepsMeet lockedStep (fun manager operation => ¬ CancelsSubmitted manager operation) start
        operations) ∧
    ∀ (first second : LockedOperation) (manager other : NonceManager) (outer inner : NonceLock),
      outer ≠ inner → Nests (performLocked first) manager outer inner →
        ¬ Nests (performLocked second) other inner outer := by
  constructor
  · exact stepsMeet_iff_of_invariant
      (fun _ operation (_ : True) => keepsLockDiscipline_iff operation) (fun _ _ _ _ => trivial)
      trivial
  · intro first second manager other outer inner different nests opposite
    cases outer with
    | states =>
      cases inner with
      | states => exact different rfl
      | pendingTxs => exact not_nests_pendingTxs_states second opposite
    | pendingTxs =>
      cases inner with
      | states => exact not_nests_pendingTxs_states first nests
      | pendingTxs => exact different rfl

/-- The stretch of `reconcile` that holds both locks nests them in one order only. -/
theorem nonceLockDiscipline_reserve :
    ¬ Nests (performLocked .reserve) (.withReplacement true) .pendingTxs .states :=
  (nonceLockDiscipline_iff (.withReplacement true) []).2 (.reconcileFinish 0 0 []) .reserve
    (.withReplacement true) (.withReplacement true) .states .pendingTxs (by decide)
    ⟨[.states], by
      rw [outcomeOn_reconcileFinish]
      exact List.mem_cons_of_mem _ List.mem_cons_self, List.mem_cons_self⟩

/-- The run that reserves a nonce, submits it and cancels it. -/
def cancelSubmitted : List LockedOperation :=
  [.reserve, .markSubmitted 0 1 0 0 0 0, .cancel 0]

theorem not_keepsLockDiscipline_cancelSubmitted :
    ¬ StepsMeet lockedStep KeepsLockDiscipline (.withReplacement true) cancelSubmitted := by
  rintro ⟨-, -, ⟨-, returns, -⟩, -⟩
  exact returns rfl

end DexArbitrage
