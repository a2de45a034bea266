/-
This file models `src/execution/nonce_manager.rs`: the local nonce counter, the
state the manager remembers for each nonce, and the table of transactions that
still wait for a receipt.

The counter is an `AtomicU64` and wraps at `2 ^ 64`. The lemmas below say what
each operation does to the counter and to the state of one nonce; nothing later
unfolds an operation.
-/

import DexArbitrage.Types

namespace DexArbitrage

inductive NonceState
  | reserved
  | submitted (txHash : B256) (submittedAt : Instant)
  | included
  | dropped
  deriving DecidableEq, Repr

structure PendingNonce where
  nonce : Nat
  txHash : B256
  submittedAt : Instant
  maxPriorityFee : Nat
  maxFee : Nat
  deriving DecidableEq, Repr

structure NonceManager where
  nextNonce : Nat
  states : HashMap Nat NonceState
  pendingTxs : HashMap Nat PendingNonce
  replacementEnabled : Bool

namespace NonceManager

def withReplacement (replacementEnabled : Bool) : NonceManager where
  nextNonce := 0
  states := ∅
  pendingTxs := ∅
  replacementEnabled := replacementEnabled

/-- Sync the on-chain nonce: the counter only moves when the reply is higher. -/
def sync (manager : NonceManager) (reply : Except RpcError Nat) : Except RpcError NonceManager := do
  let onchain ← reply
  if manager.nextNonce < onchain then
    return { manager with nextNonce := onchain }
  else
    return manager

/-- Reserve a new nonce. -/
def reserve (manager : NonceManager) : Nat × NonceManager :=
  (manager.nextNonce,
    { manager with
      nextNonce := (manager.nextNonce + 1) % 2 ^ 64
      states := manager.states.insert manager.nextNonce .reserved })

/-- Mark a nonce as submitted. The source reads the clock once for each of the two tables. -/
def markSubmitted (manager : NonceManager) (nonce : Nat) (txHash : B256)
    (maxPriorityFee maxFee : Nat) (now later : Instant) : NonceManager :=
  { manager with
    states := manager.states.insert nonce (.submitted txHash now)
    pendingTxs := manager.pendingTxs.insert nonce
      { nonce, txHash, submittedAt := later, maxPriorityFee, maxFee } }

def markIncluded (manager : NonceManager) (nonce : Nat) : NonceManager :=
  { manager with
    states := manager.states.insert nonce .included
    pendingTxs := manager.pendingTxs.erase nonce }

def markDropped (manager : NonceManager) (nonce : Nat) : NonceManager :=
  { manager with
    states := manager.states.insert nonce .dropped
    pendingTxs := manager.pendingTxs.erase nonce }

def getState (manager : NonceManager) (nonce : Nat) : Option NonceState :=
  manager.states.lookup nonce

/-- Cancel a submitted nonce: mark it as dropped. -/
def cancel (manager : NonceManager) (nonce : Nat) : Bool × NonceManager :=
  match manager.getState nonce with
  | some (.submitted _ _) => (true, manager.markDropped nonce)
  | _ => (false, manager)

/-- The transactions whose receipts `reconcile` asks for, once it knows the on-chain nonce. -/
def receiptChecks (manager : NonceManager) (onchain : Nat) : List PendingNonce :=
  manager.pendingTxs.values.filter fun pending => onchain ≤ pending.nonce

/-- What `reconcile` makes of the answer to a receipt request. -/
def receiptUpdate : Except RpcError (Option Bool) → Option NonceState
  | .ok (some true) => some .included
  | .ok (some false) => some .dropped
  | .ok none => none
  | .error _ => some .dropped

/-- The last stretch of `reconcile`, with the counter as it was read before the receipts. -/
def finishReconcile (manager : NonceManager) (onchain current : Nat)
    (receiptUpdates : List (Nat × NonceState)) : NonceManager :=
  let included := (manager.states.keys.filter (· < onchain)).foldl (fun manager nonce =>
    { manager with
      states := manager.states.update nonce fun _ => .included
      pendingTxs := manager.pendingTxs.erase nonce }) manager
  let updated := receiptUpdates.foldl (fun manager update =>
    { manager with
      states := manager.states.insert update.1 update.2
      pendingTxs := manager.pendingTxs.erase update.1 }) included
  if current < onchain then
    { updated with nextNonce := onchain }
  else
    updated

/-! ### What each operation does to the counter -/

@[simp] theorem reserve_fst (manager : NonceManager) :
    manager.reserve.1 = manager.nextNonce := rfl

@[simp] theorem nextNonce_reserve (manager : NonceManager) :
    manager.reserve.2.nextNonce = (manager.nextNonce + 1) % 2 ^ 64 := rfl

@[simp] theorem nextNonce_markDropped (manager : NonceManager) (nonce : Nat) :
    (manager.markDropped nonce).nextNonce = manager.nextNonce := rfl

theorem sync_ok (manager : NonceManager) (onchain : Nat) :
    manager.sync (.ok onchain) =
      .ok (if manager.nextNonce < onchain then { manager with nextNonce := onchain }
        else manager) := by
  rw [apply_ite Except.ok]
  rfl

/-- A fresh manager that synced successfully counts from the nonce the chain reported. -/
theorem nextNonce_sync_withReplacement (replacementEnabled : Bool) (onchain : Nat)
    (manager : NonceManager)
    (synced : (withReplacement replacementEnabled).sync (.ok onchain) = .ok manager) :
    manager.nextNonce = onchain ∧ manager.states = ∅ := by
  rw [sync_ok] at synced
  injection synced with same
  rw [← same]
  split
  · exact ⟨rfl, rfl⟩
  · rename_i zero
    exact ⟨(Nat.eq_zero_of_not_pos zero).symm, rfl⟩

/-! ### What each operation does to the state of one nonce -/

@[simp] theorem getState_reserve (manager : NonceManager) (nonce : Nat) :
    manager.reserve.2.getState nonce =
      if nonce = manager.nextNonce then some .reserved else manager.getState nonce :=
  HashMap.lookup_insert _ _ _ _

@[simp] theorem getState_markSubmitted (manager : NonceManager) (nonce other : Nat) (txHash : B256)
    (maxPriorityFee maxFee : Nat) (now later : Instant) :
    (manager.markSubmitted nonce txHash maxPriorityFee maxFee now later).getState other =
      if other = nonce then some (.submitted txHash now) else manager.getState other :=
  HashMap.lookup_insert _ _ _ _

@[simp] theorem getState_markIncluded (manager : NonceManager) (nonce other : Nat) :
    (manager.markIncluded nonce).getState other =
      if other = nonce then some .included else manager.getState other :=
  HashMap.lookup_insert _ _ _ _

@[simp] theorem getState_markDropped (manager : NonceManager) (nonce other : Nat) :
    (manager.markDropped nonce).getState other =
      if other = nonce then some .dropped else manager.getState other :=
  HashMap.lookup_insert _ _ _ _

/-! ### Operations that only settle nonces -/

/-- The counter is untouched, and no transaction starts to wait for a receipt. -/
structure SettlesOnly (before after : NonceManager) : Prop where
  nextNonce : after.nextNonce = before.nextNonce
  pending : ∀ pending ∈ after.pendingTxs.values, pending ∈ before.pendingTxs.values

theorem SettlesOnly.refl (manager : NonceManager) : SettlesOnly manager manager :=
  ⟨rfl, fun _ member => member⟩

theorem SettlesOnly.trans {first second third : NonceManager} (before : SettlesOnly first second)
    (after : SettlesOnly second third) : SettlesOnly first third :=
  ⟨after.nextNonce.trans before.nextNonce,
    fun pending member => before.pending pending (after.pending pending member)⟩

theorem settlesOnly_foldl {Element : Type} {settle : NonceManager → Element → NonceManager}
    (settles : ∀ manager element, SettlesOnly manager (settle manager element))
    (elements : List Element) (manager : NonceManager) :
    SettlesOnly manager (elements.foldl settle manager) := by
  induction elements generalizing manager with
  | nil => exact .refl manager
  | cons element rest inductionHypothesis =>
    exact (settles manager element).trans (inductionHypothesis (settle manager element))

/-- Whatever becomes of the states, a nonce that is forgotten settles. -/
theorem settlesOnly_erase (manager : NonceManager) (states : HashMap Nat NonceState)
    (nonce : Nat) :
    SettlesOnly manager { manager with states, pendingTxs := manager.pendingTxs.erase nonce } := by
  refine ⟨rfl, fun pending member => ?_⟩
  obtain ⟨key, found⟩ := (HashMap.mem_values _ _).mp member
  rw [HashMap.lookup_erase] at found
  split at found
  · cases found
  · exact (HashMap.mem_values _ _).mpr ⟨key, found⟩

theorem settlesOnly_cancel (manager : NonceManager) (nonce : Nat) :
    SettlesOnly manager (manager.cancel nonce).2 := by
  unfold cancel
  split
  · exact settlesOnly_erase manager _ nonce
  · exact .refl manager

/-- `reconcile` settles nonces, and moves the counter only to an on-chain nonce above the value it
has read. -/
theorem finishReconcile_cases (manager : NonceManager) (onchain current : Nat)
    (receiptUpdates : List (Nat × NonceState)) :
    ∃ settled, SettlesOnly manager settled ∧
      manager.finishReconcile onchain current receiptUpdates =
        if current < onchain then { settled with nextNonce := onchain } else settled :=
  ⟨_, (settlesOnly_foldl (fun manager nonce => settlesOnly_erase manager _ nonce) _ manager).trans
    (settlesOnly_foldl (fun manager (update : Nat × NonceState) =>
      settlesOnly_erase manager _ update.1) _ _), rfl⟩

end NonceManager

end DexArbitrage
