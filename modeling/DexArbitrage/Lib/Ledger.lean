/-
This file is a ledger of many fungible tokens: who holds how much of each token
and who may spend how much on whose behalf. It has the three ways in which a
standard token moves: the holder transfers, the holder sets an allowance, and a
spender transfers within an allowance.

The supply of a token is finite, so crediting an account never overflows and
amounts are plain natural numbers. `balance_le_act` is the safety statement of
the file: an action of somebody else, to whom an account has granted no
allowance, never lowers the balance of that account.
-/

import Mathlib.Logic.Function.Basic

namespace DexArbitrage

/-- Balances and allowances of all tokens. An allowance is looked up by holder, then spender. -/
structure Ledger (Token Account : Type*) where
  balance : Token → Account → Nat
  allowance : Token → Account → Account → Nat

/-- What an account can do on the ledger by itself. -/
inductive LedgerAction (Token Account : Type*)
  | transfer (token : Token) (receiver : Account) (amount : Nat)
  | approve (token : Token) (spender : Account) (amount : Nat)
  | transferFrom (token : Token) (holder receiver : Account) (amount : Nat)

namespace Ledger

variable {Token Account : Type*} [DecidableEq Token] [DecidableEq Account]

/-- Take an amount from one account and give it to another. -/
def move (ledger : Ledger Token Account) (token : Token) (holder receiver : Account)
    (amount : Nat) : Ledger Token Account :=
  let debited :=
    Function.update (ledger.balance token) holder (ledger.balance token holder - amount)
  { ledger with
    balance := Function.update ledger.balance token
      (Function.update debited receiver (debited receiver + amount)) }

def transfer (ledger : Ledger Token Account) (token : Token) (holder receiver : Account)
    (amount : Nat) : Option (Ledger Token Account) :=
  if amount ≤ ledger.balance token holder then
    some (ledger.move token holder receiver amount)
  else
    none

def approve (ledger : Ledger Token Account) (token : Token) (holder spender : Account)
    (amount : Nat) : Ledger Token Account :=
  { ledger with
    allowance := Function.update ledger.allowance token
      (Function.update (ledger.allowance token) holder
        (Function.update (ledger.allowance token holder) spender amount)) }

def transferFrom (ledger : Ledger Token Account) (token : Token)
    (spender holder receiver : Account) (amount : Nat) : Option (Ledger Token Account) :=
  if amount ≤ ledger.balance token holder ∧ amount ≤ ledger.allowance token holder spender then
    some ((ledger.approve token holder spender
      (ledger.allowance token holder spender - amount)).move token holder receiver amount)
  else
    none

/-- The action an account takes by itself; `none` when the ledger refuses it. -/
def act (ledger : Ledger Token Account) (caller : Account) :
    LedgerAction Token Account → Option (Ledger Token Account)
  | .transfer token receiver amount => ledger.transfer token caller receiver amount
  | .approve token spender amount => some (ledger.approve token caller spender amount)
  | .transferFrom token holder receiver amount =>
    ledger.transferFrom token caller holder receiver amount

/-! ### Balances and allowances after one operation -/

theorem balance_move (ledger : Ledger Token Account) (token other : Token)
    (holder receiver account : Account) (amount : Nat) :
    (ledger.move token holder receiver amount).balance other account =
      if other = token then
        (if account = holder then ledger.balance token holder - amount
          else ledger.balance token account) + (if account = receiver then amount else 0)
      else
        ledger.balance other account := by
  unfold move
  by_cases same : other = token
  · subst same
    by_cases credited : account = receiver
    · subst credited
      simp [Function.update_apply]
    · simp [Function.update_apply, credited]
  · simp [same]

@[simp] theorem allowance_move (ledger : Ledger Token Account) (token : Token)
    (holder receiver : Account) (amount : Nat) :
    (ledger.move token holder receiver amount).allowance = ledger.allowance := rfl

@[simp] theorem balance_approve (ledger : Ledger Token Account) (token : Token)
    (holder spender : Account) (amount : Nat) :
    (ledger.approve token holder spender amount).balance = ledger.balance := rfl

theorem allowance_approve_ne (ledger : Ledger Token Account) (token other : Token)
    {holder account : Account} (spender : Account) (amount : Nat) (different : account ≠ holder) :
    (ledger.approve token holder spender amount).allowance other account =
      ledger.allowance other account := by
  unfold approve
  by_cases same : other = token
  · subst same
    simp [Function.update_of_ne different]
  · simp [Function.update_of_ne same]

/-- Moving an amount out of one account never lowers the balance of another. -/
theorem balance_le_move (ledger : Ledger Token Account) (token other : Token)
    {holder account : Account} (receiver : Account) (amount : Nat) (different : account ≠ holder) :
    ledger.balance other account ≤
      (ledger.move token holder receiver amount).balance other account := by
  rw [balance_move]
  by_cases same : other = token
  · subst same
    rw [if_pos rfl, if_neg different]
    exact Nat.le_add_right _ _
  · exact Nat.le_of_eq (if_neg same).symm

/-- Moving nothing changes no balance. -/
theorem balance_move_zero (ledger : Ledger Token Account) (token : Token)
    (holder receiver : Account) :
    (ledger.move token holder receiver 0).balance = ledger.balance := by
  funext other account
  rw [balance_move]
  by_cases same : other = token
  · subst same
    by_cases debited : account = holder
    · subst debited
      simp
    · simp [debited]
  · rw [if_neg same]

/-- A transfer between two accounts takes exactly the amount out of one and puts it into the
other. -/
theorem balance_transfer {ledger after : Ledger Token Account} {token : Token}
    {holder receiver : Account} {amount : Nat} (different : holder ≠ receiver)
    (moved : ledger.transfer token holder receiver amount = some after) :
    after.balance token receiver = ledger.balance token receiver + amount := by
  unfold transfer at moved
  split at moved
  · injection moved with same
    rw [← same, balance_move, if_pos rfl, if_neg different.symm, if_pos rfl]
  · cases moved

theorem balance_transferFrom {ledger after : Ledger Token Account} {token : Token}
    {spender holder receiver : Account} {amount : Nat} (different : holder ≠ receiver)
    (moved : ledger.transferFrom token spender holder receiver amount = some after) :
    after.balance token holder + amount = ledger.balance token holder := by
  unfold transferFrom at moved
  split at moved
  · rename_i enough
    injection moved with same
    rw [← same, balance_move, if_pos rfl, if_pos rfl, if_neg different, balance_approve]
    exact Nat.sub_add_cancel enough.1
  · cases moved

/-! ### Actions of somebody else -/

/-- An account that granted the caller no allowance loses nothing by what the caller does, and
its own allowances stay as they are. -/
theorem balance_le_act {ledger after : Ledger Token Account} {caller account : Account}
    {action : LedgerAction Token Account} (different : account ≠ caller)
    (ungranted : ∀ token, ledger.allowance token account caller = 0)
    (acted : ledger.act caller action = some after) :
    (∀ token, ledger.balance token account ≤ after.balance token account) ∧
      ∀ token, after.allowance token account = ledger.allowance token account := by
  cases action with
  | transfer token receiver amount =>
    have moved : (if amount ≤ ledger.balance token caller then
        some (ledger.move token caller receiver amount) else none) = some after := acted
    split at moved
    · injection moved with same
      subst same
      exact ⟨fun other => balance_le_move ledger token other receiver amount different,
        fun _ => rfl⟩
    · cases moved
  | approve token spender amount =>
    injection acted with same
    subst same
    exact ⟨fun _ => Nat.le_refl _, fun other =>
      allowance_approve_ne ledger token other spender amount different⟩
  | transferFrom token holder receiver amount =>
    have moved : (if amount ≤ ledger.balance token holder ∧
        amount ≤ ledger.allowance token holder caller then
        some ((ledger.approve token holder caller
          (ledger.allowance token holder caller - amount)).move token holder receiver amount)
        else none) = some after := acted
    split at moved
    · rename_i allowed
      injection moved with same
      subst same
      by_cases own : account = holder
      · subst own
        have nothing : amount = 0 := Nat.le_zero.mp (ungranted token ▸ allowed.2)
        subst nothing
        rw [balance_move_zero]
        refine ⟨fun _ => Nat.le_refl _, fun other => ?_⟩
        simp only [allowance_move, approve, Nat.sub_zero, Function.update_eq_self]
      · exact ⟨fun other => balance_le_move (ledger.approve token holder caller _) token other
          receiver amount own, fun other => allowance_approve_ne ledger token other caller _ own⟩
    · cases moved

end Ledger

end DexArbitrage
