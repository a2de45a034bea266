/-
This file models the code that a transaction runs besides the executor's. Every
other contract may be hostile. When it is called it acts, in the name of any
account but the executor, as often as it likes: it moves tokens on the ledgers,
writes storage of its own, and calls the executor again. What it does next may
depend on the whole world it sees and on whether its last action reverted.

`externalAt` ties the knot between the executor, which calls foreign code, and foreign
code, which calls the executor, by recursion on the depth of calls that is left.
-/

import DexArbitrage.Lib.Run
import DexArbitrage.Contracts.Executor

namespace DexArbitrage

inductive ForeignAction (Foreign : Type)
  | enter (entry : EntryPoint)
  | ledger (action : LedgerAction Address Address)
  | write (change : Foreign → Foreign)

/-- What foreign code does until it returns or reverts. -/
inductive Behaviour (Foreign : Type)
  | done (returned : Bytes)
  | fail (reason : Revert)
  | act (sender : Address) (action : ForeignAction Foreign)
      (next : Bool → World Foreign → Behaviour Foreign)

/-- All contracts but the executor. -/
structure ForeignCode (Foreign : Type) where
  standard : Address → Bool
  view : Address → ExternalCall → World Foreign → Except Revert Bytes
  premium : Address → Nat → World Foreign → Nat
  called : Address → ExternalCall → World Foreign → Behaviour Foreign

/-- A transaction starts with any account, which may be a contract that acts many times. -/
structure Transaction (Foreign : Type) where
  timestamp : Nat
  behaviour : Behaviour Foreign

section Behaviour

variable {Foreign : Type}

def Behaviour.run
    (perform : Address → ForeignAction Foreign → World Foreign → Bool × World Foreign) :
    Behaviour Foreign → World Foreign → Except Revert (Bytes × World Foreign)
  | .done returned, world => .ok (returned, world)
  | .fail reason, _ => .error reason
  | .act sender action next, world =>
    let (succeeded, after) := perform sender action world
    (next succeeded after).run perform after

/-- Whatever happens, the behaviour acts in the name of these accounts only. -/
def Behaviour.ActsAs (acts : Address → Prop) : Behaviour Foreign → Prop
  | .done _ => True
  | .fail _ => True
  | .act sender _ next =>
    acts sender ∧ ∀ succeeded after, (next succeeded after).ActsAs acts

/-- The executor calls itself: it has none of the functions it calls, and takes native currency. -/
def ownCall (call : ExternalCall) (world : World Foreign) :
    Except Revert (Bytes × World Foreign) :=
  match call with
  | .sendNative _ => .ok ([], world)
  | _ => .error ""

variable (code : ForeignCode Foreign) (deployment : Deployment) (timestamp : Nat)

/-- One action, and whether it succeeded. A revert leaves the world as it was, and nobody acts in
the name of the executor. -/
def perform (external : External Foreign) (sender : Address) (action : ForeignAction Foreign)
    (world : World Foreign) : Bool × World Foreign :=
  if sender = deployment.this then
    (false, world)
  else
    match action with
    | .enter entry =>
      match (enter external deployment { sender, timestamp } entry).run world with
      | .ok (_, after) => (true, after)
      | .error _ => (false, world)
    | .ledger action =>
      match world.ledger.act sender action with
      | some ledger => (true, { world with ledger })
      | none => (false, world)
    | .write change => (true, { world with foreign := change world.foreign })

/-- The code outside the executor, with a depth of calls left. -/
def externalAt : Nat → External Foreign
  | 0 =>
    { standard := code.standard
      staticcall := code.view
      premium := code.premium
      call := fun _ _ _ => .error "" }
  | depth + 1 =>
    { standard := code.standard
      staticcall := code.view
      premium := code.premium
      call := fun target call world =>
        if target = deployment.this then
          ownCall call world
        else
          (code.called target call world).run
            (perform deployment timestamp (externalAt depth)) world }

/-- A transaction that reverts leaves the world as it was. -/
def transact (depth : Nat) (world : World Foreign) (transaction : Transaction Foreign) :
    World Foreign :=
  match transaction.behaviour.run (perform deployment transaction.timestamp
    (externalAt code deployment transaction.timestamp depth)) world with
  | .ok (_, after) => after
  | .error _ => world

end Behaviour

end DexArbitrage
