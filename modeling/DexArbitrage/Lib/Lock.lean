/-
This file is the calculus of programs that take locks. A program runs with a
list of locks it already holds and with the data the locks protect. It ends
with a value, fails with a reason, or blocks: a lock that is not reentrant
blocks forever when the program that holds it takes it again. Guards are
released at the end of their scope, so the locks held are known from where the
program stands and are not part of the state. Unlike a transaction, a program
that fails keeps what it has written.
-/

import Mathlib.Logic.Basic

namespace DexArbitrage

inductive LockDiscipline
  | nonReentrant
  | reentrant
  deriving DecidableEq, Repr

/-- Why a program did not return a value. -/
inductive Halt (Reason : Type)
  | failed (reason : Reason)
  | blocked
  deriving DecidableEq, Repr

/-- Programs that run with some locks held. -/
abbrev LockProgram (Lock Data Reason Value : Type) : Type :=
  ReaderT (List Lock) (ExceptT (Halt Reason) (StateM Data)) Value

section Lock

variable {Lock Data Reason Value Result : Type}

/-- How a program ends, and the data it leaves. -/
def outcome (program : LockProgram Lock Data Reason Value) (held : List Lock) (data : Data) :
    Except (Halt Reason) Value × Data :=
  program held data

def fail (reason : Reason) : LockProgram Lock Data Reason Value :=
  throw (.failed reason)

/-- Run a program while a lock is held. -/
def withLock [DecidableEq Lock] (discipline : LockDiscipline) (lock : Lock)
    (body : LockProgram Lock Data Reason Value) : LockProgram Lock Data Reason Value := fun held =>
  if lock ∈ held then
    match discipline with
    | .nonReentrant => throw .blocked
    | .reentrant => body held
  else
    body (lock :: held)

@[simp] theorem outcome_get (held : List Lock) (data : Data) :
    outcome (get : LockProgram Lock Data Reason Data) held data = (.ok data, data) := rfl

/-- A program that only writes and returns. -/
theorem outcome_modify_return (change : Data → Data) (value : Value) (held : List Lock)
    (data : Data) :
    outcome (do modify change; return value : LockProgram Lock Data Reason Value) held data =
      (.ok value, change data) := rfl

theorem outcome_bind (program : LockProgram Lock Data Reason Value)
    (next : Value → LockProgram Lock Data Reason Result) (held : List Lock) (data : Data) :
    outcome (program >>= next) held data =
      match outcome program held data with
      | (.ok value, written) => outcome (next value) held written
      | (.error halt, written) => (.error halt, written) := by
  have unfolded : outcome (program >>= next) held data =
      ExceptT.bindCont (fun value => next value held) (outcome program held data).1
        (outcome program held data).2 := rfl
  rw [unfolded]
  rcases outcome program held data with ⟨value | halt, written⟩
  · rfl
  · rfl

/-- The rule for a program whose first part returns. -/
theorem outcome_bind_ok {program : LockProgram Lock Data Reason Value}
    {next : Value → LockProgram Lock Data Reason Result} {held : List Lock} {data written : Data}
    {value : Value} (first : outcome program held data = (.ok value, written)) :
    outcome (program >>= next) held data = outcome (next value) held written := by
  rw [outcome_bind, first]

theorem outcome_bind_error {program : LockProgram Lock Data Reason Value}
    {next : Value → LockProgram Lock Data Reason Result} {held : List Lock} {data written : Data}
    {halt : Halt Reason} (first : outcome program held data = (.error halt, written)) :
    outcome (program >>= next) held data = (.error halt, written) := by
  rw [outcome_bind, first]

variable [DecidableEq Lock]

theorem outcome_withLock_free (discipline : LockDiscipline) {lock : Lock}
    (body : LockProgram Lock Data Reason Value) {held : List Lock} (data : Data)
    (free : lock ∉ held) :
    outcome (withLock discipline lock body) held data = outcome body (lock :: held) data := by
  unfold outcome withLock
  rw [if_neg free]

/-- Taking a lock that is already held blocks, unless the lock is reentrant. -/
theorem outcome_withLock_held {lock : Lock} (body : LockProgram Lock Data Reason Value)
    {held : List Lock} (data : Data) (taken : lock ∈ held) :
    outcome (withLock .nonReentrant lock body) held data = (.error .blocked, data) := by
  unfold outcome withLock
  rw [if_pos taken]
  rfl

theorem outcome_withLock_reentrant {lock : Lock} (body : LockProgram Lock Data Reason Value)
    {held : List Lock} (data : Data) (taken : lock ∈ held) :
    outcome (withLock .reentrant lock body) held data = outcome body held data := by
  unfold outcome withLock
  rw [if_pos taken]

/-! ### Acquisitions on record -/

/-- What the locks protect, and a record of the acquisitions: for each the locks that were held, and
the lock that was asked for. -/
structure Traced (Lock Data : Type) where
  data : Data
  acquisitions : List (List Lock × Lock)

/-- Run a program while a lock is held that is not reentrant, and put this on record. -/
def acquire (lock : Lock) (body : LockProgram Lock (Traced Lock Data) Reason Value) :
    LockProgram Lock (Traced Lock Data) Reason Value := do
  let held ← read
  modify fun traced =>
    { traced with acquisitions := traced.acquisitions ++ [(held, lock)] }
  withLock .nonReentrant lock body

/-- Write what the locks protect. -/
def update (change : Data → Data) : LockProgram Lock (Traced Lock Data) Reason Unit :=
  modify fun traced => { traced with data := change traced.data }

/-- Read a part of what the locks protect. -/
def view (part : Data → Value) : LockProgram Lock (Traced Lock Data) Reason Value := do
  return part (← get).data

/-- A program that starts with no lock held, and what it leaves. -/
def outcomeOn (program : LockProgram Lock (Traced Lock Data) Reason Value) (data : Data) :
    Except (Halt Reason) Value × Traced Lock Data :=
  outcome program [] { data, acquisitions := [] }

/-- The program asks for no lock that it holds. -/
def NeverLocksItself (program : LockProgram Lock (Traced Lock Data) Reason Value) (data : Data) :
    Prop :=
  ∀ acquisition ∈ (outcomeOn program data).2.acquisitions, acquisition.2 ∉ acquisition.1

/-- The program asks for one lock while it holds another. -/
def Nests (program : LockProgram Lock (Traced Lock Data) Reason Value) (data : Data)
    (outer inner : Lock) : Prop :=
  ∃ held, (held, inner) ∈ (outcomeOn program data).2.acquisitions ∧ outer ∈ held

end Lock

end DexArbitrage
