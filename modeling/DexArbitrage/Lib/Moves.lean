/-
This file extends the calculus of programs to what they do to their state as a
whole. `Moves` says that a program which succeeds ends in a state that is
related to the one it started in, whatever that was. For a preorder there is
one rule for each way to build a program: a program moves within the relation
as soon as all that it calls does.
-/

import Mathlib.Order.Defs.Unbundled
import DexArbitrage.Lib.Program

namespace DexArbitrage

section Moves

variable {State Reason Value Result : Type} {relation : State → State → Prop}

/-- Every successful outcome of the program is related to its start. -/
def Moves (relation : State → State → Prop) (program : Program State Reason Value) : Prop :=
  ∀ start, Ensures program start fun _ finish => relation start finish

theorem moves_throw (reason : Reason) :
    Moves relation (throw reason : Program State Reason Value) := by
  intro start value finish outcome
  cases outcome

theorem moves_modify {change : State → State} (related : ∀ state, relation state (change state)) :
    Moves relation (modify change : Program State Reason PUnit) :=
  fun start => (ensures_modify change start _).mpr (related start)

variable [IsPreorder State relation]

theorem moves_pure (value : Value) :
    Moves relation (pure value : Program State Reason Value) :=
  fun start => (ensures_pure value start _).mpr (refl_of relation start)

theorem moves_get : Moves relation (get : Program State Reason State) :=
  fun start => moves_pure start start

theorem moves_attempt (result : Except Reason Value) :
    Moves relation (attempt result : Program State Reason Value) :=
  fun start => (ensures_attempt result start _).mpr fun _ _ => refl_of relation start

theorem moves_require (condition : Prop) [Decidable condition] (reason : Reason) :
    Moves relation (require condition reason : Program State Reason Unit) :=
  fun start => (ensures_require condition reason start _).mpr fun _ => refl_of relation start

theorem Moves.bind {program : Program State Reason Value}
    {next : Value → Program State Reason Result} (first : Moves relation program)
    (rest : ∀ value, Moves relation (next value)) : Moves relation (program >>= next) := by
  intro start
  refine (ensures_bind program next start _).mpr ((first start).mono ?_)
  intro value middle reached
  refine (rest value middle).mono ?_
  intro result finish moved
  exact trans_of relation reached moved

end Moves

end DexArbitrage
