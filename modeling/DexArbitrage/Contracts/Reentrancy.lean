/-
This file settles what foreign code can do that is called while an execution is
in progress. The lock is taken then, so an `executeSelfFunded` or an
`executeFlashLoan` that it tries to start is refused. Whatever else it does keeps
the lock taken, so this stays true of all that it does afterwards. `barredAt` is
the executor's environment with these two switched off for all code called while
the lock is taken, at every depth; it is the same as the one the executor really
runs in.

`executeOperation` takes no lock, since the Aave pool calls it from within
`executeFlashLoan`. It is not switched off: it is the pool alone that can call it.
-/

import DexArbitrage.Contracts.Authority

namespace DexArbitrage

section Reentrancy

variable {Foreign : Type}

/-- An action that starts with taking the lock. -/
def ForeignAction.takesLock : ForeignAction Foreign → Bool
  | .enter (.executeSelfFunded _) => true
  | .enter (.executeFlashLoan _) => true
  | _ => false

variable (code : ForeignCode Foreign) (deployment : Deployment) (timestamp : Nat)

/-- One action, where none that takes the lock is carried out. -/
def performBarred (external : External Foreign) (sender : Address)
    (action : ForeignAction Foreign) (world : World Foreign) : Bool × World Foreign :=
  if action.takesLock then
    (false, world)
  else
    perform deployment timestamp external sender action world

/-- What code can do that is called in a world. -/
def performAround (called : World Foreign) (external : External Foreign) :
    Address → ForeignAction Foreign → World Foreign → Bool × World Foreign :=
  if called.storage.locked = 1 then
    perform deployment timestamp external
  else
    performBarred deployment timestamp external

/-- The code outside the executor, where no code that is called while the lock is taken can start
what takes the lock. -/
def barredAt : Nat → External Foreign
  | 0 =>
    { standard := code.standard
      staticcall := code.view
      premium := code.premium
      call := fun _ _ _ => .error "" }
  | depth + 1 =>
    { standard := code.standard
      staticcall := code.view
      premium := code.premium
      call := fun target call world =>
        if target = deployment.this then
          ownCall call world
        else
          (code.called target call world).run
            (performAround deployment timestamp world (barredAt depth)) world }

variable {deployment timestamp} {external : External Foreign} {world : World Foreign}

/-- A program without successful outcomes fails. -/
theorem exists_error_of_ensures_false {Value : Type} {program : Evm Foreign Value}
    (never : Ensures program world fun _ _ => False) :
    ∃ reason, program.run world = .error reason := by
  cases ran : program.run world with
  | error reason => exact ⟨reason, rfl⟩
  | ok outcome => exact (never outcome.1 outcome.2 ran).elim

theorem ensures_nonReentrant_taken (taken : world.storage.locked ≠ 1) (body : Evm Foreign Unit)
    (post : Unit → World Foreign → Prop) : Ensures (nonReentrant body) world post := by
  unfold nonReentrant
  simp only [ensures_bind, ensures_get, ensures_require]
  exact fun free => absurd free taken

variable (external deployment) in
/-- While the lock is taken what takes it is refused. -/
theorem enter_taken (taken : world.storage.locked ≠ 1) (context : Context) {entry : EntryPoint}
    (takes : (ForeignAction.enter entry : ForeignAction Foreign).takesLock = true) :
    ∃ reason, (enter external deployment context entry).run world = .error reason := by
  refine exists_error_of_ensures_false ?_
  cases entry with
  | executeSelfFunded params =>
    unfold enter executeSelfFunded onlyOperator notPaused
    simp only [ensures_bind, ensures_get, ensures_require]
    exact fun _ _ => ensures_nonReentrant_taken taken _ _
  | executeFlashLoan params =>
    unfold enter executeFlashLoan onlyOperator notPaused
    simp only [ensures_bind, ensures_get, ensures_require]
    exact fun _ _ => ensures_nonReentrant_taken taken _ _
  | receiveNative | transferOwnership | setOperator | setAllowedTargets
  | setStrictTargetAllowlist | setPaused | rescueTokens | rescueNative | executeOperation
  | uniswapV3SwapCallback => cases takes

variable (external deployment timestamp) in
theorem perform_taken (taken : world.storage.locked ≠ 1) (sender : Address)
    (action : ForeignAction Foreign) :
    perform deployment timestamp external sender action world =
      performBarred deployment timestamp external sender action world := by
  unfold performBarred
  split
  · rename_i takes
    unfold perform
    split
    · rfl
    · cases action with
      | enter entry =>
        obtain ⟨reason, refused⟩ :=
          enter_taken deployment external taken { sender, timestamp } takes
        dsimp only
        rw [refused]
      | ledger action => cases takes
      | write change => cases takes
  · rfl

/-- Code that starts while the lock is taken finds it taken throughout, so it does the same with
these switched off. -/
theorem run_taken
    (calls : ∀ target call, Moves lockRule.onWorlds (externalCall external target call))
    (behaviour : Behaviour Foreign) (taken : world.storage.locked ≠ 1) :
    behaviour.run (perform deployment timestamp external) world =
      behaviour.run (performBarred deployment timestamp external) world := by
  induction behaviour generalizing world with
  | done returned => rfl
  | fail reason => rfl
  | act sender action next inductionHypothesis =>
    have same := perform_taken deployment timestamp external taken sender action
    have kept : (perform deployment timestamp external sender action world).2.storage.locked =
        world.storage.locked :=
      onWorlds_perform lockRule calls timestamp trivial action world
    unfold Behaviour.run
    rw [← same]
    exact inductionHypothesis _ _ (kept ▸ taken)

variable (deployment timestamp)

/-- No foreign code that an execution calls, at any depth of calls, can start an
`executeSelfFunded` or an `executeFlashLoan`. -/
theorem externalAt_eq_barredAt (depth : Nat) :
    externalAt code deployment timestamp depth = barredAt code deployment timestamp depth := by
  induction depth with
  | zero => rfl
  | succ depth inductionHypothesis =>
    unfold externalAt barredAt
    rw [← inductionHypothesis]
    congr 1
    funext target call world
    split
    · rfl
    · unfold performAround
      split
      · rfl
      · rename_i taken
        refine run_taken (fun other otherCall => ?_) _ taken
        exact moves_externalAt lockRule timestamp (fun _ _ _ => actsAs_anyone _) depth other
          otherCall

end Reentrancy

end DexArbitrage
