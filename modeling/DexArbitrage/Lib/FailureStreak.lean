/-
This file is the purpose of a circuit breaker: what it says of a provider, read
off the whole history of the outcomes recorded for it. A provider is tripped
when at least a threshold of outcomes in a row, up to the latest one, were
failures, and the latest one is not yet older than the time a breaker stays
open.

A breaker that keeps only a counter and a deadline is right when it agrees with
this at every time from the latest outcome on.
-/

import Mathlib.Data.List.Basic
import Mathlib.Data.List.TakeWhile
import Mathlib.Order.Lattice
import Mathlib.Data.Nat.Basic

namespace DexArbitrage

/-- An outcome of using a provider. -/
structure Outcome where
  failed : Bool
  recordedAt : Nat
  deriving DecidableEq, Repr

/-- How many of the latest outcomes were failures, without a success in between. The latest
outcome comes first. -/
def failureStreak (history : List Outcome) : Nat :=
  (history.takeWhile Outcome.failed).length

/-- The provider failed often enough in a row, the last time not long ago. -/
def TrippedAt (threshold openFor : Nat) (history : List Outcome) (now : Nat) : Prop :=
  threshold ≤ failureStreak history ∧
    ∃ latest ∈ history.head?, now < latest.recordedAt + openFor

@[simp] theorem failureStreak_nil : failureStreak [] = 0 := rfl

theorem failureStreak_failure (recordedAt : Nat) (history : List Outcome) :
    failureStreak ({ failed := true, recordedAt } :: history) = failureStreak history + 1 := by
  simp [failureStreak]

theorem failureStreak_success (recordedAt : Nat) (history : List Outcome) :
    failureStreak ({ failed := false, recordedAt } :: history) = 0 := by
  simp [failureStreak]

theorem not_trippedAt_nil {threshold openFor now : Nat} : ¬ TrippedAt threshold openFor [] now := by
  rintro ⟨_, latest, member, _⟩
  cases member

/-- One success closes the breaker. -/
theorem not_trippedAt_success {threshold openFor recordedAt now : Nat} {history : List Outcome}
    (positive : 0 < threshold) :
    ¬ TrippedAt threshold openFor ({ failed := false, recordedAt } :: history) now := by
  rintro ⟨enough, _⟩
  rw [failureStreak_success] at enough
  omega

theorem trippedAt_failure_iff {threshold openFor recordedAt now : Nat} {history : List Outcome} :
    TrippedAt threshold openFor ({ failed := true, recordedAt } :: history) now ↔
      threshold ≤ failureStreak history + 1 ∧ now < recordedAt + openFor := by
  simp [TrippedAt, failureStreak_failure]

/-! ### A counter and a deadline -/

/-- A counter that is cut at a bound, and a deadline, agree with the history at every time from
the latest outcome on. -/
structure TracksStreak (bound threshold openFor : Nat) (failures : Nat) (deadline : Option Nat)
    (history : List Outcome) (clock : Nat) : Prop where
  failures : failures = min (failureStreak history) bound
  isOpen : ∀ now, clock ≤ now →
    ((∃ until_ ∈ deadline, now < until_) ↔ TrippedAt threshold openFor history now)

namespace TracksStreak

variable {bound threshold openFor failures clock : Nat} {deadline : Option Nat}
  {history : List Outcome}

theorem start (bound threshold openFor clock : Nat) :
    TracksStreak bound threshold openFor 0 none [] clock where
  failures := (Nat.zero_min bound).symm
  isOpen := fun _ _ => iff_of_false (fun ⟨_, member, _⟩ => nomatch member) not_trippedAt_nil

theorem elapse (tracks : TracksStreak bound threshold openFor failures deadline history clock)
    {later : Nat} (after : clock ≤ later) :
    TracksStreak bound threshold openFor failures deadline history later where
  failures := tracks.failures
  isOpen := fun now reached => tracks.isOpen now (after.trans reached)

/-- A deadline that has passed may be forgotten. -/
theorem forget (tracks : TracksStreak bound threshold openFor failures deadline history clock)
    (passed : ∀ until_ ∈ deadline, until_ ≤ clock) :
    TracksStreak bound threshold openFor failures none history clock where
  failures := tracks.failures
  isOpen := by
    intro now reached
    rw [← tracks.isOpen now reached]
    constructor
    · rintro ⟨_, member, _⟩
      cases member
    · rintro ⟨until_, member, before⟩
      have := passed until_ member
      omega

theorem success (positive : 0 < threshold) (history : List Outcome) (clock : Nat) :
    TracksStreak bound threshold openFor 0 none
      ({ failed := false, recordedAt := clock } :: history) clock where
  failures := by rw [failureStreak_success, Nat.zero_min]
  isOpen := fun _ _ => iff_of_false (fun ⟨_, member, _⟩ => nomatch member)
    (not_trippedAt_success positive)

/-- A failure sets the deadline when the counter has reached the threshold, and leaves it as it is
otherwise. -/
theorem failure (tracks : TracksStreak bound threshold openFor failures deadline history clock)
    (fits : threshold ≤ bound) :
    TracksStreak bound threshold openFor (min (failures + 1) bound)
      (if threshold ≤ min (failures + 1) bound then some (clock + openFor) else deadline)
      ({ failed := true, recordedAt := clock } :: history) clock where
  failures := by
    rw [failureStreak_failure, tracks.failures]
    omega
  isOpen := by
    intro now reached
    have counted := tracks.failures
    rw [trippedAt_failure_iff]
    split
    · rename_i enough
      have streak : threshold ≤ failureStreak history + 1 := by omega
      simp [streak]
    · rename_i few
      have streak : ¬ threshold ≤ failureStreak history + 1 := by omega
      rw [tracks.isOpen now reached]
      refine iff_of_false (fun tripped => ?_) fun tripped => streak tripped.1
      exact streak (tripped.1.trans (Nat.le_succ _))

end TracksStreak

end DexArbitrage
