/-
This file is the run calculus of a deterministic machine: a step function on a
state type, fed with a list of inputs. It fixes the two ways in which the
development speaks about whole runs. `Always` says that a property holds in
every state a run passes through, the first and the last included.
`StepsMeet` says that every step of a run is taken from a state, and on an
input, that satisfy a condition.

The main induction of the file is `always_of_stepsMeet`: an invariant that
every step meeting the condition preserves holds throughout a run all of whose
steps meet it.
-/

import Mathlib.Data.List.Basic
import Mathlib.Order.Lattice
import Mathlib.Data.Nat.Basic

namespace DexArbitrage

section Run

variable {State Input : Type*} (step : State → Input → State)

/-- The state a run ends in. -/
def runFrom (start : State) (inputs : List Input) : State :=
  inputs.foldl step start

/-- A property of every state a run passes through. -/
def Always (holds : State → Prop) : State → List Input → Prop
  | start, [] => holds start
  | start, input :: rest => holds start ∧ Always holds (step start input) rest

/-- A condition on every step of a run: the state before it and its input. -/
def StepsMeet (condition : State → Input → Prop) : State → List Input → Prop
  | _, [] => True
  | start, input :: rest => condition start input ∧ StepsMeet condition (step start input) rest

@[simp] theorem runFrom_nil (start : State) : runFrom step start ([] : List Input) = start := rfl

@[simp] theorem runFrom_cons (start : State) (input : Input) (rest : List Input) :
    runFrom step start (input :: rest) = runFrom step (step start input) rest := rfl

@[simp] theorem always_cons (holds : State → Prop) (start : State) (input : Input)
    (rest : List Input) :
    Always step holds start (input :: rest) ↔
      holds start ∧ Always step holds (step start input) rest := Iff.rfl

@[simp] theorem stepsMeet_cons (condition : State → Input → Prop) (start : State) (input : Input)
    (rest : List Input) :
    StepsMeet step condition start (input :: rest) ↔
      condition start input ∧ StepsMeet step condition (step start input) rest := Iff.rfl

variable {step}

theorem Always.start {holds : State → Prop} {start : State} {inputs : List Input}
    (always : Always step holds start inputs) : holds start := by
  cases inputs with
  | nil => exact always
  | cons input rest => exact always.1

/-- A property of every state passed through holds of the state the run ends in. -/
theorem Always.last {holds : State → Prop} {start : State} {inputs : List Input}
    (always : Always step holds start inputs) : holds (runFrom step start inputs) := by
  induction inputs generalizing start with
  | nil => exact always
  | cons input rest inductionHypothesis => exact inductionHypothesis always.2

theorem Always.mono {holds holds' : State → Prop} (weaker : ∀ state, holds state → holds' state)
    {start : State} {inputs : List Input} (always : Always step holds start inputs) :
    Always step holds' start inputs := by
  induction inputs generalizing start with
  | nil => exact weaker start always
  | cons input rest inductionHypothesis =>
    exact ⟨weaker start always.1, inductionHypothesis always.2⟩

/-- An invariant that every step meeting the condition preserves holds throughout a run all of
whose steps meet it. -/
theorem always_of_stepsMeet {invariant : State → Prop} {condition : State → Input → Prop}
    (preserved : ∀ state input, invariant state → condition state input →
      invariant (step state input))
    {start : State} {inputs : List Input} (initial : invariant start)
    (meets : StepsMeet step condition start inputs) : Always step invariant start inputs := by
  induction inputs generalizing start with
  | nil => exact initial
  | cons input rest inductionHypothesis =>
    exact ⟨initial, inductionHypothesis (preserved start input initial meets.1) meets.2⟩

/-- What an invariant and the condition of a step give, every step of the run has. -/
theorem StepsMeet.of_invariant {invariant : State → Prop} {condition good : State → Input → Prop}
    (preserved : ∀ state input, invariant state → condition state input →
      invariant (step state input))
    (gives : ∀ state input, invariant state → condition state input → good state input)
    {start : State} {inputs : List Input} (initial : invariant start)
    (meets : StepsMeet step condition start inputs) : StepsMeet step good start inputs := by
  induction inputs generalizing start with
  | nil => exact trivial
  | cons input rest inductionHypothesis =>
    exact ⟨gives start input initial meets.1,
      inductionHypothesis (preserved start input initial meets.1) meets.2⟩

theorem stepsMeet_of_forall_mem {condition : Input → Prop} {start : State} {inputs : List Input}
    (meets : ∀ input ∈ inputs, condition input) :
    StepsMeet step (fun _ input => condition input) start inputs := by
  induction inputs generalizing start with
  | nil => exact trivial
  | cons input rest inductionHypothesis =>
    refine ⟨meets input List.mem_cons_self, inductionHypothesis fun other member => ?_⟩
    exact meets other (List.mem_cons_of_mem _ member)

theorem stepsMeet_of_forall {condition : State → Input → Prop}
    (meets : ∀ state input, condition state input) (start : State) (inputs : List Input) :
    StepsMeet step condition start inputs := by
  induction inputs generalizing start with
  | nil => exact trivial
  | cons input rest inductionHypothesis => exact ⟨meets start input, inductionHypothesis _⟩

/-- Two conditions that agree on the states of an invariant and on the inputs of a run are met
together, when the steps that meet the second one preserve the invariant. -/
theorem stepsMeet_iff_of_inputs {invariant : State → Prop} {allowed : Input → Prop}
    {good condition : State → Input → Prop}
    (agree : ∀ state input, invariant state → allowed input →
      (good state input ↔ condition state input))
    (preserved : ∀ state input, invariant state → allowed input → condition state input →
      invariant (step state input))
    {start : State} {inputs : List Input} (initial : invariant start)
    (inputsAllowed : ∀ input ∈ inputs, allowed input) :
    StepsMeet step good start inputs ↔ StepsMeet step condition start inputs := by
  induction inputs generalizing start with
  | nil => exact Iff.rfl
  | cons input rest inductionHypothesis =>
    have first := inputsAllowed input List.mem_cons_self
    rw [stepsMeet_cons, stepsMeet_cons, agree start input initial first]
    refine and_congr_right fun meets => ?_
    refine inductionHypothesis (preserved start input initial first meets) fun other member => ?_
    exact inputsAllowed other (List.mem_cons_of_mem _ member)

/-- Two conditions that agree on the states of an invariant are met by the same runs, when the
steps that meet the second one preserve the invariant. -/
theorem stepsMeet_iff_of_invariant {invariant : State → Prop}
    {good condition : State → Input → Prop}
    (agree : ∀ state input, invariant state → (good state input ↔ condition state input))
    (preserved : ∀ state input, invariant state → condition state input →
      invariant (step state input))
    {start : State} {inputs : List Input} (initial : invariant start) :
    StepsMeet step good start inputs ↔ StepsMeet step condition start inputs :=
  stepsMeet_iff_of_inputs
    (fun state input holds _ => agree state input holds)
    (fun state input holds _ => preserved state input holds) initial fun _ _ => trivial

theorem stepsMeet_and {first second : State → Input → Prop} {start : State}
    {inputs : List Input} :
    StepsMeet step (fun state input => first state input ∧ second state input) start inputs ↔
      StepsMeet step first start inputs ∧ StepsMeet step second start inputs := by
  induction inputs generalizing start with
  | nil => exact ⟨fun _ => ⟨trivial, trivial⟩, fun _ => trivial⟩
  | cons input rest inductionHypothesis =>
    rw [stepsMeet_cons, stepsMeet_cons, stepsMeet_cons, inductionHypothesis]
    exact and_and_and_comm

/-- A property holds throughout a run when it holds at the start and after every step. -/
theorem always_iff_stepsMeet {holds : State → Prop} {start : State} {inputs : List Input} :
    Always step holds start inputs ↔
      holds start ∧ StepsMeet step (fun state input => holds (step state input)) start inputs := by
  induction inputs generalizing start with
  | nil => exact (and_iff_left trivial).symm
  | cons input rest inductionHypothesis =>
    rw [always_cons, stepsMeet_cons, inductionHypothesis]

end Run

end DexArbitrage
