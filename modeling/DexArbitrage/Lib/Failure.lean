/-
This file extends the calculus of programs to their failures. `RaisesOnly` says
for which reasons a program may fail, from any state; `EnsuresOr` also says what
holds when it does not fail. A program whose failures do not depend on its
state is handled by the rules of `RaisesOnly`, and its successful outcomes by those of
`Ensures`; where a guard earlier in the program excludes a failure later on,
`EnsuresOr` carries what the guard established.
-/

import DexArbitrage.Lib.Program

namespace DexArbitrage

section Raises

variable {State Reason Value Result : Type} {raises : Reason → Prop}

/-- The program fails for the given reasons only. -/
def RaisesOnly (raises : Reason → Prop) (program : Program State Reason Value) : Prop :=
  ∀ start reason, program.run start = .error reason → raises reason

/-- The program ends with an outcome that satisfies the postcondition, or fails for one of the
given reasons. -/
def EnsuresOr (raises : Reason → Prop) (program : Program State Reason Value) (start : State)
    (post : Value → State → Prop) : Prop :=
  Ensures program start post ∧ ∀ reason, program.run start = .error reason → raises reason

theorem RaisesOnly.ensuresOr {program : Program State Reason Value}
    (raisesOnly : RaisesOnly raises program) {start : State} {post : Value → State → Prop}
    (ensures : Ensures program start post) : EnsuresOr raises program start post :=
  ⟨ensures, raisesOnly start⟩

theorem EnsuresOr.mono {program : Program State Reason Value} {start : State}
    {post weaker : Value → State → Prop} (ensures : EnsuresOr raises program start post)
    (implies : ∀ value finish, post value finish → weaker value finish) :
    EnsuresOr raises program start weaker :=
  ⟨ensures.1.mono implies, ensures.2⟩

theorem EnsuresOr.mono_raises {raisesMore : Reason → Prop} {program : Program State Reason Value}
    {start : State} {post : Value → State → Prop} (ensures : EnsuresOr raises program start post)
    (implies : ∀ reason, raises reason → raisesMore reason) :
    EnsuresOr raisesMore program start post :=
  ⟨ensures.1, fun reason failed => implies reason (ensures.2 reason failed)⟩

/-- The outcome is the one of the run. -/
theorem EnsuresOr.and_run {program : Program State Reason Value} {start : State}
    {post : Value → State → Prop} (ensures : EnsuresOr raises program start post) :
    EnsuresOr raises program start fun value finish =>
      post value finish ∧ program.run start = .ok (value, finish) :=
  ⟨fun value finish ran => ⟨ensures.1 value finish ran, ran⟩, ensures.2⟩

theorem EnsuresOr.bind {program : Program State Reason Value}
    {next : Value → Program State Reason Result} {start : State} {post : Result → State → Prop}
    (first : EnsuresOr raises program start fun value middle =>
      EnsuresOr raises (next value) middle post) :
    EnsuresOr raises (program >>= next) start post := by
  refine ⟨(ensures_bind _ _ _ _).mpr (first.1.mono fun value middle holds => holds.1), ?_⟩
  intro reason failed
  rw [run_bind_eq] at failed
  cases ran : program.run start with
  | error other =>
    rw [ran] at failed
    injection failed with same
    exact same ▸ first.2 other ran
  | ok outcome =>
    rw [ran] at failed
    exact (first.1 outcome.1 outcome.2 ran).2 reason failed

theorem raisesOnly_pure (value : Value) :
    RaisesOnly raises (pure value : Program State Reason Value) := by
  intro start reason failed
  cases failed

theorem raisesOnly_get : RaisesOnly raises (get : Program State Reason State) := by
  intro start reason failed
  cases failed

theorem RaisesOnly.bind {program : Program State Reason Value}
    {next : Value → Program State Reason Result} (first : RaisesOnly raises program)
    (rest : ∀ value, RaisesOnly raises (next value)) : RaisesOnly raises (program >>= next) := by
  intro start
  have outcomes : EnsuresOr raises program start fun value middle =>
      EnsuresOr raises (next value) middle fun _ _ => True :=
    first.ensuresOr fun value middle _ => (rest value).ensuresOr fun _ _ _ => trivial
  exact outcomes.bind.2

theorem RaisesOnly.map {program : Program State Reason Value}
    (first : RaisesOnly raises program) (change : Value → Result) :
    RaisesOnly raises (change <$> program) := by
  rw [map_eq_pure_bind]
  exact first.bind fun value => raisesOnly_pure _

theorem raisesOnly_mapM {Element : Type} {program : Element → Program State Reason Value}
    (each : ∀ element, RaisesOnly raises (program element)) (elements : List Element) :
    RaisesOnly raises (elements.mapM program) := by
  induction elements with
  | nil => exact raisesOnly_pure _
  | cons element rest inductionHypothesis =>
    rw [List.mapM_cons]
    refine (each element).bind fun value => ?_
    exact inductionHypothesis.bind fun values => raisesOnly_pure _

theorem ensuresOr_pure {value : Value} {start : State} {post : Value → State → Prop}
    (holds : post value start) :
    EnsuresOr raises (pure value : Program State Reason Value) start post :=
  (raisesOnly_pure value).ensuresOr ((ensures_pure _ _ _).mpr holds)

theorem ensuresOr_get {start : State} {post : State → State → Prop} (holds : post start start) :
    EnsuresOr raises (get : Program State Reason State) start post :=
  ensuresOr_pure holds

theorem ensuresOr_modify {change : State → State} {start : State} {post : PUnit → State → Prop}
    (holds : post PUnit.unit (change start)) :
    EnsuresOr raises (modify change : Program State Reason PUnit) start post := by
  refine ⟨(ensures_modify change start post).mpr holds, fun reason failed => ?_⟩
  cases failed

theorem ensuresOr_attempt {result : Except Reason Value} {start : State}
    {post : Value → State → Prop} (holds : ∀ value, result = .ok value → post value start)
    (raised : ∀ reason, result = .error reason → raises reason) :
    EnsuresOr raises (attempt result) start post := by
  refine ⟨(ensures_attempt result start post).mpr holds, fun reason failed => ?_⟩
  cases result with
  | ok value => cases failed
  | error other =>
    injection failed with same
    exact raised reason (congrArg Except.error same)

theorem ensuresOr_attempt_ok {value : Value} {start : State} {post : Value → State → Prop}
    (holds : post value start) :
    EnsuresOr raises (attempt (.ok value) : Program State Reason Value) start post :=
  ensuresOr_pure holds

/-- A loop keeps what each of its steps keeps. -/
theorem ensuresOr_foldlM {Element : Type} {body : Value → Element → Program State Reason Value}
    {invariant : Value → State → Prop} {elements : List Element}
    (step : ∀ element ∈ elements, ∀ value start, invariant value start →
      EnsuresOr raises (body value element) start invariant)
    {value : Value} {start : State} (holds : invariant value start) :
    EnsuresOr raises (elements.foldlM body value) start invariant := by
  induction elements generalizing value start with
  | nil => exact ensuresOr_pure holds
  | cons element rest inductionHypothesis =>
    rw [List.foldlM_cons]
    refine EnsuresOr.bind ((step element List.mem_cons_self value start holds).mono ?_)
    intro next middle kept
    exact inductionHypothesis (fun later member => step later (List.mem_cons_of_mem _ member)) kept

end Raises

end DexArbitrage
