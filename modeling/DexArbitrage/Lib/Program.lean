/-
This file is the calculus of programs that read and write a state and may
fail: a failure carries its reason and drops the state, which is how a
transaction reverts. `Ensures` is partial correctness: every successful outcome
of a program from a given state satisfies a postcondition. There is one rule for each
way to build a program, stated as an equivalence, so that `simp` takes a
program apart step by step; what a program calls is replaced by what the call
ensures with `Ensures.mono`. `LeadsTo` is the same for a loop that may be left
early, with a property of its own for what leaves it.
-/

import Mathlib.Logic.Basic
import DexArbitrage.Lib.Related

namespace DexArbitrage

/-- Programs over a state that fail with a reason of type `Reason`. -/
abbrev Program (State Reason : Type) (Value : Type) : Type := StateT State (Except Reason) Value

section Ensures

variable {State Reason Value Result : Type}

/-- A computation that succeeded hands its value on. -/
theorem ok_bind (value : Value) (next : Value → Except Reason Result) :
    (Except.ok value >>= next) = next value := rfl

/-- A computation in two parts succeeds when both do. -/
theorem bind_eq_ok_iff {first : Except Reason Value} {next : Value → Except Reason Result}
    {result : Result} :
    (first >>= next) = .ok result ↔ ∃ value, first = .ok value ∧ next value = .ok result := by
  cases first with
  | error reason =>
    refine iff_of_false (fun failed => ?_) fun found => ?_
    · cases failed
    · obtain ⟨value, none, _⟩ := found
      cases none
  | ok value =>
    rw [ok_bind]
    constructor
    · intro succeeds
      exact ⟨value, rfl, succeeds⟩
    · rintro ⟨other, same, succeeds⟩
      injection same with same
      exact same ▸ succeeds

/-- Every successful outcome of the program from a state satisfies the postcondition. -/
def Ensures (program : Program State Reason Value) (start : State)
    (post : Value → State → Prop) : Prop :=
  ∀ value finish, program.run start = .ok (value, finish) → post value finish

theorem Ensures.mono {program : Program State Reason Value} {start : State}
    {post weaker : Value → State → Prop} (ensures : Ensures program start post)
    (implies : ∀ value finish, post value finish → weaker value finish) :
    Ensures program start weaker :=
  fun value finish outcome => implies value finish (ensures value finish outcome)

theorem Ensures.and {program : Program State Reason Value} {start : State}
    {post other : Value → State → Prop} (ensures : Ensures program start post)
    (ensuresOther : Ensures program start other) :
    Ensures program start fun value finish => post value finish ∧ other value finish :=
  fun value finish outcome =>
    ⟨ensures value finish outcome, ensuresOther value finish outcome⟩

/-- What a program ensures, when its run is known, is said of the result of that run. -/
theorem ensures_iff_of_run {program : Program State Reason Value}
    {start finish : State} {value : Value} (ran : program.run start = .ok (value, finish))
    (post : Value → State → Prop) : Ensures program start post ↔ post value finish := by
  constructor
  · intro ensures
    exact ensures value finish ran
  · intro holds other otherFinish otherRan
    rw [ran] at otherRan
    cases otherRan
    exact holds

/-- A run decides what a program ensures. -/
instance decidableEnsures (program : Program State Reason Value) (start : State)
    (post : Value → State → Prop) [∀ value finish, Decidable (post value finish)] :
    Decidable (Ensures program start post) :=
  match ran : program.run start with
  | .ok (value, finish) => decidable_of_iff (post value finish) (ensures_iff_of_run ran post).symm
  | .error reason => isTrue fun value finish outcome => by
    rw [ran] at outcome
    cases outcome

@[simp] theorem ensures_pure (value : Value) (start : State) (post : Value → State → Prop) :
    Ensures (pure value : Program State Reason Value) start post ↔ post value start := by
  constructor
  · intro ensures
    exact ensures value start rfl
  · intro holds found finish outcome
    cases outcome
    exact holds

@[simp] theorem ensures_throw (reason : Reason) (start : State) (post : Value → State → Prop) :
    Ensures (throw reason : Program State Reason Value) start post ↔ True := by
  refine iff_true_intro fun value finish outcome => ?_
  cases outcome

theorem run_bind_eq (program : Program State Reason Value)
    (next : Value → Program State Reason Result) (start : State) :
    (program >>= next).run start =
      (program.run start).bind fun outcome => (next outcome.1).run outcome.2 := rfl

@[simp] theorem ensures_bind (program : Program State Reason Value)
    (next : Value → Program State Reason Result) (start : State)
    (post : Result → State → Prop) :
    Ensures (program >>= next) start post ↔
      Ensures program start fun value middle => Ensures (next value) middle post := by
  unfold Ensures
  rw [run_bind_eq]
  cases program.run start with
  | error reason => simp [Except.bind]
  | ok outcome =>
    constructor
    · intro ensures value middle same result finish
      injection same with same
      subst same
      exact ensures result finish
    · intro ensures result finish
      exact ensures outcome.1 outcome.2 rfl result finish

@[simp] theorem ensures_map (change : Value → Result) (program : Program State Reason Value)
    (start : State) (post : Result → State → Prop) :
    Ensures (change <$> program) start post ↔
      Ensures program start fun value finish => post (change value) finish := by
  rw [map_eq_pure_bind, ensures_bind]
  simp only [ensures_pure]

@[simp] theorem ensures_get (start : State) (post : State → State → Prop) :
    Ensures (get : Program State Reason State) start post ↔ post start start :=
  ensures_pure start start post

@[simp] theorem ensures_modify (change : State → State) (start : State)
    (post : PUnit → State → Prop) :
    Ensures (modify change : Program State Reason PUnit) start post ↔
      post PUnit.unit (change start) :=
  ensures_pure PUnit.unit (change start) post

/-- Use the result of a computation that does not touch the state. -/
def attempt (result : Except Reason Value) : Program State Reason Value := fun state =>
  match result with
  | .ok value => .ok (value, state)
  | .error reason => .error reason

@[simp] theorem run_attempt_ok (value : Value) (start : State) :
    (attempt (.ok value) : Program State Reason Value).run start = pure (value, start) := rfl

@[simp] theorem ensures_attempt (result : Except Reason Value) (start : State)
    (post : Value → State → Prop) :
    Ensures (attempt result) start post ↔ ∀ value, result = .ok value → post value start := by
  constructor
  · rintro ensures value rfl
    exact ensures value start rfl
  · intro holds value finish outcome
    cases result with
    | ok found =>
      cases outcome
      exact holds value rfl
    | error reason => cases outcome

/-- Fail with the reason unless the condition holds. -/
def require (condition : Prop) [Decidable condition] (reason : Reason) :
    Program State Reason Unit :=
  if condition then pure () else throw reason

@[simp] theorem ensures_require (condition : Prop) [Decidable condition] (reason : Reason)
    (start : State) (post : Unit → State → Prop) :
    Ensures (require condition reason) start post ↔ (condition → post () start) := by
  unfold require
  by_cases holds : condition
  · simp [holds]
  · simp [holds]

/-- A run over a list keeps what each of its steps keeps, and collects one value for each
element. -/
theorem ensures_mapM {Element : Type} (program : Element → Program State Reason Value)
    (invariant : State → Prop) (post : Element → Value → Prop) {elements : List Element}
    (each : ∀ element ∈ elements, ∀ start, invariant start →
      Ensures (program element) start fun value finish => invariant finish ∧ post element value)
    {start : State} (holds : invariant start) :
    Ensures (elements.mapM program) start fun values finish =>
      invariant finish ∧ List.Forall₂ post elements values := by
  induction elements generalizing start with
  | nil => simp [holds]
  | cons element rest inductionHypothesis =>
    have first := each element List.mem_cons_self start holds
    have others : ∀ element ∈ rest, ∀ start, invariant start →
        Ensures (program element) start fun value finish => invariant finish ∧ post element value :=
      fun element member => each element (List.mem_cons_of_mem _ member)
    simp only [List.mapM_cons, ensures_bind, ensures_pure]
    refine first.mono fun value middle reached => ?_
    refine (inductionHypothesis others reached.1).mono fun values finish collected => ?_
    exact ⟨collected.1, List.Forall₂.cons reached.2 collected.2⟩

end Ensures

/-! ### Loops that may be left early -/

section Loop

variable {State Reason Element : Type}

/-- A step of a loop ends in a state with a property, or leaves the loop for a reason with
another one. -/
def LeadsTo (invariant : State → Prop) (leaves : Reason → Prop) : Except Reason State → Prop
  | .ok state => invariant state
  | .error reason => leaves reason

theorem leadsTo_foldlM {invariant : State → Prop} {leaves : Reason → Prop}
    {body : State → Element → Except Reason State} {elements : List Element}
    (step : ∀ element ∈ elements, ∀ state, invariant state →
      LeadsTo invariant leaves (body state element))
    {start : State} (holds : invariant start) :
    LeadsTo invariant leaves (elements.foldlM body start) := by
  induction elements generalizing start with
  | nil => exact holds
  | cons element rest inductionHypothesis =>
    have first := step element List.mem_cons_self start holds
    rw [List.foldlM_cons]
    cases reached : body start element with
    | error reason =>
      rw [reached] at first
      exact first
    | ok state =>
      rw [reached] at first
      exact inductionHypothesis (fun later member => step later (List.mem_cons_of_mem _ member))
        first

theorem LeadsTo.mono {invariant weaker : State → Prop} {leaves : Reason → Prop}
    {ended : Except Reason State} (leadsTo : LeadsTo invariant leaves ended)
    (implies : ∀ state, invariant state → weaker state) : LeadsTo weaker leaves ended := by
  cases ended with
  | error reason => exact leadsTo
  | ok state => exact implies state leadsTo

/-- One of the steps establishes what all later ones keep. -/
theorem leadsTo_foldlM_of_mem {invariant reached : State → Prop} {leaves : Reason → Prop}
    {body : State → Element → Except Reason State} {elements : List Element} {element : Element}
    (member : element ∈ elements)
    (keeps : ∀ other ∈ elements, ∀ state, invariant state →
      LeadsTo invariant leaves (body state other))
    (reaches : ∀ state, invariant state → LeadsTo reached leaves (body state element))
    (stays : ∀ other ∈ elements, ∀ state, reached state →
      LeadsTo reached leaves (body state other))
    {start : State} (holds : invariant start) :
    LeadsTo reached leaves (elements.foldlM body start) := by
  induction elements generalizing start with
  | nil => cases member
  | cons first rest inductionHypothesis =>
    have restStays : ∀ other ∈ rest, ∀ state, reached state →
        LeadsTo reached leaves (body state other) :=
      fun other later => stays other (List.mem_cons_of_mem _ later)
    rw [List.foldlM_cons]
    rcases List.mem_cons.mp member with same | later
    · have established := reaches start holds
      rw [same] at established
      cases ended : body start first with
      | error reason =>
        rw [ended] at established
        exact established
      | ok state =>
        rw [ended] at established
        exact leadsTo_foldlM restStays established
    · have kept := keeps first List.mem_cons_self start holds
      cases ended : body start first with
      | error reason =>
        rw [ended] at kept
        exact kept
      | ok state =>
        rw [ended] at kept
        exact inductionHypothesis later
          (fun other later => keeps other (List.mem_cons_of_mem _ later)) restStays kept

end Loop

/-! ### Programs that touch one cell each -/

section Local

variable {State Reason Value Element Key View : Type}

/-- The program of an element reads and writes one cell of the state: the others keep their
content, and its value depends on the content of this one only. -/
structure LocalProgram (view : State → Key → View) (key : Element → Key)
    (program : Element → Program State Reason Value) : Prop where
  frame : ∀ element start value finish, (program element).run start = .ok (value, finish) →
    ∀ other, other ≠ key element → view finish other = view start other
  reads : ∀ element start other value finish, view start (key element) = view other (key element) →
    (program element).run start = .ok (value, finish) →
      ∃ otherFinish, (program element).run other = .ok (value, otherFinish)

/-- Runs over the first element and over the rest make a run over the list. -/
theorem run_mapM_cons {program : Element → Program State Reason Value} {element : Element}
    {rest : List Element} {start middle finish : State} {value : Value} {values : List Value}
    (first : (program element).run start = .ok (value, middle))
    (others : (rest.mapM program).run middle = .ok (values, finish)) :
    ((element :: rest).mapM program).run start = .ok (value :: values, finish) := by
  rw [List.mapM_cons]
  show ((program element).run start >>= fun outcome =>
    (rest.mapM program >>= fun values => pure (outcome.1 :: values)).run outcome.2) = _
  rw [first, ok_bind]
  show ((rest.mapM program).run middle >>= fun outcome =>
    .ok (value :: outcome.1, outcome.2)) = _
  rw [others, ok_bind]

/-- A run over elements with pairwise different cells yields what each of them yields from the
start, and leaves the other cells alone. -/
theorem LocalProgram.run_mapM {view : State → Key → View} {key : Element → Key}
    {program : Element → Program State Reason Value} (isLocal : LocalProgram view key program)
    {elements : List Element} (nodup : (elements.map key).Nodup) (value : Element → Value)
    {start : State}
    (each : ∀ element ∈ elements, ∃ finish,
      (program element).run start = .ok (value element, finish)) :
    ∃ finish, (elements.mapM program).run start = .ok (elements.map value, finish) ∧
      ∀ other, other ∉ elements.map key → view finish other = view start other := by
  induction elements generalizing start with
  | nil => exact ⟨start, rfl, fun _ _ => rfl⟩
  | cons element rest inductionHypothesis =>
    rw [List.map_cons, List.nodup_cons] at nodup
    obtain ⟨middle, first⟩ := each element List.mem_cons_self
    have unchanged := isLocal.frame element start (value element) middle first
    have restEach : ∀ later ∈ rest, ∃ finish,
        (program later).run middle = .ok (value later, finish) := by
      intro later member
      obtain ⟨finish, ran⟩ := each later (List.mem_cons_of_mem _ member)
      have different : key later ≠ key element := by
        intro same
        exact nodup.1 (same ▸ List.mem_map_of_mem member)
      exact isLocal.reads later start middle _ finish (unchanged _ different).symm ran
    obtain ⟨finish, ran, restUnchanged⟩ := inductionHypothesis nodup.2 restEach
    refine ⟨finish, ?_, fun other notMember => ?_⟩
    · exact run_mapM_cons first ran
    · rw [List.map_cons, List.mem_cons, not_or] at notMember
      rw [restUnchanged other notMember.2, unchanged other notMember.1]

end Local

/-! ### Reading every element of a list -/

section Reading

variable {Element Value : Type}

/-- Reading every element of a list gives one value for each of them. -/
theorem forall₂_of_mapM_ok {Reason : Type} {read : Element → Except Reason Value}
    {elements : List Element} {values : List Value} (all : elements.mapM read = .ok values) :
    List.Forall₂ (fun element value => read element = .ok value) elements values := by
  induction elements generalizing values with
  | nil =>
    injection all with none
    rw [← none]
    exact List.Forall₂.nil
  | cons element rest inductionHypothesis =>
    rw [List.mapM_cons] at all
    cases first : read element with
    | error reason =>
      rw [first] at all
      cases all
    | ok value =>
      rw [first, ok_bind] at all
      cases others : rest.mapM read with
      | error reason =>
        rw [others] at all
        cases all
      | ok restValues =>
        rw [others] at all
        injection all with same
        rw [← same]
        exact List.Forall₂.cons first (inductionHypothesis others)

/-- The values read are those of one function of the elements. -/
theorem exists_answer_of_mapM_ok {Reason : Type} [Inhabited Value]
    {read : Element → Except Reason Value} {elements : List Element} {values : List Value}
    (all : elements.mapM read = .ok values) :
    ∃ answer : Element → Value, (∀ element ∈ elements, read element = .ok (answer element)) ∧
      values = elements.map answer := by
  have each := forall₂_of_mapM_ok all
  have agree : ∀ element value, read element = .ok value →
      (read element).toOption.getD default = id value := by
    intro element value reads
    rw [reads]
    rfl
  refine ⟨fun element => (read element).toOption.getD default, fun element member => ?_, ?_⟩
  · obtain ⟨value, _, reads⟩ := exists_related_of_mem each member
    show read element = .ok ((read element).toOption.getD default)
    rw [agree element value reads]
    exact reads
  · rw [map_eq_map_of_related agree each, List.map_id]

end Reading

end DexArbitrage
