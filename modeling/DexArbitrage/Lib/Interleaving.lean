/-
This file is the calculus of concurrent calls that share a state and are cut at
their await points. Between two awaits a call runs alone: it is resumed with the
reply it waited for, changes the shared state, and either waits again or ends.
Calls may be requested at any time and are resumed in any order, and operations
without an await point happen in between, so a list of events is one
interleaving.

`interleave_cases` says what one event can do; the invariant rule and the
relation rule follow from it. The cost rule bounds what all calls together add
to the shared state by what they brought with them when they were requested.
-/

import Mathlib.Algebra.BigOperators.Group.List.Basic
import Mathlib.Algebra.Order.Ring.Int
import Mathlib.Algebra.Order.Monoid.Canonical.Defs
import DexArbitrage.Lib.Run

namespace DexArbitrage

/-- The shared state, and the calls that wait for a reply. -/
structure Interleaved (Shared Call : Type) where
  shared : Shared
  waiting : List Call

inductive InterleavedEvent (Request Reply Operation : Type)
  | request (request : Request)
  | reply (position : Nat) (reply : Reply)
  | perform (operation : Operation)
  deriving DecidableEq, Repr

section Interleave

variable {Shared Call Request Reply Operation : Type} (begins : Request → Call)
  (resume : Call → Reply → Shared → Shared × Option Call)
  (perform : Shared → Operation → Shared)

/-- One event of an interleaving. A reply for which nothing waits is ignored. -/
def interleave (state : Interleaved Shared Call) :
    InterleavedEvent Request Reply Operation → Interleaved Shared Call
  | .request request => { state with waiting := state.waiting ++ [begins request] }
  | .reply position reply =>
    match state.waiting[position]? with
    | none => state
    | some call =>
      match resume call reply state.shared with
      | (shared, some next) => { shared, waiting := state.waiting.set position next }
      | (shared, none) => { shared, waiting := state.waiting.eraseIdx position }
  | .perform operation => { state with shared := perform state.shared operation }

/-- An event requests a call, resumes a waiting one, or performs an operation; a reply that nothing
waits for changes nothing. -/
theorem interleave_cases (state : Interleaved Shared Call)
    (event : InterleavedEvent Request Reply Operation) :
    interleave begins resume perform state event = state ∨
    (∃ request, event = .request request ∧
      interleave begins resume perform state event =
        { state with waiting := state.waiting ++ [begins request] }) ∨
    (∃ call ∈ state.waiting, ∃ position reply, event = .reply position reply ∧
      (interleave begins resume perform state event).shared =
        (resume call reply state.shared).1 ∧
      ∀ other ∈ (interleave begins resume perform state event).waiting,
        other ∈ state.waiting ∨ (resume call reply state.shared).2 = some other) ∨
    ∃ operation, event = .perform operation ∧
      interleave begins resume perform state event =
        { state with shared := perform state.shared operation } := by
  cases event with
  | request request => exact Or.inr (Or.inl ⟨request, rfl, rfl⟩)
  | perform operation => exact Or.inr (Or.inr (Or.inr ⟨operation, rfl, rfl⟩))
  | reply position reply =>
    rw [interleave]
    cases found : state.waiting[position]? with
    | none => exact Or.inl rfl
    | some call =>
      refine Or.inr (Or.inr (Or.inl
        ⟨call, List.mem_of_getElem? found, position, reply, rfl, ?_⟩))
      dsimp only
      obtain ⟨shared, next?⟩ := resume call reply state.shared
      cases next? with
      | none => exact ⟨rfl, fun other member => Or.inl (List.mem_of_mem_eraseIdx member)⟩
      | some next =>
        refine ⟨rfl, fun other member => ?_⟩
        rcases List.mem_or_eq_of_mem_set member with old | new
        · exact Or.inl old
        · exact Or.inr (congrArg some new.symm)

variable {begins resume perform}

/-- The shared state is well-formed, and so is every waiting call. -/
structure InterleavedInvariant (sharedHolds : Shared → Prop) (callHolds : Call → Prop)
    (state : Interleaved Shared Call) : Prop where
  shared : sharedHolds state.shared
  waiting : ∀ call ∈ state.waiting, callHolds call

/-- An event keeps what the request it makes establishes, and resumptions and operations keep. -/
theorem InterleavedInvariant.step_of_event {sharedHolds : Shared → Prop} {callHolds : Call → Prop}
    {state : Interleaved Shared Call} {event : InterleavedEvent Request Reply Operation}
    (invariant : InterleavedInvariant sharedHolds callHolds state)
    (requested : ∀ request, event = .request request → callHolds (begins request))
    (resumed : ∀ call reply, callHolds call →
      sharedHolds (resume call reply state.shared).1 ∧
        ∀ next, (resume call reply state.shared).2 = some next → callHolds next)
    (performed : ∀ operation, event = .perform operation →
      sharedHolds (perform state.shared operation)) :
    InterleavedInvariant sharedHolds callHolds
      (interleave begins resume perform state event) := by
  rcases interleave_cases begins resume perform state event with
    same | ⟨request, requests, same⟩ | ⟨call, member, position, reply, _, shared, waiting⟩ |
      ⟨operation, performs, same⟩
  · rw [same]
    exact invariant
  · rw [same]
    refine ⟨invariant.shared, fun call member => ?_⟩
    rcases List.mem_append.mp member with old | new
    · exact invariant.waiting call old
    · rw [List.mem_singleton.mp new]
      exact requested request requests
  · have kept := resumed call reply (invariant.waiting call member)
    refine ⟨?_, fun other still => ?_⟩
    · rw [shared]
      exact kept.1
    · rcases waiting other still with old | next
      · exact invariant.waiting other old
      · exact kept.2 other next
  · rw [same]
    exact ⟨performed operation performs, invariant.waiting⟩

/-- An event keeps what requests establish, and resumptions and operations keep. -/
theorem InterleavedInvariant.step {sharedHolds : Shared → Prop} {callHolds : Call → Prop}
    {state : Interleaved Shared Call} {event : InterleavedEvent Request Reply Operation}
    (invariant : InterleavedInvariant sharedHolds callHolds state)
    (requested : ∀ request, callHolds (begins request))
    (resumed : ∀ call reply, callHolds call →
      sharedHolds (resume call reply state.shared).1 ∧
        ∀ next, (resume call reply state.shared).2 = some next → callHolds next)
    (performed : ∀ operation, event = .perform operation →
      sharedHolds (perform state.shared operation)) :
    InterleavedInvariant sharedHolds callHolds
      (interleave begins resume perform state event) :=
  invariant.step_of_event (fun request _ => requested request) resumed performed

/-- The invariant rule: what the requests of a run establish, and every resumption and operation
keeps, holds throughout the run. -/
theorem InterleavedInvariant.always {sharedHolds : Shared → Prop} {callHolds : Call → Prop}
    {start : Interleaved Shared Call} {events : List (InterleavedEvent Request Reply Operation)}
    (initial : InterleavedInvariant sharedHolds callHolds start)
    (requested : ∀ request, .request request ∈ events → callHolds (begins request))
    (resumed : ∀ shared call reply, sharedHolds shared → callHolds call →
      sharedHolds (resume call reply shared).1 ∧
        ∀ next, (resume call reply shared).2 = some next → callHolds next)
    (performed : ∀ shared operation, sharedHolds shared → sharedHolds (perform shared operation)) :
    Always (interleave begins resume perform) (InterleavedInvariant sharedHolds callHolds) start
      events := by
  have meets : StepsMeet (interleave begins resume perform) (fun _ event => event ∈ events) start
      events := stepsMeet_of_forall_mem fun _ member => member
  refine always_of_stepsMeet (fun state event invariant member => ?_) initial meets
  refine invariant.step_of_event (fun request requests => requested request (requests ▸ member))
    (fun call reply holds => resumed state.shared call reply invariant.shared holds)
    fun operation _ => performed state.shared operation invariant.shared

/-- How an event changes the shared state, when requests leave it alone. -/
theorem InterleavedInvariant.relates (relates : Shared → Shared → Prop)
    {sharedHolds : Shared → Prop} {callHolds : Call → Prop} {state : Interleaved Shared Call}
    {event : InterleavedEvent Request Reply Operation}
    (invariant : InterleavedInvariant sharedHolds callHolds state)
    (unchanged : relates state.shared state.shared)
    (resumed : ∀ call reply, callHolds call →
      relates state.shared (resume call reply state.shared).1)
    (performed : ∀ operation, event = .perform operation →
      relates state.shared (perform state.shared operation)) :
    relates state.shared (interleave begins resume perform state event).shared := by
  rcases interleave_cases begins resume perform state event with
    same | ⟨request, _, same⟩ | ⟨call, member, position, reply, _, shared, _⟩ |
      ⟨operation, performs, same⟩
  · rw [same]
    exact unchanged
  · rw [same]
    exact unchanged
  · rw [shared]
    exact resumed call reply (invariant.waiting call member)
  · rw [same]
    exact performed operation performs

/-! ### Costs -/

/-- What the waiting calls may still add. -/
def waitingWeight (weight : Call → Nat) (calls : List Call) : Nat :=
  (calls.map weight).sum

/-- What a requested call brings with it. -/
def requestWeight (begins : Request → Call) (weight : Call → Nat) :
    InterleavedEvent Request Reply Operation → Nat
  | .request request => weight (begins request)
  | .reply _ _ => 0
  | .perform _ => 0

theorem waitingWeight_set (weight : Call → Nat) {calls : List Call} {position : Nat}
    {call : Call} (next : Call) (found : calls[position]? = some call) :
    waitingWeight weight (calls.set position next) + weight call =
      waitingWeight weight calls + weight next := by
  induction calls generalizing position with
  | nil => cases found
  | cons head rest inductionHypothesis =>
    unfold waitingWeight at inductionHypothesis ⊢
    cases position with
    | zero =>
      obtain rfl : head = call := Option.some.inj found
      simp only [List.set_cons_zero, List.map_cons, List.sum_cons]
      omega
    | succ position =>
      have restEqual := inductionHypothesis (List.getElem?_cons_succ ▸ found)
      simp only [List.set_cons_succ, List.map_cons, List.sum_cons]
      omega

theorem waitingWeight_eraseIdx (weight : Call → Nat) {calls : List Call} {position : Nat}
    {call : Call} (found : calls[position]? = some call) :
    waitingWeight weight (calls.eraseIdx position) + weight call = waitingWeight weight calls := by
  induction calls generalizing position with
  | nil => cases found
  | cons head rest inductionHypothesis =>
    unfold waitingWeight at inductionHypothesis ⊢
    cases position with
    | zero =>
      obtain rfl : head = call := Option.some.inj found
      simp only [List.eraseIdx_cons_zero, List.map_cons, List.sum_cons]
      omega
    | succ position =>
      have restEqual := inductionHypothesis (List.getElem?_cons_succ ▸ found)
      simp only [List.eraseIdx_cons_succ, List.map_cons, List.sum_cons]
      omega

/-- An event raises the cost by no more than what its calls give up. -/
theorem interleave_cost_le (cost : Shared → Nat) (weight : Call → Nat)
    (resumed : ∀ call reply shared,
      cost (resume call reply shared).1 + (resume call reply shared).2.elim 0 weight ≤
        cost shared + weight call)
    (performed : ∀ shared operation, cost (perform shared operation) ≤ cost shared)
    (state : Interleaved Shared Call) (event : InterleavedEvent Request Reply Operation) :
    cost (interleave begins resume perform state event).shared +
        waitingWeight weight (interleave begins resume perform state event).waiting ≤
      cost state.shared + waitingWeight weight state.waiting +
        requestWeight begins weight event := by
  cases event with
  | request request =>
    simp only [interleave, requestWeight, waitingWeight, List.map_append, List.sum_append,
      List.map_singleton, List.sum_singleton]
    omega
  | perform operation =>
    have := performed state.shared operation
    simp only [interleave, requestWeight]
    omega
  | reply position reply =>
    rw [interleave, requestWeight]
    cases found : state.waiting[position]? with
    | none => exact Nat.le_refl _
    | some call =>
      have bounded := resumed call reply state.shared
      dsimp only
      generalize resume call reply state.shared = stretch at bounded
      obtain ⟨shared, next?⟩ := stretch
      cases next? with
      | none =>
        have erased := waitingWeight_eraseIdx weight found
        dsimp only [Option.elim] at bounded ⊢
        omega
      | some next =>
        have replaced := waitingWeight_set weight next found
        dsimp only [Option.elim] at bounded ⊢
        omega

variable (begins resume perform)

/-- The cost rule: what a run adds to a cost is at most what the requests of the run brought. -/
theorem cost_runFrom_le (cost : Shared → Nat) (weight : Call → Nat)
    (resumed : ∀ call reply shared,
      cost (resume call reply shared).1 + (resume call reply shared).2.elim 0 weight ≤
        cost shared + weight call)
    (performed : ∀ shared operation, cost (perform shared operation) ≤ cost shared)
    (start : Interleaved Shared Call)
    (events : List (InterleavedEvent Request Reply Operation)) :
    cost (runFrom (interleave begins resume perform) start events).shared +
        waitingWeight weight (runFrom (interleave begins resume perform) start events).waiting ≤
      cost start.shared + waitingWeight weight start.waiting +
        (events.map (requestWeight begins weight)).sum := by
  induction events generalizing start with
  | nil => simp
  | cons event rest inductionHypothesis =>
    have first :
        cost (interleave begins resume perform start event).shared +
            waitingWeight weight (interleave begins resume perform start event).waiting ≤
          cost start.shared + waitingWeight weight start.waiting +
            requestWeight begins weight event :=
      interleave_cost_le cost weight resumed performed start event
    have others := inductionHypothesis (interleave begins resume perform start event)
    rw [runFrom_cons, List.map_cons, List.sum_cons]
    omega

end Interleave

end DexArbitrage
