/-
This file is breadth-first marking: from a list of starts, every vertex that can
be reached is marked, with a queue of the vertices whose successors have not been
looked at. A vertex or its successors may not exist; then the search fails.

A marked vertex is still in the queue, or all its successors are marked. When
the queue is empty, the marks are therefore closed under taking successors. A
vertex enters the queue again only when it loses its mark of being new, so as
many rounds as there are starts and vertices suffice. Conversely, whatever holds
of the starts and is handed on to successors holds of all that is marked, so the
marks do not depend on the order of the successors.
-/

import Mathlib.Data.List.Basic

namespace DexArbitrage

/-- The vertices whose successors are to be looked at, and which vertices are marked. -/
structure Marking where
  queue : List Nat
  marked : List Bool

namespace Marking

def start (vertexCount : Nat) : Marking where
  queue := []
  marked := List.replicate vertexCount false

def enqueue (marking : Marking) (vertex : Nat) : Option Marking :=
  if vertex < marking.marked.length then
    some { queue := marking.queue ++ [vertex], marked := marking.marked.set vertex true }
  else
    none

/-- A vertex that is marked already is left alone. -/
def visit (marking : Marking) (vertex : Nat) : Option Marking :=
  if marking.marked[vertex]? = some true then
    some marking
  else
    marking.enqueue vertex

variable (successors : Nat → Option (List Nat))

/-- At most the given number of rounds; the answer is `none` when they do not suffice. -/
def drain : Nat → Marking → Option (List Bool)
  | 0, marking => if marking.queue.isEmpty then some marking.marked else none
  | rounds + 1, marking =>
    match marking.queue with
    | [] => some marking.marked
    | vertex :: rest => do
      let next ← successors vertex
      let visited ← next.foldlM visit { marking with queue := rest }
      drain rounds visited

end Marking

/-- Mark what can be reached from the starts. -/
def markReachable (successors : Nat → Option (List Nat)) (vertexCount : Nat)
    (starts : List Nat) : Option (List Bool) := do
  let marking ← starts.foldlM Marking.enqueue (Marking.start vertexCount)
  marking.drain successors (starts.length + vertexCount)

namespace Marking

/-! ### What marking more vertices keeps -/

def IsMarked (marking : Marking) (vertex : Nat) : Prop :=
  marking.marked[vertex]? = some true

/-- The rounds that the search can still take. -/
def work (marking : Marking) : Nat :=
  marking.queue.length + marking.marked.count false

/-- The second marking is the first one with more vertices marked and put into the queue. -/
structure Extends (before after : Marking) : Prop where
  length : after.marked.length = before.marked.length
  marked : ∀ vertex, before.IsMarked vertex → after.IsMarked vertex
  queued : ∀ vertex ∈ before.queue, vertex ∈ after.queue
  fresh : ∀ vertex, after.IsMarked vertex → before.IsMarked vertex ∨ vertex ∈ after.queue
  inRange : ∀ vertex ∈ after.queue, vertex ∈ before.queue ∨ vertex < before.marked.length

theorem Extends.refl (marking : Marking) : marking.Extends marking where
  length := rfl
  marked := fun _ isMarked => isMarked
  queued := fun _ member => member
  fresh := fun _ isMarked => Or.inl isMarked
  inRange := fun _ member => Or.inl member

theorem Extends.trans {first second third : Marking} (extends₁ : first.Extends second)
    (extends₂ : second.Extends third) : first.Extends third where
  length := extends₂.length.trans extends₁.length
  marked := fun vertex isMarked => extends₂.marked vertex (extends₁.marked vertex isMarked)
  queued := fun vertex member => extends₂.queued vertex (extends₁.queued vertex member)
  fresh := by
    intro vertex isMarked
    rcases extends₂.fresh vertex isMarked with before | queued
    · exact (extends₁.fresh vertex before).imp_right (extends₂.queued vertex)
    · exact Or.inr queued
  inRange := by
    intro vertex member
    rcases extends₂.inRange vertex member with before | inRange
    · exact extends₁.inRange vertex before
    · exact Or.inr (extends₁.length ▸ inRange)

theorem exists_enqueue {marking : Marking} {vertex : Nat}
    (inRange : vertex < marking.marked.length) :
    ∃ after, marking.enqueue vertex = some after ∧ marking.Extends after ∧
      after.IsMarked vertex ∧ after.work ≤ marking.work + 1 := by
  refine ⟨_, if_pos inRange, ⟨List.length_set, ?_, ?_, ?_, ?_⟩, ?_, ?_⟩
  · intro other isMarked
    unfold IsMarked at *
    rw [List.getElem?_set]
    split
    · rfl
    · exact isMarked
  · exact fun other member => List.mem_append_left _ member
  · intro other isMarked
    unfold IsMarked at *
    rw [List.getElem?_set] at isMarked
    split at isMarked
    · rename_i same
      rw [← same]
      exact Or.inr (List.mem_append_right _ List.mem_cons_self)
    · exact Or.inl isMarked
  · intro other member
    rcases List.mem_append.mp member with before | new
    · exact Or.inl before
    · rw [List.mem_singleton.mp new]
      exact Or.inr inRange
  · unfold IsMarked
    rw [List.getElem?_set_self inRange]
  · have fewer : (marking.marked.set vertex true).count false ≤ marking.marked.count false := by
      rw [List.count_set inRange]
      simp
    unfold work
    dsimp only
    rw [List.length_append, List.length_singleton]
    omega

theorem exists_visit {marking : Marking} {vertex : Nat}
    (inRange : vertex < marking.marked.length) :
    ∃ after, marking.visit vertex = some after ∧ marking.Extends after ∧
      after.IsMarked vertex ∧ after.work ≤ marking.work := by
  unfold visit
  split
  · rename_i isMarked
    exact ⟨marking, rfl, Extends.refl marking, isMarked, Nat.le_refl _⟩
  · rename_i unmarked
    obtain ⟨after, enqueued, further, isMarked, _⟩ := exists_enqueue inRange
    refine ⟨after, enqueued, further, isMarked, ?_⟩
    -- A vertex that was not marked is no longer counted as such.
    have wasFalse : marking.marked[vertex] = false := by
      rw [List.getElem?_eq_getElem inRange] at unmarked
      simpa using unmarked
    have positive : 0 < marking.marked.count false :=
      List.count_pos_iff.mpr (wasFalse ▸ List.getElem_mem inRange)
    have fewer : (marking.marked.set vertex true).count false =
        marking.marked.count false - 1 := by
      rw [List.count_set inRange, wasFalse]
      simp
    unfold enqueue at enqueued
    rw [if_pos inRange] at enqueued
    injection enqueued with same
    rw [← same]
    unfold work
    dsimp only
    rw [List.length_append, List.length_singleton]
    omega

/-- A list of vertices is marked one by one. -/
theorem exists_foldlM (mark : Marking → Nat → Option Marking) (cost : Nat)
    (step : ∀ marking vertex, vertex < marking.marked.length →
      ∃ after, mark marking vertex = some after ∧ marking.Extends after ∧
        after.IsMarked vertex ∧ after.work ≤ marking.work + cost)
    {vertices : List Nat} {marking : Marking}
    (inRange : ∀ vertex ∈ vertices, vertex < marking.marked.length) :
    ∃ after, vertices.foldlM mark marking = some after ∧ marking.Extends after ∧
      (∀ vertex ∈ vertices, after.IsMarked vertex) ∧
      after.work ≤ marking.work + vertices.length * cost := by
  induction vertices generalizing marking with
  | nil =>
    exact ⟨marking, rfl, Extends.refl marking, fun _ member => (nomatch member),
      Nat.le_add_right _ _⟩
  | cons vertex rest inductionHypothesis =>
    obtain ⟨next, marks, extends₁, isMarked, work₁⟩ :=
      step marking vertex (inRange vertex List.mem_cons_self)
    have restInRange : ∀ other ∈ rest, other < next.marked.length :=
      fun other member => extends₁.length ▸ inRange other (List.mem_cons_of_mem _ member)
    obtain ⟨after, others, extends₂, othersMarked, work₂⟩ := inductionHypothesis restInRange
    refine ⟨after, ?_, extends₁.trans extends₂, ?_, ?_⟩
    · rw [List.foldlM_cons, marks]
      exact others
    · exact List.forall_mem_cons.mpr ⟨extends₂.marked vertex isMarked, othersMarked⟩
    · rw [List.length_cons, Nat.succ_mul]
      omega

/-! ### The search -/

variable {successors : Nat → Option (List Nat)}

/-- Every vertex has its successors, and they are vertices. -/
def Defined (successors : Nat → Option (List Nat)) (vertexCount : Nat) : Prop :=
  ∀ vertex < vertexCount, ∃ next, successors vertex = some next ∧
    ∀ successor ∈ next, successor < vertexCount

/-- What is marked is still in the queue, or has all its successors marked. -/
def ClosedUpTo (successors : Nat → Option (List Nat)) (marking : Marking) : Prop :=
  ∀ vertex, marking.IsMarked vertex → vertex ∈ marking.queue ∨
    ∀ next, successors vertex = some next → ∀ successor ∈ next, marking.IsMarked successor

theorem exists_drain {vertexCount rounds : Nat} (defined : Defined successors vertexCount)
    {marking : Marking} (length : marking.marked.length = vertexCount)
    (queueInRange : ∀ vertex ∈ marking.queue, vertex < vertexCount)
    (closed : marking.ClosedUpTo successors) (enough : marking.work ≤ rounds) :
    ∃ after : Marking, marking.drain successors rounds = some after.marked ∧
      after.marked.length = vertexCount ∧
      (∀ vertex, marking.IsMarked vertex → after.IsMarked vertex) ∧ after.queue = [] ∧
      after.ClosedUpTo successors := by
  induction rounds generalizing marking with
  | zero =>
    have empty : marking.queue = [] := List.length_eq_zero_iff.mp (by unfold work at enough; omega)
    refine ⟨marking, ?_, length, fun _ isMarked => isMarked, empty, closed⟩
    unfold drain
    rw [if_pos (List.isEmpty_iff.mpr empty)]
  | succ rounds inductionHypothesis =>
    unfold drain
    cases queue : marking.queue with
    | nil => exact ⟨marking, rfl, length, fun _ isMarked => isMarked, queue, closed⟩
    | cons vertex rest =>
      rw [queue] at queueInRange
      obtain ⟨next, isNext, nextInRange⟩ := defined vertex (queueInRange vertex List.mem_cons_self)
      have nextVertices : ∀ successor ∈ next,
          successor < { marking with queue := rest : Marking }.marked.length :=
        fun successor member => length ▸ nextInRange successor member
      obtain ⟨visited, visits, further, nextMarked, visitedWork⟩ :=
        exists_foldlM visit 0 (fun _ _ inRange => exists_visit inRange) nextVertices
      have visitedClosed : visited.ClosedUpTo successors := by
        intro other isMarked
        rcases further.fresh other isMarked with before | queued
        · rcases closed other before with inQueue | successorsMarked
          · rw [queue] at inQueue
            rcases List.mem_cons.mp inQueue with same | later
            · right
              intro found isFound
              rw [same, isNext] at isFound
              injection isFound with sameNext
              exact sameNext ▸ nextMarked
            · exact Or.inl (further.queued other later)
          · right
            intro found isFound successor member
            exact further.marked successor (successorsMarked found isFound successor member)
        · exact Or.inl queued
      have visitedInRange : ∀ other ∈ visited.queue, other < vertexCount := by
        intro other member
        rcases further.inRange other member with before | inRange
        · exact queueInRange other (List.mem_cons_of_mem _ before)
        · exact length ▸ inRange
      have visitedEnough : visited.work ≤ rounds := by
        unfold work at enough visitedWork ⊢
        rw [queue, List.length_cons] at enough
        dsimp only at visitedWork
        omega
      obtain ⟨after, drained, afterLength, marked, empty, afterClosed⟩ :=
        inductionHypothesis (further.length.trans length) visitedInRange visitedClosed visitedEnough
      refine ⟨after, ?_, afterLength,
        fun other isMarked => marked other (further.marked other isMarked), empty, afterClosed⟩
      dsimp only
      rw [isNext, Option.bind_eq_bind, Option.bind_some, visits]
      exact drained

theorem isMarked_start (vertexCount vertex : Nat) : ¬ (start vertexCount).IsMarked vertex := by
  intro isMarked
  have member : true ∈ List.replicate vertexCount false := List.mem_of_getElem? isMarked
  exact Bool.noConfusion (List.eq_of_mem_replicate member)

end Marking

/-- The search comes to its end, and its marks hold the starts and the successors of what they
hold. -/
theorem exists_markReachable {successors : Nat → Option (List Nat)} {vertexCount : Nat}
    (defined : Marking.Defined successors vertexCount) {starts : List Nat}
    (inRange : ∀ vertex ∈ starts, vertex < vertexCount) :
    ∃ marked, markReachable successors vertexCount starts = some marked ∧
      marked.length = vertexCount ∧ (∀ vertex ∈ starts, marked[vertex]? = some true) ∧
      ∀ vertex next, marked[vertex]? = some true → successors vertex = some next →
        ∀ successor ∈ next, marked[successor]? = some true := by
  have startLength : (Marking.start vertexCount).marked.length = vertexCount :=
    List.length_replicate
  have startVertices : ∀ vertex ∈ starts, vertex < (Marking.start vertexCount).marked.length := by
    rw [startLength]
    exact inRange
  obtain ⟨marking, enqueued, further, startsMarked, work⟩ :=
    Marking.exists_foldlM Marking.enqueue 1 (fun _ _ inRange => Marking.exists_enqueue inRange)
      startVertices
  have closed : marking.ClosedUpTo successors := by
    intro vertex isMarked
    rcases further.fresh vertex isMarked with before | queued
    · exact (Marking.isMarked_start vertexCount vertex before).elim
    · exact Or.inl queued
  have queueInRange : ∀ vertex ∈ marking.queue, vertex < vertexCount := by
    intro vertex member
    rcases further.inRange vertex member with before | inRange
    · cases before
    · exact startLength ▸ inRange
  have enough : marking.work ≤ starts.length + vertexCount := by
    have startWork : (Marking.start vertexCount).work = vertexCount := by
      unfold Marking.work Marking.start
      rw [List.length_nil, Nat.zero_add, List.count_replicate_self]
    omega
  obtain ⟨after, drained, length, marked, empty, afterClosed⟩ :=
    Marking.exists_drain defined (further.length.trans startLength) queueInRange closed enough
  refine ⟨after.marked, ?_, length, fun vertex member => marked vertex (startsMarked vertex member),
    ?_⟩
  · unfold markReachable
    rw [enqueued]
    exact drained
  · intro vertex next isMarked isNext
    rcases afterClosed vertex isMarked with queued | successorsMarked
    · rw [empty] at queued
      cases queued
    · exact successorsMarked next isNext

/-! ### Nothing else is marked -/

namespace Marking

/-- What is marked or in the queue has a property. -/
structure Only (holds : Nat → Prop) (marking : Marking) : Prop where
  marked : ∀ vertex, marking.IsMarked vertex → holds vertex
  queued : ∀ vertex ∈ marking.queue, holds vertex

variable {holds : Nat → Prop} {marking after : Marking} {vertex : Nat}

theorem Only.enqueue (only : marking.Only holds) (vertexHolds : holds vertex)
    (enqueued : marking.enqueue vertex = some after) : after.Only holds := by
  unfold Marking.enqueue at enqueued
  split at enqueued
  · injection enqueued with same
    rw [← same]
    refine ⟨fun other isMarked => ?_, fun other member => ?_⟩
    · unfold IsMarked at isMarked
      rw [List.getElem?_set] at isMarked
      split at isMarked
      · rename_i isVertex
        exact isVertex ▸ vertexHolds
      · exact only.marked other isMarked
    · rcases List.mem_append.mp member with before | new
      · exact only.queued other before
      · rw [List.mem_singleton.mp new]
        exact vertexHolds
  · cases enqueued

theorem Only.visit (only : marking.Only holds) (vertexHolds : holds vertex)
    (visited : marking.visit vertex = some after) : after.Only holds := by
  unfold Marking.visit at visited
  split at visited
  · injection visited with same
    exact same ▸ only
  · exact only.enqueue vertexHolds visited

theorem Only.foldlM (mark : Marking → Nat → Option Marking)
    (step : ∀ {marking after : Marking} {vertex : Nat}, marking.Only holds → holds vertex →
      mark marking vertex = some after → after.Only holds)
    {vertices : List Nat} (only : marking.Only holds)
    (verticesHold : ∀ vertex ∈ vertices, holds vertex)
    (marks : vertices.foldlM mark marking = some after) : after.Only holds := by
  induction vertices generalizing marking with
  | nil =>
    injection marks with same
    exact same ▸ only
  | cons vertex rest inductionHypothesis =>
    rw [List.foldlM_cons] at marks
    obtain ⟨next, marksOne, marksRest⟩ := Option.bind_eq_some_iff.mp marks
    exact inductionHypothesis (step only (verticesHold vertex List.mem_cons_self) marksOne)
      (fun other member => verticesHold other (List.mem_cons_of_mem _ member)) marksRest

theorem Only.drain
    (closed : ∀ vertex next, holds vertex → successors vertex = some next →
      ∀ successor ∈ next, holds successor)
    {rounds : Nat} (only : marking.Only holds) {marked : List Bool}
    (drained : marking.drain successors rounds = some marked) :
    ∀ vertex : Nat, marked[vertex]? = some true → holds vertex := by
  induction rounds generalizing marking with
  | zero =>
    unfold Marking.drain at drained
    split at drained
    · injection drained with same
      exact same ▸ only.marked
    · cases drained
  | succ rounds inductionHypothesis =>
    unfold Marking.drain at drained
    split at drained
    · injection drained with same
      exact same ▸ only.marked
    · rename_i vertex rest queue
      obtain ⟨next, isNext, drained⟩ := Option.bind_eq_some_iff.mp drained
      obtain ⟨visited, visits, drained⟩ := Option.bind_eq_some_iff.mp drained
      have vertexHolds : holds vertex := only.queued vertex (queue ▸ List.mem_cons_self)
      have others : Only holds { marking with queue := rest } :=
        ⟨only.marked, fun other member => only.queued other (queue ▸ List.mem_cons_of_mem _ member)⟩
      exact inductionHypothesis
        (others.foldlM Marking.visit Only.visit (closed vertex next vertexHolds isNext) visits)
        drained

end Marking

/-- What holds of the starts and of the successors of everything it holds of, holds of all that is
marked. -/
theorem holds_of_markReachable {successors : Nat → Option (List Nat)} {vertexCount : Nat}
    {starts : List Nat} {holds : Nat → Prop} (startsHold : ∀ vertex ∈ starts, holds vertex)
    (closed : ∀ vertex next, holds vertex → successors vertex = some next →
      ∀ successor ∈ next, holds successor)
    {marked : List Bool} (marks : markReachable successors vertexCount starts = some marked) :
    ∀ vertex : Nat, marked[vertex]? = some true → holds vertex := by
  obtain ⟨marking, enqueued, drained⟩ := Option.bind_eq_some_iff.mp marks
  have nothing : Marking.Only holds (Marking.start vertexCount) :=
    ⟨fun vertex isMarked => (Marking.isMarked_start vertexCount vertex isMarked).elim,
      fun _ member => nomatch member⟩
  exact (nothing.foldlM Marking.enqueue Marking.Only.enqueue startsHold enqueued).drain closed
    drained

/-- The marks depend only on which vertices are the successors of a vertex, not on their order. -/
theorem markReachable_eq {first second : Nat → Option (List Nat)} {vertexCount : Nat}
    (firstDefined : Marking.Defined first vertexCount)
    (secondDefined : Marking.Defined second vertexCount)
    (sameSuccessors : ∀ vertex firstNext secondNext, first vertex = some firstNext →
      second vertex = some secondNext → ∀ successor, successor ∈ firstNext ↔ successor ∈ secondNext)
    {starts : List Nat} (inRange : ∀ vertex ∈ starts, vertex < vertexCount) :
    markReachable first vertexCount starts = markReachable second vertexCount starts := by
  obtain ⟨firstMarks, firstEnds, firstLength, firstStarts, firstClosed⟩ :=
    exists_markReachable firstDefined inRange
  obtain ⟨secondMarks, secondEnds, secondLength, secondStarts, secondClosed⟩ :=
    exists_markReachable secondDefined inRange
  have inSecond : ∀ vertex : Nat, firstMarks[vertex]? = some true →
      secondMarks[vertex]? = some true := by
    refine holds_of_markReachable secondStarts (fun vertex next isMarked isNext => ?_) firstEnds
    obtain ⟨other, isOther, _⟩ := secondDefined vertex
      (secondLength ▸ (List.getElem?_eq_some_iff.mp isMarked).1)
    exact fun successor member => secondClosed vertex other isMarked isOther successor
      ((sameSuccessors vertex next other isNext isOther successor).mp member)
  have inFirst : ∀ vertex : Nat, secondMarks[vertex]? = some true →
      firstMarks[vertex]? = some true := by
    refine holds_of_markReachable firstStarts (fun vertex next isMarked isNext => ?_) secondEnds
    obtain ⟨other, isOther, _⟩ := firstDefined vertex
      (firstLength ▸ (List.getElem?_eq_some_iff.mp isMarked).1)
    exact fun successor member => firstClosed vertex other isMarked isOther successor
      ((sameSuccessors vertex other next isOther isNext successor).mpr member)
  have same : firstMarks = secondMarks := by
    refine List.ext_getElem (firstLength.trans secondLength.symm) fun vertex inRange₁ inRange₂ => ?_
    have forwards := inSecond vertex
    have backwards := inFirst vertex
    rw [List.getElem?_eq_getElem inRange₁, List.getElem?_eq_getElem inRange₂, Option.some.injEq,
      Option.some.injEq] at forwards backwards
    exact Bool.eq_iff_iff.mpr ⟨forwards, backwards⟩
  rw [firstEnds, secondEnds, same]

end DexArbitrage
