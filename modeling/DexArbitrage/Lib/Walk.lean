/-
This file is about walks in a directed graph with parallel edges, given by the
source and the target of each edge. A walk is the list of its edges. The sources
along a walk are the vertices it visits, the last one left out; so a closed walk
is a simple cycle when its sources are pairwise different.
-/

import Mathlib.Data.List.Nodup

namespace DexArbitrage

section Walk

variable {Vertex Edge : Type} (source target : Edge → Vertex)

/-- The edges lead from one vertex to another, each one starting where the one before it ends. -/
def IsWalk : Vertex → List Edge → Vertex → Prop
  | start, [], finish => start = finish
  | start, edge :: rest, finish => source edge = start ∧ IsWalk (target edge) rest finish

/-- A closed walk that visits no vertex twice before it is back. -/
structure IsSimpleCycle (anchor : Vertex) (edges : List Edge) : Prop where
  nonempty : edges ≠ []
  closed : IsWalk source target anchor edges anchor
  simple : (edges.map source).Nodup

variable {source target}

theorem isWalk_nil (vertex : Vertex) : IsWalk source target vertex [] vertex := rfl

theorem IsWalk.append {start middle finish : Vertex} {first second : List Edge}
    (walk : IsWalk source target start first middle)
    (further : IsWalk source target middle second finish) :
    IsWalk source target start (first ++ second) finish := by
  induction first generalizing start with
  | nil =>
    cases walk
    exact further
  | cons edge rest inductionHypothesis => exact ⟨walk.1, inductionHypothesis walk.2⟩

/-- A walk is cut at each of its vertices. -/
theorem IsWalk.exists_middle {start finish : Vertex} {first second : List Edge}
    (walk : IsWalk source target start (first ++ second) finish) :
    ∃ middle, IsWalk source target start first middle ∧
      IsWalk source target middle second finish := by
  induction first generalizing start with
  | nil => exact ⟨start, rfl, walk⟩
  | cons edge rest inductionHypothesis =>
    obtain ⟨middle, before, after⟩ := inductionHypothesis walk.2
    exact ⟨middle, ⟨walk.1, before⟩, after⟩

theorem isWalk_singleton {start finish : Vertex} {edge : Edge} (leaves : source edge = start)
    (arrives : target edge = finish) : IsWalk source target start [edge] finish :=
  ⟨leaves, arrives⟩

/-- One more edge at the end of a walk. -/
theorem IsWalk.concat {start middle : Vertex} {edges : List Edge}
    (walk : IsWalk source target start edges middle) {edge : Edge} (leaves : source edge = middle) :
    IsWalk source target start (edges ++ [edge]) (target edge) :=
  walk.append (isWalk_singleton leaves rfl)

/-- The vertices of a walk, once read off the sources and once off the targets. -/
theorem IsWalk.map_source_concat {start finish : Vertex} {edges : List Edge}
    (walk : IsWalk source target start edges finish) :
    edges.map source ++ [finish] = start :: edges.map target := by
  induction edges generalizing start with
  | nil =>
    cases walk
    rfl
  | cons edge rest inductionHypothesis =>
    rw [List.map_cons, List.cons_append, inductionHypothesis walk.2, walk.1, List.map_cons]

/-- The vertices of a walk, its last one left out. -/
theorem IsWalk.dropLast_visited {start finish : Vertex} {edges : List Edge}
    (walk : IsWalk source target start edges finish) :
    (start :: edges.map target).dropLast = edges.map source := by
  rw [← walk.map_source_concat, List.dropLast_concat]

/-- The two parts into which an edge cuts a simple cycle visit no vertex twice. -/
theorem IsSimpleCycle.parts {anchor : Vertex} {before after : List Edge} {edge : Edge}
    (cycle : IsSimpleCycle source target anchor (before ++ edge :: after)) :
    IsWalk source target anchor before (source edge) ∧
      (anchor :: before.map target).Nodup ∧
      IsWalk source target (target edge) after anchor ∧
      (target edge :: after.map target).Nodup := by
  obtain ⟨middle, first, leaves, second⟩ := cycle.closed.exists_middle
  subst leaves
  have sources := cycle.simple
  rw [List.map_append, List.map_cons] at sources
  have visited := first.map_source_concat
  have anchorFirst : anchor ∈ before.map source ++ [source edge] := by
    rw [visited]
    exact List.mem_cons_self
  rw [List.append_cons, visited] at sources
  rw [visited] at anchorFirst
  obtain ⟨distinct, others, apart⟩ := List.nodup_append'.mp sources
  refine ⟨first, distinct, second, ?_⟩
  rw [← second.map_source_concat]
  refine List.Nodup.append others (List.nodup_singleton _) (List.disjoint_singleton.mpr ?_)
  exact fun visitedAgain => apart anchorFirst visitedAgain

theorem IsWalk.getLast?_visited {start finish : Vertex} {edges : List Edge}
    (walk : IsWalk source target start edges finish) :
    (start :: edges.map target).getLast? = some finish := by
  rw [← walk.map_source_concat, List.getLast?_concat]

end Walk

end DexArbitrage
