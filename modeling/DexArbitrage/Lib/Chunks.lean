/-
This file is about splitting a list into chunks and asking for each chunk on its
own, and about the positions of its elements. Nothing is lost by the splitting,
no chunk is empty, and selecting the elements that belong to each of several
chunks of different keys selects, in some order, the elements that belong to any
of them. Lists that have the size of a chunk are found again in what they make up
together.
-/

import Mathlib.Data.List.Basic
import Mathlib.Data.List.Perm.Basic

namespace DexArbitrage

variable {Element Key : Type}

theorem mem_of_mem_zipIdx {elements : List Element} {placed : Element × Nat}
    (member : placed ∈ elements.zipIdx) : placed.1 ∈ elements :=
  (List.mem_zipIdx' member).2 ▸ List.getElem_mem _

theorem exists_mem_zipIdx {elements : List Element} {element : Element}
    (member : element ∈ elements) : ∃ position, (element, position) ∈ elements.zipIdx := by
  obtain ⟨position, isElement⟩ := List.mem_iff_getElem?.mp member
  exact ⟨position, List.mem_zipIdx_iff_getElem?.mpr isElement⟩

theorem flatten_toChunks_go (size : Nat) (rest : List Element) (chunk : Array Element)
    (chunks : Array (List Element)) :
    (List.toChunks.go size rest chunk chunks).flatten =
      chunks.toList.flatten ++ chunk.toList ++ rest := by
  induction rest generalizing chunk chunks with
  | nil => simp [List.toChunks.go]
  | cons element rest inductionHypothesis =>
    unfold List.toChunks.go
    split
    · rw [inductionHypothesis]
      simp
    · rw [inductionHypothesis]
      simp

theorem flatten_toChunks (size : Nat) (elements : List Element) :
    (elements.toChunks size).flatten = elements := by
  cases elements with
  | nil =>
    unfold List.toChunks
    rfl
  | cons element rest =>
    cases size with
    | zero => simp [List.toChunks]
    | succ size =>
      show (List.toChunks.go (size + 1) rest #[element] #[]).flatten = element :: rest
      rw [flatten_toChunks_go]
      simp

theorem ne_nil_of_mem_toChunks_go {size : Nat} {rest : List Element} {chunk : Array Element}
    {chunks : Array (List Element)} (started : chunk.toList ≠ [])
    (others : ∀ part ∈ chunks.toList, part ≠ []) :
    ∀ part ∈ List.toChunks.go size rest chunk chunks, part ≠ [] := by
  have pushed : ∀ part ∈ (chunks.push chunk.toList).toList, part ≠ [] := by
    intro part member
    rw [Array.toList_push] at member
    rcases List.mem_append.mp member with old | new
    · exact others part old
    · rw [List.mem_singleton.mp new]
      exact started
  induction rest generalizing chunk chunks with
  | nil => exact pushed
  | cons element rest inductionHypothesis =>
    unfold List.toChunks.go
    split
    · have fresh : ((Array.mkEmpty size).push element).toList ≠ [] := by simp
      refine inductionHypothesis fresh pushed fun part member => ?_
      rw [Array.toList_push] at member
      rcases List.mem_append.mp member with old | new
      · exact pushed part old
      · rw [List.mem_singleton.mp new]
        exact fresh
    · have grown : (chunk.push element).toList ≠ [] := by simp
      refine inductionHypothesis grown others fun part member => ?_
      rw [Array.toList_push] at member
      rcases List.mem_append.mp member with old | new
      · exact others part old
      · rw [List.mem_singleton.mp new]
        exact grown

theorem ne_nil_of_mem_toChunks {size : Nat} {elements part : List Element}
    (member : part ∈ elements.toChunks size) : part ≠ [] := by
  cases elements with
  | nil =>
    unfold List.toChunks at member
    cases member
  | cons element rest =>
    cases size with
    | zero =>
      simp only [List.toChunks, List.mem_singleton] at member
      rw [member]
      exact List.cons_ne_nil _ _
    | succ size =>
      unfold List.toChunks at member
      exact ne_nil_of_mem_toChunks_go (by simp) (by simp) part member

/-- The finished chunks come first. -/
theorem toChunks_go_finished (size : Nat) (rest : List Element) (chunk : Array Element)
    (chunks : Array (List Element)) :
    List.toChunks.go size rest chunk chunks =
      chunks.toList ++ List.toChunks.go size rest chunk #[] := by
  induction rest generalizing chunk chunks with
  | nil => simp [List.toChunks.go]
  | cons element rest inductionHypothesis =>
    unfold List.toChunks.go
    split
    · rw [inductionHypothesis, inductionHypothesis _ (#[].push chunk.toList)]
      simp
    · exact inductionHypothesis _ _

theorem toChunks_go_append {size : Nat} (positive : 0 < size) (more rest : List Element)
    (chunk : Array Element) (full : chunk.size + more.length = size) :
    List.toChunks.go size (more ++ rest) chunk #[] =
      (chunk.toList ++ more) :: rest.toChunks size := by
  induction more generalizing chunk with
  | nil =>
    rw [List.length_nil, Nat.add_zero] at full
    rw [List.nil_append, List.append_nil]
    cases rest with
    | nil => simp [List.toChunks.go, List.toChunks]
    | cons element rest =>
      obtain ⟨smaller, rfl⟩ := Nat.exists_eq_add_one_of_ne_zero (Nat.pos_iff_ne_zero.mp positive)
      unfold List.toChunks.go List.toChunks
      rw [if_pos (beq_iff_eq.mpr full), toChunks_go_finished]
      simp
  | cons element more inductionHypothesis =>
    rw [List.length_cons] at full
    have notFull : ¬ (chunk.size == size) = true := fun same => by
      have := beq_iff_eq.mp same
      omega
    rw [List.cons_append]
    unfold List.toChunks.go
    rw [if_neg notFull, inductionHypothesis (chunk.push element) (by rw [Array.size_push]; omega)]
    simp

/-- The first elements, as many as fit a chunk, are the first chunk. -/
theorem toChunks_append {size : Nat} (positive : 0 < size) {first : List Element}
    (full : first.length = size) (rest : List Element) :
    (first ++ rest).toChunks size = first :: rest.toChunks size := by
  obtain ⟨smaller, rfl⟩ := Nat.exists_eq_add_one_of_ne_zero (Nat.pos_iff_ne_zero.mp positive)
  cases first with
  | nil => cases full
  | cons element more =>
    have filled : (#[element] : Array Element).size + more.length = smaller + 1 := by
      rw [← full, List.length_cons, Nat.add_comm]
      rfl
    exact toChunks_go_append positive more rest #[element] filled

/-- Lists of the size of a chunk are the chunks of what they make up together. -/
theorem toChunks_flatMap {size : Nat} (positive : 0 < size) {keys : List Key}
    {part : Key → List Element} (full : ∀ key ∈ keys, (part key).length = size) :
    (keys.flatMap part).toChunks size = keys.map part := by
  induction keys with
  | nil => simp [List.toChunks]
  | cons key keys inductionHypothesis =>
    rw [List.flatMap_cons, toChunks_append positive (full key List.mem_cons_self), List.map_cons,
      inductionHypothesis fun other member => full other (List.mem_cons_of_mem _ member)]
/-- What is asked for by position is what is asked for by chunk. -/
theorem flatMap_range_length {Answer : Type} {chunks : List (List Key)}
    {answer : Nat → List Answer} {select : List Key → List Answer}
    (each : ∀ position chunk, chunks[position]? = some chunk → answer position = select chunk) :
    (List.range chunks.length).flatMap answer = chunks.flatMap select := by
  rw [List.flatMap_def, List.flatMap_def]
  congr 1
  refine List.ext_getElem? fun position => ?_
  rw [List.getElem?_map, List.getElem?_map]
  cases isChunk : chunks[position]? with
  | none =>
    rw [List.getElem?_eq_none]
    · rfl
    · rw [List.length_range]
      exact List.getElem?_eq_none_iff.mp isChunk
  | some chunk =>
    have inRange : position < chunks.length := (List.getElem?_eq_some_iff.mp isChunk).1
    rw [List.getElem?_range inRange]
    exact congrArg some (each position chunk isChunk)

/-- What is selected for two disjoint lists of keys, one after the other. -/
theorem perm_filter_append [DecidableEq Key] (elements : List Element) (key : Element → Key)
    (test : Element → Bool) {first second : List Key} (disjoint : ∀ own ∈ first, own ∉ second) :
    ((elements.filter fun element => decide (key element ∈ first) && test element) ++
        elements.filter fun element => decide (key element ∈ second) && test element).Perm
      (elements.filter fun element => decide (key element ∈ first ++ second) && test element) := by
  induction elements with
  | nil => exact List.Perm.nil
  | cons element rest inductionHypothesis =>
    by_cases passes : test element = true
    · by_cases own : key element ∈ first
      · have other : key element ∉ second := disjoint _ own
        simpa [List.filter_cons, passes, own, other] using inductionHypothesis
      · by_cases other : key element ∈ second
        · simp only [List.filter_cons, passes, own, other, List.mem_append, decide_true,
            decide_false, Bool.true_and, Bool.false_and, if_true, Bool.false_eq_true, if_false,
            or_true]
          simp only [List.mem_append] at inductionHypothesis
          exact List.perm_middle.trans (inductionHypothesis.cons element)
        · simpa [List.filter_cons, passes, own, other] using inductionHypothesis
    · simpa [List.filter_cons, passes] using inductionHypothesis

/-- Selecting for each of several lists of different keys selects for all of them. -/
theorem perm_flatMap_filter [DecidableEq Key] (elements : List Element) (key : Element → Key)
    (test : Element → Bool) {chunks : List (List Key)} (nodup : chunks.flatten.Nodup) :
    (chunks.flatMap fun chunk =>
        elements.filter fun element => decide (key element ∈ chunk) && test element).Perm
      (elements.filter fun element => decide (key element ∈ chunks.flatten) && test element) := by
  induction chunks with
  | nil => simp
  | cons chunk rest inductionHypothesis =>
    rw [List.flatten_cons, List.nodup_append] at nodup
    obtain ⟨_, nodupRest, disjoint⟩ := nodup
    have apart : ∀ own ∈ chunk, own ∉ rest.flatten := fun own inChunk inRest =>
      disjoint own inChunk own inRest rfl
    rw [List.flatMap_cons, List.flatten_cons]
    exact ((inductionHypothesis nodupRest).append_left _).trans
      (perm_filter_append elements key test apart)

end DexArbitrage
