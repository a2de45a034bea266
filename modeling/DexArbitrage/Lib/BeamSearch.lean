/-
This file is beam search: paths are extended round by round; the extensions that
are complete are collected as results, the others form the next frontier, and
both lists are pruned after every round. Pruning decides what is found, and
nothing else: whatever a pruning keeps from a list, every result is complete and
arises from the initial frontier by extension steps.

When nothing is pruned, all is found. A list of labels that each extension
lengthens by one tells the paths apart, so a pruning that keeps every list of
differently labelled paths keeps everything, and each path that arises by
extension steps and is complete only at its end is among the results.
-/

import Mathlib.Data.List.Basic
import Mathlib.Data.List.Nodup

namespace DexArbitrage

section BeamSearch

variable {Path : Type} (extend : Path → List Path) (complete : Path → Bool)
  (pruneResults pruneFrontier : List Path → List Path)

/-- At most the given number of rounds; the search ends early when the frontier is empty. -/
def beamSearch : Nat → List Path → List Path → List Path
  | 0, results, _ => results
  | rounds + 1, results, frontier =>
    let extensions := frontier.flatMap extend
    let results := pruneResults (results ++ extensions.filter complete)
    let frontier := pruneFrontier (extensions.filter fun path => !complete path)
    if frontier.isEmpty then
      results
    else
      beamSearch rounds results frontier

/-- The paths that a search of at most the given number of rounds extends. -/
def beamExtended : Nat → List Path → List Path
  | 0, _ => []
  | rounds + 1, frontier =>
    let next := pruneFrontier ((frontier.flatMap extend).filter fun path => !complete path)
    frontier ++ if next.isEmpty then [] else beamExtended rounds next

variable {extend complete pruneResults pruneFrontier}

/-- What holds of the initial frontier and of every extension of a path it holds of, holds of
every result. -/
theorem of_mem_beamSearch (holds : Path → Prop)
    (keptResults : ∀ paths, ∀ path ∈ pruneResults paths, path ∈ paths)
    (keptFrontier : ∀ paths, ∀ path ∈ pruneFrontier paths, path ∈ paths)
    (step : ∀ path, holds path → ∀ extension ∈ extend path, holds extension)
    {rounds : Nat} {results frontier : List Path}
    (found : ∀ path ∈ results, holds path ∧ complete path = true)
    (frontierHolds : ∀ path ∈ frontier, holds path) :
    ∀ path ∈ beamSearch extend complete pruneResults pruneFrontier rounds results frontier,
      holds path ∧ complete path = true := by
  induction rounds generalizing results frontier with
  | zero => exact found
  | succ rounds inductionHypothesis =>
    have extended : ∀ path ∈ frontier.flatMap extend, holds path := by
      intro path member
      obtain ⟨shorter, inFrontier, isExtension⟩ := List.mem_flatMap.mp member
      exact step shorter (frontierHolds shorter inFrontier) path isExtension
    have foundNext : ∀ path ∈ pruneResults (results ++ (frontier.flatMap extend).filter complete),
        holds path ∧ complete path = true := by
      intro path member
      rcases List.mem_append.mp (keptResults _ path member) with old | new
      · exact found path old
      · obtain ⟨isExtension, isComplete⟩ := List.mem_filter.mp new
        exact ⟨extended path isExtension, isComplete⟩
    have openNext : ∀ path ∈ pruneFrontier
        ((frontier.flatMap extend).filter fun path => !complete path), holds path := by
      intro path member
      exact extended path (List.mem_filter.mp (keptFrontier _ path member)).1
    unfold beamSearch
    dsimp only
    split
    · exact foundNext
    · exact inductionHypothesis foundNext openNext

/-! ### Searches in which nothing is pruned -/

variable (extend complete) in
/-- A number of extension steps leads from one path to another, which is the only complete one of
those on the way. -/
inductive Completes : Nat → Path → Path → Prop
  | last {path extension : Path} (isExtension : extension ∈ extend path)
      (isComplete : complete extension = true) : Completes 1 path extension
  | step {steps : Nat} {path extension result : Path} (isExtension : extension ∈ extend path)
      (isOpen : complete extension = false) (further : Completes steps extension result) :
      Completes (steps + 1) path result

section Labels

variable {Label : Type} (label : Path → List Label) (valid : Path → Prop)

/-- Valid paths with pairwise different labels, none of them empty. -/
structure Labelled (paths : List Path) : Prop where
  distinct : (paths.map label).Nodup
  valid : ∀ path ∈ paths, valid path
  nonempty : ∀ path ∈ paths, label path ≠ []

/-- What a pruning does to labelled paths: it keeps them all. -/
def KeepsAll (prune : List Path → List Path) : Prop :=
  ∀ paths, Labelled label valid paths → (prune paths).Perm paths

variable (extend) in
/-- The extensions of a path are valid, and each of them has one more label, not the same one as
another. -/
structure Lengthens (path : Path) : Prop where
  extensionsValid : ∀ extension ∈ extend path, valid extension
  oneMore : ∀ extension ∈ extend path, ∃ added, label extension = label path ++ [added]
  distinct : ((extend path).map label).Nodup

/-- The lists of a search after a number of rounds. -/
structure BeamAt (depth : Nat) (results frontier : List Path) : Prop where
  found : Labelled label valid results
  shorter : ∀ path ∈ results, (label path).length ≤ depth
  distinct : (frontier.map label).Nodup
  frontierValid : ∀ path ∈ frontier, valid path
  length : ∀ path ∈ frontier, (label path).length = depth

variable {label valid}

theorem Labelled.sublist {paths kept : List Path} (labelled : Labelled label valid paths)
    (sublist : kept.Sublist paths) : Labelled label valid kept where
  distinct := labelled.distinct.sublist (sublist.map label)
  valid := fun path member => labelled.valid path (sublist.subset member)
  nonempty := fun path member => labelled.nonempty path (sublist.subset member)

theorem Labelled.perm {paths reordered : List Path} (labelled : Labelled label valid paths)
    (perm : reordered.Perm paths) : Labelled label valid reordered where
  distinct := (perm.map label).nodup_iff.mpr labelled.distinct
  valid := fun path member => labelled.valid path (perm.mem_iff.mp member)
  nonempty := fun path member => labelled.nonempty path (perm.mem_iff.mp member)

/-- Differently labelled paths of one length have differently labelled extensions. -/
theorem labelled_extensions {frontier : List Path} {depth : Nat}
    (lengthens : ∀ path, valid path → Lengthens extend label valid path)
    (distinct : (frontier.map label).Nodup) (isValid : ∀ path ∈ frontier, valid path)
    (length : ∀ path ∈ frontier, (label path).length = depth) :
    Labelled label valid (frontier.flatMap extend) ∧
      ∀ path ∈ frontier.flatMap extend, (label path).length = depth + 1 := by
  refine ⟨⟨?_, fun path member => ?_, fun path member => ?_⟩, fun path member => ?_⟩
  · refine List.pairwise_map.mpr (List.pairwise_flatMap.mpr ⟨fun path member => ?_, ?_⟩)
    · exact List.pairwise_map.mp (lengthens path (isValid path member)).distinct
    · refine (List.pairwise_map.mp distinct).imp_of_mem ?_
      intro first second firstIn secondIn different extension isFirst other isSecond same
      obtain ⟨added, isAdded⟩ :=
        (lengthens first (isValid first firstIn)).oneMore extension isFirst
      obtain ⟨others, isOthers⟩ :=
        (lengthens second (isValid second secondIn)).oneMore other isSecond
      rw [isAdded, isOthers] at same
      exact different (List.append_inj_left' same rfl)
  · obtain ⟨shorter, inFrontier, isExtension⟩ := List.mem_flatMap.mp member
    exact (lengthens shorter (isValid shorter inFrontier)).extensionsValid path isExtension
  · obtain ⟨shorter, inFrontier, isExtension⟩ := List.mem_flatMap.mp member
    obtain ⟨added, isAdded⟩ :=
      (lengthens shorter (isValid shorter inFrontier)).oneMore path isExtension
    rw [isAdded]
    exact List.append_ne_nil_of_right_ne_nil _ (List.cons_ne_nil _ _)
  · obtain ⟨shorter, inFrontier, isExtension⟩ := List.mem_flatMap.mp member
    obtain ⟨added, isAdded⟩ :=
      (lengthens shorter (isValid shorter inFrontier)).oneMore path isExtension
    rw [isAdded, List.length_append, length shorter inFrontier, List.length_singleton]

theorem BeamAt.labelled_results {depth : Nat} {results frontier : List Path}
    (lengthens : ∀ path, valid path → Lengthens extend label valid path)
    (beam : BeamAt label valid depth results frontier) :
    Labelled label valid (results ++ (frontier.flatMap extend).filter complete) := by
  obtain ⟨extensions, length⟩ :=
    labelled_extensions lengthens beam.distinct beam.frontierValid beam.length
  have found := extensions.sublist (List.filter_sublist (p := complete))
  refine ⟨?_, ?_, ?_⟩
  · rw [List.map_append]
    refine List.Nodup.append beam.found.distinct found.distinct ?_
    -- The new results have more labels than the old ones.
    intro labels isOld isNew
    obtain ⟨old, inResults, sameOld⟩ := List.mem_map.mp isOld
    obtain ⟨new, inExtensions, sameNew⟩ := List.mem_map.mp isNew
    have oldLength := beam.shorter old inResults
    have newLength := length new (List.mem_filter.mp inExtensions).1
    rw [sameOld] at oldLength
    rw [sameNew] at newLength
    omega
  · intro path member
    exact (List.mem_append.mp member).elim (beam.found.valid path) (found.valid path)
  · intro path member
    exact (List.mem_append.mp member).elim (beam.found.nonempty path) (found.nonempty path)

/-- One round of a search in which nothing is pruned. -/
theorem BeamAt.next {depth : Nat} {results frontier : List Path}
    (beam : BeamAt label valid depth results frontier)
    (lengthens : ∀ path, valid path → Lengthens extend label valid path)
    (keepsResults : KeepsAll label valid pruneResults)
    (keepsFrontier : KeepsAll label valid pruneFrontier) :
    (pruneResults (results ++ (frontier.flatMap extend).filter complete)).Perm
        (results ++ (frontier.flatMap extend).filter complete) ∧
      (pruneFrontier ((frontier.flatMap extend).filter fun path => !complete path)).Perm
        ((frontier.flatMap extend).filter fun path => !complete path) ∧
      BeamAt label valid (depth + 1)
        (pruneResults (results ++ (frontier.flatMap extend).filter complete))
        (pruneFrontier ((frontier.flatMap extend).filter fun path => !complete path)) := by
  obtain ⟨extensions, length⟩ :=
    labelled_extensions lengthens beam.distinct beam.frontierValid beam.length
  have labelledResults : Labelled label valid
      (results ++ (frontier.flatMap extend).filter complete) :=
    beam.labelled_results lengthens
  have labelledOpen : Labelled label valid
      ((frontier.flatMap extend).filter fun path => !complete path) :=
    extensions.sublist List.filter_sublist
  have resultsKept := keepsResults _ labelledResults
  have frontierKept := keepsFrontier _ labelledOpen
  refine ⟨resultsKept, frontierKept, labelledResults.perm resultsKept, fun path member => ?_,
    (labelledOpen.perm frontierKept).distinct, (labelledOpen.perm frontierKept).valid,
    fun path member => ?_⟩
  · rcases List.mem_append.mp (resultsKept.mem_iff.mp member) with old | new
    · exact Nat.le_succ_of_le (beam.shorter path old)
    · exact Nat.le_of_eq (length path (List.mem_filter.mp new).1)
  · exact length path (List.mem_filter.mp (frontierKept.mem_iff.mp member)).1

/-- All results of a search in which nothing is pruned have labels of their own. -/
theorem labelled_beamSearch {rounds depth : Nat} {results frontier : List Path}
    (lengthens : ∀ path, valid path → Lengthens extend label valid path)
    (keepsResults : KeepsAll label valid pruneResults)
    (keepsFrontier : KeepsAll label valid pruneFrontier)
    (beam : BeamAt label valid depth results frontier) :
    Labelled label valid
      (beamSearch extend complete pruneResults pruneFrontier rounds results frontier) := by
  induction rounds generalizing depth results frontier with
  | zero => exact beam.found
  | succ rounds inductionHypothesis =>
    obtain ⟨_, _, next⟩ := beam.next lengthens keepsResults keepsFrontier
    unfold beamSearch
    dsimp only
    split
    · exact next.found
    · exact inductionHypothesis next

/-- What was found, and what is completed in the rounds that are left, is among the results. -/
theorem mem_beamSearch {rounds depth : Nat} {results frontier : List Path}
    (lengthens : ∀ path, valid path → Lengthens extend label valid path)
    (keepsResults : KeepsAll label valid pruneResults)
    (keepsFrontier : KeepsAll label valid pruneFrontier)
    (beam : BeamAt label valid depth results frontier) {result : Path}
    (found : result ∈ results ∨ ∃ steps ≤ rounds, ∃ path ∈ frontier,
      Completes extend complete steps path result) :
    result ∈ beamSearch extend complete pruneResults pruneFrontier rounds results frontier := by
  induction rounds generalizing depth results frontier with
  | zero =>
    rcases found with already | ⟨steps, few, path, member, completes⟩
    · exact already
    · rw [Nat.le_zero.mp few] at completes
      cases completes
  | succ rounds inductionHypothesis =>
    obtain ⟨resultsKept, frontierKept, next⟩ := beam.next lengthens keepsResults keepsFrontier
    have goesOn : result ∈ pruneResults (results ++ (frontier.flatMap extend).filter complete) ∨
        ∃ steps ≤ rounds, ∃ path ∈
          pruneFrontier ((frontier.flatMap extend).filter fun path => !complete path),
          Completes extend complete steps path result := by
      rcases found with already | ⟨steps, few, path, member, completes⟩
      · exact Or.inl (resultsKept.mem_iff.mpr (List.mem_append_left _ already))
      · cases completes with
        | last isExtension isComplete =>
          exact Or.inl (resultsKept.mem_iff.mpr (List.mem_append_right _
            (List.mem_filter.mpr ⟨List.mem_flatMap.mpr ⟨path, member, isExtension⟩, isComplete⟩)))
        | step isExtension isOpen further =>
          refine Or.inr ⟨_, Nat.le_of_succ_le_succ few, _, ?_, further⟩
          refine frontierKept.mem_iff.mpr (List.mem_filter.mpr
            ⟨List.mem_flatMap.mpr ⟨path, member, isExtension⟩, ?_⟩)
          rw [isOpen]
          rfl
    unfold beamSearch
    dsimp only
    split
    · rename_i empty
      rw [List.isEmpty_iff.mp empty] at goesOn
      rcases goesOn with already | ⟨_, _, _, none, _⟩
      · exact already
      · cases none
    · exact inductionHypothesis next goesOn

end Labels

end BeamSearch

end DexArbitrage
