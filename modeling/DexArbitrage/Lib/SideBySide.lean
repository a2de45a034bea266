/-
This file runs two computations side by side. They read different
representations of the same data, and what one of them handles corresponds to
what the other one handles, element by element. Sorting, cutting, beam search
and loops that may be left early keep the correspondence, so that the two end
alike.
-/

import DexArbitrage.Lib.BeamSearch
import DexArbitrage.Lib.Program
import DexArbitrage.Lib.Sorting

namespace DexArbitrage

section SideBySide

variable {First Second : Type} {related : First → Second → Prop}

/-! ### Sorting -/

section Sorting

variable {firstOrder : First → First → Ordering} {secondOrder : Second → Second → Ordering}

theorem forall₂_orderedInsert
    (agree : ∀ left left' right right', related left left' → related right right' →
      firstOrder left right = secondOrder left' right')
    {first : First} {second : Second} (inserted : related first second) {firsts : List First}
    {seconds : List Second} (lists : List.Forall₂ related firsts seconds) :
    List.Forall₂ related
      (firsts.orderedInsert (fun left right => (firstOrder left right).isLE) first)
      (seconds.orderedInsert (fun left right => (secondOrder left right).isLE) second) := by
  induction lists with
  | nil => exact .cons inserted .nil
  | cons heads tails inductionHypothesis =>
    rw [List.orderedInsert_cons, List.orderedInsert_cons, agree _ _ _ _ inserted heads]
    split
    · exact .cons inserted (.cons heads tails)
    · exact .cons heads inductionHypothesis

theorem forall₂_sortBy
    (agree : ∀ left left' right right', related left left' → related right right' →
      firstOrder left right = secondOrder left' right')
    {firsts : List First} {seconds : List Second}
    (lists : List.Forall₂ related firsts seconds) :
    List.Forall₂ related (sortBy firstOrder firsts) (sortBy secondOrder seconds) := by
  induction lists with
  | nil => exact .nil
  | cons heads _ inductionHypothesis => exact forall₂_orderedInsert agree heads inductionHypothesis

theorem forall₂_keepBest
    (agree : ∀ left left' right right', related left left' → related right right' →
      firstOrder left right = secondOrder left' right')
    (count : Nat) {firsts : List First} {seconds : List Second}
    (lists : List.Forall₂ related firsts seconds) :
    List.Forall₂ related (keepBest firstOrder count firsts) (keepBest secondOrder count seconds) :=
  List.forall₂_take count (forall₂_sortBy agree lists)

end Sorting

/-! ### Filtering -/

theorem forall₂_filter {firstTest : First → Bool} {secondTest : Second → Bool}
    (agree : ∀ first second, related first second → firstTest first = secondTest second)
    {firsts : List First} {seconds : List Second}
    (lists : List.Forall₂ related firsts seconds) :
    List.Forall₂ related (firsts.filter firstTest) (seconds.filter secondTest) := by
  refine List.rel_filter (fun first second together => ?_) lists
  show firstTest first = true ↔ secondTest second = true
  rw [agree first second together]

theorem isEmpty_eq_of_forall₂ {firsts : List First} {seconds : List Second}
    (lists : List.Forall₂ related firsts seconds) : firsts.isEmpty = seconds.isEmpty := by
  cases lists with
  | nil => rfl
  | cons _ _ => rfl

/-- Lists with the same keys, of elements that have a property each. -/
theorem forall₂_of_map_eq {Key : Type} {firstKey : First → Key} {secondKey : Second → Key}
    {firstHolds : First → Prop} {secondHolds : Second → Prop} {firsts : List First}
    {seconds : List Second} (sameKeys : firsts.map firstKey = seconds.map secondKey)
    (allFirst : ∀ first ∈ firsts, firstHolds first)
    (allSecond : ∀ second ∈ seconds, secondHolds second) :
    List.Forall₂ (fun first second => firstKey first = secondKey second ∧ firstHolds first ∧
      secondHolds second) firsts seconds := by
  induction firsts generalizing seconds with
  | nil =>
    cases seconds with
    | nil => exact .nil
    | cons second rest => cases sameKeys
  | cons first firsts inductionHypothesis =>
    cases seconds with
    | nil => cases sameKeys
    | cons second seconds =>
      rw [List.map_cons, List.map_cons, List.cons.injEq] at sameKeys
      rw [List.forall_mem_cons] at allFirst allSecond
      exact .cons ⟨sameKeys.1, allFirst.1, allSecond.1⟩
        (inductionHypothesis sameKeys.2 allFirst.2 allSecond.2)

/-! ### Beam search -/

theorem forall₂_beamSearch {firstExtend : First → List First} {secondExtend : Second → List Second}
    {firstComplete : First → Bool} {secondComplete : Second → Bool}
    {firstResults firstFrontier : List First → List First}
    {secondResults secondFrontier : List Second → List Second}
    (complete : ∀ first second, related first second →
      firstComplete first = secondComplete second)
    (results : ∀ firsts seconds, List.Forall₂ related firsts seconds →
      List.Forall₂ related (firstResults firsts) (secondResults seconds))
    (frontier : ∀ firsts seconds, List.Forall₂ related firsts seconds →
      List.Forall₂ related (firstFrontier firsts) (secondFrontier seconds))
    (rounds : Nat) {foundFirst openFirst : List First} {foundSecond openSecond : List Second}
    (extend : ∀ first ∈ beamExtended firstExtend firstComplete firstFrontier rounds openFirst,
      ∀ second, related first second →
        List.Forall₂ related (firstExtend first) (secondExtend second))
    (found : List.Forall₂ related foundFirst foundSecond)
    (opened : List.Forall₂ related openFirst openSecond) :
    List.Forall₂ related
      (beamSearch firstExtend firstComplete firstResults firstFrontier rounds foundFirst openFirst)
      (beamSearch secondExtend secondComplete secondResults secondFrontier rounds foundSecond
        openSecond) := by
  induction rounds generalizing foundFirst openFirst foundSecond openSecond with
  | zero => exact found
  | succ rounds inductionHypothesis =>
    unfold beamExtended at extend
    dsimp only at extend
    have listed : List.Forall₂ (fun first second => first ∈ openFirst ∧ related first second)
        openFirst openSecond := (List.forall₂_and_left openFirst openSecond).mpr
        ⟨fun _ member => member, opened⟩
    have extended : List.Forall₂ related (openFirst.flatMap firstExtend)
        (openSecond.flatMap secondExtend) :=
      List.rel_flatMap listed fun first second together =>
        extend first (List.mem_append_left _ together.1) second together.2
    have foundNext := results _ _ (List.rel_append found (forall₂_filter complete extended))
    have openNext := frontier _ _ (forall₂_filter
      (fun first second together => congrArg not (complete first second together)) extended)
    unfold beamSearch
    dsimp only
    rw [← isEmpty_eq_of_forall₂ openNext]
    split
    · exact foundNext
    · rename_i goesOn
      rw [if_neg goesOn] at extend
      exact inductionHypothesis (fun first member => extend first (List.mem_append_right _ member))
        foundNext openNext

/-! ### Loops -/

section Loops

variable {State Reason Element : Type}

/-- A loop that may be left early comes to an element, with a state. -/
def LoopReaches (body : State → Element → Except Reason State) (start : State)
    (elements : List Element) (element : Element) (state : State) : Prop :=
  ∃ before after, elements = before ++ element :: after ∧ before.foldlM body start = .ok state

theorem LoopReaches.mem {body : State → Element → Except Reason State} {start state : State}
    {elements : List Element} {element : Element}
    (reaches : LoopReaches body start elements element state) : element ∈ elements := by
  obtain ⟨before, after, split, _⟩ := reaches
  rw [split]
  exact List.mem_append_right _ List.mem_cons_self

theorem LoopReaches.cons {body : State → Element → Except Reason State}
    {start next state : State} {head element : Element} {elements : List Element}
    (ended : body start head = .ok next)
    (reaches : LoopReaches body next elements element state) :
    LoopReaches body start (head :: elements) element state := by
  obtain ⟨before, after, split, ran⟩ := reaches
  refine ⟨head :: before, after, by rw [split]; rfl, ?_⟩
  rw [List.foldlM_cons, ended]
  exact ran

/-- Two loops end alike when they do so step by step, as far as they come. -/
theorem foldlM_eq_of_forall₂ {firstBody : State → First → Except Reason State}
    {secondBody : State → Second → Except Reason State} {firsts : List First}
    {seconds : List Second} (lists : List.Forall₂ related firsts seconds) {start : State}
    (step : ∀ first second state, LoopReaches firstBody start firsts first state →
      related first second → firstBody state first = secondBody state second) :
    firsts.foldlM firstBody start = seconds.foldlM secondBody start := by
  induction lists generalizing start with
  | nil => rfl
  | @cons first second firsts seconds heads _ inductionHypothesis =>
    have one := step first second start ⟨[], firsts, rfl, rfl⟩ heads
    rw [List.foldlM_cons, List.foldlM_cons, ← one]
    cases ended : firstBody start first with
    | error reason => rfl
    | ok next =>
      exact inductionHypothesis fun first second state reaches =>
        step first second state (reaches.cons ended)

end Loops

end SideBySide

end DexArbitrage
