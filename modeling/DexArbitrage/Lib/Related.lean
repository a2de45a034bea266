/-
This file is about two lists that are related element by element. What relates
the elements carries over to images, to members, to lengths and to the results
that are present. Lists are related in this way when one of them is read off the
other, be it by a map or by a map that may fail.
-/

import Mathlib.Data.List.Forall2
import Mathlib.Data.List.ReduceOption

namespace DexArbitrage

section Related

variable {Element Value : Type} {relates : Element → Value → Prop}

theorem exists_related_of_mem {elements : List Element} {values : List Value}
    (related : List.Forall₂ relates elements values) {element : Element}
    (member : element ∈ elements) : ∃ value ∈ values, relates element value := by
  induction related with
  | nil => cases member
  | cons head _ inductionHypothesis =>
    rcases List.mem_cons.mp member with same | later
    · exact ⟨_, List.mem_cons_self, same ▸ head⟩
    · obtain ⟨value, inRest, relatesRest⟩ := inductionHypothesis later
      exact ⟨value, List.mem_cons_of_mem _ inRest, relatesRest⟩

theorem exists_related_of_mem_right {elements : List Element} {values : List Value}
    (related : List.Forall₂ relates elements values) {value : Value}
    (member : value ∈ values) : ∃ element ∈ elements, relates element value :=
  exists_related_of_mem (List.Forall₂.flip related) member

/-- Values for all elements, from one for each. -/
theorem exists_forall₂ {elements : List Element}
    (each : ∀ element ∈ elements, ∃ value, relates element value) :
    ∃ values, List.Forall₂ relates elements values := by
  induction elements with
  | nil => exact ⟨[], .nil⟩
  | cons element rest inductionHypothesis =>
    obtain ⟨value, holds⟩ := each element List.mem_cons_self
    obtain ⟨values, related⟩ := inductionHypothesis fun other member =>
      each other (List.mem_cons_of_mem element member)
    exact ⟨value :: values, .cons holds related⟩

/-- Related elements are elements of the lists. -/
theorem related_and_mem {elements : List Element} {values : List Value}
    (related : List.Forall₂ relates elements values) :
    List.Forall₂ (fun element value => element ∈ elements ∧ value ∈ values ∧
      relates element value) elements values := by
  induction related with
  | nil => exact List.Forall₂.nil
  | cons head _ inductionHypothesis =>
    refine List.Forall₂.cons ⟨List.mem_cons_self, List.mem_cons_self, head⟩ ?_
    refine inductionHypothesis.imp fun element value holds => ?_
    exact ⟨List.mem_cons_of_mem _ holds.1, List.mem_cons_of_mem _ holds.2.1, holds.2.2⟩

theorem map_eq_map_of_related {Image : Type} {onElement : Element → Image}
    {onValue : Value → Image}
    (agree : ∀ element value, relates element value → onElement element = onValue value)
    {elements : List Element} {values : List Value}
    (related : List.Forall₂ relates elements values) :
    elements.map onElement = values.map onValue := by
  induction related with
  | nil => rfl
  | cons head _ inductionHypothesis =>
    rw [List.map_cons, List.map_cons, agree _ _ head, inductionHypothesis]

theorem forall₂_compose {Other : Type} {relatesOther : Value → Other → Prop}
    {relatesBoth : Element → Other → Prop}
    (compose : ∀ element value other, relates element value → relatesOther value other →
      relatesBoth element other)
    {elements : List Element} {values : List Value} {others : List Other}
    (first : List.Forall₂ relates elements values)
    (second : List.Forall₂ relatesOther values others) :
    List.Forall₂ relatesBoth elements others := by
  induction first generalizing others with
  | nil =>
    cases second
    exact List.Forall₂.nil
  | cons head _ inductionHypothesis =>
    cases second with
    | cons otherHead rest =>
      exact List.Forall₂.cons (compose _ _ _ head otherHead) (inductionHypothesis rest)

/-- A relation that determines the value determines the list of values. -/
theorem eq_of_forall₂ (determines : ∀ element value other, relates element value →
    relates element other → value = other) {elements : List Element} {values others : List Value}
    (first : List.Forall₂ relates elements values)
    (second : List.Forall₂ relates elements others) : values = others := by
  induction first generalizing others with
  | nil =>
    cases second
    rfl
  | cons head _ inductionHypothesis =>
    cases second with
    | cons otherHead rest =>
      rw [determines _ _ _ head otherHead, inductionHypothesis rest]

section Lengths

variable {relatesLists : List Element → List Value → Prop}
  (shorter : ∀ element value, relatesLists element value → value.length ≤ element.length)
  {elements : List (List Element)} {values : List (List Value)}
include shorter

theorem length_flatten_le (related : List.Forall₂ relatesLists elements values) :
    values.flatten.length ≤ elements.flatten.length := by
  induction related with
  | nil => exact Nat.le_refl _
  | cons head _ inductionHypothesis =>
    rw [List.flatten_cons, List.flatten_cons, List.length_append, List.length_append]
    exact Nat.add_le_add (shorter _ _ head) inductionHypothesis

/-- Lists that are shorter one by one, but not in sum, are of the same lengths. -/
theorem forall₂_length_eq (related : List.Forall₂ relatesLists elements values)
    (total : elements.flatten.length ≤ values.flatten.length) :
    List.Forall₂ (fun element value => relatesLists element value ∧ value.length = element.length)
      elements values := by
  induction related with
  | nil => exact List.Forall₂.nil
  | cons head rest inductionHypothesis =>
    rw [List.flatten_cons, List.flatten_cons, List.length_append, List.length_append] at total
    have headShorter := shorter _ _ head
    have restShorter := length_flatten_le shorter rest
    exact List.Forall₂.cons ⟨head, by omega⟩ (inductionHypothesis (by omega))

end Lengths

/-- Of results of which some are missing, the present ones belong to a part of the list. -/
theorem exists_sublist_related_reduceOption {elements : List Element}
    {results : List (Option Value)}
    (related : List.Forall₂ (fun element result? => ∀ result, result? = some result →
      relates element result) elements results) :
    ∃ kept : List Element, kept.Sublist elements ∧
      List.Forall₂ relates kept results.reduceOption := by
  induction related with
  | nil => exact ⟨[], List.Sublist.refl _, List.Forall₂.nil⟩
  | @cons element result? elements results head _ inductionHypothesis =>
    obtain ⟨kept, sublist, relatedRest⟩ := inductionHypothesis
    cases result? with
    | none => exact ⟨kept, sublist.cons element, relatedRest⟩
    | some result =>
      exact ⟨element :: kept, sublist.cons_cons element,
        List.Forall₂.cons (head result rfl) relatedRest⟩

/-! ### Values that are read off a list -/

section Reading

variable {read : Element → Option Value} {elements : List Element} {values : List Value}

theorem forall₂_of_map_eq_some (all : elements.map read = values.map some) :
    List.Forall₂ (fun element value => read element = some value) elements values := by
  have equal : List.Forall₂ Eq (elements.map read) (values.map some) := by
    rw [List.forall₂_eq_eq_eq]
    exact all
  rw [List.forall₂_map_left_iff, List.forall₂_map_right_iff] at equal
  exact equal

theorem exists_value_of_mem (all : elements.map read = values.map some) {element : Element}
    (member : element ∈ elements) : ∃ value ∈ values, read element = some value :=
  exists_related_of_mem (forall₂_of_map_eq_some all) member

theorem exists_element_of_mem (all : elements.map read = values.map some) {value : Value}
    (member : value ∈ values) : ∃ element ∈ elements, read element = some value :=
  exists_related_of_mem_right (forall₂_of_map_eq_some all) member

/-- Reading every element of a list gives one value for each of them. -/
theorem forall₂_of_mapM (all : elements.mapM read = some values) :
    List.Forall₂ (fun element value => read element = some value) elements values := by
  induction elements generalizing values with
  | nil =>
    injection all with none
    rw [← none]
    exact List.Forall₂.nil
  | cons element rest inductionHypothesis =>
    rw [List.mapM_cons] at all
    obtain ⟨value, first, others⟩ := Option.bind_eq_some_iff.mp all
    obtain ⟨restValues, restAll, same⟩ := Option.bind_eq_some_iff.mp others
    injection same with same
    rw [← same]
    exact List.Forall₂.cons first (inductionHypothesis restAll)

end Reading

end Related

end DexArbitrage
