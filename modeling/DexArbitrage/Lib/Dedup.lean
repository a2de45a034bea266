/-
This file is about dropping duplicates by key. `dedupBy` keeps the first
element of each key of a list. `RecentKeys` is a set of keys that remembers the
order of their arrival and forgets the oldest ones when it outgrows its
capacity. What the two have in common is that an element is only ever dropped
for one with the same key: the lemmas name that element. `PicksDistinct` and
`PicksFirst` are invariants of a scan that picks elements under keys it has not
seen.
-/

import Mathlib.Data.Finset.Insert
import Mathlib.Data.Finset.Erase
import Mathlib.Data.List.Perm.Subperm

namespace DexArbitrage

section Picks

variable {Element Key : Type}

/-- Elements picked from a list under pairwise different keys, all of which have been seen. -/
structure PicksDistinct (key : Element → Key) (elements picked : List Element)
    (seen : List Key) : Prop where
  listed : ∀ element ∈ picked, element ∈ elements
  distinct : (picked.map key).Nodup
  keysSeen : ∀ element ∈ picked, key element ∈ seen

theorem picksDistinct_nil (key : Element → Key) (elements : List Element) (seen : List Key) :
    PicksDistinct key elements [] seen where
  listed := fun _ member => nomatch member
  distinct := List.nodup_nil
  keysSeen := fun _ member => nomatch member

theorem PicksDistinct.see {key : Element → Key} {elements picked : List Element}
    {seen : List Key} (picks : PicksDistinct key elements picked seen) (other : Key) :
    PicksDistinct key elements picked (other :: seen) :=
  ⟨picks.listed, picks.distinct,
    fun element member => List.mem_cons_of_mem _ (picks.keysSeen element member)⟩

/-- The keys of the picked elements are enough to remember. -/
theorem PicksDistinct.keysOnly {key : Element → Key} {elements picked : List Element}
    {seen : List Key} (picks : PicksDistinct key elements picked seen) :
    PicksDistinct key elements picked (picked.map key) :=
  ⟨picks.listed, picks.distinct, fun _ member => List.mem_map_of_mem member⟩

theorem PicksDistinct.pick {key : Element → Key} {elements picked : List Element}
    {seen : List Key} (picks : PicksDistinct key elements picked seen) {element : Element}
    (member : element ∈ elements) (unseen : key element ∉ seen) :
    PicksDistinct key elements (picked ++ [element]) (key element :: seen) where
  listed := by
    intro other inPicked
    rcases List.mem_append.mp inPicked with old | new
    · exact picks.listed other old
    · rw [List.mem_singleton.mp new]
      exact member
  distinct := by
    rw [List.map_append, List.map_singleton]
    refine List.Nodup.append picks.distinct (List.nodup_singleton _)
      (List.disjoint_singleton.mpr fun found => ?_)
    obtain ⟨other, inPicked, sameKey⟩ := List.mem_map.mp found
    exact unseen (sameKey ▸ picks.keysSeen other inPicked)
  keysSeen := by
    intro other inPicked
    rcases List.mem_append.mp inPicked with old | new
    · exact List.mem_cons_of_mem _ (picks.keysSeen other old)
    · rw [List.mem_singleton.mp new]
      exact List.mem_cons_self

/-- Such elements occur in the list, each one at a place of its own. -/
theorem PicksDistinct.subperm {key : Element → Key} {elements picked : List Element}
    {seen : List Key} (picks : PicksDistinct key elements picked seen) :
    picked.Subperm elements :=
  List.subperm_of_subset picks.distinct.of_map picks.listed

/-- A scan picks no element but the first one of the whole list with its key, as long as it has seen
the keys of all elements it has passed. -/
structure PicksFirst [DecidableEq Key] (key : Element → Key) (elements passed picked : List Element)
    (seen : List Key) : Prop where
  looked : ∀ element ∈ passed, key element ∈ seen
  first : ∀ element ∈ picked,
    elements.find? (fun other => key other = key element) = some element

section PicksFirst

variable [DecidableEq Key] {key : Element → Key} {elements passed picked : List Element}
  {seen : List Key}

theorem picksFirst_nil (key : Element → Key) (elements : List Element) (seen : List Key) :
    PicksFirst key elements [] [] seen where
  looked := fun _ member => nomatch member
  first := fun _ member => nomatch member

/-- A new scan may start with whatever keys. -/
theorem PicksFirst.restart (picks : PicksFirst key elements passed picked seen)
    (keys : List Key) : PicksFirst key elements [] picked keys where
  looked := fun _ member => nomatch member
  first := picks.first

theorem PicksFirst.skip (picks : PicksFirst key elements passed picked seen) {element : Element}
    (found : key element ∈ seen) : PicksFirst key elements (passed ++ [element]) picked seen where
  looked := List.forall_mem_append.mpr ⟨picks.looked, List.forall_mem_singleton.mpr found⟩
  first := picks.first

theorem PicksFirst.see (picks : PicksFirst key elements passed picked seen) (element : Element) :
    PicksFirst key elements (passed ++ [element]) picked (key element :: seen) where
  looked := List.forall_mem_append.mpr
    ⟨fun other member => List.mem_cons_of_mem _ (picks.looked other member),
      List.forall_mem_singleton.mpr List.mem_cons_self⟩
  first := picks.first

theorem PicksFirst.pick (picks : PicksFirst key elements passed picked seen) {element : Element}
    {rest : List Element} (split : elements = passed ++ element :: rest)
    (unseen : key element ∉ seen) :
    PicksFirst key elements (passed ++ [element]) (picked ++ [element]) (key element :: seen) where
  looked := (picks.see element).looked
  first := by
    refine List.forall_mem_append.mpr ⟨picks.first, List.forall_mem_singleton.mpr ?_⟩
    refine List.find?_eq_some_iff_append.mpr ⟨decide_eq_true rfl, passed, rest, split, ?_⟩
    intro other before
    have different : key other ≠ key element :=
      fun same => unseen (same ▸ picks.looked other before)
    rw [decide_eq_false different]
    rfl

/-- In a sorted list the first element of a key is not above another one of it. -/
theorem related_of_first {related : Element → Element → Prop} (sorted : elements.Pairwise related)
    (reflexive : ∀ element, related element element) {element other : Element}
    (first : elements.find? (fun other => key other = key element) = some element)
    (member : other ∈ elements) (sameKey : key other = key element) : related element other := by
  obtain ⟨_, before, after, split, others⟩ := List.find?_eq_some_iff_append.mp first
  rw [split] at sorted member
  rcases List.mem_append.mp member with earlier | later
  · have different := others other earlier
    rw [decide_eq_true sameKey] at different
    cases different
  · rcases List.mem_cons.mp later with same | afterwards
    · exact same ▸ reflexive element
    · exact List.rel_of_pairwise_cons (List.pairwise_append.mp sorted).2.1 afterwards

end PicksFirst

end Picks

section Dedup

variable {Element Key : Type} [DecidableEq Key]

/-- The elements whose key is neither among the seen ones nor that of an earlier element. -/
def dedupBy (key : Element → Key) (seen : List Key) : List Element → List Element
  | [] => []
  | element :: rest =>
    if key element ∈ seen then
      dedupBy key seen rest
    else
      element :: dedupBy key (key element :: seen) rest

theorem dedupBy_cons_of_mem {key : Element → Key} {seen : List Key} {element : Element}
    (found : key element ∈ seen) (rest : List Element) :
    dedupBy key seen (element :: rest) = dedupBy key seen rest := if_pos found

theorem dedupBy_cons_of_not_mem {key : Element → Key} {seen : List Key} {element : Element}
    (unseen : key element ∉ seen) (rest : List Element) :
    dedupBy key seen (element :: rest) = element :: dedupBy key (key element :: seen) rest :=
  if_neg unseen

theorem mem_of_mem_dedupBy {key : Element → Key} {seen : List Key} {elements : List Element}
    {element : Element} (kept : element ∈ dedupBy key seen elements) : element ∈ elements := by
  induction elements generalizing seen with
  | nil => cases kept
  | cons first rest inductionHypothesis =>
    unfold dedupBy at kept
    split at kept
    · exact List.mem_cons_of_mem _ (inductionHypothesis kept)
    · rcases List.mem_cons.mp kept with same | later
      · exact same ▸ List.mem_cons_self
      · exact List.mem_cons_of_mem _ (inductionHypothesis later)

/-- The elements that are kept are the first ones with their keys, when the key is not seen yet. -/
theorem mem_dedupBy_iff {key : Element → Key} {seen : List Key} {elements : List Element}
    {element : Element} :
    element ∈ dedupBy key seen elements ↔ key element ∉ seen ∧
      ∃ before after, elements = before ++ element :: after ∧
        ∀ other ∈ before, key other ≠ key element := by
  induction elements generalizing seen with
  | nil =>
    refine iff_of_false List.not_mem_nil ?_
    rintro ⟨_, before, after, split, _⟩
    cases before <;> cases split
  | cons first rest inductionHypothesis =>
    constructor
    · intro kept
      by_cases dropped : key first ∈ seen
      · rw [dedupBy_cons_of_mem dropped] at kept
        obtain ⟨unseen, before, after, split, others⟩ := inductionHypothesis.mp kept
        refine ⟨unseen, first :: before, after, by rw [split]; rfl, ?_⟩
        exact List.forall_mem_cons.mpr ⟨fun same => unseen (same ▸ dropped), others⟩
      · rw [dedupBy_cons_of_not_mem dropped] at kept
        rcases List.mem_cons.mp kept with same | later
        · rw [same]
          exact ⟨dropped, [], rest, rfl, fun _ none => nomatch none⟩
        · obtain ⟨unseen, before, after, split, others⟩ := inductionHypothesis.mp later
          rw [List.mem_cons, not_or] at unseen
          refine ⟨unseen.2, first :: before, after, by rw [split]; rfl, ?_⟩
          exact List.forall_mem_cons.mpr ⟨Ne.symm unseen.1, others⟩
    · rintro ⟨unseen, before, after, split, others⟩
      cases before with
      | nil =>
        injection split with same _
        rw [same, dedupBy_cons_of_not_mem unseen]
        exact List.mem_cons_self
      | cons head before =>
        injection split with isHead split
        rw [← isHead] at others
        have later : ∀ passed, key element ∉ passed → element ∈ dedupBy key passed rest :=
          fun passed unseen => inductionHypothesis.mpr
            ⟨unseen, before, after, split, (List.forall_mem_cons.mp others).2⟩
        by_cases dropped : key first ∈ seen
        · rw [dedupBy_cons_of_mem dropped]
          exact later seen unseen
        · rw [dedupBy_cons_of_not_mem dropped]
          refine List.mem_cons_of_mem _ (later _ ?_)
          rw [List.mem_cons, not_or]
          exact ⟨Ne.symm (List.forall_mem_cons.mp others).1, unseen⟩

/-- An element whose key has not been seen is kept, or another one with its key is. -/
theorem exists_mem_dedupBy (key : Element → Key) {seen : List Key} {elements : List Element}
    {element : Element} (member : element ∈ elements) (unseen : key element ∉ seen) :
    ∃ kept ∈ dedupBy key seen elements, key kept = key element := by
  induction elements generalizing seen with
  | nil => cases member
  | cons first rest inductionHypothesis =>
    unfold dedupBy
    split
    · rename_i dropped
      rcases List.mem_cons.mp member with same | later
      · exact absurd (same ▸ dropped) unseen
      · exact inductionHypothesis later unseen
    · by_cases sameKey : key element = key first
      · exact ⟨first, List.mem_cons_self, sameKey.symm⟩
      · rcases List.mem_cons.mp member with same | later
        · exact absurd (congrArg key same) sameKey
        · have stillUnseen : key element ∉ key first :: seen := by
            intro found
            rcases List.mem_cons.mp found with same | old
            · exact sameKey same
            · exact unseen old
          obtain ⟨kept, inRest, equalKey⟩ := inductionHypothesis later stillUnseen
          exact ⟨kept, List.mem_cons_of_mem _ inRest, equalKey⟩

/-- What is kept has none of the seen keys. -/
theorem key_not_mem_of_mem_dedupBy {key : Element → Key} {seen : List Key}
    {elements : List Element} {element : Element} (kept : element ∈ dedupBy key seen elements) :
    key element ∉ seen := by
  induction elements generalizing seen with
  | nil => cases kept
  | cons first rest inductionHypothesis =>
    unfold dedupBy at kept
    split at kept
    · exact inductionHypothesis kept
    · rename_i unseen
      rcases List.mem_cons.mp kept with same | later
      · exact same ▸ unseen
      · exact fun found => inductionHypothesis later (List.mem_cons_of_mem _ found)

theorem nodup_keys_dedupBy (key : Element → Key) (seen : List Key) (elements : List Element) :
    ((dedupBy key seen elements).map key).Nodup := by
  induction elements generalizing seen with
  | nil => exact List.nodup_nil
  | cons first rest inductionHypothesis =>
    unfold dedupBy
    split
    · exact inductionHypothesis seen
    · rw [List.map_cons, List.nodup_cons]
      refine ⟨fun found => ?_, inductionHypothesis _⟩
      obtain ⟨kept, inRest, sameKey⟩ := List.mem_map.mp found
      exact key_not_mem_of_mem_dedupBy inRest (sameKey ▸ List.mem_cons_self)

/-- Of two lists in a row, the second one is read with the keys kept from the first one. -/
theorem dedupBy_append (key : Element → Key) (seen : List Key) (first second : List Element) :
    dedupBy key seen (first ++ second) =
      dedupBy key seen first ++
        dedupBy key (((dedupBy key seen first).map key).reverse ++ seen) second := by
  induction first generalizing seen with
  | nil => rfl
  | cons element rest inductionHypothesis =>
    rw [List.cons_append]
    by_cases found : key element ∈ seen
    · rw [dedupBy_cons_of_mem found, dedupBy_cons_of_mem found, inductionHypothesis seen]
    · rw [dedupBy_cons_of_not_mem found, dedupBy_cons_of_not_mem found,
        inductionHypothesis (key element :: seen), List.cons_append, List.map_cons,
        List.reverse_cons, List.append_assoc, List.singleton_append]

/-- The last element of a list is kept unless one kept before it has its key. -/
theorem dedupBy_concat (key : Element → Key) (before : List Element) (element : Element) :
    dedupBy key [] (before ++ [element]) =
      if key element ∈ (dedupBy key [] before).map key then dedupBy key [] before
      else dedupBy key [] before ++ [element] := by
  rw [dedupBy_append, List.append_nil]
  split
  · rename_i found
    rw [dedupBy_cons_of_mem (List.mem_reverse.mpr found)]
    exact List.append_nil _
  · rename_i unseen
    rw [dedupBy_cons_of_not_mem (fun found => unseen (List.mem_reverse.mp found))]
    rfl

theorem dedupBy_concat_eq_iff (key : Element → Key) (before : List Element) (element : Element) :
    dedupBy key [] (before ++ [element]) = dedupBy key [] before ↔
      key element ∈ (dedupBy key [] before).map key := by
  rw [dedupBy_concat]
  split
  · rename_i found
    exact iff_of_true rfl found
  · rename_i unseen
    refine iff_of_false (fun same => ?_) unseen
    exact List.cons_ne_nil _ _ (List.append_right_eq_self.mp same)

variable (Key) in
/-- A bounded set of keys, with the order of their arrival, oldest first. -/
structure RecentKeys where
  order : List Key
  set : Finset Key

namespace RecentKeys

def empty : RecentKeys Key :=
  { order := [], set := ∅ }

/-- Forget the oldest keys while there are more than the capacity. -/
def trim (capacity : Nat) (set : Finset Key) : List Key → RecentKeys Key
  | [] => { order := [], set }
  | oldest :: rest =>
    if capacity < rest.length + 1 then
      trim capacity (set.erase oldest) rest
    else
      { order := oldest :: rest, set }

def insert (recent : RecentKeys Key) (key : Key) (capacity : Nat) : RecentKeys Key :=
  let order := if key ∈ recent.set then recent.order else recent.order ++ [key]
  trim capacity (Insert.insert key recent.set) order

def contains (recent : RecentKeys Key) (key : Key) : Bool :=
  key ∈ recent.set

theorem mem_of_mem_trim {capacity : Nat} {set : Finset Key} {order : List Key} {key : Key}
    (member : key ∈ (trim capacity set order).set) : key ∈ set := by
  induction order generalizing set with
  | nil => exact member
  | cons oldest rest inductionHypothesis =>
    unfold trim at member
    split at member
    · exact Finset.mem_of_mem_erase (inductionHypothesis member)
    · exact member

/-- After an insertion the set has no key but the new one and the old ones. -/
theorem contains_insert {recent : RecentKeys Key} {key other : Key} {capacity : Nat}
    (found : (recent.insert key capacity).contains other = true) :
    other = key ∨ recent.contains other = true := by
  have member : other ∈ Insert.insert key recent.set :=
    mem_of_mem_trim (of_decide_eq_true found)
  rcases Finset.mem_insert.mp member with same | old
  · exact Or.inl same
  · exact Or.inr (decide_eq_true old)

/-- The same for inserting a list of keys one by one. -/
theorem contains_foldl_insert {capacity : Nat} {keys : List Key} {recent : RecentKeys Key}
    {other : Key}
    (found : (keys.foldl (fun recent key => recent.insert key capacity) recent).contains other =
      true) : other ∈ keys ∨ recent.contains other = true := by
  induction keys generalizing recent with
  | nil => exact Or.inr found
  | cons key rest inductionHypothesis =>
    rcases inductionHypothesis found with later | inserted
    · exact Or.inl (List.mem_cons_of_mem _ later)
    · rcases contains_insert inserted with same | old
      · exact Or.inl (same ▸ List.mem_cons_self)
      · exact Or.inr old

end RecentKeys

end Dedup

end DexArbitrage
