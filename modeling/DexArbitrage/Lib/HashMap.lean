/-
This file fixes the model of a hash map: an association list with pairwise
different keys, whose list order is the iteration order. A program that only
looks keys up cannot see that order; a program that iterates sees some order,
and a statement about it quantifies over every map, hence over every order.

`update` is the in-place mutation of one stored value (`get_mut`), which keeps
the position of the entry. Where a program iterates over a map it has built
itself, its order is an `IterationOrder` of its own.
-/

import Mathlib.Data.List.AList

namespace DexArbitrage

/-- A hash map, with its entries in iteration order. -/
abbrev HashMap (Key Value : Type) : Type := AList fun _ : Key => Value

namespace HashMap

variable {Key Value : Type} [DecidableEq Key]

/-- The stored values, in iteration order. -/
def values (map : HashMap Key Value) : List Value :=
  map.entries.map Sigma.snd

/-- The number of entries. -/
def size (map : HashMap Key Value) : Nat :=
  map.entries.length

/-- Replace the value stored at a key, when there is one. -/
def update (map : HashMap Key Value) (key : Key) (change : Value → Value) : HashMap Key Value :=
  match map.lookup key with
  | some value => map.replace key (change value)
  | none => map

/-- Change every stored value (`values_mut`). -/
def mapValues (map : HashMap Key Value) (change : Value → Value) : HashMap Key Value where
  entries := map.entries.map fun entry => ⟨entry.1, change entry.2⟩
  nodupKeys := by
    have keys : (map.entries.map fun entry =>
        (⟨entry.1, change entry.2⟩ : Sigma fun _ : Key => Value)).keys = map.entries.keys := by
      unfold List.keys
      rw [List.map_map]
      rfl
    unfold List.NodupKeys
    rw [keys]
    exact map.nodupKeys

/-- Append to the list stored at a key, which is empty when there is none. -/
def push {Element : Type} (map : HashMap Key (List Element)) (key : Key) (element : Element) :
    HashMap Key (List Element) :=
  match map.lookup key with
  | some stored => map.replace key (stored ++ [element])
  | none => map.insert key [element]

/-- The map built from a list of pairs, of which later ones overwrite earlier ones. -/
def ofList (pairs : List (Key × Value)) : HashMap Key Value :=
  pairs.foldl (fun map pair => map.insert pair.1 pair.2) ∅

/-- The elements of a list of pairs, grouped by their keys. -/
def group {Element : Type} (pairs : List (Key × Element)) : HashMap Key (List Element) :=
  pairs.foldl (fun map pair => map.push pair.1 pair.2) ∅

theorem lookup_eq_some_iff (map : HashMap Key Value) (key : Key) (value : Value) :
    map.lookup key = some value ↔ (⟨key, value⟩ : Sigma fun _ : Key => Value) ∈ map.entries :=
  AList.mem_lookup_iff

theorem lookup_insert (map : HashMap Key Value) (key other : Key) (value : Value) :
    AList.lookup other (map.insert key value) =
      if other = key then some value else map.lookup other := by
  split
  · rename_i same
    rw [same, AList.lookup_insert]
  · rename_i different
    exact AList.lookup_insert_ne different

theorem lookup_erase (map : HashMap Key Value) (key other : Key) :
    AList.lookup other (map.erase key) = if other = key then none else map.lookup other := by
  split
  · rename_i same
    rw [same, AList.lookup_erase]
  · rename_i different
    exact AList.lookup_erase_ne different

theorem mem_values (map : HashMap Key Value) (value : Value) :
    value ∈ map.values ↔ ∃ key, map.lookup key = some value := by
  constructor
  · intro member
    obtain ⟨⟨key, stored⟩, entry, same⟩ := List.mem_map.mp member
    exact ⟨key, (lookup_eq_some_iff map key value).mpr (same ▸ entry)⟩
  · rintro ⟨key, found⟩
    exact List.mem_map.mpr ⟨⟨key, value⟩, (lookup_eq_some_iff map key value).mp found, rfl⟩

/-- Of what the stored values yield, the part that belongs to one key comes from the value stored
at that key. -/
theorem filter_filterMap_values {Element : Type} (map : HashMap Key Value) (key : Key)
    (yield : Value → Option Element) (test : Element → Bool)
    (own : ∀ other value element, map.lookup other = some value → yield value = some element →
      (test element = true ↔ other = key)) :
    (map.values.filterMap yield).filter test = ((map.lookup key).bind yield).toList := by
  suffices entriesWise : ∀ entries : List (Sigma fun _ : Key => Value), entries.NodupKeys →
      (∀ entry ∈ entries, ∀ element, yield entry.2 = some element →
        (test element = true ↔ entry.1 = key)) →
      ((entries.map Sigma.snd).filterMap yield).filter test =
        ((entries.dlookup key).bind yield).toList from
    entriesWise map.entries map.nodupKeys fun entry member element yields =>
      own entry.1 entry.2 element ((lookup_eq_some_iff map entry.1 entry.2).mpr member) yields
  intro entries
  induction entries with
  | nil => intro _ _; rfl
  | cons entry rest inductionHypothesis =>
    intro nodup own
    obtain ⟨other, value⟩ := entry
    rw [List.nodupKeys_cons] at nodup
    have restEqual := inductionHypothesis nodup.2
      fun entry member => own entry (List.mem_cons_of_mem _ member)
    have first : ∀ element, yield value = some element → (test element = true ↔ other = key) :=
      own ⟨other, value⟩ List.mem_cons_self
    rw [List.map_cons]
    by_cases same : other = key
    · subst same
      have absent : rest.dlookup other = none := List.dlookup_eq_none.mpr nodup.1
      rw [absent] at restEqual
      rw [List.dlookup_cons_eq]
      cases yields : yield value with
      | none => simpa [yields] using restEqual
      | some element =>
        rw [List.filterMap_cons_some yields,
          List.filter_cons_of_pos ((first element yields).mpr rfl), restEqual]
        simp [yields]
    · rw [List.dlookup_cons_ne _ _ (Ne.symm same)]
      cases yields : yield value with
      | none => rw [List.filterMap_cons_none yields, restEqual]
      | some element =>
        have notOwn : ¬ test element = true :=
          fun belongs => same ((first element yields).mp belongs)
        rw [List.filterMap_cons_some yields, List.filter_cons_of_neg notOwn, restEqual]

theorem dlookup_kreplace_self (entries : List (Sigma fun _ : Key => Value)) (key : Key)
    (value stored : Value) (found : entries.dlookup key = some stored) :
    (entries.kreplace key value).dlookup key = some value := by
  induction entries with
  | nil => cases found
  | cons entry rest inductionHypothesis =>
    obtain ⟨other, held⟩ := entry
    rw [List.kreplace]
    by_cases same : key = other
    · subst same
      rw [List.lookmap_cons_some _ _ (b := ⟨key, value⟩) (by simp), List.dlookup_cons_eq]
    · rw [List.dlookup_cons_ne _ _ same] at found
      rw [List.lookmap_cons_none _ _ (by simp [same]), List.dlookup_cons_ne _ _ same]
      exact inductionHypothesis found

theorem dlookup_kreplace_ne (entries : List (Sigma fun _ : Key => Value)) (key other : Key)
    (value : Value) (different : other ≠ key) :
    (entries.kreplace key value).dlookup other = entries.dlookup other := by
  induction entries with
  | nil => rfl
  | cons entry rest inductionHypothesis =>
    obtain ⟨stored, held⟩ := entry
    rw [List.kreplace]
    by_cases same : key = stored
    · subst same
      rw [List.lookmap_cons_some _ _ (b := ⟨key, value⟩) (by simp),
        List.dlookup_cons_ne _ _ different, List.dlookup_cons_ne _ _ different]
    · rw [List.lookmap_cons_none _ _ (by simp [same])]
      by_cases target : other = stored
      · subst target
        rw [List.dlookup_cons_eq, List.dlookup_cons_eq]
      · rw [List.dlookup_cons_ne _ _ target, List.dlookup_cons_ne _ _ target]
        exact inductionHypothesis

@[simp] theorem lookup_update_self (map : HashMap Key Value) (key : Key)
    (change : Value → Value) :
    (map.update key change).lookup key = (map.lookup key).map change := by
  unfold update
  cases found : map.lookup key with
  | none => simpa using found
  | some value => exact dlookup_kreplace_self map.entries key (change value) value found

@[simp] theorem lookup_update_ne (map : HashMap Key Value) {key other : Key}
    (different : other ≠ key) (change : Value → Value) :
    (map.update key change).lookup other = map.lookup other := by
  unfold update
  cases map.lookup key with
  | none => rfl
  | some value => exact dlookup_kreplace_ne map.entries key other (change value) different

@[simp] theorem keys_update (map : HashMap Key Value) (key : Key) (change : Value → Value) :
    AList.keys (map.update key change) = map.keys := by
  unfold update
  split
  · exact AList.keys_replace _ _ _
  · rfl

omit [DecidableEq Key] in
theorem size_eq_length_keys (map : HashMap Key Value) : map.size = map.keys.length :=
  (List.length_map _).symm

theorem lookup_update (map : HashMap Key Value) (key other : Key) (change : Value → Value) :
    (map.update key change).lookup other =
      if other = key then (map.lookup key).map change else map.lookup other := by
  split
  · rename_i same
    rw [same, lookup_update_self]
  · rename_i different
    exact lookup_update_ne map different change

theorem lookup_mapValues (map : HashMap Key Value) (change : Value → Value) (key : Key) :
    (map.mapValues change).lookup key = (map.lookup key).map change := by
  unfold AList.lookup mapValues
  dsimp only
  induction map.entries with
  | nil => rfl
  | cons entry rest inductionHypothesis =>
    obtain ⟨other, held⟩ := entry
    rw [List.map_cons]
    by_cases same : key = other
    · subst same
      rw [List.dlookup_cons_eq, List.dlookup_cons_eq]
      rfl
    · rw [List.dlookup_cons_ne _ _ same, List.dlookup_cons_ne _ _ same, inductionHypothesis]

theorem size_insert_of_mem {map : HashMap Key Value} {key : Key} (member : key ∈ map)
    (value : Value) : HashMap.size (map.insert key value) = map.size := by
  have listed : key ∈ map.keys := AList.mem_keys.mp member
  have positive : 0 < map.keys.length := List.length_pos_of_mem listed
  rw [size_eq_length_keys, AList.keys_insert, List.length_cons, List.length_erase_of_mem listed,
    size_eq_length_keys]
  exact Nat.sub_add_cancel positive

theorem size_insert_le (map : HashMap Key Value) (key : Key) (value : Value) :
    HashMap.size (map.insert key value) ≤ map.size + 1 := by
  rw [size_eq_length_keys, AList.keys_insert, List.length_cons, size_eq_length_keys]
  exact Nat.succ_le_succ List.length_erase_le

theorem size_erase_of_mem {map : HashMap Key Value} {key : Key} (member : key ∈ map) :
    HashMap.size (map.erase key) = map.size - 1 := by
  rw [size_eq_length_keys, AList.keys_erase, List.length_erase_of_mem (AList.mem_keys.mp member),
    size_eq_length_keys]

theorem lookup_push {Element : Type} (map : HashMap Key (List Element)) (key other : Key)
    (element : Element) :
    (map.push key element).lookup other =
      if other = key then some ((map.lookup key).getD [] ++ [element]) else map.lookup other := by
  unfold push
  cases found : map.lookup key with
  | none => exact lookup_insert map key other [element]
  | some stored =>
    show (map.entries.kreplace key (stored ++ [element])).dlookup other = _
    split
    · rename_i same
      rw [same]
      exact dlookup_kreplace_self map.entries key _ stored found
    · rename_i different
      exact dlookup_kreplace_ne map.entries key other _ different

/-- What is found in a map built from pairs is one of them. -/
theorem mem_of_lookup_ofList {pairs : List (Key × Value)} {key : Key} {value : Value}
    (found : (ofList pairs).lookup key = some value) : (key, value) ∈ pairs := by
  suffices generalized : ∀ map : HashMap Key Value,
      (pairs.foldl (fun map pair => map.insert pair.1 pair.2) map).lookup key = some value →
      map.lookup key = some value ∨ (key, value) ∈ pairs by
    rcases generalized ∅ found with empty | member
    · rw [AList.lookup_empty] at empty
      cases empty
    · exact member
  clear found
  induction pairs with
  | nil => exact fun map found => Or.inl found
  | cons pair rest inductionHypothesis =>
    intro map found
    rcases inductionHypothesis _ found with before | later
    · rw [lookup_insert] at before
      split at before
      · rename_i same
        injection before with stored
        right
        rw [same, ← stored]
        exact List.mem_cons_self
      · exact Or.inl before
    · exact Or.inr (List.mem_cons_of_mem _ later)

/-- A key of a listed pair is in the map built from the pairs. -/
theorem exists_lookup_ofList {pairs : List (Key × Value)} {key : Key}
    (listed : key ∈ pairs.map Prod.fst) : ∃ value, (ofList pairs).lookup key = some value := by
  suffices generalized : ∀ map : HashMap Key Value, key ∈ map ∨ key ∈ pairs.map Prod.fst →
      key ∈ pairs.foldl (fun map pair => map.insert pair.1 pair.2) map from
    Option.isSome_iff_exists.mp (AList.lookup_isSome.mpr (generalized ∅ (Or.inr listed)))
  clear listed
  induction pairs with
  | nil => exact fun map known => known.elim id fun none => absurd none List.not_mem_nil
  | cons pair rest inductionHypothesis =>
    intro map known
    refine inductionHypothesis _ ?_
    rw [AList.mem_insert]
    rcases known with before | listed
    · exact Or.inl (Or.inr before)
    · exact (List.mem_cons.mp listed).imp_left Or.inl

/-- Where no two pairs disagree about a key, what is found there is what they say. -/
theorem lookup_ofList_iff {pairs : List (Key × Value)} {key : Key} {value : Value}
    (agree : ∀ other, (key, value) ∈ pairs → (key, other) ∈ pairs → other = value) :
    (ofList pairs).lookup key = some value ↔ (key, value) ∈ pairs := by
  constructor
  · exact mem_of_lookup_ofList
  · intro listed
    obtain ⟨other, found⟩ := exists_lookup_ofList (List.mem_map.mpr ⟨(key, value), listed, rfl⟩)
    rw [found, agree other listed (mem_of_lookup_ofList found)]

/-- What is grouped under a key is in the list with this key. -/
theorem mem_of_lookup_group {Element : Type} {pairs : List (Key × Element)} {key : Key}
    {elements : List Element} {element : Element}
    (found : (group pairs).lookup key = some elements) (member : element ∈ elements) :
    (key, element) ∈ pairs := by
  suffices generalized : ∀ map : HashMap Key (List Element), ∀ elements,
      (pairs.foldl (fun map pair => map.push pair.1 pair.2) map).lookup key = some elements →
      element ∈ elements → element ∈ (map.lookup key).getD [] ∨ (key, element) ∈ pairs by
    rcases generalized ∅ elements found member with empty | listed
    · cases empty
    · exact listed
  clear found member
  induction pairs with
  | nil =>
    intro map elements found member
    rw [List.foldl_nil] at found
    rw [found]
    exact Or.inl member
  | cons pair rest inductionHypothesis =>
    intro map elements found member
    rcases inductionHypothesis _ elements found member with before | later
    · rw [lookup_push] at before
      split at before
      · rename_i same
        rcases List.mem_append.mp before with old | new
        · exact Or.inl (same ▸ old)
        · rw [same, List.mem_singleton.mp new]
          exact Or.inr List.mem_cons_self
      · exact Or.inl before
    · exact Or.inr (List.mem_cons_of_mem _ later)

/-- What is grouped under a key is not empty. -/
theorem ne_nil_of_lookup_group {Element : Type} {pairs : List (Key × Element)} {key : Key}
    {elements : List Element} (found : (group pairs).lookup key = some elements) :
    elements ≠ [] := by
  suffices generalized : ∀ map : HashMap Key (List Element),
      (∀ elements, map.lookup key = some elements → elements ≠ []) → ∀ elements,
      (pairs.foldl (fun map pair => map.push pair.1 pair.2) map).lookup key = some elements →
      elements ≠ [] from
    generalized ∅ (fun _ none => nomatch none) elements found
  clear found
  induction pairs with
  | nil => exact fun map nonempty => nonempty
  | cons pair rest inductionHypothesis =>
    intro map nonempty
    refine inductionHypothesis _ fun elements found => ?_
    rw [lookup_push] at found
    split at found
    · injection found with pushed
      rw [← pushed]
      exact List.append_ne_nil_of_right_ne_nil _ (List.cons_ne_nil _ _)
    · exact nonempty elements found

/-- Storing a value at a key replaces the one stored there before, if any, among the values. -/
theorem exists_values_insert (map : HashMap Key Value) (key : Key) (value : Value) :
    ∃ others : List Value, map.values.Perm ((map.lookup key).toList ++ others) ∧
      HashMap.values (map.insert key value) = value :: others := by
  refine ⟨(map.entries.kerase key).map Sigma.snd, ?_, rfl⟩
  show (map.entries.map Sigma.snd).Perm _
  cases found : map.lookup key with
  | none =>
    have absent : key ∉ map.entries.keys := List.dlookup_eq_none.mp found
    rw [List.kerase_of_notMem_keys absent]
    exact List.Perm.refl _
  | some stored =>
    have present : (⟨key, stored⟩ : Sigma fun _ : Key => Value) ∈ map.entries :=
      (lookup_eq_some_iff map key stored).mp found
    have storedEntry : map.entries.dlookup key = some stored := found
    obtain ⟨held, first, second, notFirst, split, erased⟩ :=
      List.exists_of_kerase (List.mem_keys_of_mem present)
    rw [erased]
    rw [split, List.dlookup_append, List.dlookup_eq_none.mpr notFirst, Option.none_or,
      List.dlookup_cons_eq] at storedEntry
    injection storedEntry with same
    rw [split, same, List.map_append, List.map_cons, List.map_append]
    exact List.perm_middle

/-- Replacing a value leaves the others where they are. -/
theorem exists_entries_kreplace {entries : List (Sigma fun _ : Key => Value)} {key : Key}
    {stored : Value} (found : entries.dlookup key = some stored) (value : Value) :
    ∃ first second : List Value, entries.map Sigma.snd = first ++ stored :: second ∧
      (entries.kreplace key value).map Sigma.snd = first ++ value :: second := by
  induction entries with
  | nil => cases found
  | cons entry rest inductionHypothesis =>
    obtain ⟨other, held⟩ := entry
    rw [List.kreplace]
    by_cases same : key = other
    · subst same
      rw [List.dlookup_cons_eq] at found
      injection found with isStored
      rw [List.lookmap_cons_some _ _ (b := ⟨key, value⟩) (by simp)]
      exact ⟨[], rest.map Sigma.snd, by rw [List.map_cons, isStored]; rfl, rfl⟩
    · rw [List.dlookup_cons_ne _ _ same] at found
      rw [List.lookmap_cons_none _ _ (by simp [same])]
      obtain ⟨first, second, before, after⟩ := inductionHypothesis found
      exact ⟨held :: first, second, congrArg (held :: ·) before, congrArg (held :: ·) after⟩

/-- Appending to a stored list adds one element to what is stored. -/
theorem perm_flatten_values_push {Element : Type} (map : HashMap Key (List Element)) (key : Key)
    (element : Element) :
    (HashMap.values (map.push key element)).flatten.Perm (map.values.flatten ++ [element]) := by
  unfold push
  cases found : map.lookup key with
  | none =>
    obtain ⟨others, before, after⟩ := exists_values_insert map key [element]
    rw [found, Option.toList_none, List.nil_append] at before
    dsimp only
    rw [after, List.flatten_cons]
    exact List.perm_append_comm.trans (before.flatten.symm.append_right [element])
  | some stored =>
    obtain ⟨first, second, before, after⟩ := exists_entries_kreplace found (stored ++ [element])
    have beforeValues : map.values = first ++ stored :: second := before
    have afterValues : HashMap.values (map.replace key (stored ++ [element])) =
        first ++ (stored ++ [element]) :: second := after
    dsimp only
    rw [beforeValues, afterValues, List.flatten_append, List.flatten_append, List.flatten_cons,
      List.flatten_cons, List.append_assoc, List.append_assoc, List.append_assoc]
    exact List.Perm.append_left _ (List.Perm.append_left _ List.perm_append_comm)

/-- Grouping neither loses nor duplicates an element. -/
theorem perm_flatten_values_group {Element : Type} (pairs : List (Key × Element)) :
    (group pairs).values.flatten.Perm (pairs.map Prod.snd) := by
  suffices generalized : ∀ map : HashMap Key (List Element),
      (HashMap.values (pairs.foldl (fun map pair => map.push pair.1 pair.2) map)).flatten.Perm
        (map.values.flatten ++ pairs.map Prod.snd) from generalized ∅
  induction pairs with
  | nil =>
    intro map
    rw [List.map_nil, List.append_nil]
    exact List.Perm.refl _
  | cons pair rest inductionHypothesis =>
    intro map
    refine (inductionHypothesis (map.push pair.1 pair.2)).trans ?_
    rw [List.map_cons, List.append_cons]
    exact (perm_flatten_values_push map pair.1 pair.2).append_right _

/-- The map counts how often each key is listed. -/
def Tallies (counts : HashMap Key Nat) (keys : List Key) : Prop :=
  ∀ key, (counts.lookup key).getD 0 = keys.count key

theorem tallies_empty : Tallies (∅ : HashMap Key Nat) [] :=
  fun _ => rfl

theorem Tallies.insert {counts : HashMap Key Nat} {keys : List Key} (tallies : Tallies counts keys)
    (key : Key) :
    Tallies (AList.insert key ((counts.lookup key).getD 0 + 1) counts) (keys ++ [key]) := by
  intro other
  rw [lookup_insert, List.count_append, List.count_singleton]
  by_cases same : other = key
  · rw [if_pos same, Option.getD_some, tallies key, same, beq_self_eq_true, if_pos rfl]
  · rw [if_neg same, tallies other, beq_false_of_ne (Ne.symm same)]
    rfl

end HashMap

/-- An order in which the values of a hash map are visited. -/
structure IterationOrder (Value : Type) where
  order : List Value → List Value
  perm : ∀ values, (order values).Perm values

def inStoredOrder {Value : Type} : IterationOrder Value where
  order values := values
  perm values := List.Perm.refl values

def backwards {Value : Type} : IterationOrder Value where
  order := List.reverse
  perm := List.reverse_perm

end DexArbitrage
