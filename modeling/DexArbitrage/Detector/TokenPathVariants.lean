/-
This file proves what is kept of the candidates of a token path. The order of
candidates is a total preorder although it looks at the score first only where
neither candidate has a potential: there the potentials are equal, and the score
is what is compared next in any case. So the list of a token path is a list that
keeps its best, and its length counts the insertions that reported an addition.

The cap is an argument of every insertion. Lists are sorted and counted whatever
the caps are; the best are kept where the insertions for one key agree on it.
-/

import DexArbitrage.Lib.BestKept
import DexArbitrage.Detector.PathFinder
import DexArbitrage.Detector.SelectionLimits

namespace DexArbitrage

open Std

/-! ### One insertion -/

/-- The variants that are stored for a token path. -/
def storedVariants (candidates : HashMap String (List CandidatePath)) (key : String) :
    List CandidatePath :=
  (candidates.lookup key).getD []

/-- The number of stored candidates, over all token paths. -/
def storedCount (candidates : HashMap String (List CandidatePath)) : Nat :=
  candidates.values.flatten.length

section Insertion

variable (candidates : HashMap String (List CandidatePath)) (key : String)

theorem storedVariants_insert (other : String) (variants : List CandidatePath) :
    storedVariants (candidates.insert key variants) other =
      if other = key then variants else storedVariants candidates other := by
  unfold storedVariants
  rw [HashMap.lookup_insert]
  split
  · rfl
  · rfl

theorem storedCount_insert (variants : List CandidatePath) :
    storedCount (candidates.insert key variants) + (storedVariants candidates key).length =
      storedCount candidates + variants.length := by
  obtain ⟨others, split, inserted⟩ := HashMap.exists_values_insert candidates key variants
  have before : storedCount candidates =
      (storedVariants candidates key).length + others.flatten.length := by
    have lengths := split.flatten.length_eq
    unfold storedCount storedVariants
    cases found : candidates.lookup key <;> simpa [found] using lengths
  unfold storedCount at before ⊢
  rw [inserted, before, List.flatten_cons, List.length_append]
  omega

variable (candidate : CandidatePath) (maxVariants : Nat)

/-- The list of the key is offered the candidate. Where that changes nothing it is not stored
again, and the flag says whether there was room. -/
theorem insertTokenPathVariant_cases {variants kept : List CandidatePath}
    (stored : variants = storedVariants candidates key)
    (keeps : kept = keepOneMore candidateOrdering (max maxVariants 1) variants candidate) :
    insertTokenPathVariant candidates key candidate maxVariants =
        (candidates.insert key kept, decide (variants.length < max maxVariants 1)) ∨
      kept = variants ∧ insertTokenPathVariant candidates key candidate maxVariants =
        (candidates, decide (variants.length < max maxVariants 1)) := by
  have found : (candidates.lookup key).getD [] = variants := stored.symm
  unfold insertTokenPathVariant
  dsimp only
  rw [found, keeps, keepOneMore]
  by_cases room : variants.length < max maxVariants 1
  · left
    simp only [room, if_true, decide_true]
  · simp only [room, if_false, decide_false]
    cases variants.getLast? with
    | none => exact Or.inr ⟨rfl, rfl⟩
    | some worst =>
      dsimp only
      split
      · exact Or.inl rfl
      · exact Or.inr ⟨rfl, rfl⟩

/-- An insertion leaves the lists of other keys alone. -/
theorem storedVariants_insertTokenPathVariant (other : String) :
    storedVariants (insertTokenPathVariant candidates key candidate maxVariants).1 other =
      if other = key then
        keepOneMore candidateOrdering (max maxVariants 1) (storedVariants candidates key) candidate
      else
        storedVariants candidates other := by
  rcases insertTokenPathVariant_cases candidates key candidate maxVariants rfl rfl with
    inserted | ⟨same, unchanged⟩
  · rw [inserted, storedVariants_insert]
  · rw [unchanged, same]
    split
    · rename_i isKey
      rw [isKey]
    · rfl

/-- The flag counts what is stored. -/
theorem storedCount_insertTokenPathVariant :
    storedCount (insertTokenPathVariant candidates key candidate maxVariants).1 =
      storedCount candidates +
        if (insertTokenPathVariant candidates key candidate maxVariants).2 then 1 else 0 := by
  set kept := keepOneMore candidateOrdering (max maxVariants 1) (storedVariants candidates key)
    candidate with isKept
  have lengths : kept.length = (storedVariants candidates key).length +
      if (storedVariants candidates key).length < max maxVariants 1 then 1 else 0 := by
    rw [isKept, length_keepOneMore]
    split
    · rfl
    · rfl
  rcases insertTokenPathVariant_cases candidates key candidate maxVariants rfl isKept with
    inserted | ⟨same, unchanged⟩
  · have counts := storedCount_insert candidates key kept
    rw [inserted]
    simp only [decide_eq_true_eq]
    omega
  · rw [same] at lengths
    rw [unchanged]
    simp only [decide_eq_true_eq]
    omega

end Insertion

/-! ### Any number of insertions -/

/-- The arguments of one call. -/
structure VariantInsert where
  key : String
  candidate : CandidatePath
  maxVariants : Nat

/-- What is stored, and how many calls have returned true. -/
structure VariantStore where
  candidates : HashMap String (List CandidatePath)
  added : Nat

def VariantStore.empty : VariantStore where
  candidates := ∅
  added := 0

def VariantStore.insert (store : VariantStore) (call : VariantInsert) : VariantStore :=
  let (candidates, added) :=
    insertTokenPathVariant store.candidates call.key call.candidate call.maxVariants
  { candidates, added := store.added + if added then 1 else 0 }

/-- The candidates that the calls have offered for a token path. -/
def offeredVariants (calls : List VariantInsert) (key : String) : List CandidatePath :=
  (calls.filter fun call => call.key = key).map VariantInsert.candidate

section Insertions

variable {store : VariantStore}

theorem added_foldl (counted : store.added = storedCount store.candidates)
    (calls : List VariantInsert) :
    (calls.foldl VariantStore.insert store).added =
      storedCount (calls.foldl VariantStore.insert store).candidates := by
  induction calls generalizing store with
  | nil => exact counted
  | cons call calls inductionHypothesis =>
    have stored := storedCount_insertTokenPathVariant store.candidates call.key call.candidate
      call.maxVariants
    rw [← counted] at stored
    exact inductionHypothesis stored.symm

theorem sorted_foldl {key : String}
    (sorted : (storedVariants store.candidates key).Pairwise
      fun left right => (candidateOrdering left right).isLE) (calls : List VariantInsert) :
    (storedVariants (calls.foldl VariantStore.insert store).candidates key).Pairwise
      fun left right => (candidateOrdering left right).isLE := by
  induction calls generalizing store with
  | nil => exact sorted
  | cons call calls inductionHypothesis =>
    refine inductionHypothesis ?_
    show (storedVariants (insertTokenPathVariant _ _ _ _).1 key).Pairwise _
    rw [storedVariants_insertTokenPathVariant]
    split
    · rename_i isKey
      exact sorted_keepOneMore (isKey ▸ sorted) call.candidate
    · exact sorted

/-- Where the calls for a key agree on the cap, its list has been offered their candidates. -/
theorem storedVariants_foldl {key : String} {maxVariants : Nat} {calls : List VariantInsert}
    (agree : ∀ call ∈ calls, call.key = key → call.maxVariants = maxVariants) :
    storedVariants (calls.foldl VariantStore.insert store).candidates key =
      (offeredVariants calls key).foldl (keepOneMore candidateOrdering (max maxVariants 1))
        (storedVariants store.candidates key) := by
  induction calls generalizing store with
  | nil => rfl
  | cons call calls inductionHypothesis =>
    have rest :
        storedVariants (calls.foldl VariantStore.insert (store.insert call)).candidates key =
          (offeredVariants calls key).foldl (keepOneMore candidateOrdering (max maxVariants 1))
          (storedVariants (store.insert call).candidates key) :=
      inductionHypothesis fun later member => agree later (List.mem_cons_of_mem _ member)
    have first : storedVariants (store.insert call).candidates key =
        if key = call.key then
          keepOneMore candidateOrdering (max call.maxVariants 1)
            (storedVariants store.candidates call.key) call.candidate
        else
          storedVariants store.candidates key :=
      storedVariants_insertTokenPathVariant _ _ _ _ key
    rw [List.foldl_cons, rest, first]
    by_cases isKey : call.key = key
    · rw [if_pos isKey.symm, agree call List.mem_cons_self isKey, isKey]
      simp [offeredVariants, isKey]
    · rw [if_neg (Ne.symm isKey)]
      simp [offeredVariants, isKey]

end Insertions

/-! ### The budget of a search -/

/-- The counter of the search is the number of stored candidates, as far as it counts. -/
def SearchProgress.CountsStored (progress : SearchProgress) : Prop :=
  progress.tokenPathCandidateCount = min (storedCount progress.tokenPathCandidates) usizeMax

section Budget

variable (finder : PathFinder) (context : SearchContext) (snapshot : GraphSnapshot)
  (changedEdges : List EdgeRef)

theorem SearchProgress.CountsStored.leadsTo {progress : SearchProgress}
    (counts : progress.CountsStored) (enough : Prop) [Decidable enough] (ends : SearchEnd) :
    LeadsTo SearchProgress.CountsStored (fun _ => True)
      (if enough then .error ends else .ok progress) := by
  split
  · trivial
  · exact counts

theorem countsStored_acceptCandidate {progress : SearchProgress} (counts : progress.CountsStored)
    (candidate : CandidatePath) :
    LeadsTo SearchProgress.CountsStored (fun _ => True)
      (acceptCandidate finder context changedEdges progress candidate) := by
  have counts : progress.tokenPathCandidateCount =
      min (storedCount progress.tokenPathCandidates) usizeMax := counts
  have stored := storedCount_insertTokenPathVariant progress.tokenPathCandidates
    (candidateTokenCycleKey context.displayAddress candidate) candidate
    finder.tuning.poolVariantsPerTokenPath
  unfold acceptCandidate
  cases finder.tuning.dedupTokenPaths with
  | true =>
    generalize insertTokenPathVariant progress.tokenPathCandidates
      (candidateTokenCycleKey context.displayAddress candidate) candidate
      finder.tuning.poolVariantsPerTokenPath = inserted at stored
    obtain ⟨variants, added⟩ := inserted
    refine SearchProgress.CountsStored.leadsTo ?_ _ _
    show (if added then saturatingAdd usizeMax progress.tokenPathCandidateCount 1
      else progress.tokenPathCandidateCount) = min (storedCount variants) usizeMax
    rw [stored, counts]
    cases added with
    | true =>
      rw [if_pos rfl, if_pos rfl, saturatingAdd]
      omega
    | false => rfl
  | false =>
    refine SearchProgress.CountsStored.leadsTo ?_ _ _
    exact counts

theorem countsStored_visitRoute (anchorIdx changedTo : Nat)
    (changedEdgeRef changedPathRef : EdgeRef) (prefixPath suffixPath : SearchPath)
    {progress : SearchProgress} (counts : progress.CountsStored) :
    LeadsTo SearchProgress.CountsStored (fun _ => True)
      (visitRoute finder context snapshot changedEdges anchorIdx changedTo changedEdgeRef
        changedPathRef prefixPath suffixPath progress) := by
  unfold visitRoute
  dsimp only
  split
  · exact counts
  · split
    · exact counts
    · split
      · exact counts
      · split
        · exact counts
        · split
          · exact counts
          · split
            · trivial
            · exact counts
            · refine countsStored_acceptCandidate finder context changedEdges ?_ _
              exact counts

theorem countsStored_visitAnchor (changedFrom changedTo : Nat) (changedEdgeRef : EdgeRef)
    (changedCandidateEdges : List EdgeRef) (anchorIdx : Nat) {progress : SearchProgress}
    (counts : progress.CountsStored) :
    LeadsTo SearchProgress.CountsStored (fun _ => True)
      (visitAnchor finder context snapshot changedEdges changedFrom changedTo changedEdgeRef
        changedCandidateEdges progress anchorIdx) := by
  unfold visitAnchor
  split
  · exact counts
  · dsimp only
    split
    · exact counts
    · refine leadsTo_foldlM (fun changedPathRef _ progress counts => ?_) counts
      refine leadsTo_foldlM (fun prefixPath _ progress counts => ?_) counts
      refine leadsTo_foldlM (fun suffixPath _ progress counts => ?_) counts
      exact countsStored_visitRoute finder context snapshot changedEdges _ _ _ _ _ _ counts

theorem countsStored_visitPair (distanceCache : DistanceCache) (changed : (Nat × Nat) × EdgeRef)
    {progress : SearchProgress} (counts : progress.CountsStored) :
    LeadsTo SearchProgress.CountsStored (fun _ => True)
      (visitPair finder context snapshot changedEdges distanceCache progress changed) := by
  unfold visitPair
  split
  · trivial
  · exact counts
  · split
    · trivial
    · exact counts
    · dsimp only
      split
      · exact counts
      · exact leadsTo_foldlM (fun anchorIdx _ progress counts =>
          countsStored_visitAnchor finder context snapshot changedEdges _ _ _ _ anchorIdx counts)
          counts

/-- Whatever a search has collected at its end, its counter has counted what is stored. -/
theorem countsStored_collectCandidates (distanceCache : DistanceCache) :
    LeadsTo SearchProgress.CountsStored (fun _ => True)
      (collectCandidates finder context snapshot changedEdges distanceCache) := by
  have start : SearchProgress.start.CountsStored := rfl
  unfold collectCandidates
  split
  · exact start
  · dsimp only
    split
    · exact start
    · exact leadsTo_foldlM (fun changed _ progress counts =>
        countsStored_visitPair finder context snapshot changedEdges distanceCache changed counts)
        start

end Budget

/-! ### The guarantee -/

/-- The order of candidates is a total preorder; whatever is inserted, the lists are sorted and the
additions count what is stored; where the calls for a key agree on the cap, its list holds the best
of what was offered, as many as were offered or fit; and the counter of a search, which its budget
is compared with, counts what is stored. -/
theorem tokenPathVariants_keepBest (calls : List VariantInsert) :
    ((∀ left right, (candidateOrdering left right).isLE ∨ (candidateOrdering right left).isLE) ∧
      (∀ left right, candidateOrdering left right = (candidateOrdering right left).swap) ∧
      ∀ first second third, (candidateOrdering first second).isLE →
        (candidateOrdering second third).isLE → (candidateOrdering first third).isLE) ∧
    let store := calls.foldl VariantStore.insert .empty
    (∀ key, (storedVariants store.candidates key).Pairwise
      fun left right => (candidateOrdering left right).isLE) ∧
    store.added = storedCount store.candidates ∧
    (∀ key maxVariants, (∀ call ∈ calls, call.key = key → call.maxVariants = maxVariants) →
      KeepsBest candidateOrdering (max maxVariants 1) (offeredVariants calls key)
        (storedVariants store.candidates key)) ∧
    ∀ finder context snapshot changedEdges distanceCache,
      LeadsTo SearchProgress.CountsStored (fun _ => True)
        (collectCandidates finder context snapshot changedEdges distanceCache) := by
  refine ⟨⟨fun left right => ?_, fun _ _ => OrientedCmp.eq_swap, fun _ _ _ => TransCmp.isLE_trans⟩,
    fun key => sorted_foldl List.Pairwise.nil calls, added_foldl rfl calls,
    fun key maxVariants agree => ?_, countsStored_collectCandidates⟩
  · by_cases below : (candidateOrdering left right).isLE
    · exact Or.inl below
    · exact Or.inr (Ordering.isLE_of_eq_lt (OrientedCmp.lt_of_not_isLE below))
  · rw [storedVariants_foldl agree]
    exact (keepsBest_nil candidateOrdering (max maxVariants 1)).foldl (Nat.le_max_right _ _)
      (offeredVariants calls key)

def scoredCandidate (screeningScoreQ32 : Int) : CandidatePath where
  snapshotId := 1
  startToken := 1
  startSymbol := ""
  screeningScoreQ32 := screeningScoreQ32
  routeCapacityUsdE8 := 0
  routeQualityBps := 10000
  cycleKey := ""
  path := []

/-- Three candidates for a path that keeps two of them, and one for another path. -/
def scoredCalls : List VariantInsert :=
  [{ key := "1>2", candidate := scoredCandidate (-5), maxVariants := 2 },
    { key := "1>2", candidate := scoredCandidate (-1), maxVariants := 2 },
    { key := "1>3", candidate := scoredCandidate (-1), maxVariants := 0 },
    { key := "1>2", candidate := scoredCandidate (-9), maxVariants := 2 }]

theorem tokenPathVariants_keepBest_scoredCalls :
    KeepsBest candidateOrdering 2
        [scoredCandidate (-5), scoredCandidate (-1), scoredCandidate (-9)]
        (storedVariants (scoredCalls.foldl VariantStore.insert .empty).candidates "1>2") ∧
      (scoredCalls.foldl VariantStore.insert .empty).added = 3 ∧
      storedVariants (scoredCalls.foldl VariantStore.insert .empty).candidates "1>2" =
        [scoredCandidate (-9), scoredCandidate (-5)] := by
  refine ⟨?_, by decide +kernel, by decide +kernel⟩
  exact (tokenPathVariants_keepBest scoredCalls).2.2.2.1 "1>2" 2 (by decide +kernel)

/-- With a cap that grows between the calls, a candidate that was dropped ranks before one that is
kept. -/
example : storedVariants
    ([{ key := "1>2", candidate := scoredCandidate (-9), maxVariants := 1 },
      { key := "1>2", candidate := scoredCandidate (-5), maxVariants := 1 },
      { key := "1>2", candidate := scoredCandidate (-1), maxVariants := 2 }].foldl
        VariantStore.insert .empty).candidates "1>2" =
    [scoredCandidate (-9), scoredCandidate (-1)] := by decide +kernel

end DexArbitrage
