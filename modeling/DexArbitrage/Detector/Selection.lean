/-
This file models how `src/detector/path_finder.rs` ranks the candidates it has
found and which of them it returns: the estimate of their profit, their keys as
cycles of tokens and of pools, the few variants that are kept for a token path,
and `finalize_candidates`.

The selection takes candidates with pairwise different pool cycles from what was
found, so it returns no candidate twice.
-/

import DexArbitrage.Lib.Dedup
import DexArbitrage.Detector.PathSearch

namespace DexArbitrage

/-! ### The order of candidates -/

def screeningEdgeBps (scoreQ32 : Int) : Nat :=
  if 0 ≤ scoreQ32 then
    0
  else
    saturatingMul u128Max scoreQ32.natAbs 10000 / 2 ^ 32

def candidateProfitPotentialUsdE8 (candidate : CandidatePath) : Nat :=
  saturatingMul u128Max
    (saturatingMul u128Max candidate.routeCapacityUsdE8
      (screeningEdgeBps candidate.screeningScoreQ32))
    candidate.routeQualityBps / 100000000

/-- The larger profit first, then by score, then the larger capacity first, then the shorter
path. -/
def candidateOrdering (left right : CandidatePath) : Ordering :=
  let byPotential :=
    match candidateProfitPotentialUsdE8 left, candidateProfitPotentialUsdE8 right with
    | 0, 0 => compare left.screeningScoreQ32 right.screeningScoreQ32
    | leftPotential, rightPotential => compare rightPotential leftPotential
  byPotential.then <|
    (compare left.screeningScoreQ32 right.screeningScoreQ32).then <|
      (compare right.routeCapacityUsdE8 left.routeCapacityUsdE8).then <|
        compare left.path.length right.path.length

/-! ### Keys -/

section Keys

variable (displayAddress : Address → String)

def candidateTokenCycleKey (candidate : CandidatePath) : String :=
  String.intercalate ">" <|
    displayAddress candidate.startToken :: candidate.path.map fun hop => displayAddress hop.toToken

def compareCycleRotation (tokens : List Address) (left right : Nat) : Ordering :=
  compare (tokens.rotate left) (tokens.rotate right)

def compareStringRotation (entries : List String) (left right : Nat) : Ordering :=
  compare (entries.rotate left) (entries.rotate right)

/-- The tokens of the cycle from its least rotation on, and the first of them again. -/
def canonicalTokenCycleKey (candidate : CandidatePath) : String :=
  let tokens := candidate.startToken ::
    (candidate.path.take (candidate.path.length - 1)).map CandidateHop.toToken
  let bestStart := (minBy (compareCycleRotation tokens) (List.range tokens.length)).getD 0
  String.intercalate ">" <|
    (tokens.rotate bestStart ++ tokens[bestStart]?.toList).map displayAddress

def hopText (fromToken toToken poolId : Address) : String :=
  displayAddress fromToken ++ ">" ++ displayAddress toToken ++ ":" ++ displayAddress poolId

def canonicalPoolCycleKey (candidate : CandidatePath) : String :=
  if candidate.path.isEmpty then
    displayAddress candidate.startToken
  else
    let entries := candidate.path.map fun hop =>
      hopText displayAddress hop.fromToken hop.toToken hop.poolId
    let bestStart := (minBy (compareStringRotation entries) (List.range entries.length)).getD 0
    String.intercalate "|" (entries.rotate bestStart)

def canonicalAnchorPoolCycleKey (candidate : CandidatePath) : String :=
  displayAddress candidate.startToken ++ ":" ++ canonicalPoolCycleKey displayAddress candidate

end Keys

/-! ### Variants of a token path -/

/-- The flag says that the variant was added, not that it took the place of another one. -/
def insertTokenPathVariant (candidates : HashMap String (List CandidatePath)) (key : String)
    (candidate : CandidatePath) (maxVariants : Nat) :
    HashMap String (List CandidatePath) × Bool :=
  let variants := (candidates.lookup key).getD []
  if variants.length < max maxVariants 1 then
    (candidates.insert key (sortBy candidateOrdering (variants ++ [candidate])), true)
  else
    match variants.getLast? with
    | none => (candidates, false)
    | some worst =>
      if (candidateOrdering candidate worst).isLT then
        (candidates.insert key (sortBy candidateOrdering (variants.dropLast ++ [candidate])), false)
      else
        (candidates, false)

def flattenCandidateMap (context : SearchContext)
    (candidates : HashMap String (List CandidatePath)) : List CandidatePath :=
  (context.variantsOrder.order candidates.values).flatten

/-- After an insertion the variants are old ones or the new one. -/
theorem subperm_insertTokenPathVariant (candidates : HashMap String (List CandidatePath))
    (key : String) (candidate : CandidatePath) (maxVariants : Nat) :
    (insertTokenPathVariant candidates key candidate maxVariants).1.values.flatten.Subperm
      (candidate :: candidates.values.flatten) := by
  have unchanged : candidates.values.flatten.Subperm (candidate :: candidates.values.flatten) :=
    (List.sublist_cons_self _ _).subperm
  have stored : ∀ variants : List CandidatePath,
      variants.Subperm (candidate :: (candidates.lookup key).getD []) →
      (HashMap.values (candidates.insert key variants)).flatten.Subperm
        (candidate :: candidates.values.flatten) := by
    intro variants fromOld
    obtain ⟨others, split, inserted⟩ := HashMap.exists_values_insert candidates key variants
    have oldFlat : ((candidates.lookup key).getD [] ++ others.flatten).Perm
        candidates.values.flatten := by
      have flat := split.symm.flatten
      cases found : candidates.lookup key <;> simpa [found] using flat
    have appended : (variants ++ others.flatten).Subperm
        (candidate :: ((candidates.lookup key).getD [] ++ others.flatten)) :=
      (List.subperm_append_right others.flatten).mpr fromOld
    rw [inserted, List.flatten_cons]
    exact appended.trans (oldFlat.cons candidate).subperm
  unfold insertTokenPathVariant
  dsimp only
  split
  · refine stored _ ?_
    exact ((perm_sortBy _ _).trans List.perm_append_comm).subperm
  · split
    · exact unchanged
    · rename_i worst _
      split
      · refine stored _ ?_
        have others : ((candidates.lookup key).getD []).dropLast.Subperm
            ((candidates.lookup key).getD []) := (List.dropLast_sublist _).subperm
        exact ((perm_sortBy _ _).trans List.perm_append_comm).subperm.trans
          ((List.subperm_cons candidate).mpr others)
      · exact unchanged

/-! ### The selection -/

/-- What has been selected, the pool cycles that were looked at, and how many of the selected
candidates belong to a token cycle, in all and from one anchor. -/
structure Selection where
  selected : List CandidatePath
  poolCycles : List String
  tokenCycleCounts : HashMap String Nat
  anchorCycleCounts : HashMap String Nat

def Selection.empty : Selection where
  selected := []
  poolCycles := []
  tokenCycleCounts := ∅
  anchorCycleCounts := ∅

section Selecting

variable (displayAddress : Address → String)
  (maxCandidates variantsPerCycle variantsPerAnchor : Nat)

def selectVariants : Selection → List CandidatePath → Selection
  | selection, [] => selection
  | selection, candidate :: rest =>
    let poolKey := canonicalAnchorPoolCycleKey displayAddress candidate
    if poolKey ∈ selection.poolCycles then
      selectVariants selection rest
    else
      let seen := { selection with poolCycles := poolKey :: selection.poolCycles }
      let tokenKey := canonicalTokenCycleKey displayAddress candidate
      let count := (selection.tokenCycleCounts.lookup tokenKey).getD 0
      let anchorKey := tokenKey ++ ":" ++ displayAddress candidate.startToken
      let anchorCount := (selection.anchorCycleCounts.lookup anchorKey).getD 0
      if variantsPerCycle ≤ count ∨ variantsPerAnchor ≤ anchorCount then
        selectVariants seen rest
      else
        let taken := { seen with
          selected := selection.selected ++ [candidate]
          tokenCycleCounts := selection.tokenCycleCounts.insert tokenKey (count + 1)
          anchorCycleCounts := selection.anchorCycleCounts.insert anchorKey (anchorCount + 1) }
        if maxCandidates ≤ taken.selected.length then
          taken
        else
          selectVariants taken rest

/-- Fill up with candidates of pool cycles that have not been selected. -/
def fillRotated : List CandidatePath → List String → List CandidatePath → List CandidatePath
  | selected, _, [] => selected
  | selected, poolCycles, candidate :: rest =>
    if maxCandidates ≤ selected.length then
      selected
    else
      let poolKey := canonicalAnchorPoolCycleKey displayAddress candidate
      if poolKey ∈ poolCycles then
        fillRotated selected poolCycles rest
      else
        fillRotated (selected ++ [candidate]) (poolKey :: poolCycles) rest

def finalizeCandidatesWithTuning (candidates : List CandidatePath)
    (canonicalVariantsPerCycle anchorVariantsPerCycle : Nat) (fillRotatedCandidates : Bool) :
    List CandidatePath :=
  let sorted := sortBy candidateOrdering candidates
  let selection := selectVariants displayAddress maxCandidates (max canonicalVariantsPerCycle 1)
    (max anchorVariantsPerCycle 1) Selection.empty sorted
  if !fillRotatedCandidates || maxCandidates ≤ selection.selected.length then
    selection.selected
  else
    fillRotated displayAddress maxCandidates selection.selected
      (selection.selected.map (canonicalAnchorPoolCycleKey displayAddress)) sorted

theorem picksDistinct_selectVariants {candidates rest : List CandidatePath}
    (inCandidates : ∀ candidate ∈ rest, candidate ∈ candidates) {selection : Selection}
    (picks : PicksDistinct (canonicalAnchorPoolCycleKey displayAddress) candidates
      selection.selected selection.poolCycles) :
    PicksDistinct (canonicalAnchorPoolCycleKey displayAddress) candidates
      (selectVariants displayAddress maxCandidates variantsPerCycle variantsPerAnchor selection
        rest).selected
      (selectVariants displayAddress maxCandidates variantsPerCycle variantsPerAnchor selection
        rest).poolCycles := by
  induction rest generalizing selection with
  | nil => exact picks
  | cons candidate rest inductionHypothesis =>
    have later : ∀ candidate ∈ rest, candidate ∈ candidates :=
      fun candidate member => inCandidates candidate (List.mem_cons_of_mem _ member)
    unfold selectVariants
    dsimp only
    split
    · exact inductionHypothesis later picks
    · rename_i unseen
      split
      · exact inductionHypothesis later (picks.see _)
      · have taken := picks.pick (inCandidates candidate List.mem_cons_self) unseen
        split
        · exact taken
        · exact inductionHypothesis later taken

theorem picksDistinct_fillRotated {candidates rest selected : List CandidatePath}
    (inCandidates : ∀ candidate ∈ rest, candidate ∈ candidates) {poolCycles : List String}
    (picks : PicksDistinct (canonicalAnchorPoolCycleKey displayAddress) candidates selected
      poolCycles) :
    ∃ seen, PicksDistinct (canonicalAnchorPoolCycleKey displayAddress) candidates
      (fillRotated displayAddress maxCandidates selected poolCycles rest) seen := by
  induction rest generalizing selected poolCycles with
  | nil => exact ⟨poolCycles, picks⟩
  | cons candidate rest inductionHypothesis =>
    have later : ∀ candidate ∈ rest, candidate ∈ candidates :=
      fun candidate member => inCandidates candidate (List.mem_cons_of_mem _ member)
    unfold fillRotated
    dsimp only
    split
    · exact ⟨poolCycles, picks⟩
    · split
      · exact inductionHypothesis later picks
      · rename_i unseen
        exact inductionHypothesis later
          (picks.pick (inCandidates candidate List.mem_cons_self) unseen)

theorem picksDistinct_finalizeCandidatesWithTuning (candidates : List CandidatePath)
    (canonicalVariantsPerCycle anchorVariantsPerCycle : Nat) (fillRotatedCandidates : Bool) :
    ∃ seen, PicksDistinct (canonicalAnchorPoolCycleKey displayAddress) candidates
      (finalizeCandidatesWithTuning displayAddress maxCandidates candidates
        canonicalVariantsPerCycle anchorVariantsPerCycle fillRotatedCandidates) seen := by
  have inCandidates : ∀ candidate ∈ sortBy candidateOrdering candidates,
      candidate ∈ candidates := fun candidate member => (mem_sortBy _ _ _).mp member
  have none : PicksDistinct (canonicalAnchorPoolCycleKey displayAddress) candidates
      Selection.empty.selected Selection.empty.poolCycles :=
    picksDistinct_nil (canonicalAnchorPoolCycleKey displayAddress) candidates []
  have selected := picksDistinct_selectVariants displayAddress maxCandidates
    (max canonicalVariantsPerCycle 1) (max anchorVariantsPerCycle 1) inCandidates none
  unfold finalizeCandidatesWithTuning
  dsimp only
  split
  · exact ⟨_, selected⟩
  · exact picksDistinct_fillRotated displayAddress maxCandidates inCandidates selected.keysOnly

/-- What is returned are some of the given candidates, none more often than it was given. -/
theorem subperm_finalizeCandidatesWithTuning (candidates : List CandidatePath)
    (canonicalVariantsPerCycle anchorVariantsPerCycle : Nat) (fillRotatedCandidates : Bool) :
    (finalizeCandidatesWithTuning displayAddress maxCandidates candidates
      canonicalVariantsPerCycle anchorVariantsPerCycle fillRotatedCandidates).Subperm
        candidates := by
  obtain ⟨seen, picks⟩ := picksDistinct_finalizeCandidatesWithTuning displayAddress maxCandidates
    candidates canonicalVariantsPerCycle anchorVariantsPerCycle fillRotatedCandidates
  exact picks.subperm

end Selecting

def finalizeCandidates (finder : PathFinder) (context : SearchContext)
    (candidates : List CandidatePath) : List CandidatePath :=
  finalizeCandidatesWithTuning context.displayAddress finder.tuning.maxCandidatesPerRefresh
    candidates finder.tuning.canonicalVariantsPerCycle finder.tuning.anchorVariantsPerCycle
    (context.env.searchFillRotatedCandidates.getD true)

end DexArbitrage
