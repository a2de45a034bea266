/-
This file proves what the selection of candidates guarantees. The first pass
keeps its two limits, because its counters count what it has selected. Both
passes take a pool cycle from its best candidate or not at all, because they
remember every cycle they have passed. The second pass either fills the
selection up or leaves no cycle out.

The selection compares keys. Where an address is known by its text, this is to
compare cycles up to rotation.
-/

import DexArbitrage.Detector.CycleKeys

namespace DexArbitrage

open Std

/-! ### The order of candidates -/

theorem candidateOrdering_eq :
    candidateOrdering =
      compareLex (fun left right => compareOn candidateProfitPotentialUsdE8 right left)
        (compareLex (compareOn CandidatePath.screeningScoreQ32)
          (compareLex (fun left right => compareOn CandidatePath.routeCapacityUsdE8 right left)
            (compareOn fun candidate => candidate.path.length))) := by
  funext left right
  unfold candidateOrdering compareLex compareOn
  dsimp only
  split
  -- without a potential the score is compared twice
  · rename_i leftNone rightNone
    rw [leftNone, rightNone]
    cases compare left.screeningScoreQ32 right.screeningScoreQ32 <;> rfl
  · rfl

instance : TransCmp candidateOrdering := by
  rw [candidateOrdering_eq]
  infer_instance

/-! ### The first pass -/

section Passes

variable {displayAddress : Address → String}
  {maxCandidates variantsPerCycle variantsPerAnchor : Nat}

/-- The key under which a selected candidate is counted for its anchor. -/
def anchorCycleKey (displayAddress : Address → String) (candidate : CandidatePath) : String :=
  canonicalTokenCycleKey displayAddress candidate ++ ":" ++ displayAddress candidate.startToken

/-- The counters count what has been selected, within the limits. -/
structure Selection.WithinLimits (displayAddress : Address → String)
    (variantsPerCycle variantsPerAnchor : Nat) (selection : Selection) : Prop where
  tokenTally : HashMap.Tallies selection.tokenCycleCounts
    (selection.selected.map (canonicalTokenCycleKey displayAddress))
  anchorTally : HashMap.Tallies selection.anchorCycleCounts
    (selection.selected.map (anchorCycleKey displayAddress))
  tokenLimit : ∀ key,
    (selection.selected.map (canonicalTokenCycleKey displayAddress)).count key ≤ variantsPerCycle
  anchorLimit : ∀ key,
    (selection.selected.map (anchorCycleKey displayAddress)).count key ≤ variantsPerAnchor

theorem withinLimits_empty :
    Selection.empty.WithinLimits displayAddress variantsPerCycle variantsPerAnchor where
  tokenTally := HashMap.tallies_empty
  anchorTally := HashMap.tallies_empty
  tokenLimit _ := Nat.zero_le _
  anchorLimit _ := Nat.zero_le _

/-- One more key stays within a limit that its own count has not reached. -/
theorem count_concat_le {keys : List String} {key : String} {limit : Nat}
    (within : ∀ key, keys.count key ≤ limit) (below : keys.count key < limit) :
    ∀ other, (keys ++ [key]).count other ≤ limit := by
  intro other
  rw [List.count_append, List.count_singleton]
  split
  · rename_i same
    rw [beq_iff_eq] at same
    rw [← same]
    exact below
  · exact within other

theorem Selection.WithinLimits.take {selection : Selection}
    (limits : selection.WithinLimits displayAddress variantsPerCycle variantsPerAnchor)
    {candidate : CandidatePath} (poolCycles : List String)
    (tokenBelow : (selection.tokenCycleCounts.lookup
      (canonicalTokenCycleKey displayAddress candidate)).getD 0 < variantsPerCycle)
    (anchorBelow : (selection.anchorCycleCounts.lookup
      (anchorCycleKey displayAddress candidate)).getD 0 < variantsPerAnchor) :
    Selection.WithinLimits displayAddress variantsPerCycle variantsPerAnchor
      { selected := selection.selected ++ [candidate]
        poolCycles
        tokenCycleCounts := selection.tokenCycleCounts.insert
          (canonicalTokenCycleKey displayAddress candidate)
          ((selection.tokenCycleCounts.lookup
            (canonicalTokenCycleKey displayAddress candidate)).getD 0 + 1)
        anchorCycleCounts := selection.anchorCycleCounts.insert
          (anchorCycleKey displayAddress candidate)
          ((selection.anchorCycleCounts.lookup
            (anchorCycleKey displayAddress candidate)).getD 0 + 1) } := by
  rw [limits.tokenTally] at tokenBelow
  rw [limits.anchorTally] at anchorBelow
  refine ⟨?_, ?_, ?_, ?_⟩
  · rw [List.map_append, List.map_singleton]
    exact limits.tokenTally.insert _
  · rw [List.map_append, List.map_singleton]
    exact limits.anchorTally.insert _
  · rw [List.map_append, List.map_singleton]
    exact count_concat_le limits.tokenLimit tokenBelow
  · rw [List.map_append, List.map_singleton]
    exact count_concat_le limits.anchorLimit anchorBelow

/-- What the first pass keeps while it goes through the candidates. -/
structure Selection.FirstPass (displayAddress : Address → String)
    (maxCandidates variantsPerCycle variantsPerAnchor : Nat)
    (candidates passed : List CandidatePath) (selection : Selection) : Prop where
  limits : selection.WithinLimits displayAddress variantsPerCycle variantsPerAnchor
  picks : PicksFirst (canonicalAnchorPoolCycleKey displayAddress) candidates passed
    selection.selected selection.poolCycles
  length_le : selection.selected.length ≤ maxCandidates

theorem firstPass_selectVariants {candidates passed rest : List CandidatePath}
    (split : candidates = passed ++ rest) {selection : Selection}
    (pass : selection.FirstPass displayAddress maxCandidates variantsPerCycle variantsPerAnchor
      candidates passed) (room : selection.selected.length < maxCandidates) :
    ∃ passed, (selectVariants displayAddress maxCandidates variantsPerCycle variantsPerAnchor
      selection rest).FirstPass displayAddress maxCandidates variantsPerCycle variantsPerAnchor
        candidates passed := by
  induction rest generalizing passed selection with
  | nil => exact ⟨passed, pass⟩
  | cons candidate rest inductionHypothesis =>
    have later : candidates = passed ++ [candidate] ++ rest := by
      rw [split, List.append_assoc, List.singleton_append]
    unfold selectVariants
    dsimp only
    split
    · rename_i found
      exact inductionHypothesis later ⟨pass.limits, pass.picks.skip found, pass.length_le⟩ room
    · rename_i unseen
      split
      -- the cycle counts as passed although its candidate is not taken
      · exact inductionHypothesis later
          ⟨⟨pass.limits.tokenTally, pass.limits.anchorTally, pass.limits.tokenLimit,
            pass.limits.anchorLimit⟩, pass.picks.see candidate, pass.length_le⟩ room
      · rename_i below
        obtain ⟨tokenBelow, anchorBelow⟩ := not_or.mp below
        have limits := pass.limits.take
          (canonicalAnchorPoolCycleKey displayAddress candidate :: selection.poolCycles)
          (Nat.lt_of_not_le tokenBelow) (Nat.lt_of_not_le anchorBelow)
        have picks := pass.picks.pick split unseen
        have length : (selection.selected ++ [candidate]).length ≤ maxCandidates := by
          rw [List.length_append, List.length_singleton]
          exact room
        split
        · exact ⟨passed ++ [candidate], limits, picks, length⟩
        · rename_i full
          exact inductionHypothesis later ⟨limits, picks, length⟩ (Nat.lt_of_not_le full)

/-! ### The second pass -/

/-- Filling up extends the selection, up to the limit. -/
theorem prefix_fillRotated (selected : List CandidatePath) (poolCycles : List String)
    (rest : List CandidatePath) (within : selected.length ≤ maxCandidates) :
    selected <+: fillRotated displayAddress maxCandidates selected poolCycles rest ∧
      (fillRotated displayAddress maxCandidates selected poolCycles rest).length ≤
        maxCandidates := by
  induction rest generalizing selected poolCycles with
  | nil => exact ⟨List.prefix_rfl, within⟩
  | cons candidate rest inductionHypothesis =>
    unfold fillRotated
    dsimp only
    split
    · exact ⟨List.prefix_rfl, within⟩
    · rename_i room
      split
      · exact inductionHypothesis _ _ within
      · have length : (selected ++ [candidate]).length ≤ maxCandidates := by
          rw [List.length_append, List.length_singleton]
          exact Nat.lt_of_not_le room
        obtain ⟨isPrefix, atMost⟩ := inductionHypothesis _
          (canonicalAnchorPoolCycleKey displayAddress candidate :: poolCycles) length
        exact ⟨(List.prefix_append _ _).trans isPrefix, atMost⟩

variable (maxCandidates) in
/-- The second pass stops at the limit, or it has seen every cycle and selected each one it has
seen. -/
theorem picksFirst_fillRotated {candidates passed rest selected : List CandidatePath}
    {poolCycles : List String} (split : candidates = passed ++ rest)
    (picks : PicksFirst (canonicalAnchorPoolCycleKey displayAddress) candidates passed selected
      poolCycles)
    (represented : ∀ key ∈ poolCycles,
      key ∈ selected.map (canonicalAnchorPoolCycleKey displayAddress)) :
    (∀ candidate ∈ fillRotated displayAddress maxCandidates selected poolCycles rest,
      candidates.find? (fun other => canonicalAnchorPoolCycleKey displayAddress other =
        canonicalAnchorPoolCycleKey displayAddress candidate) = some candidate) ∧
    ((fillRotated displayAddress maxCandidates selected poolCycles rest).length < maxCandidates →
      ∀ candidate ∈ candidates, canonicalAnchorPoolCycleKey displayAddress candidate ∈
        (fillRotated displayAddress maxCandidates selected poolCycles rest).map
          (canonicalAnchorPoolCycleKey displayAddress)) := by
  induction rest generalizing passed selected poolCycles with
  | nil =>
    rw [List.append_nil] at split
    refine ⟨picks.first, fun _ candidate member => ?_⟩
    exact represented _ (picks.looked candidate (split ▸ member))
  | cons candidate rest inductionHypothesis =>
    have later : candidates = passed ++ [candidate] ++ rest := by
      rw [split, List.append_assoc, List.singleton_append]
    unfold fillRotated
    dsimp only
    split
    · rename_i full
      exact ⟨picks.first, fun less => absurd full (Nat.not_le.mpr less)⟩
    · split
      · rename_i found
        exact inductionHypothesis later (picks.skip found) represented
      · rename_i unseen
        refine inductionHypothesis later (picks.pick split unseen) (List.forall_mem_cons.mpr ?_)
        rw [List.map_append, List.map_singleton]
        exact ⟨List.mem_append_right _ List.mem_cons_self,
          fun key member => List.mem_append_left _ (represented key member)⟩

end Passes

/-! ### The whole selection -/

/-- What the selection guarantees, for a notion of equal pool cycles from one anchor and a notion of
equal token cycles. -/
structure SelectsBest (sameCycle sameTokenCycle : CandidatePath → CandidatePath → Prop)
    (maxCandidates variantsPerCycle variantsPerAnchor : Nat) (fill : Bool)
    (candidates firstPass selected : List CandidatePath) : Prop where
  subperm : selected.Subperm candidates
  length_le : selected.length ≤ maxCandidates
  distinct : selected.Pairwise fun left right => ¬ sameCycle left right
  extends_firstPass : firstPass <+: selected
  tokenLimit : ∀ group : List CandidatePath, group.Sublist firstPass →
    group.Pairwise sameTokenCycle → group.length ≤ variantsPerCycle
  anchorLimit : ∀ group : List CandidatePath, group.Sublist firstPass →
    group.Pairwise (fun left right => sameTokenCycle left right ∧
      left.startToken = right.startToken) → group.length ≤ variantsPerAnchor
  /-- A cycle is decided by the first of its candidates in the sorted list. -/
  decided : ∀ chosen ∈ selected, ∃ before after,
    sortBy candidateOrdering candidates = before ++ chosen :: after ∧
      ∀ candidate ∈ before, ¬ sameCycle candidate chosen
  /-- This is a candidate that no other one of the cycle is ranked above. -/
  bestRanked : ∀ chosen ∈ selected, ∀ candidate ∈ candidates, sameCycle candidate chosen →
    (candidateOrdering chosen candidate).isLE
  represented : fill = true → selected.length < maxCandidates →
    ∀ candidate ∈ candidates, ∃ chosen ∈ selected, sameCycle chosen candidate

/-- The candidates that the first pass selects. -/
def firstPass (displayAddress : Address → String) (maxCandidates : Nat)
    (candidates : List CandidatePath) (canonicalVariantsPerCycle anchorVariantsPerCycle : Nat) :
    Selection :=
  selectVariants displayAddress maxCandidates (max canonicalVariantsPerCycle 1)
    (max anchorVariantsPerCycle 1) Selection.empty (sortBy candidateOrdering candidates)

/-- A group with one key is not larger than the count of that key. -/
theorem length_le_of_sameKey {Key : Type} [DecidableEq Key] {key : CandidatePath → Key}
    {selected group : List CandidatePath} {limit : Nat}
    (within : ∀ value, (selected.map key).count value ≤ limit) (sublist : group.Sublist selected)
    (same : group.Pairwise fun left right => key left = key right) : group.length ≤ limit := by
  cases group with
  | nil => exact Nat.zero_le _
  | cons first rest =>
    have all : ∀ value ∈ (first :: rest).map key, key first = value := by
      rw [List.map_cons, List.forall_mem_cons]
      refine ⟨rfl, fun value member => ?_⟩
      obtain ⟨other, later, isValue⟩ := List.mem_map.mp member
      exact isValue ▸ List.rel_of_pairwise_cons same later
    have counted := (sublist.map key).count_le (key first)
    rw [List.count_eq_length.mpr all, List.length_map] at counted
    exact counted.trans (within _)

section Whole

variable {displayAddress : Address → String} {maxCandidates : Nat}

/-- Both ways to return. -/
theorem finalizeCandidatesWithTuning_spec (positive : 1 ≤ maxCandidates)
    (candidates : List CandidatePath) (canonicalVariantsPerCycle anchorVariantsPerCycle : Nat)
    (fill : Bool) {pass : Selection} {selected : List CandidatePath}
    (isPass : pass = firstPass displayAddress maxCandidates candidates canonicalVariantsPerCycle
      anchorVariantsPerCycle)
    (isSelected : selected = finalizeCandidatesWithTuning displayAddress maxCandidates candidates
      canonicalVariantsPerCycle anchorVariantsPerCycle fill) :
    pass.WithinLimits displayAddress (max canonicalVariantsPerCycle 1)
        (max anchorVariantsPerCycle 1) ∧
      pass.selected <+: selected ∧ selected.length ≤ maxCandidates ∧
      (∀ chosen ∈ selected, (sortBy candidateOrdering candidates).find? (fun other =>
        canonicalAnchorPoolCycleKey displayAddress other =
          canonicalAnchorPoolCycleKey displayAddress chosen) = some chosen) ∧
      (fill = true → selected.length < maxCandidates →
        ∀ candidate ∈ sortBy candidateOrdering candidates,
          canonicalAnchorPoolCycleKey displayAddress candidate ∈
            selected.map (canonicalAnchorPoolCycleKey displayAddress)) := by
  have start : Selection.empty.FirstPass displayAddress maxCandidates
      (max canonicalVariantsPerCycle 1) (max anchorVariantsPerCycle 1)
      (sortBy candidateOrdering candidates) [] :=
    ⟨withinLimits_empty, picksFirst_nil _ _ _, Nat.zero_le _⟩
  obtain ⟨passed, first⟩ := firstPass_selectVariants (List.nil_append _).symm start positive
  unfold finalizeCandidatesWithTuning at isSelected
  dsimp only at isSelected
  change pass = selectVariants displayAddress maxCandidates _ _ _ _ at isPass
  rw [← isPass] at first isSelected
  refine ⟨first.limits, ?_⟩
  split at isSelected
  · rename_i done
    rw [isSelected]
    refine ⟨List.prefix_rfl, first.length_le, first.picks.first, fun fills room => ?_⟩
    rw [fills, Bool.not_true, Bool.false_or, decide_eq_true_iff] at done
    exact absurd done (Nat.not_le.mpr room)
  · rw [isSelected]
    have filled := picksFirst_fillRotated maxCandidates (List.nil_append _).symm
      (first.picks.restart (pass.selected.map (canonicalAnchorPoolCycleKey displayAddress)))
      fun _ member => member
    exact ⟨(prefix_fillRotated _ _ _ first.length_le).1,
      (prefix_fillRotated _ _ _ first.length_le).2, filled.1, fun _ => filled.2⟩

variable (displayAddress) in
theorem selectsBest_byKeys (positive : 1 ≤ maxCandidates) (candidates : List CandidatePath)
    (canonicalVariantsPerCycle anchorVariantsPerCycle : Nat) (fill : Bool) :
    SelectsBest
      (fun left right => canonicalAnchorPoolCycleKey displayAddress left =
        canonicalAnchorPoolCycleKey displayAddress right)
      (fun left right => canonicalTokenCycleKey displayAddress left =
        canonicalTokenCycleKey displayAddress right)
      maxCandidates (max canonicalVariantsPerCycle 1) (max anchorVariantsPerCycle 1) fill
      candidates
      (firstPass displayAddress maxCandidates candidates canonicalVariantsPerCycle
        anchorVariantsPerCycle).selected
      (finalizeCandidatesWithTuning displayAddress maxCandidates candidates
        canonicalVariantsPerCycle anchorVariantsPerCycle fill) := by
  obtain ⟨limits, extended, atMost, isFirst, represented⟩ :=
    finalizeCandidatesWithTuning_spec positive candidates canonicalVariantsPerCycle
      anchorVariantsPerCycle fill rfl rfl
  obtain ⟨seen, picks⟩ := picksDistinct_finalizeCandidatesWithTuning displayAddress maxCandidates
    candidates canonicalVariantsPerCycle anchorVariantsPerCycle fill
  exact {
    subperm := picks.subperm
    length_le := atMost
    distinct := List.pairwise_map.mp picks.distinct
    extends_firstPass := extended
    tokenLimit := fun group sublist same => length_le_of_sameKey limits.tokenLimit sublist same
    anchorLimit := by
      intro group sublist same
      refine length_le_of_sameKey limits.anchorLimit sublist (same.imp ?_)
      rintro left right ⟨sameTokens, sameAnchor⟩
      unfold anchorCycleKey
      rw [sameTokens, sameAnchor]
    decided := by
      intro chosen member
      obtain ⟨_, before, after, split, others⟩ :=
        List.find?_eq_some_iff_append.mp (isFirst chosen member)
      refine ⟨before, after, split, fun candidate earlier => ?_⟩
      simpa using others candidate earlier
    bestRanked := by
      intro chosen member candidate listed same
      exact related_of_first (pairwise_sortBy candidates) (fun _ => ReflCmp.isLE_rfl)
        (isFirst chosen member) ((mem_sortBy _ _ _).mpr listed) same
    represented := by
      intro fills room candidate listed
      exact List.mem_map.mp
        (represented fills room candidate ((mem_sortBy _ _ _).mpr listed)) }

/-- The selection guarantees this of its keys, and of the cycles themselves where an address is
known by its text. -/
theorem selectsBest_finalizeCandidatesWithTuning (positive : 1 ≤ maxCandidates)
    (candidates : List CandidatePath)
    (canonicalVariantsPerCycle anchorVariantsPerCycle : Nat) (fill : Bool) :
    SelectsBest
      (fun left right => canonicalAnchorPoolCycleKey displayAddress left =
        canonicalAnchorPoolCycleKey displayAddress right)
      (fun left right => canonicalTokenCycleKey displayAddress left =
        canonicalTokenCycleKey displayAddress right)
      maxCandidates (max canonicalVariantsPerCycle 1) (max anchorVariantsPerCycle 1) fill
      candidates
      (firstPass displayAddress maxCandidates candidates canonicalVariantsPerCycle
        anchorVariantsPerCycle).selected
      (finalizeCandidatesWithTuning displayAddress maxCandidates candidates
        canonicalVariantsPerCycle anchorVariantsPerCycle fill) ∧
    (TellsAddresses displayAddress → SelectsBest CandidatePath.SameCycle
      CandidatePath.SameTokenCycle maxCandidates (max canonicalVariantsPerCycle 1)
      (max anchorVariantsPerCycle 1) fill candidates
      (firstPass displayAddress maxCandidates candidates canonicalVariantsPerCycle
        anchorVariantsPerCycle).selected
      (finalizeCandidatesWithTuning displayAddress maxCandidates candidates
        canonicalVariantsPerCycle anchorVariantsPerCycle fill)) := by
  have byKeys := selectsBest_byKeys displayAddress positive candidates
    canonicalVariantsPerCycle anchorVariantsPerCycle fill
  refine ⟨byKeys, fun tells => ?_⟩
  have sameCycle : (fun left right : CandidatePath =>
      canonicalAnchorPoolCycleKey displayAddress left =
        canonicalAnchorPoolCycleKey displayAddress right) = CandidatePath.SameCycle := by
    funext left right
    exact propext (tells.canonicalAnchorPoolCycleKey_eq_iff left right)
  have sameTokenCycle : (fun left right : CandidatePath =>
      canonicalTokenCycleKey displayAddress left =
        canonicalTokenCycleKey displayAddress right) = CandidatePath.SameTokenCycle := by
    funext left right
    exact propext (tells.canonicalTokenCycleKey_eq_iff left right)
  rwa [sameCycle, sameTokenCycle] at byKeys

end Whole

/-- Two paths through the same pool that start at different tokens are two cycles from an anchor,
and one of them is returned. -/
theorem selectsBest_twiceAround :
    SelectsBest CandidatePath.SameCycle CandidatePath.SameTokenCycle 1 1 1 true
      [twiceAround 1 2, twiceAround 2 1]
      (firstPass hexText 1 [twiceAround 1 2, twiceAround 2 1] 1 1).selected
      (finalizeCandidatesWithTuning hexText 1 [twiceAround 1 2, twiceAround 2 1] 1 1 true) :=
  (selectsBest_finalizeCandidatesWithTuning (Nat.le_refl 1) [twiceAround 1 2, twiceAround 2 1] 1 1
    true).2 tellsAddresses_hexText

end DexArbitrage
