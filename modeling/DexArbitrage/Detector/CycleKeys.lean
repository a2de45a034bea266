/-
This file is about the keys of cycles. A key joins the tokens and the pools of
the hops by separators. When an address is known by its text and no text holds
a separator, a key can be taken apart again.

The canonical keys start at the least rotation of the cycle, so they do not
depend on where a cycle starts, and tell exactly the cycles that are no
rotations of each other.
-/

import DexArbitrage.Detector.Selection
import DexArbitrage.Lib.Checksum
import DexArbitrage.Lib.Rotation

namespace DexArbitrage

/-- An address is known by its text, and no text holds a separator of the keys. -/
structure TellsAddresses (displayAddress : Address → String) : Prop where
  injective : Function.Injective displayAddress
  noSeparator : ∀ address, ∀ separator ∈ ['>', ':', '|'],
    separator ∉ (displayAddress address).toList

/-- The text of an address, for addresses whose digits are no letters. -/
def hexText (address : Address) : String :=
  String.ofList ('0' :: 'x' :: hexDigits 40 address.toNat)

theorem tellsAddresses_hexText : TellsAddresses hexText where
  injective := by
    intro first second same
    have characters := congrArg String.toList same
    unfold hexText at characters
    rw [String.toList_ofList, String.toList_ofList, List.cons.injEq, List.cons.injEq] at characters
    exact BitVec.eq_of_toNat_eq
      (hexDigits_injective first.isLt second.isLt characters.2.2)
  noSeparator := by
    intro address separator isSeparator member
    unfold hexText at member
    rw [String.toList_ofList] at member
    have digits : ∀ digit < 16, Nat.digitChar digit ∉ ['>', ':', '|'] := by decide
    rcases List.mem_cons.mp member with rfl | rest
    · exact absurd isSeparator (by decide)
    · rcases List.mem_cons.mp rest with rfl | inDigits
      · exact absurd isSeparator (by decide)
      · obtain ⟨digit, small, rfl⟩ := exists_digit_of_mem_hexDigits inDigits
        exact digits digit small isSeparator

section Texts

variable {displayAddress : Address → String}

/-! ### Taking a key apart -/

theorem toList_hopText (fromToken toToken poolId : Address) :
    (hopText displayAddress fromToken toToken poolId).toList =
      (displayAddress fromToken).toList ++
        '>' :: ((displayAddress toToken).toList ++ ':' :: (displayAddress poolId).toList) := by
  unfold hopText
  simp [String.toList_append]

theorem TellsAddresses.hopText_injective (tells : TellsAddresses displayAddress)
    {fromToken toToken poolId otherFrom otherTo otherPool : Address}
    (same : hopText displayAddress fromToken toToken poolId =
      hopText displayAddress otherFrom otherTo otherPool) :
    fromToken = otherFrom ∧ toToken = otherTo ∧ poolId = otherPool := by
  have characters := congrArg String.toList same
  rw [toList_hopText, toList_hopText] at characters
  have afterArrow : '>' ∉ (displayAddress toToken).toList ++
      ':' :: (displayAddress poolId).toList := by
    simp [tells.noSeparator toToken '>' (by decide), tells.noSeparator poolId '>' (by decide)]
  obtain ⟨sameFrom, _, rest⟩ := (List.append_cons_inj_of_notMem
    (tells.noSeparator fromToken '>' (by decide)) afterArrow).mp characters
  obtain ⟨sameTo, _, samePool⟩ := (List.append_cons_inj_of_notMem
    (tells.noSeparator toToken ':' (by decide)) (tells.noSeparator poolId ':' (by decide))).mp rest
  exact ⟨tells.injective (String.toList_inj.mp sameFrom),
    tells.injective (String.toList_inj.mp sameTo), tells.injective (String.toList_inj.mp samePool)⟩

theorem TellsAddresses.bar_notMem_hopTexts (tells : TellsAddresses displayAddress)
    (hops : List CandidateHop) : ∀ text ∈ hops.map (fun hop =>
      hopText displayAddress hop.fromToken hop.toToken hop.poolId), '|' ∉ text.toList := by
  intro text member
  obtain ⟨hop, _, isText⟩ := List.mem_map.mp member
  rw [← isText, toList_hopText]
  simp [tells.noSeparator hop.fromToken '|' (by decide),
    tells.noSeparator hop.toToken '|' (by decide), tells.noSeparator hop.poolId '|' (by decide)]

/-- Texts without a separator are known by the text that joins them with it. -/
theorem intercalate_eq_iff {separator : String} {mark : Char}
    (isMark : separator.toList = [mark]) {texts others : List String}
    (free : ∀ text ∈ texts, mark ∉ text.toList) (otherFree : ∀ text ∈ others, mark ∉ text.toList)
    (nonempty : texts ≠ []) (otherNonempty : others ≠ []) :
    String.intercalate separator texts = String.intercalate separator others ↔
      texts = others := by
  have split : ∀ joined : List String, (∀ text ∈ joined, mark ∉ text.toList) → joined ≠ [] →
      (String.intercalate separator joined).toList.splitOn mark = joined.map String.toList := by
    intro joined freeOfMarks someText
    rw [String.toList_intercalate, isMark]
    refine List.splitOn_intercalate mark ?_ fun empty => someText (List.map_eq_nil_iff.mp empty)
    intro characters member
    obtain ⟨text, listed, isText⟩ := List.mem_map.mp member
    exact isText ▸ freeOfMarks text listed
  refine ⟨fun same => ?_, congrArg _⟩
  have sameTexts := split texts free nonempty
  rw [same, split others otherFree otherNonempty] at sameTexts
  exact (List.map_injective_iff.mpr fun _ _ => String.toList_inj.mp) sameTexts.symm

end Texts

/-! ### Hops -/

/-- What the key of a route tells of a hop. -/
def CandidateHop.place (hop : CandidateHop) : Address × Address × Address :=
  (hop.fromToken, hop.toToken, hop.poolId)

/-- Routes with the same key have the same tokens and pools. -/
theorem map_place_eq_of_sameKey {displayAddress : Address → String}
    (tells : TellsAddresses displayAddress) {hops others : List CandidateHop}
    (nonempty : hops ≠ []) (otherNonempty : others ≠ [])
    (same : String.intercalate "|" (hops.map fun hop =>
        hopText displayAddress hop.fromToken hop.toToken hop.poolId) =
      String.intercalate "|" (others.map fun hop =>
        hopText displayAddress hop.fromToken hop.toToken hop.poolId)) :
    hops.map CandidateHop.place = others.map CandidateHop.place := by
  have sameTexts := (intercalate_eq_iff rfl (tells.bar_notMem_hopTexts hops)
    (tells.bar_notMem_hopTexts others) (fun empty => nonempty (List.map_eq_nil_iff.mp empty))
    (fun empty => otherNonempty (List.map_eq_nil_iff.mp empty))).mp same
  clear same nonempty otherNonempty
  induction hops generalizing others with
  | nil =>
    rw [List.map_eq_nil_iff.mp sameTexts.symm]
  | cons hop rest inductionHypothesis =>
    cases others with
    | nil => cases sameTexts
    | cons other others =>
      rw [List.map_cons, List.map_cons, List.cons.injEq] at sameTexts
      obtain ⟨sameFrom, sameTo, samePool⟩ := tells.hopText_injective sameTexts.1
      rw [List.map_cons, List.map_cons, inductionHypothesis sameTexts.2]
      unfold CandidateHop.place
      rw [sameFrom, sameTo, samePool]

/-! ### Canonical keys -/

/-- The comparisons walk the offsets from two starts, with positions modulo the length. -/
theorem compareCycleRotation_eq (tokens : List Address) (left right : Nat) :
    compareCycleRotation tokens left right =
      compareOffsets tokens left right (List.range tokens.length) :=
  (compareOffsets_range tokens left right).symm

theorem compareStringRotation_eq (entries : List String) (left right : Nat) :
    compareStringRotation entries left right =
      compareOffsets entries left right (List.range entries.length) :=
  (compareOffsets_range entries left right).symm

section Canonical

variable {displayAddress : Address → String}

theorem canonicalPoolCycleKey_eq {candidate : CandidatePath} (nonempty : candidate.path ≠ []) :
    canonicalPoolCycleKey displayAddress candidate =
      String.intercalate "|" (leastRotation (candidate.path.map fun hop =>
        hopText displayAddress hop.fromToken hop.toToken hop.poolId)) := by
  unfold canonicalPoolCycleKey
  rw [if_neg (by rwa [List.isEmpty_iff])]
  rfl

theorem TellsAddresses.placeText_injective (tells : TellsAddresses displayAddress) :
    Function.Injective fun place : Address × Address × Address =>
      hopText displayAddress place.1 place.2.1 place.2.2 := by
  rintro ⟨fromToken, toToken, poolId⟩ ⟨otherFrom, otherTo, otherPool⟩ same
  obtain ⟨rfl, rfl, rfl⟩ := tells.hopText_injective same
  rfl

theorem TellsAddresses.bar_notMem_leastRotation (tells : TellsAddresses displayAddress)
    (hops : List CandidateHop) : ∀ text ∈ leastRotation (hops.map fun hop =>
      hopText displayAddress hop.fromToken hop.toToken hop.poolId), '|' ∉ text.toList :=
  fun text member =>
    tells.bar_notMem_hopTexts hops text ((leastRotation_isRotated _).mem_iff.mp member)

theorem leastRotation_hopTexts_ne_nil {hops : List CandidateHop} (nonempty : hops ≠ []) :
    leastRotation (hops.map fun hop =>
      hopText displayAddress hop.fromToken hop.toToken hop.poolId) ≠ [] :=
  fun empty => nonempty (List.map_eq_nil_iff.mp (List.rotate_eq_nil_iff.mp empty))

theorem TellsAddresses.canonicalPoolCycleKey_eq_iff (tells : TellsAddresses displayAddress)
    {left right : CandidatePath} (leftHops : left.path ≠ []) (rightHops : right.path ≠ []) :
    canonicalPoolCycleKey displayAddress left = canonicalPoolCycleKey displayAddress right ↔
      (left.path.map CandidateHop.place).IsRotated (right.path.map CandidateHop.place) := by
  have places : ∀ hops : List CandidateHop, (hops.map fun hop =>
      hopText displayAddress hop.fromToken hop.toToken hop.poolId) =
      (hops.map CandidateHop.place).map fun place =>
        hopText displayAddress place.1 place.2.1 place.2.2 := by
    intro hops
    rw [List.map_map]
    rfl
  rw [canonicalPoolCycleKey_eq leftHops, canonicalPoolCycleKey_eq rightHops,
    intercalate_eq_iff rfl (tells.bar_notMem_leastRotation _) (tells.bar_notMem_leastRotation _)
      (leastRotation_hopTexts_ne_nil leftHops) (leastRotation_hopTexts_ne_nil rightHops),
    leastRotation_eq_iff, places, places, isRotated_map_iff tells.placeText_injective]

/-- A path without hops has a key of its own. -/
theorem TellsAddresses.canonicalPoolCycleKey_ne (tells : TellsAddresses displayAddress)
    {left right : CandidatePath} (leftEmpty : left.path = []) (rightHops : right.path ≠ []) :
    canonicalPoolCycleKey displayAddress left ≠ canonicalPoolCycleKey displayAddress right := by
  intro same
  have single : canonicalPoolCycleKey displayAddress left =
      String.intercalate "|" [displayAddress left.startToken] := by
    unfold canonicalPoolCycleKey
    rw [leftEmpty]
    rfl
  rw [single, canonicalPoolCycleKey_eq rightHops,
    intercalate_eq_iff rfl (List.forall_mem_singleton.mpr (tells.noSeparator _ '|' (by decide)))
      (tells.bar_notMem_leastRotation _) (List.cons_ne_nil _ _)
      (leastRotation_hopTexts_ne_nil rightHops)] at same
  have listed : displayAddress left.startToken ∈ leastRotation (right.path.map fun hop =>
      hopText displayAddress hop.fromToken hop.toToken hop.poolId) :=
    same ▸ List.mem_cons_self
  obtain ⟨hop, _, isText⟩ :=
    List.mem_map.mp ((leastRotation_isRotated _).mem_iff.mp listed)
  refine tells.noSeparator left.startToken '>' (by decide) ?_
  rw [← isText, toList_hopText]
  exact List.mem_append_right _ List.mem_cons_self

/-- The candidates start at the same token, and go through the same hops from some hop on. -/
def CandidatePath.SameCycle (left right : CandidatePath) : Prop :=
  left.startToken = right.startToken ∧
    (left.path.map CandidateHop.place).IsRotated (right.path.map CandidateHop.place)

/-- What stands before the first mark, and what stands after it, are known. -/
theorem append_mark_inj {Mark : Type} [DecidableEq Mark] {mark : Mark}
    {first second rest others : List Mark} (free : mark ∉ first) (otherFree : mark ∉ second)
    (same : first ++ mark :: rest = second ++ mark :: others) : first = second ∧ rest = others := by
  have cut : ∀ {before after : List Mark}, mark ∉ before →
      (before ++ mark :: after).takeWhile (· ≠ mark) = before := by
    intro before after absent
    have others : ∀ other ∈ before, decide (other ≠ mark) = true := by
      intro other member
      exact decide_eq_true fun isMark => absent (isMark ▸ member)
    rw [List.takeWhile_append_of_pos others, List.takeWhile_cons_of_neg (by simp), List.append_nil]
  have sameFirst : first = second := by
    rw [← cut free, same, cut otherFree]
  rw [sameFirst] at same
  injection List.append_cancel_left same with _ sameRest
  exact ⟨sameFirst, sameRest⟩

theorem TellsAddresses.canonicalAnchorPoolCycleKey_inj (tells : TellsAddresses displayAddress)
    {left right : CandidatePath}
    (same : canonicalAnchorPoolCycleKey displayAddress left =
      canonicalAnchorPoolCycleKey displayAddress right) :
    left.startToken = right.startToken ∧
      canonicalPoolCycleKey displayAddress left = canonicalPoolCycleKey displayAddress right := by
  have characters := congrArg String.toList same
  unfold canonicalAnchorPoolCycleKey at characters
  simp only [String.toList_append, List.append_assoc] at characters
  obtain ⟨sameStart, sameCycle⟩ := append_mark_inj (tells.noSeparator _ ':' (by decide))
    (tells.noSeparator _ ':' (by decide)) characters
  exact ⟨tells.injective (String.toList_inj.mp sameStart), String.toList_inj.mp sameCycle⟩

/-- The keys of two candidates are equal exactly when their cycles are the same. -/
theorem TellsAddresses.canonicalAnchorPoolCycleKey_eq_iff (tells : TellsAddresses displayAddress)
    (left right : CandidatePath) :
    canonicalAnchorPoolCycleKey displayAddress left =
        canonicalAnchorPoolCycleKey displayAddress right ↔ left.SameCycle right := by
  have sameKey : canonicalAnchorPoolCycleKey displayAddress left =
      canonicalAnchorPoolCycleKey displayAddress right ↔
      left.startToken = right.startToken ∧ canonicalPoolCycleKey displayAddress left =
        canonicalPoolCycleKey displayAddress right := by
    refine ⟨tells.canonicalAnchorPoolCycleKey_inj, fun ⟨sameStart, sameCycle⟩ => ?_⟩
    unfold canonicalAnchorPoolCycleKey
    rw [sameStart, sameCycle]
  rw [sameKey]
  refine and_congr_right fun sameStart => ?_
  by_cases leftHops : left.path = []
  · by_cases rightHops : right.path = []
    · unfold canonicalPoolCycleKey
      rw [leftHops, rightHops, sameStart]
      exact iff_of_true rfl (List.IsRotated.refl _)
    · refine iff_of_false (tells.canonicalPoolCycleKey_ne leftHops rightHops) ?_
      rw [leftHops, List.map_nil, List.isRotated_nil_iff', eq_comm, List.map_eq_nil_iff]
      exact rightHops
  · by_cases rightHops : right.path = []
    · refine iff_of_false (tells.canonicalPoolCycleKey_ne rightHops leftHops).symm ?_
      rw [rightHops, List.map_nil, List.isRotated_nil_iff, List.map_eq_nil_iff]
      exact leftHops
    · exact tells.canonicalPoolCycleKey_eq_iff leftHops rightHops

/-- The tokens of the cycle, as the key lists them. -/
def CandidatePath.keyTokens (candidate : CandidatePath) : List Address :=
  candidate.startToken ::
    (candidate.path.take (candidate.path.length - 1)).map CandidateHop.toToken

/-- The key closes the least rotation with its own first token. -/
theorem canonicalTokenCycleKey_eq (candidate : CandidatePath) :
    canonicalTokenCycleKey displayAddress candidate =
      String.intercalate ">" ((leastRotation candidate.keyTokens ++
        (leastRotation candidate.keyTokens).head?.toList).map displayAddress) := by
  have nonempty : candidate.keyTokens ≠ [] := List.cons_ne_nil _ _
  have closing : (leastRotation candidate.keyTokens).head? =
      candidate.keyTokens[leastStart candidate.keyTokens]? :=
    List.head?_rotate (leastStart_spec nonempty).1
  rw [closing]
  rfl

def CandidatePath.SameTokenCycle (left right : CandidatePath) : Prop :=
  left.keyTokens.IsRotated right.keyTokens

theorem TellsAddresses.canonicalTokenCycleKey_eq_iff (tells : TellsAddresses displayAddress)
    (left right : CandidatePath) :
    canonicalTokenCycleKey displayAddress left = canonicalTokenCycleKey displayAddress right ↔
      left.SameTokenCycle right := by
  have free : ∀ tokens : List Address, ∀ text ∈ tokens.map displayAddress, '>' ∉ text.toList := by
    intro tokens text member
    obtain ⟨token, _, isText⟩ := List.mem_map.mp member
    exact isText ▸ tells.noSeparator token '>' (by decide)
  have someToken : ∀ candidate : CandidatePath, leastRotation candidate.keyTokens ≠ [] :=
    fun candidate empty => List.cons_ne_nil _ _ (List.rotate_eq_nil_iff.mp empty)
  have someText : ∀ candidate : CandidatePath, (leastRotation candidate.keyTokens ++
      (leastRotation candidate.keyTokens).head?.toList).map displayAddress ≠ [] :=
    fun candidate empty => someToken candidate
      (List.append_eq_nil_iff.mp (List.map_eq_nil_iff.mp empty)).1
  have closes : ∀ candidate : CandidatePath,
      ((leastRotation candidate.keyTokens).head?.toList).length = 1 := by
    intro candidate
    rw [List.head?_eq_some_head (someToken candidate)]
    rfl
  rw [canonicalTokenCycleKey_eq, canonicalTokenCycleKey_eq,
    intercalate_eq_iff rfl (free _) (free _) (someText left) (someText right),
    (List.map_injective_iff.mpr tells.injective).eq_iff, CandidatePath.SameTokenCycle,
    ← leastRotation_eq_iff]
  constructor
  · exact fun same => (List.append_inj' same ((closes left).trans (closes right).symm)).1
  · intro same
    rw [same]

end Canonical

/-! ### Cycles of hops -/

/-- Every hop starts where the one before it ends, the first one at the start token, and the last
one ends there. -/
structure CandidatePath.ChainsIntoCycle (candidate : CandidatePath) : Prop where
  starts : candidate.path.head?.map CandidateHop.fromToken = some candidate.startToken
  chains : candidate.path.IsChain fun hop next => hop.toToken = next.fromToken
  closes : candidate.path.getLast?.map CandidateHop.toToken = some candidate.startToken

theorem map_toToken_dropLast {hop : CandidateHop} {rest : List CandidateHop}
    (chains : (hop :: rest).IsChain fun hop next => hop.toToken = next.fromToken) :
    (hop :: rest).dropLast.map CandidateHop.toToken = rest.map CandidateHop.fromToken := by
  induction rest generalizing hop with
  | nil => rfl
  | cons next rest inductionHypothesis =>
    rw [List.isChain_cons_cons] at chains
    rw [List.dropLast_cons_cons, List.map_cons, List.map_cons, inductionHypothesis chains.2,
      chains.1]

/-- On a cycle the key lists the token every hop starts from. -/
theorem CandidatePath.ChainsIntoCycle.keyTokens_eq {candidate : CandidatePath}
    (cycle : candidate.ChainsIntoCycle) :
    candidate.keyTokens = candidate.path.map CandidateHop.fromToken := by
  obtain ⟨starts, chains, _⟩ := cycle
  unfold CandidatePath.keyTokens
  rw [← List.dropLast_eq_take]
  cases hops : candidate.path with
  | nil =>
    rw [hops] at starts
    cases starts
  | cons hop rest =>
    rw [hops] at starts chains
    injection starts with starts
    rw [map_toToken_dropLast chains, List.map_cons, starts]

/-- The canonical keys of two candidates are equal exactly when their cycles are rotations of each
other. -/
theorem canonicalKeys_eq_iff {displayAddress : Address → String}
    (tells : TellsAddresses displayAddress) (left right : CandidatePath) :
    (left.path ≠ [] → right.path ≠ [] →
      (canonicalPoolCycleKey displayAddress left = canonicalPoolCycleKey displayAddress right ↔
        (left.path.map CandidateHop.place).IsRotated (right.path.map CandidateHop.place))) ∧
    (left.ChainsIntoCycle → right.ChainsIntoCycle →
      (canonicalTokenCycleKey displayAddress left = canonicalTokenCycleKey displayAddress right ↔
        (left.path.map CandidateHop.fromToken).IsRotated
          (right.path.map CandidateHop.fromToken))) := by
  refine ⟨tells.canonicalPoolCycleKey_eq_iff, fun leftCycle rightCycle => ?_⟩
  rw [tells.canonicalTokenCycleKey_eq_iff, CandidatePath.SameTokenCycle, leftCycle.keyTokens_eq,
    rightCycle.keyTokens_eq]

/-- A path that goes round twice through one pool, so that two of its rotations are least. -/
def twiceAround (token other : Address) : CandidatePath where
  snapshotId := 0
  startToken := token
  startSymbol := ""
  screeningScoreQ32 := 0
  routeCapacityUsdE8 := 0
  routeQualityBps := 0
  cycleKey := ""
  path := [⟨token, other, 7, .uniswapV2Like, ""⟩, ⟨other, token, 7, .uniswapV2Like, ""⟩,
    ⟨token, other, 7, .uniswapV2Like, ""⟩, ⟨other, token, 7, .uniswapV2Like, ""⟩]

/-- The keys do not tell from which of its tokens the path starts. -/
theorem canonicalKeys_twiceAround :
    canonicalPoolCycleKey hexText (twiceAround 1 2) =
        canonicalPoolCycleKey hexText (twiceAround 2 1) ∧
      canonicalTokenCycleKey hexText (twiceAround 1 2) =
        canonicalTokenCycleKey hexText (twiceAround 2 1) := by
  obtain ⟨pools, tokens⟩ :=
    canonicalKeys_eq_iff tellsAddresses_hexText (twiceAround 1 2) (twiceAround 2 1)
  exact ⟨(pools (List.cons_ne_nil _ _) (List.cons_ne_nil _ _)).mpr ⟨1, by decide⟩,
    (tokens ⟨by decide, by decide, by decide⟩ ⟨by decide, by decide, by decide⟩).mpr
      ⟨1, by decide⟩⟩

end DexArbitrage
