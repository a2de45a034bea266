/-
This file models how `src/engine.rs` starts: the edges that the first search is
told have changed. Of the edges between tokens that an anchor reaches and that
reach an anchor, every pair of tokens contributes its best one.

When neither pools nor a number of edges are asked for, nothing that could be
traded is left out: every simple cycle through an anchor whose edges are usable has
changed pairs only, so the first search finds all cycles that qualify and not just
those that some event has touched.
-/

import DexArbitrage.Detector.Completeness
import DexArbitrage.Lib.Folds
import DexArbitrage.Risk.Valuation

namespace DexArbitrage

/-! ### The edges of the first search -/

/-- The environment variables, parsed. No pools means all of them. -/
structure InitialRefreshSettings where
  targetPools : List Address
  maxEdges : Option Nat

/-- At most as many edges as are asked for. -/
def InitialRefreshSettings.truncated {Element : Type} (settings : InitialRefreshSettings)
    (ranked : List Element) : List Element :=
  match settings.maxEdges with
  | some limit => ranked.take limit
  | none => ranked

structure InitialEdgeCandidate where
  edgeRef : EdgeRef
  priority : Nat
  capacityUsdE8 : Nat
  capacityRaw : Nat
  confidenceBps : Nat
  weightLogQ32 : Int
  poolId : Address

/-- The answer is `none` when an index is out of range, which panics. -/
def InitialEdgeCandidate.fromEdge (snapshot : GraphSnapshot) (edgeRef : EdgeRef) (edge : Edge) :
    Option InitialEdgeCandidate := do
  let fromToken ← snapshot.tokens[edge.fromIdx]?
  let toToken ← snapshot.tokens[edge.toIdx]?
  return {
    edgeRef
    priority :=
      if fromToken.isCycleAnchor || toToken.isCycleAnchor then 0
      else if fromToken.manualPriceUsdE8.isSome && toToken.manualPriceUsdE8.isSome then 1
      else if fromToken.manualPriceUsdE8.isSome || toToken.manualPriceUsdE8.isSome then 2
      else 3
    capacityUsdE8 :=
      max ((amountToUsdE8 edge.liquidity.safeCapacityIn fromToken).getD 0)
        edge.liquidity.estimatedUsdE8
    capacityRaw := edge.liquidity.safeCapacityIn
    confidenceBps := edge.poolHealth.confidenceBps
    weightLogQ32 := edge.weightLogQ32
    poolId := edge.poolId }

/-- By priority, then the larger value first, then the higher confidence, then by rate, then the
larger capacity first, then by pool. -/
def compareInitialEdgeCandidate (left right : InitialEdgeCandidate) : Ordering :=
  (compare left.priority right.priority).then <|
    (compare right.capacityUsdE8 left.capacityUsdE8).then <|
      (compare right.confidenceBps left.confidenceBps).then <|
        (compare left.weightLogQ32 right.weightLogQ32).then <|
          (compare right.capacityRaw left.capacityRaw).then <|
            compare left.poolId.toNat right.poolId.toNat

section InitialRefresh

variable (settings : InitialRefreshSettings) (order : IterationOrder InitialEdgeCandidate)
  (snapshot : GraphSnapshot) (distanceCache : DistanceCache)

/-- The edge passes the checks of the inner loop. -/
def initialEdgePasses (edge : Edge) : Bool :=
  (settings.targetPools.isEmpty || decide (edge.poolId ∈ settings.targetPools)) &&
    distanceCache.reachableToAnchor[edge.toIdx]?.getD false &&
    !(decide (edge.spotRateQ128 = 0) || decide (edge.liquidity.safeCapacityIn = 0))

/-- The edges that the two loops look at and do not pass over. -/
def initialEdges : List (EdgeRef × Edge) :=
  snapshot.adjacency.zipIdx.flatMap fun (edges, fromIdx) =>
    if distanceCache.reachableFromAnchor[fromIdx]?.getD false then
      edges.zipIdx.filterMap fun (edge, edgeIdx) =>
        if initialEdgePasses settings distanceCache edge then
          some ({ fromIdx, edgeIdx }, edge)
        else
          none
    else
      []

/-- File an edge under its pair, unless one that ranks as well is there. -/
def noteInitialEdge (byPair : HashMap (Nat × Nat) InitialEdgeCandidate)
    (entry : (Nat × Nat) × InitialEdgeCandidate) : HashMap (Nat × Nat) InitialEdgeCandidate :=
  match byPair.lookup entry.1 with
  | none => byPair.insert entry.1 entry.2
  | some current =>
    if (compareInitialEdgeCandidate entry.2 current).isLT then
      byPair.insert entry.1 entry.2
    else
      byPair

/-- Every edge with its pair. -/
def initialCandidates : Option (List ((Nat × Nat) × InitialEdgeCandidate)) :=
  (initialEdges settings snapshot distanceCache).mapM fun (edgeRef, edge) => do
    let candidate ← InitialEdgeCandidate.fromEdge snapshot edgeRef edge
    return ((edge.fromIdx, edge.toIdx), candidate)

def initialEdgeRefs : Option (List EdgeRef) := do
  let candidates ← initialCandidates settings snapshot distanceCache
  let byPair := candidates.foldl noteInitialEdge ∅
  let ranked := sortBy compareInitialEdgeCandidate (order.order byPair.values)
  return (settings.truncated ranked).map InitialEdgeCandidate.edgeRef

/-! ### What is filed -/

variable {settings snapshot distanceCache}

theorem mem_initialEdges_iff {edgeRef : EdgeRef} {edge : Edge} :
    (edgeRef, edge) ∈ initialEdges settings snapshot distanceCache ↔
      snapshot.edge edgeRef = some edge ∧
        distanceCache.reachableFromAnchor[edgeRef.fromIdx]?.getD false = true ∧
        initialEdgePasses settings distanceCache edge = true := by
  unfold initialEdges GraphSnapshot.edge
  rw [List.mem_flatMap]
  constructor
  · rintro ⟨⟨edges, fromIdx⟩, row, listed⟩
    rw [List.mem_zipIdx_iff_getElem?] at row
    dsimp only at row listed
    split at listed
    · rename_i reached
      obtain ⟨⟨other, edgeIdx⟩, column, isEdge⟩ := List.mem_filterMap.mp listed
      rw [List.mem_zipIdx_iff_getElem?] at column
      dsimp only at column isEdge
      split at isEdge
      · rename_i passes
        cases isEdge
        exact ⟨by rw [row]; exact column, reached, passes⟩
      · cases isEdge
    · cases listed
  · rintro ⟨resolves, reached, passes⟩
    obtain ⟨edges, row, column⟩ := Option.bind_eq_some_iff.mp resolves
    refine ⟨(edges, edgeRef.fromIdx), List.mem_zipIdx_iff_getElem?.mpr row, ?_⟩
    dsimp only
    rw [if_pos reached]
    refine List.mem_filterMap.mpr
      ⟨(edge, edgeRef.edgeIdx), List.mem_zipIdx_iff_getElem?.mpr column, ?_⟩
    dsimp only
    rw [if_pos passes]

/-- Every candidate belongs to an edge that is looked at. -/
theorem exists_edge_of_initialCandidates
    {candidates : List ((Nat × Nat) × InitialEdgeCandidate)}
    (made : initialCandidates settings snapshot distanceCache = some candidates)
    {pair : Nat × Nat} {candidate : InitialEdgeCandidate}
    (member : (pair, candidate) ∈ candidates) :
    ∃ edge, (candidate.edgeRef, edge) ∈ initialEdges settings snapshot distanceCache ∧
      InitialEdgeCandidate.fromEdge snapshot candidate.edgeRef edge = some candidate ∧
      pair = (edge.fromIdx, edge.toIdx) := by
  obtain ⟨⟨edgeRef, edge⟩, listed, isCandidate⟩ :=
    exists_related_of_mem_right (forall₂_of_mapM made) member
  obtain ⟨own, fromEdge, same⟩ := Option.bind_eq_some_iff.mp isCandidate
  cases same
  have isMade : InitialEdgeCandidate.fromEdge snapshot edgeRef edge = some candidate := fromEdge
  obtain ⟨fromToken, _, rest⟩ := Option.bind_eq_some_iff.mp fromEdge
  obtain ⟨toToken, _, isOwn⟩ := Option.bind_eq_some_iff.mp rest
  cases isOwn
  exact ⟨edge, listed, isMade, rfl⟩

/-- Every edge that is looked at has a candidate under its pair. -/
theorem exists_candidate_of_mem_initialEdges
    {candidates : List ((Nat × Nat) × InitialEdgeCandidate)}
    (made : initialCandidates settings snapshot distanceCache = some candidates)
    {edgeRef : EdgeRef} {edge : Edge}
    (listed : (edgeRef, edge) ∈ initialEdges settings snapshot distanceCache) :
    ∃ candidate, InitialEdgeCandidate.fromEdge snapshot edgeRef edge = some candidate ∧
      ((edge.fromIdx, edge.toIdx), candidate) ∈ candidates := by
  obtain ⟨entry, member, isEntry⟩ := exists_related_of_mem (forall₂_of_mapM made) listed
  obtain ⟨candidate, isCandidate, same⟩ := Option.bind_eq_some_iff.mp isEntry
  cases same
  exact ⟨candidate, isCandidate, member⟩

theorem exists_fromEdge (edgeRef : EdgeRef) {edge : Edge}
    (fromInRange : edge.fromIdx < snapshot.tokens.length)
    (toInRange : edge.toIdx < snapshot.tokens.length) :
    ∃ candidate, InitialEdgeCandidate.fromEdge snapshot edgeRef edge = some candidate := by
  unfold InitialEdgeCandidate.fromEdge
  rw [List.getElem?_eq_getElem fromInRange, List.getElem?_eq_getElem toInRange]
  exact ⟨_, rfl⟩

/-- Where the edges lead from token to token, nothing panics. -/
theorem exists_initialCandidates
    (tokens : ∀ edgeRef edge, snapshot.edge edgeRef = some edge →
      edge.fromIdx < snapshot.tokens.length ∧ edge.toIdx < snapshot.tokens.length) :
    ∃ candidates, initialCandidates settings snapshot distanceCache = some candidates := by
  unfold initialCandidates
  have inRange : ∀ entry ∈ initialEdges settings snapshot distanceCache,
      entry.2.fromIdx < snapshot.tokens.length ∧ entry.2.toIdx < snapshot.tokens.length :=
    fun entry listed => tokens entry.1 entry.2 (mem_initialEdges_iff.mp listed).1
  generalize initialEdges settings snapshot distanceCache = entries at inRange ⊢
  induction entries with
  | nil => exact ⟨[], rfl⟩
  | cons entry rest inductionHypothesis =>
    obtain ⟨candidates, made⟩ :=
      inductionHypothesis fun other later => inRange other (List.mem_cons_of_mem _ later)
    obtain ⟨edgeRef, edge⟩ := entry
    have ends : edge.fromIdx < snapshot.tokens.length ∧ edge.toIdx < snapshot.tokens.length :=
      inRange (edgeRef, edge) List.mem_cons_self
    obtain ⟨candidate, isCandidate⟩ := exists_fromEdge edgeRef ends.1 ends.2
    rw [List.mapM_cons, made]
    dsimp only
    rw [isCandidate]
    exact ⟨_, rfl⟩

theorem exists_initialEdgeRefs
    (tokens : ∀ edgeRef edge, snapshot.edge edgeRef = some edge →
      edge.fromIdx < snapshot.tokens.length ∧ edge.toIdx < snapshot.tokens.length) :
    ∃ refs, initialEdgeRefs settings order snapshot distanceCache = some refs := by
  obtain ⟨candidates, made⟩ : ∃ candidates,
      initialCandidates settings snapshot distanceCache = some candidates :=
    exists_initialCandidates tokens
  unfold initialEdgeRefs
  rw [made]
  exact ⟨_, rfl⟩

/-! ### One candidate for each pair -/

theorem lookup_noteInitialEdge (byPair : HashMap (Nat × Nat) InitialEdgeCandidate)
    (entry : (Nat × Nat) × InitialEdgeCandidate) (pair : Nat × Nat) :
    (noteInitialEdge byPair entry).lookup pair = byPair.lookup pair ∨
      pair = entry.1 ∧ (noteInitialEdge byPair entry).lookup pair = some entry.2 := by
  unfold noteInitialEdge
  split
  · rw [HashMap.lookup_insert]
    split
    · rename_i own
      exact Or.inr ⟨own, rfl⟩
    · exact Or.inl rfl
  · split
    · rw [HashMap.lookup_insert]
      split
      · rename_i own
        exact Or.inr ⟨own, rfl⟩
      · exact Or.inl rfl
    · exact Or.inl rfl

/-- What is filed is a candidate of its pair. -/
theorem mem_of_lookup_noted {candidates : List ((Nat × Nat) × InitialEdgeCandidate)}
    {pair : Nat × Nat} {candidate : InitialEdgeCandidate}
    (filed : (candidates.foldl noteInitialEdge ∅).lookup pair = some candidate) :
    (pair, candidate) ∈ candidates := by
  have all : ∀ pair candidate,
      (candidates.foldl noteInitialEdge ∅).lookup pair = some candidate →
      (pair, candidate) ∈ candidates := by
    refine foldl_keeps (fun byPair : HashMap (Nat × Nat) InitialEdgeCandidate =>
      ∀ pair candidate, byPair.lookup pair = some candidate → (pair, candidate) ∈ candidates)
      (fun entry member byPair now pair candidate found => ?_) fun pair candidate none => ?_
    · rcases lookup_noteInitialEdge byPair entry pair with same | ⟨own, isEntry⟩
      · exact now pair candidate (same ▸ found)
      · rw [isEntry] at found
        cases found
        rw [own]
        exact member
    · rw [AList.lookup_empty] at none
      cases none
  exact all pair candidate filed

/-! ### The best of each pair -/

theorem compareInitialEdgeCandidate_eq :
    compareInitialEdgeCandidate =
      compareLex (compareOn InitialEdgeCandidate.priority) (compareLex
        (fun left right => compareOn InitialEdgeCandidate.capacityUsdE8 right left) (compareLex
          (fun left right => compareOn InitialEdgeCandidate.confidenceBps right left) (compareLex
            (compareOn InitialEdgeCandidate.weightLogQ32) (compareLex
              (fun left right => compareOn InitialEdgeCandidate.capacityRaw right left)
              (compareOn fun candidate : InitialEdgeCandidate =>
                candidate.poolId.toNat))))) := rfl

instance : Std.TransCmp compareInitialEdgeCandidate := by
  rw [compareInitialEdgeCandidate_eq]
  infer_instance

/-- A candidate that has been offered is not ranked before the one that is filed. -/
theorem exists_best_noted {candidates : List ((Nat × Nat) × InitialEdgeCandidate)}
    {pair : Nat × Nat} {candidate : InitialEdgeCandidate}
    (member : (pair, candidate) ∈ candidates) :
    ∃ best, (candidates.foldl noteInitialEdge ∅).lookup pair = some best ∧
      (compareInitialEdgeCandidate best candidate).isLE = true := by
  refine foldl_reaches
    (fun byPair : HashMap (Nat × Nat) InitialEdgeCandidate =>
      ∃ best, byPair.lookup pair = some best ∧
        (compareInitialEdgeCandidate best candidate).isLE = true)
    (fun entry _ byPair now => ?_) member (fun byPair => ?_) ∅
  · obtain ⟨best, filed, notAfter⟩ := now
    unfold noteInitialEdge
    cases current : byPair.lookup entry.1 with
    | none =>
      refine ⟨best, ?_, notAfter⟩
      dsimp only
      rw [HashMap.lookup_insert, if_neg, filed]
      intro own
      rw [own, current] at filed
      cases filed
    | some stored =>
      dsimp only
      split
      · rename_i better
        rw [HashMap.lookup_insert]
        split
        · rename_i own
          rw [own, current] at filed
          cases filed
          refine ⟨entry.2, rfl, Std.TransCmp.isLE_trans ?_ notAfter⟩
          exact Ordering.isLE_of_eq_lt (Ordering.isLT_iff_eq_lt.mp better)
        · exact ⟨best, filed, notAfter⟩
      · exact ⟨best, filed, notAfter⟩
  · unfold noteInitialEdge
    cases current : byPair.lookup pair with
    | none =>
      dsimp only
      rw [HashMap.lookup_insert, if_pos rfl]
      exact ⟨candidate, rfl, Std.ReflCmp.isLE_rfl⟩
    | some stored =>
      dsimp only
      split
      · rw [HashMap.lookup_insert, if_pos rfl]
        exact ⟨candidate, rfl, Std.ReflCmp.isLE_rfl⟩
      · rename_i notBetter
        refine ⟨stored, current, ?_⟩
        by_contra above
        exact notBetter (Ordering.isLT_iff_eq_lt.mpr (Std.OrientedCmp.lt_of_not_isLE above))

/-- The ends of an edge of the snapshot. -/
def pairOf (snapshot : GraphSnapshot) (edgeRef : EdgeRef) : Option (Nat × Nat) :=
  (snapshot.edge edgeRef).map fun edge => (edge.fromIdx, edge.toIdx)

/-- The first edge does not rank behind the second. -/
def RanksNoLater (snapshot : GraphSnapshot) (first second : EdgeRef) : Prop :=
  ∃ firstEdge secondEdge firstCandidate secondCandidate,
    snapshot.edge first = some firstEdge ∧ snapshot.edge second = some secondEdge ∧
    InitialEdgeCandidate.fromEdge snapshot first firstEdge = some firstCandidate ∧
    InitialEdgeCandidate.fromEdge snapshot second secondEdge = some secondCandidate ∧
    (compareInitialEdgeCandidate firstCandidate secondCandidate).isLE = true

variable (settings snapshot distanceCache) in
/-- One best edge of each pair, and of the pairs the best as far as the limit reaches. -/
structure SelectsInitialEdges (refs : List EdgeRef) : Prop where
  lookedAt : ∀ edgeRef ∈ refs, ∃ edge,
    (edgeRef, edge) ∈ initialEdges settings snapshot distanceCache
  onePerPair : (refs.map (pairOf snapshot)).Nodup
  best : ∀ edgeRef ∈ refs, ∀ other edge,
    (other, edge) ∈ initialEdges settings snapshot distanceCache →
      pairOf snapshot edgeRef = pairOf snapshot other → RanksNoLater snapshot edgeRef other
  leftOut : ∀ other edge, (other, edge) ∈ initialEdges settings snapshot distanceCache →
    pairOf snapshot other ∉ refs.map (pairOf snapshot) →
      settings.maxEdges = some refs.length ∧
        ∀ edgeRef ∈ refs, RanksNoLater snapshot edgeRef other

theorem pairOf_of_mem {edgeRef : EdgeRef} {edge : Edge}
    (listed : (edgeRef, edge) ∈ initialEdges settings snapshot distanceCache) :
    pairOf snapshot edgeRef = some (edge.fromIdx, edge.toIdx) := by
  unfold pairOf
  rw [(mem_initialEdges_iff.mp listed).1]
  rfl

/-- What is filed under a pair is an edge of the pair that is looked at. -/
theorem exists_edge_of_filed {candidates : List ((Nat × Nat) × InitialEdgeCandidate)}
    (made : initialCandidates settings snapshot distanceCache = some candidates)
    {pair : Nat × Nat} {candidate : InitialEdgeCandidate}
    (filed : (candidates.foldl noteInitialEdge ∅).lookup pair = some candidate) :
    ∃ edge, (candidate.edgeRef, edge) ∈ initialEdges settings snapshot distanceCache ∧
      InitialEdgeCandidate.fromEdge snapshot candidate.edgeRef edge = some candidate ∧
      pairOf snapshot candidate.edgeRef = some pair := by
  obtain ⟨edge, listed, isCandidate, isPair⟩ :=
    exists_edge_of_initialCandidates made (mem_of_lookup_noted filed)
  exact ⟨edge, listed, isCandidate, (pairOf_of_mem listed).trans (congrArg some isPair.symm)⟩

/-- A filed candidate does not rank behind any edge of its pair that is looked at. -/
theorem ranksNoLater_of_filed {candidates : List ((Nat × Nat) × InitialEdgeCandidate)}
    (made : initialCandidates settings snapshot distanceCache = some candidates)
    {filed best : InitialEdgeCandidate} {filedPair : Nat × Nat} {edgeRef : EdgeRef} {edge : Edge}
    (isFiled : (candidates.foldl noteInitialEdge ∅).lookup filedPair = some filed)
    (isBest : (candidates.foldl noteInitialEdge ∅).lookup (edge.fromIdx, edge.toIdx) = some best)
    (before : (compareInitialEdgeCandidate filed best).isLE = true)
    (listed : (edgeRef, edge) ∈ initialEdges settings snapshot distanceCache) :
    RanksNoLater snapshot filed.edgeRef edgeRef := by
  obtain ⟨filedEdge, filedListed, filedMade, _⟩ := exists_edge_of_filed made isFiled
  obtain ⟨candidate, isCandidate, member⟩ := exists_candidate_of_mem_initialEdges made listed
  obtain ⟨other, isOther, notAfter⟩ := exists_best_noted member
  have same : other = best := Option.some.inj (isOther.symm.trans isBest)
  exact ⟨filedEdge, edge, filed, candidate, (mem_initialEdges_iff.mp filedListed).1,
    (mem_initialEdges_iff.mp listed).1, filedMade, isCandidate,
    Std.TransCmp.isLE_trans before (same ▸ notAfter)⟩

/-- Something is left out only when the limit is reached. -/
theorem InitialRefreshSettings.exists_truncated {Element : Type}
    (settings : InitialRefreshSettings) (ranked : List Element) :
    ∃ dropped, ranked = settings.truncated ranked ++ dropped ∧
      (dropped ≠ [] → settings.maxEdges = some (settings.truncated ranked).length) := by
  unfold InitialRefreshSettings.truncated
  cases settings.maxEdges with
  | none => exact ⟨[], (List.append_nil ranked).symm, fun some => absurd rfl some⟩
  | some limit =>
    refine ⟨ranked.drop limit, (List.take_append_drop limit ranked).symm, fun more => ?_⟩
    have longer : limit < ranked.length := by
      by_contra short
      exact more (List.drop_of_length_le (Nat.le_of_not_lt short))
    dsimp only
    rw [List.length_take_of_le (Nat.le_of_lt longer)]

/-- No two filed candidates have the same ends. -/
theorem nodup_pairs_filed {candidates : List ((Nat × Nat) × InitialEdgeCandidate)}
    (made : initialCandidates settings snapshot distanceCache = some candidates) :
    ((candidates.foldl noteInitialEdge ∅).values.map
      fun candidate => pairOf snapshot candidate.edgeRef).Nodup := by
  have pairs : (candidates.foldl noteInitialEdge ∅).values.map
      (fun candidate => pairOf snapshot candidate.edgeRef) =
        (candidates.foldl noteInitialEdge ∅).keys.map some := by
    unfold HashMap.values AList.keys List.keys
    rw [List.map_map, List.map_map]
    refine List.map_congr_left fun entry member => ?_
    have filed : (candidates.foldl noteInitialEdge ∅).lookup entry.1 = some entry.2 :=
      (HashMap.lookup_eq_some_iff _ _ _).mpr member
    obtain ⟨_, _, _, isPair⟩ := exists_edge_of_filed made filed
    exact isPair
  rw [pairs]
  exact (AList.keys_nodup _).map (Option.some_injective _)

/-- Whatever the order of the map, the best edge of each pair is taken, and the limit cuts off
the pairs that rank last. -/
theorem initialEdgeRefs_best {refs : List EdgeRef}
    (selected : initialEdgeRefs settings order snapshot distanceCache = some refs) :
    SelectsInitialEdges settings snapshot distanceCache refs := by
  unfold initialEdgeRefs at selected
  obtain ⟨candidates, made, cut⟩ := Option.bind_eq_some_iff.mp selected
  cases cut
  obtain ⟨dropped, isRanked, full⟩ := settings.exists_truncated
    (sortBy compareInitialEdgeCandidate
      (order.order (candidates.foldl noteInitialEdge ∅).values))
  generalize settings.truncated (sortBy compareInitialEdgeCandidate
    (order.order (candidates.foldl noteInitialEdge ∅).values)) = kept at isRanked full ⊢
  have filed : ∀ candidate, candidate ∈ kept ++ dropped ↔
      ∃ pair, (candidates.foldl noteInitialEdge ∅).lookup pair = some candidate := by
    intro candidate
    rw [← isRanked, mem_sortBy, (order.perm _).mem_iff, HashMap.mem_values]
  have sorted : (kept ++ dropped).Pairwise fun left right =>
      (compareInitialEdgeCandidate left right).isLE := by
    rw [← isRanked]
    exact pairwise_sortBy _
  have nodup : ((kept ++ dropped).map fun candidate =>
      pairOf snapshot candidate.edgeRef).Nodup := by
    rw [← isRanked]
    exact (((perm_sortBy _ _).trans (order.perm _)).map _).nodup_iff.mpr (nodup_pairs_filed made)
  refine ⟨?_, ?_, ?_, ?_⟩
  · intro edgeRef member
    obtain ⟨candidate, isKept, rfl⟩ := List.mem_map.mp member
    obtain ⟨pair, isFiled⟩ := (filed candidate).mp (List.mem_append_left _ isKept)
    obtain ⟨edge, listed, _, _⟩ := exists_edge_of_filed made isFiled
    exact ⟨edge, listed⟩
  · rw [List.map_append] at nodup
    rw [List.map_map]
    exact (List.nodup_append.mp nodup).1
  · intro edgeRef member other edge listed samePair
    obtain ⟨candidate, isKept, rfl⟩ := List.mem_map.mp member
    obtain ⟨pair, isFiled⟩ := (filed candidate).mp (List.mem_append_left _ isKept)
    obtain ⟨_, _, _, isPair⟩ := exists_edge_of_filed made isFiled
    rw [isPair, pairOf_of_mem listed] at samePair
    exact ranksNoLater_of_filed made isFiled (Option.some.inj samePair ▸ isFiled)
      Std.ReflCmp.isLE_rfl listed
  · intro other edge listed missing
    obtain ⟨candidate, _, member⟩ := exists_candidate_of_mem_initialEdges made listed
    obtain ⟨best, isBest, _⟩ := exists_best_noted member
    have isDropped : best ∈ dropped := by
      rcases List.mem_append.mp ((filed best).mpr ⟨_, isBest⟩) with isKept | isDropped
      · obtain ⟨_, _, _, isPair⟩ := exists_edge_of_filed made isBest
        refine absurd ?_ missing
        rw [pairOf_of_mem listed, ← isPair]
        exact List.mem_map_of_mem (List.mem_map_of_mem isKept)
      · exact isDropped
    refine ⟨?_, fun edgeRef isRef => ?_⟩
    · rw [List.length_map]
      exact full (List.ne_nil_of_mem isDropped)
    · obtain ⟨stays, isKept, rfl⟩ := List.mem_map.mp isRef
      obtain ⟨pair, isFiled⟩ := (filed stays).mp (List.mem_append_left _ isKept)
      exact ranksNoLater_of_filed made isFiled isBest
        ((List.pairwise_append.mp sorted).2.2 stays isKept best isDropped) listed

/-! ### The first search -/

variable {order}

/-- Without a limit, every pair of tokens with an edge that is looked at has a changed edge. -/
theorem isChangedPair_of_mem_initialEdges {refs : List EdgeRef}
    (selected : initialEdgeRefs settings order snapshot distanceCache = some refs)
    (unlimited : settings.maxEdges = none) {edgeRef : EdgeRef} {edge : Edge}
    (listed : (edgeRef, edge) ∈ initialEdges settings snapshot distanceCache) :
    IsChangedPair snapshot refs edge := by
  unfold initialEdgeRefs at selected
  obtain ⟨candidates, made, kept⟩ := Option.bind_eq_some_iff.mp selected
  unfold InitialRefreshSettings.truncated at kept
  rw [unlimited] at kept
  cases kept
  obtain ⟨candidate, _, member⟩ := exists_candidate_of_mem_initialEdges made listed
  obtain ⟨best, filed, _⟩ := exists_best_noted member
  obtain ⟨other, isOther, _, samePair⟩ :=
    exists_edge_of_initialCandidates made (mem_of_lookup_noted filed)
  refine ⟨best.edgeRef, List.mem_map_of_mem ?_, other, (mem_initialEdges_iff.mp isOther).1,
    samePair⟩
  rw [mem_sortBy, (order.perm _).mem_iff, HashMap.mem_values]
  exact ⟨_, filed⟩

/-- A usable edge that an anchor reaches and that reaches an anchor is looked at, unless pools are
asked for. -/
theorem mem_initialEdges_of_usable (wellIndexed : snapshot.WellIndexed)
    (anyPool : settings.targetPools = []) {finder : PathFinder} {now : SystemTime}
    {minTradeRawByToken : List (Option Nat)} {edgeRef : EdgeRef} {edge : Edge}
    (resolves : snapshot.edge edgeRef = some edge)
    (usable : edgeIsUsable finder minTradeRawByToken now edge = true)
    (fromAnchor : distanceCache.reachableFromAnchor[edge.fromIdx]? = some true)
    (toAnchor : distanceCache.reachableToAnchor[edge.toIdx]? = some true) :
    (edgeRef, edge) ∈ initialEdges settings snapshot distanceCache := by
  have tradable : ¬ (edge.spotRateQ128 = 0 ∨ edge.liquidity.safeCapacityIn = 0) := by
    intro dead
    unfold edgeIsUsable at usable
    rw [if_pos dead] at usable
    cases usable
  refine mem_initialEdges_iff.mpr ⟨resolves, ?_, ?_⟩
  · rw [← wellIndexed.rowsOwned edgeRef edge resolves, fromAnchor]
    rfl
  · unfold initialEdgePasses
    rw [anyPool, toAnchor]
    simpa [not_or] using tradable

end InitialRefresh

/-! ### Completeness of the first search -/

section FirstSearch

variable (finder : PathFinder) (context : SearchContext) (snapshot : GraphSnapshot)
  (refs : List EdgeRef)

/-- A simple cycle that qualifies, whether any of its pairs has changed or not. -/
structure TradableCycle (anchor : Nat) (edgeRefs : List EdgeRef) (edges : List Edge) : Prop where
  isAnchor : anchor ∈ snapshot.cycleAnchorIndices
  resolves : edgeRefs.map snapshot.edge = edges.map some
  cycle : IsSimpleCycle Edge.fromIdx Edge.toIdx anchor edges
  fewHops : edges.length ≤ finder.maxHops
  usable : ∀ edgeRef ∈ edgeRefs, ∀ edge, snapshot.edge edgeRef = some edge →
    AlwaysUsable finder context (minTradeRawByToken snapshot finder.minTradeUsdE8) edgeRef edge
  scoreFits : ∀ before edge after, edges = before ++ edge :: after → ScoreFits before edge after
  belowCutoff : (edges.map Edge.weightLogQ32).sum < finder.screeningCutoffQ32
  tokensAllowed : routeTokensAllowed context.env snapshot anchor edgeRefs
    (executionTokenPolicy context.env snapshot) = true
  capacity : useRouteCapacityFilter context refs = true →
    routeHasMinStartCapacity finder context snapshot anchor edgeRefs = true

variable {finder context snapshot refs} {distanceCache : DistanceCache}
  {settings : InitialRefreshSettings} {order : IterationOrder InitialEdgeCandidate}

/-- The first edge of a cycle through an anchor is marked at both of its ends. -/
theorem TradableCycle.exists_marked {anchor : Nat} {edgeRefs : List EdgeRef} {edges : List Edge}
    (tradable : TradableCycle finder context snapshot refs anchor edgeRefs edges)
    (marks : MarksOf snapshot distanceCache) :
    ∃ edgeRef ∈ edgeRefs, ∃ edge ∈ edges, snapshot.edge edgeRef = some edge ∧
      distanceCache.reachableFromAnchor[edge.fromIdx]? = some true ∧
      distanceCache.reachableToAnchor[edge.toIdx]? = some true := by
  obtain ⟨edge, after, isEdges⟩ := List.exists_cons_of_ne_nil tradable.cycle.nonempty
  have member : edge ∈ edges := isEdges ▸ List.mem_cons_self
  obtain ⟨edgeRef, isRef, resolves⟩ := exists_element_of_mem tradable.resolves member
  have closed := tradable.cycle
  rw [isEdges, ← List.nil_append (edge :: after)] at closed
  obtain ⟨starts, _, goesBack, _⟩ := closed.parts
  have resolve : ∀ later ∈ after, ∃ laterRef, snapshot.edge laterRef = some later := by
    intro later isLater
    have inCycle : later ∈ edges := isEdges ▸ List.mem_cons_of_mem _ isLater
    obtain ⟨laterRef, _, isEdge⟩ := exists_element_of_mem tradable.resolves inCycle
    exact ⟨laterRef, isEdge⟩
  refine ⟨edgeRef, isRef, edge, member, resolves, ?_, ?_⟩
  · have leaves : anchor = edge.fromIdx := starts
    rw [← leaves]
    exact marks.fromAnchor.anchors anchor tradable.isAnchor
  · exact marks.toAnchor.of_walk_back goesBack resolve
      (marks.toAnchor.anchors anchor tradable.isAnchor)

/-- A cycle that qualifies has a pair that the first search is told has changed. -/
theorem TradableCycle.qualifies {anchor : Nat} {edgeRefs : List EdgeRef} {edges : List Edge}
    (tradable : TradableCycle finder context snapshot refs anchor edgeRefs edges)
    (wellIndexed : snapshot.WellIndexed) (marks : MarksOf snapshot distanceCache)
    (selected : initialEdgeRefs settings order snapshot distanceCache = some refs)
    (anyPool : settings.targetPools = []) (unlimited : settings.maxEdges = none) :
    QualifyingCycle finder context snapshot refs anchor edgeRefs edges where
  isAnchor := tradable.isAnchor
  resolves := tradable.resolves
  cycle := tradable.cycle
  fewHops := tradable.fewHops
  usable := tradable.usable
  changed := by
    obtain ⟨edgeRef, isRef, edge, member, resolves, fromAnchor, toAnchor⟩ :=
      tradable.exists_marked marks
    have listed : (edgeRef, edge) ∈ initialEdges settings snapshot distanceCache :=
      mem_initialEdges_of_usable wellIndexed anyPool resolves
        (tradable.usable edgeRef isRef edge resolves (.outgoing 0 edgeRef) rfl) fromAnchor toAnchor
    exact ⟨edge, member, isChangedPair_of_mem_initialEdges selected unlimited listed⟩
  scoreFits before edge after split _ := tradable.scoreFits before edge after split
  belowCutoff := tradable.belowCutoff
  tokensAllowed := tradable.tokensAllowed
  capacity := tradable.capacity

end FirstSearch

/-- Every tradable cycle has been collected, and its key only once. -/
def CollectsTradable (finder : PathFinder) (context : SearchContext) (snapshot : GraphSnapshot)
    (refs : List EdgeRef) (progress : SearchProgress) : Prop :=
  ∀ anchor edgeRefs edges, TradableCycle finder context snapshot refs anchor edgeRefs edges →
    (∃ candidate ∈ progress.candidates,
      IsCandidateOf context snapshot candidate anchor edgeRefs edges) ∧
    (progress.candidates.map CandidatePath.cycleKey).count
      (routeCycleKey context.displayAddress snapshot edgeRefs) = 1

/-- The first search finds every simple cycle through an anchor that can be traded, touched by an
event or not, when the start is not told to leave pools or edges out. -/
theorem firstSearch_complete (rates : FloatRates) (snapshotId : Nat) (blockRef : Option BlockRef)
    (tokens : List TokenInfo) (pools : HashMap Address PoolState) (finder : PathFinder)
    (context : SearchContext) (filed : PoolsFiled pools) (distinct : TokensDistinct pools)
    (tells : TellsAddresses context.displayAddress) (settings : InitialRefreshSettings)
    (order : IterationOrder InitialEdgeCandidate) (anyPool : settings.targetPools = [])
    (unlimited : settings.maxEdges = none)
    (limits : LimitsDoNotBind finder (GraphSnapshot.build rates snapshotId blockRef tokens pools))
    (noMerge : finder.tuning.dedupTokenPaths = false) :
    ∃ distanceCache refs,
      DistanceCache.recompute (GraphSnapshot.build rates snapshotId blockRef tokens pools) =
        some distanceCache ∧
      initialEdgeRefs settings order (GraphSnapshot.build rates snapshotId blockRef tokens pools)
        distanceCache = some refs ∧
      ((∀ progress, collectCandidates finder context
        (GraphSnapshot.build rates snapshotId blockRef tokens pools) refs distanceCache ≠
          .error (.returned progress)) →
        ∃ progress, collectCandidates finder context
          (GraphSnapshot.build rates snapshotId blockRef tokens pools) refs distanceCache =
            .ok progress ∧
          CollectsTradable finder context
            (GraphSnapshot.build rates snapshotId blockRef tokens pools) refs progress) := by
  obtain ⟨distanceCache, recomputed, fromAnchor, toAnchor⟩ : ∃ cache, DistanceCache.recompute
      (GraphSnapshot.build rates snapshotId blockRef tokens pools) = some cache ∧ _ ∧ _ :=
    GraphSnapshot.exists_recompute
  have searchable : Searchable context.displayAddress
      (GraphSnapshot.build rates snapshotId blockRef tokens pools) :=
    searchable_build filed distinct tells
  have marks : MarksOf (GraphSnapshot.build rates snapshotId blockRef tokens pools)
      distanceCache := ⟨fromAnchor, toAnchor⟩
  obtain ⟨refs, selected⟩ : ∃ refs, initialEdgeRefs settings order
      (GraphSnapshot.build rates snapshotId blockRef tokens pools) distanceCache = some refs :=
    exists_initialEdgeRefs order searchable.tokens
  refine ⟨distanceCache, refs, recomputed, selected, fun noReturn => ?_⟩
  have collects : LeadsTo (CollectsAll finder context
      (GraphSnapshot.build rates snapshotId blockRef tokens pools) refs) SearchEnd.IsReturn
      (collectCandidates finder context
        (GraphSnapshot.build rates snapshotId blockRef tokens pools) refs distanceCache) :=
    collectsAll_collectCandidates searchable limits noMerge marks
  cases ended : collectCandidates finder context
      (GraphSnapshot.build rates snapshotId blockRef tokens pools) refs distanceCache with
  | error early =>
    rw [ended] at collects
    obtain ⟨early, returned⟩ := collects
    exact (noReturn early (returned ▸ ended)).elim
  | ok progress =>
    rw [ended] at collects
    refine ⟨progress, rfl, fun anchor edgeRefs edges tradable => ?_⟩
    exact collects anchor edgeRefs edges
      (tradable.qualifies searchable.wellIndexed marks selected anyPool unlimited)

/-- On the ring of three deep pools all six edges are told to have changed. -/
theorem firstSearch_complete_ring :
    ∃ distanceCache refs, DistanceCache.recompute deepRingSnapshot = some distanceCache ∧
      initialEdgeRefs { targetPools := [], maxEdges := none } inStoredOrder deepRingSnapshot
        distanceCache = some refs ∧
      ((∀ progress, collectCandidates roomyFinder hexContext deepRingSnapshot refs
        distanceCache ≠ .error (.returned progress)) →
        ∃ progress, collectCandidates roomyFinder hexContext deepRingSnapshot refs
          distanceCache = .ok progress ∧
          CollectsTradable roomyFinder hexContext deepRingSnapshot refs progress) ∧
      refs.length = 6 := by
  have limits : LimitsDoNotBind roomyFinder deepRingSnapshot :=
    limitsDoNotBind_of_counts (fun _ _ resolves => GraphSnapshot.inRange_of_edge resolves)
      (by decide +kernel) (by decide +kernel)
  obtain ⟨distanceCache, refs, recomputed, selected, complete⟩ :=
    firstSearch_complete ratioRates 1 none deepRingTokens deepRingPools roomyFinder hexContext
      (fun _ _ found => (deepRingPool_of_lookup found).1)
      (fun _ _ found => (deepRingPool_of_lookup found).2) tellsAddresses_hexText
      { targetPools := [], maxEdges := none } inStoredOrder rfl rfl limits rfl
  refine ⟨distanceCache, refs, recomputed, selected, complete, ?_⟩
  have marks : DistanceCache.recompute deepRingSnapshot = some ringDistances := by decide +kernel
  have isCache : ringDistances = distanceCache := Option.some.inj (marks.symm.trans recomputed)
  have six : (initialEdgeRefs { targetPools := [], maxEdges := none } inStoredOrder
      deepRingSnapshot ringDistances).map List.length = some 6 := by decide +kernel
  rw [isCache] at six
  have counted : Option.map List.length (some refs) = some 6 := selected ▸ six
  exact Option.some.inj counted

/-- Of the six pairs of the ring, two are asked for. -/
theorem initialEdgeRefs_best_ring :
    ∃ refs, initialEdgeRefs { targetPools := [], maxEdges := some 2 } backwards deepRingSnapshot
        ringDistances = some refs ∧
      SelectsInitialEdges { targetPools := [], maxEdges := some 2 } deepRingSnapshot
        ringDistances refs ∧
      refs.length = 2 := by
  have two : (initialEdgeRefs { targetPools := [], maxEdges := some 2 } backwards
      deepRingSnapshot ringDistances).map List.length = some 2 := by decide +kernel
  obtain ⟨refs, selected, counted⟩ := Option.map_eq_some_iff.mp two
  exact ⟨refs, selected, initialEdgeRefs_best backwards selected, counted⟩

end DexArbitrage
