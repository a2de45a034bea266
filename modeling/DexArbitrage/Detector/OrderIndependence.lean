/-
This file settles when the candidates of a detection do not depend on the order
of its hash maps. As long as the comparisons tell apart the edges that a run
lists, every other run lists the same edges in the same order, finds the same
paths and collects the same candidates. What is left is the map of the token
paths, whose order reaches the final ranking; the ranking undoes it when
candidates that tie belong to one token path.

Both ways in which the order can show are met by examples at the end: edges of
one pool that tie and lead to different tokens, and cycles over different tokens
that tie.
-/

import DexArbitrage.Detector.ChangedPairs
import DexArbitrage.Detector.SearchInStep
import DexArbitrage.Detector.SelectionLimits
import DexArbitrage.Detector.Soundness

namespace DexArbitrage

open Std

/-! ### The map of the token paths -/

/-- Stored candidates that tie belong to one token path. -/
def TellsPathsApart (stored : HashMap String (List CandidatePath)) : Prop :=
  ∀ left ∈ stored.entries, ∀ right ∈ stored.entries,
    ∀ candidate ∈ left.2, ∀ other ∈ right.2,
      candidateOrdering candidate other = .eq → left.1 = right.1

theorem tellsPathsApart_of_length_le_one {stored : HashMap String (List CandidatePath)}
    (few : stored.entries.length ≤ 1) : TellsPathsApart stored := by
  intro left inLeft right inRight _ _ _ _ _
  obtain ⟨first, onlyFirst⟩ | none := (Nat.le_one_iff_eq_zero_or_eq_one.mp few).symm.imp
    List.length_eq_one_iff.mp List.length_eq_zero_iff.mp
  · rw [onlyFirst, List.mem_singleton] at inLeft inRight
    rw [inLeft, inRight]
  · rw [none] at inLeft
    cases inLeft

/-- The final ranking does not see the order of the token paths. -/
theorem sortBy_flattenCandidateMap_eq {stored : HashMap String (List CandidatePath)}
    (apart : TellsPathsApart stored) (firstContext secondContext : SearchContext) :
    sortBy candidateOrdering (flattenCandidateMap firstContext stored) =
      sortBy candidateOrdering (flattenCandidateMap secondContext stored) := by
  refine sortBy_eq_of_tiedWith fun between => ?_
  have firstPerm := firstContext.variantsOrder.perm stored.values
  have secondPerm := secondContext.variantsOrder.perm stored.values
  unfold flattenCandidateMap tiedWith
  rw [List.filter_flatten, List.filter_flatten, ← List.flatMap_def, ← List.flatMap_def]
  refine flatMap_eq_of_perm (firstPerm.trans secondPerm.symm)
    fun left inLeft right inRight leftPart rightPart => ?_
  obtain ⟨leftKey, leftStored⟩ := (HashMap.mem_values _ _).mp (firstPerm.mem_iff.mp inLeft)
  obtain ⟨rightKey, rightStored⟩ := (HashMap.mem_values _ _).mp (firstPerm.mem_iff.mp inRight)
  obtain ⟨candidate, leftTied⟩ := List.exists_mem_of_ne_nil _ leftPart
  obtain ⟨other, rightTied⟩ := List.exists_mem_of_ne_nil _ rightPart
  rw [List.mem_filter, Ordering.isEq_iff_eq_eq] at leftTied rightTied
  have tied : candidateOrdering candidate other = .eq :=
    TransCmp.eq_trans (OrientedCmp.eq_comm.mp leftTied.2) rightTied.2
  have sameKey : leftKey = rightKey :=
    apart ⟨leftKey, left⟩ ((HashMap.lookup_eq_some_iff _ _ _).mp leftStored) ⟨rightKey, right⟩
      ((HashMap.lookup_eq_some_iff _ _ _).mp rightStored) candidate leftTied.1 other rightTied.1
      tied
  rw [sameKey, rightStored] at leftStored
  injection leftStored with same
  exact same.symm

/-! ### The loops in step -/

section Loops

variable {finder : PathFinder} {firstContext secondContext : SearchContext}
  {firstSnapshot secondSnapshot : GraphSnapshot} {firstEdges secondEdges : List EdgeRef}
  {distanceCache : DistanceCache}
  (inStep : InStep finder firstContext secondContext firstSnapshot secondSnapshot firstEdges
    secondEdges distanceCache)

include inStep

theorem visitRoute_inStep {anchorIdx : Nat} {firstChange secondChange : (Nat × Nat) × EdgeRef}
    (changed : SameChange firstSnapshot secondSnapshot firstChange secondChange)
    {firstPathRef secondPathRef : EdgeRef}
    (sameEdge : SameEdge firstSnapshot secondSnapshot firstPathRef secondPathRef)
    {firstPrefix secondPrefix firstSuffix secondSuffix : SearchPath}
    (prefixes : SamePath firstSnapshot secondSnapshot firstPrefix secondPrefix)
    (suffixes : SamePath firstSnapshot secondSnapshot firstSuffix secondSuffix)
    (progress : SearchProgress) :
    visitRoute finder firstContext firstSnapshot firstEdges anchorIdx firstChange.1.2
        firstChange.2 firstPathRef firstPrefix firstSuffix progress =
      visitRoute finder secondContext secondSnapshot secondEdges anchorIdx firstChange.1.2
        secondChange.2 secondPathRef secondPrefix secondSuffix progress := by
  have route := forall₂_routeEdgeRefs prefixes sameEdge suffixes
  have resolves : firstSnapshot.edge firstPathRef = secondSnapshot.edge secondPathRef := sameEdge
  have sameCycle : formsSimpleCycle firstPrefix firstChange.1.2 firstSuffix =
      formsSimpleCycle secondPrefix firstChange.1.2 secondSuffix := by
    unfold formsSimpleCycle
    rw [prefixes.tokens, suffixes.tokens]
  unfold visitRoute
  dsimp only
  rw [← prefixes.edgeRefs.length_eq, ← suffixes.edgeRefs.length_eq, ← sameCycle, ← resolves,
    ← prefixes.scoreQ32, ← suffixes.scoreQ32, ← inStep.displayAddress,
    ← routeCycleKey_inStep _ inStep.tokens route]
  refine congrArg (ite _ _) (congrArg (ite _ _) ?_)
  cases firstSnapshot.edge firstPathRef with
  | none => rfl
  | some edge =>
    dsimp only
    rw [← inStep.materializeCandidate anchorIdx _ _ route changed]
    unfold acceptCandidate
    rw [← inStep.selectionBudget, ← inStep.displayAddress]

theorem visitAnchor_inStep {firstChange secondChange : (Nat × Nat) × EdgeRef}
    (changed : SameChange firstSnapshot secondSnapshot firstChange secondChange)
    (pairEdges : List.Forall₂ (SameEdge firstSnapshot secondSnapshot)
      (candidatePairEdges finder firstContext firstSnapshot
        (minTradeRawByToken firstSnapshot finder.minTradeUsdE8) firstChange.1.1 firstChange.1.2)
      (candidatePairEdges finder secondContext secondSnapshot
        (minTradeRawByToken secondSnapshot finder.minTradeUsdE8) firstChange.1.1 firstChange.1.2))
    {anchorIdx : Nat} {progress : SearchProgress}
    (visits : anchorCanParticipate firstSnapshot anchorIdx firstChange.1.1 firstChange.1.2 = true →
      VisitsAnchor finder firstContext firstSnapshot firstEdges distanceCache firstChange
        anchorIdx) :
    visitAnchor finder firstContext firstSnapshot firstEdges firstChange.1.1 firstChange.1.2
        firstChange.2 (candidatePairEdges finder firstContext firstSnapshot
          (minTradeRawByToken firstSnapshot finder.minTradeUsdE8) firstChange.1.1 firstChange.1.2)
        progress anchorIdx =
      visitAnchor finder secondContext secondSnapshot secondEdges firstChange.1.1 firstChange.1.2
        secondChange.2 (candidatePairEdges finder secondContext secondSnapshot
          (minTradeRawByToken secondSnapshot finder.minTradeUsdE8) firstChange.1.1
          firstChange.1.2) progress anchorIdx := by
  have sameAnchor : anchorCanParticipate firstSnapshot anchorIdx firstChange.1.1 firstChange.1.2 =
      anchorCanParticipate secondSnapshot anchorIdx firstChange.1.1 firstChange.1.2 := by
    unfold anchorCanParticipate
    rw [inStep.deadEnds]
  unfold visitAnchor
  dsimp only
  rw [← sameAnchor]
  split
  · rfl
  · rename_i participates
    have visits := visits (by simpa using participates)
    have prefixes := inStep.findTopPaths (.prefixes visits)
    rw [← isEmpty_eq_of_forall₂ prefixes]
    -- Without a path to the pair, none from it is looked for.
    by_cases none : findTopPaths finder firstContext firstSnapshot
        (minTradeRawByToken firstSnapshot finder.minTradeUsdE8) anchorIdx firstChange.1.1
        (finder.maxHops - 1) = []
    · simp [none]
    · have suffixes := inStep.findTopPaths (.suffixes visits none)
      rw [← isEmpty_eq_of_forall₂ suffixes]
      refine congrArg (ite _ _) (foldlM_eq_of_forall₂ pairEdges ?_)
      intro firstPathRef secondPathRef progress _ sameEdge
      refine foldlM_eq_of_forall₂ prefixes ?_
      intro firstPrefix secondPrefix progress _ samePrefix
      refine foldlM_eq_of_forall₂ suffixes ?_
      intro firstSuffix secondSuffix progress _ sameSuffix
      exact visitRoute_inStep inStep changed sameEdge samePrefix sameSuffix progress

theorem visitPair_inStep {firstChange secondChange : (Nat × Nat) × EdgeRef}
    (changed : SameChange firstSnapshot secondSnapshot firstChange secondChange)
    {progress : SearchProgress}
    (reaches : ReachesPair finder firstContext firstSnapshot firstEdges distanceCache firstChange
      progress) :
    visitPair finder firstContext firstSnapshot firstEdges distanceCache progress firstChange =
      visitPair finder secondContext secondSnapshot secondEdges distanceCache progress
        secondChange := by
  unfold visitPair
  rw [← changed.pair]
  split
  · rfl
  · rfl
  · rename_i fromAnchor
    split
    · rfl
    · rfl
    · rename_i toAnchor
      have lists : ListsPair finder firstContext firstSnapshot firstEdges distanceCache firstChange
          progress := ⟨reaches, fromAnchor, toAnchor⟩
      have pairEdges := inStep.pairEdges firstChange progress lists
      dsimp only
      rw [← isEmpty_eq_of_forall₂ pairEdges, ← inStep.cycleAnchorIndices]
      split
      · rfl
      · rename_i someEdge
        have sameAnchors : List.Forall₂ Eq firstSnapshot.cycleAnchorIndices
            firstSnapshot.cycleAnchorIndices := List.forall₂_same.mpr fun _ _ => rfl
        refine foldlM_eq_of_forall₂ sameAnchors ?_
        rintro anchorIdx _ current loopReaches rfl
        refine visitAnchor_inStep inStep changed pairEdges fun participates => ?_
        exact ⟨progress, current, lists, fun none => someEdge (by rw [none]; rfl), loopReaches,
          participates⟩

/-- Two searches in step collect the same candidates. -/
theorem collectCandidates_inStep :
    collectCandidates finder firstContext firstSnapshot firstEdges distanceCache =
      collectCandidates finder secondContext secondSnapshot secondEdges distanceCache := by
  have noChanges : firstEdges.isEmpty = secondEdges.isEmpty := by
    rw [Bool.eq_iff_iff, List.isEmpty_iff_length_eq_zero, List.isEmpty_iff_length_eq_zero,
      inStep.changedCount]
  unfold collectCandidates
  dsimp only
  rw [← noChanges, ← isEmpty_eq_of_forall₂ inStep.changedPairs]
  split
  · rfl
  · rename_i goesOn
    refine congrArg (ite _ _) (foldlM_eq_of_forall₂ inStep.changedPairs ?_)
    intro firstChange secondChange progress loopReaches changed
    exact visitPair_inStep inStep changed
      ⟨Nat.le_of_not_lt fun short => goesOn (Or.inl short), loopReaches⟩

theorem finalizeCandidates_inStep {progress : SearchProgress}
    (apart : finder.tuning.dedupTokenPaths = true →
      TellsPathsApart progress.tokenPathCandidates) :
    finalizeCandidates finder firstContext (progress.collected finder firstContext) =
      finalizeCandidates finder secondContext (progress.collected finder secondContext) := by
  have sorted : sortBy candidateOrdering (progress.collected finder firstContext) =
      sortBy candidateOrdering (progress.collected finder secondContext) := by
    unfold SearchProgress.collected
    split
    · rename_i merges
      exact sortBy_flattenCandidateMap_eq (apart merges) firstContext secondContext
    · rfl
  unfold finalizeCandidates finalizeCandidatesWithTuning
  rw [inStep.displayAddress, inStep.env, sorted]

/-- Two searches in step return the same candidates, when the first one tells the token paths apart
that it ends with. -/
theorem findCandidates_inStep
    (apart : finder.tuning.dedupTokenPaths = true → ∀ progress ∈ endedWith
      (collectCandidates finder firstContext firstSnapshot firstEdges distanceCache),
      TellsPathsApart progress.tokenPathCandidates) :
    findCandidates finder firstContext firstSnapshot firstEdges distanceCache =
      findCandidates finder secondContext secondSnapshot secondEdges distanceCache := by
  have collected := collectCandidates_inStep inStep
  rw [findCandidates_eq, findCandidates_eq, ← collected]
  exact Option.map_congr fun progress ended =>
    finalizeCandidates_inStep inStep fun merges => apart merges progress ended

end Loops

/-! ### The runs of a detection -/

theorem forall₂_sameEdge_of_resolves {firstSnapshot secondSnapshot : GraphSnapshot}
    {firstRefs secondRefs : List EdgeRef} {edges : List Edge}
    (firstResolves : firstSnapshot.Resolves firstRefs edges)
    (secondResolves : secondSnapshot.Resolves secondRefs edges) :
    List.Forall₂ (SameEdge firstSnapshot secondSnapshot) firstRefs secondRefs := by
  induction firstResolves generalizing secondRefs with
  | nil =>
    cases secondResolves
    exact .nil
  | cons firstHead _ inductionHypothesis =>
    cases secondResolves with
    | cons secondHead secondRest =>
      exact .cons (firstHead.trans secondHead.symm) (inductionHypothesis secondRest)

theorem map_edge_eq {firstSnapshot secondSnapshot : GraphSnapshot}
    {firstRefs secondRefs : List EdgeRef}
    (same : List.Forall₂ (SameEdge firstSnapshot secondSnapshot) firstRefs secondRefs) :
    firstRefs.map firstSnapshot.edge = secondRefs.map secondSnapshot.edge := by
  induction same with
  | nil => rfl
  | cons head _ inductionHypothesis =>
    rw [List.map_cons, List.map_cons, inductionHypothesis]
    exact congrArg (· :: _) head

namespace Detection

variable {detection : Detection}

theorem forall₂_sameChange (first second : HashOrders detection) :
    List.Forall₂ (SameChange (detection.snapshot first) (detection.snapshot second))
      (changedVirtualPairs (detection.context first) (detection.snapshot first)
        (detection.changedEdges first))
      (changedVirtualPairs (detection.context second) (detection.snapshot second)
        (detection.changedEdges second)) := by
  have changed : ∀ orders : HashOrders detection,
      ∀ change ∈ changedVirtualPairs (detection.context orders) (detection.snapshot orders)
        (detection.changedEdges orders), ∃ edge,
          (detection.snapshot orders).edge change.2 = some edge ∧
            (edge.fromIdx, edge.toIdx) = change.1 :=
    fun _ _ member => (mem_changedVirtualPairs member).2
  refine (forall₂_of_map_eq (sameChangedPairs first second) (changed first)
    (changed second)).imp ?_
  rintro firstChange secondChange ⟨sameScore, firstEdge, secondEdge⟩
  exact ⟨(Prod.ext_iff.mp sameScore).1, firstEdge, secondEdge⟩

/-- The stored order leaves no tie to a hash map: not among the edges of a changed pair or of a
token, where the search lists them, and not among the candidates of different token paths, where
their map is flattened. -/
structure BreaksTies (detection : Detection) (distanceCache : DistanceCache) : Prop where
  pairs : ∀ change progress, ListsPair detection.finder (detection.context (.stored detection))
    (detection.snapshot (.stored detection)) (detection.changedEdges (.stored detection))
    distanceCache change progress → detection.TiesInOnePool (detection.isOfPair change.1)
  tokens : ∀ vertex, ListsToken detection.finder (detection.context (.stored detection))
    (detection.snapshot (.stored detection)) (detection.changedEdges (.stored detection))
    distanceCache vertex → detection.TellsTokenApart vertex
  paths : detection.finder.tuning.dedupTokenPaths = true → ∀ progress ∈ endedWith
    (collectCandidates detection.finder (detection.context (.stored detection))
      (detection.snapshot (.stored detection)) (detection.changedEdges (.stored detection))
      distanceCache), TellsPathsApart progress.tokenPathCandidates

/-- A run that breaks all ties and any other run are in step. -/
theorem BreaksTies.inStep {distanceCache : DistanceCache}
    (breaks : detection.BreaksTies distanceCache) (orders : HashOrders detection) :
    InStep detection.finder (detection.context (.stored detection)) (detection.context orders)
      (detection.snapshot (.stored detection)) (detection.snapshot orders)
      (detection.changedEdges (.stored detection)) (detection.changedEdges orders)
      distanceCache where
  snapshotId := rfl
  tokens := rfl
  cycleAnchorIndices := rfl
  deadEnds := by
    intro vertex
    have row : ∀ orders : HashOrders detection,
        ((detection.snapshot orders).adjacency[vertex]?).getD [] =
          (detection.builtEdges orders).filter fun edge => edge.fromIdx = vertex :=
      fun _ => GraphSnapshot.row_build vertex
    rw [row (.stored detection), row orders]
    exact ((builtEdges_perm (.stored detection) orders).filter _).isEmpty_eq
  outgoing := by
    intro vertex lists
    obtain ⟨edges, firstResolves, secondResolves⟩ :=
      (breaks.tokens vertex lists).virtualOutgoing_resolves (.stored detection) orders
    exact forall₂_sameEdge_of_resolves firstResolves secondResolves
  pairEdges := by
    intro change progress lists
    have secondResolves : (detection.snapshot orders).Resolves _
        (detection.pairEdges orders change.1) := resolves_candidatePairEdges change.1.1 change.1.2
    have same : detection.pairEdges (.stored detection) change.1 =
        detection.pairEdges orders change.1 := (breaks.pairs change progress lists).pairEdges_eq
    rw [← same] at secondResolves
    exact forall₂_sameEdge_of_resolves (resolves_candidatePairEdges change.1.1 change.1.2)
      secondResolves
  changedPairs := forall₂_sameChange (.stored detection) orders
  changedCount := length_changedEdges (.stored detection) orders
  clock := by
    intro start target firstRefs secondRefs firstRef secondRef sameRefs sameEdge
    have resolves : (detection.snapshot (.stored detection)).edge firstRef =
        (detection.snapshot orders).edge secondRef := sameEdge
    show detection.clock (.extending start target
      (firstRefs.map (detection.snapshot (.stored detection)).edge)
      ((detection.snapshot (.stored detection)).edge firstRef)) = _
    rw [map_edge_eq sameRefs, resolves]
    rfl
  displayAddress := rfl
  routeStartCapacityRaw := by
    intro firstRefs secondRefs sameRefs
    exact congrArg detection.routeStartCapacityRaw (map_edge_eq sameRefs)
  env := rfl

/-- In the run that visits the maps as they are stored, every step leaves no tie to a hash map. -/
def StepsBreakTies (detection : Detection) : Prop :=
  ∀ distanceCache, DistanceCache.recompute (detection.snapshot (.stored detection)) =
    some distanceCache → detection.BreaksTies distanceCache

theorem StepsBreakTies.run_eq_stored (breaks : detection.StepsBreakTies)
    (orders : HashOrders detection) :
    detection.run (.stored detection) = detection.run orders := by
  have marks : DistanceCache.recompute (detection.snapshot (.stored detection)) =
      DistanceCache.recompute (detection.snapshot orders) :=
    GraphSnapshot.recompute_build_eq orders.samePools
  unfold run
  rw [← marks]
  cases recomputed : DistanceCache.recompute (detection.snapshot (.stored detection)) with
  | none => rfl
  | some distanceCache =>
    have breaks := breaks distanceCache recomputed
    exact findCandidates_inStep (breaks.inStep orders) breaks.paths

end Detection

/-- The candidates do not depend on the order of the hash maps, for any tokens, pools, changed pools
and settings, when no step of the search leaves a tie to it. -/
theorem detection_orderIndependent (detection : Detection) (breaks : detection.StepsBreakTies) :
    detection.OrderIndependent := by
  intro first second
  unfold Detection.found
  rw [← breaks.run_eq_stored first, ← breaks.run_eq_stored second]

/-! ### Two ways round over one token path -/

/-- The pools of the paths that a run returns. -/
def Detection.poolsFound (detection : Detection) (orders : HashOrders detection) :
    List (List Address) :=
  ((detection.run orders).getD []).map fun candidate => candidate.path.map CandidateHop.poolId

/-- The edges of the pools, each with the identifier of its pool. -/
def Detection.pooledEdges (detection : Detection) : List (Address × Edge) :=
  detection.pools.entries.flatMap fun entry =>
    (detection.edgesOf entry.2).map fun edge => (entry.1, edge)

theorem Detection.mem_pooledEdges {detection : Detection} {poolId : Address} {pool : PoolState}
    {edge : Edge} (found : detection.pools.lookup poolId = some pool)
    (ofPool : edge ∈ detection.edgesOf pool) : (poolId, edge) ∈ detection.pooledEdges :=
  List.mem_flatMap.mpr ⟨⟨poolId, pool⟩, (HashMap.lookup_eq_some_iff _ _ _).mp found,
    List.mem_map_of_mem ofPool⟩

/-- A pool is filed once, and from a token it leads to no two others. -/
def Detection.PairsOnly (detection : Detection) : Prop :=
  ∀ left ∈ detection.pooledEdges, ∀ right ∈ detection.pooledEdges,
    left.2.fromIdx = right.2.fromIdx → left.2.poolId.toNat = right.2.poolId.toNat →
      left.1 = right.1 ∧ left.2.toIdx = right.2.toIdx

instance (detection : Detection) : Decidable detection.PairsOnly := by
  unfold Detection.PairsOnly
  infer_instance

namespace Detection.PairsOnly

variable {detection : Detection} (pairsOnly : detection.PairsOnly)

include pairsOnly

theorem tiesInOnePool {test : Edge → Bool} {vertex : Nat}
    (leaves : ∀ edge, test edge = true → edge.fromIdx = vertex) : detection.TiesInOnePool test := by
  intro leftId left rightId right leftFound rightFound edge ofLeft other ofRight isEdge isOther
  exact fun tied => (pairsOnly (leftId, edge) (mem_pooledEdges leftFound ofLeft) (rightId, other)
    (mem_pooledEdges rightFound ofRight) ((leaves edge isEdge).trans (leaves other isOther).symm)
    (poolId_eq_of_compareEdges_eq tied)).1

theorem tellsTokenApart (vertex : Nat) : detection.TellsTokenApart vertex where
  onePool := fun toIdx => pairsOnly.tiesInOnePool fun edge isEdge => by
    simp only [leads, Bool.and_eq_true, decide_eq_true_eq] at isEdge
    exact isEdge.2.1
  oneTarget := by
    have pooled : ∀ toIdx, ∀ edge ∈ detection.outgoingEdges (.stored detection) vertex toIdx,
        ∃ poolId, (poolId, edge) ∈ detection.pooledEdges ∧ edge.fromIdx = vertex ∧
          edge.toIdx = toIdx := by
      intro toIdx edge member
      obtain ⟨inRanked, selected⟩ := List.mem_filter.mp (mem_of_mem_keepBest member)
      rw [mem_sortBy] at inRanked
      obtain ⟨isBuilt, leaves⟩ := List.mem_filter.mp inRanked
      simp only [Bool.and_eq_true, decide_eq_true_eq] at selected leaves
      obtain ⟨poolId, pool, found, ofPool⟩ := exists_edgesOf isBuilt
      exact ⟨poolId, mem_pooledEdges found ofPool, leaves, selected.2⟩
    intro leftIdx rightIdx edge isEdge other isOther tied
    obtain ⟨leftId, inLeft, edgeLeaves, edgeArrives⟩ := pooled leftIdx edge isEdge
    obtain ⟨rightId, inRight, otherLeaves, otherArrives⟩ := pooled rightIdx other isOther
    have same := (pairsOnly (leftId, edge) inLeft (rightId, other) inRight
      (edgeLeaves.trans otherLeaves.symm) (poolId_eq_of_compareEdges_eq tied)).2
    exact edgeArrives.symm.trans (same.trans otherArrives)

end Detection.PairsOnly

/-- A cycle over two tokens whose second step has two equal pools. -/
def twinSteps : Detection where
  rates := ratioRates
  snapshotId := 1
  blockRef := none
  tokens := ringTokens
  pools := HashMap.ofList
    [(0x10, ringPool 0x10 1 2), (0x20, ringPool 0x20 2 1), (0x21, ringPool 0x21 2 1)]
  changedPools := [0x10]
  finder := ringFinder
  clock _ := 500
  displayAddress := hexText
  routeStartCapacityRaw := startCapacityOfEdges
  env := ringContext.env

def twinStepsDistances : DistanceCache where
  snapshotId := 1
  reachableFromAnchor := [true, true, false]
  reachableToAnchor := [true, true, false]

theorem stepsBreakTies_twinSteps : twinSteps.StepsBreakTies := by
  have pairsOnly : twinSteps.PairsOnly := by decide +kernel
  have marks : DistanceCache.recompute (twinSteps.snapshot (.stored twinSteps)) =
      some twinStepsDistances := by decide +kernel
  have few : ∀ progress ∈ endedWith (collectCandidates twinSteps.finder
      (twinSteps.context (.stored twinSteps)) (twinSteps.snapshot (.stored twinSteps))
      (twinSteps.changedEdges (.stored twinSteps)) twinStepsDistances),
      progress.tokenPathCandidates.entries.length ≤ 1 := by decide +kernel
  intro distanceCache recomputed
  rw [marks] at recomputed
  injection recomputed with isCache
  rw [← isCache]
  exact {
    pairs := fun change _ _ => pairsOnly.tiesInOnePool fun edge isEdge => by
      simp only [Detection.isOfPair, Bool.and_eq_true, decide_eq_true_eq] at isEdge
      exact congrArg Prod.fst isEdge.2
    tokens := fun vertex _ => pairsOnly.tellsTokenApart vertex
    paths := fun _ progress ended => tellsPathsApart_of_length_le_one (few progress ended) }

/-- Both ways round are found, in whatever order the maps are visited. -/
theorem detection_orderIndependent_twinSteps :
    twinSteps.poolsFound (.stored twinSteps) = [[0x10, 0x20], [0x10, 0x21]] ∧
      twinSteps.OrderIndependent :=
  ⟨by decide +kernel, detection_orderIndependent twinSteps stepsBreakTies_twinSteps⟩

/-! ### Ties that the order of a map decides -/

/-- A path over pools that only one of two runs returns refutes order independence. -/
theorem Detection.not_orderIndependent {detection : Detection} {first second : HashOrders detection}
    {pools : List Address} (returned : pools ∈ detection.poolsFound first)
    (missed : pools ∉ detection.poolsFound second) : ¬ detection.OrderIndependent := by
  intro independent
  have same := independent first second
  unfold poolsFound at returned missed
  unfold found at same
  obtain ⟨candidate, member, rfl⟩ := List.mem_map.mp returned
  cases firstRun : detection.run first with
  | none =>
    rw [firstRun] at member
    exact nomatch member
  | some firstFound =>
    cases secondRun : detection.run second with
    | none =>
      rw [firstRun, secondRun] at same
      exact nomatch same
    | some secondFound =>
      rw [firstRun, secondRun] at same
      rw [firstRun] at member
      rw [secondRun] at missed
      have inSecond : candidate ∈ secondFound :=
        (Set.ext_iff.mp (Option.some.inj same) candidate).mp member
      exact missed (List.mem_map_of_mem inSecond)

/-- Two cycles from one token over two others through equal pools, of which one may be returned. -/
def tiedCycles : Detection where
  rates := ratioRates
  snapshotId := 1
  blockRef := none
  tokens := ringTokens
  pools := HashMap.ofList
    [(0x10, ringPool 0x10 1 2), (0x20, ringPool 0x20 2 1), (0x11, ringPool 0x11 1 3),
      (0x21, ringPool 0x21 3 1)]
  changedPools := [0x10, 0x11]
  finder :=
    { ringFinder with
      tuning :=
        { ringFinder.tuning with
          maxCandidatesPerRefresh := 1
          candidateSelectionBufferMultiplier := 4 } }
  clock _ := 500
  displayAddress := hexText
  routeStartCapacityRaw := startCapacityOfEdges
  env := ringContext.env

/-- A pool of three tokens with equal balances. -/
def triPool : PoolState :=
  { ringPool 0x30 1 2 with
    kind := .curvePlain
    tokenAddresses := [1, 2, 3]
    state := .curvePlain
      { balances := [1000, 1000, 1000], amp := 100, fee := 400, supportsUnderlying := false } }

/-- A token whose two best edges belong to `triPool`, of which one may be listed. -/
def tiedEdges : Detection where
  rates := ratioRates
  snapshotId := 1
  blockRef := none
  tokens := [ringToken 1, ringToken 2, ringToken 3, ringToken 4]
  pools := HashMap.ofList
    [(0x22, ringPool 0x22 2 4), (0x23, ringPool 0x23 3 4), (0x30, triPool),
      (0x40, ringPool 0x40 4 1)]
  changedPools := [0x40]
  finder :=
    { ringFinder with
      tuning :=
        { ringFinder.tuning with
          maxVirtualBranchesPerNode := 1
          dedupTokenPaths := false } }
  clock _ := 500
  displayAddress := hexText
  routeStartCapacityRaw := startCapacityOfEdges
  env := ringContext.env

/-- The order of the token paths picks one of the tied cycles, and the order of the grouped edges
one of the tied edges. -/
theorem not_orderIndependent_ties :
    ¬ tiedCycles.OrderIndependent ∧ ¬ tiedEdges.OrderIndependent := by
  constructor
  · have returned : [0x11, 0x21] ∈ tiedCycles.poolsFound (.stored tiedCycles) := by decide +kernel
    have missed : [0x11, 0x21] ∉ tiedCycles.poolsFound
        { HashOrders.stored tiedCycles with variants := backwards } := by decide +kernel
    exact Detection.not_orderIndependent returned missed
  · have returned : [0x30, 0x23, 0x40] ∈ tiedEdges.poolsFound (.stored tiedEdges) := by
      decide +kernel
    have missed : [0x30, 0x23, 0x40] ∉ tiedEdges.poolsFound
        { HashOrders.stored tiedEdges with outgoing := fun _ => backwards } := by decide +kernel
    exact Detection.not_orderIndependent returned missed

end DexArbitrage
