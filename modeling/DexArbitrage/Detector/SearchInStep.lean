/-
This file runs two searches in step. Each of them has its own snapshot and its
own lists, but the lists of edges that the first one comes to resolve to the
same edges in the second one, and what they read depends on the edges alone.
Then they find the same paths, by the same edges, and make the same candidates
of them.
-/

import DexArbitrage.Detector.SearchSteps

namespace DexArbitrage

/-- Two references that resolve alike, each in its own snapshot. -/
def SameEdge (firstSnapshot secondSnapshot : GraphSnapshot) (first second : EdgeRef) : Prop :=
  firstSnapshot.edge first = secondSnapshot.edge second

/-- The same pair, with a changed edge of it in each snapshot. -/
structure SameChange (firstSnapshot secondSnapshot : GraphSnapshot)
    (first second : (Nat × Nat) × EdgeRef) : Prop where
  pair : first.1 = second.1
  firstEdge : ∃ edge, firstSnapshot.edge first.2 = some edge ∧
    (edge.fromIdx, edge.toIdx) = first.1
  secondEdge : ∃ edge, secondSnapshot.edge second.2 = some edge ∧
    (edge.fromIdx, edge.toIdx) = second.1

/-- Paths over the same edges. -/
structure SamePath (firstSnapshot secondSnapshot : GraphSnapshot) (first second : SearchPath) :
    Prop where
  edgeRefs : List.Forall₂ (SameEdge firstSnapshot secondSnapshot) first.edgeRefs second.edgeRefs
  tokens : first.tokens = second.tokens
  scoreQ32 : first.scoreQ32 = second.scoreQ32
  capacityHint : first.capacityHint = second.capacityHint

/-- Two searches that see the same. -/
structure InStep (finder : PathFinder) (firstContext secondContext : SearchContext)
    (firstSnapshot secondSnapshot : GraphSnapshot) (firstEdges secondEdges : List EdgeRef)
    (distanceCache : DistanceCache) : Prop where
  snapshotId : firstSnapshot.snapshotId = secondSnapshot.snapshotId
  tokens : firstSnapshot.tokens = secondSnapshot.tokens
  cycleAnchorIndices : firstSnapshot.cycleAnchorIndices = secondSnapshot.cycleAnchorIndices
  deadEnds : ∀ vertex : Nat, (firstSnapshot.adjacency[vertex]?.getD []).isEmpty =
    (secondSnapshot.adjacency[vertex]?.getD []).isEmpty
  outgoing : ∀ vertex,
    ListsToken finder firstContext firstSnapshot firstEdges distanceCache vertex →
    List.Forall₂ (SameEdge firstSnapshot secondSnapshot)
    (virtualOutgoing finder firstContext firstSnapshot
      (minTradeRawByToken firstSnapshot finder.minTradeUsdE8) vertex)
    (virtualOutgoing finder secondContext secondSnapshot
      (minTradeRawByToken secondSnapshot finder.minTradeUsdE8) vertex)
  pairEdges : ∀ change progress,
    ListsPair finder firstContext firstSnapshot firstEdges distanceCache change progress →
    List.Forall₂ (SameEdge firstSnapshot secondSnapshot)
      (candidatePairEdges finder firstContext firstSnapshot
        (minTradeRawByToken firstSnapshot finder.minTradeUsdE8) change.1.1 change.1.2)
      (candidatePairEdges finder secondContext secondSnapshot
        (minTradeRawByToken secondSnapshot finder.minTradeUsdE8) change.1.1 change.1.2)
  changedPairs : List.Forall₂ (SameChange firstSnapshot secondSnapshot)
    (changedVirtualPairs firstContext firstSnapshot firstEdges)
    (changedVirtualPairs secondContext secondSnapshot secondEdges)
  changedCount : firstEdges.length = secondEdges.length
  clock : ∀ start target firstRefs secondRefs first second,
    List.Forall₂ (SameEdge firstSnapshot secondSnapshot) firstRefs secondRefs →
    SameEdge firstSnapshot secondSnapshot first second →
    firstContext.clock (.extending start target firstRefs first) =
      secondContext.clock (.extending start target secondRefs second)
  displayAddress : firstContext.displayAddress = secondContext.displayAddress
  routeStartCapacityRaw : ∀ firstRefs secondRefs,
    List.Forall₂ (SameEdge firstSnapshot secondSnapshot) firstRefs secondRefs →
    firstContext.routeStartCapacityRaw firstSnapshot firstRefs =
      secondContext.routeStartCapacityRaw secondSnapshot secondRefs
  env : firstContext.env = secondContext.env

section InStep

variable {finder : PathFinder} {firstContext secondContext : SearchContext}
  {firstSnapshot secondSnapshot : GraphSnapshot} {firstEdges secondEdges : List EdgeRef}
  {distanceCache : DistanceCache}

theorem InStep.minTradeRaw (inStep : InStep finder firstContext secondContext firstSnapshot
    secondSnapshot firstEdges secondEdges distanceCache) :
    minTradeRawByToken firstSnapshot finder.minTradeUsdE8 =
      minTradeRawByToken secondSnapshot finder.minTradeUsdE8 := by
  unfold minTradeRawByToken
  rw [inStep.tokens]

/-! ### Paths -/

theorem SamePath.currentNode {first second : SearchPath}
    (same : SamePath firstSnapshot secondSnapshot first second) :
    first.currentNode = second.currentNode := by
  unfold SearchPath.currentNode
  simp only [same.tokens]

theorem SamePath.push {first second : SearchPath}
    (same : SamePath firstSnapshot secondSnapshot first second) {firstRef secondRef : EdgeRef}
    (sameEdge : SameEdge firstSnapshot secondSnapshot firstRef secondRef) (edge : Edge) :
    SamePath firstSnapshot secondSnapshot (first.push firstRef edge)
      (second.push secondRef edge) where
  edgeRefs := List.rel_append same.edgeRefs (.cons sameEdge .nil)
  tokens := congrArg (· ++ [edge.toIdx]) same.tokens
  scoreQ32 := congrArg (saturatingAddI64 · edge.weightLogQ32) same.scoreQ32
  capacityHint := by
    unfold SearchPath.push
    rw [same.capacityHint]

theorem SamePath.comparePaths {left left' right right' : SearchPath}
    (leftSame : SamePath firstSnapshot secondSnapshot left left')
    (rightSame : SamePath firstSnapshot secondSnapshot right right') :
    comparePaths left right = DexArbitrage.comparePaths left' right' := by
  unfold DexArbitrage.comparePaths
  rw [leftSame.scoreQ32, leftSame.capacityHint, leftSame.edgeRefs.length_eq, rightSame.scoreQ32,
    rightSame.capacityHint, rightSame.edgeRefs.length_eq]

theorem InStep.extensions (inStep : InStep finder firstContext secondContext firstSnapshot
    secondSnapshot firstEdges secondEdges distanceCache) (start target : Nat)
    {first second : SearchPath}
    (lists : ListsToken finder firstContext firstSnapshot firstEdges distanceCache
      first.currentNode)
    (same : SamePath firstSnapshot secondSnapshot first second) :
    List.Forall₂ (SamePath firstSnapshot secondSnapshot)
      (first.extensions finder firstContext firstSnapshot
        (minTradeRawByToken firstSnapshot finder.minTradeUsdE8) start target)
      (second.extensions finder secondContext secondSnapshot
        (minTradeRawByToken secondSnapshot finder.minTradeUsdE8) start target) := by
  unfold SearchPath.extensions
  dsimp only
  rw [← same.currentNode]
  refine List.rel_filterMap (fun firstRef secondRef sameEdge => ?_)
    (List.forall₂_take _ (inStep.outgoing first.currentNode lists))
  have resolves : firstSnapshot.edge firstRef = secondSnapshot.edge secondRef := sameEdge
  rw [resolves, inStep.minTradeRaw,
    inStep.clock start target _ _ firstRef secondRef same.edgeRefs sameEdge, same.tokens]
  cases secondSnapshot.edge secondRef with
  | none => exact .none
  | some edge =>
    simp only [Option.bind_eq_bind, Option.bind_some]
    by_cases checked : edgeIsUsable finder (minTradeRawByToken secondSnapshot finder.minTradeUsdE8)
        (secondContext.clock (.extending start target second.edgeRefs secondRef)) edge = true
    · by_cases fresh : edge.toIdx ∈ second.tokens
      · simp only [checked, fresh, guard]
        exact .none
      · simp only [checked, fresh, guard]
        exact .some (same.push sameEdge edge)
    · simp only [checked, guard]
      exact .none

theorem samePath_initial (start : Nat) :
    SamePath firstSnapshot secondSnapshot (.initial start) (.initial start) where
  edgeRefs := .nil
  tokens := rfl
  scoreQ32 := rfl
  capacityHint := rfl

theorem InStep.findTopPaths (inStep : InStep finder firstContext secondContext firstSnapshot
    secondSnapshot firstEdges secondEdges distanceCache) {start target : Nat}
    (searches : SearchesPaths finder firstContext firstSnapshot firstEdges distanceCache start
      target) :
    List.Forall₂ (SamePath firstSnapshot secondSnapshot)
      (findTopPaths finder firstContext firstSnapshot
        (minTradeRawByToken firstSnapshot finder.minTradeUsdE8) start target (finder.maxHops - 1))
      (DexArbitrage.findTopPaths finder secondContext secondSnapshot
        (minTradeRawByToken secondSnapshot finder.minTradeUsdE8) start target
        (finder.maxHops - 1)) := by
  have best : ∀ count firsts seconds,
      List.Forall₂ (SamePath firstSnapshot secondSnapshot) firsts seconds →
      List.Forall₂ (SamePath firstSnapshot secondSnapshot)
        (keepBest DexArbitrage.comparePaths count firsts)
        (keepBest DexArbitrage.comparePaths count seconds) :=
    fun count _ _ lists => forall₂_keepBest (fun _ _ _ _ left right => left.comparePaths right)
      count lists
  have lists : ∀ path ∈ extendedPaths finder firstContext firstSnapshot start target,
      ListsToken finder firstContext firstSnapshot firstEdges distanceCache path.currentNode :=
    fun path extended => ⟨start, target, searches, path, extended, rfl⟩
  unfold extendedPaths at lists
  unfold DexArbitrage.findTopPaths
  split
  · exact .cons (samePath_initial start) .nil
  · rename_i different
    rw [if_neg different] at lists
    refine best _ _ _ (forall₂_beamSearch (fun first second same => ?_) (best _) (best _)
      (finder.maxHops - 1)
      (fun path extended _ same => inStep.extensions start target (lists path extended) same) .nil
      (.cons (samePath_initial start) .nil))
    rw [same.currentNode]

/-! ### Routes -/

section Routes

variable {firstRefs secondRefs : List EdgeRef}

theorem forall₂_routeEdgeRefs {firstPrefix secondPrefix firstSuffix secondSuffix : SearchPath}
    {firstPathRef secondPathRef : EdgeRef}
    (prefixes : SamePath firstSnapshot secondSnapshot firstPrefix secondPrefix)
    (sameEdge : SameEdge firstSnapshot secondSnapshot firstPathRef secondPathRef)
    (suffixes : SamePath firstSnapshot secondSnapshot firstSuffix secondSuffix) :
    List.Forall₂ (SameEdge firstSnapshot secondSnapshot)
      (routeEdgeRefs firstPrefix firstPathRef firstSuffix)
      (routeEdgeRefs secondPrefix secondPathRef secondSuffix) :=
  List.rel_append (List.rel_append prefixes.edgeRefs (.cons sameEdge .nil)) suffixes.edgeRefs

theorem hopOf_eq (sameTokens : firstSnapshot.tokens = secondSnapshot.tokens) (edge : Edge) :
    hopOf firstSnapshot edge = hopOf secondSnapshot edge := by
  unfold hopOf
  rw [sameTokens]

theorem tokenReached_eq (sameTokens : firstSnapshot.tokens = secondSnapshot.tokens)
    {first second : EdgeRef} (same : SameEdge firstSnapshot secondSnapshot first second) :
    tokenReached firstSnapshot first = tokenReached secondSnapshot second := by
  have resolves : firstSnapshot.edge first = secondSnapshot.edge second := same
  unfold tokenReached
  rw [resolves, sameTokens]

theorem map_tokenReached_eq (sameTokens : firstSnapshot.tokens = secondSnapshot.tokens)
    (same : List.Forall₂ (SameEdge firstSnapshot secondSnapshot) firstRefs secondRefs) :
    firstRefs.map (tokenReached firstSnapshot) = secondRefs.map (tokenReached secondSnapshot) := by
  induction same with
  | nil => rfl
  | cons head _ inductionHypothesis =>
    rw [List.map_cons, List.map_cons, tokenReached_eq sameTokens head, inductionHypothesis]

theorem candidateHops_eq (sameTokens : firstSnapshot.tokens = secondSnapshot.tokens)
    (same : List.Forall₂ (SameEdge firstSnapshot secondSnapshot) firstRefs secondRefs) :
    candidateHops firstSnapshot firstRefs = candidateHops secondSnapshot secondRefs := by
  induction same with
  | nil => rfl
  | @cons first second _ _ head _ inductionHypothesis =>
    have resolves : firstSnapshot.edge first = secondSnapshot.edge second := head
    unfold candidateHops
    rw [resolves, inductionHypothesis]
    simp only [hopOf_eq sameTokens]

theorem routeCycleKey_inStep (displayAddress : Address → String)
    (sameTokens : firstSnapshot.tokens = secondSnapshot.tokens)
    (same : List.Forall₂ (SameEdge firstSnapshot secondSnapshot) firstRefs secondRefs) :
    routeCycleKey displayAddress firstSnapshot firstRefs =
      routeCycleKey displayAddress secondSnapshot secondRefs := by
  unfold routeCycleKey
  refine congrArg (String.intercalate "|") ?_
  induction same with
  | nil => rfl
  | @cons first second _ _ head _ inductionHypothesis =>
    have resolves : firstSnapshot.edge first = secondSnapshot.edge second := head
    rw [List.filterMap_cons, List.filterMap_cons, resolves, sameTokens]
    rw [sameTokens] at inductionHypothesis
    rw [inductionHypothesis]

theorem routeTokensAllowed_inStep (env : SearchEnv) (anchorIdx : Nat)
    (policy : ExecutionTokenPolicy)
    (sameTokens : firstSnapshot.tokens = secondSnapshot.tokens)
    (same : List.Forall₂ (SameEdge firstSnapshot secondSnapshot) firstRefs secondRefs) :
    routeTokensAllowed env firstSnapshot anchorIdx firstRefs policy =
      routeTokensAllowed env secondSnapshot anchorIdx secondRefs policy := by
  unfold routeTokensAllowed
  rw [map_tokenReached_eq sameTokens same, sameTokens]

theorem routeQualityBps_inStep (anchor : TokenInfo)
    (sameTokens : firstSnapshot.tokens = secondSnapshot.tokens)
    (same : List.Forall₂ (SameEdge firstSnapshot secondSnapshot) firstRefs secondRefs) :
    routeQualityBps firstSnapshot anchor firstRefs =
      routeQualityBps secondSnapshot anchor secondRefs := by
  unfold routeQualityBps
  dsimp only
  rw [same.length_eq]
  refine congrArg (fun quality => max (quality - _) 500) ?_
  generalize tokenQualityBps anchor = quality
  induction same generalizing quality with
  | nil => rfl
  | cons head _ inductionHypothesis =>
    rw [List.foldl_cons, List.foldl_cons, tokenReached_eq sameTokens head]
    exact inductionHypothesis _

theorem any_pair_inStep {fromIdx toIdx : Nat}
    (same : List.Forall₂ (SameEdge firstSnapshot secondSnapshot) firstRefs secondRefs) :
    (firstRefs.any fun edgeRef => (firstSnapshot.edge edgeRef).any fun edge =>
        edge.fromIdx = fromIdx && edge.toIdx = toIdx) =
      secondRefs.any fun edgeRef => (secondSnapshot.edge edgeRef).any fun edge =>
        edge.fromIdx = fromIdx && edge.toIdx = toIdx := by
  induction same with
  | nil => rfl
  | @cons first second _ _ head _ inductionHypothesis =>
    have resolves : firstSnapshot.edge first = secondSnapshot.edge second := head
    rw [List.any_cons, List.any_cons, resolves, inductionHypothesis]

end Routes

/-! ### Candidates -/

theorem executionTokenPolicy_inStep (env : SearchEnv)
    (sameTokens : firstSnapshot.tokens = secondSnapshot.tokens) :
    executionTokenPolicy env firstSnapshot = executionTokenPolicy env secondSnapshot := by
  unfold executionTokenPolicy
  rw [sameTokens]

theorem InStep.useRouteCapacityFilter (inStep : InStep finder firstContext secondContext
    firstSnapshot secondSnapshot firstEdges secondEdges distanceCache) :
    useRouteCapacityFilter firstContext firstEdges =
      DexArbitrage.useRouteCapacityFilter secondContext secondEdges := by
  unfold DexArbitrage.useRouteCapacityFilter
  rw [inStep.changedCount, inStep.env]

theorem InStep.selectionBudget (inStep : InStep finder firstContext secondContext
    firstSnapshot secondSnapshot firstEdges secondEdges distanceCache) :
    selectionBudget finder firstContext firstEdges =
      DexArbitrage.selectionBudget finder secondContext secondEdges := by
  unfold DexArbitrage.selectionBudget
  rw [inStep.changedCount, inStep.env]

theorem InStep.routeHasMinStartCapacity (inStep : InStep finder firstContext secondContext
    firstSnapshot secondSnapshot firstEdges secondEdges distanceCache) (anchorIdx : Nat)
    {firstRefs secondRefs : List EdgeRef}
    (same : List.Forall₂ (SameEdge firstSnapshot secondSnapshot) firstRefs secondRefs) :
    routeHasMinStartCapacity finder firstContext firstSnapshot anchorIdx firstRefs =
      DexArbitrage.routeHasMinStartCapacity finder secondContext secondSnapshot anchorIdx
        secondRefs := by
  unfold DexArbitrage.routeHasMinStartCapacity
  rw [inStep.minTradeRaw, inStep.routeStartCapacityRaw _ _ same]

/-- The same route makes the same candidate. -/
theorem InStep.materializeCandidate (inStep : InStep finder firstContext secondContext
    firstSnapshot secondSnapshot firstEdges secondEdges distanceCache) (anchorIdx : Nat)
    (key : String) (scoreQ32 : Int) {firstRefs secondRefs : List EdgeRef}
    (same : List.Forall₂ (SameEdge firstSnapshot secondSnapshot) firstRefs secondRefs)
    {first second : (Nat × Nat) × EdgeRef}
    (changed : SameChange firstSnapshot secondSnapshot first second) :
    materializeCandidate finder firstContext firstSnapshot firstEdges anchorIdx key scoreQ32
        firstRefs first.2 =
      DexArbitrage.materializeCandidate finder secondContext secondSnapshot secondEdges anchorIdx
        key scoreQ32 secondRefs second.2 := by
  obtain ⟨firstEdge, firstResolves, firstPair⟩ := changed.firstEdge
  obtain ⟨secondEdge, secondResolves, secondPair⟩ := changed.secondEdge
  have samePair : (firstEdge.fromIdx, firstEdge.toIdx) = (secondEdge.fromIdx, secondEdge.toIdx) :=
    firstPair.trans (changed.pair.trans secondPair.symm)
  injection samePair with leaves arrives
  unfold DexArbitrage.materializeCandidate
  rw [firstResolves, secondResolves]
  dsimp only
  rw [candidateHops_eq inStep.tokens same]
  refine congrArg (Option.bind _) (funext fun path? => ?_)
  cases path? with
  | none => rfl
  | some path =>
    dsimp only
    rw [leaves, arrives, any_pair_inStep same, inStep.env,
      executionTokenPolicy_inStep _ inStep.tokens,
      routeTokensAllowed_inStep _ _ _ inStep.tokens same, inStep.useRouteCapacityFilter,
      inStep.routeHasMinStartCapacity anchorIdx same, inStep.tokens,
      inStep.routeStartCapacityRaw _ _ same, inStep.snapshotId]
    simp only [routeQualityBps_inStep _ inStep.tokens same]

end InStep

end DexArbitrage
