/-
This file proves that the detector is complete when its limits do not bind: every
simple cycle through an anchor that is short enough, usable, below the cutoff and
accepted by the filters, and that contains a changed pair, has its candidate
among what the loops collect, once.

Cut at one of its changed pairs, such a cycle is a path from the anchor to the
pair, an edge of the pair, and a path back to the anchor. The marks of the
distance cache let the pair pass, the search finds both paths, and the loops
visit the route they make up.
-/

import DexArbitrage.Detector.RouteVisits
import DexArbitrage.Graph.DistanceCache

namespace DexArbitrage

section Completeness

variable {finder : PathFinder} {context : SearchContext} {snapshot : GraphSnapshot}
  {changedEdges : List EdgeRef}

/-! ### The loops reach the route of a cycle -/

section Loops

variable {anchor : Nat} {edgeRefs : List EdgeRef} {edges : List Edge}

theorem keptByRoutes_unmissed (searchable : Searchable context.displayAddress snapshot)
    (noMerge : finder.tuning.dedupTokenPaths = false)
    (cycle : QualifyingCycle finder context snapshot changedEdges anchor edgeRefs edges) :
    KeptByRoutes finder context snapshot changedEdges
      (SearchProgress.Unmissed context snapshot anchor edgeRefs edges) SearchEnd.IsReturn :=
  fun _ _ _ _ _ _ _ _ _ parts samePair _ unmissed =>
    (leadsTo_visitRoute_of_cycle searchable noMerge cycle parts samePair unmissed).mono
      fun _ progressed => progressed.1

theorem keptByRoutes_collected (searchable : Searchable context.displayAddress snapshot)
    (noMerge : finder.tuning.dedupTokenPaths = false)
    (cycle : QualifyingCycle finder context snapshot changedEdges anchor edgeRefs edges) :
    KeptByRoutes finder context snapshot changedEdges
      (SearchProgress.Collected context snapshot anchor edgeRefs edges) SearchEnd.IsReturn :=
  fun _ _ _ _ _ _ _ _ _ parts samePair _ collected =>
    (leadsTo_visitRoute_of_cycle searchable noMerge cycle parts samePair fun _ => collected).mono
      fun _ progressed => progressed.2 (Or.inl collected)

/-- A cycle, cut at one of its edges of a changed pair. -/
structure CutCycle (snapshot : GraphSnapshot) (edgeRefs : List EdgeRef) (edges : List Edge)
    (beforeRefs : List EdgeRef) (edgeRef : EdgeRef) (afterRefs : List EdgeRef)
    (before : List Edge) (edge : Edge) (after : List Edge) : Prop where
  edgeRefs : edgeRefs = beforeRefs ++ edgeRef :: afterRefs
  edges : edges = before ++ edge :: after
  beforeResolves : beforeRefs.map snapshot.edge = before.map some
  resolves : snapshot.edge edgeRef = some edge
  afterResolves : afterRefs.map snapshot.edge = after.map some

theorem QualifyingCycle.exists_cut
    (cycle : QualifyingCycle finder context snapshot changedEdges anchor edgeRefs edges)
    {edge : Edge} (member : edge ∈ edges) :
    ∃ beforeRefs edgeRef afterRefs before after,
      CutCycle snapshot edgeRefs edges beforeRefs edgeRef afterRefs before edge after := by
  obtain ⟨before, after, sameEdges⟩ := List.append_of_mem member
  have resolves := cycle.resolves
  rw [sameEdges, List.map_append, List.map_cons] at resolves
  obtain ⟨beforeRefs, restRefs, sameRefs, beforeResolves, restResolves⟩ :=
    List.map_eq_append_iff.mp resolves
  obtain ⟨edgeRef, afterRefs, sameRest, isEdge, afterResolves⟩ :=
    List.map_eq_cons_iff.mp restResolves
  exact ⟨beforeRefs, edgeRef, afterRefs, before, after, sameRest ▸ sameRefs, sameEdges,
    beforeResolves, isEdge, afterResolves⟩

theorem anchorCanParticipate_of_edge {edgeRef : EdgeRef} {edge : Edge}
    (wellIndexed : snapshot.WellIndexed) (resolves : snapshot.edge edgeRef = some edge)
    (changedFrom changedTo : Nat) :
    anchorCanParticipate snapshot edge.fromIdx changedFrom changedTo = true := by
  have nonempty : (snapshot.adjacency[edge.fromIdx]?.getD []).isEmpty = false := by
    rw [wellIndexed.rowsOwned edgeRef edge resolves]
    obtain ⟨row, inTables, entry⟩ := Option.bind_eq_some_iff.mp resolves
    rw [inTables, Option.getD_some]
    cases row with
    | nil => cases entry
    | cons first rest => rfl
  unfold anchorCanParticipate
  rw [nonempty]
  simp

variable {beforeRefs afterRefs : List EdgeRef} {edgeRef : EdgeRef} {before after : List Edge}
  {edge : Edge}

theorem CutCycle.anchorCanParticipate (wellIndexed : snapshot.WellIndexed)
    (cycle : QualifyingCycle finder context snapshot changedEdges anchor edgeRefs edges)
    (changedFrom changedTo : Nat) :
    anchorCanParticipate snapshot anchor changedFrom changedTo = true := by
  have closed := cycle.cycle.closed
  have resolves := cycle.resolves
  cases edges with
  | nil => exact (cycle.cycle.nonempty rfl).elim
  | cons first rest =>
    obtain ⟨firstRef, _, _, isFirst, _⟩ := List.map_eq_cons_iff.mp resolves
    rw [← closed.1]
    exact anchorCanParticipate_of_edge wellIndexed isFirst changedFrom changedTo

/-- The searches on both sides find the rest of the cycle, and its edge is listed for the pair. -/
theorem CutCycle.exists_route (searchable : Searchable context.displayAddress snapshot)
    (limits : LimitsDoNotBind finder snapshot)
    (cycle : QualifyingCycle finder context snapshot changedEdges anchor edgeRefs edges)
    (cut : CutCycle snapshot edgeRefs edges beforeRefs edgeRef afterRefs before edge after) :
    ∃ prefixPath ∈ findTopPaths finder context snapshot
        (minTradeRawByToken snapshot finder.minTradeUsdE8) anchor edge.fromIdx (finder.maxHops - 1),
      ∃ suffixPath ∈ findTopPaths finder context snapshot
          (minTradeRawByToken snapshot finder.minTradeUsdE8) edge.toIdx anchor (finder.maxHops - 1),
        edgeRef ∈ candidatePairEdges finder context snapshot
            (minTradeRawByToken snapshot finder.minTradeUsdE8) edge.fromIdx edge.toIdx ∧
          routeEdgeRefs prefixPath edgeRef suffixPath = edgeRefs := by
  have wellIndexed := searchable.wellIndexed
  have few := cycle.fewHops
  have isCycle := cycle.cycle
  rw [cut.edges] at few isCycle
  rw [List.length_append, List.length_cons] at few
  obtain ⟨prefixWalk, prefixSimple, suffixWalk, suffixSimple⟩ := isCycle.parts
  have usable := cycle.usable
  rw [cut.edgeRefs] at usable
  obtain ⟨prefixPath, inPrefixes, isPrefix⟩ := exists_mem_findTopPaths wellIndexed limits
    cut.beforeResolves prefixWalk prefixSimple
    (fun ref member => usable ref (List.mem_append_left _ member))
    (show before.length ≤ finder.maxHops - 1 by omega)
  obtain ⟨suffixPath, inSuffixes, isSuffix⟩ := exists_mem_findTopPaths wellIndexed limits
    cut.afterResolves suffixWalk suffixSimple
    (fun ref member => usable ref (List.mem_append_right _ (List.mem_cons_of_mem _ member)))
    (show after.length ≤ finder.maxHops - 1 by omega)
  refine ⟨prefixPath, inPrefixes, suffixPath, inSuffixes, ?_, ?_⟩
  · exact mem_candidatePairEdges_of_usable searchable.filesAll wellIndexed
      limits.maxPairEdgesPerPair cut.resolves
      (usable edgeRef (List.mem_append_right _ List.mem_cons_self) edge cut.resolves)
  · unfold routeEdgeRefs
    rw [isPrefix, isSuffix, cut.edgeRefs, List.append_assoc]
    rfl

/-- The loops over the edges of the pair and over the paths on both sides visit the route of the
cycle. -/
theorem CutCycle.visitAnchor (searchable : Searchable context.displayAddress snapshot)
    (limits : LimitsDoNotBind finder snapshot) (noMerge : finder.tuning.dedupTokenPaths = false)
    (cycle : QualifyingCycle finder context snapshot changedEdges anchor edgeRefs edges)
    (cut : CutCycle snapshot edgeRefs edges beforeRefs edgeRef afterRefs before edge after)
    {changedEdgeRef : EdgeRef} {changedEdge : Edge} (isChanged : changedEdgeRef ∈ changedEdges)
    (resolves : snapshot.edge changedEdgeRef = some changedEdge)
    (pair : (changedEdge.fromIdx, changedEdge.toIdx) = (edge.fromIdx, edge.toIdx))
    {progress : SearchProgress}
    (unmissed : progress.Unmissed context snapshot anchor edgeRefs edges) :
    LeadsTo (SearchProgress.Collected context snapshot anchor edgeRefs edges) SearchEnd.IsReturn
      (visitAnchor finder context snapshot changedEdges edge.fromIdx edge.toIdx changedEdgeRef
        (candidatePairEdges finder context snapshot
          (minTradeRawByToken snapshot finder.minTradeUsdE8) edge.fromIdx edge.toIdx)
        progress anchor) := by
  have keptUnmissed := keptByRoutes_unmissed searchable noMerge cycle
  have keptCollected := keptByRoutes_collected searchable noMerge cycle
  have wellIndexed := searchable.wellIndexed
  obtain ⟨prefixPath, inPrefixes, suffixPath, inSuffixes, inPair, isRoute⟩ :=
    cut.exists_route searchable limits cycle
  unfold DexArbitrage.visitAnchor
  dsimp only
  rw [CutCycle.anchorCanParticipate wellIndexed cycle, Bool.not_true, if_neg Bool.false_ne_true]
  split
  · rename_i empty
    rcases Bool.or_eq_true_iff.mp empty with noPrefix | noSuffix
    · rw [List.isEmpty_iff.mp noPrefix] at inPrefixes
      cases inPrefixes
    · rw [List.isEmpty_iff.mp noSuffix] at inSuffixes
      cases inSuffixes
  · refine leadsTo_foldlM_of_mem inPair
      (fun _ isPath _ holds => keptUnmissed.visitPrefixes wellIndexed cycle.isAnchor isChanged
        resolves pair isPath holds)
      (fun progress unmissed => ?_)
      (fun _ isPath _ holds => keptCollected.visitPrefixes wellIndexed cycle.isAnchor isChanged
        resolves pair isPath holds) unmissed
    refine leadsTo_foldlM_of_mem inPrefixes
      (fun _ isPath _ holds => keptUnmissed.visitSuffixes wellIndexed cycle.isAnchor isChanged
        resolves pair inPair isPath holds)
      (fun progress unmissed => ?_)
      (fun _ isPath _ holds => keptCollected.visitSuffixes wellIndexed cycle.isAnchor isChanged
        resolves pair inPair isPath holds) unmissed
    have parts : ∀ suffixPath ∈ findTopPaths finder context snapshot
        (minTradeRawByToken snapshot finder.minTradeUsdE8) edge.toIdx anchor
        (finder.maxHops - 1), ∃ before found after,
          RouteParts finder context snapshot changedEdges anchor edge.toIdx edgeRef prefixPath
            suffixPath before found after ∧ SamePair snapshot changedEdgeRef found :=
      fun _ isPath => exists_routeParts wellIndexed cycle.isAnchor isChanged resolves pair inPair
        inPrefixes isPath
    refine leadsTo_foldlM_of_mem inSuffixes (fun path isPath progress holds => ?_)
      (fun progress unmissed => ?_) (fun path isPath progress holds => ?_) unmissed
    · obtain ⟨_, _, _, made, samePair⟩ := parts path isPath
      exact keptUnmissed _ _ _ _ _ _ _ _ _ made samePair progress holds
    · obtain ⟨_, _, _, made, samePair⟩ := parts suffixPath inSuffixes
      exact (leadsTo_visitRoute_of_cycle searchable noMerge cycle made samePair unmissed).mono
        fun _ progressed => progressed.2 (Or.inr isRoute)
    · obtain ⟨_, _, _, made, samePair⟩ := parts path isPath
      exact keptCollected _ _ _ _ _ _ _ _ _ made samePair progress holds

/-- The marks of both searches for the snapshot. -/
structure MarksOf (snapshot : GraphSnapshot) (distanceCache : DistanceCache) : Prop where
  fromAnchor : snapshot.AnchorMarks Edge.fromIdx Edge.toIdx distanceCache.reachableFromAnchor
  toAnchor : snapshot.AnchorMarks Edge.toIdx Edge.fromIdx distanceCache.reachableToAnchor

theorem CutCycle.isMarked (cycle : QualifyingCycle finder context snapshot changedEdges anchor
      edgeRefs edges)
    (cut : CutCycle snapshot edgeRefs edges beforeRefs edgeRef afterRefs before edge after)
    {distanceCache : DistanceCache} (marks : MarksOf snapshot distanceCache) :
    distanceCache.reachableFromAnchor[edge.fromIdx]? = some true ∧
      distanceCache.reachableToAnchor[edge.toIdx]? = some true := by
  have isCycle := cycle.cycle
  rw [cut.edges] at isCycle
  obtain ⟨prefixWalk, _, suffixWalk, _⟩ := isCycle.parts
  have resolve : ∀ {refs : List EdgeRef} {part : List Edge},
      refs.map snapshot.edge = part.map some →
      ∀ edge ∈ part, ∃ edgeRef, snapshot.edge edgeRef = some edge := by
    intro refs part resolves edge member
    obtain ⟨edgeRef, _, isEdge⟩ := exists_element_of_mem resolves member
    exact ⟨edgeRef, isEdge⟩
  exact ⟨marks.fromAnchor.of_walk prefixWalk (resolve cut.beforeResolves)
      (marks.fromAnchor.anchors anchor cycle.isAnchor),
    marks.toAnchor.of_walk_back suffixWalk (resolve cut.afterResolves)
      (marks.toAnchor.anchors anchor cycle.isAnchor)⟩

/-- Where the marks are those of the snapshot, no index is out of range. -/
theorem MarksOf.inRange (searchable : Searchable context.displayAddress snapshot)
    {distanceCache : DistanceCache} (marks : MarksOf snapshot distanceCache)
    {changed : (Nat × Nat) × EdgeRef}
    (member : changed ∈ changedVirtualPairs context snapshot changedEdges) :
    ¬ (distanceCache.reachableFromAnchor[changed.1.1]? = none ∨
      distanceCache.reachableToAnchor[changed.1.2]? = none) := by
  obtain ⟨_, edge, resolves, pair⟩ := mem_changedVirtualPairs member
  obtain ⟨fromInRange, toInRange⟩ := searchable.tokens _ edge resolves
  rw [← pair, List.getElem?_eq_none_iff, List.getElem?_eq_none_iff, marks.fromAnchor.length,
    marks.toAnchor.length]
  omega

theorem CutCycle.collectCandidates (searchable : Searchable context.displayAddress snapshot)
    (limits : LimitsDoNotBind finder snapshot) (noMerge : finder.tuning.dedupTokenPaths = false)
    {distanceCache : DistanceCache} (marks : MarksOf snapshot distanceCache)
    (cycle : QualifyingCycle finder context snapshot changedEdges anchor edgeRefs edges)
    (cut : CutCycle snapshot edgeRefs edges beforeRefs edgeRef afterRefs before edge after)
    (isChangedPair : IsChangedPair snapshot changedEdges edge) :
    LeadsTo (SearchProgress.Collected context snapshot anchor edgeRefs edges) SearchEnd.IsReturn
      (collectCandidates finder context snapshot changedEdges distanceCache) := by
  have keptUnmissed := keptByRoutes_unmissed searchable noMerge cycle
  have keptCollected := keptByRoutes_collected searchable noMerge cycle
  have wellIndexed := searchable.wellIndexed
  obtain ⟨changedRef, isChanged, changed, found, samePair⟩ := isChangedPair
  obtain ⟨best, listed⟩ := exists_mem_changedVirtualPairs isChanged found
  rw [← samePair] at listed
  obtain ⟨bestChanged, bestEdge, bestResolves, bestPair⟩ := mem_changedVirtualPairs listed
  have several := cycle.two_le_length searchable
  have few := cycle.fewHops
  have someChange : changedEdges.isEmpty = false :=
    List.isEmpty_eq_false_iff.mpr (List.ne_nil_of_mem isChanged)
  have somePair : (changedVirtualPairs context snapshot changedEdges).isEmpty = false :=
    List.isEmpty_eq_false_iff.mpr (List.ne_nil_of_mem listed)
  have goesOn : ¬ (finder.maxHops < 2 ∨ false = true) := by
    rintro (short | absurd)
    · omega
    · cases absurd
  unfold DexArbitrage.collectCandidates
  dsimp only
  rw [someChange, somePair, if_neg goesOn, if_neg Bool.false_ne_true]
  refine leadsTo_foldlM_of_mem listed
    (fun _ member _ holds => keptUnmissed.visitPair wellIndexed member
      (fun outOfRange => (marks.inRange searchable member outOfRange).elim) holds)
    (fun progress unmissed => ?_)
    (fun _ member _ holds => keptCollected.visitPair wellIndexed member
      (fun outOfRange => (marks.inRange searchable member outOfRange).elim) holds)
    fun seen => (nomatch seen)
  obtain ⟨fromMarked, toMarked⟩ := cut.isMarked cycle marks
  have usable := cycle.usable edgeRef
    (cut.edgeRefs ▸ List.mem_append_right _ List.mem_cons_self) edge cut.resolves
  have someEdge : (candidatePairEdges finder context snapshot
      (minTradeRawByToken snapshot finder.minTradeUsdE8) edge.fromIdx edge.toIdx).isEmpty =
        false :=
    List.isEmpty_eq_false_iff.mpr (List.ne_nil_of_mem (mem_candidatePairEdges_of_usable
      searchable.filesAll wellIndexed limits.maxPairEdgesPerPair cut.resolves usable))
  unfold DexArbitrage.visitPair
  dsimp only
  rw [fromMarked, toMarked]
  dsimp only
  rw [someEdge, if_neg Bool.false_ne_true]
  exact leadsTo_foldlM_of_mem cycle.isAnchor
    (fun _ isAnchor _ holds => keptUnmissed.visitAnchor wellIndexed isAnchor bestChanged
      bestResolves bestPair holds)
    (fun _ unmissed => cut.visitAnchor searchable limits noMerge cycle bestChanged bestResolves
      bestPair unmissed)
    (fun _ isAnchor _ holds => keptCollected.visitAnchor wellIndexed isAnchor bestChanged
      bestResolves bestPair holds) unmissed

end Loops

/-- When its limits do not bind, the search misses no cycle. -/
theorem collectsAll_collectCandidates (searchable : Searchable context.displayAddress snapshot)
    (limits : LimitsDoNotBind finder snapshot) (noMerge : finder.tuning.dedupTokenPaths = false)
    {distanceCache : DistanceCache} (marks : MarksOf snapshot distanceCache) :
    LeadsTo (CollectsAll finder context snapshot changedEdges) SearchEnd.IsReturn
      (collectCandidates finder context snapshot changedEdges distanceCache) := by
  have kept : KeptByRoutes finder context snapshot changedEdges (fun _ => True)
      SearchEnd.IsReturn :=
    fun _ _ _ _ _ _ _ _ _ parts _ progress _ =>
      leadsTo_visitRoute_of_searchable searchable noMerge parts progress
  have returns := kept.collectCandidates searchable.wellIndexed
    (fun _ member outOfRange => (marks.inRange searchable member outOfRange).elim) trivial
  have sound : LeadsTo (SearchProgress.Sound finder context snapshot changedEdges)
      (SearchEnd.Sound finder context snapshot changedEdges)
      (collectCandidates finder context snapshot changedEdges distanceCache) :=
    sound_collectCandidates searchable.wellIndexed distanceCache
  cases ended : collectCandidates finder context snapshot changedEdges distanceCache with
  | error early =>
    rw [ended] at returns
    exact returns
  | ok progress =>
    rw [ended] at sound
    intro anchor edgeRefs edges cycle
    obtain ⟨edge, member, isChangedPair⟩ := cycle.changed
    obtain ⟨beforeRefs, edgeRef, afterRefs, before, after, cut⟩ := cycle.exists_cut member
    have collected := cut.collectCandidates searchable limits noMerge marks cycle isChangedPair
    rw [ended] at collected
    obtain ⟨candidate, listed, isCandidate⟩ := collected
    have distinct : (progress.candidates.map CandidatePath.cycleKey).Nodup := by
      have all := sound.candidates.distinctKeys
      unfold SearchProgress.found at all
      rw [List.map_append] at all
      exact (List.nodup_append.mp all).1
    refine ⟨⟨candidate, listed, isCandidate⟩, List.count_eq_one_of_mem distinct ?_⟩
    rw [← isCandidate.cycleKey]
    exact List.mem_map_of_mem listed

end Completeness

/-! ### How many edges and simple paths there are -/

/-- The lists of at most a number of the given elements. -/
def listsUpTo {Element : Type} (elements : List Element) : Nat → List (List Element)
  | 0 => [[]]
  | length + 1 =>
    [] :: elements.flatMap fun first => (listsUpTo elements length).map (first :: ·)

theorem mem_listsUpTo {Element : Type} {elements list : List Element} {length : Nat}
    (drawn : ∀ element ∈ list, element ∈ elements) (short : list.length ≤ length) :
    list ∈ listsUpTo elements length := by
  induction length generalizing list with
  | zero =>
    rw [List.length_eq_zero_iff.mp (Nat.le_zero.mp short)]
    exact List.mem_cons_self
  | succ length inductionHypothesis =>
    cases list with
    | nil => exact List.mem_cons_self
    | cons first rest =>
      have restListed := inductionHypothesis
        (fun element member => drawn element (List.mem_cons_of_mem _ member))
        (Nat.le_of_succ_le_succ short)
      refine List.mem_cons_of_mem _
        (List.mem_flatMap.mpr ⟨first, drawn first List.mem_cons_self, ?_⟩)
      exact List.mem_map_of_mem restListed

theorem encard_le_length {Element : Type} {members : Set Element} {elements : List Element}
    (listed : ∀ element ∈ members, element ∈ elements) : members.encard ≤ elements.length := by
  classical
  have covered : members ⊆ (elements.toFinset : Set Element) :=
    fun element member => Finset.mem_coe.mpr (List.mem_toFinset.mpr (listed element member))
  refine (Set.encard_le_encard covered).trans ?_
  rw [Set.encard_coe_eq_coe_finsetCard]
  exact_mod_cast List.toFinset_card_le elements

/-- The references to the edges of a snapshot. -/
def GraphSnapshot.allRefs (snapshot : GraphSnapshot) : List EdgeRef :=
  snapshot.adjacency.zipIdx.flatMap fun (edges, fromIdx) =>
    (List.range edges.length).map fun edgeIdx => { fromIdx, edgeIdx }

theorem GraphSnapshot.mem_allRefs {snapshot : GraphSnapshot} {edgeRef : EdgeRef}
    (member : edgeRef ∈ snapshot.edgeRefs) : edgeRef ∈ snapshot.allRefs := by
  obtain ⟨edge, resolves⟩ := member
  obtain ⟨edges, row, entry⟩ := Option.bind_eq_some_iff.mp resolves
  refine List.mem_flatMap.mpr ⟨(edges, edgeRef.fromIdx), ?_, ?_⟩
  · exact List.mem_zipIdx_iff_getElem?.mpr row
  · exact List.mem_map.mpr ⟨edgeRef.edgeIdx,
      List.mem_range.mpr (List.getElem?_eq_some_iff.mp entry).1, rfl⟩

/-- A simple path has fewer edges than there are tokens. -/
theorem GraphSnapshot.mem_listsUpTo_of_simplePath {snapshot : GraphSnapshot}
    (tokens : ∀ edgeRef edge, snapshot.edge edgeRef = some edge →
      edge.fromIdx < snapshot.tokens.length ∧ edge.toIdx < snapshot.tokens.length)
    {edgeRefs : List EdgeRef} (simple : edgeRefs ∈ snapshot.simplePaths) :
    edgeRefs ∈ listsUpTo snapshot.allRefs (snapshot.tokens.length - 1) := by
  obtain ⟨nonempty, start, edges, finish, resolves, walk, distinct⟩ := simple
  have resolve : ∀ edge ∈ edges, ∃ edgeRef ∈ edgeRefs, snapshot.edge edgeRef = some edge :=
    fun _ => exists_element_of_mem resolves
  have visited : ∀ token ∈ start :: edges.map Edge.toIdx,
      token ∈ List.range snapshot.tokens.length := by
    intro token member
    rcases List.mem_cons.mp member with same | later
    · cases edges with
      | nil => exact (nonempty (List.map_eq_nil_iff.mp resolves)).elim
      | cons first rest =>
        obtain ⟨edgeRef, _, isFirst⟩ := resolve first List.mem_cons_self
        rw [same, ← walk.1]
        exact List.mem_range.mpr (tokens edgeRef first isFirst).1
    · obtain ⟨edge, listed, isToken⟩ := List.mem_map.mp later
      obtain ⟨edgeRef, _, isEdge⟩ := resolve edge listed
      rw [← isToken]
      exact List.mem_range.mpr (tokens edgeRef edge isEdge).2
  have few := (List.subperm_of_subset distinct visited).length_le
  have length := congrArg List.length resolves
  rw [List.length_map, List.length_map] at length
  rw [List.length_cons, List.length_map, List.length_range] at few
  refine mem_listsUpTo (fun edgeRef member => mem_allRefs ?_) (by omega)
  obtain ⟨edge, _, isEdge⟩ := exists_value_of_mem resolves member
  exact ⟨edge, isEdge⟩

/-- On every snapshot there are limits that do not bind. -/
theorem limitsDoNotBind_of_counts {finder : PathFinder} {snapshot : GraphSnapshot}
    (tokens : ∀ edgeRef edge, snapshot.edge edgeRef = some edge →
      edge.fromIdx < snapshot.tokens.length ∧ edge.toIdx < snapshot.tokens.length)
    (paths : (listsUpTo snapshot.allRefs (snapshot.tokens.length - 1)).length ≤
      min finder.tuning.topKPathsPerSide finder.tuning.pathBeamWidth)
    (edges : snapshot.allRefs.length ≤
      min finder.tuning.maxVirtualBranchesPerNode finder.tuning.maxPairEdgesPerPair) :
    LimitsDoNotBind finder snapshot := by
  have pathCount : snapshot.simplePaths.encard ≤
      (listsUpTo snapshot.allRefs (snapshot.tokens.length - 1)).length :=
    encard_le_length fun _ simple => GraphSnapshot.mem_listsUpTo_of_simplePath tokens simple
  have edgeCount : snapshot.edgeRefs.encard ≤ snapshot.allRefs.length :=
    encard_le_length fun _ member => GraphSnapshot.mem_allRefs member
  exact {
    topKPathsPerSide := pathCount.trans (by exact_mod_cast paths.trans (min_le_left _ _))
    pathBeamWidth := pathCount.trans (by exact_mod_cast paths.trans (min_le_right _ _))
    maxVirtualBranchesPerNode :=
      edgeCount.trans (by exact_mod_cast edges.trans (min_le_left _ _))
    maxPairEdgesPerPair := edgeCount.trans (by exact_mod_cast edges.trans (min_le_right _ _)) }

/-! ### The snapshots that are built -/

theorem searchable_build {rates : FloatRates} {snapshotId : Nat} {blockRef : Option BlockRef}
    {tokens : List TokenInfo} {pools : HashMap Address PoolState} (filed : PoolsFiled pools)
    (distinct : TokensDistinct pools) {displayAddress : Address → String}
    (tells : TellsAddresses displayAddress) :
    Searchable displayAddress (GraphSnapshot.build rates snapshotId blockRef tokens pools) where
  wellIndexed := GraphSnapshot.wellIndexed_build
  filesAll := GraphSnapshot.filesAll_build
  anchors := fun _ member => GraphSnapshot.lt_of_mem_tokenPositions member
  tokens := fun _ _ resolves => GraphSnapshot.inRange_of_edge resolves
  noLoop := fun _ _ resolves => GraphSnapshot.fromIdx_ne_toIdx distinct resolves
  keys := fun _ _ _ _ resolves resolvesOther nonempty otherNonempty same =>
    GraphSnapshot.edgeRefs_eq_of_routeCycleKey filed distinct tells resolves resolvesOther nonempty
      otherNonempty same

/-- With the distance cache of the snapshot, every cycle that the detector is meant to find is
collected, when its limits do not bind, no token paths are merged and the loops are not left because
there are enough candidates. -/
def SearchIsComplete (finder : PathFinder) (context : SearchContext) (snapshot : GraphSnapshot)
    (changedEdges : List EdgeRef) : Prop :=
  ∃ distanceCache, DistanceCache.recompute snapshot = some distanceCache ∧
    (LimitsDoNotBind finder snapshot → finder.tuning.dedupTokenPaths = false →
      (∀ progress, collectCandidates finder context snapshot changedEdges distanceCache ≠
        .error (.returned progress)) →
      ∃ progress, collectCandidates finder context snapshot changedEdges distanceCache =
        .ok progress ∧ CollectsAll finder context snapshot changedEdges progress)

/-- The detector is complete on every snapshot of pools that list no token twice. -/
theorem searchIsComplete (rates : FloatRates) (snapshotId : Nat) (blockRef : Option BlockRef)
    (tokens : List TokenInfo) (pools : HashMap Address PoolState) (finder : PathFinder)
    (context : SearchContext) (changedEdges : List EdgeRef) (filed : PoolsFiled pools)
    (distinct : TokensDistinct pools) (tells : TellsAddresses context.displayAddress) :
    SearchIsComplete finder context
      (GraphSnapshot.build rates snapshotId blockRef tokens pools) changedEdges := by
  obtain ⟨distanceCache, recomputed, fromAnchor, toAnchor⟩ : ∃ cache, DistanceCache.recompute
      (GraphSnapshot.build rates snapshotId blockRef tokens pools) = some cache ∧ _ ∧ _ :=
    GraphSnapshot.exists_recompute
  refine ⟨distanceCache, recomputed, fun limits noMerge noReturn => ?_⟩
  have collects : LeadsTo (CollectsAll finder context
      (GraphSnapshot.build rates snapshotId blockRef tokens pools) changedEdges)
      SearchEnd.IsReturn (collectCandidates finder context
        (GraphSnapshot.build rates snapshotId blockRef tokens pools) changedEdges
        distanceCache) :=
    collectsAll_collectCandidates (searchable_build filed distinct tells) limits noMerge
      ⟨fromAnchor, toAnchor⟩
  cases ended : collectCandidates finder context
      (GraphSnapshot.build rates snapshotId blockRef tokens pools) changedEdges distanceCache with
  | error early =>
    rw [ended] at collects
    obtain ⟨early, returned⟩ := collects
    exact (noReturn early (returned ▸ ended)).elim
  | ok progress =>
    rw [ended] at collects
    exact ⟨progress, rfl, collects⟩

/-! ### A pool that lists a token twice -/

def pricedToken (address : Address) (priceUsdE8 : Nat) : TokenInfo :=
  { ringToken address with manualPriceUsdE8 := some priceUsdE8 }

def deepPair (poolId first second : Address) (reserve0 reserve1 : Nat) : PoolState :=
  { ringPool poolId first second with
    state := .uniswapV2Like
      { reserve0 := reserve0 * 10 ^ 18, reserve1 := reserve1 * 10 ^ 18, feePpm := 3000 } }

/-- A pool that lists its second token twice. -/
def twinPool : PoolState :=
  { ringPool 32 1 2 with
    kind := .curvePlain
    tokenAddresses := [1, 2, 2]
    state := .curvePlain
      { balances := [800 * 10 ^ 18, 720 * 10 ^ 18, 400 * 10 ^ 18], amp := 0, fee := 0
        supportsUnderlying := false } }

def twinSnapshot : GraphSnapshot :=
  GraphSnapshot.build ratioRates 1 none [pricedToken 1 100000000, pricedToken 2 200000000]
    (HashMap.ofList [(32, twinPool), (33, deepPair 33 2 1 7 28)])

def roomyFinder : PathFinder :=
  { ringFinder with
    minTradeUsdE8 := 100000000
    tuning :=
      { ringFinder.tuning with
        topKPathsPerSide := 200, maxVirtualBranchesPerNode := 200, pathBeamWidth := 200
        maxCandidatesPerRefresh := 200, dedupTokenPaths := false, maxPairEdgesPerPair := 200 } }

def hexContext : SearchContext :=
  { ringContext with displayAddress := hexText }

def twinChanges : List EdgeRef :=
  [{ fromIdx := 0, edgeIdx := 1 }, { fromIdx := 0, edgeIdx := 2 }]

def twinDistances : DistanceCache where
  snapshotId := 1
  reachableFromAnchor := [true, true]
  reachableToAnchor := [true, true]

/-- From the first token to the copy of the second one with the lower rate. -/
def twinOutward : Edge := poolEdge ratioRates twinPool 0 1 0 2

def twinReturn : Edge := poolEdge ratioRates (deepPair 33 2 1 7 28) 1 0 0 1

def twinRefs : List EdgeRef :=
  [{ fromIdx := 0, edgeIdx := 2 }, { fromIdx := 1, edgeIdx := 0 }]

theorem limitsDoNotBind_twin : LimitsDoNotBind roomyFinder twinSnapshot :=
  limitsDoNotBind_of_counts (fun _ _ resolves => GraphSnapshot.inRange_of_edge resolves)
    (by decide +kernel) (by decide +kernel)

/-- No sum is cut when all weights fit together. -/
theorem scoreFits_of_fits {edges before after : List Edge} {edge : Edge}
    (fits : ((edges.map Edge.weightLogQ32).map Int.natAbs).sum ≤ i64Max)
    (split : edges = before ++ edge :: after) : ScoreFits before edge after := by
  have range : i64Min ≤ -(i64Max : Int) ∧ (i64Max : Int) ≤ i64Max := by
    unfold i64Min i64Max
    omega
  have magnitude := natAbs_sum_le (edges.map Edge.weightLogQ32)
  have parts := fits
  rw [split, List.append_cons, List.map_append, List.map_append, List.sum_append] at parts
  refine ⟨runningSumsFit_of_fits range (by omega), runningSumsFit_of_fits range (by omega), ?_⟩
  rw [← split]
  omega

theorem qualifyingCycle_twin : QualifyingCycle roomyFinder hexContext twinSnapshot twinChanges 0
    twinRefs [twinOutward, twinReturn] where
  isAnchor := by decide +kernel
  resolves := by decide +kernel
  cycle := ⟨List.cons_ne_nil _ _, ⟨rfl, rfl, rfl⟩, by decide +kernel⟩
  fewHops := by decide
  usable := by
    intro edgeRef member edge resolves check isCheck
    have usable : ∀ edgeRef ∈ twinRefs, ∀ edge ∈ twinSnapshot.edge edgeRef,
        edgeIsUsable roomyFinder (minTradeRawByToken twinSnapshot 100000000) 500 edge = true := by
      decide +kernel
    exact usable edgeRef member edge resolves
  changed := by
    refine ⟨twinOutward, List.mem_cons_self, { fromIdx := 0, edgeIdx := 2 },
      List.mem_cons_of_mem _ List.mem_cons_self, twinOutward, by decide +kernel, rfl⟩
  scoreFits := fun _ _ _ split _ => scoreFits_of_fits (by decide +kernel) split
  belowCutoff := by decide +kernel
  tokensAllowed := by decide +kernel
  capacity := fun _ => by decide +kernel

/-- The pool has two edges from the first token to the second, and both cycles over them have the
same key. The one with the better rate is visited first; its route has too little capacity, so it is
dropped, and the other one is then taken for seen. -/
theorem not_searchIsComplete_twin :
    ¬ SearchIsComplete roomyFinder hexContext twinSnapshot twinChanges := by
  rintro ⟨distanceCache, recomputed, complete⟩
  have marks : DistanceCache.recompute twinSnapshot = some twinDistances := by decide +kernel
  rw [marks] at recomputed
  injection recomputed with isCache
  rw [← isCache] at complete
  have nothing : (collectCandidates roomyFinder hexContext twinSnapshot twinChanges
      twinDistances).toOption.map (fun progress => progress.candidates.length) = some 0 := by
    decide +kernel
  have noReturn : ∀ progress, collectCandidates roomyFinder hexContext twinSnapshot twinChanges
      twinDistances ≠ .error (.returned progress) := by
    intro early returned
    rw [returned] at nothing
    cases nothing
  obtain ⟨progress, collected, all⟩ := complete limitsDoNotBind_twin rfl noReturn
  rw [collected] at nothing
  obtain ⟨⟨candidate, member, _⟩, _⟩ :=
    all 0 twinRefs [twinOutward, twinReturn] qualifyingCycle_twin
  injection nothing with none
  rw [List.length_eq_zero_iff.mp none] at member
  cases member

/-! ### A ring of three deep pools -/

def deepRingPool (poolId first second : Address) : PoolState :=
  deepPair poolId first second 30 33

def deepRingPools : HashMap Address PoolState :=
  HashMap.ofList
    [(32, deepRingPool 32 1 2), (33, deepRingPool 33 2 3), (34, deepRingPool 34 3 1)]

def deepRingTokens : List TokenInfo :=
  [pricedToken 1 100000000, pricedToken 2 100000000, pricedToken 3 100000000]

def deepRingSnapshot : GraphSnapshot :=
  GraphSnapshot.build ratioRates 1 none deepRingTokens deepRingPools

theorem deepRingPool_of_lookup {poolId : Address} {pool : PoolState}
    (found : deepRingPools.lookup poolId = some pool) :
    pool.poolId = poolId ∧ pool.tokenAddresses.Nodup := by
  have listed := HashMap.mem_of_lookup_ofList found
  have all : ∀ entry ∈ [((32 : Address), deepRingPool 32 1 2), (33, deepRingPool 33 2 3),
      (34, deepRingPool 34 3 1)], entry.2.poolId = entry.1 ∧ entry.2.tokenAddresses.Nodup := by
    decide +kernel
  exact all (poolId, pool) listed

def deepRingRefs : List EdgeRef :=
  [{ fromIdx := 0, edgeIdx := 1 }, { fromIdx := 1, edgeIdx := 0 }, { fromIdx := 2, edgeIdx := 0 }]

def deepRingEdges : List Edge :=
  [poolEdge ratioRates (deepRingPool 32 1 2) 0 1 0 1,
    poolEdge ratioRates (deepRingPool 33 2 3) 1 2 0 1,
    poolEdge ratioRates (deepRingPool 34 3 1) 2 0 0 1]

theorem qualifyingCycle_deepRing : QualifyingCycle roomyFinder hexContext deepRingSnapshot
    ringChanges 0 deepRingRefs deepRingEdges where
  isAnchor := by decide +kernel
  resolves := by decide +kernel
  cycle := ⟨List.cons_ne_nil _ _, ⟨rfl, rfl, rfl, rfl⟩, by decide +kernel⟩
  fewHops := by decide
  usable := by
    intro edgeRef member edge resolves check isCheck
    have usable : ∀ edgeRef ∈ deepRingRefs, ∀ edge ∈ deepRingSnapshot.edge edgeRef,
        edgeIsUsable roomyFinder (minTradeRawByToken deepRingSnapshot 100000000) 500 edge =
          true := by
      decide +kernel
    exact usable edgeRef member edge resolves
  changed := ⟨poolEdge ratioRates (deepRingPool 33 2 3) 1 2 0 1,
    List.mem_cons_of_mem _ List.mem_cons_self, { fromIdx := 1, edgeIdx := 0 }, List.mem_cons_self,
    poolEdge ratioRates (deepRingPool 33 2 3) 1 2 0 1, by decide +kernel, rfl⟩
  scoreFits := fun _ _ _ split _ => scoreFits_of_fits (by decide +kernel) split
  belowCutoff := by decide +kernel
  tokensAllowed := by decide +kernel
  capacity := fun _ => by decide +kernel

/-- On the ring the limits do not bind, and the one cycle that qualifies is collected. -/
theorem searchIsComplete_ring :
    ∃ distanceCache progress, DistanceCache.recompute deepRingSnapshot = some distanceCache ∧
      collectCandidates roomyFinder hexContext deepRingSnapshot ringChanges distanceCache =
        .ok progress ∧
      CollectsAll roomyFinder hexContext deepRingSnapshot ringChanges progress ∧
      QualifyingCycle roomyFinder hexContext deepRingSnapshot ringChanges 0 deepRingRefs
        deepRingEdges ∧
      progress.candidates.length = 1 := by
  have onRing : SearchIsComplete roomyFinder hexContext deepRingSnapshot ringChanges :=
    searchIsComplete ratioRates 1 none deepRingTokens deepRingPools roomyFinder hexContext
      ringChanges (fun _ _ found => (deepRingPool_of_lookup found).1)
      (fun _ _ found => (deepRingPool_of_lookup found).2) tellsAddresses_hexText
  obtain ⟨distanceCache, recomputed, complete⟩ := onRing
  have marks : DistanceCache.recompute deepRingSnapshot = some ringDistances := by decide +kernel
  rw [marks] at recomputed
  injection recomputed with isCache
  rw [← isCache] at complete
  have one : (collectCandidates roomyFinder hexContext deepRingSnapshot ringChanges
      ringDistances).toOption.map (fun progress => progress.candidates.length) = some 1 := by
    decide +kernel
  have limits : LimitsDoNotBind roomyFinder deepRingSnapshot :=
    limitsDoNotBind_of_counts (fun _ _ resolves => GraphSnapshot.inRange_of_edge resolves)
      (by decide +kernel) (by decide +kernel)
  have noReturn : ∀ progress, collectCandidates roomyFinder hexContext deepRingSnapshot
      ringChanges ringDistances ≠ .error (.returned progress) := by
    intro early returned
    rw [returned] at one
    cases one
  obtain ⟨progress, collected, all⟩ := complete limits rfl noReturn
  refine ⟨ringDistances, progress, marks, collected, all, qualifyingCycle_deepRing, ?_⟩
  rw [collected] at one
  exact Option.some.inj one

end DexArbitrage
