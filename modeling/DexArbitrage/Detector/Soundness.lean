/-
This file proves that the detector is sound: every candidate it returns is a
simple cycle through an anchor over edges of the snapshot that were found usable
when they were checked, with the length, the changed pair and the score that the
search asks for, and no two candidates have the same key.

The two halves of a cycle and the changed edge between them are walks that end
where the next one starts, however the searches were pruned; that the whole is
simple is what the last check of the search establishes. The loops keep that
everything collected is sound and filed in the set of keys.
-/

import DexArbitrage.Detector.PathFinder
import DexArbitrage.Graph.SpotRates

namespace DexArbitrage

section Soundness

variable (finder : PathFinder) (context : SearchContext) (snapshot : GraphSnapshot)
  (changedEdges : List EdgeRef)

/-- The candidate is the cycle of the given edges through the anchor. -/
structure IsCycleOf (candidate : CandidatePath) (anchor : Nat) (edges : List Edge) : Prop where
  isAnchor : anchor ∈ snapshot.cycleAnchorIndices
  startsAtAnchor : snapshot.tokens[anchor]?.map TokenInfo.address = some candidate.startToken
  hops : edges.map (hopOf snapshot) = candidate.path.map some
  cycle : IsSimpleCycle Edge.fromIdx Edge.toIdx anchor edges
  usable : ∀ edge ∈ edges, FoundUsable finder context snapshot
    (minTradeRawByToken snapshot finder.minTradeUsdE8) edge
  length : 2 ≤ edges.length ∧ edges.length ≤ finder.maxHops
  changed : ∃ changedRef ∈ changedEdges, ∃ changed, snapshot.edge changedRef = some changed ∧
    ∃ edge ∈ edges, (edge.fromIdx, edge.toIdx) = (changed.fromIdx, changed.toIdx)
  score : ∃ before edge after, edges = before ++ edge :: after ∧
    candidate.screeningScoreQ32 = saturatingAddI64
      (saturatingAddI64 (saturatingSum i64Min i64Max (before.map Edge.weightLogQ32))
        edge.weightLogQ32)
      (saturatingSum i64Min i64Max (after.map Edge.weightLogQ32))
  cutoff : candidate.screeningScoreQ32 < finder.screeningCutoffQ32

def SoundCandidate (candidate : CandidatePath) : Prop :=
  ∃ anchor edges, IsCycleOf finder context snapshot changedEdges candidate anchor edges

/-- Sound candidates with pairwise different keys. -/
structure SoundCandidates (candidates : List CandidatePath) : Prop where
  sound : ∀ candidate ∈ candidates, SoundCandidate finder context snapshot changedEdges candidate
  distinctKeys : (candidates.map CandidatePath.cycleKey).Nodup

variable {finder context snapshot changedEdges}

theorem SoundCandidates.of_subperm {candidates selected : List CandidatePath}
    (all : SoundCandidates finder context snapshot changedEdges candidates)
    (fewer : selected.Subperm candidates) :
    SoundCandidates finder context snapshot changedEdges selected := by
  obtain ⟨reordered, perm, sublist⟩ := fewer
  refine ⟨fun candidate member => ?_, ?_⟩
  · exact all.sound candidate (sublist.subset (perm.mem_iff.mpr member))
  exact (perm.map _).nodup_iff.mp (all.distinctKeys.sublist (sublist.map _))

/-- Weights whose magnitudes fit an `i64` together are added up exactly. -/
theorem IsCycleOf.screeningScoreQ32_eq_sum {candidate : CandidatePath} {anchor : Nat}
    {edges : List Edge}
    (isCycle : IsCycleOf finder context snapshot changedEdges candidate anchor edges)
    (fits : ((edges.map Edge.weightLogQ32).map Int.natAbs).sum ≤ i64Max) :
    candidate.screeningScoreQ32 = (edges.map Edge.weightLogQ32).sum := by
  obtain ⟨before, edge, after, split, score⟩ := isCycle.score
  have range : i64Min ≤ -(i64Max : Int) ∧ (i64Max : Int) ≤ i64Max := by
    unfold i64Min i64Max
    omega
  have regrouped : edges.map Edge.weightLogQ32 =
      (before.map Edge.weightLogQ32 ++ [edge.weightLogQ32]) ++ after.map Edge.weightLogQ32 := by
    rw [split, List.map_append, List.map_cons, List.append_assoc]
    rfl
  rw [regrouped] at fits ⊢
  rw [score, ← saturatingAddInt_saturatingSum range fits, saturatingSum_concat]
  rfl

/-! ### The hops of a route -/

theorem map_hopOf_of_candidateHops {edgeRefs : List EdgeRef} {edges : List Edge}
    (resolves : edgeRefs.map snapshot.edge = edges.map some) {hops : List CandidateHop}
    (built : candidateHops snapshot edgeRefs = some (some hops)) :
    edges.map (hopOf snapshot) = hops.map some := by
  replace resolves := forall₂_of_map_eq_some resolves
  induction resolves generalizing hops with
  | nil =>
    cases built
    rfl
  | cons isEdge _ inductionHypothesis =>
    unfold candidateHops at built
    rw [isEdge] at built
    obtain ⟨hop, isHop, built⟩ := Option.bind_eq_some_iff.mp built
    obtain ⟨others?, othersBuilt, same⟩ := Option.bind_eq_some_iff.mp built
    injection same with same
    obtain ⟨others, isOthers, same⟩ := Option.map_eq_some_iff.mp same
    rw [isOthers] at othersBuilt
    rw [← same, List.map_cons, List.map_cons, isHop, inductionHypothesis othersBuilt]

/-- What a materialized candidate carries over. -/
theorem materializeCandidate_eq_some {anchorIdx : Nat} {key : String} {scoreQ32 : Int}
    {edgeRefs : List EdgeRef} {changedEdgeRef : EdgeRef} {candidate : CandidatePath}
    (materialized : materializeCandidate finder context snapshot changedEdges anchorIdx key scoreQ32
      edgeRefs changedEdgeRef = some (some candidate)) :
    candidate.cycleKey = key ∧ candidate.screeningScoreQ32 = scoreQ32 ∧
      snapshot.tokens[anchorIdx]?.map TokenInfo.address = some candidate.startToken ∧
      candidateHops snapshot edgeRefs = some (some candidate.path) := by
  unfold materializeCandidate at materialized
  split at materialized
  · cases materialized
  · obtain ⟨path?, built, rest⟩ := Option.bind_eq_some_iff.mp materialized
    cases path? with
    | none => cases rest
    | some path =>
      dsimp only at rest
      split at rest
      · cases rest
      · split at rest
        · cases rest
        · split at rest
          · cases rest
          · obtain ⟨anchor, atAnchor, same⟩ := Option.bind_eq_some_iff.mp rest
            injection same with same
            injection same with same
            subst same
            exact ⟨rfl, rfl, by rw [atAnchor]; rfl, built⟩

/-! ### What the loops keep -/

/-- All candidates that have been collected, in whichever way they are collected. -/
def SearchProgress.found (progress : SearchProgress) : List CandidatePath :=
  progress.candidates ++ progress.tokenPathCandidates.values.flatten

variable (finder context snapshot changedEdges) in
/-- What has been collected is sound and filed among the keys. -/
structure SearchProgress.Sound (progress : SearchProgress) : Prop where
  candidates : SoundCandidates finder context snapshot changedEdges progress.found
  filed : ∀ candidate ∈ progress.found, candidate.cycleKey ∈ progress.dedup

variable (finder context snapshot changedEdges) in
/-- What the loops return when they are left early is sound. -/
def SearchEnd.Sound : SearchEnd → Prop
  | panicked => True
  | returned progress => progress.Sound finder context snapshot changedEdges

theorem SearchProgress.sound_start :
    SearchProgress.start.Sound finder context snapshot changedEdges where
  candidates := ⟨fun _ member => (nomatch member), List.nodup_nil⟩
  filed := fun _ member => nomatch member

theorem SearchProgress.subperm_collected (progress : SearchProgress) :
    (progress.collected finder context).Subperm progress.found := by
  unfold collected found
  split
  · have flattened : (flattenCandidateMap context progress.tokenPathCandidates).Perm
        progress.tokenPathCandidates.values.flatten :=
      (context.variantsOrder.perm _).flatten
    exact flattened.subperm.trans (List.sublist_append_right _ _).subperm
  · exact (List.sublist_append_left _ _).subperm

theorem SearchProgress.Sound.finalized {progress : SearchProgress}
    (sound : progress.Sound finder context snapshot changedEdges) :
    SoundCandidates finder context snapshot changedEdges
      (finalizeCandidates finder context (progress.collected finder context)) :=
  sound.candidates.of_subperm
    ((subperm_finalizeCandidatesWithTuning _ _ _ _ _ _).trans progress.subperm_collected)

/-- The loops go on, or are left because there are enough candidates. -/
theorem SearchProgress.Sound.leadsTo {progress : SearchProgress}
    (sound : progress.Sound finder context snapshot changedEdges) (enough : Prop)
    [Decidable enough] :
    LeadsTo (SearchProgress.Sound finder context snapshot changedEdges)
      (SearchEnd.Sound finder context snapshot changedEdges)
      (if enough then .error (.returned progress) else .ok progress) := by
  split
  · exact sound
  · exact sound

theorem leadsTo_acceptCandidate {progress : SearchProgress} {candidate : CandidatePath}
    (all : SoundCandidates finder context snapshot changedEdges (candidate :: progress.found))
    (filed : ∀ known ∈ candidate :: progress.found, known.cycleKey ∈ progress.dedup) :
    LeadsTo (SearchProgress.Sound finder context snapshot changedEdges)
      (SearchEnd.Sound finder context snapshot changedEdges)
      (acceptCandidate finder context changedEdges progress candidate) := by
  have stillFiled : ∀ found : List CandidatePath, found.Subperm (candidate :: progress.found) →
      ∀ known ∈ found, known.cycleKey ∈ progress.dedup :=
    fun found fewer known member => filed known (fewer.subset member)
  unfold acceptCandidate
  dsimp only
  cases finder.tuning.dedupTokenPaths with
  | true =>
    have kept := subperm_insertTokenPathVariant progress.tokenPathCandidates
      (candidateTokenCycleKey context.displayAddress candidate) candidate
      finder.tuning.poolVariantsPerTokenPath
    have fewer : (progress.candidates ++ (insertTokenPathVariant progress.tokenPathCandidates
        (candidateTokenCycleKey context.displayAddress candidate) candidate
        finder.tuning.poolVariantsPerTokenPath).1.values.flatten).Subperm
          (candidate :: progress.found) :=
      ((List.subperm_append_left progress.candidates).mpr kept).trans List.perm_middle.subperm
    refine SearchProgress.Sound.leadsTo ?_ _
    exact ⟨all.of_subperm fewer, stillFiled _ fewer⟩
  | false =>
    have fewer : (progress.candidates ++ [candidate] ++
        progress.tokenPathCandidates.values.flatten).Subperm (candidate :: progress.found) := by
      rw [List.append_assoc]
      exact List.perm_middle.subperm
    refine SearchProgress.Sound.leadsTo ?_ _
    exact ⟨all.of_subperm fewer, stillFiled _ fewer⟩

/-- The parts of a route: a walk from an anchor to an edge of a changed pair, this edge, and a walk
back. -/
structure RouteParts (finder : PathFinder) (context : SearchContext) (snapshot : GraphSnapshot)
    (changedEdges : List EdgeRef) (anchorIdx changedTo : Nat) (changedPathRef : EdgeRef)
    (prefixPath suffixPath : SearchPath) (before : List Edge) (edge : Edge) (after : List Edge) :
    Prop where
  isAnchor : anchorIdx ∈ snapshot.cycleAnchorIndices
  prefixFollows : prefixPath.Follows finder context snapshot
    (minTradeRawByToken snapshot finder.minTradeUsdE8) anchorIdx edge.fromIdx before
  resolves : snapshot.edge changedPathRef = some edge
  arrives : edge.toIdx = changedTo
  usable : FoundUsable finder context snapshot (minTradeRawByToken snapshot finder.minTradeUsdE8)
    edge
  suffixFollows : suffixPath.Follows finder context snapshot
    (minTradeRawByToken snapshot finder.minTradeUsdE8) changedTo anchorIdx after
  changed : ∃ changedRef ∈ changedEdges, ∃ changed, snapshot.edge changedRef = some changed ∧
    (edge.fromIdx, edge.toIdx) = (changed.fromIdx, changed.toIdx)

section Route

variable {anchorIdx changedTo : Nat} {changedPathRef : EdgeRef} {prefixPath suffixPath : SearchPath}
  {before after : List Edge} {edge : Edge}

theorem RouteParts.resolves_routeEdgeRefs
    (parts : RouteParts finder context snapshot changedEdges anchorIdx changedTo changedPathRef
      prefixPath suffixPath before edge after) :
    (routeEdgeRefs prefixPath changedPathRef suffixPath).map snapshot.edge =
      (before ++ edge :: after).map some := by
  unfold routeEdgeRefs
  rw [List.map_append, List.map_append, parts.prefixFollows.resolves, List.map_singleton,
    parts.resolves, parts.suffixFollows.resolves, List.map_append, List.map_cons,
    List.append_assoc]
  rfl

theorem RouteParts.length_edges
    (parts : RouteParts finder context snapshot changedEdges anchorIdx changedTo changedPathRef
      prefixPath suffixPath before edge after) :
    (before ++ edge :: after).length =
      prefixPath.edgeRefs.length + 1 + suffixPath.edgeRefs.length := by
  have beforeLength := congrArg List.length parts.prefixFollows.resolves
  have afterLength := congrArg List.length parts.suffixFollows.resolves
  rw [List.length_map, List.length_map] at beforeLength afterLength
  rw [List.length_append, List.length_cons, beforeLength, afterLength]
  omega

/-- The two halves of a route and the edge between them are one closed walk. -/
theorem RouteParts.closed
    (parts : RouteParts finder context snapshot changedEdges anchorIdx changedTo changedPathRef
      prefixPath suffixPath before edge after) :
    IsWalk Edge.fromIdx Edge.toIdx anchorIdx (before ++ edge :: after) anchorIdx := by
  refine parts.prefixFollows.walk.append ⟨rfl, ?_⟩
  rw [parts.arrives]
  exact parts.suffixFollows.walk

/-- The tokens that the last check looks at are those of the stitched walk. -/
theorem RouteParts.tokens
    (parts : RouteParts finder context snapshot changedEdges anchorIdx changedTo changedPathRef
      prefixPath suffixPath before edge after) :
    prefixPath.tokens ++ [changedTo] ++ suffixPath.tokens.drop 1 =
      anchorIdx :: (before ++ edge :: after).map Edge.toIdx := by
  rw [parts.prefixFollows.tokens, parts.suffixFollows.tokens, List.map_append, List.map_cons,
    parts.arrives]
  simp

/-- The last check of the search finds out whether the route is a simple cycle of more than one
edge. -/
theorem RouteParts.formsSimpleCycle_iff
    (parts : RouteParts finder context snapshot changedEdges anchorIdx changedTo changedPathRef
      prefixPath suffixPath before edge after) :
    formsSimpleCycle prefixPath changedTo suffixPath = true ↔
      2 ≤ (before ++ edge :: after).length ∧
        IsSimpleCycle Edge.fromIdx Edge.toIdx anchorIdx (before ++ edge :: after) := by
  have sources : (anchorIdx :: (before ++ edge :: after).map Edge.toIdx).take
      ((anchorIdx :: (before ++ edge :: after).map Edge.toIdx).length - 1) =
      (before ++ edge :: after).map Edge.fromIdx := by
    rw [← List.dropLast_eq_take, parts.closed.dropLast_visited]
  have returns : (anchorIdx :: (before ++ edge :: after).map Edge.toIdx).head? =
      (anchorIdx :: (before ++ edge :: after).map Edge.toIdx).getLast? := by
    rw [parts.closed.getLast?_visited, List.head?_cons]
  have tokenCount : (anchorIdx :: (before ++ edge :: after).map Edge.toIdx).length =
      (before ++ edge :: after).length + 1 := by
    rw [List.length_cons, List.length_map]
  unfold formsSimpleCycle
  dsimp only
  rw [parts.tokens, sources]
  split
  · rename_i tooShort
    have few : (before ++ edge :: after).length < 2 := by
      rcases tooShort with short | open_
      · omega
      · exact (open_ returns).elim
    exact iff_of_false Bool.false_ne_true fun cycle => Nat.not_le.mpr few cycle.1
  · rename_i long
    rw [decide_eq_true_iff]
    constructor
    · intro distinct
      exact ⟨by omega, List.append_ne_nil_of_right_ne_nil _ (List.cons_ne_nil _ _), parts.closed,
        distinct⟩
    · exact fun cycle => cycle.2.simple

/-- A route that passes the checks of the search is a sound candidate. -/
theorem RouteParts.isCycleOf
    (parts : RouteParts finder context snapshot changedEdges anchorIdx changedTo changedPathRef
      prefixPath suffixPath before edge after)
    (fewHops : prefixPath.edgeRefs.length + 1 + suffixPath.edgeRefs.length ≤ finder.maxHops)
    (severalHops : 2 ≤ prefixPath.edgeRefs.length + 1 + suffixPath.edgeRefs.length)
    (simple : formsSimpleCycle prefixPath changedTo suffixPath = true)
    {scoreQ32 : Int}
    (score : scoreQ32 = saturatingAddI64 (saturatingAddI64 prefixPath.scoreQ32 edge.weightLogQ32)
      suffixPath.scoreQ32)
    (cutoff : scoreQ32 < finder.screeningCutoffQ32)
    {key : String} {changedEdgeRef : EdgeRef} {candidate : CandidatePath}
    (materialized : materializeCandidate finder context snapshot changedEdges anchorIdx key scoreQ32
      (routeEdgeRefs prefixPath changedPathRef suffixPath) changedEdgeRef =
        some (some candidate)) :
    IsCycleOf finder context snapshot changedEdges candidate anchorIdx
      (before ++ edge :: after) := by
  obtain ⟨_, hasScore, startsAtAnchor, built⟩ := materializeCandidate_eq_some materialized
  have length := parts.length_edges
  obtain ⟨changedRef, isChanged, changed, found, samePair⟩ := parts.changed
  exact {
    isAnchor := parts.isAnchor
    startsAtAnchor := startsAtAnchor
    hops := map_hopOf_of_candidateHops parts.resolves_routeEdgeRefs built
    cycle := (parts.formsSimpleCycle_iff.mp simple).2
    usable := by
      intro listed member
      rcases List.mem_append.mp member with inBefore | inRest
      · exact parts.prefixFollows.usable listed inBefore
      · rcases List.mem_cons.mp inRest with same | inAfter
        · rw [same]
          exact parts.usable
        · exact parts.suffixFollows.usable listed inAfter
    length := by omega
    changed := ⟨changedRef, isChanged, changed, found, edge,
      List.mem_append_right _ List.mem_cons_self, samePair⟩
    score := by
      refine ⟨before, edge, after, rfl, ?_⟩
      rw [hasScore, score, parts.prefixFollows.score, parts.suffixFollows.score]
    cutoff := by
      rw [hasScore]
      exact cutoff }

theorem leadsTo_visitRoute
    (parts : RouteParts finder context snapshot changedEdges anchorIdx changedTo changedPathRef
      prefixPath suffixPath before edge after)
    (changedEdgeRef : EdgeRef) {progress : SearchProgress}
    (sound : progress.Sound finder context snapshot changedEdges) :
    LeadsTo (SearchProgress.Sound finder context snapshot changedEdges)
      (SearchEnd.Sound finder context snapshot changedEdges)
      (visitRoute finder context snapshot changedEdges anchorIdx changedTo changedEdgeRef
        changedPathRef prefixPath suffixPath progress) := by
  unfold visitRoute
  rw [parts.resolves]
  dsimp only
  split
  · exact sound
  · rename_i hops
    split
    · exact sound
    · rename_i simple
      split
      · exact sound
      · rename_i aboveCutoff
        split
        · exact sound
        · rename_i unfiled
          have filed : ∀ candidate ∈ progress.found, candidate.cycleKey ∈
              routeCycleKey context.displayAddress snapshot
                (routeEdgeRefs prefixPath changedPathRef suffixPath) :: progress.dedup :=
            fun candidate member => List.mem_cons_of_mem _ (sound.filed candidate member)
          split
          · trivial
          · exact ⟨sound.candidates, filed⟩
          · rename_i candidate materialized
            have isCycle := parts.isCycleOf (by omega) (by omega) (by simpa using simple) rfl
              (by omega) materialized
            obtain ⟨hasKey, _⟩ := materializeCandidate_eq_some materialized
            refine leadsTo_acceptCandidate ⟨?_, ?_⟩ ?_
            · exact List.forall_mem_cons.mpr ⟨⟨_, _, isCycle⟩, sound.candidates.sound⟩
            · refine List.nodup_cons.mpr ⟨fun found => ?_, sound.candidates.distinctKeys⟩
              obtain ⟨known, member, sameKey⟩ := List.mem_map.mp found
              rw [hasKey] at sameKey
              exact unfiled (sameKey ▸ sound.filed known member)
            · refine List.forall_mem_cons.mpr ⟨?_, filed⟩
              rw [hasKey]
              exact List.mem_cons_self

end Route

/-! ### The loops -/

/-- The edge connects the tokens of the changed edge. -/
def SamePair (snapshot : GraphSnapshot) (changedEdgeRef : EdgeRef) (edge : Edge) : Prop :=
  ∃ changed, snapshot.edge changedEdgeRef = some changed ∧
    (edge.fromIdx, edge.toIdx) = (changed.fromIdx, changed.toIdx)

/-- Every visit of a route keeps the property, or leaves the loops with another one. -/
def KeptByRoutes (finder : PathFinder) (context : SearchContext) (snapshot : GraphSnapshot)
    (changedEdges : List EdgeRef) (keeps : SearchProgress → Prop) (ends : SearchEnd → Prop) :
    Prop :=
  ∀ anchorIdx changedTo changedEdgeRef changedPathRef prefixPath suffixPath before edge after,
    RouteParts finder context snapshot changedEdges anchorIdx changedTo changedPathRef prefixPath
      suffixPath before edge after →
    SamePair snapshot changedEdgeRef edge → ∀ progress, keeps progress →
      LeadsTo keeps ends (visitRoute finder context snapshot changedEdges anchorIdx changedTo
        changedEdgeRef changedPathRef prefixPath suffixPath progress)

section Loops

variable {keeps : SearchProgress → Prop} {ends : SearchEnd → Prop}

/-- What a route is made of when it is visited. -/
theorem exists_routeParts (wellIndexed : snapshot.WellIndexed) {anchorIdx : Nat}
    (isAnchor : anchorIdx ∈ snapshot.cycleAnchorIndices) {changedFrom changedTo : Nat}
    {changedEdgeRef : EdgeRef} {changedEdge : Edge} (isChanged : changedEdgeRef ∈ changedEdges)
    (resolves : snapshot.edge changedEdgeRef = some changedEdge)
    (pair : (changedEdge.fromIdx, changedEdge.toIdx) = (changedFrom, changedTo))
    {changedPathRef : EdgeRef} {prefixPath suffixPath : SearchPath} {maxSideHops : Nat}
    (inPair : changedPathRef ∈ candidatePairEdges finder context snapshot
      (minTradeRawByToken snapshot finder.minTradeUsdE8) changedFrom changedTo)
    (inPrefixes : prefixPath ∈ findTopPaths finder context snapshot
      (minTradeRawByToken snapshot finder.minTradeUsdE8) anchorIdx changedFrom maxSideHops)
    (inSuffixes : suffixPath ∈ findTopPaths finder context snapshot
      (minTradeRawByToken snapshot finder.minTradeUsdE8) changedTo anchorIdx maxSideHops) :
    ∃ before edge after, RouteParts finder context snapshot changedEdges anchorIdx changedTo
      changedPathRef prefixPath suffixPath before edge after ∧
      SamePair snapshot changedEdgeRef edge := by
  obtain ⟨edge, found, leaves, arrives, usable⟩ := mem_candidatePairEdges wellIndexed inPair
  obtain ⟨before, prefixFollows⟩ := follows_findTopPaths wellIndexed inPrefixes
  obtain ⟨after, suffixFollows⟩ := follows_findTopPaths wellIndexed inSuffixes
  have samePair : SamePair snapshot changedEdgeRef edge :=
    ⟨changedEdge, resolves, by rw [pair, leaves, arrives]⟩
  exact ⟨before, edge, after, {
    isAnchor
    prefixFollows := leaves ▸ prefixFollows
    resolves := found
    arrives
    usable
    suffixFollows
    changed := ⟨changedEdgeRef, isChanged, samePair⟩ }, samePair⟩

/-- The loop over the paths back to the anchor. -/
theorem KeptByRoutes.visitSuffixes
    (kept : KeptByRoutes finder context snapshot changedEdges keeps ends)
    (wellIndexed : snapshot.WellIndexed) {anchorIdx : Nat}
    (isAnchor : anchorIdx ∈ snapshot.cycleAnchorIndices) {changedFrom changedTo : Nat}
    {changedEdgeRef : EdgeRef} {changedEdge : Edge} (isChanged : changedEdgeRef ∈ changedEdges)
    (resolves : snapshot.edge changedEdgeRef = some changedEdge)
    (pair : (changedEdge.fromIdx, changedEdge.toIdx) = (changedFrom, changedTo))
    {changedPathRef : EdgeRef} {prefixPath : SearchPath} {maxSideHops : Nat}
    (inPair : changedPathRef ∈ candidatePairEdges finder context snapshot
      (minTradeRawByToken snapshot finder.minTradeUsdE8) changedFrom changedTo)
    (inPrefixes : prefixPath ∈ findTopPaths finder context snapshot
      (minTradeRawByToken snapshot finder.minTradeUsdE8) anchorIdx changedFrom maxSideHops)
    {progress : SearchProgress} (holds : keeps progress) :
    LeadsTo keeps ends
      ((findTopPaths finder context snapshot
        (minTradeRawByToken snapshot finder.minTradeUsdE8) changedTo anchorIdx maxSideHops).foldlM
        (fun progress suffixPath => visitRoute finder context snapshot changedEdges anchorIdx
          changedTo changedEdgeRef changedPathRef prefixPath suffixPath progress) progress) := by
  refine leadsTo_foldlM (fun suffixPath inSuffixes progress holds => ?_) holds
  obtain ⟨before, edge, after, parts, samePair⟩ := exists_routeParts wellIndexed isAnchor
    isChanged resolves pair inPair inPrefixes inSuffixes
  exact kept _ _ _ _ _ _ _ _ _ parts samePair progress holds

/-- The loops over the paths on both sides. -/
theorem KeptByRoutes.visitPrefixes
    (kept : KeptByRoutes finder context snapshot changedEdges keeps ends)
    (wellIndexed : snapshot.WellIndexed) {anchorIdx : Nat}
    (isAnchor : anchorIdx ∈ snapshot.cycleAnchorIndices) {changedFrom changedTo : Nat}
    {changedEdgeRef : EdgeRef} {changedEdge : Edge} (isChanged : changedEdgeRef ∈ changedEdges)
    (resolves : snapshot.edge changedEdgeRef = some changedEdge)
    (pair : (changedEdge.fromIdx, changedEdge.toIdx) = (changedFrom, changedTo))
    {changedPathRef : EdgeRef} {maxSideHops : Nat}
    (inPair : changedPathRef ∈ candidatePairEdges finder context snapshot
      (minTradeRawByToken snapshot finder.minTradeUsdE8) changedFrom changedTo)
    {progress : SearchProgress} (holds : keeps progress) :
    LeadsTo keeps ends
      ((findTopPaths finder context snapshot
        (minTradeRawByToken snapshot finder.minTradeUsdE8) anchorIdx changedFrom
        maxSideHops).foldlM (fun progress prefixPath =>
          (findTopPaths finder context snapshot
            (minTradeRawByToken snapshot finder.minTradeUsdE8) changedTo anchorIdx
            maxSideHops).foldlM (fun progress suffixPath =>
              visitRoute finder context snapshot changedEdges anchorIdx changedTo changedEdgeRef
                changedPathRef prefixPath suffixPath progress) progress) progress) :=
  leadsTo_foldlM (fun _ inPrefixes _ holds => kept.visitSuffixes wellIndexed isAnchor isChanged
    resolves pair inPair inPrefixes holds) holds

/-- The loops over the edges of a changed pair and over the paths on both sides. -/
theorem KeptByRoutes.visitAnchor
    (kept : KeptByRoutes finder context snapshot changedEdges keeps ends)
    (wellIndexed : snapshot.WellIndexed) {anchorIdx : Nat}
    (isAnchor : anchorIdx ∈ snapshot.cycleAnchorIndices) {changedFrom changedTo : Nat}
    {changedEdgeRef : EdgeRef} {changedEdge : Edge} (isChanged : changedEdgeRef ∈ changedEdges)
    (resolves : snapshot.edge changedEdgeRef = some changedEdge)
    (pair : (changedEdge.fromIdx, changedEdge.toIdx) = (changedFrom, changedTo))
    {progress : SearchProgress} (holds : keeps progress) :
    LeadsTo keeps ends
      (visitAnchor finder context snapshot changedEdges changedFrom changedTo changedEdgeRef
        (candidatePairEdges finder context snapshot
          (minTradeRawByToken snapshot finder.minTradeUsdE8) changedFrom changedTo)
        progress anchorIdx) := by
  unfold DexArbitrage.visitAnchor
  dsimp only
  split
  · exact holds
  · split
    · exact holds
    · exact leadsTo_foldlM (fun _ inPair _ holds => kept.visitPrefixes wellIndexed isAnchor
        isChanged resolves pair inPair holds) holds

theorem KeptByRoutes.visitPair
    (kept : KeptByRoutes finder context snapshot changedEdges keeps ends)
    (wellIndexed : snapshot.WellIndexed) {distanceCache : DistanceCache}
    {changed : (Nat × Nat) × EdgeRef}
    (member : changed ∈ changedVirtualPairs context snapshot changedEdges)
    (panics : distanceCache.reachableFromAnchor[changed.1.1]? = none ∨
      distanceCache.reachableToAnchor[changed.1.2]? = none → ends .panicked)
    {progress : SearchProgress} (holds : keeps progress) :
    LeadsTo keeps ends
      (visitPair finder context snapshot changedEdges distanceCache progress changed) := by
  obtain ⟨isChanged, changedEdge, resolves, pair⟩ := mem_changedVirtualPairs member
  unfold DexArbitrage.visitPair
  split
  · rename_i outOfRange
    exact panics (Or.inl outOfRange)
  · exact holds
  · split
    · rename_i outOfRange
      exact panics (Or.inr outOfRange)
    · exact holds
    · dsimp only
      split
      · exact holds
      · refine leadsTo_foldlM (fun anchorIdx isAnchor progress holds => ?_) holds
        exact kept.visitAnchor wellIndexed isAnchor isChanged resolves pair holds

theorem KeptByRoutes.collectCandidates
    (kept : KeptByRoutes finder context snapshot changedEdges keeps ends)
    (wellIndexed : snapshot.WellIndexed) {distanceCache : DistanceCache}
    (panics : ∀ changed ∈ changedVirtualPairs context snapshot changedEdges,
      distanceCache.reachableFromAnchor[changed.1.1]? = none ∨
        distanceCache.reachableToAnchor[changed.1.2]? = none → ends .panicked)
    (holds : keeps SearchProgress.start) :
    LeadsTo keeps ends
      (collectCandidates finder context snapshot changedEdges distanceCache) := by
  unfold DexArbitrage.collectCandidates
  dsimp only
  split
  · exact holds
  · split
    · exact holds
    · exact leadsTo_foldlM (fun changed member progress holds =>
        kept.visitPair wellIndexed member (panics changed member) holds) holds

end Loops

/-- Whatever has been collected is sound. -/
theorem sound_collectCandidates (wellIndexed : snapshot.WellIndexed)
    (distanceCache : DistanceCache) :
    LeadsTo (SearchProgress.Sound finder context snapshot changedEdges)
      (SearchEnd.Sound finder context snapshot changedEdges)
      (collectCandidates finder context snapshot changedEdges distanceCache) := by
  have kept : KeptByRoutes finder context snapshot changedEdges
      (SearchProgress.Sound finder context snapshot changedEdges)
      (SearchEnd.Sound finder context snapshot changedEdges) :=
    fun _ _ changedEdgeRef _ _ _ _ _ _ parts _ _ sound =>
      leadsTo_visitRoute parts changedEdgeRef sound
  exact kept.collectCandidates wellIndexed (fun _ _ _ => trivial) SearchProgress.sound_start

/-- Whatever a call returns is sound. -/
theorem soundCandidates_of_returned (wellIndexed : snapshot.WellIndexed)
    (distanceCache : DistanceCache) {candidates : List CandidatePath}
    (returned : findCandidates finder context snapshot changedEdges distanceCache =
      some candidates) :
    SoundCandidates finder context snapshot changedEdges candidates := by
  have collects : LeadsTo (SearchProgress.Sound finder context snapshot changedEdges)
      (SearchEnd.Sound finder context snapshot changedEdges)
      (collectCandidates finder context snapshot changedEdges distanceCache) :=
    sound_collectCandidates wellIndexed distanceCache
  rw [findCandidates_eq] at returned
  obtain ⟨progress, ended, same⟩ := Option.map_eq_some_iff.mp returned
  rw [← same]
  unfold endedWith at ended
  split at ended
  · rename_i result
    rw [result] at collects
    injection ended with ended
    exact ended ▸ collects.finalized
  · rename_i result
    rw [result] at collects
    injection ended with ended
    exact ended ▸ SearchProgress.Sound.finalized collects
  · cases ended

end Soundness

/-! ### The detector on the snapshots that are built -/

/-- The detector is sound: on every snapshot that is built, with every distance cache, every list
of changed edges, every setting and everything a call may read, what it returns are simple cycles
of usable edges through an anchor, with pairwise different keys. -/
theorem findCandidates_sound (rates : FloatRates) (snapshotId : Nat) (blockRef : Option BlockRef)
    (tokens : List TokenInfo) (pools : HashMap Address PoolState) (finder : PathFinder)
    (context : SearchContext) (changedEdges : List EdgeRef) (distanceCache : DistanceCache)
    {candidates : List CandidatePath}
    (returned : findCandidates finder context
      (GraphSnapshot.build rates snapshotId blockRef tokens pools) changedEdges distanceCache =
        some candidates) :
    (∀ candidate ∈ candidates, ∃ anchor edges,
      IsCycleOf finder context (GraphSnapshot.build rates snapshotId blockRef tokens pools)
        changedEdges candidate anchor edges ∧
      (((edges.map Edge.weightLogQ32).map Int.natAbs).sum ≤ i64Max →
        candidate.screeningScoreQ32 = (edges.map Edge.weightLogQ32).sum)) ∧
    (candidates.map CandidatePath.cycleKey).Nodup := by
  have all := soundCandidates_of_returned GraphSnapshot.wellIndexed_build distanceCache returned
  refine ⟨fun candidate member => ?_, all.distinctKeys⟩
  obtain ⟨anchor, edges, isCycle⟩ := all.sound candidate member
  exact ⟨anchor, edges, isCycle, isCycle.screeningScoreQ32_eq_sum⟩

/-! ### A ring of three pools -/

def ringToken (address : Address) : TokenInfo where
  address := address
  symbol := ""
  decimals := 18
  isStable := false
  isCycleAnchor := address = 1
  flashLoanEnabled := false
  allowSelfFunded := true
  manualPriceUsdE8 := none
  maxPositionUsdE8 := none
  maxFlashLoanUsdE8 := none

def ringPool (poolId first second : Address) : PoolState where
  poolId := poolId
  dexName := "uniswap_v2"
  kind := .uniswapV2Like
  tokenAddresses := [first, second]
  factory := none
  registry := none
  vault := none
  quoter := none
  admissionStatus := .allowed
  health :=
    { stale := false, paused := false, quarantined := false, confidenceBps := 10000
      lastSuccessfulRefreshBlock := 100, lastRefreshAt := 0, recentRevertCount := 0 }
  state := .uniswapV2Like { reserve0 := 1000, reserve1 := 1100, feePpm := 3000 }
  lastUpdatedBlock := 100

def ringTokens : List TokenInfo :=
  [ringToken 1, ringToken 2, ringToken 3]

def ringPools : HashMap Address PoolState :=
  HashMap.ofList
    [(10, ringPool 10 1 2), (11, ringPool 11 2 3), (12, ringPool 12 3 1)]

def ringFinder : PathFinder where
  maxHops := 3
  screeningCutoffQ32 := -100
  minPoolConfidenceBps := 5000
  stalenessTimeout := 1000
  minTradeUsdE8 := 0
  tuning :=
    { topKPathsPerSide := 4, maxVirtualBranchesPerNode := 4, pathBeamWidth := 4
      maxCandidatesPerRefresh := 4, candidateSelectionBufferMultiplier := 1
      dedupTokenPaths := true, maxPairEdgesPerPair := 2, poolVariantsPerTokenPath := 3
      canonicalVariantsPerCycle := 3, anchorVariantsPerCycle := 1 }

def ringContext : SearchContext where
  clock _ := 500
  pairsOrder := inStoredOrder
  outgoingOrder _ := inStoredOrder
  variantsOrder := inStoredOrder
  displayAddress address := if address = 1 then "1" else if address = 2 then "2" else "other"
  routeStartCapacityRaw := routeStartCapacityRaw
  env :=
    { routeCapacityPrefilterMaxChangedEdges := none
      candidateSelectionLargeRefreshThreshold := none
      candidateSelectionLargeRefreshMultiplier := none
      searchFillRotatedCandidates := none
      requireTrustedRouteTokens := none
      executionAllowFlashLoanTokens := none
      executionTrustedSymbols := []
      executionTrustedTokens := []
      executionExcludedSymbolContains := []
      executionExcludedTokens := [] }

def ringSnapshot : GraphSnapshot :=
  GraphSnapshot.build ratioRates 1 none ringTokens ringPools

def ringChanges : List EdgeRef :=
  [{ fromIdx := 1, edgeIdx := 0 }, { fromIdx := 1, edgeIdx := 1 }]

def ringDistances : DistanceCache where
  snapshotId := 1
  reachableFromAnchor := [true, true, true]
  reachableToAnchor := [true, true, true]

/-- A call that returns the ring of the three pools. -/
theorem findCandidates_sound_ring :
    ∃ candidates, findCandidates ringFinder ringContext ringSnapshot ringChanges
        ringDistances = some candidates ∧ candidates.length = 1 ∧
      (∀ candidate ∈ candidates, ∃ anchor edges,
        IsCycleOf ringFinder ringContext ringSnapshot ringChanges candidate anchor
          edges ∧
        (((edges.map Edge.weightLogQ32).map Int.natAbs).sum ≤ i64Max →
          candidate.screeningScoreQ32 = (edges.map Edge.weightLogQ32).sum)) ∧
      (candidates.map CandidatePath.cycleKey).Nodup := by
  have one : (findCandidates ringFinder ringContext ringSnapshot ringChanges
      ringDistances).map List.length = some 1 := by decide +kernel
  obtain ⟨candidates, returned, length⟩ := Option.map_eq_some_iff.mp one
  exact ⟨candidates, returned, length, findCandidates_sound ratioRates 1 none ringTokens
    ringPools ringFinder ringContext ringChanges ringDistances returned⟩

end DexArbitrage
