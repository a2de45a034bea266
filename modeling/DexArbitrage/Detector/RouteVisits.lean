/-
This file says what one visit of a route means for a cycle that the detector is
meant to find. The route of the cycle passes all checks, so it is skipped only
when its key has been seen before. As no other route has this key, the visits
keep that the key has been seen only if the candidate of the cycle has been
collected, and the visit of its own route collects it.
-/

import DexArbitrage.Detector.PathCompleteness
import DexArbitrage.Detector.RouteKeys
import DexArbitrage.Detector.Soundness

namespace DexArbitrage

/-- The snapshot lists its edges completely, they are hops between its tokens, and a route is known
by its key. -/
structure Searchable (displayAddress : Address → String) (snapshot : GraphSnapshot) : Prop where
  wellIndexed : snapshot.WellIndexed
  filesAll : snapshot.FilesAll
  anchors : ∀ anchor ∈ snapshot.cycleAnchorIndices, anchor < snapshot.tokens.length
  tokens : ∀ edgeRef edge, snapshot.edge edgeRef = some edge →
    edge.fromIdx < snapshot.tokens.length ∧ edge.toIdx < snapshot.tokens.length
  noLoop : ∀ edgeRef edge, snapshot.edge edgeRef = some edge → edge.fromIdx ≠ edge.toIdx
  keys : ∀ edgeRefs otherRefs edges otherEdges, edgeRefs.map snapshot.edge = edges.map some →
    otherRefs.map snapshot.edge = otherEdges.map some → edges ≠ [] → otherEdges ≠ [] →
    routeCycleKey displayAddress snapshot edgeRefs =
      routeCycleKey displayAddress snapshot otherRefs → edgeRefs = otherRefs

section RouteVisits

variable (finder : PathFinder) (context : SearchContext) (snapshot : GraphSnapshot)
  (changedEdges : List EdgeRef)

/-- A changed edge of the snapshot has these ends. -/
def IsChangedPair (edge : Edge) : Prop :=
  ∃ changedRef ∈ changedEdges, SamePair snapshot changedRef edge

/-- No sum is cut when the score of a cycle is added up from its parts. -/
structure ScoreFits (before : List Edge) (edge : Edge) (after : List Edge) : Prop where
  prefixSums : RunningSumsFit i64Min i64Max ((before ++ [edge]).map Edge.weightLogQ32)
  suffixSums : RunningSumsFit i64Min i64Max (after.map Edge.weightLogQ32)
  total : i64Min ≤ ((before ++ edge :: after).map Edge.weightLogQ32).sum ∧
    ((before ++ edge :: after).map Edge.weightLogQ32).sum ≤ i64Max

/-- A simple cycle that the detector is meant to find. -/
structure QualifyingCycle (anchor : Nat) (edgeRefs : List EdgeRef) (edges : List Edge) : Prop where
  isAnchor : anchor ∈ snapshot.cycleAnchorIndices
  resolves : edgeRefs.map snapshot.edge = edges.map some
  cycle : IsSimpleCycle Edge.fromIdx Edge.toIdx anchor edges
  fewHops : edges.length ≤ finder.maxHops
  usable : ∀ edgeRef ∈ edgeRefs, ∀ edge, snapshot.edge edgeRef = some edge →
    AlwaysUsable finder context (minTradeRawByToken snapshot finder.minTradeUsdE8) edgeRef edge
  changed : ∃ edge ∈ edges, IsChangedPair snapshot changedEdges edge
  scoreFits : ∀ before edge after, edges = before ++ edge :: after →
    IsChangedPair snapshot changedEdges edge → ScoreFits before edge after
  belowCutoff : (edges.map Edge.weightLogQ32).sum < finder.screeningCutoffQ32
  tokensAllowed : routeTokensAllowed context.env snapshot anchor edgeRefs
    (executionTokenPolicy context.env snapshot) = true
  capacity : useRouteCapacityFilter context changedEdges = true →
    routeHasMinStartCapacity finder context snapshot anchor edgeRefs = true

/-- The candidate is the cycle: it has its key, its hops and its score. -/
structure IsCandidateOf (candidate : CandidatePath) (anchor : Nat) (edgeRefs : List EdgeRef)
    (edges : List Edge) : Prop where
  cycleKey : candidate.cycleKey = routeCycleKey context.displayAddress snapshot edgeRefs
  startsAtAnchor : snapshot.tokens[anchor]?.map TokenInfo.address = some candidate.startToken
  hops : edges.map (hopOf snapshot) = candidate.path.map some
  score : candidate.screeningScoreQ32 = (edges.map Edge.weightLogQ32).sum

/-- Every cycle that the detector is meant to find has been collected, and its key only once. -/
def CollectsAll (progress : SearchProgress) : Prop :=
  ∀ anchor edgeRefs edges, QualifyingCycle finder context snapshot changedEdges anchor edgeRefs
    edges →
      (∃ candidate ∈ progress.candidates,
        IsCandidateOf context snapshot candidate anchor edgeRefs edges) ∧
      (progress.candidates.map CandidatePath.cycleKey).count
        (routeCycleKey context.displayAddress snapshot edgeRefs) = 1

variable {finder context snapshot changedEdges}

/-! ### Materializing a route -/

theorem Searchable.exists_hopOf (searchable : Searchable context.displayAddress snapshot)
    {edgeRef : EdgeRef} {edge : Edge} (resolves : snapshot.edge edgeRef = some edge) :
    ∃ hop, hopOf snapshot edge = some hop := by
  obtain ⟨fromInRange, toInRange⟩ := searchable.tokens edgeRef edge resolves
  unfold hopOf
  rw [List.getElem?_eq_getElem fromInRange, List.getElem?_eq_getElem toInRange]
  exact ⟨_, rfl⟩

theorem exists_candidateHops (searchable : Searchable context.displayAddress snapshot)
    {edgeRefs : List EdgeRef} {edges : List Edge}
    (resolves : edgeRefs.map snapshot.edge = edges.map some) :
    ∃ hops, candidateHops snapshot edgeRefs = some (some hops) := by
  replace resolves := forall₂_of_map_eq_some resolves
  induction resolves with
  | nil => exact ⟨[], rfl⟩
  | cons isEdge _ inductionHypothesis =>
    obtain ⟨hop, isHop⟩ := searchable.exists_hopOf isEdge
    obtain ⟨hops, areHops⟩ := inductionHypothesis
    unfold candidateHops
    rw [isEdge]
    dsimp only
    rw [isHop, areHops]
    exact ⟨hop :: hops, rfl⟩

/-- No index is out of range when a route is materialized. -/
theorem materializeCandidate_ne_none (searchable : Searchable context.displayAddress snapshot)
    {anchor : Nat} (isAnchor : anchor ∈ snapshot.cycleAnchorIndices) (key : String)
    (scoreQ32 : Int) {edgeRefs : List EdgeRef} {edges : List Edge}
    (resolves : edgeRefs.map snapshot.edge = edges.map some) (changedEdgeRef : EdgeRef) :
    materializeCandidate finder context snapshot changedEdges anchor key scoreQ32 edgeRefs
      changedEdgeRef ≠ none := by
  obtain ⟨hops, areHops⟩ := exists_candidateHops searchable resolves
  unfold materializeCandidate
  rw [areHops, List.getElem?_eq_getElem (searchable.anchors anchor isAnchor)]
  split
  · exact Option.some_ne_none _
  · dsimp only [Option.bind_eq_bind, Option.bind_some]
    split
    · exact Option.some_ne_none _
    · split
      · exact Option.some_ne_none _
      · split
        · exact Option.some_ne_none _
        · exact Option.some_ne_none _

/-- The filters of a cycle that the detector is meant to find let its route pass. -/
theorem QualifyingCycle.exists_materialized {anchor : Nat} {edgeRefs : List EdgeRef}
    {edges : List Edge}
    (cycle : QualifyingCycle finder context snapshot changedEdges anchor edgeRefs edges)
    (searchable : Searchable context.displayAddress snapshot) (key : String) (scoreQ32 : Int)
    {changedEdgeRef : EdgeRef} {edge : Edge} (member : edge ∈ edges)
    (samePair : SamePair snapshot changedEdgeRef edge) :
    ∃ candidate, materializeCandidate finder context snapshot changedEdges anchor key scoreQ32
      edgeRefs changedEdgeRef = some (some candidate) := by
  obtain ⟨changed, isChanged, ends⟩ := samePair
  obtain ⟨hops, areHops⟩ := exists_candidateHops searchable cycle.resolves
  have containsChangedPair : (edgeRefs.any fun edgeRef => (snapshot.edge edgeRef).any fun edge =>
      edge.fromIdx = changed.fromIdx && edge.toIdx = changed.toIdx) = true := by
    obtain ⟨edgeRef, listed, isEdge⟩ := exists_element_of_mem cycle.resolves member
    injection ends with sameFrom sameTo
    refine List.any_eq_true.mpr ⟨edgeRef, listed, ?_⟩
    rw [isEdge, Option.any_some, sameFrom, sameTo]
    simp
  have passes : (useRouteCapacityFilter context changedEdges &&
      !routeHasMinStartCapacity finder context snapshot anchor edgeRefs) = false := by
    cases filters : useRouteCapacityFilter context changedEdges with
    | false => rfl
    | true =>
      rw [cycle.capacity filters]
      rfl
  unfold materializeCandidate
  rw [isChanged]
  dsimp only
  rw [areHops, containsChangedPair, cycle.tokensAllowed, passes,
    List.getElem?_eq_getElem (searchable.anchors anchor cycle.isAnchor)]
  exact ⟨_, rfl⟩

/-! ### The score of a route -/

theorem ScoreFits.score {before after : List Edge} {edge : Edge}
    (fits : ScoreFits before edge after) :
    saturatingAddI64 (saturatingAddI64
        (saturatingSum i64Min i64Max (before.map Edge.weightLogQ32)) edge.weightLogQ32)
      (saturatingSum i64Min i64Max (after.map Edge.weightLogQ32)) =
      ((before ++ edge :: after).map Edge.weightLogQ32).sum := by
  obtain ⟨atLeast, atMost⟩ := fits.total
  have firsts := saturatingSum_of_runningSumsFit fits.prefixSums
  have split : ((before ++ edge :: after).map Edge.weightLogQ32).sum =
      ((before ++ [edge]).map Edge.weightLogQ32).sum + (after.map Edge.weightLogQ32).sum := by
    rw [List.append_cons, List.map_append, List.sum_append]
  rw [split] at atLeast atMost ⊢
  unfold saturatingAddI64
  rw [saturatingSum_of_runningSumsFit fits.suffixSums, ← saturatingSum_concat]
  rw [List.map_append, List.map_singleton] at firsts
  rw [firsts]
  rw [List.map_append, List.map_singleton] at atLeast atMost ⊢
  exact saturatingAddInt_of_between atLeast atMost

/-! ### Visiting a route -/

/-- The checks that a route passes before its key is looked up. -/
structure RouteChecks (finder : PathFinder) (prefixPath : SearchPath) (changedTo : Nat)
    (edge : Edge) (suffixPath : SearchPath) : Prop where
  severalHops : 2 ≤ prefixPath.edgeRefs.length + 1 + suffixPath.edgeRefs.length
  fewHops : prefixPath.edgeRefs.length + 1 + suffixPath.edgeRefs.length ≤ finder.maxHops
  simple : formsSimpleCycle prefixPath changedTo suffixPath = true
  cutoff : saturatingAddI64 (saturatingAddI64 prefixPath.scoreQ32 edge.weightLogQ32)
    suffixPath.scoreQ32 < finder.screeningCutoffQ32

/-- The search did not end with a panic. -/
def SearchEnd.IsReturn (ended : SearchEnd) : Prop :=
  ∃ progress, ended = .returned progress

section Visit

variable {anchorIdx changedTo : Nat} {changedEdgeRef changedPathRef : EdgeRef}
  {prefixPath suffixPath : SearchPath} {before after : List Edge} {edge : Edge}

/-- What a visit of a route does: nothing, because a check fails or the key has been seen, or the
key is filed and the route materialized. -/
theorem visitRoute_cases (resolves : snapshot.edge changedPathRef = some edge)
    (progress : SearchProgress) :
    (visitRoute finder context snapshot changedEdges anchorIdx changedTo changedEdgeRef
        changedPathRef prefixPath suffixPath progress = .ok progress ∧
      (RouteChecks finder prefixPath changedTo edge suffixPath →
        routeCycleKey context.displayAddress snapshot
          (routeEdgeRefs prefixPath changedPathRef suffixPath) ∈ progress.dedup)) ∨
    visitRoute finder context snapshot changedEdges anchorIdx changedTo changedEdgeRef
        changedPathRef prefixPath suffixPath progress =
      match materializeCandidate finder context snapshot changedEdges anchorIdx
          (routeCycleKey context.displayAddress snapshot
            (routeEdgeRefs prefixPath changedPathRef suffixPath))
          (saturatingAddI64 (saturatingAddI64 prefixPath.scoreQ32 edge.weightLogQ32)
            suffixPath.scoreQ32)
          (routeEdgeRefs prefixPath changedPathRef suffixPath) changedEdgeRef with
      | none => .error .panicked
      | some none => .ok { progress with
          dedup := routeCycleKey context.displayAddress snapshot
            (routeEdgeRefs prefixPath changedPathRef suffixPath) :: progress.dedup }
      | some (some candidate) => acceptCandidate finder context changedEdges { progress with
          dedup := routeCycleKey context.displayAddress snapshot
            (routeEdgeRefs prefixPath changedPathRef suffixPath) :: progress.dedup } candidate := by
  unfold visitRoute
  rw [resolves]
  dsimp only
  split
  · rename_i wrongLength
    refine Or.inl ⟨rfl, fun checks => ?_⟩
    have severalHops := checks.severalHops
    have fewHops := checks.fewHops
    omega
  · split
    · rename_i notSimple
      refine Or.inl ⟨rfl, fun checks => ?_⟩
      rw [checks.simple] at notSimple
      cases notSimple
    · split
      · rename_i aboveCutoff
        exact Or.inl ⟨rfl, fun checks => (Int.not_lt.mpr aboveCutoff checks.cutoff).elim⟩
      · split
        · rename_i seen
          exact Or.inl ⟨rfl, fun _ => seen⟩
        · exact Or.inr rfl

/-- Where no token paths are merged, an accepted candidate is collected, or the search ends because
there are enough of them. -/
theorem leadsTo_acceptCandidate_of_noMerge (noMerge : finder.tuning.dedupTokenPaths = false)
    {holds : SearchProgress → Prop} {progress : SearchProgress} {candidate : CandidatePath}
    (established : holds { progress with candidates := progress.candidates ++ [candidate] }) :
    LeadsTo holds SearchEnd.IsReturn
      (acceptCandidate finder context changedEdges progress candidate) := by
  unfold acceptCandidate
  rw [noMerge]
  dsimp only
  rw [if_neg Bool.false_ne_true]
  split
  · exact ⟨_, rfl⟩
  · exact established

/-- A visit of a route does not panic. -/
theorem leadsTo_visitRoute_of_searchable (searchable : Searchable context.displayAddress snapshot)
    (noMerge : finder.tuning.dedupTokenPaths = false)
    (parts : RouteParts finder context snapshot changedEdges anchorIdx changedTo changedPathRef
      prefixPath suffixPath before edge after) (progress : SearchProgress) :
    LeadsTo (fun _ => True) SearchEnd.IsReturn
      (visitRoute finder context snapshot changedEdges anchorIdx changedTo changedEdgeRef
        changedPathRef prefixPath suffixPath progress) := by
  rcases visitRoute_cases parts.resolves progress with ⟨skipped, _⟩ | filed
  · rw [skipped]
    trivial
  · rw [filed]
    split
    · rename_i panicked
      exact (materializeCandidate_ne_none searchable parts.isAnchor _ _
        parts.resolves_routeEdgeRefs changedEdgeRef panicked).elim
    · trivial
    · exact leadsTo_acceptCandidate_of_noMerge noMerge trivial

end Visit

/-! ### The route of a cycle -/

/-- The candidate of the cycle has been collected. -/
def SearchProgress.Collected (context : SearchContext) (snapshot : GraphSnapshot) (anchor : Nat)
    (edgeRefs : List EdgeRef) (edges : List Edge) (progress : SearchProgress) : Prop :=
  ∃ candidate ∈ progress.candidates,
    IsCandidateOf context snapshot candidate anchor edgeRefs edges

/-- The key of the cycle has been seen only if its candidate has been collected. -/
def SearchProgress.Unmissed (context : SearchContext) (snapshot : GraphSnapshot) (anchor : Nat)
    (edgeRefs : List EdgeRef) (edges : List Edge) (progress : SearchProgress) : Prop :=
  routeCycleKey context.displayAddress snapshot edgeRefs ∈ progress.dedup →
    progress.Collected context snapshot anchor edgeRefs edges

section Cycle

variable {anchor : Nat} {edgeRefs : List EdgeRef} {edges : List Edge}
  {anchorIdx changedTo : Nat} {changedEdgeRef changedPathRef : EdgeRef}
  {prefixPath suffixPath : SearchPath} {before after : List Edge} {edge : Edge}

theorem SearchProgress.Collected.append {progress : SearchProgress}
    (collected : progress.Collected context snapshot anchor edgeRefs edges)
    (candidate : CandidatePath) (dedup : List String) :
    SearchProgress.Collected context snapshot anchor edgeRefs edges
      { progress with candidates := progress.candidates ++ [candidate], dedup } := by
  obtain ⟨known, member, isCandidate⟩ := collected
  exact ⟨known, List.mem_append_left _ member, isCandidate⟩

/-- A route over the edges of the cycle is this cycle. -/
theorem RouteParts.eq_of_sameRefs
    (parts : RouteParts finder context snapshot changedEdges anchorIdx changedTo changedPathRef
      prefixPath suffixPath before edge after)
    (cycle : QualifyingCycle finder context snapshot changedEdges anchor edgeRefs edges)
    (sameRefs : routeEdgeRefs prefixPath changedPathRef suffixPath = edgeRefs) :
    edges = before ++ edge :: after ∧ anchorIdx = anchor := by
  have resolved := parts.resolves_routeEdgeRefs
  rw [sameRefs, cycle.resolves] at resolved
  have sameEdges : edges = before ++ edge :: after :=
    (List.map_injective_iff.mpr (Option.some_injective Edge)) resolved
  refine ⟨sameEdges, ?_⟩
  have routeWalk := parts.closed
  have cycleWalk := cycle.cycle.closed
  rw [← sameEdges] at routeWalk
  cases edges with
  | nil => exact (cycle.cycle.nonempty rfl).elim
  | cons first rest => exact routeWalk.1.symm.trans cycleWalk.1

theorem RouteParts.scoreQ32_eq
    (parts : RouteParts finder context snapshot changedEdges anchorIdx changedTo changedPathRef
      prefixPath suffixPath before edge after)
    (cycle : QualifyingCycle finder context snapshot changedEdges anchor edgeRefs edges)
    (sameRefs : routeEdgeRefs prefixPath changedPathRef suffixPath = edgeRefs) :
    saturatingAddI64 (saturatingAddI64 prefixPath.scoreQ32 edge.weightLogQ32)
      suffixPath.scoreQ32 = (edges.map Edge.weightLogQ32).sum := by
  obtain ⟨sameEdges, _⟩ := parts.eq_of_sameRefs cycle sameRefs
  rw [parts.prefixFollows.score, parts.suffixFollows.score,
    (cycle.scoreFits before edge after sameEdges parts.changed).score, sameEdges]

theorem QualifyingCycle.two_le_length
    (cycle : QualifyingCycle finder context snapshot changedEdges anchor edgeRefs edges)
    (searchable : Searchable context.displayAddress snapshot) : 2 ≤ edges.length := by
  have closed := cycle.cycle.closed
  have resolves := cycle.resolves
  cases edges with
  | nil => exact (cycle.cycle.nonempty rfl).elim
  | cons first rest =>
    cases rest with
    | nil =>
      -- A single edge back to where it starts does not exist.
      cases edgeRefs with
      | nil => cases resolves
      | cons edgeRef refs =>
        rw [List.map_cons, List.map_cons, List.cons.injEq] at resolves
        have returns : first.toIdx = anchor := closed.2
        exact (searchable.noLoop edgeRef first resolves.1 (closed.1.trans returns.symm)).elim
    | cons second others =>
      rw [List.length_cons, List.length_cons]
      omega

/-- The route of the cycle passes the checks. -/
theorem RouteParts.checks_of_cycle (searchable : Searchable context.displayAddress snapshot)
    (parts : RouteParts finder context snapshot changedEdges anchorIdx changedTo changedPathRef
      prefixPath suffixPath before edge after)
    (cycle : QualifyingCycle finder context snapshot changedEdges anchor edgeRefs edges)
    (sameRefs : routeEdgeRefs prefixPath changedPathRef suffixPath = edgeRefs) :
    RouteChecks finder prefixPath changedTo edge suffixPath := by
  obtain ⟨sameEdges, sameAnchor⟩ := parts.eq_of_sameRefs cycle sameRefs
  have several := cycle.two_le_length searchable
  have few := cycle.fewHops
  have isCycle := cycle.cycle
  rw [sameEdges] at several few isCycle
  rw [← sameAnchor] at isCycle
  refine ⟨parts.length_edges ▸ several, parts.length_edges ▸ few,
    parts.formsSimpleCycle_iff.mpr ⟨several, isCycle⟩, ?_⟩
  rw [parts.scoreQ32_eq cycle sameRefs]
  exact cycle.belowCutoff

/-- The route of the cycle is materialized. -/
theorem RouteParts.exists_materialized (searchable : Searchable context.displayAddress snapshot)
    (cycle : QualifyingCycle finder context snapshot changedEdges anchor edgeRefs edges)
    (parts : RouteParts finder context snapshot changedEdges anchorIdx changedTo changedPathRef
      prefixPath suffixPath before edge after)
    (samePair : SamePair snapshot changedEdgeRef edge)
    (sameRefs : routeEdgeRefs prefixPath changedPathRef suffixPath = edgeRefs) (key : String)
    (scoreQ32 : Int) :
    ∃ candidate, materializeCandidate finder context snapshot changedEdges anchorIdx key scoreQ32
      (routeEdgeRefs prefixPath changedPathRef suffixPath) changedEdgeRef =
        some (some candidate) := by
  obtain ⟨sameEdges, sameAnchor⟩ := parts.eq_of_sameRefs cycle sameRefs
  rw [sameRefs, sameAnchor]
  exact cycle.exists_materialized searchable _ _
    (sameEdges ▸ List.mem_append_right _ List.mem_cons_self) samePair

/-- What is materialized from the route of the cycle is the candidate that is looked for. -/
theorem RouteParts.collected_of_materialized
    (cycle : QualifyingCycle finder context snapshot changedEdges anchor edgeRefs edges)
    (parts : RouteParts finder context snapshot changedEdges anchorIdx changedTo changedPathRef
      prefixPath suffixPath before edge after)
    (sameRefs : routeEdgeRefs prefixPath changedPathRef suffixPath = edgeRefs)
    {candidate : CandidatePath}
    (materialized : materializeCandidate finder context snapshot changedEdges anchorIdx
      (routeCycleKey context.displayAddress snapshot
        (routeEdgeRefs prefixPath changedPathRef suffixPath))
      (saturatingAddI64 (saturatingAddI64 prefixPath.scoreQ32 edge.weightLogQ32)
        suffixPath.scoreQ32)
      (routeEdgeRefs prefixPath changedPathRef suffixPath) changedEdgeRef = some (some candidate))
    {progress : SearchProgress} (listed : candidate ∈ progress.candidates) :
    progress.Collected context snapshot anchor edgeRefs edges := by
  obtain ⟨hasKey, hasScore, startsAtAnchor, built⟩ := materializeCandidate_eq_some materialized
  obtain ⟨_, sameAnchor⟩ := parts.eq_of_sameRefs cycle sameRefs
  rw [sameRefs] at hasKey built
  rw [sameAnchor] at startsAtAnchor
  rw [parts.scoreQ32_eq cycle sameRefs] at hasScore
  exact ⟨candidate, listed, hasKey, startsAtAnchor, map_hopOf_of_candidateHops cycle.resolves built,
    hasScore⟩

/-- What a visit of a route means for a cycle that the detector is meant to find. -/
theorem leadsTo_visitRoute_of_cycle (searchable : Searchable context.displayAddress snapshot)
    (noMerge : finder.tuning.dedupTokenPaths = false)
    (cycle : QualifyingCycle finder context snapshot changedEdges anchor edgeRefs edges)
    (parts : RouteParts finder context snapshot changedEdges anchorIdx changedTo changedPathRef
      prefixPath suffixPath before edge after)
    (samePair : SamePair snapshot changedEdgeRef edge) {progress : SearchProgress}
    (unmissed : progress.Unmissed context snapshot anchor edgeRefs edges) :
    LeadsTo (fun progressed : SearchProgress =>
        progressed.Unmissed context snapshot anchor edgeRefs edges ∧
        (progress.Collected context snapshot anchor edgeRefs edges ∨
          routeEdgeRefs prefixPath changedPathRef suffixPath = edgeRefs →
            progressed.Collected context snapshot anchor edgeRefs edges))
      SearchEnd.IsReturn
      (visitRoute finder context snapshot changedEdges anchorIdx changedTo changedEdgeRef
        changedPathRef prefixPath suffixPath progress) := by
  have sameKey : routeCycleKey context.displayAddress snapshot edgeRefs =
      routeCycleKey context.displayAddress snapshot
        (routeEdgeRefs prefixPath changedPathRef suffixPath) →
      routeEdgeRefs prefixPath changedPathRef suffixPath = edgeRefs := by
    intro same
    exact searchable.keys _ _ _ _ parts.resolves_routeEdgeRefs cycle.resolves
      (List.append_ne_nil_of_right_ne_nil _ (List.cons_ne_nil _ _)) cycle.cycle.nonempty same.symm
  rcases visitRoute_cases parts.resolves progress with ⟨skipped, seen⟩ | filed
  · rw [skipped]
    refine ⟨unmissed, fun reached => reached.elim id fun sameRefs => unmissed ?_⟩
    rw [← sameRefs]
    exact seen (parts.checks_of_cycle searchable cycle sameRefs)
  · rw [filed]
    split
    · rename_i panicked
      exact (materializeCandidate_ne_none searchable parts.isAnchor _ _
        parts.resolves_routeEdgeRefs changedEdgeRef panicked).elim
    · rename_i rejected
      have otherRoute : ¬ routeEdgeRefs prefixPath changedPathRef suffixPath = edgeRefs := by
        intro sameRefs
        obtain ⟨candidate, materialized⟩ :=
          parts.exists_materialized searchable cycle samePair sameRefs _ _
        rw [materialized] at rejected
        injection rejected with rejected
        cases rejected
      refine ⟨fun seen => ?_, fun reached => reached.elim id fun sameRefs =>
        (otherRoute sameRefs).elim⟩
      rcases List.mem_cons.mp seen with new | old
      · exact (otherRoute (sameKey new)).elim
      · exact unmissed old
    · rename_i candidate materialized
      refine leadsTo_acceptCandidate_of_noMerge noMerge ?_
      have ofRoute : routeEdgeRefs prefixPath changedPathRef suffixPath = edgeRefs →
          SearchProgress.Collected context snapshot anchor edgeRefs edges
            { progress with
              candidates := progress.candidates ++ [candidate]
              dedup := routeCycleKey context.displayAddress snapshot
                (routeEdgeRefs prefixPath changedPathRef suffixPath) :: progress.dedup } := by
        intro sameRefs
        exact parts.collected_of_materialized cycle sameRefs materialized
          (List.mem_append_right _ List.mem_cons_self)
      refine ⟨fun seen => ?_, fun reached => reached.elim
        (fun collected => collected.append candidate _) ofRoute⟩
      rcases List.mem_cons.mp seen with new | old
      · exact ofRoute (sameKey new)
      · exact (unmissed old).append candidate _

end Cycle

end RouteVisits

end DexArbitrage
