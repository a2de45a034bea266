/-
This file models the search part of `src/detector/path_finder.rs` and
`src/detector/pruning.rs`: which edges are usable, how the edges that leave a
token and the edges of a pair are ranked and cut, the pairs of the changed
edges, and `find_top_paths`, a beam search for the best paths from one token to
another.

What a call reads from outside is its `SearchContext`. The caches of the source
live for one call and hold each computed list, so that every edge is checked
once for each list; the readings of the clock are therefore indexed by these
checks. Hash maps are visited in an order of their own, and the one computation
in floating point, the capacity of a route, is a parameter.
-/

import DexArbitrage.Lib.BeamSearch
import DexArbitrage.Lib.Sorting
import DexArbitrage.Lib.Walk
import DexArbitrage.Discovery.Refresh
import DexArbitrage.Graph.PairIndex

namespace DexArbitrage

/-! ### Settings and surroundings -/

structure SearchTuning where
  topKPathsPerSide : Nat
  maxVirtualBranchesPerNode : Nat
  pathBeamWidth : Nat
  maxCandidatesPerRefresh : Nat
  candidateSelectionBufferMultiplier : Nat
  dedupTokenPaths : Bool
  maxPairEdgesPerPair : Nat
  poolVariantsPerTokenPath : Nat
  canonicalVariantsPerCycle : Nat
  anchorVariantsPerCycle : Nat

structure PathFinder where
  maxHops : Nat
  screeningCutoffQ32 : Int
  minPoolConfidenceBps : Nat
  stalenessTimeout : Nat
  minTradeUsdE8 : Nat
  tuning : SearchTuning

/-- The environment variables that a call reads, parsed; a list is empty when its variable is not
set. -/
structure SearchEnv where
  routeCapacityPrefilterMaxChangedEdges : Option Nat
  candidateSelectionLargeRefreshThreshold : Option Nat
  candidateSelectionLargeRefreshMultiplier : Option Nat
  searchFillRotatedCandidates : Option Bool
  requireTrustedRouteTokens : Option Bool
  executionAllowFlashLoanTokens : Option Bool
  executionTrustedSymbols : List String
  executionTrustedTokens : List Address
  executionExcludedSymbolContains : List String
  executionExcludedTokens : List Address

/-- The places at which an edge is checked for being usable. -/
inductive UsableCheck
  | outgoing (vertex : Nat) (edgeRef : EdgeRef)
  | extending (start target : Nat) (edgeRefs : List EdgeRef) (edgeRef : EdgeRef)
  | changedPair (pair : Nat × Nat) (edgeRef : EdgeRef)

def UsableCheck.edgeRef : UsableCheck → EdgeRef
  | outgoing _ edgeRef => edgeRef
  | extending _ _ _ edgeRef => edgeRef
  | changedPair _ edgeRef => edgeRef

structure SearchContext where
  clock : UsableCheck → SystemTime
  pairsOrder : IterationOrder ((Nat × Nat) × EdgeRef)
  outgoingOrder : Nat → IterationOrder (List EdgeRef)
  variantsOrder : IterationOrder (List CandidatePath)
  displayAddress : Address → String
  routeStartCapacityRaw : GraphSnapshot → List EdgeRef → Option Nat
  env : SearchEnv

structure SearchPath where
  edgeRefs : List EdgeRef
  tokens : List Nat
  scoreQ32 : Int
  capacityHint : Nat
  tokens_ne_nil : tokens ≠ []

def saturatingAddI64 : Int → Int → Int :=
  saturatingAddInt i64Min i64Max

/-! ### Edges -/

def edgeIsUsable (finder : PathFinder) (minTradeRawByToken : List (Option Nat))
    (now : SystemTime) (edge : Edge) : Bool :=
  if edge.spotRateQ128 = 0 ∨ edge.liquidity.safeCapacityIn = 0 then
    false
  else if !edge.poolHealth.healthy finder.minPoolConfidenceBps finder.stalenessTimeout now then
    false
  else
    match minTradeRawByToken[edge.fromIdx]?.join with
    | some minTradeRaw => minTradeRaw ≤ edge.liquidity.safeCapacityIn
    | none => true

/-- By rate, then the larger capacity first, then the higher confidence, then by pool. -/
def PathFinder.compareEdgeRefs (snapshot : GraphSnapshot) (left right : EdgeRef) : Ordering :=
  match snapshot.edge left with
  | none => .gt
  | some a =>
    match snapshot.edge right with
    | none => .lt
    | some b =>
      (compare a.weightLogQ32 b.weightLogQ32).then <|
        (compare b.liquidity.safeCapacityIn a.liquidity.safeCapacityIn).then <|
          (compare b.poolHealth.confidenceBps a.poolHealth.confidenceBps).then <|
            compare a.poolId.toNat b.poolId.toNat

def betterEdgeRef (snapshot : GraphSnapshot) (left right : EdgeRef) : Bool :=
  (PathFinder.compareEdgeRefs snapshot left right).isLT

/-- The edges that leave a token: by confidence, then by capacity, the larger ones first, then by
rate. -/
def rankedOutgoing (snapshot : GraphSnapshot) (vertex : Nat) : List EdgeRef :=
  let compareRanked (a b : Edge × Nat) : Ordering :=
    (compare b.1.poolHealth.confidenceBps a.1.poolHealth.confidenceBps).then <|
      (compare b.1.liquidity.safeCapacityIn a.1.liquidity.safeCapacityIn).then <|
        compare a.1.weightLogQ32 b.1.weightLogQ32
  (sortBy compareRanked (snapshot.adjacency[vertex]?.getD []).zipIdx).map fun (_, edgeIdx) =>
    { fromIdx := vertex, edgeIdx }

section Search

variable (finder : PathFinder) (context : SearchContext) (snapshot : GraphSnapshot)
  (minTradeRawByToken : List (Option Nat))

/-- The best usable edges that leave a token, at most a number of them for each neighbour. -/
def virtualOutgoing (vertex : Nat) : List EdgeRef :=
  let byTo := HashMap.group <| (rankedOutgoing snapshot vertex).filterMap fun edgeRef => do
    let edge ← snapshot.edge edgeRef
    guard (edgeIsUsable finder minTradeRawByToken
      (context.clock (.outgoing vertex edgeRef)) edge)
    return (edge.toIdx, edgeRef)
  sortBy (PathFinder.compareEdgeRefs snapshot) <|
    ((context.outgoingOrder vertex).order byTo.values).flatMap fun edgeRefs =>
      keepBest (PathFinder.compareEdgeRefs snapshot) finder.tuning.maxPairEdgesPerPair edgeRefs

/-- The best usable edges from one token to another. -/
def candidatePairEdges (fromIdx toIdx : Nat) : List EdgeRef :=
  match snapshot.pairToEdges.lookup (fromIdx, toIdx) with
  | none => []
  | some edges =>
    keepBest (PathFinder.compareEdgeRefs snapshot) finder.tuning.maxPairEdgesPerPair <|
      edges.filter fun edgeRef =>
        match snapshot.edge edgeRef with
        | some edge => edgeIsUsable finder minTradeRawByToken
            (context.clock (.changedPair (fromIdx, toIdx) edgeRef)) edge
        | none => false

/-- File a changed edge under its pair, unless a better one is there. -/
def notePair (byPair : HashMap (Nat × Nat) EdgeRef) (edgeRef : EdgeRef) :
    HashMap (Nat × Nat) EdgeRef :=
  match snapshot.edge edgeRef with
  | none => byPair
  | some edge =>
    match byPair.lookup (edge.fromIdx, edge.toIdx) with
    | none => byPair.insert (edge.fromIdx, edge.toIdx) edgeRef
    | some current =>
      if betterEdgeRef snapshot edgeRef current then
        byPair.insert (edge.fromIdx, edge.toIdx) edgeRef
      else
        byPair

/-- The pairs of the changed edges, each with the best of its changed edges, by the rates of
these. -/
def changedVirtualPairs (changedEdges : List EdgeRef) : List ((Nat × Nat) × EdgeRef) :=
  let byPair := changedEdges.foldl (notePair snapshot) ∅
  let score (edgeRef : EdgeRef) : Int :=
    match snapshot.edge edgeRef with
    | some edge => edge.weightLogQ32
    | none => i64Max
  let comparePairs (a b : (Nat × Nat) × EdgeRef) : Ordering :=
    (compare (score a.2) (score b.2)).then <|
      (compare a.1.1 b.1.1).then <| compare a.1.2 b.1.2
  sortBy comparePairs <|
    context.pairsOrder.order (byPair.entries.map fun entry => (entry.1, entry.2))

/-! ### Paths -/

def SearchPath.initial (start : Nat) : SearchPath where
  edgeRefs := []
  tokens := [start]
  scoreQ32 := 0
  capacityHint := u128Max
  tokens_ne_nil := List.cons_ne_nil _ _

def SearchPath.currentNode (path : SearchPath) : Nat :=
  path.tokens.getLast path.tokens_ne_nil

def SearchPath.push (path : SearchPath) (edgeRef : EdgeRef) (edge : Edge) : SearchPath where
  edgeRefs := path.edgeRefs ++ [edgeRef]
  tokens := path.tokens ++ [edge.toIdx]
  scoreQ32 := saturatingAddI64 path.scoreQ32 edge.weightLogQ32
  capacityHint :=
    if 0 < edge.liquidity.safeCapacityIn then
      min path.capacityHint edge.liquidity.safeCapacityIn
    else
      path.capacityHint
  tokens_ne_nil := List.append_ne_nil_of_right_ne_nil _ (List.cons_ne_nil _ _)

/-- By score, then the larger capacity first, then the shorter path. -/
def comparePaths (a b : SearchPath) : Ordering :=
  (compare a.scoreQ32 b.scoreQ32).then <|
    (compare b.capacityHint a.capacityHint).then <|
      compare a.edgeRefs.length b.edgeRefs.length

/-- The paths with one more edge, to a token that the path has not visited. -/
def SearchPath.extensions (start target : Nat) (path : SearchPath) : List SearchPath :=
  let outgoing := virtualOutgoing finder context snapshot minTradeRawByToken path.currentNode
  (outgoing.take finder.tuning.maxVirtualBranchesPerNode).filterMap fun edgeRef => do
    let edge ← snapshot.edge edgeRef
    guard (edgeIsUsable finder minTradeRawByToken
      (context.clock (.extending start target path.edgeRefs edgeRef)) edge)
    guard (edge.toIdx ∉ path.tokens)
    return path.push edgeRef edge

def findTopPaths (start target maxHops : Nat) : List SearchPath :=
  if start = target then
    [SearchPath.initial start]
  else
    keepBest comparePaths finder.tuning.topKPathsPerSide <|
      beamSearch (SearchPath.extensions finder context snapshot minTradeRawByToken start target)
        (fun path => path.currentNode = target)
        (keepBest comparePaths finder.tuning.topKPathsPerSide)
        (keepBest comparePaths finder.tuning.pathBeamWidth)
        maxHops [] [SearchPath.initial start]

/-! ### What the lists of edges hold -/

/-- A check of the call has found the edge in the snapshot, and usable. -/
def FoundUsable (finder : PathFinder) (context : SearchContext) (snapshot : GraphSnapshot)
    (minTradeRawByToken : List (Option Nat)) (edge : Edge) : Prop :=
  ∃ check : UsableCheck, snapshot.edge check.edgeRef = some edge ∧
    edgeIsUsable finder minTradeRawByToken (context.clock check) edge = true

theorem fromIdx_of_mem_rankedOutgoing {vertex : Nat} {edgeRef : EdgeRef}
    (member : edgeRef ∈ rankedOutgoing snapshot vertex) : edgeRef.fromIdx = vertex := by
  obtain ⟨ranked, _, same⟩ := List.mem_map.mp member
  rw [← same]

variable {finder context snapshot minTradeRawByToken}

theorem fromIdx_of_mem_virtualOutgoing {vertex : Nat} {edgeRef : EdgeRef}
    (member : edgeRef ∈ virtualOutgoing finder context snapshot minTradeRawByToken vertex) :
    edgeRef.fromIdx = vertex := by
  unfold virtualOutgoing at member
  obtain ⟨edgeRefs, inOrder, kept⟩ := List.mem_flatMap.mp ((mem_sortBy _ _ _).mp member)
  obtain ⟨toIdx, grouped⟩ := (HashMap.mem_values _ _).mp
    (((context.outgoingOrder vertex).perm _).mem_iff.mp inOrder)
  have listed := HashMap.mem_of_lookup_group grouped (mem_of_mem_keepBest kept)
  obtain ⟨ranked, inRanked, resolved⟩ := List.mem_filterMap.mp listed
  obtain ⟨edge, _, rest⟩ := Option.bind_eq_some_iff.mp resolved
  obtain ⟨_, _, same⟩ := Option.bind_eq_some_iff.mp rest
  injection same with same
  injection same with _ sameRef
  rw [← sameRef]
  exact fromIdx_of_mem_rankedOutgoing snapshot inRanked

/-- What is listed for a pair is a usable edge of this pair. -/
theorem mem_candidatePairEdges (wellIndexed : snapshot.WellIndexed) {fromIdx toIdx : Nat}
    {edgeRef : EdgeRef}
    (member : edgeRef ∈ candidatePairEdges finder context snapshot minTradeRawByToken fromIdx
      toIdx) :
    ∃ edge, snapshot.edge edgeRef = some edge ∧ edge.fromIdx = fromIdx ∧ edge.toIdx = toIdx ∧
      FoundUsable finder context snapshot minTradeRawByToken edge := by
  unfold candidatePairEdges at member
  cases filed : snapshot.pairToEdges.lookup (fromIdx, toIdx) with
  | none =>
    rw [filed] at member
    cases member
  | some edges =>
    rw [filed] at member
    obtain ⟨inPair, usable⟩ := List.mem_filter.mp (mem_of_mem_keepBest member)
    obtain ⟨edge, resolves, between⟩ := wellIndexed.pairsResolve _ _ filed edgeRef inPair
    injection between with leaves arrives
    rw [resolves] at usable
    exact ⟨edge, resolves, leaves, arrives, .changedPair (fromIdx, toIdx) edgeRef, resolves,
      usable⟩

/-- Every pair is filed with a changed edge of it. -/
def PairsNoted (snapshot : GraphSnapshot) (changedEdges : List EdgeRef)
    (byPair : HashMap (Nat × Nat) EdgeRef) : Prop :=
  ∀ pair edgeRef, byPair.lookup pair = some edgeRef → edgeRef ∈ changedEdges ∧
    ∃ edge, snapshot.edge edgeRef = some edge ∧ (edge.fromIdx, edge.toIdx) = pair

theorem pairsNoted_notePair {changedEdges : List EdgeRef} {byPair : HashMap (Nat × Nat) EdgeRef}
    (noted : PairsNoted snapshot changedEdges byPair) {edgeRef : EdgeRef}
    (changed : edgeRef ∈ changedEdges) :
    PairsNoted snapshot changedEdges (notePair snapshot byPair edgeRef) := by
  unfold notePair
  cases resolves : snapshot.edge edgeRef with
  | none => exact noted
  | some edge =>
    have filed : PairsNoted snapshot changedEdges
        (byPair.insert (edge.fromIdx, edge.toIdx) edgeRef) := by
      intro pair found atPair
      rw [HashMap.lookup_insert] at atPair
      split at atPair
      · rename_i same
        injection atPair with atPair
        rw [← atPair, same]
        exact ⟨changed, edge, resolves, rfl⟩
      · exact noted pair found atPair
    show PairsNoted snapshot changedEdges (match byPair.lookup (edge.fromIdx, edge.toIdx) with
      | none => _
      | some current => _)
    split
    · exact filed
    · split
      · exact filed
      · exact noted

theorem mem_changedVirtualPairs {changedEdges : List EdgeRef} {pair : Nat × Nat}
    {edgeRef : EdgeRef}
    (member : (pair, edgeRef) ∈ changedVirtualPairs context snapshot changedEdges) :
    edgeRef ∈ changedEdges ∧
      ∃ edge, snapshot.edge edgeRef = some edge ∧ (edge.fromIdx, edge.toIdx) = pair := by
  have noted : PairsNoted snapshot changedEdges (changedEdges.foldl (notePair snapshot) ∅) := by
    refine List.foldlRecOn changedEdges _ (fun pair edgeRef found => ?_) ?_
    · cases found
    · exact fun byPair noted edgeRef changed => pairsNoted_notePair noted changed
  unfold changedVirtualPairs at member
  obtain ⟨entry, listed, same⟩ := List.mem_map.mp
    ((context.pairsOrder.perm _).mem_iff.mp ((mem_sortBy _ _ _).mp member))
  injection same with samePair sameRef
  rw [← samePair, ← sameRef]
  exact noted entry.1 entry.2 ((HashMap.lookup_eq_some_iff _ _ _).mpr listed)

/-! ### What a search path is -/

/-- The path refers to a walk over usable edges, and its tokens and its score are those of the
walk. -/
structure SearchPath.Follows (finder : PathFinder) (context : SearchContext)
    (snapshot : GraphSnapshot) (minTradeRawByToken : List (Option Nat)) (start finish : Nat)
    (path : SearchPath) (edges : List Edge) : Prop where
  resolves : path.edgeRefs.map snapshot.edge = edges.map some
  walk : IsWalk Edge.fromIdx Edge.toIdx start edges finish
  tokens : path.tokens = start :: edges.map Edge.toIdx
  usable : ∀ edge ∈ edges, FoundUsable finder context snapshot minTradeRawByToken edge
  score : path.scoreQ32 = saturatingSum i64Min i64Max (edges.map Edge.weightLogQ32)

theorem SearchPath.follows_initial (start : Nat) :
    (SearchPath.initial start).Follows finder context snapshot minTradeRawByToken start start []
      where
  resolves := rfl
  walk := isWalk_nil start
  tokens := rfl
  usable := fun _ member => nomatch member
  score := rfl

theorem SearchPath.Follows.currentNode {start finish : Nat} {path : SearchPath}
    {edges : List Edge}
    (follows : path.Follows finder context snapshot minTradeRawByToken start finish edges) :
    path.currentNode = finish := by
  have last : path.tokens.getLast? = some finish := by
    rw [follows.tokens]
    exact follows.walk.getLast?_visited
  rw [List.getLast?_eq_some_getLast path.tokens_ne_nil] at last
  exact Option.some.inj last

theorem SearchPath.Follows.push {start finish : Nat} {path : SearchPath} {edges : List Edge}
    (follows : path.Follows finder context snapshot minTradeRawByToken start finish edges)
    {edgeRef : EdgeRef} {edge : Edge} (resolves : snapshot.edge edgeRef = some edge)
    (leaves : edge.fromIdx = finish)
    (usable : FoundUsable finder context snapshot minTradeRawByToken edge) :
    (path.push edgeRef edge).Follows finder context snapshot minTradeRawByToken start edge.toIdx
      (edges ++ [edge]) where
  resolves := by
    show (path.edgeRefs ++ [edgeRef]).map snapshot.edge = _
    rw [List.map_append, List.map_append, follows.resolves, List.map_singleton, resolves]
    rfl
  walk := follows.walk.concat leaves
  tokens := by
    show path.tokens ++ [edge.toIdx] = _
    rw [follows.tokens, List.map_append]
    rfl
  usable := by
    intro listed member
    rcases List.mem_append.mp member with old | new
    · exact follows.usable listed old
    · rw [List.mem_singleton.mp new]
      exact usable
  score := by
    show saturatingAddI64 path.scoreQ32 edge.weightLogQ32 = _
    rw [List.map_append, List.map_singleton, saturatingSum_concat, ← follows.score]
    rfl

/-- What an extension of a path is: the path and one usable edge, which leaves its current token for
a token that the path has not visited. -/
theorem SearchPath.exists_of_mem_extensions {start target : Nat} {path extension : SearchPath}
    (member : extension ∈ path.extensions finder context snapshot minTradeRawByToken start
      target) :
    ∃ edgeRef edge, edgeRef.fromIdx = path.currentNode ∧ snapshot.edge edgeRef = some edge ∧
      FoundUsable finder context snapshot minTradeRawByToken edge ∧
      edge.toIdx ∉ path.tokens ∧ extension = path.push edgeRef edge := by
  obtain ⟨edgeRef, taken, extended⟩ := List.mem_filterMap.mp member
  obtain ⟨edge, resolves, rest⟩ := Option.bind_eq_some_iff.mp extended
  obtain ⟨_, checked, rest⟩ := Option.bind_eq_some_iff.mp rest
  obtain ⟨_, unvisited, same⟩ := Option.bind_eq_some_iff.mp rest
  injection same with same
  have usable := (Option.guard_eq_some' _).mp checked
  have fresh := (Option.guard_eq_some' _).mp unvisited
  exact ⟨edgeRef, edge, fromIdx_of_mem_virtualOutgoing (List.mem_of_mem_take taken), resolves,
    ⟨.extending start target path.edgeRefs edgeRef, resolves, usable⟩, fresh, same.symm⟩

/-- An extension of a path follows the walk of the path and one more edge. -/
theorem SearchPath.follows_of_mem_extensions (wellIndexed : snapshot.WellIndexed)
    {start target finish : Nat} {path extension : SearchPath} {edges : List Edge}
    (follows : path.Follows finder context snapshot minTradeRawByToken start finish edges)
    (member : extension ∈ path.extensions finder context snapshot minTradeRawByToken start
      target) :
    ∃ edge, extension.Follows finder context snapshot minTradeRawByToken start edge.toIdx
      (edges ++ [edge]) := by
  obtain ⟨edgeRef, edge, leavesCurrent, resolves, usable, _, rfl⟩ :=
    SearchPath.exists_of_mem_extensions member
  have leaves : edge.fromIdx = finish := by
    rw [wellIndexed.rowsOwned edgeRef edge resolves, leavesCurrent, follows.currentNode]
  exact ⟨edge, follows.push resolves leaves usable⟩

/-- Every path that is found leads from the start to the target. -/
theorem follows_findTopPaths (wellIndexed : snapshot.WellIndexed) {start target maxHops : Nat}
    {path : SearchPath}
    (found : path ∈ findTopPaths finder context snapshot minTradeRawByToken start target maxHops) :
    ∃ edges, path.Follows finder context snapshot minTradeRawByToken start target edges := by
  unfold findTopPaths at found
  split at found
  · rename_i same
    rw [List.mem_singleton.mp found, ← same]
    exact ⟨[], SearchPath.follows_initial start⟩
  · have searched := of_mem_beamSearch
      (fun path => ∃ finish edges,
        path.Follows finder context snapshot minTradeRawByToken start finish edges)
      (fun _ _ kept => mem_of_mem_keepBest kept) (fun _ _ kept => mem_of_mem_keepBest kept)
      (by
        rintro path ⟨finish, edges, follows⟩ extension member
        obtain ⟨edge, further⟩ := SearchPath.follows_of_mem_extensions wellIndexed follows member
        exact ⟨edge.toIdx, edges ++ [edge], further⟩)
      (by
        intro path member
        cases member)
      (by
        intro path member
        rw [List.mem_singleton.mp member]
        exact ⟨start, [], SearchPath.follows_initial start⟩)
      path (mem_of_mem_keepBest found)
    obtain ⟨⟨finish, edges, follows⟩, complete⟩ := searched
    have reached : path.currentNode = target := of_decide_eq_true complete
    rw [← reached, follows.currentNode]
    exact ⟨edges, follows⟩

end Search

end DexArbitrage
