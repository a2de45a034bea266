/-
This file runs a detection, from the tokens and the pools to the candidates,
under different orders of its hash maps: that of the pools, from which the graph
is built, that of the edges of a token by their targets, that of the changed
pairs and that of the token paths. Everything else a run reads is the same in
all runs of the detection; what is read for an edge depends on the edge, not on
its place in the tables.

A list of edges that the search makes holds the same edges in the same order in
every run, as long as the comparison tells apart the listed edges that belong to
different pools or lead to different tokens.
-/

import DexArbitrage.Detector.EdgeRanking
import DexArbitrage.Detector.PathFinder

namespace DexArbitrage

open Std

/-! ### Detections and their runs -/

/-- A check of an edge for being usable, with the edges themselves for their references. -/
inductive EdgeCheck
  | outgoing (vertex : Nat) (edge : Option Edge)
  | extending (start target : Nat) (edges : List (Option Edge)) (edge : Option Edge)
  | changedPair (pair : Nat × Nat) (edge : Option Edge)

def UsableCheck.onEdges (snapshot : GraphSnapshot) : UsableCheck → EdgeCheck
  | outgoing vertex edgeRef => .outgoing vertex (snapshot.edge edgeRef)
  | extending start target edgeRefs edgeRef =>
    .extending start target (edgeRefs.map snapshot.edge) (snapshot.edge edgeRef)
  | changedPair pair edgeRef => .changedPair pair (snapshot.edge edgeRef)

/-- What a detection is about and what it reads. -/
structure Detection where
  rates : FloatRates
  snapshotId : Nat
  blockRef : Option BlockRef
  tokens : List TokenInfo
  pools : HashMap Address PoolState
  changedPools : List Address
  finder : PathFinder
  clock : EdgeCheck → SystemTime
  displayAddress : Address → String
  routeStartCapacityRaw : List (Option Edge) → Option Nat
  env : SearchEnv

/-- The orders in which a run visits its hash maps. -/
structure HashOrders (detection : Detection) where
  pools : HashMap Address PoolState
  samePools : detection.pools.entries.Perm pools.entries
  pairs : IterationOrder ((Nat × Nat) × EdgeRef)
  outgoing : Nat → IterationOrder (List EdgeRef)
  variants : IterationOrder (List CandidatePath)

/-- The orders in which the maps are stored. -/
def HashOrders.stored (detection : Detection) : HashOrders detection where
  pools := detection.pools
  samePools := List.Perm.refl _
  pairs := inStoredOrder
  outgoing _ := inStoredOrder
  variants := inStoredOrder

namespace Detection

variable (detection : Detection) (orders : HashOrders detection)

def snapshot : GraphSnapshot :=
  GraphSnapshot.build detection.rates detection.snapshotId detection.blockRef detection.tokens
    orders.pools

def context : SearchContext where
  clock check := detection.clock (check.onEdges (detection.snapshot orders))
  pairsOrder := orders.pairs
  outgoingOrder := orders.outgoing
  variantsOrder := orders.variants
  displayAddress := detection.displayAddress
  routeStartCapacityRaw snapshot edgeRefs :=
    detection.routeStartCapacityRaw (edgeRefs.map snapshot.edge)
  env := detection.env

/-- The edges of the changed pools. -/
def changedEdges : List EdgeRef :=
  detection.changedPools.flatMap fun poolId =>
    ((detection.snapshot orders).poolToEdges.lookup poolId).getD []

def run : Option (List CandidatePath) := do
  let distanceCache ← DistanceCache.recompute (detection.snapshot orders)
  findCandidates detection.finder (detection.context orders) (detection.snapshot orders)
    (detection.changedEdges orders) distanceCache

/-- The candidates that a run returns, as a set; there is none when the run panics. -/
def found : Option (Set CandidatePath) :=
  (detection.run orders).map fun candidates => {candidate | candidate ∈ candidates}

/-- Every two runs return the same set of candidates. -/
def OrderIndependent : Prop :=
  ∀ first second : HashOrders detection, detection.found first = detection.found second

def minTradeRaw : List (Option Nat) :=
  detection.tokens.map (usdE8ToAmount detection.finder.minTradeUsdE8)

def edgesOf (pool : PoolState) : List Edge :=
  buildEdgesForPool detection.rates pool
    (HashMap.ofList (detection.tokens.zipIdx.map fun (token, idx) => (token.address, idx)))

/-- A check finds the edge usable. -/
def usable (check : EdgeCheck) (edge : Edge) : Bool :=
  edgeIsUsable detection.finder detection.minTradeRaw (detection.clock check) edge

/-- The edge is usable when the edges of a pair are listed, and is one of them. -/
def isOfPair (pair : Nat × Nat) (edge : Edge) : Bool :=
  detection.usable (.changedPair pair (some edge)) edge && (edge.fromIdx, edge.toIdx) = pair

/-- The edge is usable when the edges of a token are listed, and leads from it to another one. -/
def leads (vertex toIdx : Nat) (edge : Edge) : Bool :=
  detection.usable (.outgoing vertex (some edge)) edge &&
    (edge.fromIdx = vertex && edge.toIdx = toIdx)

/-- Edges that pass a test and are not told apart belong to one pool. -/
def TiesInOnePool (test : Edge → Bool) : Prop :=
  ∀ leftId left rightId right, detection.pools.lookup leftId = some left →
    detection.pools.lookup rightId = some right →
    ∀ edge ∈ detection.edgesOf left, ∀ other ∈ detection.edgesOf right,
      test edge = true → test other = true → compareEdges edge other = .eq → leftId = rightId

section Runs

variable {detection : Detection} {orders first second : HashOrders detection}

/-- The edges of the graph, in the order in which a run adds them. -/
def builtEdges (detection : Detection) (orders : HashOrders detection) : List Edge :=
  GraphSnapshot.builtEdges detection.rates detection.tokens orders.pools

theorem builtEdges_perm (first second : HashOrders detection) :
    (detection.builtEdges first).Perm (detection.builtEdges second) :=
  (GraphSnapshot.perm_builtEdges first.samePools).symm.trans
    (GraphSnapshot.perm_builtEdges second.samePools)

theorem mem_builtEdges_of_resolves {edgeRef : EdgeRef} {edge : Edge}
    (resolves : (detection.snapshot orders).edge edgeRef = some edge) :
    edge ∈ detection.builtEdges orders :=
  (GraphSnapshot.exists_edge_build_iff edge).mp ⟨edgeRef, resolves⟩

theorem exists_edgesOf {edge : Edge} (isBuilt : edge ∈ detection.builtEdges orders) :
    ∃ poolId pool, detection.pools.lookup poolId = some pool ∧ edge ∈ detection.edgesOf pool := by
  have stored : edge ∈ GraphSnapshot.builtEdges detection.rates detection.tokens detection.pools :=
    (GraphSnapshot.perm_builtEdges orders.samePools).mem_iff.mpr isBuilt
  obtain ⟨pool, listed, ofPool⟩ := List.mem_flatMap.mp stored
  obtain ⟨poolId, found⟩ := (HashMap.mem_values _ _).mp listed
  exact ⟨poolId, pool, found, ofPool⟩

/-- A selection of edges that tie with one edge does not depend on the order of the pools. -/
theorem TiesInOnePool.filter_eq {allowed : Edge → Bool} (ties : detection.TiesInOnePool allowed)
    (between : Edge) {test : Edge → Bool}
    (selects : ∀ edge, test edge = true →
      allowed edge = true ∧ compareEdges between edge = .eq) :
    (detection.builtEdges first).filter test = (detection.builtEdges second).filter test := by
  have onePool : GraphSnapshot.FromOnePool detection.rates detection.tokens detection.pools
      test := by
    rintro leftId left rightId right leftFound rightFound ⟨edge, ofLeft, edgeTest⟩
      ⟨other, ofRight, otherTest⟩
    obtain ⟨edgeAllowed, edgeTied⟩ := selects edge edgeTest
    obtain ⟨otherAllowed, otherTied⟩ := selects other otherTest
    exact ties leftId left rightId right leftFound rightFound edge ofLeft other ofRight edgeAllowed
      otherAllowed (TransCmp.eq_trans (OrientedCmp.eq_comm.mp edgeTied) otherTied)
  exact (GraphSnapshot.filter_builtEdges_eq first.samePools onePool).symm.trans
    (GraphSnapshot.filter_builtEdges_eq second.samePools onePool)

/-! ### The edges of a pair -/

/-- The usable edges of a pair, as they are ranked. -/
def pairEdges (detection : Detection) (orders : HashOrders detection) (pair : Nat × Nat) :
    List Edge :=
  keepBest compareEdges detection.finder.tuning.maxPairEdgesPerPair <|
    (edgesBetween pair (detection.builtEdges orders)).filter fun edge =>
      detection.usable (.changedPair pair (some edge)) edge

/-- Whether an edge that is filed under a pair may close a round trip over it. -/
def usableOnPair (detection : Detection) (orders : HashOrders detection) (pair : Nat × Nat)
    (edgeRef : EdgeRef) : Bool :=
  match (detection.snapshot orders).edge edgeRef with
  | some edge => edgeIsUsable detection.finder detection.minTradeRaw
      ((detection.context orders).clock (.changedPair pair edgeRef)) edge
  | none => false

theorem candidatePairEdges_eq (fromIdx toIdx : Nat) :
    candidatePairEdges detection.finder (detection.context orders) (detection.snapshot orders)
        detection.minTradeRaw fromIdx toIdx =
      keepBest (PathFinder.compareEdgeRefs (detection.snapshot orders))
        detection.finder.tuning.maxPairEdgesPerPair
        (((detection.snapshot orders).pairRefs (fromIdx, toIdx)).filter
          (detection.usableOnPair orders (fromIdx, toIdx))) := by
  unfold candidatePairEdges GraphSnapshot.pairRefs
  cases (detection.snapshot orders).pairToEdges.lookup (fromIdx, toIdx) with
  | none => simp [keepBest, sortBy]
  | some edgeRefs => rfl

theorem resolves_candidatePairEdges (fromIdx toIdx : Nat) :
    (detection.snapshot orders).Resolves
      (candidatePairEdges detection.finder (detection.context orders) (detection.snapshot orders)
        detection.minTradeRaw fromIdx toIdx)
      (detection.pairEdges orders (fromIdx, toIdx)) := by
  have filed : (detection.snapshot orders).Resolves
      ((detection.snapshot orders).pairRefs (fromIdx, toIdx))
      (edgesBetween (fromIdx, toIdx) (detection.builtEdges orders)) :=
    resolves_pairRefs (fromIdx, toIdx)
  have kept : (detection.snapshot orders).Resolves
      (((detection.snapshot orders).pairRefs (fromIdx, toIdx)).filter
        (detection.usableOnPair orders (fromIdx, toIdx)))
      ((edgesBetween (fromIdx, toIdx) (detection.builtEdges orders)).filter fun edge =>
        detection.usable (.changedPair (fromIdx, toIdx) (some edge)) edge) := by
    refine forall₂_filter (fun edgeRef edge resolves => ?_) filed
    rw [usableOnPair, resolves]
    show edgeIsUsable _ _ (detection.clock (.changedPair (fromIdx, toIdx)
      ((detection.snapshot orders).edge edgeRef))) edge = _
    rw [resolves]
    rfl
  rw [candidatePairEdges_eq]
  exact kept.best _

theorem TiesInOnePool.pairEdges_eq {pair : Nat × Nat}
    (ties : detection.TiesInOnePool (detection.isOfPair pair)) :
    detection.pairEdges first pair = detection.pairEdges second pair := by
  unfold pairEdges keepBest
  refine congrArg (List.take _) (sortBy_eq_of_tiedWith fun between => ?_)
  unfold tiedWith edgesBetween
  rw [List.filter_filter, List.filter_filter, List.filter_filter, List.filter_filter]
  refine ties.filter_eq between fun edge selected => ?_
  simp only [Bool.and_eq_true, decide_eq_true_eq, Ordering.isEq_iff_eq_eq] at selected
  obtain ⟨⟨tied, isUsable⟩, inPair⟩ := selected
  exact ⟨by simp [isOfPair, isUsable, inPair], tied⟩

/-! ### The edges that leave a token -/

/-- The usable edges from one token to another, as they are ranked. -/
def outgoingEdges (detection : Detection) (orders : HashOrders detection) (vertex toIdx : Nat) :
    List Edge :=
  keepBest compareEdges detection.finder.tuning.maxPairEdgesPerPair <|
    (sortBy compareRanked ((detection.builtEdges orders).filter fun edge =>
      edge.fromIdx = vertex)).filter fun edge =>
        detection.usable (.outgoing vertex (some edge)) edge && edge.toIdx = toIdx

/-- The edges that leave a token are told apart when they are listed: usable ones to one token, by
the pools, and the best ones of all tokens, by the tokens. -/
structure TellsTokenApart (detection : Detection) (vertex : Nat) : Prop where
  onePool : ∀ toIdx, detection.TiesInOnePool (detection.leads vertex toIdx)
  oneTarget : ∀ leftIdx rightIdx,
    ∀ edge ∈ detection.outgoingEdges (.stored detection) vertex leftIdx,
    ∀ other ∈ detection.outgoingEdges (.stored detection) vertex rightIdx,
      compareEdges edge other = .eq → leftIdx = rightIdx

/-- The usable edges that leave a token, by the tokens they lead to. -/
def outgoingGroups (detection : Detection) (orders : HashOrders detection) (vertex : Nat) :
    HashMap Nat (List EdgeRef) :=
  HashMap.group ((rankedOutgoing (detection.snapshot orders) vertex).filterMap
    (outgoingPair detection.finder (detection.context orders) (detection.snapshot orders)
      detection.minTradeRaw vertex))

theorem outgoingPair_of_resolves {vertex : Nat} {edgeRef : EdgeRef} {edge : Edge}
    (resolves : (detection.snapshot orders).edge edgeRef = some edge) :
    outgoingPair detection.finder (detection.context orders) (detection.snapshot orders)
        detection.minTradeRaw vertex edgeRef =
      if detection.usable (.outgoing vertex (some edge)) edge = true then
        some (edge.toIdx, edgeRef)
      else
        none := by
  have checked : edgeIsUsable detection.finder detection.minTradeRaw
      ((detection.context orders).clock (.outgoing vertex edgeRef)) edge =
      detection.usable (.outgoing vertex (some edge)) edge := by
    show edgeIsUsable _ _ (detection.clock (.outgoing vertex
      ((detection.snapshot orders).edge edgeRef))) edge = _
    rw [resolves]
    rfl
  unfold outgoingPair
  rw [resolves, Option.bind_eq_bind, Option.bind_some, checked]
  cases detection.usable (.outgoing vertex (some edge)) edge <;> rfl

theorem resolves_outgoingPairs {vertex toIdx : Nat} {edgeRefs : List EdgeRef} {edges : List Edge}
    (resolves : (detection.snapshot orders).Resolves edgeRefs edges) :
    (detection.snapshot orders).Resolves
      (((edgeRefs.filterMap (outgoingPair detection.finder (detection.context orders)
        (detection.snapshot orders) detection.minTradeRaw vertex)).filter fun pair =>
          pair.1 = toIdx).map Prod.snd)
      (edges.filter fun edge =>
        detection.usable (.outgoing vertex (some edge)) edge && edge.toIdx = toIdx) := by
  induction resolves with
  | nil => exact .nil
  | @cons edgeRef edge edgeRefs edges head _ inductionHypothesis =>
    rw [List.filterMap_cons, outgoingPair_of_resolves head, List.filter_cons]
    by_cases isUsable : detection.usable (.outgoing vertex (some edge)) edge = true
    · by_cases isTarget : edge.toIdx = toIdx
      · simp only [isUsable, isTarget, if_true, decide_true, Bool.and_self, List.filter_cons,
          List.map_cons]
        exact .cons head inductionHypothesis
      · simpa [isUsable, isTarget] using inductionHypothesis
    · simpa [isUsable] using inductionHypothesis

theorem resolves_outgoingGroups (orders : HashOrders detection) (vertex toIdx : Nat) :
    (detection.snapshot orders).Resolves
      (keepBest (PathFinder.compareEdgeRefs (detection.snapshot orders))
        detection.finder.tuning.maxPairEdgesPerPair
        (((detection.outgoingGroups orders vertex).lookup toIdx).getD []))
      (detection.outgoingEdges orders vertex toIdx) := by
  have ranked := resolves_rankedOutgoing (detection.snapshot orders) vertex
  have row : ((detection.snapshot orders).adjacency[vertex]?).getD [] =
      (detection.builtEdges orders).filter fun edge => edge.fromIdx = vertex :=
    GraphSnapshot.row_build vertex
  rw [row] at ranked
  unfold outgoingGroups
  rw [HashMap.lookup_group]
  exact (resolves_outgoingPairs ranked).best _

/-- What is grouped under a token leads there. -/
theorem edge_of_mem_outgoingGroups {vertex toIdx : Nat} {edgeRefs : List EdgeRef}
    (grouped : (detection.outgoingGroups orders vertex).lookup toIdx = some edgeRefs)
    {edgeRef : EdgeRef} (member : edgeRef ∈ edgeRefs) :
    ∃ edge, (detection.snapshot orders).edge edgeRef = some edge ∧ edge.fromIdx = vertex ∧
      edge.toIdx = toIdx ∧ detection.usable (.outgoing vertex (some edge)) edge = true := by
  obtain ⟨ranked, inRanked, paired⟩ :=
    List.mem_filterMap.mp (HashMap.mem_of_lookup_group grouped member)
  obtain ⟨leaves, edge, resolves⟩ := mem_rankedOutgoing_iff.mp inRanked
  rw [outgoingPair_of_resolves resolves] at paired
  split at paired
  · rename_i isUsable
    injection paired with paired
    injection paired with arrives sameRef
    subst sameRef
    refine ⟨edge, resolves, ?_, arrives, isUsable⟩
    rw [GraphSnapshot.wellIndexed_build.rowsOwned _ edge resolves, leaves]
  · cases paired

/-- The edges that a run lists for a token, before they are ranked. -/
def outgoingInOrder (detection : Detection) (orders : HashOrders detection) (vertex : Nat) :
    List EdgeRef :=
  ((orders.outgoing vertex).order (detection.outgoingGroups orders vertex).values).flatMap
    fun edgeRefs => keepBest (PathFinder.compareEdgeRefs (detection.snapshot orders))
      detection.finder.tuning.maxPairEdgesPerPair edgeRefs

theorem resolves_outgoingInOrder (vertex : Nat) :
    (detection.snapshot orders).Resolves (detection.outgoingInOrder orders vertex)
      ((detection.outgoingInOrder orders vertex).filterMap (detection.snapshot orders).edge) := by
  refine resolves_filterMap_edge fun edgeRef member => ?_
  obtain ⟨edgeRefs, inOrder, kept⟩ := List.mem_flatMap.mp member
  obtain ⟨toIdx, grouped⟩ := (HashMap.mem_values _ _).mp
    (((orders.outgoing vertex).perm _).mem_iff.mp inOrder)
  obtain ⟨edge, resolves, _⟩ := edge_of_mem_outgoingGroups grouped (mem_of_mem_keepBest kept)
  exact ⟨edge, resolves⟩

/-- When all listed edges that tie with one edge lead to one token, they come in the order in which
the edges to this token are ranked. -/
theorem tiedWith_outgoingInOrder {vertex toIdx : Nat} {between : Edge}
    (oneTarget : ∀ otherIdx, ∀ edge ∈ detection.outgoingEdges orders vertex otherIdx,
      compareEdges between edge = .eq → otherIdx = toIdx) :
    tiedWith compareEdges between
        ((detection.outgoingInOrder orders vertex).filterMap (detection.snapshot orders).edge) =
      tiedWith compareEdges between (detection.outgoingEdges orders vertex toIdx) := by
  have parts : ∀ edgeRefs, ((keepBest (PathFinder.compareEdgeRefs (detection.snapshot orders))
      detection.finder.tuning.maxPairEdgesPerPair edgeRefs).filterMap
        (detection.snapshot orders).edge).filter (fun edge => (compareEdges between edge).isEq) =
      tiedWith compareEdges between ((keepBest (PathFinder.compareEdgeRefs
        (detection.snapshot orders)) detection.finder.tuning.maxPairEdgesPerPair
        edgeRefs).filterMap (detection.snapshot orders).edge) := fun _ => rfl
  unfold outgoingInOrder
  conv => lhs; unfold tiedWith
  rw [List.filterMap_flatMap, List.filter_flatMap]
  simp only [parts]
  rw [HashMap.flatMap_values_eq _ ((orders.outgoing vertex).perm _) toIdx]
  · have grouped := (resolves_outgoingGroups orders vertex toIdx).filterMap_edge
    cases found : (detection.outgoingGroups orders vertex).lookup toIdx with
    | none =>
      rw [found] at grouped
      rw [← grouped]
      simp [keepBest, sortBy, tiedWith]
    | some edgeRefs =>
      rw [found] at grouped
      rw [← grouped]
      rfl
  · intro other edgeRefs grouped different
    refine List.eq_nil_iff_forall_not_mem.mpr fun edge member => different ?_
    obtain ⟨listed, tied⟩ := mem_tiedWith_iff.mp member
    have best := (resolves_outgoingGroups orders vertex other).filterMap_edge
    rw [grouped, Option.getD_some] at best
    exact oneTarget other edge (best ▸ listed) tied

theorem TellsTokenApart.outgoingEdges_eq {vertex : Nat} (apart : detection.TellsTokenApart vertex)
    (toIdx : Nat) :
    detection.outgoingEdges first vertex toIdx = detection.outgoingEdges second vertex toIdx := by
  unfold outgoingEdges keepBest
  refine congrArg (List.take _) (sortBy_eq_of_tiedWith fun between => ?_)
  -- The first ranking keeps edges in order that the second one does not tell apart.
  have unranked : ∀ orders : HashOrders detection, tiedWith compareEdges between
      ((sortBy compareRanked ((detection.builtEdges orders).filter fun edge =>
        edge.fromIdx = vertex)).filter fun edge =>
          detection.usable (.outgoing vertex (some edge)) edge && edge.toIdx = toIdx) =
      (detection.builtEdges orders).filter fun edge =>
        ((compareEdges between edge).isEq &&
          (detection.usable (.outgoing vertex (some edge)) edge && edge.toIdx = toIdx)) &&
            edge.fromIdx = vertex := by
    intro orders
    unfold tiedWith
    rw [List.filter_filter, filter_sortBy, List.filter_filter]
    intro left _ right _ leftSelected rightSelected
    simp only [Bool.and_eq_true, Ordering.isEq_iff_eq_eq] at leftSelected rightSelected
    rw [compareRanked_eq_of_compareEdges_eq
      (TransCmp.eq_trans (OrientedCmp.eq_comm.mp leftSelected.1) rightSelected.1)]
    rfl
  rw [unranked first, unranked second]
  refine (apart.onePool toIdx).filter_eq between fun edge selected => ?_
  simp only [Bool.and_eq_true, decide_eq_true_eq, Ordering.isEq_iff_eq_eq] at selected
  obtain ⟨⟨tied, isUsable, arrives⟩, leaves⟩ := selected
  exact ⟨by simp [leads, isUsable, arrives, leaves], tied⟩

/-- The lists of the edges that leave a token resolve to the same edges in every run. -/
theorem TellsTokenApart.virtualOutgoing_resolves {vertex : Nat}
    (apart : detection.TellsTokenApart vertex) (first second : HashOrders detection) :
    ∃ edges,
      (detection.snapshot first).Resolves
        (virtualOutgoing detection.finder (detection.context first) (detection.snapshot first)
          detection.minTradeRaw vertex) edges ∧
      (detection.snapshot second).Resolves
        (virtualOutgoing detection.finder (detection.context second) (detection.snapshot second)
          detection.minTradeRaw vertex) edges := by
  refine ⟨_, (resolves_outgoingInOrder vertex).sorted, ?_⟩
  have same : sortBy compareEdges ((detection.outgoingInOrder first vertex).filterMap
      (detection.snapshot first).edge) =
      sortBy compareEdges ((detection.outgoingInOrder second vertex).filterMap
        (detection.snapshot second).edge) := by
    refine sortBy_eq_of_tiedWith fun between => ?_
    obtain ⟨toIdx, oneTarget⟩ : ∃ toIdx, ∀ otherIdx,
        ∀ edge ∈ detection.outgoingEdges (.stored detection) vertex otherIdx,
        compareEdges between edge = .eq → otherIdx = toIdx := by
      by_cases some : ∃ toIdx, ∃ edge ∈ detection.outgoingEdges (.stored detection) vertex toIdx,
          compareEdges between edge = .eq
      · obtain ⟨toIdx, target, isListed, tied⟩ := some
        refine ⟨toIdx, fun otherIdx edge edgeListed edgeTied => ?_⟩
        exact apart.oneTarget otherIdx toIdx edge edgeListed target isListed
          (TransCmp.eq_trans (OrientedCmp.eq_comm.mp edgeTied) tied)
      · exact ⟨0, fun otherIdx edge isListed tied => (some ⟨otherIdx, edge, isListed, tied⟩).elim⟩
    have inRun : ∀ orders : HashOrders detection, ∀ otherIdx,
        ∀ edge ∈ detection.outgoingEdges orders vertex otherIdx,
        compareEdges between edge = .eq → otherIdx = toIdx := by
      intro orders otherIdx edge isListed
      have same : detection.outgoingEdges orders vertex otherIdx =
          detection.outgoingEdges (.stored detection) vertex otherIdx :=
        apart.outgoingEdges_eq otherIdx
      exact oneTarget otherIdx edge (same ▸ isListed)
    rw [tiedWith_outgoingInOrder (inRun first), tiedWith_outgoingInOrder (inRun second),
      apart.outgoingEdges_eq toIdx]
  rw [same]
  exact (resolves_outgoingInOrder vertex).sorted

end Runs

end Detection

end DexArbitrage
