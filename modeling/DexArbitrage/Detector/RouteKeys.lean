/-
This file is about the keys under which the search files its routes. A key tells
the tokens and the pools of a route, and on a snapshot whose pools list no token
twice these tell the edges.
-/

import DexArbitrage.Detector.CycleKeys
import DexArbitrage.Detector.EdgeLists
import DexArbitrage.Detector.PathFinder
import DexArbitrage.Graph.DistinctEdges

namespace DexArbitrage

/-! ### The key of a route -/

theorem routeCycleKey_eq {displayAddress : Address → String} {snapshot : GraphSnapshot}
    {edgeRefs : List EdgeRef} {edges : List Edge}
    (resolves : edgeRefs.map snapshot.edge = edges.map some) {hops : List CandidateHop}
    (areHops : edges.map (hopOf snapshot) = hops.map some) :
    routeCycleKey displayAddress snapshot edgeRefs =
      String.intercalate "|" (hops.map fun hop =>
        hopText displayAddress hop.fromToken hop.toToken hop.poolId) := by
  unfold routeCycleKey
  congr 1
  induction edgeRefs generalizing edges hops with
  | nil =>
    cases edges with
    | nil =>
      cases hops with
      | nil => rfl
      | cons hop rest => cases areHops
    | cons edge rest => cases resolves
  | cons edgeRef refs inductionHypothesis =>
    cases edges with
    | nil => cases resolves
    | cons edge rest =>
      cases hops with
      | nil => cases areHops
      | cons hop others =>
        rw [List.map_cons, List.map_cons, List.cons.injEq] at resolves areHops
        obtain ⟨fromToken, atFrom, found⟩ := Option.bind_eq_some_iff.mp areHops.1
        obtain ⟨toToken, atTo, same⟩ := Option.bind_eq_some_iff.mp found
        injection same with same
        rw [List.map_cons, ← inductionHypothesis resolves.2 areHops.2, ← same]
        refine List.filterMap_cons_some ?_
        rw [resolves.1]
        dsimp only [Option.bind_eq_bind, Option.bind_some]
        rw [atFrom, atTo]
        rfl

/-! ### The routes of a built snapshot -/

namespace GraphSnapshot

section Build

variable {rates : FloatRates} {snapshotId : Nat} {blockRef : Option BlockRef}
  {tokens : List TokenInfo} {pools : HashMap Address PoolState}

/-- Every edge of a built snapshot is a hop between tokens of the snapshot. -/
theorem exists_hopOf {edgeRef : EdgeRef} {edge : Edge}
    (resolves : (build rates snapshotId blockRef tokens pools).edge edgeRef = some edge) :
    ∃ hop, hopOf (build rates snapshotId blockRef tokens pools) edge = some hop ∧
      (build rates snapshotId blockRef tokens pools).tokenIndex hop.fromToken =
        some edge.fromIdx ∧
      (build rates snapshotId blockRef tokens pools).tokenIndex hop.toToken = some edge.toIdx ∧
      hop.poolId = edge.poolId := by
  obtain ⟨⟨fromToken, atFrom, fromIndex⟩, toToken, atTo, toIndex⟩ := tokens_of_edge resolves
  have fromFound : (build rates snapshotId blockRef tokens pools).tokens[edge.fromIdx]? =
      some fromToken := atFrom
  have toFound : (build rates snapshotId blockRef tokens pools).tokens[edge.toIdx]? =
      some toToken := atTo
  refine ⟨{ fromToken := fromToken.address, toToken := toToken.address, poolId := edge.poolId
            ammKind := edge.ammKind, dexName := edge.dexName }, ?_, fromIndex, toIndex, rfl⟩
  unfold hopOf
  rw [fromFound, toFound]
  rfl

theorem exists_hopsOf {edgeRefs : List EdgeRef} {edges : List Edge}
    (resolves : edgeRefs.map (build rates snapshotId blockRef tokens pools).edge =
      edges.map some) :
    ∃ hops : List CandidateHop,
      edges.map (hopOf (build rates snapshotId blockRef tokens pools)) = hops.map some := by
  replace resolves := forall₂_of_map_eq_some resolves
  induction resolves with
  | nil => exact ⟨[], rfl⟩
  | cons isEdge _ inductionHypothesis =>
    obtain ⟨hop, isHop, _⟩ := exists_hopOf isEdge
    obtain ⟨hops, areHops⟩ := inductionHypothesis
    exact ⟨hop :: hops, by rw [List.map_cons, List.map_cons, isHop, areHops]⟩

/-- The tokens and the pool of a hop. -/
def placeOf (snapshot : GraphSnapshot) (edgeRef : EdgeRef) :
    Option (Address × Address × Address) :=
  ((snapshot.edge edgeRef).bind (hopOf snapshot)).map CandidateHop.place

theorem map_placeOf {snapshot : GraphSnapshot} {edgeRefs : List EdgeRef} {edges : List Edge}
    (resolves : edgeRefs.map snapshot.edge = edges.map some) {hops : List CandidateHop}
    (areHops : edges.map (hopOf snapshot) = hops.map some) :
    edgeRefs.map snapshot.placeOf = (hops.map CandidateHop.place).map some := by
  have places : edgeRefs.map snapshot.placeOf = (edgeRefs.map snapshot.edge).map
      fun edge => (edge.bind (hopOf snapshot)).map CandidateHop.place := by
    rw [List.map_map]
    rfl
  have hopPlaces : (edges.map some).map (fun edge =>
      (edge.bind (hopOf snapshot)).map CandidateHop.place) =
      (edges.map (hopOf snapshot)).map (Option.map CandidateHop.place) := by
    rw [List.map_map, List.map_map]
    rfl
  rw [places, resolves, hopPlaces, areHops, List.map_map, List.map_map]
  rfl

/-- An edge is known by the tokens and the pool of its hop. -/
theorem edgeRef_eq_of_placeOf (filed : PoolsFiled pools) (distinct : TokensDistinct pools)
    {first second : EdgeRef} {edge other : Edge}
    (resolves : (build rates snapshotId blockRef tokens pools).edge first = some edge)
    (resolvesOther : (build rates snapshotId blockRef tokens pools).edge second = some other)
    (same : (build rates snapshotId blockRef tokens pools).placeOf first =
      (build rates snapshotId blockRef tokens pools).placeOf second) : first = second := by
  obtain ⟨hop, isHop, fromIndex, toIndex, isPool⟩ := exists_hopOf resolves
  obtain ⟨otherHop, isOther, otherFrom, otherTo, isOtherPool⟩ := exists_hopOf resolvesOther
  unfold placeOf at same
  rw [resolves, resolvesOther, Option.bind_some, Option.bind_some, isHop, isOther, Option.map_some,
    Option.map_some] at same
  injection same with same
  injection same with sameFrom rest
  injection rest with sameTo samePool
  rw [sameFrom, otherFrom] at fromIndex
  rw [sameTo, otherTo] at toIndex
  injection fromIndex with fromEqual
  injection toIndex with toEqual
  refine edgeRef_eq_of_sameHop filed distinct resolves resolvesOther fromEqual.symm toEqual.symm ?_
  rw [← isPool, samePool, isOtherPool]

theorem edgeRefs_eq_of_map_placeOf (filed : PoolsFiled pools) (distinct : TokensDistinct pools)
    {edgeRefs otherRefs : List EdgeRef}
    (resolve : ∀ edgeRef ∈ edgeRefs, edgeRef ∈
      (build rates snapshotId blockRef tokens pools).edgeRefs)
    (resolveOther : ∀ edgeRef ∈ otherRefs, edgeRef ∈
      (build rates snapshotId blockRef tokens pools).edgeRefs)
    (same : edgeRefs.map (build rates snapshotId blockRef tokens pools).placeOf =
      otherRefs.map (build rates snapshotId blockRef tokens pools).placeOf) :
    edgeRefs = otherRefs := by
  induction edgeRefs generalizing otherRefs with
  | nil => exact (List.map_eq_nil_iff.mp same.symm).symm
  | cons edgeRef refs inductionHypothesis =>
    cases otherRefs with
    | nil => cases same
    | cons other others =>
      rw [List.map_cons, List.map_cons, List.cons.injEq] at same
      obtain ⟨edge, resolves⟩ := resolve edgeRef List.mem_cons_self
      obtain ⟨otherEdge, resolvesOther⟩ := resolveOther other List.mem_cons_self
      rw [edgeRef_eq_of_placeOf filed distinct resolves resolvesOther same.1,
        inductionHypothesis (fun ref member => resolve ref (List.mem_cons_of_mem _ member))
          (fun ref member => resolveOther ref (List.mem_cons_of_mem _ member)) same.2]

/-- Where no pool lists a token twice, a route is known by its key. -/
theorem edgeRefs_eq_of_routeCycleKey (filed : PoolsFiled pools) (distinct : TokensDistinct pools)
    {displayAddress : Address → String} (tells : TellsAddresses displayAddress)
    {edgeRefs otherRefs : List EdgeRef} {edges otherEdges : List Edge}
    (resolves : edgeRefs.map (build rates snapshotId blockRef tokens pools).edge =
      edges.map some)
    (resolvesOther : otherRefs.map (build rates snapshotId blockRef tokens pools).edge =
      otherEdges.map some)
    (nonempty : edges ≠ []) (otherNonempty : otherEdges ≠ [])
    (same : routeCycleKey displayAddress (build rates snapshotId blockRef tokens pools) edgeRefs =
      routeCycleKey displayAddress (build rates snapshotId blockRef tokens pools) otherRefs) :
    edgeRefs = otherRefs := by
  obtain ⟨hops, areHops⟩ := exists_hopsOf resolves
  obtain ⟨otherHops, areOthers⟩ := exists_hopsOf resolvesOther
  have someHop : ∀ {edges : List Edge} {hops : List CandidateHop}, edges ≠ [] →
      edges.map (hopOf (build rates snapshotId blockRef tokens pools)) = hops.map some →
      hops ≠ [] := by
    intro edges hops nonempty areHops empty
    rw [empty] at areHops
    exact nonempty (List.map_eq_nil_iff.mp areHops)
  rw [routeCycleKey_eq resolves areHops, routeCycleKey_eq resolvesOther areOthers] at same
  have places := map_place_eq_of_sameKey tells (someHop nonempty areHops)
    (someHop otherNonempty areOthers) same
  have inRefs : ∀ {edgeRefs : List EdgeRef} {edges : List Edge},
      edgeRefs.map (build rates snapshotId blockRef tokens pools).edge = edges.map some →
      ∀ edgeRef ∈ edgeRefs, edgeRef ∈ (build rates snapshotId blockRef tokens pools).edgeRefs := by
    intro edgeRefs edges resolves edgeRef member
    obtain ⟨edge, _, isEdge⟩ := exists_value_of_mem resolves member
    exact ⟨edge, isEdge⟩
  refine edgeRefs_eq_of_map_placeOf filed distinct (inRefs resolves) (inRefs resolvesOther) ?_
  rw [map_placeOf resolves areHops, map_placeOf resolvesOther areOthers, places]

end Build

end GraphSnapshot

end DexArbitrage
