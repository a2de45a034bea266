/-
This file says when the search overlooks no edge. When the limits on the edges of
a pair are not below the number of edges, the list of the edges that leave a
token is a rearrangement of its usable edges, and the list of the edges of a pair
holds every usable one. The pairs of the changed edges hold the pair of every
changed edge that exists, whatever the limits are.
-/

import Mathlib.Data.Set.Card
import DexArbitrage.Detector.PathSearch

namespace DexArbitrage

/-- A list of pairwise different members of a set is not longer than the set is large. -/
theorem length_le_of_encard_le {Element : Type} {members : Set Element} {count : Nat}
    (few : members.encard ≤ count) {elements : List Element} (nodup : elements.Nodup)
    (inSet : ∀ element ∈ elements, element ∈ members) : elements.length ≤ count := by
  classical
  have card : ((elements.toFinset : Set Element)).encard = elements.length := by
    rw [Set.encard_coe_eq_coe_finsetCard, List.toFinset_card_of_nodup nodup]
  have fewer : ((elements.toFinset : Set Element)).encard ≤ members.encard :=
    Set.encard_le_encard fun element member =>
      inSet element (List.mem_toFinset.mp (Finset.mem_coe.mp member))
  rw [card] at fewer
  exact_mod_cast fewer.trans few

/-- The references that resolve to an edge. -/
def GraphSnapshot.edgeRefs (snapshot : GraphSnapshot) : Set EdgeRef :=
  {edgeRef | ∃ edge, snapshot.edge edgeRef = some edge}

section EdgeLists

variable {finder : PathFinder} {context : SearchContext} {snapshot : GraphSnapshot}
  {minTradeRawByToken : List (Option Nat)}

/-- The edge is found usable at every check of the call. -/
def AlwaysUsable (finder : PathFinder) (context : SearchContext)
    (minTradeRawByToken : List (Option Nat)) (edgeRef : EdgeRef) (edge : Edge) : Prop :=
  ∀ check : UsableCheck, check.edgeRef = edgeRef →
    edgeIsUsable finder minTradeRawByToken (context.clock check) edge = true

/-! ### The edges that leave a token -/

theorem nodup_rankedOutgoing (vertex : Nat) : (rankedOutgoing snapshot vertex).Nodup := by
  unfold rankedOutgoing
  have positions : ((snapshot.adjacency[vertex]?.getD []).zipIdx.map Prod.snd).Nodup := by
    rw [List.zipIdx_map_snd]
    exact List.nodup_range'
  have ranked := ((perm_sortBy (fun a b : Edge × Nat =>
    (compare b.1.poolHealth.confidenceBps a.1.poolHealth.confidenceBps).then <|
      (compare b.1.liquidity.safeCapacityIn a.1.liquidity.safeCapacityIn).then <|
        compare a.1.weightLogQ32 b.1.weightLogQ32)
    (snapshot.adjacency[vertex]?.getD []).zipIdx).map Prod.snd).nodup_iff.mpr positions
  refine List.pairwise_map.mpr ((List.pairwise_map.mp ranked).imp ?_)
  intro first second different same
  injection same with _ samePosition
  exact different samePosition

theorem mem_rankedOutgoing_iff {vertex : Nat} {edgeRef : EdgeRef} :
    edgeRef ∈ rankedOutgoing snapshot vertex ↔
      edgeRef.fromIdx = vertex ∧ edgeRef ∈ snapshot.edgeRefs := by
  unfold rankedOutgoing GraphSnapshot.edgeRefs GraphSnapshot.edge
  dsimp only
  rw [List.mem_map]
  constructor
  · rintro ⟨⟨edge, position⟩, ranked, same⟩
    rw [mem_sortBy, List.mem_zipIdx_iff_getElem?] at ranked
    rw [← same]
    refine ⟨rfl, edge, ?_⟩
    dsimp only at ranked ⊢
    cases row : snapshot.adjacency[vertex]? with
    | none =>
      rw [row] at ranked
      cases ranked
    | some edges =>
      rw [row] at ranked
      exact ranked
  · rintro ⟨leaves, edge, resolves⟩
    obtain ⟨edges, row, entry⟩ := Option.bind_eq_some_iff.mp resolves
    rw [leaves] at row
    refine ⟨(edge, edgeRef.edgeIdx), ?_, ?_⟩
    · rw [mem_sortBy, List.mem_zipIdx_iff_getElem?, row]
      exact entry
    · rw [← leaves]

/-- The edge is found usable when the edges that leave its token are listed. -/
def usableOutgoing (finder : PathFinder) (context : SearchContext) (snapshot : GraphSnapshot)
    (minTradeRawByToken : List (Option Nat)) (vertex : Nat) (edgeRef : EdgeRef) : Bool :=
  (snapshot.edge edgeRef).any fun edge =>
    edgeIsUsable finder minTradeRawByToken (context.clock (.outgoing vertex edgeRef)) edge

/-- What is grouped for an edge that leaves a token: the token it leads to, and the edge. -/
def outgoingPair (finder : PathFinder) (context : SearchContext) (snapshot : GraphSnapshot)
    (minTradeRawByToken : List (Option Nat)) (vertex : Nat) (edgeRef : EdgeRef) :
    Option (Nat × EdgeRef) := do
  let edge ← snapshot.edge edgeRef
  guard (edgeIsUsable finder minTradeRawByToken (context.clock (.outgoing vertex edgeRef)) edge)
  return (edge.toIdx, edgeRef)

theorem map_snd_outgoingPair (vertex : Nat) (edgeRef : EdgeRef) :
    (outgoingPair finder context snapshot minTradeRawByToken vertex edgeRef).map Prod.snd =
      if usableOutgoing finder context snapshot minTradeRawByToken vertex edgeRef then
        some edgeRef
      else
        none := by
  unfold outgoingPair usableOutgoing
  cases snapshot.edge edgeRef with
  | none => rfl
  | some edge =>
    rw [Option.any_some]
    dsimp only [Option.bind_eq_bind, Option.bind_some]
    cases edgeIsUsable finder minTradeRawByToken (context.clock (.outgoing vertex edgeRef)) edge
    · rfl
    · rfl

theorem perm_grouped_outgoing (vertex : Nat) :
    (HashMap.group ((rankedOutgoing snapshot vertex).filterMap
      (outgoingPair finder context snapshot minTradeRawByToken vertex))).values.flatten.Perm
      ((rankedOutgoing snapshot vertex).filter
        (usableOutgoing finder context snapshot minTradeRawByToken vertex)) := by
  have grouped := HashMap.perm_flatten_values_group ((rankedOutgoing snapshot vertex).filterMap
    (outgoingPair finder context snapshot minTradeRawByToken vertex))
  rw [List.map_filterMap, List.filterMap_congr fun edgeRef _ => map_snd_outgoingPair vertex edgeRef]
    at grouped
  rw [← List.filterMap_eq_filter]
  exact grouped

/-- Within the limit, the edges that leave a token are its usable edges in some order. -/
theorem perm_virtualOutgoing (few : snapshot.edgeRefs.encard ≤ finder.tuning.maxPairEdgesPerPair)
    (vertex : Nat) :
    (virtualOutgoing finder context snapshot minTradeRawByToken vertex).Perm
      ((rankedOutgoing snapshot vertex).filter
        (usableOutgoing finder context snapshot minTradeRawByToken vertex)) := by
  have grouped : (HashMap.group ((rankedOutgoing snapshot vertex).filterMap
      (outgoingPair finder context snapshot minTradeRawByToken vertex))).values.flatten.Perm
      ((rankedOutgoing snapshot vertex).filter
        (usableOutgoing finder context snapshot minTradeRawByToken vertex)) :=
    perm_grouped_outgoing vertex
  have distinct : ((rankedOutgoing snapshot vertex).filter
      (usableOutgoing finder context snapshot minTradeRawByToken vertex)).Nodup :=
    (nodup_rankedOutgoing vertex).filter _
  have keepsGroups : ∀ edgeRefs ∈ (context.outgoingOrder vertex).order (HashMap.group
      ((rankedOutgoing snapshot vertex).filterMap
        (outgoingPair finder context snapshot minTradeRawByToken vertex))).values,
      (keepBest (PathFinder.compareEdgeRefs snapshot) finder.tuning.maxPairEdgesPerPair
        edgeRefs).Perm edgeRefs := by
    intro edgeRefs inOrder
    have sublist := List.sublist_flatten_of_mem
      (((context.outgoingOrder vertex).perm _).mem_iff.mp inOrder)
    refine perm_keepBest (length_le_of_encard_le few
      ((grouped.nodup_iff.mpr distinct).sublist sublist) fun edgeRef member => ?_)
    exact (mem_rankedOutgoing_iff.mp
      (List.mem_filter.mp (grouped.mem_iff.mp (sublist.subset member))).1).2
  refine (perm_sortBy _ _).trans ((List.Perm.flatMap_left _ keepsGroups).trans ?_)
  rw [List.flatMap_id']
  exact ((context.outgoingOrder vertex).perm _).flatten.trans grouped

theorem mem_virtualOutgoing (few : snapshot.edgeRefs.encard ≤ finder.tuning.maxPairEdgesPerPair)
    {edgeRef : EdgeRef} {edge : Edge} (resolves : snapshot.edge edgeRef = some edge)
    (usable : AlwaysUsable finder context minTradeRawByToken edgeRef edge) :
    edgeRef ∈ virtualOutgoing finder context snapshot minTradeRawByToken edgeRef.fromIdx := by
  refine (perm_virtualOutgoing few edgeRef.fromIdx).mem_iff.mpr (List.mem_filter.mpr ⟨?_, ?_⟩)
  · exact mem_rankedOutgoing_iff.mpr ⟨rfl, edge, resolves⟩
  · unfold usableOutgoing
    rw [resolves, Option.any_some]
    exact usable (.outgoing edgeRef.fromIdx edgeRef) rfl

/-- Within the limits, the cut of the list of the edges that leave a token keeps the list. -/
theorem take_virtualOutgoing (few : snapshot.edgeRefs.encard ≤ finder.tuning.maxPairEdgesPerPair)
    (fewBranches : snapshot.edgeRefs.encard ≤ finder.tuning.maxVirtualBranchesPerNode)
    (vertex : Nat) :
    (virtualOutgoing finder context snapshot minTradeRawByToken vertex).take
        finder.tuning.maxVirtualBranchesPerNode =
      virtualOutgoing finder context snapshot minTradeRawByToken vertex := by
  have perm : (virtualOutgoing finder context snapshot minTradeRawByToken vertex).Perm
      ((rankedOutgoing snapshot vertex).filter
        (usableOutgoing finder context snapshot minTradeRawByToken vertex)) :=
    perm_virtualOutgoing few vertex
  refine List.take_of_length_le (length_le_of_encard_le fewBranches ?_ fun edgeRef member => ?_)
  · exact perm.nodup_iff.mpr ((nodup_rankedOutgoing vertex).filter _)
  · exact (mem_rankedOutgoing_iff.mp (List.mem_filter.mp (perm.mem_iff.mp member)).1).2

/-! ### The edges of a pair -/

theorem mem_candidatePairEdges_of_usable (filesAll : snapshot.FilesAll)
    (wellIndexed : snapshot.WellIndexed)
    (few : snapshot.edgeRefs.encard ≤ finder.tuning.maxPairEdgesPerPair)
    {edgeRef : EdgeRef} {edge : Edge} (resolves : snapshot.edge edgeRef = some edge)
    (usable : AlwaysUsable finder context minTradeRawByToken edgeRef edge) :
    edgeRef ∈ candidatePairEdges finder context snapshot minTradeRawByToken edge.fromIdx
      edge.toIdx := by
  obtain ⟨edgeRefs, found, member⟩ := filesAll.filed edgeRef edge resolves
  unfold candidatePairEdges
  rw [found]
  dsimp only
  refine (perm_keepBest (length_le_of_encard_le few ?_ fun other kept => ?_)).mem_iff.mpr
    (List.mem_filter.mpr ⟨member, ?_⟩)
  · exact (filesAll.nodup _ edgeRefs found).filter _
  · obtain ⟨resolved, isEdge, _⟩ :=
      wellIndexed.pairsResolve _ edgeRefs found other (List.mem_filter.mp kept).1
    exact ⟨resolved, isEdge⟩
  · rw [resolves]
    exact usable (.changedPair (edge.fromIdx, edge.toIdx) edgeRef) rfl

/-! ### The pairs of the changed edges -/

/-- A pair that has been filed stays filed, and the pair of the edge at hand is filed. -/
theorem isSome_lookup_notePair (byPair : HashMap (Nat × Nat) EdgeRef) (edgeRef : EdgeRef)
    {pair : Nat × Nat}
    (filed : (byPair.lookup pair).isSome ∨
      ∃ edge, snapshot.edge edgeRef = some edge ∧ (edge.fromIdx, edge.toIdx) = pair) :
    ((notePair snapshot byPair edgeRef).lookup pair).isSome := by
  unfold notePair
  cases resolves : snapshot.edge edgeRef with
  | none =>
    rcases filed with already | ⟨_, isEdge, _⟩
    · exact already
    · rw [resolves] at isEdge
      cases isEdge
  | some edge =>
    have inserted : (AList.lookup pair
        (byPair.insert (edge.fromIdx, edge.toIdx) edgeRef)).isSome := by
      rw [HashMap.lookup_insert]
      split
      · rfl
      · rename_i other
        rcases filed with already | ⟨found, isEdge, same⟩
        · exact already
        · rw [resolves] at isEdge
          injection isEdge with isEdge
          exact (other (isEdge ▸ same).symm).elim
    dsimp only
    split
    · exact inserted
    · rename_i current stored
      split
      · exact inserted
      · rcases filed with already | ⟨found, isEdge, same⟩
        · exact already
        · rw [resolves] at isEdge
          injection isEdge with isEdge
          rw [← same, ← isEdge, stored]
          rfl

theorem exists_mem_changedVirtualPairs {changedEdges : List EdgeRef} {edgeRef : EdgeRef}
    {edge : Edge} (changed : edgeRef ∈ changedEdges)
    (resolves : snapshot.edge edgeRef = some edge) :
    ∃ best,
      ((edge.fromIdx, edge.toIdx), best) ∈ changedVirtualPairs context snapshot changedEdges := by
  have filed : ∀ byPair : HashMap (Nat × Nat) EdgeRef,
      (byPair.lookup (edge.fromIdx, edge.toIdx)).isSome ∨ edgeRef ∈ changedEdges →
      ((changedEdges.foldl (notePair snapshot) byPair).lookup
        (edge.fromIdx, edge.toIdx)).isSome := by
    clear changed
    induction changedEdges with
    | nil => exact fun byPair filed => filed.elim id fun member => nomatch member
    | cons first rest inductionHypothesis =>
      intro byPair filed
      refine inductionHypothesis (notePair snapshot byPair first) ?_
      rcases filed with already | member
      · exact Or.inl (isSome_lookup_notePair byPair first (Or.inl already))
      · rcases List.mem_cons.mp member with same | later
        · exact Or.inl (isSome_lookup_notePair byPair first (Or.inr ⟨edge, same ▸ resolves, rfl⟩))
        · exact Or.inr later
  obtain ⟨best, found⟩ := Option.isSome_iff_exists.mp (filed ∅ (Or.inr changed))
  refine ⟨best, (mem_sortBy _ _ _).mpr ((context.pairsOrder.perm _).mem_iff.mpr
    (List.mem_map.mpr ⟨⟨_, best⟩, ?_, rfl⟩))⟩
  exact (HashMap.lookup_eq_some_iff _ _ _).mp found

end EdgeLists

end DexArbitrage
