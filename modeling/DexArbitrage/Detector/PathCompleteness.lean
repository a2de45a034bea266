/-
This file proves that the search for paths is complete when its limits do not
bind: when they are not below the numbers of the edges and of the simple paths of
the snapshot, every simple path over usable edges that is short enough is found.

The edges of a path tell it apart from the others, and an extension adds one
edge. The lists of a search therefore hold pairwise different simple paths, and
no cut shortens them.
-/

import DexArbitrage.Detector.EdgeLists

namespace DexArbitrage

/-- The walks of at least one edge that visit no token twice. -/
def GraphSnapshot.simplePaths (snapshot : GraphSnapshot) : Set (List EdgeRef) :=
  {edgeRefs | edgeRefs ≠ [] ∧ ∃ start edges finish,
    edgeRefs.map snapshot.edge = edges.map some ∧
      IsWalk Edge.fromIdx Edge.toIdx start edges finish ∧
      (start :: edges.map Edge.toIdx).Nodup}

/-- The limits of the search are not below the numbers of paths and of edges. -/
structure LimitsDoNotBind (finder : PathFinder) (snapshot : GraphSnapshot) : Prop where
  topKPathsPerSide : snapshot.simplePaths.encard ≤ finder.tuning.topKPathsPerSide
  pathBeamWidth : snapshot.simplePaths.encard ≤ finder.tuning.pathBeamWidth
  maxVirtualBranchesPerNode :
    snapshot.edgeRefs.encard ≤ finder.tuning.maxVirtualBranchesPerNode
  maxPairEdgesPerPair : snapshot.edgeRefs.encard ≤ finder.tuning.maxPairEdgesPerPair

section PathCompleteness

variable {finder : PathFinder} {context : SearchContext} {snapshot : GraphSnapshot}
  {minTradeRawByToken : List (Option Nat)}

/-! ### The extensions of a path -/

theorem push_mem_extensions (limits : LimitsDoNotBind finder snapshot)
    (wellIndexed : snapshot.WellIndexed) {start target : Nat} {path : SearchPath}
    {edgeRef : EdgeRef} {edge : Edge} (resolves : snapshot.edge edgeRef = some edge)
    (leaves : edge.fromIdx = path.currentNode) (fresh : edge.toIdx ∉ path.tokens)
    (usable : AlwaysUsable finder context minTradeRawByToken edgeRef edge) :
    path.push edgeRef edge ∈
      path.extensions finder context snapshot minTradeRawByToken start target := by
  have listed : edgeRef ∈ virtualOutgoing finder context snapshot minTradeRawByToken
      path.currentNode := by
    rw [← leaves, wellIndexed.rowsOwned edgeRef edge resolves]
    exact mem_virtualOutgoing limits.maxPairEdgesPerPair resolves usable
  unfold SearchPath.extensions
  dsimp only
  rw [take_virtualOutgoing limits.maxPairEdgesPerPair limits.maxVirtualBranchesPerNode]
  refine List.mem_filterMap.mpr ⟨edgeRef, listed, ?_⟩
  have isUsable := usable (.extending start target path.edgeRefs edgeRef) rfl
  rw [resolves]
  simp [guard, isUsable, fresh]

/-- A walk over the edges of the snapshot, which visits no token twice. -/
def SearchPath.IsSimple (finder : PathFinder) (context : SearchContext)
    (snapshot : GraphSnapshot) (minTradeRawByToken : List (Option Nat)) (start : Nat)
    (path : SearchPath) : Prop :=
  path.tokens.Nodup ∧ ∃ finish edges,
    path.Follows finder context snapshot minTradeRawByToken start finish edges

theorem SearchPath.IsSimple.mem_simplePaths {start : Nat} {path : SearchPath}
    (simple : path.IsSimple finder context snapshot minTradeRawByToken start)
    (nonempty : path.edgeRefs ≠ []) : path.edgeRefs ∈ snapshot.simplePaths := by
  obtain ⟨distinct, finish, edges, follows⟩ := simple
  exact ⟨nonempty, start, edges, finish, follows.resolves, follows.walk, follows.tokens ▸ distinct⟩

theorem lengthens_extensions (wellIndexed : snapshot.WellIndexed)
    (limits : LimitsDoNotBind finder snapshot) {start target : Nat} (path : SearchPath)
    (simple : path.IsSimple finder context snapshot minTradeRawByToken start) :
    Lengthens (SearchPath.extensions finder context snapshot minTradeRawByToken start target)
      SearchPath.edgeRefs (SearchPath.IsSimple finder context snapshot minTradeRawByToken start)
      path where
  extensionsValid := by
    obtain ⟨distinct, finish, edges, follows⟩ := simple
    intro extension member
    obtain ⟨edge, further⟩ := SearchPath.follows_of_mem_extensions wellIndexed follows member
    refine ⟨?_, edge.toIdx, edges ++ [edge], further⟩
    obtain ⟨edgeRef, added, _, _, _, fresh, same⟩ := SearchPath.exists_of_mem_extensions member
    rw [same]
    exact List.Nodup.append distinct (List.nodup_singleton _) (List.disjoint_singleton.mpr fresh)
  oneMore := by
    intro extension member
    obtain ⟨edgeRef, edge, _, _, _, _, same⟩ := SearchPath.exists_of_mem_extensions member
    exact ⟨edgeRef, by rw [same]; rfl⟩
  distinct := by
    have outgoing : ((virtualOutgoing finder context snapshot minTradeRawByToken
        path.currentNode).take finder.tuning.maxVirtualBranchesPerNode).Nodup :=
      ((perm_virtualOutgoing limits.maxPairEdgesPerPair path.currentNode).nodup_iff.mpr
        ((nodup_rankedOutgoing path.currentNode).filter _)).sublist (List.take_sublist _ _)
    refine List.pairwise_map.mpr (List.pairwise_filterMap.mpr (outgoing.imp ?_))
    intro first second different extension isFirst other isSecond same
    obtain ⟨edge, _, rest⟩ := Option.bind_eq_some_iff.mp isFirst
    obtain ⟨_, _, rest⟩ := Option.bind_eq_some_iff.mp rest
    obtain ⟨_, _, sameFirst⟩ := Option.bind_eq_some_iff.mp rest
    obtain ⟨otherEdge, _, rest⟩ := Option.bind_eq_some_iff.mp isSecond
    obtain ⟨_, _, rest⟩ := Option.bind_eq_some_iff.mp rest
    obtain ⟨_, _, sameSecond⟩ := Option.bind_eq_some_iff.mp rest
    injection sameFirst with sameFirst
    injection sameSecond with sameSecond
    rw [← sameFirst, ← sameSecond] at same
    exact different (List.singleton_injective (List.append_cancel_left same))

/-- A limit that is not below the number of simple paths cuts nothing off. -/
theorem keepsAll_keepBest {count start : Nat} (few : snapshot.simplePaths.encard ≤ count) :
    KeepsAll SearchPath.edgeRefs
      (SearchPath.IsSimple finder context snapshot minTradeRawByToken start)
      (keepBest comparePaths count) := by
  intro paths labelled
  have fewPaths : (paths.map SearchPath.edgeRefs).length ≤ count := by
    refine length_le_of_encard_le few labelled.distinct fun edgeRefs member => ?_
    obtain ⟨path, listed, same⟩ := List.mem_map.mp member
    rw [← same]
    exact (labelled.valid path listed).mem_simplePaths (labelled.nonempty path listed)
  rw [List.length_map] at fewPaths
  exact perm_keepBest fewPaths

variable (finder context snapshot minTradeRawByToken) in
theorem beamAt_initial (start : Nat) : BeamAt SearchPath.edgeRefs
    (SearchPath.IsSimple finder context snapshot minTradeRawByToken start) 0 []
    [SearchPath.initial start] := by
  refine ⟨⟨List.nodup_nil, fun _ member => (nomatch member), fun _ member => (nomatch member)⟩,
    fun _ member => (nomatch member), List.nodup_singleton _, fun path member => ?_,
    fun path member => ?_⟩
  · rw [List.mem_singleton.mp member]
    exact ⟨List.nodup_singleton _, start, [], SearchPath.follows_initial start⟩
  · rw [List.mem_singleton.mp member]
    rfl

/-! ### Every simple path is found -/

theorem SearchPath.currentNode_push (path : SearchPath) (edgeRef : EdgeRef) (edge : Edge) :
    (path.push edgeRef edge).currentNode = edge.toIdx :=
  List.getLast_concat

/-- The rest of a walk to the target completes a path that has come to where the rest starts. -/
theorem exists_completes (wellIndexed : snapshot.WellIndexed)
    (limits : LimitsDoNotBind finder snapshot) {start target : Nat} {edgeRefs : List EdgeRef}
    {edges : List Edge} (resolves : edgeRefs.map snapshot.edge = edges.map some)
    (usable : ∀ edgeRef ∈ edgeRefs, ∀ edge, snapshot.edge edgeRef = some edge →
      AlwaysUsable finder context minTradeRawByToken edgeRef edge)
    {path : SearchPath} (walk : IsWalk Edge.fromIdx Edge.toIdx path.currentNode edges target)
    (nonempty : edges ≠ []) (simple : (path.tokens ++ edges.map Edge.toIdx).Nodup) :
    ∃ found, Completes
        (SearchPath.extensions finder context snapshot minTradeRawByToken start target)
        (fun path => path.currentNode = target) edges.length path found ∧
      found.edgeRefs = path.edgeRefs ++ edgeRefs := by
  induction edges generalizing edgeRefs path with
  | nil => exact (nonempty rfl).elim
  | cons edge rest inductionHypothesis =>
    cases edgeRefs with
    | nil => cases resolves
    | cons edgeRef refs =>
      rw [List.map_cons, List.map_cons, List.cons.injEq] at resolves
      have fresh : edge.toIdx ∉ path.tokens := by
        intro visited
        exact List.disjoint_of_nodup_append simple visited List.mem_cons_self
      have isExtension : path.push edgeRef edge ∈
          path.extensions finder context snapshot minTradeRawByToken start target :=
        push_mem_extensions limits wellIndexed resolves.1 walk.1 fresh
          (usable edgeRef List.mem_cons_self edge resolves.1)
      have restUsable : ∀ other ∈ refs, ∀ found, snapshot.edge other = some found →
          AlwaysUsable finder context minTradeRawByToken other found :=
        fun other member => usable other (List.mem_cons_of_mem _ member)
      by_cases atEnd : rest = []
      · have arrives : edge.toIdx = target := by
          have rests := walk.2
          rw [atEnd] at rests
          exact rests
        have noRefs : refs = [] := by
          have none := resolves.2
          rw [atEnd] at none
          exact List.map_eq_nil_iff.mp none
        refine ⟨path.push edgeRef edge, ?_, by rw [noRefs]; rfl⟩
        rw [atEnd]
        refine Completes.last isExtension (decide_eq_true ?_)
        rw [SearchPath.currentNode_push, arrives]
      · have nextWalk : IsWalk Edge.fromIdx Edge.toIdx (path.push edgeRef edge).currentNode rest
            target := by
          rw [SearchPath.currentNode_push]
          exact walk.2
        have nextSimple : ((path.push edgeRef edge).tokens ++ rest.map Edge.toIdx).Nodup := by
          rw [List.map_cons, List.append_cons] at simple
          exact simple
        obtain ⟨found, completes, same⟩ :=
          inductionHypothesis resolves.2 restUsable nextWalk atEnd nextSimple
        refine ⟨found, Completes.step isExtension (decide_eq_false ?_) completes, ?_⟩
        · -- The target comes later on the walk, which visits no token twice.
          rw [SearchPath.currentNode_push]
          intro early
          have last := walk.2.getLast?_visited
          have later : target ∈ rest.map Edge.toIdx := by
            cases rest with
            | nil => exact (atEnd rfl).elim
            | cons next others =>
              rw [List.map_cons, List.getLast?_cons_cons] at last
              exact List.mem_of_getLast? last
          have distinct := (List.nodup_append.mp simple).2.1
          rw [List.map_cons] at distinct
          exact (List.nodup_cons.mp distinct).1 (early ▸ later)
        · rw [same]
          exact (List.append_cons path.edgeRefs edgeRef refs).symm

/-- Every simple path of usable edges that is short enough is found. -/
theorem exists_mem_findTopPaths (wellIndexed : snapshot.WellIndexed)
    (limits : LimitsDoNotBind finder snapshot) {start target maxHops : Nat}
    {edgeRefs : List EdgeRef} {edges : List Edge}
    (resolves : edgeRefs.map snapshot.edge = edges.map some)
    (walk : IsWalk Edge.fromIdx Edge.toIdx start edges target)
    (simple : (start :: edges.map Edge.toIdx).Nodup)
    (usable : ∀ edgeRef ∈ edgeRefs, ∀ edge, snapshot.edge edgeRef = some edge →
      AlwaysUsable finder context minTradeRawByToken edgeRef edge)
    (short : edges.length ≤ maxHops) :
    ∃ path ∈ findTopPaths finder context snapshot minTradeRawByToken start target maxHops,
      path.edgeRefs = edgeRefs := by
  unfold findTopPaths
  by_cases same : start = target
  · rw [if_pos same]
    have empty : edges = [] := by
      have last := walk.getLast?_visited
      rw [← same] at last
      cases edges with
      | nil => rfl
      | cons edge rest =>
        rw [List.map_cons, List.getLast?_cons_cons] at last
        exact ((List.nodup_cons.mp simple).1 (List.mem_of_getLast? last)).elim
    rw [empty] at resolves
    refine ⟨SearchPath.initial start, List.mem_cons_self, ?_⟩
    exact (List.map_eq_nil_iff.mp resolves).symm
  · rw [if_neg same]
    have nonempty : edges ≠ [] := by
      intro empty
      rw [empty] at walk
      exact same walk
    have initialWalk : IsWalk Edge.fromIdx Edge.toIdx (SearchPath.initial start).currentNode edges
        target := walk
    obtain ⟨found, completes, isPath⟩ : ∃ found, Completes
        (SearchPath.extensions finder context snapshot minTradeRawByToken start target)
        (fun path => path.currentNode = target) edges.length (SearchPath.initial start) found ∧
        found.edgeRefs = (SearchPath.initial start).edgeRefs ++ edgeRefs :=
      exists_completes wellIndexed limits resolves usable initialWalk nonempty simple
    refine ⟨found, ?_, isPath⟩
    have lengthens : ∀ path,
        SearchPath.IsSimple finder context snapshot minTradeRawByToken start path →
        Lengthens (SearchPath.extensions finder context snapshot minTradeRawByToken start target)
          SearchPath.edgeRefs
          (SearchPath.IsSimple finder context snapshot minTradeRawByToken start) path :=
      lengthens_extensions wellIndexed limits
    have beam := beamAt_initial finder context snapshot minTradeRawByToken start
    refine (keepsAll_keepBest limits.topKPathsPerSide _ (labelled_beamSearch lengthens
      (keepsAll_keepBest limits.topKPathsPerSide) (keepsAll_keepBest limits.pathBeamWidth)
      beam)).mem_iff.mpr ?_
    exact mem_beamSearch lengthens (keepsAll_keepBest limits.topKPathsPerSide)
      (keepsAll_keepBest limits.pathBeamWidth) beam
      (Or.inr ⟨edges.length, short, _, List.mem_cons_self, completes⟩)

end PathCompleteness

end DexArbitrage
