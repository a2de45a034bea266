/-
This file names the steps that a search comes to: the changed pairs whose edges
it lists, the anchors it visits for them, the paths it looks for, and the tokens
whose edges it lists to extend a path. Its loops may be left early, and what
comes after that is no step of the search.
-/

import DexArbitrage.Lib.SideBySide
import DexArbitrage.Detector.PathFinder

namespace DexArbitrage

section SearchSteps

variable (finder : PathFinder) (context : SearchContext) (snapshot : GraphSnapshot)
  (changedEdges : List EdgeRef) (distanceCache : DistanceCache)

/-- The loop over the changed pairs comes to a pair. -/
def ReachesPair (change : (Nat × Nat) × EdgeRef) (progress : SearchProgress) : Prop :=
  2 ≤ finder.maxHops ∧
    LoopReaches (visitPair finder context snapshot changedEdges distanceCache) SearchProgress.start
      (changedVirtualPairs context snapshot changedEdges) change progress

/-- The usable edges of a changed pair are listed: the marks let it pass. -/
structure ListsPair (change : (Nat × Nat) × EdgeRef) (progress : SearchProgress) : Prop where
  reached : ReachesPair finder context snapshot changedEdges distanceCache change progress
  fromAnchor : distanceCache.reachableFromAnchor[change.1.1]? = some true
  toAnchor : distanceCache.reachableToAnchor[change.1.2]? = some true

/-- An anchor is visited for a changed pair. -/
def VisitsAnchor (change : (Nat × Nat) × EdgeRef) (anchorIdx : Nat) : Prop :=
  let pairEdges := candidatePairEdges finder context snapshot
    (minTradeRawByToken snapshot finder.minTradeUsdE8) change.1.1 change.1.2
  ∃ earlier progress, ListsPair finder context snapshot changedEdges distanceCache change earlier ∧
    pairEdges ≠ [] ∧
    LoopReaches (visitAnchor finder context snapshot changedEdges change.1.1 change.1.2 change.2
      pairEdges) earlier snapshot.cycleAnchorIndices anchorIdx progress ∧
    anchorCanParticipate snapshot anchorIdx change.1.1 change.1.2 = true

/-- The searches for paths: to the first token of a pair, and when there is a path, from its second
one. -/
inductive SearchesPaths : Nat → Nat → Prop
  | prefixes {change : (Nat × Nat) × EdgeRef} {anchorIdx : Nat}
      (visits : VisitsAnchor finder context snapshot changedEdges distanceCache change anchorIdx) :
      SearchesPaths anchorIdx change.1.1
  | suffixes {change : (Nat × Nat) × EdgeRef} {anchorIdx : Nat}
      (visits : VisitsAnchor finder context snapshot changedEdges distanceCache change anchorIdx)
      (found : findTopPaths finder context snapshot
        (minTradeRawByToken snapshot finder.minTradeUsdE8) anchorIdx change.1.1
        (finder.maxHops - 1) ≠ []) :
      SearchesPaths change.1.2 anchorIdx

/-- The paths that a search for paths extends. -/
def extendedPaths (start target : Nat) : List SearchPath :=
  if start = target then
    []
  else
    beamExtended (SearchPath.extensions finder context snapshot
        (minTradeRawByToken snapshot finder.minTradeUsdE8) start target)
      (fun path => path.currentNode = target)
      (keepBest comparePaths finder.tuning.pathBeamWidth)
      (finder.maxHops - 1) [SearchPath.initial start]

/-- The edges that leave a token are listed, to extend a path that ends there. -/
def ListsToken (vertex : Nat) : Prop :=
  ∃ start target, SearchesPaths finder context snapshot changedEdges distanceCache start target ∧
    ∃ path ∈ extendedPaths finder context snapshot start target, path.currentNode = vertex

end SearchSteps

end DexArbitrage
