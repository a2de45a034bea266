/-
This file models `find_candidates` of `src/detector/path_finder.rs`. Each pair
of a changed edge is completed to cycles: a path from an anchor to the pair, an
edge of the pair, and a path back to the anchor. Cycles that are short enough,
simple, below the cutoff and new become candidates, which are screened by their
tokens and their capacity, and collected until there are enough of them.

An index out of range ends the call with a panic; an early return is the other
way in which the loops end before their time.
-/

import DexArbitrage.Lib.Program
import DexArbitrage.Detector.Selection
import DexArbitrage.Risk.Valuation

namespace DexArbitrage

/-! ### Tokens of a route -/

def envBool (value : Option Bool) (fallback : Bool) : Bool :=
  value.getD fallback

structure ExecutionTokenPolicy where
  required : Bool
  symbols : List String
  addresses : List Address
  excludedSymbols : List String
  excludedAddresses : List Address

def executionTokenPolicy (env : SearchEnv) (snapshot : GraphSnapshot) : ExecutionTokenPolicy :=
  let required := envBool env.requireTrustedRouteTokens false
  let symbols := env.executionTrustedSymbols.map String.toLower
  let addresses := env.executionTrustedTokens
  { required
    symbols
    addresses :=
      if required && symbols.isEmpty && addresses.isEmpty then
        (snapshot.tokens.filter fun token => token.manualPriceUsdE8.isSome).map TokenInfo.address
      else
        addresses
    excludedSymbols :=
      (env.executionExcludedSymbolContains.map String.toLower).filter fun symbol => symbol ≠ ""
    excludedAddresses := env.executionExcludedTokens }

def tokenExcludedByExecutionPolicy (token : TokenInfo) (policy : ExecutionTokenPolicy) : Bool :=
  policy.excludedAddresses.contains token.address ||
    policy.excludedSymbols.any fun excluded => excluded.toList <:+: token.symbol.toLower.toList

def tokenAllowedByExecutionPolicy (env : SearchEnv) (token : TokenInfo)
    (policy : ExecutionTokenPolicy) : Bool :=
  policy.addresses.contains token.address ||
    policy.symbols.contains token.symbol.toLower ||
    (envBool env.executionAllowFlashLoanTokens false && token.flashLoanEnabled) ||
    (policy.symbols.isEmpty && policy.addresses.isEmpty && token.manualPriceUsdE8.isSome)

/-- The token that an edge leads to. -/
def tokenReached (snapshot : GraphSnapshot) (edgeRef : EdgeRef) : Option TokenInfo := do
  let edge ← snapshot.edge edgeRef
  snapshot.tokens[edge.toIdx]?

def routeTokensAllowed (env : SearchEnv) (snapshot : GraphSnapshot) (anchorIdx : Nat)
    (edgeRefs : List EdgeRef) (policy : ExecutionTokenPolicy) : Bool :=
  let tokens := snapshot.tokens[anchorIdx]? :: edgeRefs.map (tokenReached snapshot)
  tokens.all (fun token => token.any fun token => !tokenExcludedByExecutionPolicy token policy) &&
    (!policy.required ||
      tokens.all fun token => token.any fun token => tokenAllowedByExecutionPolicy env token policy)

def tokenQualityBps (token : TokenInfo) : Nat :=
  if token.behavior.isExotic then
    1000
  else if token.manualPriceUsdE8.isSome then
    10000
  else if token.isStable || token.allowSelfFunded then
    8000
  else if token.flashLoanEnabled then
    6000
  else
    1500

/-- The worst quality of a token of the route, less a penalty for every hop after the second. -/
def routeQualityBps (snapshot : GraphSnapshot) (anchor : TokenInfo) (edgeRefs : List EdgeRef) :
    Nat :=
  let quality := edgeRefs.foldl (fun quality edgeRef =>
    match tokenReached snapshot edgeRef with
    | some token => min quality (tokenQualityBps token)
    | none => quality) (tokenQualityBps anchor)
  let extraHops := (edgeRefs.length - 2) % 2 ^ 16
  let hopPenaltyBps := saturatingMul (2 ^ 16 - 1) extraHops 750
  max (quality - hopPenaltyBps) 500

/-! ### Cycles -/

def minTradeRawByToken (snapshot : GraphSnapshot) (minTradeUsdE8 : Nat) : List (Option Nat) :=
  snapshot.tokens.map (usdE8ToAmount minTradeUsdE8)

def anchorCanParticipate (snapshot : GraphSnapshot) (anchorIdx changedFrom changedTo : Nat) :
    Bool :=
  anchorIdx = changedFrom || anchorIdx = changedTo ||
    !(snapshot.adjacency[anchorIdx]?.getD []).isEmpty

def formsSimpleCycle (prefixPath : SearchPath) (changedTo : Nat) (suffixPath : SearchPath) :
    Bool :=
  let tokens := prefixPath.tokens ++ [changedTo] ++ suffixPath.tokens.drop 1
  if tokens.length < 3 ∨ tokens.head? ≠ tokens.getLast? then
    false
  else
    (tokens.take (tokens.length - 1)).Nodup

def routeEdgeRefs (prefixPath : SearchPath) (changedPathRef : EdgeRef) (suffixPath : SearchPath) :
    List EdgeRef :=
  prefixPath.edgeRefs ++ [changedPathRef] ++ suffixPath.edgeRefs

def routeCycleKey (displayAddress : Address → String) (snapshot : GraphSnapshot)
    (edgeRefs : List EdgeRef) : String :=
  String.intercalate "|" <| edgeRefs.filterMap fun edgeRef => do
    let edge ← snapshot.edge edgeRef
    let fromToken ← snapshot.tokens[edge.fromIdx]?
    let toToken ← snapshot.tokens[edge.toIdx]?
    return hopText displayAddress fromToken.address toToken.address edge.poolId

/-- A token index out of range panics. -/
def hopOf (snapshot : GraphSnapshot) (edge : Edge) : Option CandidateHop := do
  let fromToken ← snapshot.tokens[edge.fromIdx]?
  let toToken ← snapshot.tokens[edge.toIdx]?
  return {
    fromToken := fromToken.address
    toToken := toToken.address
    poolId := edge.poolId
    ammKind := edge.ammKind
    dexName := edge.dexName }

/-- The inner answer is `none` when an edge does not exist. -/
def candidateHops (snapshot : GraphSnapshot) : List EdgeRef → Option (Option (List CandidateHop))
  | [] => some (some [])
  | edgeRef :: rest =>
    match snapshot.edge edgeRef with
    | none => some none
    | some edge => do
      let hop ← hopOf snapshot edge
      let hops ← candidateHops snapshot rest
      return hops.map (hop :: ·)

section Candidates

variable (finder : PathFinder) (context : SearchContext) (snapshot : GraphSnapshot)
  (changedEdges : List EdgeRef)

def useRouteCapacityFilter : Bool :=
  changedEdges.length ≤
    envUsize context.env.routeCapacityPrefilterMaxChangedEdges 8192

def candidateSelectionBudget (maxCandidatesPerRefresh multiplier : Nat) : Nat :=
  saturatingMul usizeMax maxCandidatesPerRefresh (max multiplier 1)

def selectionBudget : Nat :=
  candidateSelectionBudget finder.tuning.maxCandidatesPerRefresh <|
    if envUsize context.env.candidateSelectionLargeRefreshThreshold 8192 < changedEdges.length then
      envUsize context.env.candidateSelectionLargeRefreshMultiplier 1
    else
      finder.tuning.candidateSelectionBufferMultiplier

def routeHasMinStartCapacity (anchorIdx : Nat) (edgeRefs : List EdgeRef) : Bool :=
  match (minTradeRawByToken snapshot finder.minTradeUsdE8)[anchorIdx]?.join with
  | none => true
  | some minTradeRaw =>
    match context.routeStartCapacityRaw snapshot edgeRefs with
    | some capacity => max minTradeRaw 1 ≤ capacity
    | none => false

/-- The inner answer is `none` when the route is not acceptable. -/
def materializeCandidate (anchorIdx : Nat) (key : String) (scoreQ32 : Int)
    (edgeRefs : List EdgeRef) (changedEdgeRef : EdgeRef) : Option (Option CandidatePath) :=
  match snapshot.edge changedEdgeRef with
  | none => some none
  | some changedEdge => do
    let path? ← candidateHops snapshot edgeRefs
    match path? with
    | none => some none
    | some path =>
      let containsChangedPair := edgeRefs.any fun edgeRef =>
        (snapshot.edge edgeRef).any fun edge =>
          edge.fromIdx = changedEdge.fromIdx && edge.toIdx = changedEdge.toIdx
      if !containsChangedPair then
        some none
      else if !routeTokensAllowed context.env snapshot anchorIdx edgeRefs
          (executionTokenPolicy context.env snapshot) then
        some none
      else if useRouteCapacityFilter context changedEdges &&
          !routeHasMinStartCapacity finder context snapshot anchorIdx edgeRefs then
        some none
      else
        let anchor ← snapshot.tokens[anchorIdx]?
        let capacityUsdE8 := do
          let capacity ← context.routeStartCapacityRaw snapshot edgeRefs
          amountToUsdE8 capacity anchor
        some (some {
          snapshotId := snapshot.snapshotId
          startToken := anchor.address
          startSymbol := anchor.symbol
          screeningScoreQ32 := scoreQ32
          routeCapacityUsdE8 := capacityUsdE8.getD 0
          routeQualityBps := routeQualityBps snapshot anchor edgeRefs
          cycleKey := key
          path })

/-! ### The loops -/

structure SearchProgress where
  candidates : List CandidatePath
  tokenPathCandidates : HashMap String (List CandidatePath)
  tokenPathCandidateCount : Nat
  dedup : List String

def SearchProgress.start : SearchProgress where
  candidates := []
  tokenPathCandidates := ∅
  tokenPathCandidateCount := 0
  dedup := []

/-- How the loops end before their time. The call that is left with enough candidates returns what
`finalize_candidates` makes of them. -/
inductive SearchEnd
  | panicked
  | returned (progress : SearchProgress)

def SearchProgress.collected (progress : SearchProgress) : List CandidatePath :=
  if finder.tuning.dedupTokenPaths then
    flattenCandidateMap context progress.tokenPathCandidates
  else
    progress.candidates

def acceptCandidate (progress : SearchProgress) (candidate : CandidatePath) :
    Except SearchEnd SearchProgress :=
  let budget := selectionBudget finder context changedEdges
  if finder.tuning.dedupTokenPaths then
    let (tokenPathCandidates, added) := insertTokenPathVariant progress.tokenPathCandidates
      (candidateTokenCycleKey context.displayAddress candidate) candidate
      finder.tuning.poolVariantsPerTokenPath
    let progress := { progress with
      tokenPathCandidates
      tokenPathCandidateCount :=
        if added then
          saturatingAdd usizeMax progress.tokenPathCandidateCount 1
        else
          progress.tokenPathCandidateCount }
    if budget ≤ progress.tokenPathCandidateCount then
      .error (.returned progress)
    else
      .ok progress
  else
    let progress := { progress with candidates := progress.candidates ++ [candidate] }
    if budget ≤ progress.candidates.length then
      .error (.returned progress)
    else
      .ok progress

/-- One way to complete an edge of a changed pair to a cycle. -/
def visitRoute (anchorIdx changedTo : Nat) (changedEdgeRef changedPathRef : EdgeRef)
    (prefixPath suffixPath : SearchPath) (progress : SearchProgress) :
    Except SearchEnd SearchProgress :=
  let totalHops := prefixPath.edgeRefs.length + 1 + suffixPath.edgeRefs.length
  if finder.maxHops < totalHops ∨ totalHops < 2 then
    .ok progress
  else if !formsSimpleCycle prefixPath changedTo suffixPath then
    .ok progress
  else
    match snapshot.edge changedPathRef with
    | none => .ok progress
    | some changedEdge =>
      let scoreQ32 := saturatingAddI64
        (saturatingAddI64 prefixPath.scoreQ32 changedEdge.weightLogQ32) suffixPath.scoreQ32
      if finder.screeningCutoffQ32 ≤ scoreQ32 then
        .ok progress
      else
        let edgeRefs := routeEdgeRefs prefixPath changedPathRef suffixPath
        let key := routeCycleKey context.displayAddress snapshot edgeRefs
        if key ∈ progress.dedup then
          .ok progress
        else
          let progress := { progress with dedup := key :: progress.dedup }
          match materializeCandidate finder context snapshot changedEdges anchorIdx key scoreQ32
              edgeRefs changedEdgeRef with
          | none => .error .panicked
          | some none => .ok progress
          | some (some candidate) =>
            acceptCandidate finder context changedEdges progress candidate

def visitAnchor (changedFrom changedTo : Nat) (changedEdgeRef : EdgeRef)
    (changedCandidateEdges : List EdgeRef) (progress : SearchProgress) (anchorIdx : Nat) :
    Except SearchEnd SearchProgress :=
  if !anchorCanParticipate snapshot anchorIdx changedFrom changedTo then
    .ok progress
  else
    let maxSideHops := finder.maxHops - 1
    let minTradeRaw := minTradeRawByToken snapshot finder.minTradeUsdE8
    let prefixes := findTopPaths finder context snapshot minTradeRaw anchorIdx changedFrom
      maxSideHops
    let suffixes := findTopPaths finder context snapshot minTradeRaw changedTo anchorIdx maxSideHops
    if prefixes.isEmpty || suffixes.isEmpty then
      .ok progress
    else
      changedCandidateEdges.foldlM (fun progress changedPathRef =>
        prefixes.foldlM (fun progress prefixPath =>
          suffixes.foldlM (fun progress suffixPath =>
            visitRoute finder context snapshot changedEdges anchorIdx changedTo changedEdgeRef
              changedPathRef prefixPath suffixPath progress) progress) progress) progress

def visitPair (distanceCache : DistanceCache) (progress : SearchProgress)
    (changed : (Nat × Nat) × EdgeRef) : Except SearchEnd SearchProgress :=
  match distanceCache.reachableFromAnchor[changed.1.1]? with
  | none => .error .panicked
  | some false => .ok progress
  | some true =>
    match distanceCache.reachableToAnchor[changed.1.2]? with
    | none => .error .panicked
    | some false => .ok progress
    | some true =>
      let changedCandidateEdges := candidatePairEdges finder context snapshot
        (minTradeRawByToken snapshot finder.minTradeUsdE8) changed.1.1 changed.1.2
      if changedCandidateEdges.isEmpty then
        .ok progress
      else
        snapshot.cycleAnchorIndices.foldlM
          (visitAnchor finder context snapshot changedEdges changed.1.1 changed.1.2 changed.2
            changedCandidateEdges) progress

/-- What the loops have collected when they are over. -/
def collectCandidates (distanceCache : DistanceCache) : Except SearchEnd SearchProgress :=
  if finder.maxHops < 2 ∨ changedEdges.isEmpty then
    .ok SearchProgress.start
  else
    let changedPairs := changedVirtualPairs context snapshot changedEdges
    if changedPairs.isEmpty then
      .ok SearchProgress.start
    else
      changedPairs.foldlM (visitPair finder context snapshot changedEdges distanceCache)
        SearchProgress.start

/-- The answer is `none` when the call panics. -/
def findCandidates (distanceCache : DistanceCache) : Option (List CandidatePath) :=
  if finder.maxHops < 2 ∨ changedEdges.isEmpty then
    some []
  else
    let changedPairs := changedVirtualPairs context snapshot changedEdges
    if changedPairs.isEmpty then
      some []
    else
      match changedPairs.foldlM (visitPair finder context snapshot changedEdges distanceCache)
          SearchProgress.start with
      | .ok progress | .error (.returned progress) =>
        some (finalizeCandidates finder context (progress.collected finder context))
      | .error .panicked => none

/-! ### What is collected and what is returned -/

theorem collected_start : SearchProgress.start.collected finder context = [] := by
  unfold SearchProgress.collected
  split
  · have empty : (context.variantsOrder.order []).Perm [] := context.variantsOrder.perm []
    show (context.variantsOrder.order []).flatten = []
    rw [empty.eq_nil]
    rfl
  · rfl

theorem finalizeCandidates_nil : finalizeCandidates finder context [] = [] := by
  unfold finalizeCandidates finalizeCandidatesWithTuning
  dsimp only
  split
  · rfl
  · rfl

/-- The progress with which the loops end, unless they panic. -/
def endedWith : Except SearchEnd SearchProgress → Option SearchProgress
  | .ok progress | .error (.returned progress) => some progress
  | .error .panicked => none

/-- A call returns what `finalize_candidates` makes of what the loops have collected. -/
theorem findCandidates_eq (distanceCache : DistanceCache) :
    findCandidates finder context snapshot changedEdges distanceCache =
      (endedWith (collectCandidates finder context snapshot changedEdges distanceCache)).map
        fun progress => finalizeCandidates finder context (progress.collected finder context) := by
  unfold findCandidates collectCandidates
  split
  · simp [endedWith, collected_start, finalizeCandidates_nil]
  · dsimp only
    split
    · simp [endedWith, collected_start, finalizeCandidates_nil]
    · unfold endedWith
      split <;> rfl

end Candidates

end DexArbitrage
