/-
This file says when the arithmetic of `search_range` in
`src/router/quantity_search.rs` is exact. The conversions between amounts and
dollars that it uses are exact for every token. The least amount for a token
without a price is a hundredth of one whole token; it is computed for every
token, and in 128 bits, which hold the powers of ten up to the 38th.
-/

import DexArbitrage.Router.QuantitySearch

namespace DexArbitrage

/-- A power of ten, as a debug build computes it. -/
def u128Pow10 (exponent : Nat) : Except RpcError Nat :=
  if 10 ^ exponent ≤ u128Max then .ok (10 ^ exponent)
  else .error "attempt to multiply with overflow"

theorem u128Pow10_of_le {exponent : Nat} (small : exponent ≤ 38) :
    u128Pow10 exponent = .ok (10 ^ exponent) :=
  if_pos ((Nat.pow_le_pow_right (by decide) small).trans (by decide))

theorem u128Pow10_of_gt {exponent : Nat} (large : 38 < exponent) :
    ∃ reason, u128Pow10 exponent = .error reason := by
  unfold u128Pow10
  have above : 10 ^ 39 ≤ 10 ^ exponent := Nat.pow_le_pow_right (by decide) large
  rw [if_neg (fun fits => absurd (above.trans fits) (by decide))]
  exact ⟨_, rfl⟩

/-- The search range, as a debug build computes it. -/
def QuantitySearcher.searchRangeChecked (searcher : QuantitySearcher) (snapshot : GraphSnapshot)
    (candidate : CandidatePath) : Except RpcError (Option (Nat × Nat)) :=
  match snapshot.tokenIndex candidate.startToken with
  | none => .ok none
  | some idx =>
    match snapshot.tokens[idx]? with
    | none => .error "index out of bounds"
    | some token => do
      let maxPositionRaw := min (searcher.calculateMaxPositionRaw token)
        ((searcher.routeStartCapacityRaw snapshot candidate).getD u128Max)
      let oneToken ← u128Pow10 token.decimals
      let minTradeRaw := (usdE8ToAmount searcher.minTradeUsdE8 token).getD (oneToken / 100)
      let minTradeRaw := max minTradeRaw 1
      return if minTradeRaw ≤ maxPositionRaw then some (minTradeRaw, maxPositionRaw) else none

/-- The range is the same in a debug build, which panics where a release build wraps. -/
def QuantitySearcher.NeitherPanicsNorWraps (searcher : QuantitySearcher) (snapshot : GraphSnapshot)
    (candidate : CandidatePath) : Prop :=
  searcher.searchRangeChecked snapshot candidate = .ok (searcher.searchRange snapshot candidate)

theorem neitherPanicsNorWraps_iff (searcher : QuantitySearcher) (snapshot : GraphSnapshot)
    (candidate : CandidatePath) :
    searcher.NeitherPanicsNorWraps snapshot candidate ↔
      ∀ idx, snapshot.tokenIndex candidate.startToken = some idx →
        ∃ token, snapshot.tokens[idx]? = some token ∧ token.decimals ≤ 38 := by
  unfold QuantitySearcher.NeitherPanicsNorWraps QuantitySearcher.searchRangeChecked
    QuantitySearcher.searchRange
  cases snapshot.tokenIndex candidate.startToken with
  | none => simp
  | some idx =>
    dsimp only [Option.bind_eq_bind, Option.bind_some]
    cases isToken : snapshot.tokens[idx]? with
    | none => simp [isToken]
    | some token =>
      dsimp only [Option.bind_some]
      rcases Nat.lt_or_ge 38 token.decimals with large | small
      · obtain ⟨reason, failed⟩ := u128Pow10_of_gt large
        rw [failed]
        refine iff_of_false (fun same => nomatch same) fun known => ?_
        obtain ⟨other, isOther, fits⟩ := known idx rfl
        rw [isToken] at isOther
        injection isOther with same
        exact absurd (same ▸ fits) (Nat.not_le.mpr large)
      · have unwrapped : 10 ^ token.decimals % 2 ^ 128 = 10 ^ token.decimals :=
          Nat.mod_eq_of_lt ((Nat.pow_le_pow_right (by decide) small).trans_lt (by decide))
        rw [u128Pow10_of_le small, unwrapped]
        refine iff_of_true rfl fun other same => ?_
        injection same with same
        exact ⟨token, same ▸ isToken, small⟩

/-- The conversions are exact and round in the safe direction for every token with a price; and a
search range neither panics nor wraps exactly when its start token is unknown or has at most 38
decimals. -/
theorem valuationExact_iff (searcher : QuantitySearcher) (snapshot : GraphSnapshot)
    (candidate : CandidatePath) :
    (∀ (token : TokenInfo) (price : Nat), token.decimals < 2 ^ 8 →
      token.manualPriceUsdE8 = some price → 0 < price → price < 2 ^ 64 →
        (∀ amountRaw ≤ u128Max, amountToUsdE8 amountRaw token =
          exactQuotient (amountRaw * price) (10 ^ token.decimals)) ∧
        (∀ usdE8 ≤ u128Max, usdE8ToAmount usdE8 token =
          exactQuotient (usdE8 * 10 ^ token.decimals) price) ∧
        (∀ cap ≤ u128Max, ∀ most amountRaw, usdE8ToAmount cap token = some most →
          amountRaw ≤ most → ∃ usd, amountToUsdE8 amountRaw token = some usd ∧ usd ≤ cap)) ∧
    (searcher.NeitherPanicsNorWraps snapshot candidate ↔
      ∀ idx, snapshot.tokenIndex candidate.startToken = some idx →
        ∃ token, snapshot.tokens[idx]? = some token ∧ token.decimals ≤ 38) := by
  refine ⟨fun token price range priced positive small => ⟨?_, ?_, ?_⟩,
    neitherPanicsNorWraps_iff searcher snapshot candidate⟩
  · exact fun amountRaw fits => amountToUsdE8_eq range priced positive small fits
  · exact fun usdE8 _ => usdE8ToAmount_eq range priced positive small usdE8
  · intro cap capFits most amountRaw isMost within
    exact amountToUsdE8_le_of_le_usdE8ToAmount range priced positive small capFits isMost within

/-- A token of some number of decimals, at a price of one dollar. -/
def dollarToken (decimals : Nat) : TokenInfo where
  address := 1
  symbol := "USD"
  decimals
  isStable := true
  isCycleAnchor := true
  flashLoanEnabled := false
  allowSelfFunded := true
  manualPriceUsdE8 := some 100000000
  maxPositionUsdE8 := none
  maxFlashLoanUsdE8 := none

def dollarSearcher : QuantitySearcher where
  maxPositionUsdE8 := 1000000000000
  maxPosition := 0
  minTradeUsdE8 := 10000000
  routeStartCapacityRaw := fun _ _ => none

def dollarSnapshot (decimals : Nat) : GraphSnapshot :=
  GraphSnapshot.build { spot := fun _ _ _ => (0, 0), priceLimitCapacityIn := fun _ _ => none } 1
    none [dollarToken decimals] ∅

def dollarCandidate : CandidatePath where
  snapshotId := 1
  startToken := 1
  startSymbol := "USD"
  screeningScoreQ32 := 0
  routeCapacityUsdE8 := 0
  routeQualityBps := 0
  cycleKey := ""
  path := []

/-- A cap of 100 dollars in a token with 6 decimals, which is searched without overflow. -/
theorem valuationExact_dollar :
    (∃ usd, amountToUsdE8 99999999 (dollarToken 6) = some usd ∧ usd ≤ 10000000000) ∧
      dollarSearcher.NeitherPanicsNorWraps (dollarSnapshot 6) dollarCandidate := by
  have valued := valuationExact_iff dollarSearcher (dollarSnapshot 6) dollarCandidate
  have ofToken := valued.1 (dollarToken 6) 100000000 (by decide) rfl (by decide) (by decide)
  refine ⟨ofToken.2.2 10000000000 (by decide) 100000000 99999999 (by decide +kernel) (by decide),
    valued.2.mpr ?_⟩
  intro idx isIndex
  have first : idx = 0 := by
    have known : (dollarSnapshot 6).tokenIndex dollarCandidate.startToken = some 0 := by decide
    rw [known] at isIndex
    exact (Option.some.inj isIndex).symm
  exact ⟨dollarToken 6, by rw [first]; rfl, by decide⟩

/-- The least amount of a priced token with 39 decimals panics in a debug build. -/
theorem not_neitherPanicsNorWraps :
    ¬ dollarSearcher.NeitherPanicsNorWraps (dollarSnapshot 39) dollarCandidate := by
  intro exactRange
  have known : (dollarSnapshot 39).tokenIndex dollarCandidate.startToken = some 0 := by decide
  obtain ⟨token, isToken, small⟩ :=
    (neitherPanicsNorWraps_iff _ _ _).mp exactRange 0 known
  have same : token = dollarToken 39 := (Option.some.inj isToken).symm
  rw [same] at small
  exact absurd small (by decide)

end DexArbitrage
