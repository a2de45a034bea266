/-
This file proves what the rounds of the price derivation come to. What is known
after a round is what was known before it, and the upper median of its estimates
for every other token. No price that a round sets can change what the rest of
the round does, because the estimates were gathered before and every address is
in the map once. So neither the order of the pools nor that of the estimates can
be seen in the prices.
-/

import DexArbitrage.Discovery.PriceDerivation

namespace DexArbitrage

/-! ### Prices without order -/

/-- The price of the token with an address. -/
def givenPrices (tokens : List TokenInfo) (address : Address) : Option Nat :=
  (tokens.find? fun token => token.address = address).bind TokenInfo.manualPriceUsdE8

section Prices

variable (estimators : PriceEstimators) (tokens : List TokenInfo)
  (pools : HashMap Address PoolState)

def decimalsOf : HashMap Address Nat :=
  HashMap.ofList (tokens.map fun token => (token.address, token.decimals))

/-- The estimates of all pools for one token, by the prices that are known. -/
def estimatesOf (known : Address → Option Nat) (address : Address) : Multiset Nat :=
  ((pools.values.flatMap (poolPriceEstimates estimators (decimalsOf tokens) known)).filter
    fun estimate => estimate.1 = address).map Prod.snd

def medianEstimate (known : Address → Option Nat) (address : Address) : Option Nat :=
  upperMedian (estimatesOf estimators tokens pools known address)

/-- The prices that are known after a number of rounds. -/
def pricesAfter (rounds : Nat) : Address → Option Nat :=
  knownAfter (medianEstimate estimators tokens pools) (givenPrices tokens) rounds

theorem pricesAfter_succ (rounds : Nat) : pricesAfter estimators tokens pools (rounds + 1) =
    learn (medianEstimate estimators tokens pools) (pricesAfter estimators tokens pools rounds) :=
  knownAfter_succ _ _

end Prices

def TokenInfo.withPrice (prices : Address → Option Nat) (token : TokenInfo) : TokenInfo :=
  { token with manualPriceUsdE8 := prices token.address }

/-- What the derivation comes to: the prices after the last round, each of them set once, to the
median of the estimates of its round. -/
structure DerivesPrices (estimators : PriceEstimators) (tokens : List TokenInfo)
    (pools : HashMap Address PoolState) (final : PriceState) : Prop where
  derived : final.tokens =
    tokens.map (TokenInfo.withPrice
      (pricesAfter estimators tokens pools maxPriceDerivationRounds))
  kept : ∀ (position : Nat) (token : TokenInfo), tokens[position]? = some token →
    token.manualPriceUsdE8.isSome → final.tokens[position]? = some token
  once : (final.settings.map PriceSetting.address).Nodup
  medians : ∀ setting ∈ final.settings, setting.round < maxPriceDerivationRounds ∧
    pricesAfter estimators tokens pools setting.round setting.address = none ∧
    upperMedian (estimatesOf estimators tokens pools
      (pricesAfter estimators tokens pools setting.round) setting.address) = some setting.price
  recorded : ∀ token ∈ final.tokens, ∀ price, token.manualPriceUsdE8 = some price →
    givenPrices tokens token.address = some price ∨
      ∃ setting ∈ final.settings, setting.address = token.address ∧ setting.price = price

/-! ### The order of the pools -/

theorem estimatesOf_perm (estimators : PriceEstimators) (tokens : List TokenInfo)
    {pools reordered : HashMap Address PoolState} (same : pools.entries.Perm reordered.entries) :
    estimatesOf estimators tokens pools = estimatesOf estimators tokens reordered := by
  funext known address
  refine Multiset.coe_eq_coe.mpr (List.Perm.map _ (List.Perm.filter _ ?_))
  exact (same.map Sigma.snd).flatMap_right _

theorem pricesAfter_perm (estimators : PriceEstimators) (tokens : List TokenInfo)
    {pools reordered : HashMap Address PoolState} (same : pools.entries.Perm reordered.entries) :
    pricesAfter estimators tokens pools = pricesAfter estimators tokens reordered := by
  have offers : medianEstimate estimators tokens pools =
      medianEstimate estimators tokens reordered := by
    funext known address
    rw [medianEstimate, medianEstimate, estimatesOf_perm estimators tokens same]
  funext rounds
  rw [pricesAfter, pricesAfter, offers]

/-! ### The tables of the tokens -/

section Tables

variable {tokens : List TokenInfo} {address : Address}

/-- The table of the positions. -/
def positionsOf (tokens : List TokenInfo) : HashMap Address Nat :=
  HashMap.ofList (tokens.zipIdx.map fun (token, idx) => (token.address, idx))

theorem getElem?_of_positionsOf {idx : Nat}
    (found : (positionsOf tokens).lookup address = some idx) :
    ∃ token, tokens[idx]? = some token ∧ token.address = address := by
  obtain ⟨⟨token, position⟩, listed, same⟩ :=
    List.mem_map.mp (HashMap.mem_of_lookup_ofList found)
  injection same with sameAddress samePosition
  rw [List.mem_zipIdx_iff_getElem?] at listed
  exact ⟨token, samePosition ▸ listed, sameAddress⟩

/-- A token with known decimals has a position. -/
theorem exists_positionsOf {tokenDecimals : Nat}
    (found : (decimalsOf tokens).lookup address = some tokenDecimals) :
    ∃ idx, (positionsOf tokens).lookup address = some idx := by
  obtain ⟨token, listed, same⟩ := List.mem_map.mp (HashMap.mem_of_lookup_ofList found)
  injection same with sameAddress _
  obtain ⟨idx, atIdx⟩ := List.mem_iff_getElem?.mp listed
  refine HashMap.exists_lookup_ofList (List.mem_map.mpr ⟨(address, idx), ?_, rfl⟩)
  have position : (token, idx) ∈ tokens.zipIdx := List.mem_zipIdx_iff_getElem?.mpr atIdx
  exact List.mem_map.mpr ⟨(token, idx), position, by simp [sameAddress]⟩

theorem eq_of_address_eq (distinct : (tokens.map TokenInfo.address).Nodup) {token other : TokenInfo}
    (listed : token ∈ tokens) (otherListed : other ∈ tokens)
    (same : token.address = other.address) : token = other :=
  List.inj_on_of_nodup_map distinct listed otherListed same

theorem givenPrices_eq_some_iff (distinct : (tokens.map TokenInfo.address).Nodup) {price : Nat} :
    givenPrices tokens address = some price ↔
      ∃ token ∈ tokens, token.address = address ∧ token.manualPriceUsdE8 = some price := by
  constructor
  · intro given
    obtain ⟨token, found, priced⟩ := Option.bind_eq_some_iff.mp given
    exact ⟨token, List.mem_of_find?_eq_some found, by simpa using List.find?_some found, priced⟩
  · rintro ⟨token, listed, rfl, priced⟩
    obtain ⟨other, found⟩ : ∃ other, tokens.find? (fun other => other.address = token.address) =
        some other :=
      Option.isSome_iff_exists.mp (List.find?_isSome.mpr ⟨token, listed, by simp⟩)
    have same : other = token :=
      eq_of_address_eq distinct (List.mem_of_find?_eq_some found) listed
        (by simpa using List.find?_some found)
    rw [givenPrices, found, same]
    exact priced

theorem lookup_start_prices (distinct : (tokens.map TokenInfo.address).Nodup) :
    (PriceState.start tokens).prices.lookup = givenPrices tokens := by
  have listed_iff : ∀ address price,
      (address, price) ∈ tokens.filterMap (fun token =>
        token.manualPriceUsdE8.map fun price => (token.address, price)) ↔
      ∃ token ∈ tokens, token.address = address ∧ token.manualPriceUsdE8 = some price := by
    intro address price
    simp [List.mem_filterMap, and_comm]
  funext address
  refine Option.ext fun price => ?_
  rw [givenPrices_eq_some_iff distinct, ← listed_iff]
  refine HashMap.lookup_ofList_iff fun other first second => ?_
  obtain ⟨token, member, atAddress, priced⟩ := (listed_iff address price).mp first
  obtain ⟨twin, twinMember, twinAt, twinPriced⟩ := (listed_iff address other).mp second
  rw [eq_of_address_eq distinct member twinMember (atAddress.trans twinAt.symm)] at priced
  exact Option.some.inj (twinPriced.symm.trans priced)

end Tables

/-! ### Estimates are for tokens with known decimals -/

section KnownDecimals

variable {estimators : PriceEstimators} {decimals : HashMap Address Nat}
  {prices : Address → Option Nat} {address : Address} {price : Nat}

theorem exists_decimals_of_mem_collectBalancePriceEstimates {addresses : List Address}
    {balances : List Nat} {weights1e18 : Option (List Nat)}
    (estimated : (address, price) ∈ collectBalancePriceEstimates estimators decimals prices
      addresses balances weights1e18) :
    ∃ tokenDecimals, decimals.lookup address = some tokenDecimals := by
  obtain ⟨⟨known, knownIdx⟩, _, pushed⟩ := List.mem_flatMap.mp estimated
  dsimp only at pushed
  split at pushed
  · obtain ⟨⟨unknown, unknownIdx⟩, _, pushed⟩ := List.mem_filterMap.mp pushed
    dsimp only at pushed
    split at pushed
    · cases pushed
    · obtain ⟨side, hasSide, rest⟩ := Option.bind_eq_some_iff.mp pushed
      obtain ⟨estimate, _, made⟩ := Option.bind_eq_some_iff.mp rest
      injection made with made
      injection made with sameAddress _
      obtain ⟨balance, _, rest⟩ := Option.bind_eq_some_iff.mp hasSide
      split at rest
      · cases rest
      · obtain ⟨tokenDecimals, found, _⟩ := Option.bind_eq_some_iff.mp rest
        exact ⟨tokenDecimals, sameAddress ▸ found⟩
  · cases pushed

theorem exists_decimals_of_mem_collectV3PriceEstimates {token0 token1 : Address}
    {sqrtPriceX96 : Nat} (estimated : (address, price) ∈
      collectV3PriceEstimates estimators decimals prices token0 token1 sqrtPriceX96) :
    ∃ tokenDecimals, decimals.lookup address = some tokenDecimals := by
  unfold collectV3PriceEstimates at estimated
  split at estimated
  · rename_i _ _ decimals0 decimals1 found0 found1
    rcases List.mem_append.mp estimated with forToken1 | forToken0
    · obtain ⟨estimate, _, made⟩ := List.mem_map.mp forToken1
      injection made with sameAddress _
      exact ⟨decimals1, sameAddress ▸ found1⟩
    · obtain ⟨estimate, _, made⟩ := List.mem_map.mp forToken0
      injection made with sameAddress _
      exact ⟨decimals0, sameAddress ▸ found0⟩
  · cases estimated

/-- Every estimate is for a token with known decimals. -/
theorem exists_decimals_of_mem_poolPriceEstimates {pool : PoolState}
    (estimated : (address, price) ∈ poolPriceEstimates estimators decimals prices pool) :
    ∃ tokenDecimals, decimals.lookup address = some tokenDecimals := by
  unfold poolPriceEstimates at estimated
  split at estimated
  · exact exists_decimals_of_mem_collectBalancePriceEstimates estimated
  · exact exists_decimals_of_mem_collectBalancePriceEstimates estimated
  · exact exists_decimals_of_mem_collectBalancePriceEstimates estimated
  · exact exists_decimals_of_mem_collectBalancePriceEstimates estimated
  · exact exists_decimals_of_mem_collectV3PriceEstimates estimated
  · cases estimated

end KnownDecimals

/-! ### One round -/

section Round

variable {estimators : PriceEstimators} {tokens : List TokenInfo}
  {pools : HashMap Address PoolState} {bound round : Nat} {state : PriceState}
  {entry : Address × List Nat}

/-- What holds of the tokens and of the record between any two settings, of which all are from
rounds below the bound. -/
structure KeepsRecord (estimators : PriceEstimators) (tokens : List TokenInfo)
    (pools : HashMap Address PoolState) (bound : Nat) (state : PriceState) : Prop where
  derived : state.tokens = tokens.map (TokenInfo.withPrice state.prices.lookup)
  once : (state.settings.map PriceSetting.address).Nodup
  priced : ∀ setting ∈ state.settings,
    state.prices.lookup setting.address = some setting.price
  medians : ∀ setting ∈ state.settings, setting.round < bound ∧
    pricesAfter estimators tokens pools setting.round setting.address = none ∧
    medianEstimate estimators tokens pools
      (pricesAfter estimators tokens pools setting.round) setting.address = some setting.price
  recorded : ∀ address price, state.prices.lookup address = some price →
    givenPrices tokens address = some price ∨
      ∃ setting ∈ state.settings, setting.address = address ∧ setting.price = price

/-- What holds during a round: the known prices lie between those before it and those after it. -/
structure InRound (estimators : PriceEstimators) (tokens : List TokenInfo)
    (pools : HashMap Address PoolState) (round : Nat) (state : PriceState) : Prop where
  record : KeepsRecord estimators tokens pools (round + 1) state
  kept : ∀ address price, pricesAfter estimators tokens pools round address = some price →
    state.prices.lookup address = some price
  learnt : ∀ address price, state.prices.lookup address = some price →
    pricesAfter estimators tokens pools (round + 1) address = some price
  unchanged : state.changed = false →
    state.prices.lookup = pricesAfter estimators tokens pools round

/-- An entry of the estimates of a round: there are some, their upper median is the one of the
round, and the token is listed. -/
structure EstimatesEntry (estimators : PriceEstimators) (tokens : List TokenInfo)
    (pools : HashMap Address PoolState) (round : Nat) (entry : Address × List Nat) : Prop where
  nonempty : entry.2 ≠ []
  gathered : (entry.2 : Multiset Nat) =
    estimatesOf estimators tokens pools (pricesAfter estimators tokens pools round) entry.1
  listed : ∃ tokenDecimals, (decimalsOf tokens).lookup entry.1 = some tokenDecimals

/-- A token that has a price is left alone; another one gets the median. -/
theorem applyEstimates_cases (ofRound : EstimatesEntry estimators tokens pools round entry)
    (state : PriceState) :
    ((state.prices.lookup entry.1).isSome ∧
      applyEstimates (positionsOf tokens) round state entry = state) ∨
    (state.prices.lookup entry.1 = none ∧ ∃ price idx token,
      medianEstimate estimators tokens pools
        (pricesAfter estimators tokens pools round) entry.1 = some price ∧
      tokens[idx]? = some token ∧ token.address = entry.1 ∧
      applyEstimates (positionsOf tokens) round state entry =
        { tokens := state.tokens.modify idx ({ · with manualPriceUsdE8 := some price })
          prices := state.prices.insert entry.1 price
          changed := true
          settings := state.settings ++ [{ round, address := entry.1, price }] }) := by
  obtain ⟨tokenDecimals, hasDecimals⟩ := ofRound.listed
  obtain ⟨idx, found⟩ := exists_positionsOf hasDecimals
  obtain ⟨token, atIdx, sameAddress⟩ := getElem?_of_positionsOf found
  have hasMedian : (upperMedian (entry.2 : Multiset Nat)).isSome :=
    upperMedian_isSome (by simpa using ofRound.nonempty)
  obtain ⟨price, median⟩ := Option.isSome_iff_exists.mp hasMedian
  cases known : state.prices.lookup entry.1 with
  | some _ =>
    left
    exact ⟨rfl, if_pos (Or.inl (by rw [known]; rfl))⟩
  | none =>
    right
    refine ⟨rfl, price, idx, token, ?_, atIdx, sameAddress, ?_⟩
    · rw [medianEstimate, ← ofRound.gathered, median]
    · rw [upperMedian_coe] at median
      rw [applyEstimates, if_neg (by simp [known, ofRound.nonempty]), median, found]

/-- Where a token has its address alone, its price is set by position. -/
theorem modify_withPrice (distinct : (tokens.map TokenInfo.address).Nodup)
    (prices : HashMap Address Nat) {idx : Nat} {token : TokenInfo}
    (atIdx : tokens[idx]? = some token) (price : Nat) :
    (tokens.map (TokenInfo.withPrice prices.lookup)).modify idx
        ({ · with manualPriceUsdE8 := some price }) =
      tokens.map (TokenInfo.withPrice fun address =>
        AList.lookup address (prices.insert token.address price)) := by
  refine List.ext_getElem? fun position => ?_
  rw [List.getElem?_modify, List.getElem?_map, List.getElem?_map]
  cases atPosition : tokens[position]? with
  | none => simp
  | some other =>
    by_cases same : idx = position
    · subst same
      rw [atIdx] at atPosition
      injection atPosition with sameToken
      simp [sameToken, TokenInfo.withPrice]
    · have different : other.address ≠ token.address := by
        intro sameAddress
        have inRange : idx < (tokens.map TokenInfo.address).length := by
          rw [List.length_map]
          exact (List.getElem?_eq_some_iff.mp atIdx).1
        refine same ((List.getElem?_inj inRange distinct).mp ?_)
        rw [List.getElem?_map, List.getElem?_map, atIdx, atPosition]
        exact congrArg some sameAddress.symm
      simp [same, TokenInfo.withPrice, HashMap.lookup_insert, different]

/-- Setting the price of a token that has none, to the median of the round. -/
theorem KeepsRecord.setPrice (record : KeepsRecord estimators tokens pools (round + 1) state)
    (distinct : (tokens.map TokenInfo.address).Nodup) {idx price : Nat} {token : TokenInfo}
    (atIdx : tokens[idx]? = some token) (unknown : state.prices.lookup token.address = none)
    (unknownBefore : pricesAfter estimators tokens pools round token.address = none)
    (median : medianEstimate estimators tokens pools
      (pricesAfter estimators tokens pools round) token.address = some price) :
    KeepsRecord estimators tokens pools (round + 1)
      { tokens := state.tokens.modify idx ({ · with manualPriceUsdE8 := some price })
        prices := state.prices.insert token.address price
        changed := true
        settings := state.settings ++ [{ round, address := token.address, price }] } := by
  -- A setting so far is of another token, because its price is known.
  have isOther : ∀ setting ∈ state.settings, setting.address ≠ token.address := by
    intro setting listed same
    have known := record.priced setting listed
    rw [same, unknown] at known
    cases known
  constructor
  case derived =>
    show state.tokens.modify idx _ = _
    rw [record.derived, modify_withPrice distinct _ atIdx]
  case once =>
    rw [List.map_append, List.nodup_append]
    refine ⟨record.once, List.nodup_singleton _, ?_⟩
    intro address member other single same
    obtain ⟨setting, listed, isAddress⟩ := List.mem_map.mp member
    exact isOther setting listed (isAddress.trans (same.trans (List.mem_singleton.mp single)))
  case priced =>
    intro setting member
    rw [HashMap.lookup_insert]
    rcases List.mem_append.mp member with earlier | new
    · rw [if_neg (isOther setting earlier), record.priced setting earlier]
    · rw [List.mem_singleton.mp new, if_pos rfl]
  case medians =>
    intro setting member
    rcases List.mem_append.mp member with earlier | new
    · exact record.medians setting earlier
    · rw [List.mem_singleton.mp new]
      exact ⟨Nat.lt_succ_self round, unknownBefore, median⟩
  case recorded =>
    intro address value known
    rw [HashMap.lookup_insert] at known
    split at known
    · rename_i same
      injection known with samePrice
      right
      exact ⟨_, List.mem_append_right _ (List.mem_singleton_self _), same.symm, samePrice⟩
    · refine (record.recorded address value known).imp_right ?_
      rintro ⟨setting, listed, rest⟩
      exact ⟨setting, List.mem_append_left _ listed, rest⟩

theorem InRound.applyEstimates (inRound : InRound estimators tokens pools round state)
    (distinct : (tokens.map TokenInfo.address).Nodup)
    (ofRound : EstimatesEntry estimators tokens pools round entry) :
    InRound estimators tokens pools round
      (applyEstimates (positionsOf tokens) round state entry) := by
  rcases applyEstimates_cases ofRound state with
    ⟨_, skipped⟩ | ⟨unknown, price, idx, token, median, atIdx, sameAddress, set⟩
  · rw [skipped]
    exact inRound
  have unknownBefore : pricesAfter estimators tokens pools round entry.1 = none := by
    refine Option.eq_none_iff_forall_ne_some.mpr fun earlier known => ?_
    rw [inRound.kept entry.1 earlier known] at unknown
    cases unknown
  rw [set]
  constructor
  case record =>
    rw [← sameAddress] at unknown unknownBefore median ⊢
    exact inRound.record.setPrice distinct atIdx unknown unknownBefore median
  case kept =>
    intro address value before
    rw [HashMap.lookup_insert, if_neg, inRound.kept address value before]
    intro same
    rw [same, unknownBefore] at before
    cases before
  case learnt =>
    intro address value known
    rw [HashMap.lookup_insert] at known
    split at known
    · rename_i same
      rw [same, pricesAfter_succ, learn_of_unknown unknownBefore, ← known]
      exact median
    · exact inRound.learnt address value known
  case unchanged => nofun

theorem known_applyEstimates (ofRound : EstimatesEntry estimators tokens pools round entry)
    (state : PriceState) {address : Address}
    (wanted : (state.prices.lookup address).isSome ∨ address = entry.1) :
    ((applyEstimates (positionsOf tokens) round state entry).prices.lookup address).isSome := by
  rcases applyEstimates_cases ofRound state with ⟨known, skipped⟩ | ⟨_, price, idx, token, rest⟩
  · rw [skipped]
    rcases wanted with before | rfl
    · exact before
    · exact known
  · rw [rest.2.2.2, HashMap.lookup_insert]
    split
    · rfl
    · rename_i different
      exact wanted.resolve_right different

/-- A whole round, over the entries of the round in whatever order. -/
theorem InRound.foldl (distinct : (tokens.map TokenInfo.address).Nodup)
    {entries : List (Address × List Nat)}
    (ofRound : ∀ entry ∈ entries, EstimatesEntry estimators tokens pools round entry)
    (inRound : InRound estimators tokens pools round state) :
    InRound estimators tokens pools round
        (entries.foldl (DexArbitrage.applyEstimates (positionsOf tokens) round) state) ∧
      ∀ address, (state.prices.lookup address).isSome ∨ address ∈ entries.map Prod.fst →
        ((entries.foldl (DexArbitrage.applyEstimates (positionsOf tokens) round)
          state).prices.lookup address).isSome := by
  induction entries generalizing state with
  | nil => exact ⟨inRound, fun address known => known.resolve_right List.not_mem_nil⟩
  | cons entry rest inductionHypothesis =>
    have first : EstimatesEntry estimators tokens pools round entry :=
      ofRound entry List.mem_cons_self
    obtain ⟨after, known⟩ := inductionHypothesis
      (fun entry member => ofRound entry (List.mem_cons_of_mem _ member))
      (inRound.applyEstimates distinct first)
    refine ⟨after, fun address wanted => known address ?_⟩
    rcases wanted with before | listed
    · exact Or.inl (known_applyEstimates first state (Or.inl before))
    · rcases List.mem_cons.mp listed with same | later
      · exact Or.inl (known_applyEstimates first state (Or.inr same))
      · exact Or.inr later

/-- Between two rounds the known prices are those after the rounds so far. -/
structure BetweenRounds (estimators : PriceEstimators) (tokens : List TokenInfo)
    (pools : HashMap Address PoolState) (rounds : Nat) (state : PriceState) : Prop where
  record : KeepsRecord estimators tokens pools rounds state
  known : state.prices.lookup = pricesAfter estimators tokens pools rounds

theorem BetweenRounds.inRound (between : BetweenRounds estimators tokens pools round state) :
    InRound estimators tokens pools round { state with changed := false } where
  record :=
    { between.record with
      medians := fun setting member =>
        (between.record.medians setting member).imp_left Nat.lt_succ_of_lt }
  kept address _ before := (congrFun between.known address).trans before
  learnt address _ known := by
    rw [pricesAfter_succ, learn_of_known ((congrFun between.known address).symm.trans known)]
  unchanged _ := between.known

/-- The estimates of a round, gathered in a map. -/
def gatheredEstimates (estimators : PriceEstimators) (tokens : List TokenInfo)
    (pools : HashMap Address PoolState) (round : Nat) : HashMap Address (List Nat) :=
  HashMap.group (pools.values.flatMap (poolPriceEstimates estimators (decimalsOf tokens)
    (pricesAfter estimators tokens pools round)))

theorem coe_gatheredEstimates (address : Address) :
    (((gatheredEstimates estimators tokens pools round).lookup address).getD [] : Multiset Nat) =
      estimatesOf estimators tokens pools (pricesAfter estimators tokens pools round) address :=
  congrArg _ (HashMap.lookup_group _ address)

theorem entryOf_of_lookup {address : Address} {estimates : List Nat}
    (found : (gatheredEstimates estimators tokens pools round).lookup address = some estimates) :
    EstimatesEntry estimators tokens pools round (address, estimates) where
  nonempty := HashMap.ne_nil_of_lookup_group found
  gathered := by rw [← coe_gatheredEstimates, found, Option.getD_some]
  listed := by
    obtain ⟨price, member⟩ := List.exists_mem_of_ne_nil _ (HashMap.ne_nil_of_lookup_group found)
    obtain ⟨pool, _, estimated⟩ := List.mem_flatMap.mp (HashMap.mem_of_lookup_group found member)
    exact exists_decimals_of_mem_poolPriceEstimates estimated

theorem medianEstimate_of_absent {address : Address}
    (absent : (gatheredEstimates estimators tokens pools round).lookup address = none) :
    medianEstimate estimators tokens pools
      (pricesAfter estimators tokens pools round) address = none := by
  rw [medianEstimate, ← coe_gatheredEstimates, absent]
  exact upperMedian_zero

/-- A round ends with the prices after it: what got no estimate is not learnt, and the rest is. -/
theorem BetweenRounds.priceRound (distinct : (tokens.map TokenInfo.address).Nodup)
    (orders : Nat → IterationOrder (Address × List Nat))
    (between : BetweenRounds estimators tokens pools round state) :
    InRound estimators tokens pools round
        (priceRound estimators orders (positionsOf tokens) (decimalsOf tokens) pools round state) ∧
      BetweenRounds estimators tokens pools (round + 1)
        (priceRound estimators orders (positionsOf tokens) (decimalsOf tokens) pools round
          state) := by
  set after := DexArbitrage.priceRound estimators orders (positionsOf tokens) (decimalsOf tokens)
    pools round state with afterIs
  set entries := (orders round).order
    ((gatheredEstimates estimators tokens pools round).entries.map fun entry =>
      (entry.1, entry.2)) with entriesAre
  have runs : after = entries.foldl (DexArbitrage.applyEstimates (positionsOf tokens) round)
      { state with changed := false } := by
    rw [afterIs, DexArbitrage.priceRound, between.known]
    rfl
  have mem_entries : ∀ address estimates, (address, estimates) ∈ entries ↔
      (gatheredEstimates estimators tokens pools round).lookup address = some estimates := by
    intro address estimates
    rw [entriesAre, ((orders round).perm _).mem_iff, HashMap.lookup_eq_some_iff, List.mem_map]
    constructor
    · rintro ⟨⟨_, _⟩, member, same⟩
      cases same
      exact member
    · exact fun member => ⟨_, member, rfl⟩
  obtain ⟨inRound, known⟩ := between.inRound.foldl distinct
    fun entry member => entryOf_of_lookup ((mem_entries entry.1 entry.2).mp member)
  rw [← runs] at inRound known
  refine ⟨inRound, inRound.record, funext fun address => ?_⟩
  cases found : after.prices.lookup address with
  | some price => exact (inRound.learnt address price found).symm
  | none =>
    have notListed : address ∉ entries.map Prod.fst := by
      intro listed
      have isKnown := known address (Or.inr listed)
      rw [found] at isKnown
      cases isKnown
    have absent : (gatheredEstimates estimators tokens pools round).lookup address = none := by
      refine Option.eq_none_iff_forall_ne_some.mpr fun estimates present => notListed ?_
      exact List.mem_map.mpr ⟨_, (mem_entries address estimates).mpr present, rfl⟩
    have unknownBefore : pricesAfter estimators tokens pools round address = none := by
      refine Option.eq_none_iff_forall_ne_some.mpr fun price before => ?_
      rw [inRound.kept address price before] at found
      cases found
    rw [pricesAfter_succ, learn_of_unknown unknownBefore, medianEstimate_of_absent absent]

/-- However many rounds are left, the run ends with the prices that all of them would give: it stops
early only after a round that sets nothing. -/
theorem BetweenRounds.priceRounds (distinct : (tokens.map TokenInfo.address).Nodup)
    (orders : Nat → IterationOrder (Address × List Nat)) {left : Nat}
    (between : BetweenRounds estimators tokens pools round state) :
    BetweenRounds estimators tokens pools (round + left)
      (priceRounds estimators orders (positionsOf tokens) (decimalsOf tokens) pools round left
        state) := by
  induction left generalizing round state with
  | zero => exact between
  | succ left inductionHypothesis =>
    obtain ⟨inRound, after⟩ := between.priceRound distinct orders
    rw [DexArbitrage.priceRounds]
    split
    · rw [← Nat.succ_add_eq_add_succ]
      exact inductionHypothesis after
    · rename_i unchanged
      have stable := inRound.unchanged (eq_false_of_ne_true unchanged)
      have same : pricesAfter estimators tokens pools (round + (left + 1)) =
          pricesAfter estimators tokens pools round := by
        refine knownAfter_of_stable ?_ (Nat.le_add_right _ _)
        rw [← knownAfter_succ]
        exact after.known.symm.trans stable
      exact
        { record :=
            { after.record with
              medians := fun setting member =>
                (after.record.medians setting member).imp_left fun early =>
                  Nat.lt_of_lt_of_le early (Nat.add_le_add_left (Nat.le_add_left 1 left) round) }
          known := stable.trans same.symm }

end Round

/-! ### The whole derivation -/

section Derivation

variable {tokens : List TokenInfo}

/-- The prices of the tokens are the given ones. -/
theorem map_withPrice_givenPrices (distinct : (tokens.map TokenInfo.address).Nodup) :
    tokens.map (TokenInfo.withPrice (givenPrices tokens)) = tokens := by
  refine List.map_congr_left (fun token listed => ?_) |>.trans (List.map_id tokens)
  have same : givenPrices tokens token.address = token.manualPriceUsdE8 := by
    refine Option.ext fun price => ?_
    rw [givenPrices_eq_some_iff distinct]
    constructor
    · rintro ⟨other, otherListed, sameAddress, priced⟩
      rw [← eq_of_address_eq distinct otherListed listed sameAddress, priced]
    · exact fun priced => ⟨token, listed, rfl, priced⟩
  rw [TokenInfo.withPrice, same]
  rfl

theorem betweenRounds_start (distinct : (tokens.map TokenInfo.address).Nodup)
    (estimators : PriceEstimators) (pools : HashMap Address PoolState) :
    BetweenRounds estimators tokens pools 0 (.start tokens) := by
  have known := lookup_start_prices distinct
  refine ⟨⟨?_, List.nodup_nil, fun _ none => absurd none List.not_mem_nil,
    fun _ none => absurd none List.not_mem_nil, ?_⟩, known⟩
  · rw [known, map_withPrice_givenPrices distinct]
    rfl
  · exact fun address price found => Or.inl ((congrFun known address).symm.trans found)

theorem betweenRounds_derivePrices (distinct : (tokens.map TokenInfo.address).Nodup)
    (estimators : PriceEstimators) (orders : Nat → IterationOrder (Address × List Nat))
    (pools : HashMap Address PoolState) :
    BetweenRounds estimators tokens pools maxPriceDerivationRounds
      (derivePrices estimators orders tokens pools) := by
  rw [← Nat.zero_add maxPriceDerivationRounds]
  exact (betweenRounds_start distinct estimators pools).priceRounds distinct orders

end Derivation

theorem BetweenRounds.derivesPrices {estimators : PriceEstimators} {tokens : List TokenInfo}
    {pools : HashMap Address PoolState} {final : PriceState}
    (distinct : (tokens.map TokenInfo.address).Nodup)
    (between : BetweenRounds estimators tokens pools maxPriceDerivationRounds final) :
    DerivesPrices estimators tokens pools final where
  derived := between.record.derived.trans (by rw [between.known])
  kept position token atPosition priced := by
    obtain ⟨price, isPrice⟩ := Option.isSome_iff_exists.mp priced
    have given : givenPrices tokens token.address = some price :=
      (givenPrices_eq_some_iff distinct).mpr
        ⟨token, List.mem_of_getElem? atPosition, rfl, isPrice⟩
    have stays : pricesAfter estimators tokens pools maxPriceDerivationRounds token.address =
        some price := knownAfter_of_start given _
    rw [between.record.derived, between.known, List.getElem?_map, atPosition, Option.map_some,
      TokenInfo.withPrice, stays, ← isPrice]
  once := between.record.once
  medians := between.record.medians
  recorded token listed price isPrice := by
    rw [between.record.derived] at listed
    obtain ⟨original, _, same⟩ := List.mem_map.mp listed
    rw [← same] at isPrice ⊢
    exact between.record.recorded original.address price isPrice

/-- The derivation sets each missing price at most once, to the upper median of the estimates of one
of at most five rounds, and keeps the given ones; no iteration order can be seen in the result. -/
theorem priceDerivation (estimators : PriceEstimators)
    (orders : Nat → IterationOrder (Address × List Nat)) (tokens : List TokenInfo)
    (pools : HashMap Address PoolState) (distinct : (tokens.map TokenInfo.address).Nodup) :
    DerivesPrices estimators tokens pools (derivePrices estimators orders tokens pools) ∧
      ∀ (otherOrders : Nat → IterationOrder (Address × List Nat))
        (reordered : HashMap Address PoolState), pools.entries.Perm reordered.entries →
        deriveMissingPricesFromPools estimators otherOrders tokens reordered =
          deriveMissingPricesFromPools estimators orders tokens pools := by
  have between := betweenRounds_derivePrices distinct estimators orders pools
  refine ⟨between.derivesPrices distinct, fun otherOrders reordered same => ?_⟩
  have other := betweenRounds_derivePrices distinct estimators otherOrders reordered
  show (derivePrices estimators otherOrders tokens reordered).tokens =
    (derivePrices estimators orders tokens pools).tokens
  rw [other.record.derived, other.known, ← pricesAfter_perm estimators tokens same,
    between.record.derived, between.known]

def tokenWithPrice (address : Address) (manualPriceUsdE8 : Option Nat) : TokenInfo where
  address := address
  symbol := ""
  decimals := 18
  isStable := false
  isCycleAnchor := true
  flashLoanEnabled := false
  allowSelfFunded := true
  manualPriceUsdE8 := manualPriceUsdE8
  maxPositionUsdE8 := none
  maxFlashLoanUsdE8 := none

def pricingPool (poolId token0 token1 : Address) (reserve0 reserve1 : Nat) : PoolState where
  poolId := poolId
  dexName := "uniswap_v2"
  kind := .uniswapV2Like
  tokenAddresses := [token0, token1]
  factory := none
  registry := none
  vault := none
  quoter := none
  admissionStatus := .allowed
  health :=
    { stale := false, paused := false, quarantined := false, confidenceBps := 10000
      lastSuccessfulRefreshBlock := 100, lastRefreshAt := 0, recentRevertCount := 0 }
  state := .uniswapV2Like { reserve0, reserve1, feePpm := 3000 }
  lastUpdatedBlock := 100

/-- One token with a price, two pools that price a second one by it, and a pool that prices a third
one by the second. -/
def chainOfPrices : List TokenInfo :=
  [tokenWithPrice 1 (some 100000000), tokenWithPrice 2 none, tokenWithPrice 3 none]

def chainOfPools : HashMap Address PoolState :=
  HashMap.ofList
    [(10, pricingPool 10 1 2 1000000 4000000), (11, pricingPool 11 1 2 4000000 1000000),
      (12, pricingPool 12 2 3 1000000 2000000)]

def balanceEstimators : PriceEstimators where
  fromBalances := derivePriceFromBalances
  v3PriceOfToken1 _ _ _ _ := none
  v3PriceOfToken0 _ _ _ _ := none

theorem priceDerivation_chain :
    DerivesPrices balanceEstimators chainOfPrices chainOfPools
        (derivePrices balanceEstimators (fun _ => backwards) chainOfPrices chainOfPools) ∧
      deriveMissingPricesFromPools balanceEstimators (fun _ => inStoredOrder) chainOfPrices
          chainOfPools =
        deriveMissingPricesFromPools balanceEstimators (fun _ => backwards) chainOfPrices
          chainOfPools ∧
      (derivePrices balanceEstimators (fun _ => backwards) chainOfPrices chainOfPools).settings =
        [{ round := 0, address := 2, price := 400000000 },
          { round := 1, address := 3, price := 200000000 }] := by
  obtain ⟨derives, orderFree⟩ := priceDerivation balanceEstimators (fun _ => backwards)
    chainOfPrices chainOfPools (by decide)
  exact ⟨derives, orderFree (fun _ => inStoredOrder) chainOfPools (List.Perm.refl _),
    by decide +kernel⟩

end DexArbitrage
