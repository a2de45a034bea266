/-
This file connects the two ends of the extra data of a split: the bytes that
`encode_extra` lays out in the bot, and the decoders that the branches of
`_executeSplit` apply to them. What a branch reads is one value of
`DecodedExtra`, and a branch depends on the bytes through it alone; the
Aerodrome and the Liquidity Book branch read nothing.

The adapter itself travels as its position in an enumeration that both ends
declare.
-/

import DexArbitrage.Execution.TxBuilder
import DexArbitrage.Router.PriceImpact

namespace DexArbitrage

/-! ### What a branch reads -/

/-- What a branch of `_executeSplit` reads from the extra data. -/
inductive DecodedExtra
  | feePpm (feePpm : Nat)
  | priceLimit (sqrtPriceLimitX96 : Nat)
  | curve (i j : Int) (underlying : Bool)
  | poolId (poolId : B256)
  | askPool
  | nothing
  deriving DecidableEq, Repr

/-- A Balancer pool is asked for its id when the bytes hold none. -/
def balancerExtra : Option B256 → DecodedExtra
  | some poolId => .poolId poolId
  | none => .askPool

/-- The decoder of each branch. The default of the price limit depends on the direction. -/
def decodeExtra (extraData : Bytes) (zeroForOne : Bool) :
    ExecutorAdapterType → Except Revert DecodedExtra
  | .uniswapV2Like => (decodeV2FeePpm extraData).map .feePpm
  | .uniswapV3Like => .ok (.priceLimit (decodeV3PriceLimit extraData zeroForOne))
  | .curvePlain => (decodeCurveExtra extraData).map fun (i, j, underlying) =>
    .curve i j underlying
  | .balancerWeighted => .ok (balancerExtra (decodeBytes32 extraData))
  | .traderJoeLb => .ok .nothing
  | .aerodromeV2Like => .ok .nothing

/-- The two byte strings say the same to the branch of an adapter. -/
def DecodeAlike (adapterType : ExecutorAdapterType) (first second : Bytes) : Prop :=
  ∀ zeroForOne, decodeExtra first zeroForOne adapterType = decodeExtra second zeroForOne adapterType

theorem balancerExtra_injective : Function.Injective balancerExtra := by
  intro first second same
  cases first with
  | none =>
    cases second with
    | none => rfl
    | some poolId => cases same
  | some poolId =>
    cases second with
    | none => cases same
    | some other =>
      cases same
      rfl

theorem map_ok_injective {Value Result : Type} {change : Value → Result}
    (injective : Function.Injective change) {first second : Except Revert Value}
    (same : first.map change = second.map change) : first = second := by
  cases first with
  | error reason =>
    cases second with
    | error other =>
      cases same
      rfl
    | ok value => cases same
  | ok value =>
    cases second with
    | error reason => cases same
    | ok other =>
      injection same with same
      rw [injective same]

section Branch

variable {Foreign : Type} (external : External Foreign) (deployment : Deployment)

/-- A branch of `_executeSplit` reads the extra data through its decoder alone. -/
theorem executeSplit_of_decodeAlike (context : Context) {split : Split} {extraData : Bytes}
    (alike : DecodeAlike split.adapterType extraData split.extraData) :
    executeSplit external deployment context { split with extraData } =
      executeSplit external deployment context split := by
  unfold executeSplit
  refine congrArg (checkTarget split.target >>= ·) (funext fun _ => ?_)
  cases adapter : split.adapterType with
  | uniswapV2Like =>
    rw [adapter] at alike
    have same : decodeV2FeePpm extraData = decodeV2FeePpm split.extraData :=
      map_ok_injective (fun _ _ equal => DecodedExtra.feePpm.inj equal) (alike true)
    simp only [swapV2, same, swapDirection, safeTransfer, amountSince]
  | uniswapV3Like =>
    rw [adapter] at alike
    have same : decodeV3PriceLimit extraData = decodeV3PriceLimit split.extraData := by
      funext zeroForOne
      exact DecodedExtra.priceLimit.inj (Except.ok.inj (alike zeroForOne))
    simp only [swapV3, same, swapDirection, amountSince]
  | curvePlain =>
    rw [adapter] at alike
    have same : decodeCurveExtra extraData = decodeCurveExtra split.extraData := by
      refine map_ok_injective ?_ (alike true)
      rintro ⟨i, j, underlying⟩ ⟨otherI, otherJ, otherUnderlying⟩ equal
      injection equal with first second third
      rw [first, second, third]
    simp only [swapCurve, same, amountSince]
  | balancerWeighted =>
    rw [adapter] at alike
    have same : decodeBytes32 extraData = decodeBytes32 split.extraData :=
      balancerExtra_injective (Except.ok.inj (alike true))
    simp only [swapBalancer, same, amountSince]
  | traderJoeLb => rfl
  | aerodromeV2Like => rfl

end Branch

/-! ### The adapter on the wire -/

/-- The position in the enumeration that `src/abi.rs` declares. -/
def adapterSlot (adapterType : AdapterType) : Nat :=
  match mapAdapter adapterType with
  | .uniswapV2Like => 0
  | .uniswapV3Like => 1
  | .traderJoeLb => 2
  | .curvePlain => 3
  | .balancerWeighted => 4
  | .aerodromeV2Like => 5

/-- The enumeration that the contract declares. -/
def executorAdapters : List ExecutorAdapterType :=
  [.uniswapV2Like, .uniswapV3Like, .traderJoeLb, .curvePlain, .balancerWeighted,
    .aerodromeV2Like]

/-- Both ends number the adapters alike. -/
theorem executorAdapters_adapterSlot (adapterType : AdapterType) :
    executorAdapters[adapterSlot adapterType]? = some (mapAdapter adapterType) := by
  cases adapterType <;> rfl

/-! ### The extra data that is emitted -/

namespace SplitExtra

/-- The ranges in which values are emitted: fees below the whole amount, price limits that are
positive and fit an address-sized word, and positions that fit their type. -/
def InRange : SplitExtra → Prop
  | none => True
  | v2 feePpm => feePpm < 1000000
  | aerodromeV2 _ feePpm => feePpm < 2 ^ 32
  | v3 _ sqrtPriceLimitX96 => 0 < sqrtPriceLimitX96 ∧ sqrtPriceLimitX96 < 2 ^ 160
  | traderJoeLb => True
  | curve i j _ => (-2 ^ 127 ≤ i ∧ i < 2 ^ 127) ∧ (-2 ^ 127 ≤ j ∧ j < 2 ^ 127)
  | balancer _ => True

/-- What the branch that receives the values is meant to read. -/
def meaning : SplitExtra → DecodedExtra
  | none => .nothing
  | v2 feePpm => .feePpm feePpm
  | aerodromeV2 _ _ => .nothing
  | v3 _ sqrtPriceLimitX96 => .priceLimit sqrtPriceLimitX96
  | traderJoeLb => .nothing
  | curve i j underlying => .curve i j underlying
  | balancer poolId => .poolId poolId

end SplitExtra

/-! ### What is decoded -/

/-- The two words that the Aerodrome branch is sent, and does not read. -/
theorem abiWord_encodeExtra_aerodromeV2 (stable : Bool) {feePpm : Nat} (range : feePpm < 2 ^ 32) :
    abiWord (encodeExtra (.aerodromeV2 stable feePpm)) 0 = some (if stable then 1 else 0) ∧
      abiWord (encodeExtra (.aerodromeV2 stable feePpm)) 1 = some feePpm := by
  have bytes : encodeExtra (.aerodromeV2 stable feePpm) =
      (List.replicate 31 0 ++ [if stable then 1 else 0]) ++
        (List.replicate 28 0 ++ toBigEndian 4 feePpm) := by
    rw [encodeExtra, ← List.append_assoc]
  have flag : (List.replicate 31 0 ++ [if stable then (1 : UInt8) else 0]).length = 32 := by
    rw [List.length_append, List.length_replicate]
    rfl
  have fee : (List.replicate 28 0 ++ toBigEndian 4 feePpm).length = 32 := by
    rw [List.length_append, List.length_replicate, length_toBigEndian]
  rw [bytes]
  constructor
  · have first := abiWord_append [] _ (List.replicate 28 0 ++ toBigEndian 4 feePpm) 0 rfl flag
    rw [List.nil_append] at first
    rw [first, fromBigEndian_replicate_append]
    cases stable <;> rfl
  · have second := abiWord_append _ _ [] 1 flag fee
    rw [List.append_nil] at second
    rw [second, fromBigEndian_replicate_append, fromBigEndian_toBigEndian 4 feePpm range]

theorem decodeV3PriceLimit_encodeExtra {sqrtPriceLimitX96 : Nat} (positive : 0 < sqrtPriceLimitX96)
    (range : sqrtPriceLimitX96 < 2 ^ 160) (emittedDirection zeroForOne : Bool) :
    decodeV3PriceLimit (encodeExtra (.v3 emittedDirection sqrtPriceLimitX96)) zeroForOne =
      sqrtPriceLimitX96 := by
  have word : abiWord (encodeExtra (.v3 emittedDirection sqrtPriceLimitX96)) 0 =
      some sqrtPriceLimitX96 :=
    abiWord_encodeWord sqrtPriceLimitX96 (range.trans (by decide))
  simp only [decodeV3PriceLimit, word]
  exact if_pos ⟨positive, Nat.le_sub_one_of_lt range⟩

theorem length_int128Bytes (value : Int) : (int128Bytes value).length = 16 :=
  length_toBigEndian 16 _

/-- Two's complement in 128 bits gives a signed number back. -/
theorem signed_int128Bytes {value : Int} (lower : -2 ^ 127 ≤ value) (upper : value < 2 ^ 127) :
    signed 128 (fromBigEndian (int128Bytes value)) = value := by
  have fits : (value % 2 ^ 128).toNat < 2 ^ 128 := by omega
  rw [int128Bytes, fromBigEndian_toBigEndian 16 _ fits, signed]
  split
  · omega
  · omega

theorem readInt128_append (before rest : Bytes) {value : Int} (lower : -2 ^ 127 ≤ value)
    (upper : value < 2 ^ 127) :
    readInt128 (before ++ int128Bytes value ++ rest) before.length = .ok value := by
  have enough : before.length + 16 ≤ (before ++ int128Bytes value ++ rest).length := by
    rw [List.length_append, List.length_append, length_int128Bytes]
    omega
  rw [readInt128, if_pos enough, List.append_assoc, List.drop_left, ← length_int128Bytes value,
    List.take_left, signed_int128Bytes lower upper]

theorem decodeCurveExtra_encodeExtra {i j : Int} (iLower : -2 ^ 127 ≤ i) (iUpper : i < 2 ^ 127)
    (jLower : -2 ^ 127 ≤ j) (jUpper : j < 2 ^ 127) (underlying : Bool) :
    decodeCurveExtra (encodeExtra (.curve i j underlying)) = .ok (i, j, underlying) := by
  have bytes : encodeExtra (.curve i j underlying) =
      int128Bytes i ++ int128Bytes j ++ [if underlying then 1 else 0] := rfl
  have first : readInt128 (encodeExtra (.curve i j underlying)) 0 = .ok i := by
    rw [bytes, List.append_assoc, ← List.nil_append (int128Bytes i)]
    exact readInt128_append [] _ iLower iUpper
  have second : readInt128 (encodeExtra (.curve i j underlying)) 16 = .ok j := by
    rw [bytes, ← length_int128Bytes i]
    exact readInt128_append _ _ jLower jUpper
  have length : (int128Bytes i ++ int128Bytes j).length = 32 := by
    rw [List.length_append, length_int128Bytes, length_int128Bytes]
  have flag : (encodeExtra (.curve i j underlying)).getD 32 0 = if underlying then 1 else 0 := by
    rw [bytes, List.getD_eq_getElem?_getD, ← length, List.getElem?_append_right le_rfl,
      Nat.sub_self]
    rfl
  have long : ¬ (encodeExtra (.curve i j underlying)).length < 33 := by
    rw [bytes, List.length_append, length]
    exact Nat.lt_irrefl 33
  rw [decodeCurveExtra, if_neg long, first, second, flag]
  cases underlying <;> rfl

theorem decodeBytes32_encodeExtra (poolId : B256) :
    decodeBytes32 (encodeExtra (.balancer poolId)) = some poolId := by
  have word : abiWord (encodeExtra (.balancer poolId)) 0 = some poolId.toNat :=
    abiWord_encodeWord poolId.toNat poolId.isLt
  rw [decodeBytes32, word, Option.map_some, BitVec.ofNat_toNat, BitVec.setWidth_eq]

/-! ### The splits that are emitted -/

/-- The kind of pool that has a state. -/
def PoolSpecificState.kind : PoolSpecificState → AmmKind
  | uniswapV2Like _ => .uniswapV2Like
  | aerodromeV2Like _ => .aerodromeV2Like
  | uniswapV3Like _ => .uniswapV3Like
  | traderJoeLb _ => .traderJoeLb
  | curvePlain _ => .curvePlain
  | balancerWeighted _ => .balancerWeighted

/-- The kind that a pool was fetched as is the kind of its state. -/
def KindsMatch (snapshot : GraphSnapshot) : Prop :=
  ∀ poolId pool, snapshot.pool poolId = some pool → pool.kind = pool.state.kind

/-- The executor reads from the split's extra data what was put into it, in the branch of the
split's adapter. -/
structure ExtraAgrees (split : SplitPlan) : Prop where
  decodes : ∀ zeroForOne, decodeExtra (encodeSplit split).extraData zeroForOne
    (encodeSplit split).adapterType = .ok split.extra.meaning
  onWire : executorAdapters[adapterSlot split.adapterType]? = some (encodeSplit split).adapterType
  branch : ∀ (Foreign : Type) (external : External Foreign) (deployment : Deployment)
    (context : Context) (extraData : Bytes),
    DecodeAlike (encodeSplit split).adapterType extraData (encodeSplit split).extraData →
      executeSplit external deployment context { encodeSplit split with extraData } =
        executeSplit external deployment context (encodeSplit split)
  aerodromeWords : ∀ stable feePpm, split.extra = .aerodromeV2 stable feePpm →
    abiWord (encodeSplit split).extraData 0 = some (if stable then 1 else 0) ∧
      abiWord (encodeSplit split).extraData 1 = some feePpm

/-- The split was made for a pool of the snapshot. -/
def EmittedFor (optimizer : SplitOptimizer) (snapshot : GraphSnapshot)
    (tokenIn tokenOut : Address) (split : SplitPlan) : Prop :=
  ∃ poolId pool, snapshot.pool poolId = some pool ∧
    split.adapterType = AdapterType.ofAmmKind pool.kind ∧
    splitExtra optimizer tokenIn tokenOut pool = some split.extra

section Emitted

variable {State : Type} {optimizer : SplitOptimizer} {quoter : Quoter State}
  {snapshot : GraphSnapshot} {tokenIn tokenOut : Address}

/-- The extra data that a pool's state calls for is decoded by the branch of its kind. -/
theorem decodeExtra_encodeExtra {pool : PoolState} {extra : SplitExtra}
    (emitted : splitExtra optimizer tokenIn tokenOut pool = some extra) (range : extra.InRange)
    (zeroForOne : Bool) :
    decodeExtra (encodeExtra extra) zeroForOne
      (mapAdapter (AdapterType.ofAmmKind pool.state.kind)) = .ok extra.meaning := by
  unfold splitExtra at emitted
  cases state : pool.state with
  | uniswapV2Like pair =>
    rw [state] at emitted
    injection emitted with same
    rw [← same] at range ⊢
    simp only [PoolSpecificState.kind, AdapterType.ofAmmKind, mapAdapter, decodeExtra,
      decodeV2FeePpm_encodeExtra range]
    rfl
  | aerodromeV2Like pair =>
    rw [state] at emitted
    injection emitted with same
    rw [← same]
    rfl
  | uniswapV3Like pool =>
    rw [state] at emitted
    injection emitted with same
    rw [← same] at range ⊢
    simp only [PoolSpecificState.kind, AdapterType.ofAmmKind, mapAdapter, decodeExtra,
      decodeV3PriceLimit_encodeExtra range.1 range.2]
    rfl
  | traderJoeLb pair =>
    rw [state] at emitted
    injection emitted with same
    rw [← same]
    rfl
  | curvePlain pool =>
    rw [state] at emitted
    obtain ⟨i, _, emitted⟩ := Option.bind_eq_some_iff.mp emitted
    obtain ⟨j, _, emitted⟩ := Option.bind_eq_some_iff.mp emitted
    injection emitted with same
    rw [← same] at range ⊢
    obtain ⟨⟨iLower, iUpper⟩, jLower, jUpper⟩ := range
    simp only [PoolSpecificState.kind, AdapterType.ofAmmKind, mapAdapter, decodeExtra,
      decodeCurveExtra_encodeExtra iLower iUpper jLower jUpper]
    rfl
  | balancerWeighted pool =>
    rw [state] at emitted
    injection emitted with same
    rw [← same]
    simp only [PoolSpecificState.kind, AdapterType.ofAmmKind, mapAdapter, decodeExtra,
      decodeBytes32_encodeExtra]
    rfl

theorem extraAgrees_of_emitted (kinds : KindsMatch snapshot) {split : SplitPlan}
    (emitted : EmittedFor optimizer snapshot tokenIn tokenOut split)
    (range : split.extra.InRange) : ExtraAgrees split := by
  obtain ⟨poolId, pool, found, adapter, extra⟩ := emitted
  rw [kinds poolId pool found] at adapter
  refine ⟨fun zeroForOne => ?_, executorAdapters_adapterSlot split.adapterType,
    fun Foreign external deployment context extraData alike =>
      executeSplit_of_decodeAlike external deployment context alike, fun stable feePpm same => ?_⟩
  · rw [encodeSplit, adapter]
    exact decodeExtra_encodeExtra extra range zeroForOne
  · rw [same] at range
    rw [encodeSplit, same]
    exact abiWord_encodeExtra_aerodromeV2 stable range

theorem emittedFor_of_splitPlan {poolId : Address} {pool : PoolState}
    (found : snapshot.pool poolId = some pool) {amount expected : Nat} {split : SplitPlan}
    (planned : splitPlan optimizer tokenIn tokenOut pool amount expected = some split) :
    EmittedFor optimizer snapshot tokenIn tokenOut split := by
  unfold splitPlan at planned
  split at planned
  · cases planned
  · obtain ⟨extra, emitted, same⟩ := Option.map_eq_some_iff.mp planned
    rw [← same]
    exact ⟨poolId, pool, found, rfl, emitted⟩

theorem ensures_materializeAllocation_emitted (allocation : Allocation) (start : State) :
    Ensures (materializeAllocation optimizer quoter snapshot tokenIn tokenOut allocation) start
      fun split? _ => ∀ split, split? = some split →
        EmittedFor optimizer snapshot tokenIn tokenOut split := by
  unfold materializeAllocation
  split
  · simp
  · split
    · simp
    · split
      · simp
      · rename_i pool found
        simp only [ensures_bind, ensures_pure]
        intro expected finish _ split planned
        exact emittedFor_of_splitPlan found planned

/-- Every split that `materialize_allocations_with_quotes` emits agrees with the executor about its
extra data, as long as its values are in their ranges. -/
theorem ensures_extraAgrees (optimizer : SplitOptimizer) (quoter : Quoter State)
    (snapshot : GraphSnapshot) (tokenIn tokenOut : Address) (kinds : KindsMatch snapshot)
    (allocations : List Allocation) (start : State) :
    Ensures (materializeAllocationsWithQuotes optimizer quoter snapshot tokenIn tokenOut
      allocations) start fun result _ =>
        ∀ split ∈ result.1, split.extra.InRange → ExtraAgrees split := by
  unfold materializeAllocationsWithQuotes
  rw [ensures_bind]
  refine (ensures_mapM _ (fun _ => True) _ (fun allocation _ start _ =>
    (ensures_materializeAllocation_emitted allocation start).mono fun _ _ emitted =>
      ⟨trivial, emitted⟩) trivial).mono ?_
  rintro materialized finish ⟨_, related⟩
  rw [ensures_pure]
  intro split member range
  rw [List.mem_insertionSort, List.reduceOption_mem_iff] at member
  obtain ⟨allocation, _, emitted⟩ := exists_related_of_mem_right related member
  exact extraAgrees_of_emitted kinds (emitted split rfl) range

end Emitted

/-! ### A split of the two pools with crossed prices -/

theorem kindsMatch_crossedSnapshot : KindsMatch crossedSnapshot := by
  intro poolId pool found
  rcases List.mem_pair.mp (HashMap.mem_of_lookup_ofList found) with first | second
  · injection first with _ samePool
    rw [samePool]
    rfl
  · injection second with _ samePool
    rw [samePool]
    rfl

/-- 1000 units to the first pool, which were quoted before. -/
def crossedAllocations : List Allocation :=
  [{ edgeRef := { fromIdx := 0, edgeIdx := 0 }, amount := 1000, quoted := 3984 }]

def crossedSplits : Except RpcError ((List SplitPlan × Nat) × QuoterState) :=
  (materializeAllocationsWithQuotes crossedOptimizer
    (exactQuoter localSettings zeroQuotes inOrderOracle crossedSnapshot.snapshotId)
    crossedSnapshot 1 2 crossedAllocations).run emptyQuoter

theorem extraAgrees_crossedSplits :
    ∃ split finish, crossedSplits = .ok (([split], 3984), finish) ∧ ExtraAgrees split := by
  have ran : ∃ split finish, crossedSplits = .ok (([split], 3984), finish) ∧
      split.extra = .v2 3000 := by
    refine ⟨_, _, rfl, ?_⟩
    decide +kernel
  obtain ⟨split, finish, returned, extra⟩ := ran
  refine ⟨split, finish, returned, ?_⟩
  refine ensures_extraAgrees crossedOptimizer
    (exactQuoter localSettings zeroQuotes inOrderOracle crossedSnapshot.snapshotId)
    crossedSnapshot 1 2 kindsMatch_crossedSnapshot crossedAllocations emptyQuoter _ finish returned
    split (List.mem_singleton_self split) ?_
  rw [extra]
  exact (by decide : 3000 < 1000000)

end DexArbitrage
