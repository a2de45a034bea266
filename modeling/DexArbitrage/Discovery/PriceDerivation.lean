/-
This file models `derive_missing_prices_from_pools` of `src/discovery/mod.rs`.
In at most five rounds, every pool estimates the prices of its tokens from the
prices that are known; a token without a price takes the upper median of its
estimates.

The estimates of a round are gathered in a hash map and read off it in some
order, by a loop that adds to the known prices. How a pool estimates one price
from another is a parameter, since it is floating point for V3 pools; the
estimate from balances is given beside it.
-/

import DexArbitrage.Lib.Checked
import DexArbitrage.Lib.Propagation
import DexArbitrage.Lib.StableSort
import DexArbitrage.Types

namespace DexArbitrage

/-- What a pool holds of one token. -/
structure PoolSide where
  balance : Nat
  decimals : Nat
  weight1e18 : Nat
  deriving DecidableEq, Repr

/-- How a price is estimated from a known one: from the sides of a pool, and from the price of a V3
pool with the decimals of its tokens. -/
structure PriceEstimators where
  fromBalances : Nat → PoolSide → PoolSide → Option Nat
  v3PriceOfToken1 : Nat → Nat → Nat → Nat → Option Nat
  v3PriceOfToken0 : Nat → Nat → Nat → Nat → Option Nat

def derivePriceFromBalances (knownPriceUsdE8 : Nat) (known unknown : PoolSide) : Option Nat := do
  if knownPriceUsdE8 = 0 ∨ known.balance = 0 ∨ unknown.balance = 0 ∨ known.weight1e18 = 0 ∨
      unknown.weight1e18 = 0 then
    none
  let numerator ← Checked.mul u256Max
    (← Checked.mul u256Max (← Checked.mul u256Max knownPriceUsdE8 known.balance) unknown.weight1e18)
    (10 ^ unknown.decimals % (u256Max + 1))
  let denominator ← Checked.mul u256Max
    (← Checked.mul u256Max unknown.balance known.weight1e18)
    (10 ^ known.decimals % (u256Max + 1))
  if denominator = 0 then
    none
  let value ← Checked.div numerator denominator
  if value = 0 ∨ u64Max < value then
    none
  return value

def minPriceBalanceRaw : Nat := 10000

def maxPriceDerivationRounds : Nat := 5

/-! ### The estimates of one pool -/

section Estimates

variable (estimators : PriceEstimators) (decimals : HashMap Address Nat)
  (prices : Address → Option Nat)

/-- The side of a token, unless its balance is too small or its decimals are not known. -/
def poolSide (balances : List Nat) (weights1e18 : Option (List Nat)) (address : Address)
    (idx : Nat) : Option PoolSide := do
  let balance ← balances[idx]?
  if balance ≤ minPriceBalanceRaw then
    none
  let tokenDecimals ← decimals.lookup address
  return { balance, decimals := tokenDecimals
           weight1e18 := (weights1e18.bind fun weights => weights[idx]?).getD 1 }

/-- The estimates, in the order in which they are pushed. -/
def collectBalancePriceEstimates (addresses : List Address) (balances : List Nat)
    (weights1e18 : Option (List Nat)) : List (Address × Nat) :=
  addresses.zipIdx.flatMap fun (known, knownIdx) =>
    match prices known, poolSide decimals balances weights1e18 known knownIdx with
    | some knownPrice, some knownSide =>
      addresses.zipIdx.filterMap fun (unknown, unknownIdx) =>
        if knownIdx = unknownIdx ∨ (prices unknown).isSome then
          none
        else do
          let unknownSide ← poolSide decimals balances weights1e18 unknown unknownIdx
          let price ← estimators.fromBalances knownPrice knownSide unknownSide
          return (unknown, price)
    | _, _ => []

def collectV3PriceEstimates (token0 token1 : Address) (sqrtPriceX96 : Nat) :
    List (Address × Nat) :=
  match decimals.lookup token0, decimals.lookup token1 with
  | some decimals0, some decimals1 =>
    let price1 := (prices token0).bind (estimators.v3PriceOfToken1 sqrtPriceX96 decimals0 decimals1)
    let price0 := (prices token1).bind (estimators.v3PriceOfToken0 sqrtPriceX96 decimals0 decimals1)
    price1.toList.map (fun price => (token1, price)) ++
      price0.toList.map fun price => (token0, price)
  | _, _ => []

def poolPriceEstimates (pool : PoolState) : List (Address × Nat) :=
  match pool.state, pool.tokenAddresses with
  | .uniswapV2Like state, [token0, token1] =>
    collectBalancePriceEstimates estimators decimals prices [token0, token1]
      [state.reserve0, state.reserve1] none
  | .aerodromeV2Like state, [token0, token1] =>
    collectBalancePriceEstimates estimators decimals prices [token0, token1]
      [state.reserve0, state.reserve1] none
  | .curvePlain state, addresses =>
    collectBalancePriceEstimates estimators decimals prices addresses state.balances none
  | .balancerWeighted state, addresses =>
    collectBalancePriceEstimates estimators decimals prices addresses state.balances
      (some state.normalizedWeights1e18)
  | .uniswapV3Like state, [token0, token1] =>
    collectV3PriceEstimates estimators decimals prices token0 token1 state.sqrtPriceX96
  | _, _ => []

end Estimates

/-! ### Rounds -/

/-- A price that was set, and the round in which it was. -/
structure PriceSetting where
  round : Nat
  address : Address
  price : Nat
  deriving DecidableEq, Repr

/-- The tokens, the known prices, and whether this round has set one. What has been set is kept on
record; nothing reads it. -/
structure PriceState where
  tokens : List TokenInfo
  prices : HashMap Address Nat
  changed : Bool
  settings : List PriceSetting

section Rounds

variable (estimators : PriceEstimators) (orders : Nat → IterationOrder (Address × List Nat))
  (tokenIndex decimals : HashMap Address Nat) (pools : HashMap Address PoolState)

/-- Set the price of one token, if it has none. -/
def applyEstimates (round : Nat) (state : PriceState) (entry : Address × List Nat) : PriceState :=
  if (state.prices.lookup entry.1).isSome ∨ entry.2.isEmpty then
    state
  else
    match (entry.2.insertionSort (· ≤ ·))[entry.2.length / 2]?, tokenIndex.lookup entry.1 with
    | some price, some idx =>
      { tokens := state.tokens.modify idx ({ · with manualPriceUsdE8 := some price })
        prices := state.prices.insert entry.1 price
        changed := true
        settings := state.settings ++ [{ round, address := entry.1, price }] }
    | _, _ => state

def priceRound (round : Nat) (state : PriceState) : PriceState :=
  let estimates := HashMap.group
    (pools.values.flatMap (poolPriceEstimates estimators decimals state.prices.lookup))
  ((orders round).order (estimates.entries.map fun entry => (entry.1, entry.2))).foldl
    (applyEstimates tokenIndex round) { state with changed := false }

/-- The given number of rounds, unless one of them sets nothing. -/
def priceRounds : Nat → Nat → PriceState → PriceState
  | _, 0, state => state
  | round, left + 1, state =>
    let after := priceRound estimators orders tokenIndex decimals pools round state
    if after.changed then priceRounds (round + 1) left after else after

end Rounds

/-- The state before the first round. -/
def PriceState.start (tokens : List TokenInfo) : PriceState where
  tokens := tokens
  prices := HashMap.ofList (tokens.filterMap fun token =>
    token.manualPriceUsdE8.map fun price => (token.address, price))
  changed := false
  settings := []

/-- The rounds, with the record of what they have set. -/
def derivePrices (estimators : PriceEstimators)
    (orders : Nat → IterationOrder (Address × List Nat)) (tokens : List TokenInfo)
    (pools : HashMap Address PoolState) : PriceState :=
  let tokenIndex := HashMap.ofList (tokens.zipIdx.map fun (token, idx) => (token.address, idx))
  let decimals := HashMap.ofList (tokens.map fun token => (token.address, token.decimals))
  priceRounds estimators orders tokenIndex decimals pools 0 maxPriceDerivationRounds (.start tokens)

def deriveMissingPricesFromPools (estimators : PriceEstimators)
    (orders : Nat → IterationOrder (Address × List Nat)) (tokens : List TokenInfo)
    (pools : HashMap Address PoolState) : List TokenInfo :=
  (derivePrices estimators orders tokens pools).tokens

end DexArbitrage
