/-
This file models the spot rates of `src/amm/` that are ratios of two balances,
and the capacity of a route in `src/detector/path_finder.rs`, in double
precision. The logarithm of a rate and the rates that need powers stay
parameters.

The numbers stay in the range of the doubles: the balances are 128-bit integers,
and a route has a few hops.
-/

import DexArbitrage.Amm.AerodromeV2
import DexArbitrage.Amm.UniswapV2
import DexArbitrage.Graph.Model
import DexArbitrage.Lib.Double

namespace DexArbitrage

/-! ### Rates as integers -/

def weightLogQ32 (ln : ℚ → ℚ) (rate : ℚ) : Int :=
  if rate ≤ 0 then i64Max / 4 else Double.truncate (Double.mul (-ln rate) (2 ^ 32))

/-- The cast of the scaled rate is cut off at the largest 128-bit integer, which a rate of one
reaches. -/
def q128FromF64 (rate : ℚ) : Nat :=
  if rate ≤ 0 then
    0
  else
    min (Double.truncate (Double.mul (Double.mul rate (2 ^ 64)) (2 ^ 64))).toNat u128Max

def applyFeeRate (rate : ℚ) (feePpm : Nat) : ℚ :=
  Double.mul rate (Double.sub 1 (Double.div (Double.ofNat feePpm) 1000000))

/-! ### The rates of the pools -/

/-- The rate after the fee of a pool with two reserves. -/
def reserveRate (reserveIn reserveOut feePpm : Nat) : ℚ :=
  applyFeeRate
    (if reserveIn = 0 then 0 else Double.div (Double.ofNat reserveOut) (Double.ofNat reserveIn))
    feePpm

def UniswapV2.spotRate (state : V2PoolState) (zeroForOne : Bool) : ℚ :=
  reserveRate (state.reserveIn zeroForOne) (state.reserveOut zeroForOne) state.feePpm

def AerodromeV2.spotRate (state : AerodromeV2PoolState) (zeroForOne : Bool) : ℚ :=
  reserveRate (state.reserveIn zeroForOne) (state.reserveOut zeroForOne) state.feePpm

def Curve.spotRate (state : CurvePoolState) (i j : Nat) : ℚ :=
  let balanceIn := state.balances.getD i 0
  let balanceOut := state.balances.getD j 0
  let ampBoost := Double.add 1 (min (Double.div (Double.ofNat state.amp) 10000) 3)
  let raw :=
    if balanceIn = 0 then
      0
    else
      Double.mul (min (Double.div (Double.ofNat balanceOut) (Double.ofNat balanceIn)) 1) ampBoost
  applyFeeRate raw state.fee

def Balancer.spotRate (state : BalancerPoolState) (i j : Nat) : ℚ :=
  let bi := Double.ofNat (state.balances.getD i 0)
  let bj := Double.ofNat (state.balances.getD j 0)
  let wi := Double.div (Double.ofNat (state.normalizedWeights1e18.getD i 1)) (10 ^ 18)
  let wj := Double.div (Double.ofNat (state.normalizedWeights1e18.getD j 1)) (10 ^ 18)
  let raw :=
    if bi ≤ 0 ∨ bj ≤ 0 ∨ wi ≤ 0 ∨ wj ≤ 0 then
      0
    else
      Double.div (Double.div bi wi) (Double.div bj wj)
  if raw = 0 then 0 else applyFeeRate (Double.div 1 raw) state.swapFeePpm

/-- The rates of the pools, for a logarithm; those of the other kinds are taken as they are. -/
def doubleRates (ln : ℚ → ℚ) (others : FloatRates) : FloatRates where
  spot state i j :=
    let ofRate (net : ℚ) := (q128FromF64 net, weightLogQ32 ln net)
    match state with
    | .uniswapV2Like pool => ofRate (UniswapV2.spotRate pool (i = 0))
    | .aerodromeV2Like pool => ofRate (AerodromeV2.spotRate pool (i = 0))
    | .curvePlain pool => ofRate (Curve.spotRate pool i j)
    | .balancerWeighted pool => ofRate (Balancer.spotRate pool i j)
    | .uniswapV3Like _ | .traderJoeLb _ => others.spot state i j
  priceLimitCapacityIn := others.priceLimitCapacityIn

/-- The logarithm of a rate between a quarter and four, by forty terms of the series of the area
hyperbolic tangent, in parts of `2 ^ 80`: it agrees with the one of the doubles in more digits than
a weight keeps. -/
def lnSeries (rate : ℚ) : ℚ :=
  let unit : Int := 2 ^ 80
  let ratio := ((rate - 1) / (rate + 1) * unit).floor
  let square := ratio * ratio / unit
  let sum := (List.range 40).foldr (fun term rest =>
    unit / (2 * term + 1 : Nat) + square * rest / unit) 0
  (2 * ratio * sum : Int) / (unit * unit : Int)

/-- The rates of pools of which none needs a power. -/
def ratioRates : FloatRates :=
  doubleRates lnSeries { spot := fun _ _ _ => (0, 0), priceLimitCapacityIn := fun _ _ => none }

/-! ### The capacity of a route -/

/-- The four limbs of the rate, each a double, are added up from the lowest one. -/
def q128ToF64 (value : Nat) : ℚ :=
  let limb (index : Nat) := Double.ofNat (value / 2 ^ (64 * index) % 2 ^ 64)
  Double.add
    (Double.add (Double.add (Double.div (limb 0) (2 ^ 128)) (Double.div (limb 1) (2 ^ 64)))
      (limb 2))
    (Double.mul (limb 3) (2 ^ 64))

def f64ToU128 (value : ℚ) : Nat :=
  if value ≤ 0 then 0 else min (Double.truncate value).toNat u128Max

/-- The loop over the edges of a route. The largest start amount so far is `none` where the source
has the infinity. -/
def startCapacityLoop : List (Option Edge) → ℚ → Option ℚ → Option Nat
  | [], _, maxStart => some ((maxStart.map f64ToU128).getD 0)
  | none :: _, _, _ => none
  | some edge :: rest, cumulativeRate, maxStart =>
    if edge.liquidity.safeCapacityIn = 0 ∨ cumulativeRate ≤ 0 then
      some 0
    else
      let start := Double.div (Double.ofNat edge.liquidity.safeCapacityIn) cumulativeRate
      let rate := q128ToF64 edge.spotRateQ128
      if rate ≤ 0 then
        some 0
      else
        startCapacityLoop rest (Double.mul cumulativeRate rate)
          (some ((maxStart.map fun before => min before start).getD start))

/-- `route_start_capacity_raw` for the edges of a route. -/
def startCapacityOfEdges (edges : List (Option Edge)) : Option Nat :=
  if edges.isEmpty then none else startCapacityLoop edges 1 none

def routeStartCapacityRaw (snapshot : GraphSnapshot) (edgeRefs : List EdgeRef) : Option Nat :=
  startCapacityOfEdges (edgeRefs.map snapshot.edge)

end DexArbitrage
