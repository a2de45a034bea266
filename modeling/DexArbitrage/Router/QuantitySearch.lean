/-
This file models the amounts that a search tries: `src/router/quantity_search.rs`
and the point generators of `src/router/mod.rs`. A search has a range of input
amounts; the ladder doubles through it, a refinement looks around a center, dense
points fill an interval, and a verification scales a center within the range.

The capacity at the start of a route is computed in floating point and is a
parameter. Subtractions and additions that a debug build checks are programs that
fail where the build panics.
-/

import Mathlib.Data.List.Dedup
import Mathlib.Data.List.Sort
import DexArbitrage.Graph.Model
import DexArbitrage.Lib.Saturating
import DexArbitrage.Risk.Valuation

namespace DexArbitrage

/-- A difference of `u128` numbers, as a debug build computes it. -/
def u128Sub (left right : Nat) : Except RpcError Nat :=
  if right ≤ left then .ok (left - right) else .error "attempt to subtract with overflow"

/-- A sum of `u128` numbers, as a debug build computes it. -/
def u128Add (left right : Nat) : Except RpcError Nat :=
  if left + right ≤ u128Max then .ok (left + right) else .error "attempt to add with overflow"

theorem u128Sub_of_le {left right : Nat} (fits : right ≤ left) :
    u128Sub left right = .ok (left - right) := if_pos fits

theorem u128Add_of_le {left right : Nat} (fits : left + right ≤ u128Max) :
    u128Add left right = .ok (left + right) := if_pos fits

/-- `Ord::clamp`, of a range that is not empty. -/
def clamp (value low high : Nat) : Nat := min (max value low) high

/-! ### The range of a search -/

structure QuantitySearcher where
  maxPositionUsdE8 : Nat
  maxPosition : Nat
  minTradeUsdE8 : Nat
  routeStartCapacityRaw : GraphSnapshot → CandidatePath → Option Nat

namespace QuantitySearcher

def calculateMaxPositionRaw (searcher : QuantitySearcher) (token : TokenInfo) : Nat :=
  let maxPositionUsdE8 := token.maxPositionUsdE8.getD searcher.maxPositionUsdE8
  match usdE8ToAmount maxPositionUsdE8 token with
  | some amount => amount
  | none => searcher.maxPosition

def searchRange (searcher : QuantitySearcher) (snapshot : GraphSnapshot)
    (candidate : CandidatePath) : Option (Nat × Nat) := do
  let idx ← snapshot.tokenIndex candidate.startToken
  let token ← snapshot.tokens[idx]?
  let maxPositionRaw := min (searcher.calculateMaxPositionRaw token)
    ((searcher.routeStartCapacityRaw snapshot candidate).getD u128Max)
  let minTradeRaw := (usdE8ToAmount searcher.minTradeUsdE8 token).getD
    (10 ^ token.decimals % 2 ^ 128 / 100)
  let minTradeRaw := max minTradeRaw 1
  if minTradeRaw ≤ maxPositionRaw then some (minTradeRaw, maxPositionRaw) else none

end QuantitySearcher

/-- The points from the current one up to the highest, each the next one of the point before it,
until they stop rising. The fuel bounds their number. -/
def climb (next : Nat → Nat) (high : Nat) : Nat → Nat → List Nat
  | 0, _ => []
  | fuel + 1, current =>
    if high < current then
      []
    else if next current ≤ current then
      [current]
    else
      current :: climb next high fuel (next current)

def doubled (amount : Nat) : Nat := saturatingMul u128Max amount 2

/-- The unit, doubled as long as the range allows; 129 doublings saturate every positive
`u128`. -/
def QuantitySearcher.ladder (searcher : QuantitySearcher) (snapshot : GraphSnapshot)
    (candidate : CandidatePath) : List Nat :=
  match searcher.searchRange snapshot candidate with
  | none => []
  | some (unit, maxPositionRaw) => climb doubled maxPositionRaw 130 unit

/-- Sorted points without repetitions. -/
def sortedPoints (points : List Nat) : List Nat :=
  (points.insertionSort (· ≤ ·)).dedup

def refinementPoints (center maxPositionRaw : Nat) : List Nat :=
  sortedPoints <|
    [center / 2,
      saturatingMul u128Max center 3 / 4,
      saturatingMul u128Max center 7 / 8,
      center,
      saturatingMul u128Max center 9 / 8,
      saturatingMul u128Max center 5 / 4,
      saturatingMul u128Max center 3 / 2,
      saturatingMul u128Max center 2].filter fun amount => 0 < amount ∧ amount ≤ maxPositionRaw

def densePoints (low high targetCount : Nat) : List Nat :=
  if high < low then
    []
  else
    let width := high - low
    if width ≤ targetCount then
      List.range' low (width + 1)
    else
      let step := max (width / targetCount) 1
      -- Each point is above the one before it, so the width is fuel enough.
      let points := climb (saturatingAdd u128Max · step) high (width + 1) low
      if points.getLast? = some high then points else points ++ [high]

def boundedLbAmounts (targetCount minAmount maxAmount : Nat) : List Nat :=
  if minAmount = 0 ∨ maxAmount < minAmount then
    []
  else
    sortedPoints (climb doubled maxAmount targetCount minAmount ++ [maxAmount])

/-- One factor of a verification: its amount is appended unless there are enough. -/
def pushVerificationAmount (center minAmount maxAmount limit : Nat) (amounts : List Nat)
    (factorBps : Nat) : List Nat :=
  if limit ≤ amounts.length then
    amounts
  else
    let amount := clamp (saturatingMul u128Max center factorBps / 10000) minAmount maxAmount
    if 0 < amount ∧ amount ∉ amounts then amounts ++ [amount] else amounts

def verificationAmounts (center minAmount maxAmount limit : Nat) : List Nat :=
  if limit = 0 then
    []
  else
    let center := clamp center minAmount maxAmount
    [8500, 11500, 7000, 13000, 15000, 5000].foldl
      (pushVerificationAmount center minAmount maxAmount limit)
      (if 0 < center then [center] else [])

/-! ### Amounts within the range -/

/-- The amounts of a range. -/
def InRange (minAmount maxAmount amount : Nat) : Prop :=
  minAmount ≤ amount ∧ amount ≤ maxAmount

theorem clamp_inRange {value minAmount maxAmount : Nat} (nonempty : minAmount ≤ maxAmount) :
    InRange minAmount maxAmount (clamp value minAmount maxAmount) := by
  unfold InRange clamp
  omega

@[simp] theorem mem_sortedPoints {points : List Nat} {amount : Nat} :
    amount ∈ sortedPoints points ↔ amount ∈ points := by
  unfold sortedPoints
  rw [List.mem_dedup]
  exact (List.perm_insertionSort _ points).mem_iff

/-- A range is not empty, and its least amount is positive. -/
theorem searchRange_spec {searcher : QuantitySearcher} {snapshot : GraphSnapshot}
    {candidate : CandidatePath} {minAmount maxAmount : Nat}
    (range : searcher.searchRange snapshot candidate = some (minAmount, maxAmount)) :
    0 < minAmount ∧ minAmount ≤ maxAmount := by
  obtain ⟨idx, _, range⟩ := Option.bind_eq_some_iff.mp range
  obtain ⟨token, _, range⟩ := Option.bind_eq_some_iff.mp range
  obtain ⟨nonempty, same⟩ := Option.ite_none_right_eq_some.mp range
  injection same with same
  injection same with sameMin sameMax
  rw [← sameMin, ← sameMax]
  exact ⟨Nat.lt_of_lt_of_le Nat.one_pos (Nat.le_max_right _ _), nonempty⟩

theorem climb_inRange (next : Nat → Nat) (high fuel : Nat) {current amount : Nat}
    (member : amount ∈ climb next high fuel current) : InRange current high amount := by
  induction fuel generalizing current with
  | zero => cases member
  | succ fuel inductionHypothesis =>
    unfold climb at member
    split at member
    · cases member
    · rename_i below
      have first : InRange current high current := ⟨Nat.le_refl _, Nat.le_of_not_lt below⟩
      split at member
      · exact List.mem_singleton.mp member ▸ first
      · rename_i rises
        rcases List.mem_cons.mp member with same | later
        · exact same ▸ first
        · have inside := inductionHypothesis later
          exact ⟨(Nat.le_of_lt (Nat.lt_of_not_le rises)).trans inside.1, inside.2⟩

/-- An interval that is not wider than the fuel is climbed to its end. -/
theorem climb_succ (next : Nat → Nat) {high fuel current : Nat} (enough : high < current + fuel) :
    climb next high (fuel + 1) current = climb next high fuel current := by
  induction fuel generalizing current with
  | zero => exact if_pos enough
  | succ fuel inductionHypothesis =>
    unfold climb
    split
    · rfl
    · split
      · rfl
      · rename_i rises
        rw [inductionHypothesis (by omega)]

/-- So is every range of a `u128`, by doublings of a positive unit. -/
theorem climb_doubled_succ {high : Nat} (fits : high ≤ u128Max) {doublings current : Nat}
    (enough : u128Max < current * 2 ^ doublings) :
    climb doubled high (doublings + 2) current = climb doubled high (doublings + 1) current := by
  induction doublings generalizing current with
  | zero => exact (if_pos (by omega)).trans (if_pos (by omega)).symm
  | succ doublings inductionHypothesis =>
    unfold climb
    split
    · rfl
    · split
      · rfl
      · refine congrArg (current :: ·) ?_
        rcases Nat.le_total (current * 2) u128Max with below | above
        · have twice : doubled current = current * 2 := Nat.min_eq_left below
          rw [twice]
          refine inductionHypothesis ?_
          rw [Nat.pow_succ] at enough
          rw [Nat.mul_assoc, Nat.mul_comm 2]
          exact enough
        · have saturated : doubled current = u128Max := Nat.min_eq_right above
          have stays : doubled u128Max = u128Max := by decide
          rw [saturated]
          unfold climb
          rw [stays, if_pos (Nat.le_refl u128Max), if_pos (Nat.le_refl u128Max)]

theorem ladder_inRange {searcher : QuantitySearcher} {snapshot : GraphSnapshot}
    {candidate : CandidatePath} {minAmount maxAmount amount : Nat}
    (range : searcher.searchRange snapshot candidate = some (minAmount, maxAmount))
    (member : amount ∈ searcher.ladder snapshot candidate) :
    InRange minAmount maxAmount amount := by
  unfold QuantitySearcher.ladder at member
  rw [range] at member
  exact climb_inRange _ _ _ member

/-- Dense points stay in their interval. -/
theorem densePoints_inRange {low high targetCount amount : Nat}
    (member : amount ∈ densePoints low high targetCount) : InRange low high amount := by
  unfold densePoints at member
  split at member
  · cases member
  · rename_i ordered
    have nonempty : low ≤ high := Nat.le_of_not_lt ordered
    simp only at member
    split at member
    · obtain ⟨position, inside, same⟩ := List.mem_range'.mp member
      unfold InRange
      omega
    · split at member
      · exact climb_inRange _ _ _ member
      · rcases List.mem_append.mp member with point | last
        · exact climb_inRange _ _ _ point
        · rw [List.mem_singleton.mp last]
          exact ⟨nonempty, Nat.le_refl _⟩

theorem boundedLbAmounts_inRange {targetCount minAmount maxAmount amount : Nat}
    (member : amount ∈ boundedLbAmounts targetCount minAmount maxAmount) :
    InRange minAmount maxAmount amount := by
  unfold boundedLbAmounts at member
  split at member
  · cases member
  · rename_i range
    rw [not_or] at range
    rw [mem_sortedPoints] at member
    rcases List.mem_append.mp member with point | last
    · exact climb_inRange _ _ _ point
    · rw [List.mem_singleton.mp last]
      exact ⟨Nat.le_of_not_lt range.2, Nat.le_refl _⟩

theorem pushVerificationAmount_inRange {center minAmount maxAmount limit : Nat}
    (nonempty : minAmount ≤ maxAmount) {amounts : List Nat}
    (inside : ∀ amount ∈ amounts, InRange minAmount maxAmount amount) (factorBps : Nat) :
    ∀ amount ∈ pushVerificationAmount center minAmount maxAmount limit amounts factorBps,
      InRange minAmount maxAmount amount := by
  intro amount member
  unfold pushVerificationAmount at member
  split at member
  · exact inside amount member
  · simp only at member
    split at member
    · rcases List.mem_append.mp member with old | new
      · exact inside amount old
      · rw [List.mem_singleton.mp new]
        exact clamp_inRange nonempty
    · exact inside amount member

theorem verificationAmounts_inRange {center minAmount maxAmount limit : Nat}
    (nonempty : minAmount ≤ maxAmount) :
    ∀ amount ∈ verificationAmounts center minAmount maxAmount limit,
      InRange minAmount maxAmount amount := by
  unfold verificationAmounts
  split
  · intro amount member
    cases member
  · have pushed : ∀ factors amounts : List Nat,
        (∀ amount ∈ amounts, InRange minAmount maxAmount amount) →
        ∀ amount ∈ factors.foldl (pushVerificationAmount (clamp center minAmount maxAmount)
          minAmount maxAmount limit) amounts, InRange minAmount maxAmount amount := by
      intro factors
      induction factors with
      | nil => exact fun amounts inside => inside
      | cons factor factors inductionHypothesis =>
        intro amounts inside
        exact inductionHypothesis _ (pushVerificationAmount_inRange nonempty inside factor)
    refine pushed _ _ fun amount member => ?_
    split at member
    · rw [List.mem_singleton.mp member]
      exact clamp_inRange nonempty
    · cases member

end DexArbitrage
