/-
This file is the part of the contract ABI and of the checked arithmetic of
Solidity that the executor relies on: words of 32 bytes, the decoders for the
static types it reads back from calls and from `extraData`, and `uint256`
operations that revert on overflow. A decoder returns `none` where `abi.decode`
reverts, which includes words with dirty upper bits.
-/

import DexArbitrage.Lib.BigEndian
import DexArbitrage.Types

namespace DexArbitrage

/-- The reason a transaction reverts with. -/
abbrev Revert := String

/-! ### Words -/

/-- The word at a position, counted in words from the start of the data. -/
def abiWord (data : Bytes) (position : Nat) : Option Nat :=
  if 32 * (position + 1) ≤ data.length then
    some (fromBigEndian ((data.drop (32 * position)).take 32))
  else
    none

def encodeWord (value : Nat) : Bytes :=
  toBigEndian 32 value

@[simp] theorem length_encodeWord (value : Nat) : (encodeWord value).length = 32 :=
  length_toBigEndian 32 value

/-- A word of 32 bytes, at a position that as many words precede. -/
theorem abiWord_append (before word rest : Bytes) (position : Nat)
    (starts : before.length = 32 * position) (length : word.length = 32) :
    abiWord (before ++ word ++ rest) position = some (fromBigEndian word) := by
  have enough : 32 * (position + 1) ≤ (before ++ word ++ rest).length := by
    rw [List.length_append, List.length_append, starts, length]
    omega
  rw [abiWord, if_pos enough, ← starts, List.append_assoc, List.drop_left, ← length,
    List.take_left]

theorem abiWord_of_length {word : Bytes} (length : word.length = 32) :
    abiWord word 0 = some (fromBigEndian word) := by
  have found := abiWord_append [] word [] 0 rfl length
  rwa [List.nil_append, List.append_nil] at found

/-- Decoding a word gives back what was encoded. -/
theorem abiWord_encodeWord (value : Nat) (fits : value < 2 ^ 256) :
    abiWord (encodeWord value) 0 = some value := by
  rw [abiWord_of_length (length_encodeWord value)]
  exact congrArg some (fromBigEndian_toBigEndian 32 value fits)

def decodeUint256 (data : Bytes) : Option Nat :=
  abiWord data 0

/-- A word read as a number of fewer bits, which the decoder checks. -/
def decodeUint (bits : Nat) (data : Bytes) (position : Nat) : Option Nat :=
  (abiWord data position).filter fun word => word < 2 ^ bits

def decodeAddress (data : Bytes) (position : Nat) : Option Address :=
  (decodeUint 160 data position).map (BitVec.ofNat 160)

theorem decodeAddress_encodeWord (token : Address) :
    decodeAddress (encodeWord token.toNat) 0 = some token := by
  have fits : token.toNat < 2 ^ 160 := token.isLt
  have word : abiWord (encodeWord token.toNat) 0 = some token.toNat :=
    abiWord_encodeWord token.toNat (fits.trans (by decide))
  unfold decodeAddress decodeUint
  rw [word, Option.filter_some, if_pos (decide_eq_true fits), Option.map_some, BitVec.ofNat_toNat,
    BitVec.setWidth_eq]

def decodeBool (data : Bytes) : Option Bool :=
  (decodeUint 1 data 0).map fun word => decide (word = 1)

def decodeBytes32 (data : Bytes) : Option B256 :=
  (abiWord data 0).map (BitVec.ofNat 256)

/-- The signed number whose two's complement is the given `bits`-bit number. -/
def signed (bits value : Nat) : Int :=
  if value < 2 ^ (bits - 1) then value else value - 2 ^ bits

def decodeInt256 (data : Bytes) (position : Nat) : Option Int :=
  (abiWord data position).map (signed 256)

/-- The decoder's answer, or a revert without a reason. -/
def decoded {Value : Type} (value : Option Value) : Except Revert Value :=
  match value with
  | some value => .ok value
  | none => .error ""

/-! ### Checked arithmetic -/

def overflowPanic : Revert := "Panic(0x11)"

def divisionPanic : Revert := "Panic(0x12)"

def checkedAdd (left right : Nat) : Except Revert Nat :=
  if left + right < 2 ^ 256 then .ok (left + right) else .error overflowPanic

def checkedSub (left right : Nat) : Except Revert Nat :=
  if right ≤ left then .ok (left - right) else .error overflowPanic

def checkedMul (left right : Nat) : Except Revert Nat :=
  if left * right < 2 ^ 256 then .ok (left * right) else .error overflowPanic

def checkedDiv (left right : Nat) : Except Revert Nat :=
  if right = 0 then .error divisionPanic else .ok (left / right)

theorem checkedDiv_of_pos {left right : Nat} (positive : 0 < right) :
    checkedDiv left right = .ok (left / right) :=
  if_neg positive.ne'

theorem checkedSub_of_le {left right : Nat} (enough : right ≤ left) :
    checkedSub left right = .ok (left - right) :=
  if_pos enough

/-- A checked operation goes on exactly when its check passes. -/
theorem checked_bind_eq_ok_iff {condition : Prop} [Decidable condition] {Value Result : Type}
    {value : Value} {reason : Revert} {next : Value → Except Revert Result} {result : Result} :
    ((if condition then Except.ok value else .error reason) >>= next) = .ok result ↔
      condition ∧ next value = .ok result := by
  by_cases holds : condition
  · simp [holds, bind, Except.bind]
  · simp [holds, bind, Except.bind]

theorem checkedAdd_eq_ok {left right sum : Nat} (added : checkedAdd left right = .ok sum) :
    sum = left + right := by
  unfold checkedAdd at added
  split at added
  · injection added with same
    exact same.symm
  · cases added

theorem checkedAdd_lt {left right sum : Nat} (added : checkedAdd left right = .ok sum) :
    sum < 2 ^ 256 := by
  unfold checkedAdd at added
  split at added
  · rename_i fits
    injection added with same
    rwa [← same]
  · cases added

theorem checkedSub_eq_ok {left right difference : Nat}
    (subtracted : checkedSub left right = .ok difference) : difference + right = left := by
  unfold checkedSub at subtracted
  split at subtracted
  · rename_i enough
    injection subtracted with same
    rw [← same]
    exact Nat.sub_add_cancel enough
  · cases subtracted

end DexArbitrage
