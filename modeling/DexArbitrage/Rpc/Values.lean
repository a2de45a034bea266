/-
This file is the JSON values of the JSON-RPC interface and how the client reads
them: quantities, hashes, the status of a receipt and the answer to a submitted
transaction.
-/

import DexArbitrage.Types

namespace DexArbitrage

inductive Json
  | null
  | bool (value : Bool)
  | number (text : String)
  | string (text : String)
  | array (items : List Json)
  | object (fields : List (String × Json))

namespace Json

/-- The field of an object. Other values have none. -/
def get (value : Json) (field : String) : Option Json :=
  match value with
  | .object fields => fields.lookup field
  | _ => none

def isNull : Json → Bool
  | .null => true
  | _ => false

end Json

/-! ### Quantities -/

/-- `trim_start_matches("0x")`, which takes the prefix away as often as it is there. -/
def trimHexPrefix : List Char → List Char
  | '0' :: 'x' :: rest => trimHexPrefix rest
  | text => text

/-- The value of a hexadecimal digit of either case. -/
def hexDigitValue (char : Char) : Option Nat :=
  if '0' ≤ char ∧ char ≤ '9' then some (char.toNat - '0'.toNat)
  else if 'a' ≤ char ∧ char ≤ 'f' then some (char.toNat - 'a'.toNat + 10)
  else if 'A' ≤ char ∧ char ≤ 'F' then some (char.toNat - 'A'.toNat + 10)
  else none

/-- Shift one digit in, unless the value leaves the range. -/
def pushHexDigit (bound value digit : Nat) : Option Nat :=
  if value * 16 + digit < bound then some (value * 16 + digit) else none

/-- Read digits behind a value. -/
def readHexFrom (bound : Nat) : Nat → List Char → Option Nat
  | value, [] => some value
  | value, char :: rest =>
    ((hexDigitValue char).bind (pushHexDigit bound value)).bind fun next =>
      readHexFrom bound next rest

/-- `from_str_radix(_, 16)` of an unsigned type: one leading plus sign may stand before digits. -/
def fromStrRadix16 (bound : Nat) : List Char → Option Nat
  | [] => none
  | ['+'] => none
  | ['-'] => none
  | '+' :: digits => readHexFrom bound 0 digits
  | digits => readHexFrom bound 0 digits

def quantityText (value : Nat) : String :=
  String.ofList ('0' :: 'x' :: Nat.toDigits 16 value)

def parseHexU64 (value : Json) : Except RpcError Nat :=
  match value with
  | .string text =>
    let stripped := trimHexPrefix text.toList
    if stripped.isEmpty then .ok 0
    else
      match fromStrRadix16 (2 ^ 64) stripped with
      | some parsed => .ok parsed
      | none => .error ("invalid hex u64: " ++ text)
  | _ => .error "u64 hex value must be string"

/-! ### Receipts and hashes -/

section Hashes

variable (parseHash : String → Except RpcError B256)

def parseB256 (value : Json) : Except RpcError B256 :=
  match value with
  | .string text => (parseHash text).mapError fun _ => "invalid hash: " ++ text
  | _ => .error "hash must be hex string"

/-- The hash a submission channel answers with, directly or as a field of an object. The text of
the last error goes on with the answer. -/
def parseTxHashResult (value : Json) : Except RpcError B256 :=
  match value with
  | .string _ => parseB256 parseHash value
  | _ =>
    match (value.get "txHash").or (value.get "transactionHash") with
    | some hash => parseB256 parseHash hash
    | none => .error "submit result did not contain tx hash"

end Hashes

/-- The status of a receipt: none for `null`, and a success when the receipt does not say. -/
def parseReceiptStatus (value : Json) : Except RpcError (Option Bool) :=
  if value.isNull then
    .ok none
  else
    (match value.get "status" with
      | some status => parseHexU64 status
      | none => .ok 1).map fun status => some (status = 1)

/-- Only `null` is read as a pending receipt. -/
theorem parseReceiptStatus_ne_none {value : Json} (present : value.isNull = false) :
    parseReceiptStatus value ≠ .ok none := by
  unfold parseReceiptStatus
  rw [present, if_neg Bool.false_ne_true]
  intro same
  split at same
  · cases read : parseHexU64 _ with
    | error err => rw [read] at same; cases same
    | ok status => rw [read] at same; cases same
  · cases same

end DexArbitrage
