/-
This file is the simulation of a transaction in `src/execution/validator.rs`: the
request for it and how its answer is read. Providers answer the simulation
methods in several formats; an answer that none of them fits counts as a failure.
-/

import DexArbitrage.Lib.Checksum
import DexArbitrage.Risk.GasTracker

namespace DexArbitrage

namespace Json

def asArray : Json → Option (List Json)
  | .array items => some items
  | _ => none

def asStr : Json → Option String
  | .string text => some text
  | _ => none

def asBool : Json → Option Bool
  | .bool value => some value
  | _ => none

def isObject : Json → Bool
  | .object _ => true
  | _ => false

end Json

structure SimulationOutcome where
  success : Bool
  reason : Option String
  deriving DecidableEq, Repr

def SimulationOutcome.failed (reason : String) : SimulationOutcome :=
  { success := false, reason := some reason }

def SimulationOutcome.ofFlag (success : Bool) : SimulationOutcome :=
  { success, reason := none }

/-! ### Reading an answer -/

/-- The message of an error, when it is an object. -/
def errorMessage (error : Json) : Option String :=
  if error.isObject then
    some (((error.get "message").bind Json.asStr).getD "unknown error")
  else
    none

/-- The first call of a simulated block, when it decides. -/
def callOutcome (call : Json) : Option SimulationOutcome :=
  match ((call.get "error").bind Json.asStr).filter (· ≠ "") with
  | some error => some (.failed error)
  | none =>
    match (call.get "status").bind Json.asStr with
    | some status =>
      if status = "0x1" ∨ status = "1" then
        some (.ofFlag true)
      else
        some (.failed "eth_simulateV1 status 0x0")
    | none => if (call.get "gasUsed").isSome then some (.ofFlag true) else none

/-- The calls of a simulated block, when there is a list of them and it decides. -/
def callsOutcome (first : Json) : Option SimulationOutcome :=
  match (first.get "calls").bind Json.asArray with
  | none => none
  | some [] => some (.failed "eth_simulateV1 returned no calls")
  | some (call :: _) => callOutcome call

/-- What the fields of a result say. -/
def successFields (result : Json) : Option SimulationOutcome :=
  match result.get "success" with
  | some success => some (.ofFlag (success.asBool.getD false))
  | none => if (result.get "gasUsed").isSome then some (.ofFlag true) else none

/-- An element of an array of results. -/
def elementOutcome (first : Json) : Option SimulationOutcome :=
  match callsOutcome first with
  | some outcome => some outcome
  | none =>
    match (first.get "error").bind errorMessage with
    | some message => some (.failed message)
    | none =>
      match ((first.get "revertReason").bind Json.asStr).filter (· ≠ "") with
      | some reason => some (.failed reason)
      | none => successFields first

/-- A single result object. -/
def objectOutcome (result : Json) : Option SimulationOutcome :=
  if result.isObject then
    match (result.get "error").bind errorMessage with
    | some message => some (.failed message)
    | none => successFields result
  else
    none

/-- The source wraps the outcome in a result but has no failing path. -/
def parseSimulationResult (result : Json) : SimulationOutcome :=
  match ((result.asArray.bind List.head?).bind elementOutcome).or (objectOutcome result) with
  | some outcome => outcome
  | none => .failed "unknown simulation result"

/-- A call without a return value returns no bytes, and a revert never gets here. -/
def parseCallReturnData (data : Bytes) : Bool :=
  if data.isEmpty then true
  else if data.length < 32 then false
  else decide (data.getLast? = some 1)

example : parseCallReturnData [] = true := rfl

example : parseCallReturnData (List.replicate 31 0 ++ [1]) = true := by decide

example : parseCallReturnData (List.replicate 32 0) = false := by decide

/-! ### The request -/

def bytesText (data : Bytes) : String :=
  String.ofList ('0' :: 'x' :: data.flatMap fun byte => hexDigits 2 byte.toNat)

section Request

variable (displayAddress : Address → String)

def customSimulationParams (method : String) (executor operator : Address) (calldata : Bytes)
    (gasQuote : GasQuote) : Json :=
  let call : Json := .object
    [("from", .string (displayAddress operator)),
      ("to", .string (displayAddress executor)),
      ("data", .string (bytesText calldata)),
      ("maxFeePerGas", .string (quantityText gasQuote.maxFeePerGas)),
      ("maxPriorityFeePerGas", .string (quantityText gasQuote.maxPriorityFeePerGas))]
  if method = "eth_simulateV1" then
    .array
      [.object
        [("blockStateCalls", .array
            [.object [("calls", .array [call]), ("stateOverrides", .object [])]]),
          ("traceTransfers", .bool false),
          ("validation", .bool false)],
        .string "pending"]
  else
    .array [call]

/-- How the chain answers the two kinds of simulation. -/
structure SimulationReplies where
  customSimulate : String → Json → Except RpcError Json
  ethCall : Address → Address → Bytes → String → Except RpcError Bytes

def simulate (simulateMethod : String) (replies : SimulationReplies) (executor operator : Address)
    (calldata : Bytes) (gasQuote : GasQuote) : SimulationOutcome :=
  if simulateMethod ≠ "eth_call" then
    match replies.customSimulate simulateMethod (customSimulationParams displayAddress
        simulateMethod executor operator calldata gasQuote) with
    | .ok result => parseSimulationResult result
    | .error err => .failed err
  else
    match replies.ethCall executor operator calldata "pending" with
    | .ok returnData => .ofFlag (parseCallReturnData returnData)
    | .error err => .failed err

end Request

end DexArbitrage
