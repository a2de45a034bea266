/-
This file is the JSON-RPC client: how it spreads a request over its endpoints
and over repeated rounds, which outcomes count against an endpoint, and the
circuit breaker it keeps for every method and endpoint.

A request is cut wherever it awaits or takes the lock of the endpoint table, so
that several requests on one client can be interleaved at these points. What
the network answers, and when, is an argument; the waiting time between two
rounds is left to the passing of time.
-/

import DexArbitrage.Rpc.Values

namespace DexArbitrage

/-! ### The environment -/

/-- The environment variables that parse as a `u64` (or a `usize`). -/
abbrev Environment := String → Option UInt64

namespace Environment

def envU64 (env : Environment) (key : String) (default : Nat) : Nat :=
  (((env key).map UInt64.toNat).filter fun value => 0 < value).getD default

def envUsize (env : Environment) (key : String) (default : Nat) : Nat :=
  ((env key).map UInt64.toNat).getD default

theorem envU64_pos (env : Environment) (key : String) {default : Nat} (positive : 0 < default) :
    0 < env.envU64 key default := by
  unfold envU64
  cases found : ((env key).map UInt64.toNat).filter fun value => 0 < value with
  | none => exact positive
  | some value => exact of_decide_eq_true (Option.filter_eq_some_iff.mp found).2

theorem envU64_le (env : Environment) (key : String) {default : Nat} (fits : default ≤ u64Max) :
    env.envU64 key default ≤ u64Max := by
  unfold envU64
  cases found : ((env key).map UInt64.toNat).filter fun value => 0 < value with
  | none => exact fits
  | some value =>
    obtain ⟨parsed, _, rfl⟩ := Option.map_eq_some_iff.mp (Option.filter_eq_some_iff.mp found).1
    exact Nat.le_pred_of_lt parsed.toNat_lt

end Environment

/-! ### Methods -/

/-- The methods that hand a transaction to the network. -/
def submitMethods : List String :=
  ["eth_sendRawTransaction", "eth_sendPrivateTransaction", "flashbots_sendBundle"]

def rpcIsIdempotent (method : String) : Bool :=
  method ∉ submitMethods

def rpcMaxRetries (env : Environment) (method : String) : Nat :=
  if method ∈ submitMethods then
    env.envUsize "RPC_SUBMIT_MAX_RETRIES" 0
  else if method ∈ ["eth_getLogs", "eth_getBlockReceipts"] then
    env.envUsize "RPC_LOG_MAX_RETRIES" 3
  else if method ∈ ["eth_call", "eth_estimateGas"] then
    env.envUsize "RPC_SIMULATION_MAX_RETRIES" 2
  else if method ∈ ["eth_getTransactionReceipt", "eth_getTransactionByHash"] then
    env.envUsize "RPC_RECEIPT_MAX_RETRIES" 2
  else
    env.envUsize "RPC_MAX_RETRIES" 1

/-- The time limit of one attempt, in milliseconds. -/
def rpcTimeout (env : Environment) (method : String) : Nat :=
  env.envU64 "RPC_REQUEST_TIMEOUT_MS"
    (if method ∈ ["eth_getLogs", "eth_getBlockReceipts"] then 60000
    else if method ∈ ["eth_call", "eth_estimateGas"] then 30000
    else if method ∈ ["eth_sendRawTransaction", "eth_sendPrivateTransaction"] then 10000
    else 20000)

/-- A number of milliseconds as a `Duration` is printed: in seconds from one second on, without
trailing zeros. -/
def debugMillis (millis : Nat) : String :=
  let fraction := millis % 1000
  if millis < 1000 then toString millis ++ "ms"
  else if fraction = 0 then toString (millis / 1000) ++ "s"
  else if fraction % 100 = 0 then
    toString (millis / 1000) ++ "." ++ toString (fraction / 100) ++ "s"
  else if fraction % 10 = 0 then
    toString (millis / 1000) ++ "." ++ toString (fraction / 100) ++ toString (fraction / 10 % 10) ++
      "s"
  else
    toString (millis / 1000) ++ "." ++ toString (fraction / 100) ++ toString (fraction / 10 % 10) ++
      toString (fraction % 10) ++ "s"

/-! ### What an endpoint answers -/

/-- The reply to one POST. A JSON-RPC response may have a field for its result. -/
inductive EndpointResponse
  | unsent
  | unread
  | httpError (status body : String)
  | invalidBody (body : String)
  | rpcError (code : Int) (message : String)
  | result (field : Option Json)

/-- What `request_once` makes of a reply. The result is an optional field, and `null` is read as
its absence. -/
def requestOnce (method : String) : EndpointResponse → Except RpcError Json
  | .unsent => .error ("rpc request failed for method " ++ method)
  | .unread => .error "failed to read rpc response body"
  | .httpError status body =>
    .error ("rpc http error " ++ status ++ " for method " ++ method ++ ": " ++ body)
  | .invalidBody body => .error ("invalid rpc response body: " ++ body)
  | .rpcError code message =>
    .error ("rpc error " ++ toString code ++ " " ++ message ++ " for method " ++ method)
  | .result none => .error "missing rpc result"
  | .result (some value) => if value.isNull then .error "missing rpc result" else .ok value

/-- A request never yields `null`. -/
theorem requestOnce_ok {method : String} {response : EndpointResponse} {value : Json}
    (answered : requestOnce method response = .ok value) : value.isNull = false := by
  unfold requestOnce at answered
  split at answered
  all_goals try cases answered
  split at answered
  · cases answered
  · rename_i present
    injection answered with same
    rw [← same]
    exact Bool.eq_false_iff.mpr present

/-- The text occurs in the message. -/
def textOccurs (text message : String) : Bool :=
  message.toList.tails.any fun tail => text.toList.isPrefixOf tail

/-- Whether an error counts against the endpoint and lets the next one be asked. An execution that
an endpoint has answered with a JSON-RPC error does not, unless the endpoint was short of
capacity. -/
def shouldRecordEndpointFailure (method : String) (err : RpcError) : Bool :=
  if method ∉ ["eth_call", "eth_estimateGas"] then
    true
  else
    let message := err.map Char.toLower
    if "rpc error".toList.isPrefixOf message.toList then
      textOccurs "rate limit" message || textOccurs "too many" message ||
        textOccurs "compute unit" message || textOccurs "capacity" message ||
        textOccurs "temporarily unavailable" message
    else
      true

/-! ### The client and its endpoint table -/

/-- What a client is made with. -/
structure RpcClient where
  url : String
  fallbackUrls : List String
  deriving DecidableEq, Repr

structure EndpointStatus where
  consecutiveFailures : Nat
  openUntil : Option Instant
  deriving DecidableEq, Repr

def EndpointStatus.default : EndpointStatus where
  consecutiveFailures := 0
  openUntil := none

/-- The cells of a client that requests change. -/
structure RpcCells where
  requestId : Nat
  endpointStatus : HashMap String EndpointStatus

def RpcCells.new : RpcCells where
  requestId := 1
  endpointStatus := ∅

def endpointStatusKey (endpoint method : String) : String :=
  method ++ " " ++ endpoint

def RpcClient.endpointsForMethod (client : RpcClient) (method : String) : List String :=
  if rpcIsIdempotent method then
    client.fallbackUrls.foldl
      (fun endpoints url => if url ∈ endpoints then endpoints else endpoints ++ [url]) [client.url]
  else
    [client.url]

namespace RpcCells

/-- Whether the breaker keeps the endpoint from being asked. A deadline that has passed is taken
away. -/
def endpointIsOpen (cells : RpcCells) (now : Instant) (endpoint method : String) :
    Bool × RpcCells :=
  match cells.endpointStatus.lookup (endpointStatusKey endpoint method) with
  | none => (false, cells)
  | some status =>
    match status.openUntil with
    | some until_ =>
      if now < until_ then
        (true, cells)
      else
        (false, { cells with
          endpointStatus := cells.endpointStatus.update (endpointStatusKey endpoint method)
            fun status => { status with openUntil := none } })
    | none => (false, cells)

def recordEndpointSuccess (cells : RpcCells) (endpoint method : String) : RpcCells :=
  { cells with
    endpointStatus :=
      cells.endpointStatus.insert (endpointStatusKey endpoint method) .default }

def failureThreshold (env : Environment) : Nat :=
  env.envU64 "RPC_PROVIDER_FAILURE_THRESHOLD" 3

/-- How long a breaker stays open, in milliseconds. -/
def openMs (env : Environment) : Nat :=
  env.envU64 "RPC_PROVIDER_CIRCUIT_OPEN_MS" 30000

def recordEndpointFailure (env : Environment) (cells : RpcCells) (now : Instant)
    (endpoint method : String) : RpcCells :=
  let key := endpointStatusKey endpoint method
  let entry := (cells.endpointStatus.lookup key).getD .default
  let consecutiveFailures := saturatingAdd u64Max entry.consecutiveFailures 1
  { cells with
    endpointStatus := cells.endpointStatus.insert key
      { consecutiveFailures
        openUntil :=
          if failureThreshold env ≤ consecutiveFailures then some (now + openMs env)
          else entry.openUntil } }

/-- The status of a key, which is the default one when there is none. -/
def status (cells : RpcCells) (key : String) : EndpointStatus :=
  (cells.endpointStatus.lookup key).getD .default

/-- Looking at a breaker answers whether its deadline is ahead, and takes away one that is not. -/
theorem endpointIsOpen_fst (cells : RpcCells) (now : Instant) (endpoint method : String) :
    (cells.endpointIsOpen now endpoint method).1 = true ↔
      ∃ until_ ∈ (cells.status (endpointStatusKey endpoint method)).openUntil, now < until_ := by
  unfold endpointIsOpen status
  cases found : cells.endpointStatus.lookup (endpointStatusKey endpoint method) with
  | none => simp [EndpointStatus.default]
  | some status =>
    obtain ⟨consecutiveFailures, openUntil⟩ := status
    cases openUntil with
    | none => simp
    | some until_ =>
      by_cases ahead : now < until_
      · simp [ahead]
      · simp [ahead]

/-- What looking at a breaker leaves of the status of a key. -/
theorem status_endpointIsOpen (cells : RpcCells) (now : Instant) (endpoint method key : String) :
    (cells.endpointIsOpen now endpoint method).2.status key = cells.status key ∨
      key = endpointStatusKey endpoint method ∧
        (∀ until_ ∈ (cells.status key).openUntil, until_ ≤ now) ∧
        (cells.endpointIsOpen now endpoint method).2.status key =
          { cells.status key with openUntil := none } := by
  unfold endpointIsOpen
  cases found : cells.endpointStatus.lookup (endpointStatusKey endpoint method) with
  | none => exact Or.inl rfl
  | some stored =>
    obtain ⟨consecutiveFailures, openUntil⟩ := stored
    cases openUntil with
    | none => exact Or.inl rfl
    | some until_ =>
      dsimp only
      split
      · exact Or.inl rfl
      · rename_i passed
        by_cases same : key = endpointStatusKey endpoint method
        · subst same
          refine Or.inr ⟨rfl, ?_, ?_⟩
          · simpa [status, found] using passed
          · simp [status, found]
        · refine Or.inl ?_
          simp [status, same]

theorem status_recordEndpointSuccess (cells : RpcCells) (endpoint method key : String) :
    (cells.recordEndpointSuccess endpoint method).status key =
      if key = endpointStatusKey endpoint method then .default else cells.status key := by
  simp only [status, recordEndpointSuccess, HashMap.lookup_insert]
  split <;> rfl

theorem status_recordEndpointFailure (env : Environment) (cells : RpcCells) (now : Instant)
    (endpoint method key : String) :
    (cells.recordEndpointFailure env now endpoint method).status key =
      if key = endpointStatusKey endpoint method then
        { consecutiveFailures := min ((cells.status key).consecutiveFailures + 1) u64Max
          openUntil :=
            if failureThreshold env ≤ min ((cells.status key).consecutiveFailures + 1) u64Max then
              some (now + openMs env)
            else (cells.status key).openUntil }
      else cells.status key := by
  simp only [status, recordEndpointFailure, HashMap.lookup_insert]
  split
  · rename_i same
    subst same
    rfl
  · rfl

end RpcCells

/-! ### Endpoints -/

namespace RpcClient

theorem endpointsForMethod_of_submit (client : RpcClient) {method : String}
    (submits : method ∈ submitMethods) : client.endpointsForMethod method = [client.url] := by
  unfold endpointsForMethod rpcIsIdempotent
  rw [if_neg (by simpa using submits)]

end RpcClient

/-! ### The course of a request -/

/-- Where a request stands: at the top of a round (where it may first sleep), before it looks at
the next endpoint, before it has its compute units, and before the endpoint has answered. -/
inductive RequestPoint
  | round
  | next (rest : List String)
  | budget (endpoint : String) (rest : List String)
  | reply (endpoint : String) (rest : List String)
  deriving DecidableEq, Repr

/-- What became of an endpoint a request came to. -/
inductive Visit
  | skipped (endpoint : String)
  | failed (endpoint : String) (err : RpcError)
  | rejected (endpoint : String) (err : RpcError)
  | returned (endpoint : String) (value : Json)

/-- A call of `request`, with a record of the endpoints it came to. -/
structure RequestCall where
  method : String
  params : Json
  attempt : Nat
  point : RequestPoint
  lastError : Option RpcError
  visits : List (Visit)

/-- A request that has been sent. -/
structure WireRequest where
  id : Nat
  endpoint : String
  method : String
  params : Json

/-- The cells of a client and the time; besides, the outcomes recorded for the endpoints, the
latest first, what has been sent, and how the calls ended. -/
structure RpcWorld where
  cells : RpcCells
  clock : Instant
  recorded : List (String × Bool × Instant)
  sent : List (WireRequest)
  ended : List (RequestCall × Except RpcError Json)

/-- What a request is resumed with. -/
inductive RequestReply
  | scheduled
  | answered (response : EndpointResponse)
  | timedOut

structure RequestArguments where
  method : String
  params : Json

def beginRequest (arguments : RequestArguments) : RequestCall where
  method := arguments.method
  params := arguments.params
  attempt := 0
  point := .round
  lastError := none
  visits := []

/-- The call ends. -/
def RequestCall.finish (call : RequestCall) (result : Except RpcError Json)
    (world : RpcWorld) : RpcWorld × Option (RequestCall) :=
  ({ world with ended := (call, result) :: world.ended }, none)

/-- All endpoints of a round have been visited. -/
def RequestCall.endRound (env : Environment) (call : RequestCall)
    (world : RpcWorld) : RpcWorld × Option (RequestCall) :=
  if call.attempt < rpcMaxRetries env call.method then
    (world, some { call with attempt := call.attempt + 1, point := .round })
  else
    call.finish (.error (call.lastError.getD ("rpc request failed for " ++ call.method))) world

/-- The request looks at the breaker of the next endpoint. -/
def RequestCall.visitNext (call : RequestCall) (endpoint : String) (rest : List String)
    (world : RpcWorld) : RpcWorld × Option (RequestCall) :=
  match world.cells.endpointIsOpen world.clock endpoint call.method with
  | (true, cells) =>
    ({ world with cells },
      some { call with point := .next rest, visits := call.visits ++ [.skipped endpoint] })
  | (false, cells) => ({ world with cells }, some { call with point := .budget endpoint rest })

/-- The request is sent under the next id of the client. -/
def RequestCall.send (call : RequestCall) (endpoint : String) (rest : List String)
    (world : RpcWorld) : RpcWorld × Option (RequestCall) :=
  ({ world with
      cells := { world.cells with requestId := (world.cells.requestId + 1) % 2 ^ 64 }
      sent := { id := world.cells.requestId, endpoint, method := call.method,
                params := call.params } :: world.sent },
    some { call with point := .reply endpoint rest })

/-- The endpoint failed the request: the failure is recorded, and the next endpoint is visited. -/
def RequestCall.fail (env : Environment) (call : RequestCall) (endpoint : String)
    (rest : List String) (err : RpcError) (world : RpcWorld) :
    RpcWorld × Option (RequestCall) :=
  ({ world with
      cells := world.cells.recordEndpointFailure env world.clock endpoint call.method
      recorded := (endpointStatusKey endpoint call.method, true, world.clock) :: world.recorded },
    some { call with
      point := .next rest
      lastError := some err
      visits := call.visits ++ [.failed endpoint err] })

/-- The reply of an endpoint is taken. -/
def RequestCall.receive (env : Environment) (call : RequestCall) (endpoint : String)
    (rest : List String) (response : EndpointResponse) (world : RpcWorld) :
    RpcWorld × Option (RequestCall) :=
  match requestOnce call.method response with
  | .ok value =>
    RequestCall.finish { call with visits := call.visits ++ [.returned endpoint value] } (.ok value)
      { world with
        cells := world.cells.recordEndpointSuccess endpoint call.method
        recorded :=
          (endpointStatusKey endpoint call.method, false, world.clock) :: world.recorded }
  | .error err =>
    if shouldRecordEndpointFailure call.method err then
      call.fail env endpoint rest err world
    else
      RequestCall.finish { call with visits := call.visits ++ [.rejected endpoint err] }
        (.error err) world

/-- One stretch of `request`. A reply of another kind is none the call waits for. -/
def resumeRequest (env : Environment) (client : RpcClient) (call : RequestCall)
    (reply : RequestReply) (world : RpcWorld) :
    RpcWorld × Option (RequestCall) :=
  match call.point, reply with
  | .round, .scheduled =>
    (world, some { call with point := .next (client.endpointsForMethod call.method) })
  | .next [], .scheduled => call.endRound env world
  | .next (endpoint :: rest), .scheduled => call.visitNext endpoint rest world
  | .budget endpoint rest, .scheduled => call.send endpoint rest world
  | .reply endpoint rest, .answered response => call.receive env endpoint rest response world
  | .reply endpoint rest, .timedOut =>
    call.fail env endpoint rest
      ("rpc timeout after " ++ debugMillis (rpcTimeout env call.method) ++ " for method " ++
        call.method) world
  | _, _ => (world, some call)

end DexArbitrage
