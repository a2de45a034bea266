/-
This file proves what the JSON-RPC client keeps over every interleaving of the
requests made on it: any number of requests, resumed in any order and answered
in any way, with any time passing in between.

The breaker of an endpoint is open exactly when the history of the outcomes
recorded for it says so. A request visits its endpoints in a fixed order, in
rounds, and ends at the first endpoint that answers it or when all rounds are
done. And what is sent under a method is bounded by what the requests of that
method may send, to the primary endpoint only when the method is not idempotent.
-/

import DexArbitrage.Lib.FailureStreak
import DexArbitrage.Lib.Interleaving
import DexArbitrage.Rpc.Client

namespace DexArbitrage

section ClientRuns

abbrev RpcSystem : Type := Interleaved (RpcWorld) (RequestCall)

/-- Requests begin, are resumed, and time passes in milliseconds. -/
abbrev RpcEvent : Type :=
  InterleavedEvent (RequestArguments) (RequestReply) Nat

def RpcWorld.elapse (world : RpcWorld) (millis : Nat) : RpcWorld :=
  { world with clock := world.clock + millis }

def rpcStep (env : Environment) (client : RpcClient) :
    RpcSystem → RpcEvent → RpcSystem :=
  interleave beginRequest (resumeRequest env client) RpcWorld.elapse

/-- A new client, before any request. -/
def RpcSystem.start (clock : Instant) : RpcSystem where
  shared := { cells := .new, clock, recorded := [], sent := [], ended := [] }
  waiting := []

/-- What was recorded for a breaker, the latest outcome first. -/
def RpcWorld.history (world : RpcWorld) (key : String) : List Outcome :=
  (world.recorded.filter (·.1 = key)).map fun entry =>
    { failed := entry.2.1, recordedAt := entry.2.2 }

variable {env : Environment} {client : RpcClient}

/-! ### The breakers -/

/-- Every breaker agrees with what was recorded for it. -/
def BreakersAgree (env : Environment) (world : RpcWorld) : Prop :=
  ∀ key, TracksStreak u64Max (RpcCells.failureThreshold env) (RpcCells.openMs env)
    (world.cells.status key).consecutiveFailures (world.cells.status key).openUntil
    (world.history key) world.clock

theorem failureThreshold_pos (env : Environment) : 0 < RpcCells.failureThreshold env :=
  env.envU64_pos _ (by decide)

theorem failureThreshold_le (env : Environment) : RpcCells.failureThreshold env ≤ u64Max :=
  env.envU64_le _ (by decide)

theorem RpcWorld.history_cons (world : RpcWorld) (cells : RpcCells) (entryKey key : String)
    (failed : Bool) (recordedAt : Instant) :
    RpcWorld.history
        { world with cells, recorded := (entryKey, failed, recordedAt) :: world.recorded } key =
      if key = entryKey then { failed, recordedAt } :: world.history key
      else world.history key := by
  unfold RpcWorld.history
  by_cases same : key = entryKey
  · simp [same]
  · simp [same, Ne.symm same]

theorem BreakersAgree.elapse {world : RpcWorld} (agree : BreakersAgree env world)
    (millis : Nat) : BreakersAgree env (world.elapse millis) :=
  fun key => (agree key).elapse (Nat.le_add_right _ _)

/-- Looking at a breaker may only make it forget a deadline that has passed. -/
theorem BreakersAgree.visitNext {world : RpcWorld} (agree : BreakersAgree env world)
    (call : RequestCall) (endpoint : String) (rest : List String) :
    BreakersAgree env (call.visitNext endpoint rest world).1 := by
  have looked : BreakersAgree env { world with
      cells := (world.cells.endpointIsOpen world.clock endpoint call.method).2 } := by
    intro key
    rcases world.cells.status_endpointIsOpen world.clock endpoint call.method key with
      same | ⟨_, passed, forgotten⟩
    · show TracksStreak _ _ _ ((RpcCells.endpointIsOpen _ _ _ _).2.status key).consecutiveFailures
        ((RpcCells.endpointIsOpen _ _ _ _).2.status key).openUntil _ _
      rw [same]
      exact agree key
    · show TracksStreak _ _ _ ((RpcCells.endpointIsOpen _ _ _ _).2.status key).consecutiveFailures
        ((RpcCells.endpointIsOpen _ _ _ _).2.status key).openUntil _ _
      rw [forgotten]
      exact (agree key).forget passed
  unfold RequestCall.visitNext
  generalize world.cells.endpointIsOpen world.clock endpoint call.method = seen at looked
  obtain ⟨isOpen, cells⟩ := seen
  cases isOpen with
  | true => exact looked
  | false => exact looked

theorem BreakersAgree.fail {world : RpcWorld} (agree : BreakersAgree env world)
    (call : RequestCall) (endpoint : String) (rest : List String) (err : RpcError) :
    BreakersAgree env (call.fail env endpoint rest err world).1 := by
  intro key
  simp only [RequestCall.fail, RpcWorld.history_cons, RpcCells.status_recordEndpointFailure]
  split
  · exact (agree key).failure (failureThreshold_le env)
  · exact agree key

theorem BreakersAgree.receive {world : RpcWorld} (agree : BreakersAgree env world)
    (call : RequestCall) (endpoint : String) (rest : List String)
    (response : EndpointResponse) :
    BreakersAgree env (call.receive env endpoint rest response world).1 := by
  unfold RequestCall.receive
  split
  · intro key
    simp only [RequestCall.finish, RpcWorld.history, RpcCells.status_recordEndpointSuccess]
    have pushed := world.history_cons world.cells (endpointStatusKey endpoint call.method) key
      false world.clock
    unfold RpcWorld.history at pushed
    rw [pushed]
    split
    · exact TracksStreak.success (failureThreshold_pos env) _ _
    · exact agree key
  · split
    · exact agree.fail call endpoint rest _
    · exact agree

theorem BreakersAgree.resume {world : RpcWorld} (agree : BreakersAgree env world)
    (client : RpcClient) (call : RequestCall) (reply : RequestReply) :
    BreakersAgree env (resumeRequest env client call reply world).1 := by
  unfold resumeRequest
  split
  · exact agree
  · unfold RequestCall.endRound
    split
    · exact agree
    · exact agree
  · exact agree.visitNext call _ _
  · exact agree
  · exact agree.receive call _ _ _
  · exact agree.fail call _ _ _
  · exact agree

theorem breakersAgree_run (env : Environment) (client : RpcClient) (clock : Instant)
    (events : List RpcEvent) :
    Always (rpcStep env client)
      (InterleavedInvariant (BreakersAgree env) fun _ => True) (.start clock) events := by
  refine InterleavedInvariant.always ⟨fun key => TracksStreak.start _ _ _ _, fun _ _ => trivial⟩
    (fun _ _ => trivial) (fun world call reply agree _ => ?_) fun world millis agree =>
      agree.elapse millis
  exact ⟨agree.resume client call reply, fun _ _ => trivial⟩

/-- Whether an endpoint is passed over for a method, as the client decides it now. -/
def RpcSystem.PassesOver (system : RpcSystem) (endpoint method : String) : Prop :=
  (system.shared.cells.endpointIsOpen system.shared.clock endpoint method).1 = true

/-- After any interleaving of requests, an endpoint is passed over for a method exactly when the
latest outcomes recorded for the two, as many as the threshold or more, were failures without a
success in between, and the last of them is less than the open time ago. -/
theorem passesOver_iff (env : Environment) (client : RpcClient) (clock : Instant)
    (events : List RpcEvent) (endpoint method : String) :
    (runFrom (rpcStep env client) (.start clock) events).PassesOver endpoint method ↔
      TrippedAt (RpcCells.failureThreshold env) (RpcCells.openMs env)
        ((runFrom (rpcStep env client) (.start clock) events).shared.history
          (endpointStatusKey endpoint method))
        (runFrom (rpcStep env client) (.start clock) events).shared.clock := by
  have agree := (breakersAgree_run env client clock events).last.shared
  unfold RpcSystem.PassesOver
  rw [RpcCells.endpointIsOpen_fst]
  exact (agree _).isOpen _ le_rfl

/-! ### The course of one request -/

def Visit.endpoint : Visit → String
  | .skipped endpoint => endpoint
  | .failed endpoint _ => endpoint
  | .rejected endpoint _ => endpoint
  | .returned endpoint _ => endpoint

/-- The error of an endpoint that failed the request. -/
def Visit.failure? : Visit → Option RpcError
  | .failed _ err => some err
  | _ => none

/-- A visit after which the request goes on. -/
def Visit.goesOn : Visit → Bool
  | .skipped _ => true
  | .failed _ _ => true
  | _ => false

def lastFailure (visits : List (Visit)) : Option RpcError :=
  (visits.filterMap Visit.failure?).getLast?

/-- The endpoints of a number of rounds, in the order in which they are visited. -/
def roundsOf (client : RpcClient) (method : String) (count : Nat) : List String :=
  (List.replicate count (client.endpointsForMethod method)).flatten

/-- The endpoints a request still has to visit in its round. -/
def RequestPoint.remaining (endpoints : List String) : RequestPoint → List String
  | .round => endpoints
  | .next rest => rest
  | .budget endpoint rest => endpoint :: rest
  | .reply endpoint rest => endpoint :: rest

/-- A request that has not ended has visited a beginning of its rounds, and no visit ended it. -/
structure InProgress (env : Environment) (client : RpcClient) (call : RequestCall) :
    Prop where
  attempt : call.attempt ≤ rpcMaxRetries env call.method
  order : call.visits.map Visit.endpoint ++
      call.point.remaining (client.endpointsForMethod call.method) =
    roundsOf client call.method (call.attempt + 1)
  wentOn : ∀ visit ∈ call.visits, visit.goesOn = true
  lastError : call.lastError = lastFailure call.visits

/-- How a request ends: at the first endpoint that gives it a value or rejects it, or when every
endpoint has been skipped or has failed it in every round. -/
inductive Concludes (env : Environment) (client : RpcClient) (call : RequestCall) :
    Except RpcError Json → Prop
  | returned (earlier : List (Visit)) (endpoint : String) (value : Json)
      (visits : call.visits = earlier ++ [.returned endpoint value])
      (wentOn : ∀ visit ∈ earlier, visit.goesOn = true)
      (order : call.visits.map Visit.endpoint <+:
        roundsOf client call.method (rpcMaxRetries env call.method + 1))
      (present : value.isNull = false) :
      Concludes env client call (.ok value)
  | rejected (earlier : List (Visit)) (endpoint : String) (err : RpcError)
      (visits : call.visits = earlier ++ [.rejected endpoint err])
      (wentOn : ∀ visit ∈ earlier, visit.goesOn = true)
      (order : call.visits.map Visit.endpoint <+:
        roundsOf client call.method (rpcMaxRetries env call.method + 1))
      (spared : shouldRecordEndpointFailure call.method err = false) :
      Concludes env client call (.error err)
  | exhausted
      (wentOn : ∀ visit ∈ call.visits, visit.goesOn = true)
      (order : call.visits.map Visit.endpoint =
        roundsOf client call.method (rpcMaxRetries env call.method + 1)) :
      Concludes env client call
        (.error ((lastFailure call.visits).getD ("rpc request failed for " ++ call.method)))

theorem roundsOf_succ (client : RpcClient) (method : String) (count : Nat) :
    roundsOf client method (count + 1) =
      roundsOf client method count ++ client.endpointsForMethod method := by
  unfold roundsOf
  rw [List.replicate_succ', List.flatten_append, List.flatten_singleton]

theorem isPrefix_roundsOf (client : RpcClient) (method : String) {fewer more : Nat}
    (atMost : fewer ≤ more) : roundsOf client method fewer <+: roundsOf client method more := by
  induction atMost with
  | refl => exact List.prefix_rfl
  | step _ inductionHypothesis =>
    rw [roundsOf_succ]
    exact inductionHypothesis.trans (List.prefix_append _ _)

theorem inProgress_beginRequest (arguments : RequestArguments) :
    InProgress env client (beginRequest arguments) where
  attempt := Nat.zero_le _
  order := by simp [beginRequest, RequestPoint.remaining, roundsOf]
  wentOn := fun _ member => nomatch member
  lastError := rfl

section Progress

variable {call : RequestCall} {endpoint : String} {rest : List String}

/-- The endpoints up to the one being visited are a beginning of all rounds. -/
theorem InProgress.prefix_visit (progress : InProgress env client call)
    (point : call.point.remaining (client.endpointsForMethod call.method) = endpoint :: rest)
    {visit : Visit} (visited : visit.endpoint = endpoint) :
    (call.visits ++ [visit]).map Visit.endpoint <+:
      roundsOf client call.method (rpcMaxRetries env call.method + 1) := by
  have inRound : (call.visits ++ [visit]).map Visit.endpoint <+:
      roundsOf client call.method (call.attempt + 1) := by
    refine ⟨rest, ?_⟩
    rw [← progress.order, point, List.map_append, List.map_singleton, visited, List.append_assoc,
      List.singleton_append]
  exact inRound.trans (isPrefix_roundsOf client call.method (Nat.succ_le_succ progress.attempt))

/-- The request goes on to the endpoints after the one being visited. -/
theorem InProgress.pass (progress : InProgress env client call)
    (point : call.point.remaining (client.endpointsForMethod call.method) = endpoint :: rest)
    {visit : Visit} (visited : visit.endpoint = endpoint) (goesOn : visit.goesOn = true)
    {lastError : Option RpcError}
    (recorded : lastError = visit.failure?.or call.lastError) :
    InProgress env client
      { call with point := .next rest, lastError, visits := call.visits ++ [visit] } where
  attempt := progress.attempt
  order := by
    show (call.visits ++ [visit]).map Visit.endpoint ++ rest = _
    rw [← progress.order, point, List.map_append, List.map_singleton, visited, List.append_assoc,
      List.singleton_append]
  wentOn := by
    intro other member
    rcases List.mem_append.mp member with earlier | last
    · exact progress.wentOn other earlier
    · rw [List.mem_singleton.mp last]
      exact goesOn
  lastError := by
    show lastError = lastFailure (call.visits ++ [visit])
    rw [recorded, progress.lastError]
    unfold lastFailure
    rw [List.filterMap_append, List.getLast?_append]
    cases failed : visit.failure? with
    | none => simp [failed]
    | some err => simp [failed]

theorem InProgress.moved (progress : InProgress env client call) {point : RequestPoint}
    (same : point.remaining (client.endpointsForMethod call.method) =
      call.point.remaining (client.endpointsForMethod call.method)) :
    InProgress env client { call with point } where
  attempt := progress.attempt
  order := by
    show call.visits.map Visit.endpoint ++ point.remaining _ = _
    rw [same]
    exact progress.order
  wentOn := progress.wentOn
  lastError := progress.lastError

end Progress

/-- What a stretch makes of a request: it is still in progress, or it has ended as it should. -/
structure Continues (env : Environment) (client : RpcClient) (world : RpcWorld)
    (stretch : RpcWorld × Option RequestCall) : Prop where
  waits : ∀ next, stretch.2 = some next → InProgress env client next
  ended : ∀ entry ∈ stretch.1.ended, entry ∈ world.ended ∨ Concludes env client entry.1 entry.2

theorem Continues.of_waits {world after : RpcWorld} {next : RequestCall}
    (progress : InProgress env client next) (same : after.ended = world.ended) :
    Continues env client world (after, some next) where
  waits := fun _ equal => Option.some.inj equal ▸ progress
  ended := fun _ member => Or.inl (same ▸ member)

theorem Continues.of_finish {world before : RpcWorld} {call : RequestCall}
    {result : Except RpcError Json} (concludes : Concludes env client call result)
    (same : before.ended = world.ended) : Continues env client world (call.finish result before)
    where
  waits := fun _ equal => nomatch equal
  ended := by
    intro entry member
    rcases List.mem_cons.mp member with rfl | earlier
    · exact Or.inr concludes
    · exact Or.inl (same ▸ earlier)

section Stretches

variable {call : RequestCall} {endpoint : String} {rest : List String}

theorem InProgress.endRound (progress : InProgress env client call) (point : call.point = .next [])
    (world : RpcWorld) : Continues env client world (call.endRound env world) := by
  have order := progress.order
  rw [point, RequestPoint.remaining, List.append_nil] at order
  unfold RequestCall.endRound
  split
  · rename_i more
    refine Continues.of_waits ⟨more, ?_, progress.wentOn, progress.lastError⟩ rfl
    show call.visits.map Visit.endpoint ++ client.endpointsForMethod call.method = _
    rw [order, ← roundsOf_succ]
  · rename_i last
    have attempts : call.attempt = rpcMaxRetries env call.method :=
      Nat.le_antisymm progress.attempt (Nat.not_lt.mp last)
    rw [progress.lastError]
    exact Continues.of_finish (.exhausted progress.wentOn (attempts ▸ order)) rfl

theorem InProgress.visitNext (progress : InProgress env client call)
    (point : call.point = .next (endpoint :: rest)) (world : RpcWorld) :
    Continues env client world (call.visitNext endpoint rest world) := by
  have remaining : call.point.remaining (client.endpointsForMethod call.method) =
      endpoint :: rest := by rw [point, RequestPoint.remaining]
  unfold RequestCall.visitNext
  split
  · have visited : (Visit.skipped endpoint).endpoint = endpoint := rfl
    exact Continues.of_waits (progress.pass remaining visited rfl rfl) rfl
  · exact Continues.of_waits (progress.moved remaining.symm) rfl

theorem InProgress.fail (progress : InProgress env client call)
    (point : call.point = .reply endpoint rest) (err : RpcError) (world : RpcWorld) :
    Continues env client world (call.fail env endpoint rest err world) := by
  have remaining : call.point.remaining (client.endpointsForMethod call.method) =
      endpoint :: rest := by rw [point, RequestPoint.remaining]
  have visited : (Visit.failed endpoint err).endpoint = endpoint := rfl
  exact Continues.of_waits (progress.pass remaining visited rfl rfl) rfl

theorem InProgress.receive (progress : InProgress env client call)
    (point : call.point = .reply endpoint rest) (response : EndpointResponse)
    (world : RpcWorld) :
    Continues env client world (call.receive env endpoint rest response world) := by
  have remaining : call.point.remaining (client.endpointsForMethod call.method) =
      endpoint :: rest := by rw [point, RequestPoint.remaining]
  unfold RequestCall.receive
  split
  · rename_i value answered
    refine Continues.of_finish (.returned call.visits endpoint value rfl progress.wentOn ?_
      (requestOnce_ok answered)) rfl
    exact progress.prefix_visit remaining rfl
  · rename_i err _
    split
    · exact progress.fail point err world
    · rename_i spared
      refine Continues.of_finish (.rejected call.visits endpoint err rfl progress.wentOn ?_
        (Bool.eq_false_iff.mpr spared)) rfl
      exact progress.prefix_visit remaining rfl

theorem InProgress.resume (progress : InProgress env client call) (reply : RequestReply)
    (world : RpcWorld) :
    Continues env client world (resumeRequest env client call reply world) := by
  unfold resumeRequest
  split
  · rename_i point
    exact Continues.of_waits (progress.moved (by rw [point]; rfl)) rfl
  · rename_i point
    exact progress.endRound point world
  · rename_i point
    exact progress.visitNext point world
  · rename_i point
    exact Continues.of_waits (progress.moved (by rw [point]; rfl)) rfl
  · rename_i point
    exact progress.receive point _ world
  · rename_i point
    exact progress.fail point _ world
  · exact Continues.of_waits progress rfl

end Stretches

/-- The requests in progress keep to the order of their rounds in every state, and so do the ones
that have ended. -/
theorem always_inProgress (env : Environment) (client : RpcClient) (clock : Instant)
    (events : List RpcEvent) :
    Always (rpcStep env client)
      (InterleavedInvariant (fun world => ∀ entry ∈ world.ended,
        Concludes env client entry.1 entry.2) (InProgress env client)) (.start clock) events := by
  refine InterleavedInvariant.always
    ⟨fun _ member => (nomatch member), fun _ member => nomatch member⟩
    (fun arguments _ => inProgress_beginRequest arguments)
    (fun world call reply ended progress => ?_) fun _ _ ended => ended
  have continues := progress.resume reply world
  refine ⟨fun entry member => ?_, continues.waits⟩
  exact (continues.ended entry member).elim (ended entry) id

/-- After any interleaving, every request that has ended did so at the first endpoint that
answered it, in the order of its rounds, or with the last failure when every endpoint had been
skipped or had failed it in every round. -/
theorem request_concludes (env : Environment) (client : RpcClient) (clock : Instant)
    (events : List RpcEvent) :
    ∀ entry ∈ (runFrom (rpcStep env client) (.start clock) events).shared.ended,
      Concludes env client entry.1 entry.2 :=
  (always_inProgress env client clock events).last.shared

/-- A transaction is handed to an endpoint that does not answer in time. -/
def unansweredSubmit : List RpcEvent :=
  [.request { method := "eth_sendRawTransaction", params := .number "7" }, .reply 0 .scheduled,
    .reply 0 .scheduled, .reply 0 .scheduled, .perform 10000, .reply 0 .timedOut,
    .reply 0 .scheduled]

theorem request_concludes_unanswered :
    Concludes (fun _ => none) ⟨"primary", ["other"]⟩
      { method := "eth_sendRawTransaction", params := .number "7", attempt := 0, point := .next [],
        lastError := some "rpc timeout after 10s for method eth_sendRawTransaction",
        visits := [.failed "primary" "rpc timeout after 10s for method eth_sendRawTransaction"] }
      (.error "rpc timeout after 10s for method eth_sendRawTransaction") :=
  request_concludes (fun _ => none) ⟨"primary", ["other"]⟩ 0 unansweredSubmit (_, _)
    List.mem_cons_self

/-! ### What is sent -/

/-- How often a request may still be sent. -/
def RequestCall.sendsLeft (env : Environment) (client : RpcClient) (call : RequestCall) :
    Nat :=
  (rpcMaxRetries env call.method - call.attempt) *
      (client.endpointsForMethod call.method).length +
    match call.point with
    | .round => (client.endpointsForMethod call.method).length
    | .next rest => rest.length
    | .budget _ rest => rest.length + 1
    | .reply _ rest => rest.length

/-- How often something was sent under a method. -/
def RpcWorld.sentUnder (method : String) (world : RpcWorld) : Nat :=
  world.sent.countP (·.method = method)

/-- What a call counts for under a method. -/
def sendsLeftUnder (env : Environment) (client : RpcClient) (method : String)
    (call : RequestCall) : Nat :=
  if call.method = method then call.sendsLeft env client else 0

/-- How many requests of a method were made. -/
def requestsUnder (method : String) (events : List RpcEvent) : Nat :=
  events.countP fun event =>
    match event with
    | .request arguments => arguments.method = method
    | _ => false

/-- A stretch keeps what its call asks for, and each sending is one that was left. -/
structure SendsWithin (env : Environment) (client : RpcClient) (world : RpcWorld)
    (call : RequestCall) (stretch : RpcWorld × Option RequestCall) :
    Prop where
  asks : ∀ next, stretch.2 = some next → next.method = call.method ∧ next.params = call.params
  sent : (stretch.1.sent = world.sent ∧
      stretch.2.elim 0 (·.sendsLeft env client) ≤ call.sendsLeft env client) ∨
    ∃ request, request.method = call.method ∧ request.params = call.params ∧
      request.endpoint ∈ call.point.remaining (client.endpointsForMethod call.method) ∧
      stretch.1.sent = request :: world.sent ∧
      stretch.2.elim 0 (·.sendsLeft env client) + 1 ≤ call.sendsLeft env client

theorem SendsWithin.quiet {world after : RpcWorld} {call next : RequestCall}
    (asks : next.method = call.method ∧ next.params = call.params) (same : after.sent = world.sent)
    (within : next.sendsLeft env client ≤ call.sendsLeft env client) :
    SendsWithin env client world call (after, some next) where
  asks := fun _ equal => Option.some.inj equal ▸ asks
  sent := Or.inl ⟨same, within⟩

theorem SendsWithin.ends {world after : RpcWorld} {call : RequestCall}
    (same : after.sent = world.sent) : SendsWithin env client world call (after, none) where
  asks := fun _ equal => nomatch equal
  sent := Or.inl ⟨same, Nat.zero_le _⟩

/-- The endpoints a request still has to visit are ones of its method. -/
theorem InProgress.mem_endpoints {call : RequestCall}
    (progress : InProgress env client call) {endpoint : String}
    (member : endpoint ∈ call.point.remaining (client.endpointsForMethod call.method)) :
    endpoint ∈ client.endpointsForMethod call.method := by
  have inRounds : endpoint ∈ roundsOf client call.method (call.attempt + 1) := by
    rw [← progress.order]
    exact List.mem_append_right _ member
  obtain ⟨round, replicated, inRound⟩ := List.mem_flatten.mp inRounds
  exact (List.mem_replicate.mp replicated).2 ▸ inRound

theorem sendsWithin_fail {call : RequestCall} {endpoint : String} {rest : List String}
    (point : call.point = .reply endpoint rest) (err : RpcError) (world : RpcWorld) :
    SendsWithin env client world call (call.fail env endpoint rest err world) := by
  refine SendsWithin.quiet ⟨rfl, rfl⟩ rfl ?_
  simp only [RequestCall.sendsLeft, point]
  exact le_rfl

/-- What one stretch sends. -/
theorem sendsWithin_resumeRequest (call : RequestCall) (reply : RequestReply)
    (world : RpcWorld) :
    SendsWithin env client world call (resumeRequest env client call reply world) := by
  unfold resumeRequest
  split
  · rename_i point
    refine SendsWithin.quiet ⟨rfl, rfl⟩ rfl ?_
    simp only [RequestCall.sendsLeft, point]
    exact le_rfl
  · rename_i point
    unfold RequestCall.endRound
    split
    · rename_i more
      refine SendsWithin.quiet ⟨rfl, rfl⟩ rfl ?_
      obtain ⟨left, attempts⟩ : ∃ left, rpcMaxRetries env call.method - call.attempt = left + 1 :=
        ⟨rpcMaxRetries env call.method - call.attempt - 1, by omega⟩
      have fewer : rpcMaxRetries env call.method - (call.attempt + 1) = left := by omega
      simp only [RequestCall.sendsLeft, point, attempts, fewer, List.length_nil, Nat.succ_mul]
      exact le_rfl
    · exact SendsWithin.ends rfl
  · rename_i endpoint rest point
    unfold RequestCall.visitNext
    split
    · refine SendsWithin.quiet ⟨rfl, rfl⟩ rfl ?_
      simp only [RequestCall.sendsLeft, point, List.length_cons]
      omega
    · refine SendsWithin.quiet ⟨rfl, rfl⟩ rfl ?_
      simp only [RequestCall.sendsLeft, point, List.length_cons]
      exact le_rfl
  · rename_i endpoint rest point
    refine ⟨fun _ equal => Option.some.inj equal ▸ ⟨rfl, rfl⟩, Or.inr ⟨_, rfl, rfl, ?_, rfl, ?_⟩⟩
    · rw [point]
      exact List.mem_cons_self
    · simp only [RequestCall.sendsLeft, point, RequestCall.send, Option.elim]
      omega
  · rename_i point
    unfold RequestCall.receive
    split
    · exact SendsWithin.ends rfl
    · split
      · exact sendsWithin_fail point _ world
      · exact SendsWithin.ends rfl
  · rename_i point
    exact sendsWithin_fail point _ world
  · exact SendsWithin.quiet ⟨rfl, rfl⟩ rfl le_rfl

/-- The cost rule for one method. -/
theorem SendsWithin.cost_le {world : RpcWorld} {call : RequestCall}
    {stretch : RpcWorld × Option RequestCall}
    (within : SendsWithin env client world call stretch) (method : String) :
    stretch.1.sentUnder method + stretch.2.elim 0 (sendsLeftUnder env client method) ≤
      world.sentUnder method + sendsLeftUnder env client method call := by
  have left : stretch.2.elim 0 (sendsLeftUnder env client method) =
      if call.method = method then stretch.2.elim 0 (·.sendsLeft env client) else 0 := by
    cases next? : stretch.2 with
    | none => simp
    | some next => simp [sendsLeftUnder, (within.asks next next?).1]
  rw [left]
  unfold RpcWorld.sentUnder sendsLeftUnder
  rcases within.sent with ⟨same, fewer⟩ | ⟨request, own, _, _, sent, fewer⟩
  · rw [same]
    split
    · omega
    · omega
  · rw [sent, List.countP_cons, own]
    by_cases isMethod : call.method = method
    · simp only [isMethod, decide_true, if_true]
      omega
    · simp only [isMethod, decide_false, Bool.false_eq_true, if_false]
      omega

theorem sum_requestWeight (method : String) (events : List RpcEvent) :
    (events.map (requestWeight beginRequest (sendsLeftUnder env client method))).sum =
      requestsUnder method events *
        ((rpcMaxRetries env method + 1) * (client.endpointsForMethod method).length) := by
  induction events with
  | nil => simp [requestsUnder]
  | cons event rest inductionHypothesis =>
    have counted : requestsUnder method (event :: rest) =
        requestsUnder method rest + requestsUnder method [event] := by
      unfold requestsUnder
      rw [List.countP_cons, List.countP_singleton]
    have first : requestWeight beginRequest (sendsLeftUnder env client method) event =
        requestsUnder method [event] *
          ((rpcMaxRetries env method + 1) * (client.endpointsForMethod method).length) := by
      cases event with
      | request arguments =>
        by_cases own : arguments.method = method
        · subst own
          simp [requestWeight, sendsLeftUnder, requestsUnder, beginRequest, RequestCall.sendsLeft,
            Nat.succ_mul]
        · simp [requestWeight, sendsLeftUnder, requestsUnder, beginRequest, own]
      | reply position reply => simp [requestWeight, requestsUnder]
      | perform millis => simp [requestWeight, requestsUnder]
    rw [List.map_cons, List.sum_cons, inductionHypothesis, first, counted,
      Nat.add_mul (requestsUnder method rest), Nat.add_comm]

/-- The number of sendings under a method is bounded by what its requests may send. -/
theorem sentUnder_le (env : Environment) (client : RpcClient) (clock : Instant)
    (events : List RpcEvent) (method : String) :
    (runFrom (rpcStep env client) (.start clock) events).shared.sentUnder method ≤
      requestsUnder method events *
        ((rpcMaxRetries env method + 1) * (client.endpointsForMethod method).length) := by
  have bounded :
      (runFrom (rpcStep env client) (.start clock) events).shared.sentUnder method +
          waitingWeight (sendsLeftUnder env client method)
            (runFrom (rpcStep env client) (.start clock) events).waiting ≤
        0 + 0 + (events.map (requestWeight beginRequest (sendsLeftUnder env client method))).sum :=
    cost_runFrom_le beginRequest (resumeRequest env client) RpcWorld.elapse
      (RpcWorld.sentUnder method) (sendsLeftUnder env client method)
      (fun call reply world => (sendsWithin_resumeRequest call reply world).cost_le method)
      (fun _ _ => le_rfl) (RpcSystem.start clock) events
  rw [sum_requestWeight] at bounded
  omega

/-- Whatever is sent was requested, and goes to an endpoint of its method. -/
theorem sent_of_requested (env : Environment) (client : RpcClient) (clock : Instant)
    (events : List RpcEvent) :
    ∀ request ∈ (runFrom (rpcStep env client) (.start clock) events).shared.sent,
      .request { method := request.method, params := request.params } ∈ events ∧
        request.endpoint ∈ client.endpointsForMethod request.method := by
  have always : Always (rpcStep env client)
      (InterleavedInvariant
        (fun world => ∀ request ∈ world.sent,
          .request { method := request.method, params := request.params } ∈ events ∧
            request.endpoint ∈ client.endpointsForMethod request.method)
        fun call => .request { method := call.method, params := call.params } ∈ events ∧
          InProgress env client call)
      (.start clock) events := by
    refine InterleavedInvariant.always
      ⟨fun _ member => (nomatch member), fun _ member => nomatch member⟩
      (fun arguments member => ⟨member, inProgress_beginRequest arguments⟩)
      (fun world call reply sentBefore holds => ?_) fun _ _ sentBefore => sentBefore
    obtain ⟨requested, progress⟩ := holds
    have within : SendsWithin env client world call (resumeRequest env client call reply world) :=
      sendsWithin_resumeRequest call reply world
    constructor
    · intro request member
      rcases within.sent with ⟨same, _⟩ | ⟨latest, method, params, asked, sent, _⟩
      · exact sentBefore request (same ▸ member)
      · rw [sent] at member
        rcases List.mem_cons.mp member with rfl | earlier
        · rw [method, params]
          exact ⟨requested, progress.mem_endpoints asked⟩
        · exact sentBefore request earlier
    · intro next waits
      obtain ⟨method, params⟩ := within.asks next waits
      rw [method, params]
      exact ⟨requested, (progress.resume reply world).waits next waits⟩
  exact always.last.shared

/-- A method that hands a transaction to the network is sent to the primary endpoint only, and for
each request of it at most once more often than there are submit retries. -/
theorem submit_sent_primary (env : Environment) (client : RpcClient) (clock : Instant)
    (events : List RpcEvent) (method : String) (submits : method ∈ submitMethods) :
    (∀ request ∈ (runFrom (rpcStep env client) (.start clock) events).shared.sent,
        request.method = method → request.endpoint = client.url) ∧
      (runFrom (rpcStep env client) (.start clock) events).shared.sentUnder method ≤
        requestsUnder method events * (env.envUsize "RPC_SUBMIT_MAX_RETRIES" 0 + 1) := by
  have endpoints := client.endpointsForMethod_of_submit submits
  constructor
  · intro request member same
    have asked := (sent_of_requested env client clock events request member).2
    rw [same, endpoints] at asked
    exact List.mem_singleton.mp asked
  · have bounded := sentUnder_le env client clock events method
    have retries : rpcMaxRetries env method = env.envUsize "RPC_SUBMIT_MAX_RETRIES" 0 :=
      if_pos submits
    rwa [endpoints, List.length_singleton, Nat.mul_one, retries] at bounded

theorem unansweredSubmit_sent :
    (∀ request ∈ (runFrom (rpcStep (fun _ => none) ⟨"primary", ["other"]⟩) (.start 0)
        unansweredSubmit).shared.sent,
        request.method = "eth_sendRawTransaction" → request.endpoint = "primary") ∧
      (runFrom (rpcStep (fun _ => none) ⟨"primary", ["other"]⟩) (.start 0)
          unansweredSubmit).shared.sentUnder "eth_sendRawTransaction" ≤
        requestsUnder "eth_sendRawTransaction" unansweredSubmit *
          (Environment.envUsize (fun _ => none) "RPC_SUBMIT_MAX_RETRIES" 0 + 1) :=
  submit_sent_primary (fun _ => none) ⟨"primary", ["other"]⟩ 0 unansweredSubmit
    "eth_sendRawTransaction" List.mem_cons_self

end ClientRuns

end DexArbitrage
