/-
This file is the submitter: through which channels a plan's transaction goes
out, in which order, and how its receipt is waited for. Each channel is asked by
a client of its own that has no fallbacks, so what a channel puts on the wire is
the run of one request on a new client.

Signing and the encoding of a transaction are not part of the repository; they
are parameters. The network answers each channel in any way and at any time, and
may leave it without an answer.
-/

import DexArbitrage.Engine.Candidate
import DexArbitrage.Rpc.ClientRuns

namespace DexArbitrage

structure SubmitSettings where
  chain : String
  chainId : Nat
  executorAddress : Option Address
  operatorPrivateKey : Option String
  publicRpcUrl : String
  fallbackRpcUrl : Option String
  protectedRpcUrl : Option String
  privateSubmitMethod : String
  allowPublicFallback : Bool

structure SubmitChannel where
  name : String
  url : String
  method : String
  deriving DecidableEq, Repr

def publicChannel (name url : String) : SubmitChannel :=
  { name, url, method := "eth_sendRawTransaction" }

def privateChannel (name url : String) (settings : SubmitSettings) : SubmitChannel :=
  { name, url, method := settings.privateSubmitMethod }

def SubmitSettings.channels (settings : SubmitSettings) : List SubmitChannel :=
  (match settings.protectedRpcUrl with
    | some url => [privateChannel (settings.chain ++ "-protected") url settings]
    | none => []) ++
  if settings.allowPublicFallback then
    publicChannel (settings.chain ++ "-public") settings.publicRpcUrl ::
      match settings.fallbackRpcUrl with
      | some url => [publicChannel (settings.chain ++ "-fallback") url]
      | none => []
  else
    []

/-- The fields of the transaction that carries a plan. -/
structure TransactionRequest where
  recipient : Address
  nonce : Nat
  chainId : Nat
  input : Bytes
  gasLimit : Nat
  maxPriorityFeePerGas : Nat
  maxFeePerGas : Nat
  deriving DecidableEq, Repr

/-- What the wallet library does: read a key, read a URL, and sign and encode a transaction; and how
a hash is read. -/
structure Wallet (Signer : Type) where
  parseKey : String → Except RpcError Signer
  parseUrl : String → Except RpcError Unit
  encode : Signer → TransactionRequest → Except RpcError String
  parseHash : String → Except RpcError B256

def sendRawTransactionParams (method rawTx : String) : Json :=
  if method = "eth_sendPrivateTransaction" then
    .array [.object [("tx", .string rawTx)]]
  else
    .array [.string rawTx]

structure ChannelStats where
  submitted : Nat
  failed : Nat
  deriving DecidableEq, Repr

/-- The statistics of the submitter, what has been sent through which channel, and the result once
there is one. -/
structure SubmitRun where
  stats : HashMap String ChannelStats
  wire : List (SubmitChannel × WireRequest)
  result : Option (Except RpcError SubmissionResult)

def channelStats (stats : HashMap String ChannelStats) (channel : String) : ChannelStats :=
  (stats.lookup channel).getD ⟨0, 0⟩

def bumpSuccess (stats : HashMap String ChannelStats) (channel : String) :
    HashMap String ChannelStats :=
  let entry := channelStats stats channel
  stats.insert channel { entry with submitted := entry.submitted + 1 }

def bumpFailure (stats : HashMap String ChannelStats) (channel : String) :
    HashMap String ChannelStats :=
  let entry := channelStats stats channel
  stats.insert channel { entry with failed := entry.failed + 1 }

/-- How the network treats a channel: replies, and the time that passes before each. -/
abbrev Network : Type := SubmitChannel → List (Nat × RequestReply)

def networkEvents (replies : List (Nat × RequestReply)) : List RpcEvent :=
  replies.flatMap fun reply => [.perform reply.1, .reply 0 reply.2]

/-- One request on a new client for the channel. -/
def exchange (env : Environment) (network : Network) (channel : SubmitChannel) (rawTx : String) :
    RpcSystem :=
  runFrom (rpcStep env { url := channel.url, fallbackUrls := [] }) (.start 0)
    (.request { method := channel.method,
                params := sendRawTransactionParams channel.method rawTx } ::
      networkEvents (network channel))

section Submit

variable {Signer : Type} (env : Environment) (wallet : Wallet Signer) (network : Network)

/-- What a channel puts on the wire, in order. -/
def channelWire (rawTx : String) (channel : SubmitChannel) : List (SubmitChannel × WireRequest) :=
  (exchange env network channel rawTx).shared.sent.reverse.map fun request => (channel, request)

/-- The hash a channel answers with, or its error; none while it has not answered. -/
def channelAnswer (rawTx : String) (channel : SubmitChannel) : Option (Except RpcError B256) :=
  (exchange env network channel rawTx).shared.ended.head?.map fun entry =>
    entry.2.bind (parseTxHashResult wallet.parseHash)

/-- The loop over the channels. It stops without a result while a channel has not answered. -/
def submitThrough (signer : Signer) (tx : TransactionRequest) :
    List SubmitChannel → SubmitRun → SubmitRun
  | [], run => { run with result := some (.error "all submit channels failed") }
  | channel :: rest, run =>
    match wallet.parseUrl channel.url, wallet.encode signer tx with
    | .error err, _ => { run with result := some (.error err) }
    | .ok _, .error err => { run with result := some (.error err) }
    | .ok _, .ok rawTx =>
      let wire := run.wire ++ channelWire env network rawTx channel
      match channelAnswer env wallet network rawTx channel with
      | none => { run with wire }
      | some (.ok txHash) =>
        { stats := bumpSuccess run.stats channel.name, wire
          result := some (.ok { txHash, channel := channel.name }) }
      | some (.error _) =>
        submitThrough signer tx rest
          { run with stats := bumpFailure run.stats channel.name, wire }

def transactionFor (settings : SubmitSettings) (executor : Address) (plan : ExecutablePlan) :
    TransactionRequest where
  recipient := executor
  nonce := plan.nonce
  chainId := settings.chainId
  input := plan.calldata
  gasLimit := plan.exact.gasLimit
  maxPriorityFeePerGas := plan.maxPriorityFeePerGas
  maxFeePerGas := plan.maxFeePerGas

def submit (settings : SubmitSettings) (stats : HashMap String ChannelStats)
    (plan : ExecutablePlan) : SubmitRun :=
  match settings.executorAddress with
  | none => { stats, wire := [], result := some (.error "executor address missing") }
  | some executor =>
    match settings.operatorPrivateKey with
    | none => { stats, wire := [], result := some (.error "OPERATOR_PRIVATE_KEY missing") }
    | some key =>
      match wallet.parseKey key with
      | .error err => { stats, wire := [], result := some (.error err) }
      | .ok signer =>
        submitThrough env wallet network signer (transactionFor settings executor plan)
          settings.channels { stats, wire := [], result := none }

end Submit

/-! ### What is sent -/

theorem mem_channels {settings : SubmitSettings} {channel : SubmitChannel} :
    channel ∈ settings.channels ↔
      (∃ url, settings.protectedRpcUrl = some url ∧
          channel = privateChannel (settings.chain ++ "-protected") url settings) ∨
        settings.allowPublicFallback = true ∧
          (channel = publicChannel (settings.chain ++ "-public") settings.publicRpcUrl ∨
            ∃ url, settings.fallbackRpcUrl = some url ∧
              channel = publicChannel (settings.chain ++ "-fallback") url) := by
  unfold SubmitSettings.channels
  rw [List.mem_append]
  refine or_congr ?_ ?_
  · cases settings.protectedRpcUrl with
    | none => simp
    | some url => simp
  · cases settings.allowPublicFallback with
    | false => simp
    | true =>
      cases settings.fallbackRpcUrl with
      | none => simp
      | some url => simp

theorem endpointsForMethod_of_alone (url method : String) :
    RpcClient.endpointsForMethod { url, fallbackUrls := [] } method = [url] := by
  unfold RpcClient.endpointsForMethod
  split <;> rfl

/-- What a channel puts on the wire is its request, to its own URL. -/
theorem sent_exchange {env : Environment} {network : Network} {channel : SubmitChannel}
    {rawTx : String} {request : WireRequest}
    (member : request ∈ (exchange env network channel rawTx).shared.sent) :
    request.endpoint = channel.url ∧ request.method = channel.method ∧
      request.params = sendRawTransactionParams channel.method rawTx := by
  obtain ⟨requested, asked⟩ := sent_of_requested env _ 0 _ request member
  rw [endpointsForMethod_of_alone] at asked
  refine ⟨List.mem_singleton.mp asked, ?_⟩
  rcases List.mem_cons.mp requested with same | reply
  · injection same with same
    injection same with method params
    exact ⟨method, params⟩
  · obtain ⟨answer, _, event⟩ := List.mem_flatMap.mp reply
    simp at event

/-- A channel sends no more often than its method is tried. -/
theorem length_sent_exchange (env : Environment) (network : Network) (channel : SubmitChannel)
    (rawTx : String) :
    (exchange env network channel rawTx).shared.sent.length ≤
      rpcMaxRetries env channel.method + 1 := by
  have all : (exchange env network channel rawTx).shared.sentUnder channel.method =
      (exchange env network channel rawTx).shared.sent.length := by
    refine List.countP_eq_length.mpr fun request member => ?_
    exact decide_eq_true (sent_exchange member).2.1
  have once : requestsUnder channel.method
      (.request { method := channel.method,
                  params := sendRawTransactionParams channel.method rawTx } ::
        networkEvents (network channel)) = 1 := by
    have others : requestsUnder channel.method (networkEvents (network channel)) = 0 := by
      refine List.countP_eq_zero.mpr fun event member => ?_
      obtain ⟨answer, _, event⟩ := List.mem_flatMap.mp member
      rcases List.mem_cons.mp event with rfl | last
      · exact Bool.false_ne_true
      · rw [List.mem_singleton.mp last]
        exact Bool.false_ne_true
    unfold requestsUnder at others ⊢
    rw [List.countP_cons, others]
    simp
  have bounded := sentUnder_le env { url := channel.url, fallbackUrls := [] } 0
    (.request { method := channel.method,
                params := sendRawTransactionParams channel.method rawTx } ::
      networkEvents (network channel)) channel.method
  rw [once, endpointsForMethod_of_alone, List.length_singleton, Nat.mul_one, Nat.one_mul] at bounded
  rw [← all]
  exact bounded

theorem SubmitSettings.channels_nodup (settings : SubmitSettings) : settings.channels.Nodup := by
  have names (suffix other : String) (different : suffix ≠ other) :
      settings.chain ++ suffix ≠ settings.chain ++ other := fun same =>
    different (String.append_right_inj settings.chain |>.mp same)
  have protectedFirst := names "-protected" "-public" (by decide)
  have protectedSecond := names "-protected" "-fallback" (by decide)
  have publicFirst := names "-public" "-fallback" (by decide)
  unfold SubmitSettings.channels
  cases settings.protectedRpcUrl with
  | none =>
    cases settings.allowPublicFallback with
    | false => simp
    | true =>
      cases settings.fallbackRpcUrl with
      | none => simp
      | some url => simp [publicChannel, publicFirst]
  | some protectedUrl =>
    cases settings.allowPublicFallback with
    | false => simp
    | true =>
      cases settings.fallbackRpcUrl with
      | none => simp [publicChannel, privateChannel, protectedFirst]
      | some url =>
        simp [publicChannel, privateChannel, protectedFirst, protectedSecond, publicFirst]

section Submit

variable {Signer : Type} {env : Environment} {wallet : Wallet Signer} {network : Network}
  {signer : Signer} {tx : TransactionRequest}

/-- A channel that answers with an error, after which the next one is asked. -/
def Refuses (env : Environment) (wallet : Wallet Signer) (network : Network) (rawTx : String)
    (channel : SubmitChannel) : Prop :=
  ∃ err, channelAnswer env wallet network rawTx channel = some (.error err)

/-- The channels that were asked are a beginning of the list, and what was sent is what they sent,
one after the other. -/
theorem wire_submitThrough (channels : List SubmitChannel) (run : SubmitRun) :
    ∃ asked, asked <+: channels ∧
      ((submitThrough env wallet network signer tx channels run).wire = run.wire ∧ asked = [] ∨
        ∃ rawTx, wallet.encode signer tx = .ok rawTx ∧
          (submitThrough env wallet network signer tx channels run).wire =
            run.wire ++ asked.flatMap (channelWire env network rawTx)) := by
  induction channels generalizing run with
  | nil => exact ⟨[], List.prefix_rfl, Or.inl ⟨rfl, rfl⟩⟩
  | cons channel rest inductionHypothesis =>
    unfold submitThrough
    split
    · exact ⟨[], List.nil_prefix, Or.inl ⟨rfl, rfl⟩⟩
    · exact ⟨[], List.nil_prefix, Or.inl ⟨rfl, rfl⟩⟩
    · rename_i rawTx _ encoded
      have only : [channel] <+: channel :: rest := ⟨rest, rfl⟩
      have one : [channel].flatMap (channelWire env network rawTx) =
          channelWire env network rawTx channel := List.flatMap_singleton _ _
      split
      · exact ⟨[channel], only, Or.inr ⟨rawTx, encoded, by rw [one]⟩⟩
      · exact ⟨[channel], only, Or.inr ⟨rawTx, encoded, by rw [one]⟩⟩
      · rename_i err _
        obtain ⟨asked, isPrefix, sent⟩ := inductionHypothesis
          { run with
            stats := bumpFailure run.stats channel.name
            wire := run.wire ++ channelWire env network rawTx channel }
        refine ⟨channel :: asked, List.cons_prefix_cons.mpr ⟨rfl, isPrefix⟩, Or.inr ?_⟩
        refine ⟨rawTx, encoded, ?_⟩
        rcases sent with ⟨nothing, rfl⟩ | ⟨other, same, sent⟩
        · rw [nothing, one]
        · obtain rfl : other = rawTx := by
            rw [encoded] at same
            injection same with same
            exact same.symm
          rw [sent, List.flatMap_cons, List.append_assoc]

/-- A result comes from the first channel that has not refused. -/
theorem result_submitThrough {channels : List SubmitChannel} {run : SubmitRun}
    {result : SubmissionResult} (pending : run.result = none)
    (accepted : (submitThrough env wallet network signer tx channels run).result =
      some (.ok result)) :
    ∃ rawTx earlier channel later, wallet.encode signer tx = .ok rawTx ∧
      channels = earlier ++ channel :: later ∧ result.channel = channel.name ∧
      channelAnswer env wallet network rawTx channel = some (.ok result.txHash) ∧
      (∀ other ∈ earlier, Refuses env wallet network rawTx other) ∧
      (submitThrough env wallet network signer tx channels run).wire =
        run.wire ++ (earlier ++ [channel]).flatMap (channelWire env network rawTx) := by
  induction channels generalizing run with
  | nil => cases accepted
  | cons channel rest inductionHypothesis =>
    unfold submitThrough at accepted ⊢
    split at accepted
    · cases accepted
    · cases accepted
    · rename_i rawTx _ encoded
      dsimp only at accepted ⊢
      split at accepted
      · rw [pending] at accepted
        cases accepted
      · rename_i txHash answered
        injection accepted with accepted
        injection accepted with same
        subst same
        refine ⟨rawTx, [], channel, rest, encoded, rfl, rfl, answered, ?_, ?_⟩
        · exact fun _ member => nomatch member
        · rw [List.nil_append, List.flatMap_singleton]
      · rename_i err answered
        have stillPending : ({ run with
            stats := bumpFailure run.stats channel.name
            wire := run.wire ++ channelWire env network rawTx channel } : SubmitRun).result =
              none := pending
        obtain ⟨other, earlier, accepting, later, same, split, named, hash, refused, sent⟩ :=
          inductionHypothesis stillPending accepted
        obtain rfl : other = rawTx := by
          rw [encoded] at same
          injection same with same
          exact same.symm
        refine ⟨other, channel :: earlier, accepting, later, encoded, ?_, named, hash, ?_, ?_⟩
        · rw [split, List.cons_append]
        · rintro refusing member
          rcases List.mem_cons.mp member with rfl | inRest
          · exact ⟨err, answered⟩
          · exact refused refusing inRest
        · rw [sent, List.cons_append, List.flatMap_cons, List.append_assoc]

end Submit

/-! ### Every submission -/

section Submission

variable {Signer : Type}

/-- An entry of the wire that carries the transaction of a plan through an allowed channel. -/
def CarriesPlan (wallet : Wallet Signer) (settings : SubmitSettings) (plan : ExecutablePlan)
    (entry : SubmitChannel × WireRequest) : Prop :=
  (some entry.2.endpoint = settings.protectedRpcUrl ∨
      settings.allowPublicFallback = true ∧
        (entry.2.endpoint = settings.publicRpcUrl ∨
          some entry.2.endpoint = settings.fallbackRpcUrl)) ∧
    ∃ executor key signer rawTx, settings.executorAddress = some executor ∧
      settings.operatorPrivateKey = some key ∧ wallet.parseKey key = .ok signer ∧
      wallet.encode signer (transactionFor settings executor plan) = .ok rawTx ∧
      entry.2.params = sendRawTransactionParams entry.2.method rawTx

theorem mem_channelWire {env : Environment} {network : Network} {rawTx : String}
    {channel : SubmitChannel} {entry : SubmitChannel × WireRequest}
    (member : entry ∈ channelWire env network rawTx channel) :
    entry.1 = channel ∧ entry.2.endpoint = channel.url ∧ entry.2.method = channel.method ∧
      entry.2.params = sendRawTransactionParams channel.method rawTx := by
  obtain ⟨request, sent, rfl⟩ := List.mem_map.mp member
  exact ⟨rfl, sent_exchange (List.mem_reverse.mp sent)⟩

/-- Of what the channels sent one after the other, one channel sent no more than its method is
tried. -/
theorem countP_flatMap_channelWire_le (env : Environment) (network : Network) (rawTx : String)
    {asked : List SubmitChannel} (nodup : asked.Nodup) (channel : SubmitChannel) :
    (asked.flatMap (channelWire env network rawTx)).countP (·.1 = channel) ≤
      rpcMaxRetries env channel.method + 1 := by
  induction asked with
  | nil => exact Nat.zero_le _
  | cons first rest inductionHypothesis =>
    obtain ⟨absent, nodupRest⟩ := List.nodup_cons.mp nodup
    rw [List.flatMap_cons, List.countP_append]
    by_cases same : first = channel
    · subst same
      have own : (channelWire env network rawTx first).countP (·.1 = first) ≤
          rpcMaxRetries env first.method + 1 := by
        refine List.countP_le_length.trans ?_
        rw [channelWire, List.length_map, List.length_reverse]
        exact length_sent_exchange env network first rawTx
      have others : (rest.flatMap (channelWire env network rawTx)).countP (·.1 = first) = 0 := by
        refine List.countP_eq_zero.mpr fun entry member => ?_
        obtain ⟨other, inRest, sent⟩ := List.mem_flatMap.mp member
        intro isFirst
        refine absent ?_
        rw [← of_decide_eq_true isFirst, (mem_channelWire sent).1]
        exact inRest
      omega
    · have none_ : (channelWire env network rawTx first).countP (·.1 = channel) = 0 := by
        refine List.countP_eq_zero.mpr fun entry sent => ?_
        intro isChannel
        exact same ((mem_channelWire sent).1.symm.trans (of_decide_eq_true isChannel))
      have := inductionHypothesis nodupRest
      omega

theorem carriesPlan_of_channelWire {env : Environment} {wallet : Wallet Signer}
    {network : Network} {settings : SubmitSettings} {plan : ExecutablePlan} {executor : Address}
    {key rawTx : String} {signer : Signer} (hasExecutor : settings.executorAddress = some executor)
    (hasKey : settings.operatorPrivateKey = some key) (parses : wallet.parseKey key = .ok signer)
    (encodes : wallet.encode signer (transactionFor settings executor plan) = .ok rawTx)
    {channel : SubmitChannel} (configured : channel ∈ settings.channels)
    {entry : SubmitChannel × WireRequest} (sent : entry ∈ channelWire env network rawTx channel) :
    CarriesPlan wallet settings plan entry := by
  obtain ⟨_, endpoint, method, params⟩ := mem_channelWire sent
  refine ⟨?_, executor, key, signer, rawTx, hasExecutor, hasKey, parses, encodes, ?_⟩
  · rw [endpoint]
    rcases mem_channels.mp configured with ⟨url, protectedUrl, rfl⟩ | ⟨allowed, public_⟩
    · exact Or.inl protectedUrl.symm
    · refine Or.inr ⟨allowed, ?_⟩
      rcases public_ with rfl | ⟨url, fallbackUrl, rfl⟩
      · exact Or.inl rfl
      · exact Or.inr fallbackUrl.symm
  · rw [params, method]

/-- However the network treats the channels, whatever a submission sends is the one signed
transaction of its plan, through the protected endpoint or, only when that is allowed, a public
one, and through no channel more often than the method of the channel is tried. -/
theorem submit_sends (env : Environment) (wallet : Wallet Signer) (network : Network)
    (settings : SubmitSettings) (stats : HashMap String ChannelStats) (plan : ExecutablePlan) :
    (∀ entry ∈ (submit env wallet network settings stats plan).wire,
        CarriesPlan wallet settings plan entry) ∧
      ∀ channel, (submit env wallet network settings stats plan).wire.countP (·.1 = channel) ≤
        rpcMaxRetries env channel.method + 1 := by
  unfold submit
  split
  · exact ⟨fun _ member => (nomatch member), fun _ => Nat.zero_le _⟩
  · rename_i executor hasExecutor
    split
    · exact ⟨fun _ member => (nomatch member), fun _ => Nat.zero_le _⟩
    · rename_i key hasKey
      split
      · exact ⟨fun _ member => (nomatch member), fun _ => Nat.zero_le _⟩
      · rename_i signer parses
        obtain ⟨asked, isPrefix, ⟨nothing, _⟩ | ⟨rawTx, encodes, sent⟩⟩ :=
          wire_submitThrough settings.channels { stats, wire := [], result := none }
        · rw [nothing]
          exact ⟨fun _ member => (nomatch member), fun _ => Nat.zero_le _⟩
        · rw [sent, List.nil_append]
          refine ⟨fun entry member => ?_, fun channel => ?_⟩
          · obtain ⟨channel, wasAsked, sentBy⟩ := List.mem_flatMap.mp member
            exact carriesPlan_of_channelWire hasExecutor hasKey parses encodes
              (isPrefix.subset wasAsked) sentBy
          · exact countP_flatMap_channelWire_le env network rawTx
              (isPrefix.sublist.nodup settings.channels_nodup) channel

/-- A submission that succeeds names the first channel that has not refused the transaction; the
channels before it have refused it, and none after it has been asked. -/
theorem submit_accepted {env : Environment} {wallet : Wallet Signer} {network : Network}
    {settings : SubmitSettings} {stats : HashMap String ChannelStats} {plan : ExecutablePlan}
    {result : SubmissionResult}
    (accepted : (submit env wallet network settings stats plan).result = some (.ok result)) :
    ∃ rawTx earlier channel later, settings.channels = earlier ++ channel :: later ∧
      result.channel = channel.name ∧
      channelAnswer env wallet network rawTx channel = some (.ok result.txHash) ∧
      (∀ other ∈ earlier, Refuses env wallet network rawTx other) ∧
      (submit env wallet network settings stats plan).wire =
        (earlier ++ [channel]).flatMap (channelWire env network rawTx) := by
  unfold submit at accepted ⊢
  split at accepted
  · cases accepted
  · split at accepted
    · cases accepted
    · split at accepted
      · cases accepted
      · obtain ⟨rawTx, earlier, channel, later, _, split, named, answered, refused, sent⟩ :=
          result_submitThrough rfl accepted
        exact ⟨rawTx, earlier, channel, later, split, named, answered, refused, sent⟩

end Submission

/-- A protected channel that is out of order, and a public one that may stand in. -/
def sampleSettings : SubmitSettings where
  chain := "base"
  chainId := 8453
  executorAddress := some 0x11
  operatorPrivateKey := some "key"
  publicRpcUrl := "public"
  fallbackRpcUrl := none
  protectedRpcUrl := some "protected"
  privateSubmitMethod := "eth_sendPrivateTransaction"
  allowPublicFallback := true

def sampleWallet : Wallet Unit where
  parseKey := fun _ => .ok ()
  parseUrl := fun _ => .ok ()
  encode := fun _ _ => .ok "0x02"
  parseHash := fun _ => .ok 7

def sampleNetwork : Network := fun channel =>
  [(0, .scheduled), (0, .scheduled), (0, .scheduled),
    (20, .answered (if channel.url = "public" then .result (some (.string "0x07"))
      else .rpcError (-32000) "busy")), (0, .scheduled)]

theorem submit_accepted_sample :
    ∃ rawTx earlier channel later, sampleSettings.channels = earlier ++ channel :: later ∧
      "base-public" = channel.name ∧
      channelAnswer (fun _ => none) sampleWallet sampleNetwork rawTx channel = some (.ok 7) ∧
      (∀ other ∈ earlier, Refuses (fun _ => none) sampleWallet sampleNetwork rawTx other) ∧
      (submit (fun _ => none) sampleWallet sampleNetwork sampleSettings ∅ default).wire =
        (earlier ++ [channel]).flatMap (channelWire (fun _ => none) sampleNetwork rawTx) :=
  submit_accepted (rfl : (submit (fun _ => none) sampleWallet sampleNetwork sampleSettings ∅
    default).result = some (.ok { txHash := 7, channel := "base-public" }))

/-! ### Receipts -/

/-- What `wait_for_receipt` returns, from what each poll is answered with and the time that has
passed when the answer is there. -/
def waitForReceipt (timeout : Nat) :
    List (Except RpcError Json × Nat) → Option (Except RpcError ReceiptOutcome)
  | [] => none
  | (reply, elapsed) :: later =>
    match reply.bind parseReceiptStatus with
    | .error err => some (.error err)
    | .ok (some true) => some (.ok .included)
    | .ok (some false) => some (.ok .reverted)
    | .ok none => if timeout ≤ elapsed then some (.ok .timedOut) else waitForReceipt timeout later

/-- The polls of a receipt are answered by requests on a client, whatever else the client does. A
pending receipt is `null`, which a request reports as an error; so the first poll decides, and the
wait never ends with a time-out. -/
theorem waitForReceipt_first_poll (env : Environment) (client : RpcClient) (clock : Instant)
    (events : List RpcEvent) (timeout : Nat) (polls : List (Except RpcError Json × Nat))
    (answered : ∀ poll ∈ polls, ∃ entry ∈
      (runFrom (rpcStep env client) (.start clock) events).shared.ended, entry.2 = poll.1) :
    waitForReceipt timeout polls = waitForReceipt timeout (polls.take 1) ∧
      waitForReceipt timeout polls ≠ some (.ok .timedOut) := by
  cases polls with
  | nil => exact ⟨rfl, nofun⟩
  | cons poll later =>
    obtain ⟨reply, elapsed⟩ := poll
    obtain ⟨entry, ended, same⟩ := answered (reply, elapsed) List.mem_cons_self
    have concludes := (always_inProgress env client clock events).last.shared entry ended
    rw [same] at concludes
    have decided : reply.bind parseReceiptStatus ≠ .ok none := by
      cases concludes with
      | returned earlier endpoint value visits wentOn order present =>
        exact parseReceiptStatus_ne_none present
      | rejected earlier endpoint err visits wentOn order spared => exact nofun
      | exhausted wentOn order => exact nofun
    rw [List.take_succ_cons, List.take_zero]
    unfold waitForReceipt
    split
    · exact ⟨rfl, nofun⟩
    · exact ⟨rfl, nofun⟩
    · exact ⟨rfl, nofun⟩
    · rename_i undecided
      exact absurd undecided decided

/-- A receipt is asked for in three rounds, and is not there yet. -/
def pendingReceiptEvents : List RpcEvent :=
  .request { method := "eth_getTransactionReceipt", params := .array [.string "0x07"] } ::
    (List.replicate 3 ([.reply 0 .scheduled, .reply 0 .scheduled, .reply 0 .scheduled,
      .reply 0 (.answered (.result (some .null))), .reply 0 .scheduled])).flatten

theorem waitForReceipt_pending :
    waitForReceipt 120000 [(.error "missing rpc result", 5)] =
        waitForReceipt 120000 ([(Except.error "missing rpc result", 5)].take 1) ∧
      waitForReceipt 120000 [(.error "missing rpc result", 5)] ≠ some (.ok .timedOut) := by
  refine waitForReceipt_first_poll (fun _ => none) ⟨"public", []⟩ 0 pendingReceiptEvents 120000
    [(.error "missing rpc result", 5)] fun poll member => ?_
  rw [List.mem_singleton.mp member]
  exact ⟨_, List.mem_cons_self, rfl⟩

end DexArbitrage
