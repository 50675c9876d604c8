/-
# Requests on the wire

Every typed request can be recovered from the body in which it is sent: the method names
tell the methods apart, and each method writes all of its request into its parameters.  The
transaction methods are the only ones whose requests may fail to be encoded.
-/
import NearJsonrpcClient.AsyncCall
import NearJsonrpcClient.Reference.Replies
import NearJsonrpcClient.Reference.Text
import NearJsonrpcClient.TxEncoding

namespace NearJsonrpcClient

open Lib

section Requests

variable [Near]

namespace TypedMethod

/-! ## The names of the methods -/

def name : TypedMethod → String
  | .block => "block"
  | .broadcastTxAsync => "broadcast_tx_async"
  | .broadcastTxCommit => "broadcast_tx_commit"
  | .chunk => "chunk"
  | .gasPrice => "gas_price"
  | .health => "health"
  | .lightClientProof => "light_client_proof"
  | .networkInfo => "network_info"
  | .nextLightClientBlock => "next_light_client_block"
  | .query => "query"
  | .sendTx => "send_tx"
  | .status => "status"
  | .tx => "tx"
  | .validators => "validators"
  | .changes => "EXPERIMENTAL_changes"
  | .changesInBlock => "EXPERIMENTAL_changes_in_block"
  | .genesisConfig => "EXPERIMENTAL_genesis_config"
  | .protocolConfig => "EXPERIMENTAL_protocol_config"
  | .receipt => "EXPERIMENTAL_receipt"
  | .txStatus => "EXPERIMENTAL_tx_status"
  | .validatorsOrdered => "EXPERIMENTAL_validators_ordered"
  | .sandboxPatchState => "sandbox_patch_state"
  | .sandboxFastForward => "sandbox_fast_forward"
  | .advCheckStore => "adv_check_store"
  | .advDisableDoomslug => "adv_disable_doomslug"
  | .advDisableHeaderSync => "adv_disable_header_sync"
  | .advGetSavedBlocks => "adv_get_saved_blocks"
  | .advProduceBlocks => "adv_produce_blocks"
  | .advSetWeight => "adv_set_weight"
  | .advSwitchToHeight => "adv_switch_to_height"

lemma methodName_eq (t : TypedMethod) (request : t.impl.Request) :
    RpcMethod.methodName request = t.name := by
  cases t <;> rfl

def all : List TypedMethod :=
  [.block, .broadcastTxAsync, .broadcastTxCommit, .chunk, .gasPrice, .health,
    .lightClientProof, .networkInfo, .nextLightClientBlock, .query, .sendTx, .status, .tx,
    .validators, .changes, .changesInBlock, .genesisConfig, .protocolConfig, .receipt,
    .txStatus, .validatorsOrdered, .sandboxPatchState, .sandboxFastForward, .advCheckStore,
    .advDisableDoomslug, .advDisableHeaderSync, .advGetSavedBlocks, .advProduceBlocks,
    .advSetWeight, .advSwitchToHeight]

/-- The method of a name. -/
def ofName (s : String) : Option TypedMethod := all.find? fun t => t.name = s

omit [Near] in
lemma ofName_name (t : TypedMethod) : ofName t.name = some t := by
  cases t <;> decide

omit [Near] in
lemma name_injective : Function.Injective name := by
  intro t t' h
  rw [← Option.some_inj, ← ofName_name, h, ofName_name]

end TypedMethod

/-! ## The parameters of the methods -/

/-- The encoders of the other crates that write the parameters of a method lose nothing. -/
def TypedMethod.InjectiveEncoders : TypedMethod → Prop
  | .tx | .txStatus | .sendTx | .broadcastTxAsync | .broadcastTxCommit => InjectiveEncodings
  | .block => Function.Injective (toValue : RpcBlockRequest → Value)
  | .chunk => Function.Injective (toValue : RpcChunkRequest → Value)
  | .gasPrice => Function.Injective (toValue : MaybeBlockId → Value)
  | .lightClientProof =>
      Function.Injective (toValue : RpcLightClientExecutionProofRequest → Value)
  | .nextLightClientBlock => Function.Injective (toValue : RpcLightClientNextBlockRequest → Value)
  | .query => Function.Injective (toValue : RpcQueryRequest → Value)
  | .validators => Function.Injective (toValue : RpcValidatorRequest → Value)
  | .changes => Function.Injective (toValue : RpcStateChangesInBlockByTypeRequest → Value)
  | .changesInBlock => Function.Injective (toValue : RpcStateChangesInBlockRequest → Value)
  | .protocolConfig => Function.Injective (toValue : RpcProtocolConfigRequest → Value)
  | .receipt => Function.Injective (toValue : RpcReceiptRequest → Value)
  | .validatorsOrdered => Function.Injective (toValue : RpcValidatorsOrderedRequest → Value)
  | .sandboxPatchState => Function.Injective (toValue : RpcSandboxPatchStateRequest → Value)
  | .sandboxFastForward => Function.Injective (toValue : RpcSandboxFastForwardRequest → Value)
  | .health | .networkInfo | .status | .genesisConfig | .advCheckStore | .advDisableDoomslug
  | .advDisableHeaderSync | .advGetSavedBlocks | .advProduceBlocks | .advSetWeight
  | .advSwitchToHeight => True

/-- Messages, and the text in which they are sent, lose nothing. -/
structure InjectiveMessages [SerdeJson] : Prop where
  message : Function.Injective2 fun (method : String) (params : Value) =>
    Near.messageToValue (Near.messageRequest method params)
  toVec : Unambiguous SerdeJson.toVec

/-- A request of one of the methods. -/
abbrev TypedRequest : Type := Σ t : TypedMethod, t.impl.Request

namespace TypedRequest

/-- The payload of a request. -/
def toJson (r : TypedRequest) : Except IoError Value := NearJsonrpcClient.toJson r.2

/-- The body in which a request is sent. -/
def body [SerdeJson] (r : TypedRequest) : Except IoError Bytes := do
  (SerdeJson.toVec (← r.toJson)).mapError SerdeError.into

/-- The signed transaction of a request, when it has one. -/
def signedTransaction : TypedRequest → Option SignedTransaction
  | ⟨.tx, request⟩ => TransactionMethod.signedTransaction .tx request
  | ⟨.txStatus, request⟩ => TransactionMethod.signedTransaction .txStatus request
  | ⟨.sendTx, request⟩ => TransactionMethod.signedTransaction .sendTx request
  | ⟨.broadcastTxAsync, request⟩ => TransactionMethod.signedTransaction .broadcastTxAsync request
  | ⟨.broadcastTxCommit, request⟩ => TransactionMethod.signedTransaction .broadcastTxCommit request
  | _ => none

lemma toJson_eq (r : TypedRequest) :
    r.toJson = (RpcMethod.params r.2).map fun params =>
      Near.messageToValue (Near.messageRequest r.1.name params) := by
  rw [toJson, NearJsonrpcClient.toJson_eq, TypedMethod.methodName_eq]

end TypedRequest

/-- Each method writes all of its request into its parameters. -/
lemma TypedMethod.InjectiveEncoders.unambiguous_params {t : TypedMethod}
    (hinj : t.InjectiveEncoders) :
    Unambiguous fun request : t.impl.Request => RpcMethod.params request := by
  cases t with
  | tx => exact NearJsonrpcClient.unambiguous_params hinj .tx
  | txStatus => exact NearJsonrpcClient.unambiguous_params hinj .txStatus
  | sendTx => exact NearJsonrpcClient.unambiguous_params hinj .sendTx
  | broadcastTxAsync => exact NearJsonrpcClient.unambiguous_params hinj .broadcastTxAsync
  | broadcastTxCommit => exact NearJsonrpcClient.unambiguous_params hinj .broadcastTxCommit
  | health | networkInfo | status | genesisConfig | advCheckStore | advDisableDoomslug
  | advDisableHeaderSync | advGetSavedBlocks =>
    -- the request has no fields
    rintro ⟨⟩ ⟨⟩ v h h'
    rfl
  | gasPrice =>
    rintro ⟨blockId⟩ ⟨blockId'⟩ v h h'
    have heq : Value.array [toValue blockId] = .array [toValue blockId'] :=
      Except.ok.inj (h.trans h'.symm)
    have hblock : blockId = blockId' := hinj (by simpa using heq)
    rw [hblock]
  | advProduceBlocks =>
    rintro ⟨n, b⟩ ⟨n', b'⟩ v h h'
    have heq : Value.array [toValue n, toValue b] = .array [toValue n', toValue b'] :=
      Except.ok.inj (h.trans h'.symm)
    simp only [toValue, Value.array.injEq, List.cons.injEq, Value.number.injEq,
      Number.posInt.injEq, Value.bool.injEq, and_true] at heq
    rw [heq.1, heq.2]
  | advSetWeight =>
    rintro ⟨n⟩ ⟨n'⟩ v h h'
    have heq : toValue n = toValue n' := Except.ok.inj (h.trans h'.symm)
    simp only [toValue, Value.number.injEq, Number.posInt.injEq] at heq
    rw [heq]
  | advSwitchToHeight =>
    rintro ⟨n⟩ ⟨n'⟩ v h h'
    have heq : Value.array [toValue n] = .array [toValue n'] :=
      Except.ok.inj (h.trans h'.symm)
    simp only [toValue, Value.array.injEq, List.cons.injEq, Value.number.injEq,
      Number.posInt.injEq, and_true] at heq
    rw [heq]
  | _ => exact .of_injective hinj

/-! ## The bodies of requests -/

section Bodies

variable [SerdeJson]

namespace TypedRequest

lemma body_eq_ok_iff {r : TypedRequest} {b : Bytes} :
    r.body = .ok b ↔ ∃ payload, r.toJson = .ok payload ∧ SerdeJson.toVec payload = .ok b := by
  simp only [body, bind_eq_ok_iff, mapError_eq_ok_iff]

/-- A request of a method whose encoders lose nothing can be recovered from its body. -/
theorem eq_of_body (hmsg : InjectiveMessages) {r r' : TypedRequest}
    (hinj : r.1.InjectiveEncoders) {b : Bytes} (h : r.body = .ok b) (h' : r'.body = .ok b) :
    r = r' := by
  obtain ⟨payload, hpayload, hb⟩ := body_eq_ok_iff.1 h
  obtain ⟨payload', hpayload', hb'⟩ := body_eq_ok_iff.1 h'
  obtain rfl := hmsg.toVec hb hb'
  rw [toJson_eq] at hpayload hpayload'
  let encode (t : TypedMethod) (request : t.impl.Request) : Except IoError Value :=
    RpcMethod.params request
  have hencode : Unambiguous (encode r.1) := hinj.unambiguous_params
  exact hencode.eq_of_sigma TypedMethod.name_injective hmsg.message hpayload hpayload'

omit [SerdeJson] in
/-- Only the transaction methods carry a transaction. -/
lemma injectiveEncoders_of_signedTransaction (hinj : InjectiveEncodings) :
    ∀ {r : TypedRequest}, r.signedTransaction ≠ none → r.1.InjectiveEncoders := by
  rintro ⟨t, request⟩ h
  cases t with
  | tx | txStatus | sendTx | broadcastTxAsync | broadcastTxCommit => exact hinj
  | _ => exact absurd rfl h

omit [SerdeJson] in
/-- Only a signed transaction may fail to be encoded. -/
lemma toJson_eq_error_iff : ∀ (r : TypedRequest) (e : IoError),
    r.toJson = .error e ↔ ∃ t, r.signedTransaction = some t ∧ Near.borshToVec t = .error e := by
  rintro ⟨t, request⟩ e
  cases t with
  | tx => exact TransactionRequest.toJson_eq_error_iff ⟨.tx, request⟩ e
  | txStatus => exact TransactionRequest.toJson_eq_error_iff ⟨.txStatus, request⟩ e
  | sendTx => exact TransactionRequest.toJson_eq_error_iff ⟨.sendTx, request⟩ e
  | broadcastTxAsync => exact TransactionRequest.toJson_eq_error_iff ⟨.broadcastTxAsync, request⟩ e
  | broadcastTxCommit =>
    exact TransactionRequest.toJson_eq_error_iff ⟨.broadcastTxCommit, request⟩ e
  | _ =>
    rw [toJson_eq]
    refine iff_of_false (fun h => by cases h) ?_
    rintro ⟨t, ht, -⟩
    cases ht

end TypedRequest

/-- The body of the request that a call sends. -/
lemma Sends.body [Reqwest] [LawfulBody] {self : JsonRpcClient} {r : TypedRequest}
    {request : WireRequest} (h : Sends self r.2 request) : r.body = .ok request.body := by
  obtain ⟨payload, body, hpayload, hbody, hrequest⟩ := sends_iff.1 h
  rw [LawfulBody.wire_body _ _ _ hrequest]
  exact TypedRequest.body_eq_ok_iff.2 ⟨payload, hpayload, hbody⟩

/-- **Requests on the wire.** Take a typed method of which the encoders of the other crates lose
nothing, and neither do messages and their text.  What a call of it puts on the wire tells which
method was called with which request, whatever the client, and so the other side can recover
both.  A request of any typed method fails to be encoded as JSON exactly when it has a signed
transaction whose serialization fails. -/
theorem TypedRequest.body_lossless [Reqwest] [LawfulBody] (hmsg : InjectiveMessages) :
    (∀ (r₁ r₂ : TypedRequest) (client₁ client₂ : JsonRpcClient) (request₁ request₂ : WireRequest),
      r₁.1.InjectiveEncoders → Sends client₁ r₁.2 request₁ → Sends client₂ r₂.2 request₂ →
      request₁.body = request₂.body → r₁ = r₂) ∧
    (∃ recover : Bytes → Option TypedRequest, ∀ (r : TypedRequest) (client : JsonRpcClient)
      (request : WireRequest), r.1.InjectiveEncoders → Sends client r.2 request →
      recover request.body = some r) ∧
    ∀ r : TypedRequest, (∃ e, r.toJson = .error e) ↔
      ∃ t, r.signedTransaction = some t ∧ ∃ e, Near.borshToVec t = .error e := by
  refine ⟨?_, ?_, fun r => ?_⟩
  · intro r₁ r₂ client₁ client₂ request₁ request₂ hinj h₁ h₂ hbody
    have hb₁ := h₁.body
    rw [hbody] at hb₁
    exact TypedRequest.eq_of_body hmsg hinj hb₁ h₂.body
  · have h : Unambiguous fun r : { r : TypedRequest // r.1.InjectiveEncoders } => r.1.body :=
      fun r _ _ hr hr' => Subtype.ext (TypedRequest.eq_of_body hmsg r.2 hr hr')
    obtain ⟨recover, hrecover⟩ := h.exists_decode
    refine ⟨fun b => (recover b).map Subtype.val, fun r client request hinj hsends => ?_⟩
    exact congrArg (Option.map Subtype.val) (hrecover ⟨r, hinj⟩ _ hsends.body)
  · simp only [TypedRequest.toJson_eq_error_iff]
    constructor
    · rintro ⟨e, t, ht, he⟩
      exact ⟨t, ht, e, he⟩
    · rintro ⟨t, ht, e, he⟩
      exact ⟨e, t, ht, he⟩

end Bodies

end Requests

section RecoveredRequests

open scoped Reference
open Reference

/-- A request for the last block that is final. -/
def finalBlock : TypedRequest :=
  ⟨.block, (Value.object [("finality", .string "final")] : RpcBlockRequest)⟩

/-- A signed transaction that is submitted. -/
def rateRequest : RpcBroadcastTxAsyncRequest := ⟨([0x69, 0xb7, 0x1d] : Bytes)⟩

def rate : TypedRequest := ⟨.broadcastTxAsync, rateRequest⟩

/-- The hash of this transaction. -/
def rateHash : CryptoHash := Value.string "6GTgCQ5genLEEiPspEvdZEJooBzgWRrUnur9eGSdeTTD"

/-- The payload of the request for a block. -/
def finalBlockPayload : Map :=
  [("id", .string "dontcare"), ("jsonrpc", .string "2.0"), ("method", .string "block"),
    ("params", .object [("finality", .string "final")])]

/-- The payload of the transaction. -/
def ratePayload : Map :=
  [("id", .string "dontcare"), ("jsonrpc", .string "2.0"),
    ("method", .string "broadcast_tx_async"), ("params", .array [.string "abcd"])]

lemma toJson_finalBlock : finalBlock.toJson = .ok (.object finalBlockPayload) := rfl

lemma toJson_rate : rate.toJson = .ok (.object ratePayload) := rfl

lemma injectiveMessages_text {known : List Map} (bodies : List Value)
    (hknown : (known.map fun m => render (.object m)).Nodup) :
    letI := textJson known bodies
    InjectiveMessages :=
  letI := textJson known bodies
  { message := injectiveEncodings_reference.message
    toVec := Unambiguous.of_injective (text_injective hknown) }

/-- The body in which a request with a known payload is sent. -/
lemma toVec_text {known : List Map} (bodies : List Value) {m : Map} (hm : m ∈ known) :
    letI := textJson known bodies
    SerdeJson.toVec (.object m) = .ok (utf8 (render (.object m))) :=
  congrArg Except.ok (text_of_mem (List.mem_map_of_mem hm))

/-- The request in which a call sends an object to a local node. -/
def requestWith (m : Map) : WireRequest where
  method := .POST
  url := localNode.inner.serverAddr
  headers := Reqwest.defaultHeaders localNode.inner.client
  body := utf8 (render (.object m))

lemma sends_text {known : List Map} (bodies : List Value) {r : TypedRequest} {m : Map}
    (hm : m ∈ known) (hr : r.toJson = .ok (.object m)) :
    letI := textJson known bodies
    Sends localNode r.2 (requestWith m) :=
  letI := textJson known bodies
  sends_iff.2 ⟨_, _, hr, toVec_text bodies hm, rfl⟩

noncomputable local instance recoveredJson : SerdeJson :=
  textJson [finalBlockPayload, ratePayload] []

/-- A request with fields and one with a signed transaction are recovered from the JSON texts in
which they are sent. -/
theorem TypedRequest.body_lossless_finalBlock : ∃ recover : Bytes → Option TypedRequest,
    recover (utf8 (render (.object finalBlockPayload))) = some finalBlock ∧
      recover (utf8 (render (.object ratePayload))) = some rate ∧
      ¬ ∃ e, rate.toJson = .error e := by
  obtain ⟨-, ⟨recover, hrecover⟩, herror⟩ :=
    TypedRequest.body_lossless (injectiveMessages_text [] (by decide))
  refine ⟨recover, ?_, ?_, ?_⟩
  · exact hrecover finalBlock localNode _ Function.injective_id
      (sends_text [] List.mem_cons_self toJson_finalBlock)
  · exact hrecover rate localNode _ injectiveEncodings_reference
      (sends_text [] (List.mem_cons_of_mem _ List.mem_cons_self) toJson_rate)
  · rw [herror]
    rintro ⟨t, -, e, he⟩
    cases he

end RecoveredRequests

end NearJsonrpcClient
