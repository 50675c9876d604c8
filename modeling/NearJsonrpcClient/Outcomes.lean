/-
# The outcomes of requests

What a node answers a typed request with, and how it delivers that: a response as a result,
an error of the handler as a structured error, or by an older node as a result, and errors of
the JSON-RPC layer.  The client returns what the node answered; of the errors of the handler
it loses what the node leaves out.
-/
import NearJsonrpcClient.Node
import NearJsonrpcClient.QueryDecode
import NearJsonrpcClient.Routes

namespace NearJsonrpcClient

section Outcomes

/-! ## Responses -/

/-- The response types that the client does not look into. -/
def NearTy.isResponse (τ : NearTy) : Prop :=
  τ ∈ [cryptoHash, blockView, chunkView, gasPriceView, finalExecutionOutcomeView,
    rpcHealthResponse, rpcLightClientExecutionProofResponse, rpcNetworkInfoResponse,
    lightClientBlockView, rpcQueryResponse, rpcTransactionResponse, statusResponse,
    epochValidatorInfo, rpcStateChangesInBlockResponse, rpcStateChangesInBlockByTypeResponse,
    genesisConfig, protocolConfigView, receiptView, rpcValidatorsOrderedResponse,
    rpcSandboxPatchStateResponse, rpcSandboxFastForwardResponse]

/-- What a node may write for a response. -/
class NodeResponses [Near] where
  Writes : ∀ {τ : NearTy}, NearTypes.Ty τ → Value → Prop

/-- A response is read back. -/
class LawfulNodeResponses [Near] [NodeResponses] : Prop where
  tyFromValue_of_writes : ∀ {τ : NearTy}, τ.isResponse → ∀ (r : NearTypes.Ty τ) (v : Value),
    NodeResponses.Writes r v → Near.tyFromValue τ v = .ok r
  /-- A block is not written as the absence of one. -/
  ne_null : ∀ (r : NearTypes.Ty .lightClientBlockView) (v : Value), NodeResponses.Writes r v →
    v ≠ .null

/-- How a node delivers the responses of a type. -/
class NodeResponse (R : Type) where
  Writes : R → Value → Prop

variable [Near] [NodeResponses]

instance {τ : NearTy} : NodeResponse (NearTypes.Ty τ) := ⟨NodeResponses.Writes⟩

instance : NodeResponse RpcLightClientNextBlockResponse where
  Writes
    | some r, v => NodeResponses.Writes r v
    | none, v => v = .null

omit [Near] [NodeResponses] in
instance : NodeResponse Unit := ⟨fun _ _ => True⟩

omit [Near] [NodeResponses] in
instance : NodeResponse RpcAdversarialCheckStoreResponse := ⟨fun r v => v = toValue r.value⟩

omit [Near] [NodeResponses] in
instance : NodeResponse RpcAdversarialGetSavedBlocksResponse := ⟨fun r v => v = toValue r.value⟩

/-- The node delivers the responses of every typed method. -/
instance instNodeResponseImpl : (t : TypedMethod) → NodeResponse t.impl.Response
  | .block | .broadcastTxAsync | .broadcastTxCommit | .chunk | .gasPrice | .health
  | .lightClientProof | .networkInfo | .nextLightClientBlock | .query | .sendTx | .status | .tx
  | .validators | .changes | .changesInBlock | .genesisConfig | .protocolConfig | .receipt
  | .txStatus | .validatorsOrdered | .sandboxPatchState | .sandboxFastForward | .advCheckStore
  | .advDisableDoomslug | .advDisableHeaderSync | .advGetSavedBlocks | .advProduceBlocks
  | .advSetWeight | .advSwitchToHeight => inferInstance

variable [LawfulNodeResponses]

omit [Near] [NodeResponses] [LawfulNodeResponses] in
/-- Anything but `null` is read as a block. -/
lemma fromValue_option {T : Type} [Deserialize T] {v : Value} (h : v ≠ .null) :
    (fromValue v : Except SerdeError (Option T)) = (fromValue v).map some := by
  cases v with
  | null => exact absurd rfl h
  | _ => rfl

/-- Every typed method parses the responses of a node back. -/
lemma parse_of_writes (t : TypedMethod) (r : t.impl.Response) (v : Value)
    (h : NodeResponse.Writes r v) : RpcHandlerResponse.parse v = .ok r := by
  cases t with
  | nextLightClientBlock =>
    rcases r with _ | r
    · obtain rfl : v = .null := h
      rfl
    · have hread := LawfulNodeResponses.tyFromValue_of_writes (by simp [NearTy.isResponse]) r v h
      have hoption := fromValue_option (T := NearTypes.Ty .lightClientBlockView)
        (LawfulNodeResponses.ne_null r v h)
      refine hoption.trans ?_
      rw [show (fromValue v : Except SerdeError (NearTypes.Ty .lightClientBlockView)) = .ok r
        from hread]
      rfl
  | advDisableDoomslug | advDisableHeaderSync | advProduceBlocks | advSetWeight
  | advSwitchToHeight => rfl
  | advCheckStore | advGetSavedBlocks =>
    obtain rfl := h
    rfl
  | _ => exact LawfulNodeResponses.tyFromValue_of_writes (by simp [NearTy.isResponse]) r v h

/-! ## Outcomes -/

/-- What a node answers a request of a typed method with. -/
inductive NodeOutcome (t : TypedMethod) where
  | response (r : t.impl.Response)
  | error (e : t.impl.Error)
  | requestValidationError (kind : RpcRequestValidationErrorKind)
  | internalError (errorMessage : String)

variable [Node]

/-- What the client returns for an outcome. -/
def NodeOutcome.reported {t : TypedMethod} :
    NodeOutcome t → Except (JsonRpcError t.impl.Error) t.impl.Response
  | .response r => .ok r
  | .error e => .error (.serverError (.handlerError (NodeError.received e)))
  | .requestValidationError kind => .error (.serverError (.requestValidationError kind))
  | .internalError errorMessage => .error (.serverError (.internalError (some errorMessage)))

/-- How a node delivers an outcome as the result of a response. -/
inductive Delivers : (t : TypedMethod) → NodeOutcome t → Except RpcError Value → Prop
  | response {t : TypedMethod} {r : t.impl.Response} {v : Value}
      (h : NodeResponse.Writes r v) : Delivers t (.response r) (.ok v)
  | error {t : TypedMethod} {e : t.impl.Error} {err : RpcError}
      (hs : err.errorStruct = some (.handlerError (NodeError.serialize e)))
      (hd : NodeError.Data e err.data) : Delivers t (.error e) (.error err)
  /-- An older node reports an unknown access key as a result. -/
  | legacyUnknownAccessKey {v : Value} {error key : String} {publicKey : PublicKey}
      {blockHeight : BlockHeight} {blockHash : CryptoHash}
      (h : IsLegacyError v error blockHeight blockHash)
      (hkey : IsUnknownAccessKey error key) (hpk : Near.publicKeyFromStr key = .ok publicKey) :
      Delivers .query (.error (RpcQueryError.unknownAccessKey publicKey blockHeight blockHash))
        (.ok v)
  /-- An older node reports an error of a contract as a result. -/
  | legacyContractExecutionError {v : Value} {vmError : String} {blockHeight : BlockHeight}
      {blockHash : CryptoHash} (h : IsLegacyError v vmError blockHeight blockHash)
      (hkey : ∀ key, ¬ IsUnknownAccessKey vmError key) :
      Delivers .query (.error (RpcQueryError.contractExecutionError vmError blockHeight blockHash))
        (.ok v)
  | requestValidationError {t : TypedMethod} {kind : RpcRequestValidationErrorKind}
      {err : RpcError} (hs : err.errorStruct = some (.requestValidationError kind)) :
      Delivers t (.requestValidationError kind) (.error err)
  | internalError {t : TypedMethod} {errorMessage : String} {err : RpcError} {s : Value}
      (hs : err.errorStruct = some (.internalError s))
      (hm : (s.index "info").index "error_message" = .string errorMessage) :
      Delivers t (.internalError errorMessage) (.error err)

variable [LawfulNode]

/-- The result of a response is read as the outcome that it delivers. -/
lemma parseResult_of_delivers {t : TypedMethod} {o : NodeOutcome t}
    {result : Except RpcError Value} (h : Delivers t o result) :
    parseResult t.impl.Request result = o.reported := by
  cases h with
  | @response t r v h =>
    have hparse : RpcMethod.parseHandlerResponse t.impl.Request v = .ok (.ok r) := by
      have hread := parse_of_writes t r v h
      by_cases ht : t = .query
      · subst ht
        exact RpcQueryRequest.parseHandlerResponse_of_response hread
      · rw [parseHandlerResponse_of_ne_query ht, providedParser, hread]
        rfl
    rw [parseResult, hparse]
    rfl
  | error hs hd =>
    rw [parseResult, JsonRpcError.fromRpcError_of_converts (LawfulNodeError.converts _ _ hs hd)]
    rfl
  | legacyUnknownAccessKey h hkey hpk =>
    have hparse := RpcQueryRequest.parseHandlerResponse_of_key h hkey hpk
    simp only [parseResult, hparse]
    rfl
  | legacyContractExecutionError h hkey =>
    have hparse := RpcQueryRequest.parseHandlerResponse_of_otherError h hkey
    simp only [parseResult, hparse]
    rfl
  | requestValidationError hs =>
    rw [parseResult, JsonRpcError.fromRpcError_of_converts (.validation hs)]
    rfl
  | internalError hs hm =>
    rw [parseResult, JsonRpcError.fromRpcError_of_converts (.internal hs), hm]
    rfl

end Outcomes

section NoBlock

open scoped Reference
open Reference

/-- The values of a type that the reference implementation reads back. -/
def Readable (τ : NearTy) (v : Value) : Prop :=
  match τ with
  | .cryptoHash => ∃ s, v = .string s
  | .rpcQueryResponse => v.index "error" = .null
  | .lightClientBlockView => v ≠ .null
  | _ => True

/-- A node that writes the values as they are. -/
local instance plainResponses : NodeResponses where
  Writes {τ} r v := v = r ∧ Readable τ v

local instance lawfulPlainResponses : LawfulNodeResponses where
  tyFromValue_of_writes := by
    rintro τ hτ r v ⟨rfl, hread⟩
    change Reference.tyFromValue τ v = .ok v
    cases τ with
    | cryptoHash =>
      obtain ⟨s, rfl⟩ := hread
      rfl
    | accountId | txExecutionStatus => simp [NearTy.isResponse] at hτ
    | rpcQueryResponse =>
      have herror : v.index "error" = .null := hread
      rw [Reference.tyFromValue, herror]
    | _ => rfl
  ne_null _ _ h := h.2

local instance plainNode : Node := referenceNode

local instance lawfulPlainNode : LawfulNode := lawfulReferenceNode

local instance noBlockJson : SerdeJson := serdeJson [resultBody .null]

end NoBlock

end NearJsonrpcClient
