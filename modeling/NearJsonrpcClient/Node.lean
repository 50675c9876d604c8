/-
# Errors of the handlers of a node

How a node writes the errors of its handlers.  It leaves out a field of some of them: the
message of an unknown block, and the reason for which a transaction is invalid, which it
puts into the field `data` in the form of an older version.  The client reads every error
back; of an unknown block the message is lost.
-/
import NearJsonrpcClient.Methods.Any
import NearJsonrpcClient.Reference.Replies

namespace NearJsonrpcClient

section Node

/-- What a node serializes errors to. -/
class Node [Near] where
  unknownBlockErrorToValue : ∀ τ, UnknownBlockError τ → Value
  rpcQueryErrorToValue : RpcQueryError → Value
  rpcTransactionErrorToValue : RpcTransactionError → Value
  serverErrorToValue : ServerError → Value

/-- The error types that the client does not look into. -/
def NearTy.isError (τ : NearTy) : Prop :=
  τ ∈ [rpcStatusError, rpcValidatorError, rpcReceiptError, rpcNetworkInfoError,
    rpcSandboxPatchStateError, rpcSandboxFastForwardError]

/-- An error is tagged with its name, and it is read back when all of its fields are
written. -/
class LawfulNode [Near] [Node] : Prop where
  tyFromValue_toValue : ∀ {τ : NearTy}, τ.isError → ∀ e : NearTypes.Ty τ,
    Near.tyFromValue τ (Near.tyToValue τ e) = .ok e
  rpcQueryErrorFromValue_toValue : ∀ e,
    Near.rpcQueryErrorFromValue (Node.rpcQueryErrorToValue e) = .ok e
  name_unknownBlock : ∀ τ (errorMessage : String),
    (Node.unknownBlockErrorToValue τ (.unknownBlock errorMessage)).index "name"
      = .string "UNKNOWN_BLOCK"
  /-- The field `error_message` is left out. -/
  unknownBlock_rejected : ∀ τ (errorMessage : String), ∃ e, Near.unknownBlockErrorFromValue τ
    (Node.unknownBlockErrorToValue τ (.unknownBlock errorMessage)) = .error e
  name_other : ∀ τ (err : NearTypes.UnknownBlockRest τ), ∃ name, name ≠ "UNKNOWN_BLOCK" ∧
    (Node.unknownBlockErrorToValue τ (.other err)).index "name" = .string name
  unknownBlockErrorFromValue_toValue : ∀ τ (err : NearTypes.UnknownBlockRest τ),
    Near.unknownBlockErrorFromValue τ (Node.unknownBlockErrorToValue τ (.other err))
      = .ok (.other err)
  /-- The field `context` is left out. -/
  invalidTransaction_rejected : ∀ context, ∃ e, Near.rpcTransactionErrorFromValue
    (Node.rpcTransactionErrorToValue (.invalidTransaction context)) = .error e
  rpcTransactionErrorFromValue_toValue : ∀ e, (∀ context, e ≠ .invalidTransaction context) →
    Near.rpcTransactionErrorFromValue (Node.rpcTransactionErrorToValue e) = .ok e
  serverErrorFromValue_toValue : ∀ context, Near.serverErrorFromValue
      (Node.serverErrorToValue (.txExecutionError (.invalidTxError context)))
    = .ok (.txExecutionError (.invalidTxError context))

/-! ## The error types -/

/-- How a node delivers the errors of a type. -/
class NodeError (E : Type) where
  /-- What it serializes an error to. -/
  serialize : E → Value
  /-- What it puts into the field `data` with an error. -/
  Data : E → Option Value → Prop
  /-- What is left of an error when the omitted fields are forgotten. -/
  received : E → E

/-- An error is converted to what is left of it. -/
class LawfulNodeError (E : Type) [RpcHandlerError E] [NodeError E] [NearTypes] : Prop where
  converts : ∀ (e : E) (err : RpcError),
    err.errorStruct = some (.handlerError (NodeError.serialize e)) →
    NodeError.Data e err.data → Converts err (.serverError (.handlerError (NodeError.received e)))

variable [Near] [Node]

instance {τ : NearTy} : NodeError (NearTypes.Ty τ) where
  serialize e := Near.tyToValue τ e
  Data _ _ := True
  received e := e

instance : NodeError RpcQueryError where
  serialize := Node.rpcQueryErrorToValue
  Data _ _ := True
  received e := e

instance {τ : UnknownBlockTy} : NodeError (UnknownBlockError τ) where
  serialize := Node.unknownBlockErrorToValue τ
  Data _ _ := True
  received
    | .unknownBlock _ => .unknownBlock ""
    | e => e

instance : NodeError RpcTransactionError where
  serialize := Node.rpcTransactionErrorToValue
  Data
    | .invalidTransaction context, data =>
        data = some (Node.serverErrorToValue (.txExecutionError (.invalidTxError context)))
    | _, _ => True
  received e := e

omit [Near] [Node] in
instance : NodeError Unit where
  serialize _ := .null
  Data _ _ := True
  received e := e

instance : NodeError RpcBroadcastTxAsyncError where
  serialize := nofun
  Data := nofun
  received := nofun

instance : NodeError RpcGenesisConfigError where
  serialize := nofun
  Data := nofun
  received := nofun

/-! ## The parser of each type reads its errors back -/

omit [Node] in
/-- An error that the structured parser reads back is converted, whatever `data` holds. -/
lemma LawfulNodeError.of_parse {E : Type} [RpcHandlerError E] [NodeError E]
    (h : ∀ e : E, RpcHandlerError.parse (NodeError.serialize e) = .ok (NodeError.received e)) :
    LawfulNodeError E where
  converts e _ hs _ := .handler hs (h e)

variable [LawfulNode]

instance : LawfulNodeError RpcStatusError :=
  .of_parse (LawfulNode.tyFromValue_toValue (by simp [NearTy.isError]))

instance : LawfulNodeError RpcValidatorError :=
  .of_parse (LawfulNode.tyFromValue_toValue (by simp [NearTy.isError]))

instance : LawfulNodeError RpcReceiptError :=
  .of_parse (LawfulNode.tyFromValue_toValue (by simp [NearTy.isError]))

instance : LawfulNodeError RpcNetworkInfoError :=
  .of_parse (LawfulNode.tyFromValue_toValue (by simp [NearTy.isError]))

instance : LawfulNodeError RpcSandboxPatchStateError :=
  .of_parse (LawfulNode.tyFromValue_toValue (by simp [NearTy.isError]))

instance : LawfulNodeError RpcSandboxFastForwardError :=
  .of_parse (LawfulNode.tyFromValue_toValue (by simp [NearTy.isError]))

instance : LawfulNodeError RpcQueryError := .of_parse LawfulNode.rpcQueryErrorFromValue_toValue

/-- The shortcut fires for an unknown block and for no other error. -/
lemma parseUnknownBlock_serialize {τ : UnknownBlockTy} (e : UnknownBlockError τ) :
    parseUnknownBlock (NodeError.serialize e) = .ok (NodeError.received e) := by
  cases e with
  | unknownBlock errorMessage =>
    have hname := LawfulNode.name_unknownBlock τ errorMessage
    exact if_pos (Value.eqStr_iff.2 hname)
  | other err =>
    obtain ⟨name, hne, hname⟩ := LawfulNode.name_other τ err
    have hstr : ¬ ((Node.unknownBlockErrorToValue τ (.other err)).index "name").eqStr
        "UNKNOWN_BLOCK" = true := by
      rw [Value.eqStr_iff, hname]
      simpa using hne
    exact (if_neg hstr).trans (LawfulNode.unknownBlockErrorFromValue_toValue τ err)

instance : LawfulNodeError RpcBlockError := .of_parse parseUnknownBlock_serialize
instance : LawfulNodeError RpcChunkError := .of_parse parseUnknownBlock_serialize
instance : LawfulNodeError RpcGasPriceError := .of_parse parseUnknownBlock_serialize
instance : LawfulNodeError RpcLightClientProofError := .of_parse parseUnknownBlock_serialize
instance : LawfulNodeError RpcLightClientNextBlockError := .of_parse parseUnknownBlock_serialize
instance : LawfulNodeError RpcStateChangesError := .of_parse parseUnknownBlock_serialize
instance : LawfulNodeError RpcProtocolConfigError := .of_parse parseUnknownBlock_serialize

omit [Node] [LawfulNode] in
lemma parseLegacyError_invalidTxError {v : Value} {context : InvalidTxError}
    (h : Near.serverErrorFromValue v = .ok (.txExecutionError (.invalidTxError context))) :
    RpcHandlerError.parseLegacyError v
      = some (.ok (RpcTransactionError.invalidTransaction context)) := by
  simp only [RpcHandlerError.parseLegacyError, fromValue, h]

/-- An invalid transaction is read back from the field `data`. -/
instance : LawfulNodeError RpcTransactionError where
  converts e err hs hd := by
    by_cases he : ∃ context, e = .invalidTransaction context
    · obtain ⟨context, rfl⟩ := he
      obtain ⟨rejection, hrej⟩ := LawfulNode.invalidTransaction_rejected context
      have hlegacy := parseLegacyError_invalidTxError
        (LawfulNode.serverErrorFromValue_toValue context)
      exact .legacy (.inr ⟨_, rejection, hs, hrej⟩) hd hlegacy
    · push Not at he
      exact .handler hs (LawfulNode.rpcTransactionErrorFromValue_toValue e he)

omit [Node] [LawfulNode] in
instance : LawfulNodeError Unit := .of_parse fun _ => rfl

omit [Node] [LawfulNode] in
instance : LawfulNodeError RpcBroadcastTxAsyncError := .of_parse nofun

omit [Node] [LawfulNode] in
instance : LawfulNodeError RpcGenesisConfigError := .of_parse nofun

/-! ## All typed methods -/

omit [LawfulNode] in
/-- The node delivers the errors of every typed method. -/
instance instNodeErrorImpl : (t : TypedMethod) → NodeError t.impl.Error
  | .block | .broadcastTxAsync | .broadcastTxCommit | .chunk | .gasPrice | .health
  | .lightClientProof | .networkInfo | .nextLightClientBlock | .query | .sendTx | .status | .tx
  | .validators | .changes | .changesInBlock | .genesisConfig | .protocolConfig | .receipt
  | .txStatus | .validatorsOrdered | .sandboxPatchState | .sandboxFastForward | .advCheckStore
  | .advDisableDoomslug | .advDisableHeaderSync | .advGetSavedBlocks | .advProduceBlocks
  | .advSetWeight | .advSwitchToHeight => inferInstance

instance instLawfulNodeErrorImpl (t : TypedMethod) : LawfulNodeError t.impl.Error := by
  cases t <;> infer_instance

/-- **Errors of the handlers of a node.** An error of a typed method that a node delivers
with status 200 is returned as the error of the handler, whatever the node puts into the
field `data` with it, and the omitted message of an unknown block is all that is lost. -/
theorem JsonRpcClient.call_result_of_nodeError [Reqwest] [SerdeJson] (t : TypedMethod)
    (e : t.impl.Error) (err : RpcError)
    (hs : err.errorStruct = some (.handlerError (NodeError.serialize e)))
    (hdata : NodeError.Data e err.data) (self : JsonRpcClient) (server : Server)
    (method : t.impl.Request) (response : HttpResponse)
    (ha : Answered self server method response) (hok : response.status = .OK)
    (hd : Decodes response (.error err)) :
    (self.call server method).result
      = .error (.serverError (.handlerError (NodeError.received e))) := by
  have hc := LawfulNodeError.converts e err hs hdata
  rw [call_result_of_answered ha]
  exact readResponse_result_of_outcome hok (.error hd hc)

end Node

section Delivered

open scoped Reference
open Reference

/-- The node that the reference implementation reads. -/
local instance referenceNode : Node where
  unknownBlockErrorToValue _
    | .unknownBlock _ => tagged "UNKNOWN_BLOCK" []
    | .other err => err.1
  rpcQueryErrorToValue
    | .unknownAccessKey publicKey blockHeight blockHash =>
        tagged "UNKNOWN_ACCESS_KEY" [("public_key", .string publicKey),
          ("block_height", toValue blockHeight), ("block_hash", blockHash)]
    | .contractExecutionError vmError blockHeight blockHash =>
        tagged "CONTRACT_EXECUTION_ERROR" [("vm_error", .string vmError),
          ("block_height", toValue blockHeight), ("block_hash", blockHash)]
    | .other err => err.1
  rpcTransactionErrorToValue
    | .invalidTransaction _ => tagged "INVALID_TRANSACTION" []
    | .timeoutError => taggedUnit "TIMEOUT_ERROR"
    | .other err => err.1
  serverErrorToValue
    | .txExecutionError (.invalidTxError context) =>
        .object [("TxExecutionError", .object [("InvalidTxError", context)])]
    | .txExecutionError (.other err) => .object [("TxExecutionError", err)]
    | .other false => .string "Timeout"
    | .other true => .string "Closed"

lemma otherFromValue_val {names : List String} (err : OtherError names) :
    otherFromValue names err.1 = .ok err := by
  obtain ⟨v, name, hname, hnot⟩ := err
  unfold otherFromValue
  split
  · next h => rw [h] at hname; cases hname
  · next name' h =>
    obtain rfl : name' = name := Option.some_inj.1 (h.symm.trans hname)
    rw [dif_neg hnot]

lemma nameOf_val {names : List String} (err : OtherError names) {name : String}
    (h : name ∈ names) : nameOf err.1 ≠ some name := by
  obtain ⟨v, name', hname, hnot⟩ := err
  intro hv
  rw [hname] at hv
  obtain rfl := Option.some_inj.1 hv
  exact hnot h

lemma index_eq_string {v : Value} {key s : String} (h : (v.index key).asStr = some s) :
    v.index key = .string s := by
  rw [← Value.eqStr_iff, Value.eqStr, h]
  exact beq_self_eq_true _

lemma rpcQueryErrorFromValue_toValue (e : RpcQueryError) :
    rpcQueryErrorFromValue (Node.rpcQueryErrorToValue e) = .ok e := by
  cases e with
  | unknownAccessKey publicKey blockHeight blockHash =>
    change rpcQueryErrorFromValue (tagged "UNKNOWN_ACCESS_KEY" _) = _
    rw [rpcQueryErrorFromValue, nameOf_tagged, if_pos rfl]
    simp [Value.ofEntries, Value.index]
    rfl
  | contractExecutionError vmError blockHeight blockHash =>
    change rpcQueryErrorFromValue (tagged "CONTRACT_EXECUTION_ERROR" _) = _
    rw [rpcQueryErrorFromValue, nameOf_tagged, if_neg (by decide), if_pos rfl]
    simp [Value.ofEntries, Value.index]
    rfl
  | other err =>
    change rpcQueryErrorFromValue err.1 = _
    rw [rpcQueryErrorFromValue, if_neg (nameOf_val err (by simp)),
      if_neg (nameOf_val err (by simp)), otherFromValue_val]
    rfl

lemma rpcTransactionErrorFromValue_toValue (e : RpcTransactionError)
    (he : ∀ context, e ≠ .invalidTransaction context) :
    rpcTransactionErrorFromValue (Node.rpcTransactionErrorToValue e) = .ok e := by
  cases e with
  | invalidTransaction context => exact absurd rfl (he context)
  | timeoutError =>
    change rpcTransactionErrorFromValue (taggedUnit "TIMEOUT_ERROR") = _
    rw [rpcTransactionErrorFromValue, nameOf_taggedUnit, if_neg (by decide), if_pos rfl]
  | other err =>
    change rpcTransactionErrorFromValue err.1 = _
    rw [rpcTransactionErrorFromValue, if_neg (nameOf_val err (by simp)),
      if_neg (nameOf_val err (by simp)), otherFromValue_val]
    rfl

local instance lawfulReferenceNode : LawfulNode where
  tyFromValue_toValue := by
    intro τ hτ e
    simp only [NearTy.isError, List.mem_cons, List.not_mem_nil, or_false] at hτ
    rcases hτ with rfl | rfl | rfl | rfl | rfl | rfl <;> rfl
  rpcQueryErrorFromValue_toValue := rpcQueryErrorFromValue_toValue
  name_unknownBlock _ _ := index_eq_string (nameOf_tagged "UNKNOWN_BLOCK" [])
  unknownBlock_rejected τ _ := by
    refine ⟨.missingField "error_message", ?_⟩
    change unknownBlockErrorFromValue τ (tagged "UNKNOWN_BLOCK" []) = _
    rw [unknownBlockErrorFromValue, nameOf_tagged, if_pos rfl, infoOf_tagged]
    rfl
  name_other τ err := by
    obtain ⟨v, name, hname, hnot⟩ := err
    refine ⟨name, ?_, index_eq_string hname⟩
    rintro rfl
    exact hnot (by simp)
  unknownBlockErrorFromValue_toValue τ err := by
    change unknownBlockErrorFromValue τ err.1 = _
    rw [unknownBlockErrorFromValue, if_neg (nameOf_val err (by simp)), otherFromValue_val]
    rfl
  invalidTransaction_rejected context := by
    refine ⟨.missingField "context", ?_⟩
    change rpcTransactionErrorFromValue (tagged "INVALID_TRANSACTION" []) = _
    rw [rpcTransactionErrorFromValue, nameOf_tagged, if_pos rfl, infoOf_tagged]
    rfl
  rpcTransactionErrorFromValue_toValue := rpcTransactionErrorFromValue_toValue
  serverErrorFromValue_toValue _ := rfl

/-- The reason for which a transaction is invalid whose nonce was used before. -/
def invalidNonce : InvalidTxError :=
  Value.object [("InvalidNonce",
    .object [("ak_nonce", .number (.posInt 7)), ("tx_nonce", .number (.posInt 7))])]

/-- The body in which a node rejects such a transaction. -/
def invalidNonceBody : Value :=
  errorBody (handlerErrorValue (tagged "INVALID_TRANSACTION" [])
    (.object [("TxExecutionError", .object [("InvalidTxError", invalidNonce)])]))

local instance invalidNonceJson : SerdeJson := serdeJson [invalidNonceBody]

/-- A transaction that is sent to a local node. -/
def invalidNonceRequest : RpcSendTransactionRequest where
  signedTransaction := ([0x69, 0xb7, 0x1d] : Bytes)
  waitUntil := Value.string "FINAL"

/-- The reason for which a transaction is invalid is returned although the node leaves it
out of the error. -/
theorem JsonRpcClient.call_result_invalidNonce :
    ((JsonRpcClient.connect "http://localhost:3030").call (always (reply .OK invalidNonceBody))
        invalidNonceRequest).result
      = .error (.serverError (.handlerError (.invalidTransaction invalidNonce))) :=
  JsonRpcClient.call_result_of_nodeError .sendTx
    (RpcTransactionError.invalidTransaction invalidNonce) _
    (rpcErrorOf_errorStruct _ _) (rpcErrorOf_data _ (by simp)) _ _ _ _
    (answered_always _ rfl (by decide) _) rfl (decodes_errorBody _ _ _ [])

end Delivered

end NearJsonrpcClient
