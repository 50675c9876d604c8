/-
# Replies of the reference node

The bodies in which the reference node answers, what they decode to, and a server that
answers every request with one reply.
-/
import NearJsonrpcClient.Classification
import NearJsonrpcClient.Reference.Near
import NearJsonrpcClient.Reference.Web

namespace NearJsonrpcClient.Reference

/-- A response with a result. -/
def resultBody (v : Value) : Value :=
  .ofEntries [("jsonrpc", .string "2.0"), ("id", .string "dontcare"), ("result", v)]

/-- A response with an error. -/
def errorBody (err : Value) : Value :=
  .ofEntries [("jsonrpc", .string "2.0"), ("id", .string "dontcare"), ("error", err)]

/-- The error of a response with a structured error of the handler. -/
def handlerErrorValue (cause data : Value) : Value :=
  .ofEntries
    [("name", .string "HANDLER_ERROR"), ("cause", cause),
      ("code", .number (.negInt (-32000))), ("message", .string "Server error"), ("data", data)]

section Replies

open scoped Reference

/-- A reply with a body. -/
def reply (status : StatusCode) (body : Value) : HttpResponse where
  status := status
  headers := Http.emptyMap
  bytes := .ok (utf8 (render body))

/-- A server that answers every request in the same way. -/
def always (response : HttpResponse) : Server := fun _ => .ok response

lemma rpcErrorOf_errorStruct (cause data : Value) :
    (rpcErrorOf (handlerErrorValue cause data)).errorStruct = some (.handlerError cause) := by
  simp [rpcErrorOf, handlerErrorValue, nameOf, field?, Value.ofEntries, Value.index, Value.asStr]

lemma rpcErrorOf_data (cause : Value) {data : Value} (h : data ≠ .null) :
    (rpcErrorOf (handlerErrorValue cause data)).data = some data := by
  simp only [rpcErrorOf, handlerErrorValue, Value.ofEntries, Value.index, List.foldl,
    Map.get_insert, if_true, Option.getD_some]

lemma isRpcError_handlerErrorValue (cause data : Value) :
    isRpcError (handlerErrorValue cause data) = true := by
  have honly : hasOnly ["name", "cause", "code", "message", "data"]
      (handlerErrorValue cause data) = true := hasOnly_ofEntries (by simp)
  have hcode : isInteger ((handlerErrorValue cause data).index "code") = true := by
    simp [handlerErrorValue, Value.ofEntries, Value.index, isInteger]
  rw [isRpcError, honly, hcode]
  simp [handlerErrorValue, Value.ofEntries, Value.index, Value.asStr]

lemma isWire_resultBody (v : Value) :
    isWire ["jsonrpc", "result", "error", "id"] (resultBody v) = true := by
  have honly : hasOnly ["jsonrpc", "result", "error", "id"] (resultBody v) = true :=
    hasOnly_ofEntries (by simp)
  rw [isWire, honly]
  simp [resultBody, Value.ofEntries, Value.index, Value.eqStr, Value.asStr]

lemma isWire_errorBody (err : Value) :
    isWire ["jsonrpc", "result", "error", "id"] (errorBody err) = true := by
  have honly : hasOnly ["jsonrpc", "result", "error", "id"] (errorBody err) = true :=
    hasOnly_ofEntries (by simp)
  rw [isWire, honly]
  simp [errorBody, Value.ofEntries, Value.index, Value.eqStr, Value.asStr]

lemma asResponse_resultBody (v : Value) : asResponse (resultBody v) = some (.ok v) := by
  rw [asResponse, isWire_resultBody]
  simp [resultBody, field?, Value.ofEntries, Value.index]

lemma asResponse_errorBody (cause data : Value) :
    asResponse (errorBody (handlerErrorValue cause data))
      = some (.error (rpcErrorOf (handlerErrorValue cause data))) := by
  have hresult : field? (errorBody (handlerErrorValue cause data)) "result" = none := by
    simp [errorBody, field?, Value.ofEntries]
  have herror : (errorBody (handlerErrorValue cause data)).index "error"
      = handlerErrorValue cause data := by
    simp [errorBody, Value.ofEntries, Value.index]
  have hid : (field? (errorBody (handlerErrorValue cause data)) "id").isSome = true := by
    simp [errorBody, field?, Value.ofEntries]
  rw [asResponse, isWire_errorBody, hresult, herror, hid]
  simp [isRpcError_handlerErrorValue]

lemma decodedToParsed_resultBody (v : Value) :
    decodedToParsed (.ok (resultBody v)) = .ok (resultBody v) := by
  have h := asResponse_resultBody v
  rw [resultBody, Value.ofEntries] at h ⊢
  rw [decodedToParsed, h]
  · rfl
  · intro vs hvs
    cases hvs

lemma decodedToParsed_errorBody (cause data : Value) :
    decodedToParsed (.ok (errorBody (handlerErrorValue cause data)))
      = .ok (errorBody (handlerErrorValue cause data)) := by
  have h := asResponse_errorBody cause data
  rw [errorBody, Value.ofEntries] at h ⊢
  rw [decodedToParsed, h]
  · rfl
  · intro vs hvs
    cases hvs

section Decoded

variable [SerdeJson] (status : StatusCode)

/-- A body with a result that is decoded as JSON is a response with this result. -/
lemma decodes_of_resultBody {v : Value}
    (h : SerdeJson.fromSlice (utf8 (render (resultBody v))) = .ok (resultBody v)) :
    Decodes (reply status (resultBody v)) (.ok v) := by
  refine ⟨resultBody v, ⟨_, rfl, ?_⟩, asResponse_resultBody v⟩
  exact (congrArg decodeBody h).trans (decodedToParsed_resultBody v)

lemma decodes_of_errorBody {cause data : Value}
    (h : SerdeJson.fromSlice (utf8 (render (errorBody (handlerErrorValue cause data))))
      = .ok (errorBody (handlerErrorValue cause data))) :
    Decodes (reply status (errorBody (handlerErrorValue cause data)))
      (.error (rpcErrorOf (handlerErrorValue cause data))) := by
  refine ⟨errorBody _, ⟨_, rfl, ?_⟩, asResponse_errorBody cause data⟩
  exact (congrArg decodeBody h).trans (decodedToParsed_errorBody cause data)

end Decoded

lemma decodes_resultBody (status : StatusCode) (v : Value) (bodies : List Value) :
    letI := serdeJson (resultBody v :: bodies)
    Decodes (reply status (resultBody v)) (.ok v) :=
  let := serdeJson (resultBody v :: bodies)
  decodes_of_resultBody status (decodeText_render _ bodies)

lemma decodes_errorBody (status : StatusCode) (cause data : Value) (bodies : List Value) :
    letI := serdeJson (errorBody (handlerErrorValue cause data) :: bodies)
    Decodes (reply status (errorBody (handlerErrorValue cause data)))
      (.error (rpcErrorOf (handlerErrorValue cause data))) :=
  let := serdeJson (errorBody (handlerErrorValue cause data) :: bodies)
  decodes_of_errorBody status (decodeText_render _ bodies)

/-- A call of an encodable request to an address is answered. -/
lemma answered_always {M R E : Type} [RpcHandlerResponse R] [RpcHandlerError E]
    [RpcMethod M R E] (bodies : List Value) {self : JsonRpcClient} {method : M} {p : Value}
    (hp : RpcMethod.params method = .ok p) (haddr : self.serverAddr ≠ "")
    (response : HttpResponse) :
    letI := serdeJson bodies
    Answered self (always response) method response := by
  exact ⟨_, ⟨p, _, hp, rfl, if_neg haddr⟩, rfl⟩

/-- A call that is answered with a result returns what the method reads in it. -/
lemma call_result_resultBody {M R E : Type} [RpcHandlerResponse R] [RpcHandlerError E]
    [RpcMethod M R E] (v : Value) (bodies : List Value) {self : JsonRpcClient} {method : M}
    {p : Value} (hp : RpcMethod.params method = .ok p) (haddr : self.serverAddr ≠ "") :
    letI := serdeJson (resultBody v :: bodies)
    (self.call (always (reply .OK (resultBody v))) method).result = parseResult M (.ok v) := by
  let := serdeJson (resultBody v :: bodies)
  rw [call_result_of_answered (answered_always _ hp haddr _)]
  exact readResponse_result_of_decodes rfl (decodes_resultBody .OK v bodies)

/-- A call that is answered with an error of the handler returns what this is converted to. -/
lemma call_result_errorBody {M R E : Type} [RpcHandlerResponse R] [RpcHandlerError E]
    [RpcMethod M R E] (cause data : Value) (bodies : List Value) {self : JsonRpcClient}
    {method : M} {p : Value} (hp : RpcMethod.params method = .ok p) (haddr : self.serverAddr ≠ "") :
    letI := serdeJson (errorBody (handlerErrorValue cause data) :: bodies)
    (self.call (always (reply .OK (errorBody (handlerErrorValue cause data)))) method).result
      = .error (.fromRpcError (rpcErrorOf (handlerErrorValue cause data))) := by
  let := serdeJson (errorBody (handlerErrorValue cause data) :: bodies)
  rw [call_result_of_answered (answered_always _ hp haddr _)]
  exact readResponse_result_of_decodes rfl (decodes_errorBody .OK cause data bodies)

/-! ## The status of a transaction -/

/-- The body in which a node reports that a transaction was not executed in time. -/
def timeoutBody : Value := errorBody (handlerErrorValue (taggedUnit "TIMEOUT_ERROR") .null)

/-- The status of a transaction, asked of a local node. -/
def timeoutRequest : Tx.RpcTransactionStatusRequest where
  transactionInfo := .transactionId
    (Value.string "6GTgCQ5genLEEiPspEvdZEJooBzgWRrUnur9eGSdeTTD") (Value.string "miraclx.testnet")
  waitUntil := Value.string "FINAL"

def localNode : JsonRpcClient := .connect "http://localhost:3030"

lemma parse_timeoutError :
    RpcHandlerError.parse (taggedUnit "TIMEOUT_ERROR") = .ok RpcTransactionError.timeoutError := by
  change rpcTransactionErrorFromValue _ = _
  rw [rpcTransactionErrorFromValue, nameOf_taggedUnit]
  rfl

/-- Asked for the status of a transaction, a call returns the one that the node has, and the
error that the handler of the node reports. -/
theorem call_result_timeoutRequest :
    (letI _ : SerdeJson := serdeJson [resultBody (.string "executed")];
      (localNode.call (always (reply .OK (resultBody (.string "executed"))))
        timeoutRequest).result = .ok (Value.string "executed")) ∧
    (letI _ : SerdeJson := serdeJson [timeoutBody];
      ∃ e, (localNode.call (always (reply .OK timeoutBody)) timeoutRequest).result = .error e ∧
        e.handlerError = some .timeoutError) := by
  constructor
  · let := serdeJson [resultBody (.string "executed")]
    refine ((JsonRpcClient.call_result localNode _ timeoutRequest).1 _).2
      ⟨⟨_, rfl⟩, _, answered_always _ rfl (by decide) _, rfl, _, decodes_resultBody _ _ [], rfl⟩
  · let := serdeJson [timeoutBody]
    refine ((JsonRpcClient.call_result localNode _ timeoutRequest).2.1 _
      (answered_always _ rfl (by decide) _) rfl).1 _ |>.2 ?_
    exact .inr ⟨_, decodes_errorBody _ _ _ [], .inl ⟨_, rpcErrorOf_errorStruct _ _,
      parse_timeoutError⟩⟩

end Replies

end NearJsonrpcClient.Reference
