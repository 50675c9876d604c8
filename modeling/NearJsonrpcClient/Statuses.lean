/-
# The status of a reply and the error in its body

A node sends the error of a response with a status of its own choice.  The client looks at
the status first and reads the body only when it is 200, so the same body is reported in
two ways: by the error that it holds, or by the status alone.
-/
import NearJsonrpcClient.Reference.Replies

namespace NearJsonrpcClient

section Statuses

variable [Near] [Reqwest] [SerdeJson]
  {M R E : Type} [RpcHandlerResponse R] [RpcHandlerError E] [RpcMethod M R E]

/-- The structured error of the handler that the client recognises, or the validation error,
that the error of a response holds. -/
inductive StructuredError (err : RpcError) : JsonRpcServerError E → Prop
  | handler {v : Value} {h : E} (hs : err.errorStruct = some (.handlerError v))
      (hp : RpcHandlerError.parse v = .ok h) : StructuredError err (.handlerError h)
  | validation {k : RpcRequestValidationErrorKind}
      (hs : err.errorStruct = some (.requestValidationError k)) :
      StructuredError err (.requestValidationError k)

omit [Reqwest] [SerdeJson] in
lemma StructuredError.converts {err : RpcError} {e : JsonRpcServerError E}
    (h : StructuredError err e) : Converts err (.serverError e) := by
  cases h with
  | handler hs hp => exact .handler hs hp
  | validation hs => exact .validation hs

/-! ## The errors of the statuses -/

omit [Reqwest] [SerdeJson] [RpcHandlerError E] in
/-- No status is reported as an error of the handler. -/
lemma handlerError_nonOkStatus (status : StatusCode) :
    (JsonRpcError.serverError (nonOkStatus (E := E) status)).handlerError = none := by
  unfold nonOkStatus
  split_ifs <;> rfl

/-- The status that an error reports. -/
def reportedStatus : JsonRpcServerError E → Option StatusCode
  | .responseStatusError .unauthorized => some .UNAUTHORIZED
  | .responseStatusError .tooManyRequests => some .TOO_MANY_REQUESTS
  | .responseStatusError .badRequest => some .BAD_REQUEST
  | .internalError _ => some .INTERNAL_SERVER_ERROR
  | .responseStatusError .serviceUnavailable => some .SERVICE_UNAVAILABLE
  | .responseStatusError .timeoutError => some .REQUEST_TIMEOUT
  | .responseStatusError (.unexpected status) => some status
  | _ => none

omit [Reqwest] [SerdeJson] [RpcHandlerError E] in
lemma reportedStatus_nonOkStatus (status : StatusCode) :
    reportedStatus (nonOkStatus (E := E) status) = some status := by
  unfold nonOkStatus
  split_ifs with h₁ h₂ h₃ h₄ h₅ h₆
  · exact congrArg some h₁.symm
  · exact congrArg some h₂.symm
  · exact congrArg some h₃.symm
  · exact congrArg some h₄.symm
  · exact congrArg some h₅.symm
  · exact congrArg some h₆.symm
  · rfl

omit [Reqwest] [SerdeJson] in
/-- No status is reported as an error that a body holds. -/
lemma StructuredError.ne_nonOkStatus {err : RpcError} {e : JsonRpcServerError E}
    (h : StructuredError err e) (status : StatusCode) : e ≠ nonOkStatus status := by
  rintro rfl
  have hnone : reportedStatus (nonOkStatus (E := E) status) = none := by
    generalize nonOkStatus status = e at h
    cases h <;> rfl
  cases hnone.symm.trans (reportedStatus_nonOkStatus status)

omit [Reqwest] [SerdeJson] [RpcHandlerError E] in
/-- Every status is reported in its own way. -/
lemma nonOkStatus_injective {s s' : StatusCode}
    (h : nonOkStatus (E := E) s = nonOkStatus s') : s = s' := by
  have hs := congrArg reportedStatus h
  rw [reportedStatus_nonOkStatus, reportedStatus_nonOkStatus] at hs
  exact Option.some_inj.1 hs

/-! ## Calls -/

/-- A call whose reply holds a structured error, by the status of the reply. -/
lemma call_result_of_structuredError {self : JsonRpcClient} {server : Server} {method : M}
    {response : HttpResponse} {err : RpcError} {e : JsonRpcServerError E}
    (ha : Answered self server method response) (hd : Decodes response (.error err))
    (he : StructuredError err e) :
    (self.call server method).result = .error (.serverError
      (if response.status = .OK then e else nonOkStatus response.status)) := by
  rw [call_result_of_answered ha]
  split
  · next hs => exact readResponse_result_of_outcome hs (.error hd he.converts)
  · next hs => exact readResponse_result_of_status_ne hs

/-- **The status of a reply and the error in its body.** A structured error in the body is
reported when the status is 200.  With any other status the status is reported, as an error
that is not one of the handler and that no body with status 200 gives.  Two replies that
hold the same structured error are therefore reported in the same way exactly when they
have the same status. -/
theorem JsonRpcClient.call_result_of_rpcError (err : RpcError) (e : JsonRpcServerError E)
    (he : StructuredError err e) (self : JsonRpcClient) (server : Server) (method : M)
    (response : HttpResponse) (ha : Answered self server method response)
    (hd : Decodes response (.error err)) :
    (response.status = .OK → (self.call server method).result = .error (.serverError e)) ∧
    (response.status ≠ .OK →
      (self.call server method).result = .error (.serverError (nonOkStatus response.status)) ∧
      (JsonRpcError.serverError (nonOkStatus (E := E) response.status)).handlerError = none ∧
      nonOkStatus response.status ≠ e) ∧
    ∀ (self' : JsonRpcClient) (server' : Server) (method' : M) (response' : HttpResponse),
      Answered self' server' method' response' → Decodes response' (.error err) →
      ((self.call server method).result = (self'.call server' method').result
        ↔ response.status = response'.status) := by
  have hresult := call_result_of_structuredError ha hd he
  refine ⟨?_, ?_, ?_⟩
  · intro hs
    rw [hresult, if_pos hs]
  · intro hs
    rw [hresult, if_neg hs]
    exact ⟨rfl, handlerError_nonOkStatus _, (he.ne_nonOkStatus _).symm⟩
  · intro self' server' method' response' ha' hd'
    rw [hresult, call_result_of_structuredError ha' hd' he]
    simp only [Except.error.injEq, JsonRpcError.serverError.injEq]
    constructor
    · intro h
      split at h <;> split at h
      · next hs hs' => rw [hs, hs']
      · exact absurd h (he.ne_nonOkStatus _)
      · exact absurd h.symm (he.ne_nonOkStatus _)
      · exact nonOkStatus_injective h
    · intro h
      rw [h]

end Statuses

section Timeout

open scoped Reference
open Reference

local instance timeoutJson : SerdeJson := serdeJson [timeoutBody]

lemma structuredError_timeoutBody :
    StructuredError (rpcErrorOf (handlerErrorValue (taggedUnit "TIMEOUT_ERROR") .null))
      (.handlerError RpcTransactionError.timeoutError) :=
  .handler (rpcErrorOf_errorStruct _ _) parse_timeoutError

lemma answered_timeoutRequest (status : StatusCode) :
    Answered localNode (always (reply status timeoutBody)) timeoutRequest
      (reply status timeoutBody) :=
  answered_always _ rfl (by decide) _

/-- The timeout of the handler is reported with status 200, and not with status 408. -/
theorem JsonRpcClient.call_result_timeoutBody :
    (localNode.call (always (reply .OK timeoutBody)) timeoutRequest).result
        = .error (.serverError (.handlerError .timeoutError)) ∧
      (localNode.call (always (reply .OK timeoutBody)) timeoutRequest).result
        ≠ (localNode.call (always (reply .REQUEST_TIMEOUT timeoutBody)) timeoutRequest).result := by
  have h := call_result_of_rpcError _ _ structuredError_timeoutBody localNode _ timeoutRequest _
    (answered_timeoutRequest .OK) (decodes_errorBody _ _ _ [])
  refine ⟨h.1 rfl, ?_⟩
  rw [Ne, h.2.2 localNode _ timeoutRequest _ (answered_timeoutRequest .REQUEST_TIMEOUT)
    (decodes_errorBody _ _ _ [])]
  decide

/-- With status 408 the same body is not reported as the timeout of the handler. -/
theorem JsonRpcClient.call_result_requestTimeout :
    Decodes (reply .REQUEST_TIMEOUT timeoutBody)
        (.error (rpcErrorOf (handlerErrorValue (taggedUnit "TIMEOUT_ERROR") .null))) ∧
      StructuredError (rpcErrorOf (handlerErrorValue (taggedUnit "TIMEOUT_ERROR") .null))
        (.handlerError RpcTransactionError.timeoutError) ∧
      (localNode.call (always (reply .REQUEST_TIMEOUT timeoutBody)) timeoutRequest).result
        = .error (.serverError (.responseStatusError .timeoutError)) ∧
      (JsonRpcError.serverError (E := RpcTransactionError)
        (.responseStatusError .timeoutError)).handlerError = none := by
  refine ⟨decodes_errorBody _ _ _ [], structuredError_timeoutBody, ?_, rfl⟩
  rw [call_result_of_structuredError (answered_timeoutRequest _) (decodes_errorBody _ _ _ [])
    structuredError_timeoutBody]
  rfl

end Timeout

end NearJsonrpcClient
