/-
# Error types

The errors of `errors.rs`, the accessor `handler_error`, and the conversion of the error
of a JSON-RPC response into the error that `call` returns.
-/
import NearJsonrpcClient.Http
import NearJsonrpcClient.Methods

namespace NearJsonrpcClient

/-- Potential errors returned while sending a request to the RPC server. -/
inductive JsonRpcTransportSendError where
  /-- Client is unable to serialize the request payload before sending it to the server. -/
  | payloadSerializeError (err : IoError)
  /-- Client is unable to send the request to the server. -/
  | payloadSendError (err : ReqwestError)

/-- Potential errors returned when the client has an issue parsing the response of a method
call. -/
inductive JsonRpcTransportHandlerResponseError where
  /-- Client fails to deserialize the result of a method call. -/
  | resultParseError (err : SerdeError)
  /-- Client fails to deserialize the error message returned from a method call. -/
  | errorMessageParseError (err : SerdeError)

/-- Unexpected status codes returned by the RPC server. -/
inductive JsonRpcServerResponseStatusError where
  | unauthorized
  | tooManyRequests
  | badRequest
  | timeoutError
  | serviceUnavailable
  | unexpected (status : StatusCode)

variable [NearTypes]

/-- Potential errors returned while receiving responses from an RPC server. -/
inductive JsonRpcTransportRecvError where
  /-- Client receives a JSON RPC message body that isn't structured as a response. -/
  | unexpectedServerResponse (message : Message)
  /-- Client is unable to read the response from the RPC server. -/
  | payloadRecvError (err : ReqwestError)
  /-- The base response structure is malformed. -/
  | payloadParseError (err : Broken)
  | responseParseError (err : JsonRpcTransportHandlerResponseError)

/-- Potential errors returned while sending requests to or receiving responses from the RPC
server. -/
inductive RpcTransportError where
  | sendError (err : JsonRpcTransportSendError)
  | recvError (err : JsonRpcTransportRecvError)

/-- Potential errors returned by the RPC server. -/
inductive JsonRpcServerError (E : Type) where
  /-- An invalid RPC method is called or the arguments cannot be parsed. -/
  | requestValidationError (kind : RpcRequestValidationErrorKind)
  /-- RPC method call error. -/
  | handlerError (err : E)
  /-- The RPC server returned an internal server error. -/
  | internalError (info : Option String)
  /-- The RPC server returned a response without context. -/
  | nonContextualError (err : RpcError)
  /-- Unexpected status codes returned by the RPC server. -/
  | responseStatusError (err : JsonRpcServerResponseStatusError)

/-- Potential errors returned by the RPC client. -/
inductive JsonRpcError (E : Type) where
  | transportError (err : RpcTransportError)
  | serverError (err : JsonRpcServerError E)

namespace JsonRpcError

variable {E : Type}

/-- The error of the handler, when the error is one. -/
def handlerError : JsonRpcError E → Option E
  | .serverError (.handlerError err) => some err
  | _ => none

lemma handlerError_eq_some {err : JsonRpcError E} {h : E} :
    err.handlerError = some h ↔ err = .serverError (.handlerError h) := by
  constructor
  · intro hs
    rcases err with _ | (_ | err | _ | _ | _)
    · simp [handlerError] at hs
    · simp [handlerError] at hs
    · rw [handlerError, Option.some_inj] at hs
      rw [hs]
    all_goals simp [handlerError] at hs
  · rintro rfl
    rfl

/-! ### Errors by the name of their innermost constructor -/

abbrev payloadSerializeError (err : IoError) : JsonRpcError E :=
  .transportError (.sendError (.payloadSerializeError err))

abbrev payloadSendError (err : ReqwestError) : JsonRpcError E :=
  .transportError (.sendError (.payloadSendError err))

abbrev payloadRecvError (err : ReqwestError) : JsonRpcError E :=
  .transportError (.recvError (.payloadRecvError err))

abbrev payloadParseError (err : Broken) : JsonRpcError E :=
  .transportError (.recvError (.payloadParseError err))

abbrev unexpectedServerResponse (message : Message) : JsonRpcError E :=
  .transportError (.recvError (.unexpectedServerResponse message))

abbrev resultParseError (err : SerdeError) : JsonRpcError E :=
  .transportError (.recvError (.responseParseError (.resultParseError err)))

abbrev errorMessageParseError (err : SerdeError) : JsonRpcError E :=
  .transportError (.recvError (.responseParseError (.errorMessageParseError err)))

/-! ## The conversion of the error of a response -/

variable [RpcHandlerError E]

/-- The first `match` of the conversion: return an error, or go on with the contents of the
slot `handler_parse_error`. -/
def fromErrorStruct : Option RpcErrorKind → JsonRpcError E ⊕ Option SerdeError
  | some (.handlerError handlerErr) =>
      match RpcHandlerError.parse handlerErr with
      | .ok handlerErr => .inl (.serverError (.handlerError handlerErr))
      | .error err => .inr (some err)
  | some (.requestValidationError err) => .inl (.serverError (.requestValidationError err))
  | some (.internalError err) =>
      .inl (.serverError (.internalError ((err.index "info").index "error_message").asStr))
  | none => .inr none

/-- The second `match` of the conversion, on the field `data`; a rejection by the legacy
parser replaces the contents of the slot. -/
def fromData (handlerParseError : Option SerdeError) :
    Option Value → JsonRpcError E ⊕ Option SerdeError
  | some rawErrData =>
      match RpcHandlerError.parseLegacyError rawErrData with
      | some (.ok handlerErr) => .inl (.serverError (.handlerError handlerErr))
      | some (.error err) => .inr (some err)
      | none => .inr handlerParseError
  | none => .inr handlerParseError

/-- `From<RpcError> for JsonRpcError<E>`. -/
def fromRpcError (err : RpcError) : JsonRpcError E :=
  match fromErrorStruct err.errorStruct with
  | .inl result => result
  | .inr handlerParseError =>
      match fromData handlerParseError err.data with
      | .inl result => result
      | .inr (some parseError) =>
          .errorMessageParseError parseError
      | .inr none => .serverError (.nonContextualError err)

end JsonRpcError

end NearJsonrpcClient
