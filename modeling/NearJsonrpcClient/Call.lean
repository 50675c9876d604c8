/-
# The method executor

`JsonRpcClient::call` of `lib.rs`.  A call is a computation that emits the lines it logs
and the request it puts on the wire, and ends with the response of the method or with an
error.  The server is a function from requests to replies.
-/
import NearJsonrpcClient.Lib.Traced
import NearJsonrpcClient.Client
import NearJsonrpcClient.Errors

namespace NearJsonrpcClient

open Lib

variable [Near] [Reqwest] [SerdeJson]

/-- What can be observed of a call before it ends. -/
inductive Event where
  /-- A line of `log::debug!`. -/
  | debug (line : String)
  /-- A request put on the wire. -/
  | sent (request : WireRequest)

variable {M R E : Type} [RpcHandlerResponse R] [RpcHandlerError E] [RpcMethod M R E]

/-- The error for a reply whose status is not 200. -/
def nonOkStatus (status : StatusCode) : JsonRpcServerError E :=
  if status = .UNAUTHORIZED then .responseStatusError .unauthorized
  else if status = .TOO_MANY_REQUESTS then .responseStatusError .tooManyRequests
  else if status = .BAD_REQUEST then .responseStatusError .badRequest
  else if status = .INTERNAL_SERVER_ERROR then .internalError (some "Internal server error")
  else if status = .SERVICE_UNAVAILABLE then .responseStatusError .serviceUnavailable
  else if status = .REQUEST_TIMEOUT then .responseStatusError .timeoutError
  else .responseStatusError (.unexpected status)

/-- The message in the bytes of a body. -/
def decodeBody (responsePayload : Except SerdeError Value) : Except Broken Message :=
  Near.decodedToParsed (responsePayload.bind Near.wireMessageFromValue)

/-- What `call` makes of the field `result` of a response. -/
def parseResult (M : Type) [RpcMethod M R E] (result : Except RpcError Value) :
    Except (JsonRpcError E) R :=
  match result with
  | .error err => .error (.fromRpcError err)
  | .ok value =>
      match RpcMethod.parseHandlerResponse M value with
      | .error err => .error (.resultParseError err)
      | .ok (.error err) => .error (.serverError (.handlerError err))
      | .ok (.ok response) => .ok response

/-- The second half of `call`: what it does with a reply. -/
def readResponse (M : Type) [RpcMethod M R E] (response : HttpResponse) :
    Traced Event (JsonRpcError E) R := do
  Traced.emit (.debug ("response headers: " ++ Http.debugMap true response.headers))
  Traced.lift (if response.status = .OK then .ok ()
    else .error (.serverError (nonOkStatus response.status)))
  let responsePayload ← Traced.lift (response.bytes.mapError .payloadRecvError)
  let responsePayload := SerdeJson.fromSlice responsePayload
  if let .ok responsePayload := responsePayload then
    Traced.emit (.debug ("response payload: " ++ SerdeJson.display responsePayload))
  let responseMessage ← Traced.lift ((decodeBody responsePayload).mapError .payloadParseError)
  match Near.asResponse responseMessage with
  | some result => Traced.lift (parseResult M result)
  | none => Traced.lift (.error (.unexpectedServerResponse responseMessage))

/-- RPC method executor for the client. -/
def JsonRpcClient.call (self : JsonRpcClient) (server : Server) (method : M) :
    Traced Event (JsonRpcError E) R := do
  let requestPayload ← Traced.lift ((toJson method).mapError .payloadSerializeError)
  Traced.emit (.debug ("request payload: " ++ SerdeJson.display requestPayload))
  Traced.emit (.debug ("request headers: " ++ Http.debugMap true self.headers))
  let requestPayload ← Traced.lift ((SerdeJson.toVec requestPayload).mapError
    fun err => .payloadSerializeError err.into)
  let request := Reqwest.withBody (Reqwest.withHeaders
    (Reqwest.post self.inner.client self.inner.serverAddr) self.headers) requestPayload
  let request ← Traced.lift ((Reqwest.wire request).mapError .payloadSendError)
  Traced.emit (.sent request)
  let response ← Traced.lift ((server request).mapError .payloadSendError)
  readResponse M response

end NearJsonrpcClient
