/-
# Classification of replies

What `call` returns, as a relation between the reply of the server and the outcome: one
constructor for each way in which the pipeline of `call` can end.  The relation is
functional and total on the replies with status 200, and `call` is the function that it
describes; every other reply is classified by its status alone.
-/
import NearJsonrpcClient.Call
import NearJsonrpcClient.Conversion

namespace NearJsonrpcClient

open Lib

section Classification

variable [Near] [Reqwest] [SerdeJson]
  {M R E : Type} [RpcHandlerResponse R] [RpcHandlerError E] [RpcMethod M R E]

/-! ## The exchange -/

/-- The request of `call`, before it is sent. -/
def JsonRpcClient.requestBuilder (self : JsonRpcClient) (body : Bytes) : Reqwest.RequestBuilder :=
  Reqwest.withBody (Reqwest.withHeaders
    (Reqwest.post self.inner.client self.inner.serverAddr) self.headers) body

/-- The request that a call puts on the wire: a message with the name of the method and its
parameters. -/
def Sends (self : JsonRpcClient) (method : M) (request : WireRequest) : Prop :=
  ∃ params body, RpcMethod.params method = .ok params ∧
    SerdeJson.toVec (Near.messageToValue
      (Near.messageRequest (RpcMethod.methodName method) params)) = .ok body ∧
    Reqwest.wire (self.requestBuilder body) = .ok request

/-- The request of a call is encoded, put on the wire and answered. -/
def Answered (self : JsonRpcClient) (server : Server) (method : M) (response : HttpResponse) :
    Prop :=
  ∃ request, Sends self method request ∧ server request = .ok response

/-- The body of a reply decodes to a message. -/
def DecodesTo (response : HttpResponse) (message : Except Broken Message) : Prop :=
  ∃ bytes, response.bytes = .ok bytes ∧
    Near.decodedToParsed ((SerdeJson.fromSlice bytes).bind Near.wireMessageFromValue) = message

/-- The body of a reply decodes to a response with a result. -/
def Decodes (response : HttpResponse) (result : Except RpcError Value) : Prop :=
  ∃ message, DecodesTo response (.ok message) ∧ Near.asResponse message = some result

/-- The request of a call goes through the stages of `call`. -/
lemma sends_iff {self : JsonRpcClient} {method : M} {request : WireRequest} :
    Sends self method request ↔ ∃ payload body, toJson method = .ok payload ∧
      SerdeJson.toVec payload = .ok body ∧
      Reqwest.wire (self.requestBuilder body) = .ok request := by
  constructor
  · rintro ⟨params, body, hparams, hbody, hrequest⟩
    exact ⟨_, body, toJson_eq_ok_iff.2 ⟨params, hparams, rfl⟩, hbody, hrequest⟩
  · rintro ⟨payload, body, hpayload, hbody, hrequest⟩
    obtain ⟨params, hparams, rfl⟩ := toJson_eq_ok_iff.1 hpayload
    exact ⟨params, body, hparams, hbody, hrequest⟩

lemma Answered.params {self : JsonRpcClient} {server : Server} {method : M}
    {response : HttpResponse} (h : Answered self server method response) :
    ∃ p, RpcMethod.params method = .ok p := by
  obtain ⟨-, ⟨params, -, hparams, -⟩, -⟩ := h
  exact ⟨params, hparams⟩

/-- A call sends at most one request. -/
lemma Sends.unique {self : JsonRpcClient} {method : M} {q q' : WireRequest}
    (h : Sends self method q) (h' : Sends self method q') : q = q' := by
  obtain ⟨p, b, hp, hb, hq⟩ := h
  obtain ⟨p', b', hp', hb', hq'⟩ := h'
  obtain rfl : p = p' := Except.ok.inj (hp.symm.trans hp')
  obtain rfl : b = b' := Except.ok.inj (hb.symm.trans hb')
  exact Except.ok.inj (hq.symm.trans hq')

/-- A call is answered by at most one reply. -/
lemma Answered.unique {self : JsonRpcClient} {server : Server} {method : M}
    {r r' : HttpResponse} (h : Answered self server method r)
    (h' : Answered self server method r') : r = r' := by
  obtain ⟨q, hq, hr⟩ := h
  obtain ⟨q', hq', hr'⟩ := h'
  obtain rfl := hq.unique hq'
  exact Except.ok.inj (hr.symm.trans hr')

/-- A body decodes to at most one result. -/
lemma Decodes.unique {response : HttpResponse} {r r' : Except RpcError Value}
    (h : Decodes response r) (h' : Decodes response r') : r = r' := by
  obtain ⟨message, ⟨bytes, hb, hm⟩, hr⟩ := h
  obtain ⟨message', ⟨bytes', hb', hm'⟩, hr'⟩ := h'
  obtain rfl : bytes = bytes' := Except.ok.inj (hb.symm.trans hb')
  obtain rfl : message = message' := Except.ok.inj (hm.symm.trans hm')
  exact Option.some_inj.1 (hr.symm.trans hr')

/-- What `call` does with the outcome of sending its request. -/
def receive (M : Type) [RpcMethod M R E] (reply : Except ReqwestError HttpResponse) :
    Traced Event (JsonRpcError E) R := do
  let response ← Traced.lift (reply.mapError .payloadSendError)
  readResponse M response

lemma receive_error (e : ReqwestError) :
    receive M (.error e) = ⟨[], .error (.payloadSendError e)⟩ := rfl

lemma receive_ok (response : HttpResponse) :
    receive M (.ok response) = readResponse M response := rfl

/-- The lines that `call` logs before it sends its request. -/
def JsonRpcClient.requestLines (self : JsonRpcClient) (payload : Value) : List Event :=
  [.debug ("request payload: " ++ SerdeJson.display payload),
    .debug ("request headers: " ++ Http.debugMap true self.headers)]

section Stages

variable {self : JsonRpcClient} {server : Server} {method : M} {payload : Value} {body : Bytes}

lemma call_of_toJson_error {e : IoError} (hpayload : toJson method = .error e) :
    self.call server method = ⟨[], .error (.payloadSerializeError e)⟩ := by
  simp only [JsonRpcClient.call, hpayload, Except.mapError, Traced.lift_error_bind]
  rfl

lemma call_of_toVec_error {e : SerdeError} (hpayload : toJson method = .ok payload)
    (hbody : SerdeJson.toVec payload = .error e) :
    self.call server method
      = ⟨self.requestLines payload, .error (.payloadSerializeError e.into)⟩ := by
  simp only [JsonRpcClient.call, hpayload, hbody, Except.mapError, Traced.lift_ok_bind,
    Traced.emit_bind, Traced.lift_error_bind]
  rfl

lemma call_of_wire_error {e : ReqwestError} (hpayload : toJson method = .ok payload)
    (hbody : SerdeJson.toVec payload = .ok body)
    (hrequest : Reqwest.wire (self.requestBuilder body) = .error e) :
    self.call server method = ⟨self.requestLines payload, .error (.payloadSendError e)⟩ := by
  rw [JsonRpcClient.requestBuilder] at hrequest
  simp only [JsonRpcClient.call, hpayload, hbody, hrequest, Except.mapError,
    Traced.lift_ok_bind, Traced.emit_bind, Traced.lift_error_bind]
  rfl

lemma call_of_wire {request : WireRequest} (hpayload : toJson method = .ok payload)
    (hbody : SerdeJson.toVec payload = .ok body)
    (hrequest : Reqwest.wire (self.requestBuilder body) = .ok request) :
    self.call server method
      = ⟨self.requestLines payload ++ .sent request :: (receive M (server request)).events,
          (receive M (server request)).result⟩ := by
  rw [JsonRpcClient.requestBuilder] at hrequest
  simp only [JsonRpcClient.call, hpayload, hbody, hrequest, Except.mapError,
    Traced.lift_ok_bind, Traced.emit_bind]
  rfl

end Stages

/-- An answered call returns what it reads in the reply. -/
lemma call_result_of_answered {self : JsonRpcClient} {server : Server} {method : M}
    {response : HttpResponse} (h : Answered self server method response) :
    (self.call server method).result = (readResponse M response).result := by
  obtain ⟨request, hsends, hresponse⟩ := h
  obtain ⟨payload, body, hpayload, hbody, hrequest⟩ := sends_iff.1 hsends
  rw [call_of_wire hpayload hbody hrequest, hresponse]
  rfl

/-- A call that is not answered fails to send. -/
lemma call_result_of_not_answered {self : JsonRpcClient} {server : Server} {method : M}
    (h : ∀ response, ¬ Answered self server method response) :
    ∃ e, (self.call server method).result
      = .error (.transportError (.sendError e) : JsonRpcError E) := by
  cases hpayload : toJson method with
  | error e => exact ⟨_, by rw [call_of_toJson_error hpayload]⟩
  | ok payload =>
    cases hbody : SerdeJson.toVec payload with
    | error e => exact ⟨_, by rw [call_of_toVec_error hpayload hbody]⟩
    | ok body =>
      cases hrequest : Reqwest.wire (self.requestBuilder body) with
      | error e => exact ⟨_, by rw [call_of_wire_error hpayload hbody hrequest]⟩
      | ok request =>
        cases hresponse : server request with
        | error e =>
          refine ⟨.payloadSendError e, ?_⟩
          rw [call_of_wire hpayload hbody hrequest, hresponse]
          rfl
        | ok response =>
          have hsends : Sends self method request :=
            sends_iff.2 ⟨payload, body, hpayload, hbody, hrequest⟩
          exact absurd ⟨request, hsends, hresponse⟩ (h response)

/-! ## The reply -/

/-- What the body of a reply with status 200 amounts to. -/
inductive Outcome (M : Type) [RpcMethod M R E] (response : HttpResponse) :
    Except (JsonRpcError E) R → Prop
  | unreadable {e : ReqwestError} (hb : response.bytes = .error e) :
      Outcome M response (.error (.payloadRecvError e))
  | malformed {e : Broken} (hm : DecodesTo response (.error e)) :
      Outcome M response (.error (.payloadParseError e))
  | notResponse {message : Message} (hm : DecodesTo response (.ok message))
      (hr : Near.asResponse message = none) :
      Outcome M response (.error (.unexpectedServerResponse message))
  | resultRejected {v : Value} {e : SerdeError} (hd : Decodes response (.ok v))
      (hp : RpcMethod.parseHandlerResponse M v = .error e) :
      Outcome M response (.error (.resultParseError e))
  | resultError {v : Value} {h : E} (hd : Decodes response (.ok v))
      (hp : RpcMethod.parseHandlerResponse M v = .ok (.error h)) :
      Outcome M response (.error (.serverError (.handlerError h)))
  | success {v : Value} {r : R} (hd : Decodes response (.ok v))
      (hp : RpcMethod.parseHandlerResponse M v = .ok (.ok r)) : Outcome M response (.ok r)
  | error {err : RpcError} {e : JsonRpcError E} (hd : Decodes response (.error err))
      (hc : Converts err e) : Outcome M response (.error e)

/-- What a status other than 200 is reported as. -/
inductive StatusError : StatusCode → JsonRpcServerError E → Prop
  | unauthorized : StatusError .UNAUTHORIZED (.responseStatusError .unauthorized)
  | tooManyRequests : StatusError .TOO_MANY_REQUESTS (.responseStatusError .tooManyRequests)
  | badRequest : StatusError .BAD_REQUEST (.responseStatusError .badRequest)
  | internalError :
      StatusError .INTERNAL_SERVER_ERROR (.internalError (some "Internal server error"))
  | serviceUnavailable :
      StatusError .SERVICE_UNAVAILABLE (.responseStatusError .serviceUnavailable)
  | timeoutError : StatusError .REQUEST_TIMEOUT (.responseStatusError .timeoutError)
  | unexpected {status : StatusCode} (h : status.code ∉ [401, 429, 400, 500, 503, 408]) :
      StatusError status (.responseStatusError (.unexpected status))

omit [Reqwest] [SerdeJson] [RpcHandlerError E] in
lemma statusError_nonOkStatus (status : StatusCode) :
    StatusError (E := E) status (nonOkStatus status) := by
  have hcode : ∀ s : StatusCode, status.code = s.code → status = s := by
    rintro ⟨n, hn⟩ h
    obtain ⟨code, hrange⟩ := status
    obtain rfl : code = n := h
    rfl
  unfold nonOkStatus
  split_ifs with h₁ h₂ h₃ h₄ h₅ h₆
  · rw [h₁]
    exact .unauthorized
  · rw [h₂]
    exact .tooManyRequests
  · rw [h₃]
    exact .badRequest
  · rw [h₄]
    exact .internalError
  · rw [h₅]
    exact .serviceUnavailable
  · rw [h₆]
    exact .timeoutError
  · refine .unexpected ?_
    simp only [List.mem_cons, List.not_mem_nil, or_false, not_or]
    exact ⟨fun h => h₁ (hcode _ h), fun h => h₂ (hcode _ h), fun h => h₃ (hcode _ h),
      fun h => h₄ (hcode _ h), fun h => h₅ (hcode _ h), fun h => h₆ (hcode _ h)⟩

/-- The line that `call` logs about the head of a reply. -/
def headersLine (response : HttpResponse) : Event :=
  .debug ("response headers: " ++ Http.debugMap true response.headers)

/-- The line that `call` logs about a body that is JSON. -/
def payloadLines : Except SerdeError Value → List Event
  | .ok payload => [.debug ("response payload: " ++ SerdeJson.display payload)]
  | .error _ => []

/-- What `call` makes of the message in a body. -/
def readMessage (M : Type) [RpcMethod M R E] : Except Broken Message → Except (JsonRpcError E) R
  | .error e => .error (.payloadParseError e)
  | .ok message =>
      match Near.asResponse message with
      | some result => parseResult M result
      | none => .error (.unexpectedServerResponse message)

section Reading

variable {response : HttpResponse}

lemma readResponse_of_status_ne (h : response.status ≠ .OK) :
    readResponse M response
      = ⟨[headersLine response], .error (.serverError (nonOkStatus response.status))⟩ := by
  simp only [readResponse, if_neg h, Traced.emit_bind, Traced.lift_error_bind]
  rfl

lemma readResponse_of_bytes_error (h : response.status = .OK) {e : ReqwestError}
    (hb : response.bytes = .error e) :
    readResponse M response = ⟨[headersLine response], .error (.payloadRecvError e)⟩ := by
  simp only [readResponse, if_pos h, hb, Except.mapError, Traced.emit_bind,
    Traced.lift_ok_bind, Traced.lift_error_bind]
  rfl

/-- With status 200 the body decides; the line that logs it does not matter. -/
lemma readResponse_of_bytes (h : response.status = .OK) {bytes : Bytes}
    (hb : response.bytes = .ok bytes) :
    readResponse M response
      = ⟨headersLine response :: payloadLines (SerdeJson.fromSlice bytes),
          readMessage M (decodeBody (SerdeJson.fromSlice bytes))⟩ := by
  have hmessage : ∀ x : Except Broken Message,
      (do
        let message ← Traced.lift (x.mapError .payloadParseError)
        match Near.asResponse message with
        | some result => Traced.lift (parseResult M result)
        | none => Traced.lift (.error (.unexpectedServerResponse message)) :
          Traced Event (JsonRpcError E) R) = ⟨[], readMessage M x⟩ := by
    rintro (e | message)
    · rfl
    · rw [Except.mapError, Traced.lift_ok_bind, readMessage]
      cases Near.asResponse message <;> rfl
  have hbytes : response.bytes.mapError JsonRpcError.payloadRecvError
      = (.ok bytes : Except (JsonRpcError E) Bytes) := by
    rw [hb]
    rfl
  simp only [readResponse, if_pos h, hbytes, Traced.emit_bind, Traced.lift_ok_bind]
  cases SerdeJson.fromSlice bytes with
  | error e =>
    exact congrArg (fun run => (⟨headersLine response :: run.events, run.result⟩ :
      Traced Event (JsonRpcError E) R)) (hmessage (decodeBody (.error e)))
  | ok v =>
    exact congrArg (fun run => (⟨headersLine response :: (payloadLines (.ok v) ++ run.events),
      run.result⟩ : Traced Event (JsonRpcError E) R)) (hmessage (decodeBody (.ok v)))

end Reading

lemma readResponse_result_of_status_ne {response : HttpResponse} (h : response.status ≠ .OK) :
    (readResponse M response).result = .error (.serverError (nonOkStatus response.status)) := by
  rw [readResponse_of_status_ne h]

lemma readResponse_result_of_bytes {response : HttpResponse} (h : response.status = .OK)
    {bytes : Bytes} (hb : response.bytes = .ok bytes) :
    (readResponse M response).result = readMessage M (decodeBody (SerdeJson.fromSlice bytes)) := by
  rw [readResponse_of_bytes h hb]

lemma readResponse_result_of_decodesTo {response : HttpResponse} (h : response.status = .OK)
    {message : Except Broken Message} (hm : DecodesTo response message) :
    (readResponse M response).result = readMessage M message := by
  obtain ⟨bytes, hb, rfl⟩ := hm
  exact readResponse_result_of_bytes h hb

lemma readResponse_result_of_decodes {response : HttpResponse} (h : response.status = .OK)
    {result : Except RpcError Value} (hd : Decodes response result) :
    (readResponse M response).result = parseResult M result := by
  obtain ⟨message, hm, hr⟩ := hd
  rw [readResponse_result_of_decodesTo h hm, readMessage, hr]

lemma readResponse_result_of_outcome {response : HttpResponse} (h : response.status = .OK)
    {x : Except (JsonRpcError E) R} (hx : Outcome M response x) :
    (readResponse M response).result = x := by
  cases hx with
  | unreadable hb => rw [readResponse_of_bytes_error h hb]
  | malformed hm => rw [readResponse_result_of_decodesTo h hm, readMessage]
  | notResponse hm hr => rw [readResponse_result_of_decodesTo h hm, readMessage, hr]
  | resultRejected hd hp => rw [readResponse_result_of_decodes h hd, parseResult, hp]
  | resultError hd hp => rw [readResponse_result_of_decodes h hd, parseResult, hp]
  | success hd hp => rw [readResponse_result_of_decodes h hd, parseResult, hp]
  | error hd hc =>
    rw [readResponse_result_of_decodes h hd, parseResult,
      JsonRpcError.fromRpcError_of_converts hc]

/-- Every reply with status 200 has an outcome. -/
lemma exists_outcome (response : HttpResponse) :
    ∃ x : Except (JsonRpcError E) R, Outcome M response x := by
  cases hb : response.bytes with
  | error e => exact ⟨_, .unreadable hb⟩
  | ok bytes =>
    cases hm : Near.decodedToParsed
      ((SerdeJson.fromSlice bytes).bind Near.wireMessageFromValue) with
    | error e => exact ⟨_, .malformed ⟨bytes, hb, hm⟩⟩
    | ok message =>
      cases hr : Near.asResponse message with
      | none => exact ⟨_, .notResponse ⟨bytes, hb, hm⟩ hr⟩
      | some result =>
        have hd : Decodes response result := ⟨message, ⟨bytes, hb, hm⟩, hr⟩
        cases result with
        | error err =>
          obtain ⟨e, he⟩ := JsonRpcError.exists_converts (E := E) err
          exact ⟨_, .error hd he⟩
        | ok v =>
          rcases hp : RpcMethod.parseHandlerResponse M v with e | (e | r)
          · exact ⟨_, .resultRejected hd hp⟩
          · exact ⟨_, .resultError hd hp⟩
          · exact ⟨_, .success hd hp⟩

lemma readResponse_result_iff {response : HttpResponse} (h : response.status = .OK)
    {x : Except (JsonRpcError E) R} :
    (readResponse M response).result = x ↔ Outcome M response x := by
  constructor
  · rintro rfl
    obtain ⟨x, hx⟩ := exists_outcome (M := M) response
    rw [readResponse_result_of_outcome h hx]
    exact hx
  · exact readResponse_result_of_outcome h

/-- The body of a reply reports the error `h` of the handler: as a result that the method
reads as an error, as a structured error, or as a legacy error. -/
def ReportsHandlerError (M : Type) [RpcMethod M R E] (response : HttpResponse) (h : E) : Prop :=
  (∃ v, Decodes response (.ok v) ∧ RpcMethod.parseHandlerResponse M v = .ok (.error h)) ∨
    ∃ err, Decodes response (.error err) ∧
      ((∃ s, err.errorStruct = some (.handlerError s) ∧ RpcHandlerError.parse s = .ok h) ∨
        NoStructuredError E err.errorStruct ∧
          ∃ d, err.data = some d ∧ RpcHandlerError.parseLegacyError d = some (.ok h))

lemma outcome_handlerError_iff {response : HttpResponse} {h : E} :
    Outcome M response (.error (.serverError (.handlerError h)))
      ↔ ReportsHandlerError M response h := by
  constructor
  · intro hx
    cases hx with
    | resultError hd hp => exact .inl ⟨_, hd, hp⟩
    | error hd hc =>
      cases hc with
      | handler hs hp => exact .inr ⟨_, hd, .inl ⟨_, hs, hp⟩⟩
      | legacy hs hdata hp => exact .inr ⟨_, hd, .inr ⟨hs, _, hdata, hp⟩⟩
  · rintro (⟨v, hd, hp⟩ | ⟨err, hd, ⟨s, hs, hp⟩ | ⟨hs, d, hdata, hp⟩⟩)
    · exact .resultError hd hp
    · exact .error hd (.handler hs hp)
    · exact .error hd (.legacy hs hdata hp)

lemma outcome_ok_iff {response : HttpResponse} {r : R} :
    Outcome M response (.ok r) ↔
      ∃ v, Decodes response (.ok v) ∧ RpcMethod.parseHandlerResponse M v = .ok (.ok r) := by
  constructor
  · rintro (_ | _ | _ | _ | _ | ⟨hd, hp⟩ | _)
    exact ⟨_, hd, hp⟩
  · rintro ⟨v, hd, hp⟩
    exact .success hd hp

/-! ## The call -/

lemma call_result_ok_iff {self : JsonRpcClient} {server : Server} {method : M} {r : R} :
    (self.call server method).result = .ok r ↔
      ∃ response, Answered self server method response ∧ response.status = .OK ∧
        ∃ v, Decodes response (.ok v) ∧ RpcMethod.parseHandlerResponse M v = .ok (.ok r) := by
  constructor
  · intro hr
    by_cases ha : ∃ response, Answered self server method response
    · obtain ⟨response, ha⟩ := ha
      rw [call_result_of_answered ha] at hr
      by_cases hs : response.status = .OK
      · exact ⟨response, ha, hs, outcome_ok_iff.1 ((readResponse_result_iff hs).1 hr)⟩
      · rw [readResponse_result_of_status_ne hs] at hr
        cases hr
    · push Not at ha
      obtain ⟨e, he⟩ := call_result_of_not_answered ha
      rw [he] at hr
      cases hr
  · rintro ⟨response, ha, hs, hv⟩
    rw [call_result_of_answered ha]
    exact (readResponse_result_iff hs).2 (outcome_ok_iff.2 hv)

/-- **What a call returns.** A call returns a response exactly when its parameters are
encoded, it is answered with status 200, and the method reads a response in the result of
the reply.  With status 200 it returns an error of the handler exactly when the body
reports that error, and in general the outcome of the body.  Any other reply is reported
by its status, and a call without a reply fails to send. -/
theorem JsonRpcClient.call_result (self : JsonRpcClient) (server : Server) (method : M) :
    (∀ r, (self.call server method).result = .ok r ↔
      (∃ p, RpcMethod.params method = .ok p) ∧
      ∃ response, Answered self server method response ∧ response.status = .OK ∧
        ∃ v, Decodes response (.ok v) ∧ RpcMethod.parseHandlerResponse M v = .ok (.ok r)) ∧
    (∀ response, Answered self server method response → response.status = .OK →
      (∀ h, (∃ e, (self.call server method).result = .error e ∧ e.handlerError = some h)
        ↔ ReportsHandlerError M response h) ∧
      ∀ x, (self.call server method).result = x ↔ Outcome M response x) ∧
    (∀ response, Answered self server method response → response.status ≠ .OK →
      ∃ e, StatusError response.status e ∧
        (self.call server method).result = .error (.serverError e)) ∧
    ((∀ response, ¬ Answered self server method response) →
      ∃ e, (self.call server method).result = .error (.transportError (.sendError e))) := by
  refine ⟨?_, ?_, ?_, call_result_of_not_answered⟩
  · intro r
    rw [call_result_ok_iff]
    constructor
    · rintro ⟨response, ha, hv⟩
      exact ⟨ha.params, response, ha, hv⟩
    · rintro ⟨-, h⟩
      exact h
  · intro response ha hs
    have hiff : ∀ x, (self.call server method).result = x ↔ Outcome M response x := by
      intro x
      rw [call_result_of_answered ha]
      exact readResponse_result_iff hs
    refine ⟨?_, hiff⟩
    intro h
    rw [← outcome_handlerError_iff, ← hiff]
    constructor
    · rintro ⟨e, he, hh⟩
      rw [he, JsonRpcError.handlerError_eq_some.1 hh]
    · intro he
      exact ⟨_, he, rfl⟩
  · intro response ha hs
    refine ⟨_, statusError_nonOkStatus response.status, ?_⟩
    rw [call_result_of_answered ha]
    exact readResponse_result_of_status_ne hs

end Classification

end NearJsonrpcClient
