/-
# Untyped calls

A generic request that is typed with JSON values gives the caller the result or the error of
the handler as the node wrote it.  Reading that with the parsers of a method afterwards is
the same as calling the method, with one exception: when the node reports an error of the
handler that the method rejects, the field `data` of the response is not there any more.
-/
import NearJsonrpcClient.Reference.Replies
import NearJsonrpcClient.Routes

namespace NearJsonrpcClient

section Untyped

variable [Near] {M R E : Type} [RpcHandlerResponse R] [RpcHandlerError E] [RpcMethod M R E]

/-- `methods::any::<Result<Value, Value>>(method_name, params)`. -/
def untyped (methodName : String) (params : Value) : RpcAnyRequest Value Value :=
  any (Except Value Value) methodName params

/-! ## Reading the result of an untyped call -/

/-- Read an error of an untyped call as one of the errors of a method. -/
def JsonRpcError.reread : JsonRpcError Value → JsonRpcError E
  | .transportError err => .transportError err
  | .serverError (.handlerError v) =>
      match RpcHandlerError.parse v with
      | .ok err => .serverError (.handlerError err)
      | .error e => .errorMessageParseError e
  | .serverError (.nonContextualError err) => .fromRpcError err
  | .serverError (.requestValidationError kind) => .serverError (.requestValidationError kind)
  | .serverError (.internalError info) => .serverError (.internalError info)
  | .serverError (.responseStatusError err) => .serverError (.responseStatusError err)

/-- Read the result of an untyped call as the result of a method. -/
def reread (M : Type) [RpcMethod M R E] :
    Except (JsonRpcError Value) Value → Except (JsonRpcError E) R
  | .ok v => parseResult M (.ok v)
  | .error err => .error err.reread

/-- A structured error that is rejected, with a field `data` in which something else is read. -/
def Superseded (E : Type) [RpcHandlerError E] (err : RpcError) : Prop :=
  ∃ (v : Value) (e : SerdeError) (d : Value) (x : Except SerdeError E),
    err.errorStruct = some (.handlerError v) ∧ RpcHandlerError.parse v = (.error e : Except _ E) ∧
    err.data = some d ∧ RpcHandlerError.parseLegacyError d = some x ∧ x ≠ .error e

/-- An untyped call keeps the structured error of a response, or the whole error. -/
lemma fromRpcError_untyped (err : RpcError) :
    (JsonRpcError.fromRpcError err : JsonRpcError Value) =
      match err.errorStruct with
      | some (.handlerError v) => .serverError (.handlerError v)
      | some (.requestValidationError kind) => .serverError (.requestValidationError kind)
      | some (.internalError v) =>
          .serverError (.internalError ((v.index "info").index "error_message").asStr)
      | none => .serverError (.nonContextualError err) := by
  apply JsonRpcError.fromRpcError_of_converts
  have hdata : NoLegacyError Value err.data := fun d _ => rfl
  cases hs : err.errorStruct with
  | none => exact .nonContextual hs hdata
  | some kind =>
    cases kind with
    | handlerError v => exact .handler hs rfl
    | requestValidationError kind => exact .validation hs
    | internalError v => exact .internal hs

/-- What is lost of an error is the field `data` of an error that is rejected. -/
lemma reread_fromRpcError_iff (err : RpcError) :
    (JsonRpcError.fromRpcError err : JsonRpcError Value).reread
      = (JsonRpcError.fromRpcError err : JsonRpcError E) ↔ ¬ Superseded E err := by
  rw [fromRpcError_untyped]
  cases hs : err.errorStruct with
  | none =>
    refine iff_of_true rfl ?_
    rintro ⟨v, e, d, x, hv, -⟩
    cases hs.symm.trans hv
  | some kind =>
    cases kind with
    | requestValidationError kind =>
      refine iff_of_true ?_ ?_
      · exact (JsonRpcError.fromRpcError_of_converts (.validation hs)).symm
      · rintro ⟨v, e, d, x, hv, -⟩
        cases hs.symm.trans hv
    | internalError v =>
      refine iff_of_true ?_ ?_
      · exact (JsonRpcError.fromRpcError_of_converts (.internal hs)).symm
      · rintro ⟨v, e, d, x, hv, -⟩
        cases hs.symm.trans hv
    | handlerError v =>
      cases hp : (RpcHandlerError.parse v : Except SerdeError E) with
      | ok h =>
        refine iff_of_true ?_ ?_
        · rw [JsonRpcError.fromRpcError_of_converts (.handler hs hp), JsonRpcError.reread, hp]
        · rintro ⟨v', e, d, x, hv, he, -⟩
          cases hs.symm.trans hv
          cases hp.symm.trans he
      | error e =>
        have hnone : NoStructuredError E err.errorStruct := Or.inr ⟨v, e, hs, hp⟩
        simp only [JsonRpcError.reread, hp]
        by_cases hd : NoLegacyError E err.data
        · refine iff_of_true ?_ ?_
          · rw [JsonRpcError.fromRpcError_of_converts (.structRejected hs hp hd)]
          · rintro ⟨v', e', d, x, -, -, hdata, hx, -⟩
            cases (hd d hdata).symm.trans hx
        · rw [NoLegacyError] at hd
          push Not at hd
          obtain ⟨d, hdata, hne⟩ := hd
          obtain ⟨x, hx⟩ := Option.ne_none_iff_exists'.1 hne
          have hiff : Superseded E err ↔ x ≠ .error e := by
            constructor
            · rintro ⟨v', e', d', x', hv, he, hd', hx', hne'⟩
              cases hs.symm.trans hv
              cases hp.symm.trans he
              cases hdata.symm.trans hd'
              cases hx.symm.trans hx'
              exact hne'
            · exact fun hne' => ⟨v, e, d, x, hs, hp, hdata, hx, hne'⟩
          rw [hiff, not_not]
          cases x with
          | ok h =>
            rw [JsonRpcError.fromRpcError_of_converts (.legacy hnone hdata hx)]
            simp
          | error e' =>
            rw [JsonRpcError.fromRpcError_of_converts (.legacyRejected hnone hdata hx)]
            simp [eq_comm]

lemma reread_nonOkStatus (status : StatusCode) :
    (.serverError (nonOkStatus status) : JsonRpcError Value).reread
      = (.serverError (nonOkStatus status) : JsonRpcError E) := by
  unfold nonOkStatus
  split_ifs <;> rfl

/-! ## Calls -/

variable [Reqwest] [SerdeJson]

omit [Reqwest] [SerdeJson] in
lemma toJson_untyped {m : M} {p : Value} (hp : RpcMethod.params m = .ok p) :
    toJson (untyped (RpcMethod.methodName m) p) = toJson m := by
  rw [toJson, toJson, hp]
  rfl

omit [Reqwest] [SerdeJson] in
/-- Reading a result afterwards is reading it at once, but for an error that is superseded. -/
lemma reread_parseResult_iff (result : Except RpcError Value) :
    reread M (parseResult (RpcAnyRequest Value Value) result) = parseResult M result ↔
      ∀ err, result = .error err → ¬ Superseded E err := by
  cases result with
  | ok v => exact iff_of_true rfl (by simp)
  | error err =>
    have hiff := reread_fromRpcError_iff (E := E) err
    simp only [parseResult, reread, Except.error.injEq, hiff, forall_eq']

/-- The same holds of a reply; what is observed of it is the same. -/
lemma reread_readResponse (response : HttpResponse) :
    (readResponse (RpcAnyRequest Value Value) response).events
        = (readResponse M response).events ∧
      (reread M (readResponse (RpcAnyRequest Value Value) response).result
          = (readResponse M response).result ↔
        (response.status = .OK → ∀ err, Decodes response (.error err) → ¬ Superseded E err)) := by
  by_cases hs : response.status = .OK
  · cases hb : response.bytes with
    | error e =>
      rw [readResponse_of_bytes_error hs hb, readResponse_of_bytes_error hs hb]
      refine ⟨rfl, iff_of_true rfl ?_⟩
      rintro - err ⟨message, ⟨bytes, hbytes, -⟩, -⟩
      cases hb.symm.trans hbytes
    | ok bytes =>
      rw [readResponse_of_bytes hs hb, readResponse_of_bytes hs hb]
      refine ⟨rfl, ?_⟩
      have hmessage : ∀ {message}, DecodesTo response (.ok message) →
          decodeBody (SerdeJson.fromSlice bytes) = .ok message := by
        rintro message ⟨bytes', hbytes, hmessage⟩
        cases hb.symm.trans hbytes
        exact hmessage
      cases hm : decodeBody (SerdeJson.fromSlice bytes) with
      | error e =>
        refine iff_of_true rfl ?_
        rintro - err ⟨message, hdecodes, -⟩
        cases hm.symm.trans (hmessage hdecodes)
      | ok message =>
        cases hr : Near.asResponse message with
        | none =>
          refine iff_of_true (by simp only [readMessage, hr]; rfl) ?_
          rintro - err ⟨message', hdecodes, hresult⟩
          cases hm.symm.trans (hmessage hdecodes)
          cases hr.symm.trans hresult
        | some result =>
          simp only [readMessage, hr]
          rw [reread_parseResult_iff]
          constructor
          · rintro h - err ⟨message', hdecodes, hresult⟩
            cases hm.symm.trans (hmessage hdecodes)
            cases hr.symm.trans hresult
            exact h err rfl
          · rintro h err rfl
            exact h hs err ⟨message, ⟨bytes, hb, hm⟩, hr⟩
  · rw [readResponse_of_status_ne hs, readResponse_of_status_ne hs]
    exact ⟨rfl, iff_of_true (congrArg Except.error (reread_nonOkStatus _)) fun h => absurd h hs⟩

/-- Two calls with the same payload, of methods with any types, fail in the same way before
they are sent, or send the same request. -/
lemma call_cases {M' R' E' : Type} [RpcHandlerResponse R'] [RpcHandlerError E']
    [RpcMethod M' R' E'] {m : M} {m' : M'} (h : toJson m = toJson m') (self : JsonRpcClient)
    (server : Server) :
    (∃ events e, self.call server m = ⟨events, .error (.transportError (.sendError e))⟩ ∧
      self.call server m' = ⟨events, .error (.transportError (.sendError e))⟩ ∧
      ∀ response, ¬ Answered self server m response) ∨
    ∃ events request response, self.call server m
        = ⟨events ++ .sent request :: (readResponse M response).events,
            (readResponse M response).result⟩ ∧
      self.call server m' = ⟨events ++ .sent request :: (readResponse M' response).events,
        (readResponse M' response).result⟩ ∧ Answered self server m response := by
  -- a reply answers the request that goes through all stages
  have hanswered : ∀ {response}, Answered self server m response → ∃ payload body request,
      toJson m = .ok payload ∧ SerdeJson.toVec payload = .ok body ∧
        Reqwest.wire (self.requestBuilder body) = .ok request ∧ server request = .ok response := by
    rintro response ⟨request, hsends, hresponse⟩
    obtain ⟨payload, body, hpayload, hbody, hrequest⟩ := sends_iff.1 hsends
    exact ⟨payload, body, request, hpayload, hbody, hrequest, hresponse⟩
  cases hpayload : toJson m with
  | error e =>
    refine .inl ⟨_, _, call_of_toJson_error hpayload, call_of_toJson_error (h ▸ hpayload), ?_⟩
    intro response ha
    obtain ⟨payload, body, request, hp, -⟩ := hanswered ha
    cases hpayload.symm.trans hp
  | ok payload =>
    have hpayload' : toJson m' = .ok payload := h ▸ hpayload
    cases hbody : SerdeJson.toVec payload with
    | error e =>
      refine .inl ⟨_, _, call_of_toVec_error hpayload hbody,
        call_of_toVec_error hpayload' hbody, ?_⟩
      intro response ha
      obtain ⟨payload', body, request, hp, hb, -⟩ := hanswered ha
      cases hpayload.symm.trans hp
      cases hbody.symm.trans hb
    | ok body =>
      cases hrequest : Reqwest.wire (self.requestBuilder body) with
      | error e =>
        refine .inl ⟨_, _, call_of_wire_error hpayload hbody hrequest,
          call_of_wire_error hpayload' hbody hrequest, ?_⟩
        intro response ha
        obtain ⟨payload', body', request, hp, hb, hw, -⟩ := hanswered ha
        cases hpayload.symm.trans hp
        cases hbody.symm.trans hb
        cases hrequest.symm.trans hw
      | ok request =>
        have hsends : Sends self m request :=
          sends_iff.2 ⟨payload, body, hpayload, hbody, hrequest⟩
        rw [call_of_wire hpayload hbody hrequest, call_of_wire hpayload' hbody hrequest]
        cases hresponse : server request with
        | error e =>
          refine .inl ⟨_, .payloadSendError e, rfl, rfl, ?_⟩
          rintro response ⟨request', hsends', hr⟩
          cases hsends.unique hsends'
          cases hresponse.symm.trans hr
        | ok response => exact .inr ⟨_, request, response, rfl, rfl, request, hsends, hresponse⟩

/-- **Untyped calls.** An untyped call with the name and the parameters of a request is observed
in the same way as the call of the request.  Reading its result with the parsers of the method
gives the result of the call, unless the reply has status 200 and holds a structured error that
the method rejects, with a field `data` in which its legacy parser reads something else than
that rejection. -/
theorem JsonRpcClient.call_untyped (m : M) (p : Value) (hp : RpcMethod.params m = .ok p)
    (self : JsonRpcClient) (server : Server) :
    (self.call server (untyped (RpcMethod.methodName m) p)).events = (self.call server m).events ∧
    (reread M (self.call server (untyped (RpcMethod.methodName m) p)).result
        = (self.call server m).result ↔
      ∀ response err, Answered self server m response → response.status = .OK →
        Decodes response (.error err) → ¬ Superseded E err) := by
  rcases call_cases (toJson_untyped hp).symm self server with
    ⟨events, e, hm, hu, hnot⟩ | ⟨events, request, response, hm, hu, ha⟩
  · rw [hm, hu]
    exact ⟨rfl, iff_of_true rfl fun response err ha => absurd ha (hnot response)⟩
  · obtain ⟨hevents, hresult⟩ := reread_readResponse (M := M) response
    rw [hm, hu, hevents]
    refine ⟨rfl, hresult.trans ⟨fun h response' err ha' hs hd => ?_, fun h hs err hd => ?_⟩⟩
    · obtain rfl := ha.unique ha'
      exact h hs err hd
    · exact h response err ha hs hd

end Untyped

section RejectedStatus

open scoped Reference
open Reference

/-- An error of the handler without a name, which no error type accepts. -/
def namelessError : Value := .ofEntries [("info", .string "DB Not Found Error")]

/-- What an older node puts into the field `data` about a transaction that has expired. -/
def expiredTransaction : Value :=
  .object [("TxExecutionError", .object [("InvalidTxError", .string "Expired")])]

/-- A question for the status of a transaction. -/
def txStatusRequest : Tx.RpcTransactionStatusRequest :=
  ⟨.transactionId (Value.string "9FtHUFBQsZ2MG77K3x3MJ9wjX3UT8zE1TczCrhZEcG8U")
    (Value.string "miraclx.near"), Value.string "FINAL"⟩

/-- The parameters of the question. -/
def txStatusParams : Value :=
  .ofEntries
    [("tx_hash", .string "9FtHUFBQsZ2MG77K3x3MJ9wjX3UT8zE1TczCrhZEcG8U"),
      ("sender_account_id", .string "miraclx.near"), ("wait_until", .string "FINAL")]

lemma parse_namelessError : (RpcHandlerError.parse namelessError :
    Except SerdeError RpcTransactionError) = .error (.missingField "name") := rfl

lemma parse_expiredTransaction : (RpcHandlerError.parseLegacyError expiredTransaction :
    Option (Except SerdeError RpcTransactionError))
      = some (.ok (.invalidTransaction (Value.string "Expired"))) := rfl

/-- The reply of a node with the nameless error. -/
def namelessReply (data : Value) : HttpResponse :=
  reply .OK (errorBody (handlerErrorValue namelessError data))

/-- When a node reports a nameless error, a call rejects it, and so does an untyped call whose
result is read afterwards.  With the field `data` of an older node the call reports that the
transaction has expired; the untyped call has lost that. -/
theorem JsonRpcClient.call_untyped_namelessError :
    (letI _ : SerdeJson := serdeJson [errorBody (handlerErrorValue namelessError .null)];
      (localNode.call (always (namelessReply .null)) txStatusRequest).result
          = .error (.errorMessageParseError (.missingField "name")) ∧
        reread Tx.RpcTransactionStatusRequest
          (localNode.call (always (namelessReply .null)) (untyped "tx" txStatusParams)).result
            = .error (.errorMessageParseError (.missingField "name"))) ∧
    (letI _ : SerdeJson :=
        serdeJson [errorBody (handlerErrorValue namelessError expiredTransaction)];
      (localNode.call (always (namelessReply expiredTransaction)) txStatusRequest).result
          = .error (.serverError (.handlerError (.invalidTransaction (Value.string "Expired")))) ∧
        reread Tx.RpcTransactionStatusRequest
          (localNode.call (always (namelessReply expiredTransaction))
            (untyped "tx" txStatusParams)).result
            ≠ (localNode.call (always (namelessReply expiredTransaction)) txStatusRequest).result)
      := by
  have hstruct := fun data => rpcErrorOf_errorStruct namelessError data
  constructor
  · let := serdeJson [errorBody (handlerErrorValue namelessError .null)]
    have hnone : (rpcErrorOf (handlerErrorValue namelessError .null)).data = none := rfl
    have hcall : (localNode.call (always (namelessReply .null)) txStatusRequest).result
        = .error (.errorMessageParseError (.missingField "name")) := by
      refine (call_result_errorBody namelessError .null [] rfl (by decide)).trans ?_
      refine congrArg Except.error (JsonRpcError.fromRpcError_of_converts ?_)
      refine .structRejected (hstruct _) parse_namelessError fun d hd => ?_
      cases hnone.symm.trans hd
    refine ⟨hcall, ?_⟩
    rw [← hcall]
    refine (JsonRpcClient.call_untyped txStatusRequest txStatusParams rfl localNode _).2.2 ?_
    rintro response err ha - hd ⟨v, e, d, x, -, -, hdata, -⟩
    obtain rfl := ha.unique (answered_always _ rfl (by decide) _)
    cases hd.unique (decodes_errorBody .OK namelessError .null [])
    cases hnone.symm.trans hdata
  · let := serdeJson [errorBody (handlerErrorValue namelessError expiredTransaction)]
    have hdata : (rpcErrorOf (handlerErrorValue namelessError expiredTransaction)).data
        = some expiredTransaction := rpcErrorOf_data _ nofun
    constructor
    · refine (call_result_errorBody namelessError _ [] rfl (by decide)).trans ?_
      refine congrArg Except.error (JsonRpcError.fromRpcError_of_converts ?_)
      exact .legacy (.inr ⟨_, _, hstruct _, parse_namelessError⟩) hdata parse_expiredTransaction
    · intro h
      refine (JsonRpcClient.call_untyped txStatusRequest txStatusParams rfl localNode _).2.1 h _ _
        (answered_always _ rfl (by decide) _) rfl (decodes_errorBody .OK _ _ []) ?_
      exact ⟨_, _, _, _, hstruct _, parse_namelessError, hdata, parse_expiredTransaction, nofun⟩

end RejectedStatus

end NearJsonrpcClient
