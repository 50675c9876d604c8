/-
# Three routes for one request

A request can be issued as it is, behind references, or as a generic request that is typed
with it.  References issue the same call.  A generic request sends the same payload, but it
reads results with the provided parser; the method `query` has a parser of its own, and the
two part on the errors that a node reports as results.
-/
import NearJsonrpcClient.Methods.Any
import NearJsonrpcClient.QueryDecode
import NearJsonrpcClient.Reference.Replies

namespace NearJsonrpcClient

open Lib

section Routes

variable [Near] [Reqwest] [SerdeJson] {R E : Type} [RpcHandlerResponse R] [RpcHandlerError E]

/-! ## What a call depends on -/

section Two

variable {M M' : Type} [RpcMethod M R E] [RpcMethod M' R E]

omit [Reqwest] [SerdeJson] in
lemma parseResult_congr (h : ∀ v, RpcMethod.parseHandlerResponse M v
    = RpcMethod.parseHandlerResponse M' v) (result : Except RpcError Value) :
    parseResult M result = parseResult M' result := by
  cases result with
  | error err => rfl
  | ok v => rw [parseResult, parseResult, h]

/-- A method reads a reply through its parser for results only. -/
lemma readResponse_congr (h : ∀ v, RpcMethod.parseHandlerResponse M v
    = RpcMethod.parseHandlerResponse M' v) (response : HttpResponse) :
    readResponse M response = readResponse M' response := by
  simp only [readResponse, parseResult_congr h]

/-- The parser for results does not change what is observed before it. -/
lemma readResponse_events (response : HttpResponse) :
    (readResponse M response).events = (readResponse M' response).events := by
  by_cases hs : response.status = .OK
  · cases hb : response.bytes with
    | error e => rw [readResponse_of_bytes_error hs hb, readResponse_of_bytes_error hs hb]
    | ok bytes => rw [readResponse_of_bytes hs hb, readResponse_of_bytes hs hb]
  · rw [readResponse_of_status_ne hs, readResponse_of_status_ne hs]

/-- Two calls with the same payload fail in the same way before they are sent, or send the
same request. -/
lemma call_stages {self : JsonRpcClient} (server : Server) {m : M} {m' : M'}
    (h : toJson m = toJson m') :
    (∃ failed, self.call server m = failed ∧ self.call server m' = failed) ∨
      ∃ payload body request, toJson m = .ok payload ∧ SerdeJson.toVec payload = .ok body ∧
        Reqwest.wire (self.requestBuilder body) = .ok request := by
  cases hpayload : toJson m with
  | error e =>
    have hpayload' := h.symm.trans hpayload
    exact .inl ⟨_, call_of_toJson_error hpayload, call_of_toJson_error hpayload'⟩
  | ok payload =>
    have hpayload' := h.symm.trans hpayload
    cases hbody : SerdeJson.toVec payload with
    | error e =>
      exact .inl ⟨_, call_of_toVec_error hpayload hbody, call_of_toVec_error hpayload' hbody⟩
    | ok body =>
      cases hrequest : Reqwest.wire (self.requestBuilder body) with
      | error e =>
        exact .inl ⟨_, call_of_wire_error hpayload hbody hrequest,
          call_of_wire_error hpayload' hbody hrequest⟩
      | ok request => exact .inr ⟨payload, body, request, rfl, hbody, hrequest⟩

/-- Two methods with the same payload issue the same call, up to how they read a result. -/
lemma call_events {self : JsonRpcClient} {server : Server} {m : M} {m' : M'}
    (h : toJson m = toJson m') :
    (self.call server m).events = (self.call server m').events := by
  rcases call_stages server h with
    ⟨failed, hm, hm'⟩ | ⟨payload, body, request, hpayload, hbody, hrequest⟩
  · rw [hm, hm']
  · have hpayload' := h.symm.trans hpayload
    rw [call_of_wire hpayload hbody hrequest, call_of_wire hpayload' hbody hrequest]
    cases server request with
    | error e => rw [receive_error, receive_error]
    | ok response =>
      have hevents : (readResponse M response).events = (readResponse M' response).events :=
        readResponse_events response
      rw [receive_ok, receive_ok, hevents]

lemma call_result_congr {self : JsonRpcClient} {server : Server} {m : M} {m' : M'}
    (h : toJson m = toJson m')
    (hread : ∀ response, Answered self server m response →
      (readResponse M response).result = (readResponse M' response).result) :
    (self.call server m).result = (self.call server m').result := by
  rcases call_stages server h with
    ⟨failed, hm, hm'⟩ | ⟨payload, body, request, hpayload, hbody, hrequest⟩
  · rw [hm, hm']
  · have hpayload' := h.symm.trans hpayload
    rw [call_of_wire hpayload hbody hrequest, call_of_wire hpayload' hbody hrequest]
    cases hreply : server request with
    | error e => rw [receive_error, receive_error]
    | ok response =>
      have ha : Answered self server m response :=
        ⟨request, sends_iff.2 ⟨payload, body, hpayload, hbody, hrequest⟩, hreply⟩
      rw [receive_ok, receive_ok, hread response ha]

lemma call_congr {self : JsonRpcClient} {server : Server} {m : M} {m' : M'}
    (h : toJson m = toJson m')
    (hparse : ∀ v, RpcMethod.parseHandlerResponse M v = RpcMethod.parseHandlerResponse M' v) :
    self.call server m = self.call server m' := by
  simp only [JsonRpcClient.call, h, readResponse_congr hparse]

omit [Reqwest] [SerdeJson] in
/-- What is made of a result tells apart what the parsers read in it. -/
lemma parseResult_ok_eq_iff {v : Value} :
    (parseResult M (.ok v) : Except (JsonRpcError E) R) = parseResult M' (.ok v) ↔
      RpcMethod.parseHandlerResponse M v = RpcMethod.parseHandlerResponse M' v := by
  rw [parseResult, parseResult]
  generalize RpcMethod.parseHandlerResponse M v = x
  generalize RpcMethod.parseHandlerResponse M' v = y
  constructor
  · intro h
    rcases x with e | (e | r) <;> rcases y with e' | (e' | r') <;> cases h <;> rfl
  · rintro rfl
    rfl

lemma Outcome.congr {response : HttpResponse} {x : Except (JsonRpcError E) R}
    (h : ∀ v, Decodes response (.ok v) →
      RpcMethod.parseHandlerResponse M v = RpcMethod.parseHandlerResponse M' v)
    (hx : Outcome M response x) : Outcome M' response x := by
  cases hx with
  | unreadable hb => exact .unreadable hb
  | malformed hm => exact .malformed hm
  | notResponse hm hr => exact .notResponse hm hr
  | resultRejected hd hp => exact .resultRejected hd ((h _ hd).symm.trans hp)
  | resultError hd hp => exact .resultError hd ((h _ hd).symm.trans hp)
  | success hd hp => exact .success hd ((h _ hd).symm.trans hp)
  | error hd hc => exact .error hd hc

/-- Two calls with the same payload return the same result unless a reply with status 200
has a result in which the two parsers read different things. -/
lemma call_result_eq_iff {self : JsonRpcClient} {server : Server} {m : M} {m' : M'}
    (h : toJson m = toJson m') :
    (self.call server m).result = (self.call server m').result ↔
      ∀ response v, Answered self server m response → response.status = .OK →
        Decodes response (.ok v) →
        RpcMethod.parseHandlerResponse M v = RpcMethod.parseHandlerResponse M' v := by
  constructor
  · intro hresult response v ha hs hd
    have ha' : Answered self server m' response := by
      obtain ⟨request, hsends, hresponse⟩ := ha
      obtain ⟨payload, body, hpayload, hrest⟩ := sends_iff.1 hsends
      exact ⟨request, sends_iff.2 ⟨payload, body, h.symm.trans hpayload, hrest⟩, hresponse⟩
    rw [call_result_of_answered ha, call_result_of_answered ha',
      readResponse_result_of_decodes hs hd, readResponse_result_of_decodes hs hd] at hresult
    exact parseResult_ok_eq_iff.1 hresult
  · intro hparse
    refine call_result_congr h fun response ha => ?_
    by_cases hs : response.status = .OK
    · obtain ⟨x, hx⟩ := exists_outcome (M := M) response
      have hx' : Outcome M' response x := hx.congr fun v hd => hparse response v ha hs hd
      rw [readResponse_result_of_outcome hs hx, readResponse_result_of_outcome hs hx']
    · rw [readResponse_result_of_status_ne hs, readResponse_result_of_status_ne hs]

end Two

/-! ## References -/

section References

variable {M : Type} [RpcMethod M R E]

omit [Reqwest] [SerdeJson] in
lemma toJson_refN (m : M) (n : ℕ) : toJson (refN m n) = toJson m := by
  induction n with
  | zero => rfl
  | succ n ih => exact ih

omit [Near] [Reqwest] [SerdeJson] in
lemma parseHandlerResponse_refN (n : ℕ) (v : Value) :
    RpcMethod.parseHandlerResponse (RefN M n) v = RpcMethod.parseHandlerResponse M v := by
  induction n with
  | zero => rfl
  | succ n ih => exact ih

end References

/-! ## Generic requests -/

/-- The parser for results that a method has unless it defines its own. -/
def providedParser (R E : Type) [RpcHandlerResponse R] (response : Value) :
    Except SerdeError (Except E R) :=
  (RpcHandlerResponse.parse response).map .ok

omit [Reqwest] [SerdeJson] in
/-- The query method is the only one with a parser of its own. -/
lemma parseHandlerResponse_of_ne_query {t : TypedMethod} (ht : t ≠ .query) (v : Value) :
    RpcMethod.parseHandlerResponse t.impl.Request v
      = providedParser t.impl.Response t.impl.Error v := by
  cases t with
  | query => exact absurd rfl ht
  | _ => rfl

omit [Reqwest] [SerdeJson] in
lemma toJson_any (t : TypedMethod) (m : t.impl.Request) {p : Value}
    (hp : RpcMethod.params m = .ok p) :
    toJson (any t.impl.Request (RpcMethod.methodName m) p) = toJson m := by
  rw [toJson, toJson, hp]
  rfl

/-- The results in which the parser of the query method and the provided one read the same:
the query responses, and what both reject with the same error. -/
def QueryRoutesAgree (v : Value) : Prop :=
  (∃ r : RpcQueryResponse, fromValue v = .ok r) ∨
    ∃ e, (fromValue v : Except SerdeError RpcQueryResponse) = .error e ∧
      ((∀ l : LegacyQueryError, fromValue v ≠ .ok l) ∧ e = queryResponseMismatch ∨
        ∃ error H B key msg, fromValue v = .ok (⟨error, H, B⟩ : LegacyQueryError) ∧
          IsUnknownAccessKey error key ∧ Near.publicKeyFromStr key = .error msg ∧
          e = .custom msg)

omit [Near] [Reqwest] [SerdeJson] in
lemma ne_ok_of_eq_error {ε T : Type} {x : Except ε T} {e : ε} (h : x = .error e) (r : T) :
    x ≠ .ok r := by
  intro hr
  cases h.symm.trans hr

omit [Reqwest] [SerdeJson] in
lemma providedParser_query (v : Value) : providedParser RpcQueryResponse RpcQueryError v
    = (fromValue v : Except SerdeError RpcQueryResponse).map .ok := rfl

omit [Reqwest] [SerdeJson] in
lemma QueryRoutesAgree.parseHandlerResponse_eq {v : Value} (h : QueryRoutesAgree v) :
    RpcMethod.parseHandlerResponse RpcQueryRequest v
      = providedParser RpcQueryResponse RpcQueryError v := by
  rw [providedParser_query]
  rcases h with ⟨r, hr⟩ | ⟨e, he, h⟩
  · rw [RpcQueryRequest.parseHandlerResponse_of_response hr, hr]
    rfl
  · have hnot : ∀ r : RpcQueryResponse, fromValue v ≠ .ok r := ne_ok_of_eq_error he
    rw [he]
    rcases h with ⟨hl, rfl⟩ | ⟨error, H, B, key, msg, hl, hk, hpk, rfl⟩
    · exact RpcQueryRequest.parseHandlerResponse_of_neither hnot hl
    · exact RpcQueryRequest.parseHandlerResponse_of_rejectedKey ⟨hnot, hl⟩ hk hpk

omit [Reqwest] [SerdeJson] in
lemma queryRoutesAgree_iff {v : Value} :
    QueryRoutesAgree v ↔ RpcMethod.parseHandlerResponse RpcQueryRequest v
      = providedParser RpcQueryResponse RpcQueryError v := by
  refine ⟨QueryRoutesAgree.parseHandlerResponse_eq, ?_⟩
  rw [providedParser_query]
  intro h
  cases hr : (fromValue v : Except SerdeError RpcQueryResponse) with
  | ok r => exact .inl ⟨r, hr⟩
  | error e =>
    have hnot : ∀ r : RpcQueryResponse, fromValue v ≠ .ok r := ne_ok_of_eq_error hr
    have herror : RpcMethod.parseHandlerResponse RpcQueryRequest v = .error e := by
      rw [h, hr]
      rfl
    refine .inr ⟨e, hr, ?_⟩
    by_cases hl : ∃ l : LegacyQueryError, fromValue v = .ok l
    -- a legacy error is rejected for its key only
    · obtain ⟨⟨error, H, B⟩, hl⟩ := hl
      rcases RpcQueryRequest.parseHandlerResponse_legacyError_cases ⟨hnot, hl⟩ with
        ⟨_, _, _, _, hp⟩ | ⟨key, msg, hk, hpk, hp⟩ | ⟨_, hp⟩
      · cases hp.symm.trans herror
      · cases hp.symm.trans herror
        exact .inr ⟨error, H, B, key, msg, hl, hk, hpk, rfl⟩
      · cases hp.symm.trans herror
    · push Not at hl
      have hp := RpcQueryRequest.parseHandlerResponse_of_neither hnot hl
      cases hp.symm.trans herror
      exact .inl ⟨hl, rfl⟩

/-- When the two routes agree on the reply to a request. -/
def RoutesAgree (t : TypedMethod) (self : JsonRpcClient) (server : Server)
    (m : t.impl.Request) : Prop :=
  t ≠ .query ∨ ∀ response v, Answered self server m response → response.status = .OK →
    Decodes response (.ok v) → QueryRoutesAgree v

/-- **Three routes for one request.** Behind references a request issues the same call.  A
generic request that is typed with it sends the same payload and is observed in the same
way, and it returns the same result exactly when the method is not `query`, or the reply
holds no result on which the parser of `query` and the provided one differ. -/
theorem JsonRpcClient.call_routes_iff (t : TypedMethod) (m : t.impl.Request) (p : Value)
    (hp : RpcMethod.params m = .ok p) (self : JsonRpcClient) (server : Server) :
    ((∀ n, toJson (refN m n) = toJson m ∧ self.call server (refN m n) = self.call server m) ∧
      toJson (any t.impl.Request (RpcMethod.methodName m) p) = toJson m ∧
      (self.call server (any t.impl.Request (RpcMethod.methodName m) p)).events
        = (self.call server m).events ∧
      (self.call server (any t.impl.Request (RpcMethod.methodName m) p)).result
        = (self.call server m).result) ↔
    RoutesAgree t self server m := by
  have hany := toJson_any t m hp
  have hresult : (self.call server m).result
      = (self.call server (any t.impl.Request (RpcMethod.methodName m) p)).result ↔ _ :=
    call_result_eq_iff hany.symm
  constructor
  · rintro ⟨-, -, -, hr⟩
    by_cases ht : t = .query
    · subst ht
      refine .inr fun response v ha hs hd => queryRoutesAgree_iff.2 ?_
      exact hresult.1 hr.symm response v ha hs hd
    · exact .inl ht
  · intro hagree
    refine ⟨fun n => ⟨toJson_refN m n, call_congr (toJson_refN m n)
      (parseHandlerResponse_refN n)⟩, hany, call_events hany, (hresult.2 ?_).symm⟩
    intro response v ha hs hd
    rcases hagree with ht | hagree
    · exact parseHandlerResponse_of_ne_query ht v
    · by_cases ht : t = .query
      · subst ht
        exact queryRoutesAgree_iff.1 (hagree response v ha hs hd)
      · exact parseHandlerResponse_of_ne_query ht v

end Routes

section UnknownAccessKey

open scoped Reference
open Reference

/-- The public key of no access key. -/
def unknownKey : String := "ed25519:9KnjTjL6vVoM8heHvCcTgLZ67FwFkiLsNtknFAVsVvYY"

/-- The hash of a block. -/
def someBlock : String := "6atGq4TUTZerVHU9qWoYfzXNBg3K4C4cca15TE6KfuBr"

/-- What a node returns as the result of a query for an access key that does not exist. -/
def unknownAccessKeyResult : Value :=
  .ofEntries
    [("error", .string (unknownAccessKeyMessage unknownKey)),
      ("block_height", .number (.posInt 63503911)), ("block_hash", .string someBlock),
      ("logs", .array [])]

local instance unknownAccessKeyJson : SerdeJson :=
  serdeJson [resultBody unknownAccessKeyResult, resultBody .null]

/-- A query, sent to a local node. -/
def accessKeyQuery : RpcQueryRequest :=
  Value.ofEntries
    [("request_type", .string "view_access_key"), ("account_id", .string "miraclx.testnet"),
      ("public_key", .string unknownKey), ("block_id", .number (.posInt 63503911))]

lemma unknownAccessKeyResult_rejected :
    (fromValue unknownAccessKeyResult : Except SerdeError RpcQueryResponse)
      = .error (.custom "data did not match any variant of untagged enum QueryResponseKind") := by
  change tyFromValue .rpcQueryResponse unknownAccessKeyResult = _
  have herror : unknownAccessKeyResult.index "error"
      = .string (unknownAccessKeyMessage unknownKey) := by
    simp [unknownAccessKeyResult, Value.ofEntries, Value.index]
  rw [tyFromValue, herror]

lemma parseHandlerResponse_unknownAccessKeyResult :
    RpcMethod.parseHandlerResponse RpcQueryRequest unknownAccessKeyResult
      = .ok (.error (.unknownAccessKey unknownKey 63503911
          (Value.string someBlock))) := by
  have hkey : ' ' ∉ unknownKey.toList := by simp [unknownKey]
  refine RpcQueryRequest.parseHandlerResponse_of_key ⟨?_, ?_⟩ ⟨hkey, rfl⟩ rfl
  · intro r hr
    cases unknownAccessKeyResult_rejected.symm.trans hr
  · have hhash : (fromValue (.string someBlock) : Except SerdeError CryptoHash)
        = .ok (Value.string someBlock) := rfl
    refine fromValue_legacyQueryError_object ?_ ?_ ?_ hhash
    all_goals simp

/-- An access key that does not exist is an error of the handler for the query, and a
result that cannot be parsed for the generic request. -/
theorem JsonRpcClient.call_any_unknownAccessKey :
    ((JsonRpcClient.connect "http://localhost:3030").call
        (always (reply .OK (resultBody unknownAccessKeyResult))) accessKeyQuery).result
      = .error (.serverError (.handlerError (.unknownAccessKey unknownKey 63503911
          (Value.string someBlock)))) ∧
    ((JsonRpcClient.connect "http://localhost:3030").call
        (always (reply .OK (resultBody unknownAccessKeyResult)))
        (any RpcQueryRequest (RpcMethod.methodName accessKeyQuery) accessKeyQuery)).result
      = .error (.resultParseError
          (.custom "data did not match any variant of untagged enum QueryResponseKind")) := by
  have hprovided : RpcMethod.parseHandlerResponse (RpcAnyRequest RpcQueryResponse RpcQueryError)
      unknownAccessKeyResult = .error
        (.custom "data did not match any variant of untagged enum QueryResponseKind") := by
    change providedParser RpcQueryResponse RpcQueryError unknownAccessKeyResult = _
    rw [providedParser_query, unknownAccessKeyResult_rejected]
    rfl
  constructor
  · rw [call_result_resultBody _ _ rfl (by decide), parseResult,
      parseHandlerResponse_unknownAccessKeyResult]
  · rw [call_result_resultBody _ _ rfl (by decide), parseResult, hprovided]

/-- The health of a node is reported in the same way by every route. -/
theorem JsonRpcClient.call_any_health :
    ((JsonRpcClient.connect "http://localhost:3030").call
        (always (reply .OK (resultBody .null))) (any RpcHealthRequest "health" .null)).result
      = ((JsonRpcClient.connect "http://localhost:3030").call
        (always (reply .OK (resultBody .null))) (⟨⟩ : RpcHealthRequest)).result :=
  ((JsonRpcClient.call_routes_iff .health ⟨⟩ .null rfl _ _).2 (.inl (by decide))).2.2.2

end UnknownAccessKey

end NearJsonrpcClient
