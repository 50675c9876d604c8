/-
# The content type of requests

Every request carries the headers of its client.  The content type is not one of them: it
is a default header of the web client, which the default connector and `new_client` set and
`with` leaves to the web client that it is given.  A web client without default headers, as
in the example of `with`, sends requests without a content type.
-/
import NearJsonrpcClient.LastWriter
import NearJsonrpcClient.Methods.Plain
import NearJsonrpcClient.Reference.Replies

namespace NearJsonrpcClient

open Lib

section Sent

variable [Near] [Reqwest] [SerdeJson]
  {M R E : Type} [RpcHandlerResponse R] [RpcHandlerError E] [RpcMethod M R E]

/-! ## What a call sends -/

/-- Reading a reply sends nothing. -/
lemma sent_not_mem_readResponse {request : WireRequest} {response : HttpResponse} :
    .sent request ∉ (readResponse M response).events := by
  have hheaders : Event.sent request ≠ headersLine response := nofun
  by_cases hs : response.status = .OK
  · cases hb : response.bytes with
    | error e =>
      rw [readResponse_of_bytes_error hs hb]
      simpa using hheaders
    | ok bytes =>
      rw [readResponse_of_bytes hs hb]
      have hpayload : .sent request ∉ payloadLines (SerdeJson.fromSlice bytes) := by
        cases SerdeJson.fromSlice bytes <;> simp [payloadLines]
      simpa using ⟨hheaders, hpayload⟩
  · rw [readResponse_of_status_ne hs]
    simpa using hheaders

lemma sent_not_mem_receive {request : WireRequest} {reply : Except ReqwestError HttpResponse} :
    .sent request ∉ (receive M reply).events := by
  intro h
  rcases Traced.mem_bind_events.1 h with h | ⟨response, -, h⟩
  · cases h
  · exact sent_not_mem_readResponse h

/-- The request on the wire is the completed request of the client. -/
lemma wire_of_sent {self : JsonRpcClient} {server : Server} {method : M} {request : WireRequest}
    (h : .sent request ∈ (self.call server method).events) :
    ∃ body, Reqwest.wire (self.requestBuilder body) = .ok request := by
  cases hpayload : toJson method with
  | error e =>
    rw [call_of_toJson_error hpayload] at h
    cases h
  | ok payload =>
    cases hbody : SerdeJson.toVec payload with
    | error e =>
      rw [call_of_toVec_error hpayload hbody] at h
      simp [JsonRpcClient.requestLines] at h
    | ok body =>
      cases hrequest : Reqwest.wire (self.requestBuilder body) with
      | error e =>
        rw [call_of_wire_error hpayload hbody hrequest] at h
        simp [JsonRpcClient.requestLines] at h
      | ok request' =>
        rw [call_of_wire hpayload hbody hrequest] at h
        rcases List.mem_append.1 h with h | h
        · simp [JsonRpcClient.requestLines] at h
        rcases List.mem_cons.1 h with h | h
        · cases h
          exact ⟨body, hrequest⟩
        · exact absurd h sent_not_mem_receive

/-! ## The headers of a request -/

/-- A header map says that the body is JSON. -/
def CarriesJson (m : HeaderMap) : Prop :=
  (m.getAll .contentType).map Http.asBytes = [utf8 "application/json"]

/-- Every request that a call of the client puts on the wire has a property. -/
def JsonRpcClient.EverySent (self : JsonRpcClient) (P : WireRequest → Prop) : Prop :=
  ∀ {M R E : Type} [RpcHandlerResponse R] [RpcHandlerError E] [RpcMethod M R E]
    (server : Server) (method : M) (request : WireRequest),
    .sent request ∈ (self.call server method).events → P request

variable [LawfulReqwest]

omit [Near] [SerdeJson] in
/-- The headers of the client are set on its requests. -/
lemma getAll_requestBuilder {self : JsonRpcClient} {k : HeaderName}
    (hk : self.headers.getAll k ≠ []) (body : Bytes) :
    (Reqwest.builderHeaders (self.requestBuilder body)).getAll k = self.headers.getAll k := by
  rw [JsonRpcClient.requestBuilder, LawfulReqwest.builderHeaders_withBody,
    LawfulReqwest.builderHeaders_withHeaders, if_neg hk]

omit [Near] [SerdeJson] in
lemma contentType_requestBuilder {self : JsonRpcClient}
    (hk : self.headers.getAll .contentType = []) (body : Bytes) :
    (Reqwest.builderHeaders (self.requestBuilder body)).getAll .contentType = [] := by
  rw [JsonRpcClient.requestBuilder, LawfulReqwest.builderHeaders_withBody,
    LawfulReqwest.builderHeaders_withHeaders, if_pos hk, LawfulReqwest.contentType_post]

omit [Near] [SerdeJson] in
lemma builderClient_requestBuilder (self : JsonRpcClient) (body : Bytes) :
    Reqwest.builderClient (self.requestBuilder body) = self.inner.client := by
  rw [JsonRpcClient.requestBuilder, LawfulReqwest.builderClient_withBody,
    LawfulReqwest.builderClient_withHeaders, LawfulReqwest.builderClient_post]

/-- A request carries every header of its client. -/
lemma getAll_of_sent {self : JsonRpcClient} {server : Server} {method : M}
    {request : WireRequest} (h : .sent request ∈ (self.call server method).events)
    {k : HeaderName} (hk : self.headers.getAll k ≠ []) :
    request.headers.getAll k = self.headers.getAll k := by
  obtain ⟨body, hwire⟩ := wire_of_sent h
  have hset := getAll_requestBuilder hk body
  rw [LawfulReqwest.wire_headers _ _ k hwire (by rwa [hset]), hset]

/-- The content type of a request whose client sets none is that of the web client. -/
lemma contentType_of_sent {self : JsonRpcClient} {server : Server} {method : M}
    {request : WireRequest} (h : .sent request ∈ (self.call server method).events)
    (hk : self.headers.getAll .contentType = []) :
    request.headers.getAll .contentType
      = (Reqwest.defaultHeaders self.inner.client).getAll .contentType := by
  obtain ⟨body, hwire⟩ := wire_of_sent h
  have hset := contentType_requestBuilder hk body
  have hclient := builderClient_requestBuilder self body
  by_cases hd : (Reqwest.defaultHeaders self.inner.client).getAll .contentType = []
  · rw [hd]
    exact LawfulReqwest.wire_contentType _ _ hwire hset (by rwa [hclient])
  · rw [LawfulReqwest.wire_default _ _ _ hwire hset (by rwa [hclient]), hclient]

end Sent

section Runs

variable [Reqwest]

/-! ## Sessions -/

/-- An operation that does not set a header under a name. -/
def Op.NeverNames (k : HeaderName) (op : Op) : Prop :=
  ∀ h entry, op.entry = some (h, entry) → entry.name ≠ k

/-- The connectors whose web client sets the content type. -/
def Route.SetsContentType : Route → Prop
  | .default | .newClient => True
  | .withClient client => CarriesJson (Reqwest.defaultHeaders client)

/-- An operation that connects, if it does, by a connector that sets the content type. -/
def Op.SetsContentType : Op → Prop
  | .connect route _ => route.SetsContentType
  | _ => True

/-- An operation that never names a header keeps it unset. -/
lemma keeps_unset [LawfulHeaderMap] {k : HeaderName} {op : Op} (h : op.NeverNames k) :
    Table.Keeps (fun client : JsonRpcClient => client.headers.getAll k = []) op.action := by
  refine op.keeps (fun route serverAddr _ => getAll_emptyMap k) ?_
  intro i entry client v ho hk
  rw [JsonRpcClient.setHeader_headers, LawfulHeaderMap.getAll_insert,
    if_neg (Ne.symm (h i entry ho)), hk]

lemma carriesJson_newClient [LawfulHeaderMap] [LawfulReqwest] :
    CarriesJson (Reqwest.defaultHeaders JsonRpcClient.newClient.client) := by
  have hset : (Http.insert Http.emptyMap HeaderName.contentType
      (Http.fromStatic "application/json")).getAll .contentType
        = [Http.fromStatic "application/json"] := by
    rw [LawfulHeaderMap.getAll_insert, if_pos rfl]
  rw [CarriesJson, JsonRpcClient.newClient, LawfulReqwest.defaultHeaders_build _ _ _ hset,
    List.map_singleton, LawfulReqwest.asBytes_fromStatic]

lemma carriesJson_connector [LawfulHeaderMap] [LawfulReqwest] {route : Route}
    (h : route.SetsContentType) :
    CarriesJson (Reqwest.defaultHeaders route.connector.client) := by
  cases route with
  | default => exact carriesJson_newClient
  | newClient => exact carriesJson_newClient
  | withClient client => exact h

/-- The web client of every handle sets the content type when every connector does. -/
lemma keeps_carriesJson [LawfulHeaderMap] [LawfulReqwest] {op : Op} (h : op.SetsContentType) :
    Table.Keeps
      (fun client : JsonRpcClient => CarriesJson (Reqwest.defaultHeaders client.inner.client))
      op.action := by
  refine op.keeps ?_ fun _ _ _ _ _ hk => hk
  rintro route serverAddr rfl
  exact carriesJson_connector h

/-- **The content type of requests.** In a session that never names the content type,
every request carries the headers of its client, and it carries the content type of JSON
exactly when the web client of the handle has it as a default header.  When each connector
of the session is the default one, made by `new_client`, or made `with` a web client that
has this default header, every request of every handle carries the content type. -/
theorem JsonRpcClient.call_contentType [Near] [SerdeJson] [LawfulHeaderMap] [LawfulReqwest]
    (ops : List Op) (hnames : ∀ op ∈ ops, op.NeverNames .contentType) :
    (∀ (h : ℕ) (client : JsonRpcClient), (handles ops).get h = some client →
      client.EverySent fun request =>
        (∀ k, client.headers.getAll k ≠ [] →
          request.headers.getAll k = client.headers.getAll k) ∧
        (CarriesJson request.headers ↔
          CarriesJson (Reqwest.defaultHeaders client.inner.client))) ∧
    ((∀ op ∈ ops, op.SetsContentType) →
      ∀ (h : ℕ) (client : JsonRpcClient), (handles ops).get h = some client →
        client.EverySent fun request => CarriesJson request.headers) := by
  have hunset : ∀ op ∈ ops, Table.Keeps
      (fun client : JsonRpcClient => client.headers.getAll .contentType = []) op.action :=
    fun op hop => keeps_unset (hnames op hop)
  have hcontent : ∀ (h : ℕ) (client : JsonRpcClient), (handles ops).get h = some client →
      client.EverySent fun request => CarriesJson request.headers ↔
        CarriesJson (Reqwest.defaultHeaders client.inner.client) := by
    intro h client hc M R E _ _ _ server method request hs
    have hk : client.headers.getAll .contentType = [] := handles_of_keeps hunset hc
    rw [CarriesJson, CarriesJson, contentType_of_sent hs hk]
  refine ⟨?_, ?_⟩
  · intro h client hc M R E _ _ _ server method request hs
    exact ⟨fun k hk => getAll_of_sent hs hk, hcontent h client hc server method request hs⟩
  · intro hroutes h client hc M R E _ _ _ server method request hs
    have hkeeps : ∀ op ∈ ops, Table.Keeps (fun client : JsonRpcClient =>
        CarriesJson (Reqwest.defaultHeaders client.inner.client)) op.action :=
      fun op hop => keeps_carriesJson (hroutes op hop)
    exact (hcontent h client hc server method request hs).2 (handles_of_keeps hkeeps hc)

end Runs

section Proxy

open scoped Reference
open Reference

local instance nullBodyJson : SerdeJson := serdeJson [.null]

/-- A session with one handle, on a web client that is built without default headers. -/
def proxySession : List Op :=
  [.connect (.withClient (Reqwest.buildWithDefaultHeaders Http.emptyMap)) "http://localhost:3030"]

/-- The request for the status of the node that a client sends. -/
def statusRequest (client : JsonRpcClient) : WireRequest where
  method := .POST
  url := client.serverAddr
  headers := Entries.merge (Reqwest.defaultHeaders client.inner.client) client.headers
  body := utf8 (render (messageRequest "status" .null))

lemma sent_statusRequest (server : Server) {client : JsonRpcClient}
    (haddr : client.serverAddr ≠ "") :
    .sent (statusRequest client) ∈ (client.call server (⟨⟩ : RpcStatusRequest)).events := by
  have hwire : Reqwest.wire (client.requestBuilder
      (utf8 (render (messageRequest "status" .null)))) = .ok (statusRequest client) :=
    if_neg haddr
  rw [call_of_wire rfl rfl hwire]
  exact List.mem_append_right _ List.mem_cons_self

/-- The web client sets no other content type, and the request of its handle carries none. -/
theorem JsonRpcClient.call_proxySession :
    (Reqwest.defaultHeaders (Reqwest.buildWithDefaultHeaders Http.emptyMap)).getAll .contentType
        = [] ∧
      ∃ client, (handles proxySession).get 0 = some client ∧
        .sent (statusRequest client)
          ∈ (client.call (always (reply .OK .null)) (⟨⟩ : RpcStatusRequest)).events ∧
        (statusRequest client).headers.getAll .contentType = [] ∧
        ¬ CarriesJson (statusRequest client).headers := by
  refine ⟨rfl, _, rfl, sent_statusRequest _ (by decide), rfl, ?_⟩
  intro h
  cases h

/-- A session with the default connector, a token, and a clone. -/
def defaultSession : List Op :=
  [.connect .default "http://localhost:3030", .header 0 (.prevalidated ("Authorization", token "a")),
    .clone 0]

/-- The requests of the clone carry the content type of JSON. -/
theorem JsonRpcClient.call_defaultSession :
    ∃ client, (handles defaultSession).get 1 = some client ∧
      CarriesJson (statusRequest client).headers := by
  refine ⟨_, rfl, ?_⟩
  refine (JsonRpcClient.call_contentType defaultSession ?_).2 ?_ 1 _ rfl (always (reply .OK .null))
    (⟨⟩ : RpcStatusRequest) _ (sent_statusRequest _ (by decide))
  · intro op hop h entry ho
    simp only [defaultSession, List.mem_cons, List.not_mem_nil, or_false] at hop
    rcases hop with rfl | rfl | rfl
    · cases ho
    · cases ho
      decide
    · cases ho
  · intro op hop
    simp only [defaultSession, List.mem_cons, List.not_mem_nil, or_false] at hop
    rcases hop with rfl | rfl | rfl <;> trivial

end Proxy

end NearJsonrpcClient
