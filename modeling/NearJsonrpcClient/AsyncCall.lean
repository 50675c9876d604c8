/-
# The method executor as an asynchronous program

`JsonRpcClient::call` is an `async fn` with two suspension points: sending the request and
reading the body of the reply.  Sending is up to the web client, which may follow the replies
that it gets with further requests.  While a call waits, other programs run.  Here a call is a
program that asks its environment a question for every request and for the body; when it has
ended, it has behaved as the method executor does with one response.
-/
import NearJsonrpcClient.Classification
import NearJsonrpcClient.Lib.Program

namespace NearJsonrpcClient

open Lib

variable [Reqwest]

/-- A reply of which the head has arrived and the body is on its way. -/
structure Reply where
  status : StatusCode
  headers : HeaderMap
  body : Bytes

/-- A request, with the reply that it was given. -/
abbrev Handled : Type := WireRequest × Reply

/-- A point in time, in nanoseconds. -/
abbrev Instant : Type := ℕ

/-- What a program waits for. -/
inductive Ask where
  /-- A request is sent, and the head of its reply is awaited. -/
  | send (request : WireRequest)
  /-- `Response::bytes`. -/
  | bytes (body : Bytes)
  /-- `Instant::now`. -/
  | now
  /-- `time::sleep`, with a number of nanoseconds. -/
  | sleep (duration : ℕ)

/-- The answers to what a program waits for. -/
abbrev Ask.Ans : Ask → Type
  | .send _ => Except ReqwestError Reply
  | .bytes _ => Except ReqwestError Bytes
  | .now => Instant
  | .sleep _ => Unit

/-- An asynchronous program. -/
abbrev Async [Near] (ε α : Type) : Type := Program Ask.Ans Event ε α

/-- What a program was answered, in order. -/
abbrev Dialogue : Type := List (Σ q, Ask.Ans q)

section Execute

variable [Redirects]

/-! ## Sending a request -/

/-- The second half of `RequestBuilder::send`: the web client sends a request, and goes on with
another one as long as its policy makes it follow the replies, a number of times at most. -/
def execute [Near] {ε : Type} (client : WebClient) (n : ℕ) (previous : List String)
    (request : WireRequest) : Async ε (Except ReqwestError Reply) :=
  .ask (.send request) fun
    | .error e => .done (.ok (.error e))
    | .ok reply =>
        match Redirects.redirect client previous request reply.status reply.headers with
        | .error e => .done (.ok (.error e))
        | .ok none => .done (.ok (.ok reply))
        | .ok (some next) =>
            match n with
            | 0 => .done (.ok (.error (Redirects.tooManyRedirects next.url)))
            | n + 1 => execute client n (previous ++ [request.url]) next

/-- The addresses of requests. -/
abbrev urls (ls : List Handled) : List String := ls.map fun l => l.1.url

/-- The replies to a request, and to those that follow it, make a web client go on with the
last request. -/
inductive Chain (client : WebClient) (first : WireRequest) : List Handled → WireRequest → Prop
  | nil : Chain client first [] first
  | snoc {ls : List Handled} {request next : WireRequest} {reply : Reply}
      (h : Chain client first ls request) (hn : ls.length < Redirects.limit client)
      (hr : Redirects.redirect client (urls ls) request reply.status reply.headers
        = .ok (some next)) : Chain client first (ls ++ [(request, reply)]) next

/-- A web client neither returns a reply nor follows it. -/
inductive Refuses (client : WebClient) (ls : List Handled) (request : WireRequest)
    (reply : Reply) : ReqwestError → Prop
  | policy {e : ReqwestError}
      (h : Redirects.redirect client (urls ls) request reply.status reply.headers = .error e) :
      Refuses client ls request reply e
  | limit {next : WireRequest} (hn : ls.length = Redirects.limit client)
      (h : Redirects.redirect client (urls ls) request reply.status reply.headers
        = .ok (some next)) : Refuses client ls request reply (Redirects.tooManyRedirects next.url)

/-- The dialogue in which requests are answered. -/
abbrev hops (ls : List Handled) : Dialogue := ls.map fun l => ⟨.send l.1, .ok l.2⟩

/-- What a web client that sends a request is answered, and what it returns. -/
inductive Received (client : WebClient) (first : WireRequest) :
    Dialogue → Except ReqwestError Reply → Prop
  | lost {ls : List Handled} {request : WireRequest} (hc : Chain client first ls request)
      (e : ReqwestError) : Received client first (hops ls ++ [⟨.send request, .error e⟩]) (.error e)
  | refused {ls : List Handled} {request : WireRequest} {reply : Reply} {e : ReqwestError}
      (hc : Chain client first ls request) (hr : Refuses client ls request reply e) :
      Received client first (hops ls ++ [⟨.send request, .ok reply⟩]) (.error e)
  | replied {ls : List Handled} {request : WireRequest} {reply : Reply}
      (hc : Chain client first ls request)
      (hr : Redirects.redirect client (urls ls) request reply.status reply.headers = .ok none) :
      Received client first (hops ls ++ [⟨.send request, .ok reply⟩]) (.ok reply)

variable {client : WebClient} {first : WireRequest}

/-- A web client is about to send a request, or has returned what it received. -/
lemma execute_inv [Near] {ε : Type} {n : ℕ} {ls : List Handled} {request : WireRequest}
    {tr : Dialogue} {es : List Event} {p : Async ε (Except ReqwestError Reply)}
    (hc : Chain client first ls request)
    (h : (execute client n (urls ls) request).Follows tr es p)
    (hn : ls.length + n = Redirects.limit client) :
    es = [] ∧
      ((∃ ls' request', Chain client first ls' request' ∧ hops ls ++ tr = hops ls' ∧
          ∀ x, p ≠ .done x) ∨
        ∃ r, p = .done (.ok r) ∧ Received client first (hops ls ++ tr) r) := by
  induction n using Nat.strongRecOn generalizing ls request tr with
  | ind n ih =>
    rw [execute] at h
    rcases h.ask_inv with ⟨rfl, rfl, rfl⟩ | ⟨a, tr, rfl, ha⟩
    · exact ⟨rfl, .inl ⟨ls, request, hc, List.append_nil _, nofun⟩⟩
    cases a with
    | error e =>
      obtain ⟨rfl, rfl, rfl⟩ := ha.done_inv
      exact ⟨rfl, .inr ⟨_, rfl, .lost hc e⟩⟩
    | ok reply =>
      dsimp only at ha
      cases hr : Redirects.redirect client (urls ls) request reply.status reply.headers with
      | error e =>
        simp only [hr] at ha
        obtain ⟨rfl, rfl, rfl⟩ := ha.done_inv
        exact ⟨rfl, .inr ⟨_, rfl, .refused hc (.policy hr)⟩⟩
      | ok next =>
        cases next with
        | none =>
          simp only [hr] at ha
          obtain ⟨rfl, rfl, rfl⟩ := ha.done_inv
          exact ⟨rfl, .inr ⟨_, rfl, .replied hc hr⟩⟩
        | some next =>
          cases n with
          | zero =>
            simp only [hr] at ha
            obtain ⟨rfl, rfl, rfl⟩ := ha.done_inv
            exact ⟨rfl, .inr ⟨_, rfl, .refused hc (.limit hn hr)⟩⟩
          | succ n =>
            simp only [hr] at ha
            have hurls : urls ls ++ [request.url] = urls (ls ++ [(request, reply)]) := by simp
            rw [hurls] at ha
            have hnext := ih n (Nat.lt_succ_self n) (.snoc hc (by omega) hr) ha
              (by rw [List.length_append, List.length_singleton]; omega)
            have hhops : hops (ls ++ [(request, reply)]) ++ tr
                = hops ls ++ ⟨.send request, .ok reply⟩ :: tr := by simp [hops]
            rwa [hhops] at hnext

section Answers

variable [Near] {ε : Type} {n : ℕ} {ls : List Handled} {request next : WireRequest} {reply : Reply}

lemma execute_lost (previous : List String) (e : ReqwestError) :
    (execute client n previous request : Async ε _).Follows [⟨.send request, .error e⟩] []
      (.done (.ok (.error e))) := by
  rw [execute]
  exact .ask (.refl _)

lemma execute_replied
    (hr : Redirects.redirect client (urls ls) request reply.status reply.headers = .ok none) :
    (execute client n (urls ls) request : Async ε _).Follows [⟨.send request, .ok reply⟩] []
      (.done (.ok (.ok reply))) := by
  rw [execute]
  refine .ask ?_
  simp only [hr]
  exact .refl _

lemma execute_refused {e : ReqwestError} (hn : ls.length + n = Redirects.limit client)
    (hr : Refuses client ls request reply e) :
    (execute client n (urls ls) request : Async ε _).Follows [⟨.send request, .ok reply⟩] []
      (.done (.ok (.error e))) := by
  rw [execute]
  refine .ask ?_
  cases hr with
  | policy hr =>
    simp only [hr]
    exact .refl _
  | limit hlimit hr =>
    obtain rfl : n = 0 := by omega
    simp only [hr]
    exact .refl _

lemma execute_followed
    (hr : Redirects.redirect client (urls ls) request reply.status reply.headers
      = .ok (some next)) :
    (execute client (n + 1) (urls ls) request : Async ε _).Follows [⟨.send request, .ok reply⟩] []
      (execute client n (urls (ls ++ [(request, reply)])) next) := by
  rw [execute]
  refine .ask ?_
  simp only [hr, urls, List.map_append, List.map_cons, List.map_nil]
  exact .refl _

/-- A web client follows the replies that lead to a request. -/
lemma Chain.follows (h : Chain client first ls request) :
    ∃ n, ls.length + n = Redirects.limit client ∧
      (execute client (Redirects.limit client) [] first : Async ε _).Follows (hops ls) []
        (execute client n (urls ls) request) := by
  induction h with
  | nil => exact ⟨_, Nat.zero_add _, .refl _⟩
  | @snoc ls request next reply h hn hr ih =>
    obtain ⟨n, hlimit, ih⟩ := ih
    obtain ⟨n, rfl⟩ : ∃ m, n = m + 1 := ⟨n - 1, by omega⟩
    refine ⟨n, by rw [List.length_append, List.length_singleton]; omega, ?_⟩
    have hnext := ih.trans (execute_followed hr)
    simpa [hops] using hnext

/-- A web client gets to the end of what it can receive. -/
lemma Received.follows {tr : Dialogue} {r : Except ReqwestError Reply}
    (h : Received client first tr r) :
    (execute client (Redirects.limit client) [] first : Async ε _).Follows tr []
      (.done (.ok r)) := by
  cases h with
  | lost hc e =>
    obtain ⟨n, -, h⟩ := hc.follows (ε := ε)
    exact h.trans (execute_lost _ e)
  | refused hc hr =>
    obtain ⟨n, hn, h⟩ := hc.follows (ε := ε)
    exact h.trans (execute_refused hn hr)
  | replied hc hr =>
    obtain ⟨n, -, h⟩ := hc.follows (ε := ε)
    exact h.trans (execute_replied hr)

end Answers

end Execute

section AsyncCall

variable [Near] [SerdeJson] {M R E : Type} [RpcHandlerResponse R] [RpcHandlerError E]
  [RpcMethod M R E]

/-- The second half of `call`: what it does with a reply. -/
def readResponseAsync (M : Type) [RpcMethod M R E] (response : Reply) :
    Async (JsonRpcError E) R := do
  Program.emit (.debug ("response headers: " ++ Http.debugMap true response.headers))
  Program.lift (if response.status = .OK then .ok ()
    else .error (.serverError (nonOkStatus response.status)))
  let responsePayload : Except ReqwestError Bytes ← Program.query (Ask.bytes response.body)
  let responsePayload ← Program.lift (responsePayload.mapError .payloadRecvError)
  let responsePayload := SerdeJson.fromSlice responsePayload
  if let .ok responsePayload := responsePayload then
    Program.emit (.debug ("response payload: " ++ SerdeJson.display responsePayload))
  let responseMessage ← Program.lift ((decodeBody responsePayload).mapError .payloadParseError)
  match Near.asResponse responseMessage with
  | some result => Program.lift (parseResult M result)
  | none => Program.lift (.error (.unexpectedServerResponse responseMessage))

lemma readResponseAsync_of_status_ne {reply : Reply} (h : reply.status ≠ .OK) :
    readResponseAsync M reply = .tells [headersLine ⟨reply.status, reply.headers, .ok reply.body⟩]
      (.done (.error (.serverError (nonOkStatus reply.status)))) := by
  simp only [readResponseAsync, if_neg h, Program.emit_bind, Program.lift_error_bind]
  rfl

/-- What `call` does with the bytes of a body. -/
def readBytesAsync (M : Type) [RpcMethod M R E] :
    Except ReqwestError Bytes → Async (JsonRpcError E) R
  | .error e => .done (.error (.payloadRecvError e))
  | .ok bytes => .tells (payloadLines (SerdeJson.fromSlice bytes))
      (.done (readMessage M (decodeBody (SerdeJson.fromSlice bytes))))

lemma readResponseAsync_of_status {reply : Reply} (h : reply.status = .OK) :
    readResponseAsync M reply = .tells [headersLine ⟨reply.status, reply.headers, .ok reply.body⟩]
      (.ask (.bytes reply.body) (readBytesAsync M)) := by
  have hmessage : ∀ x : Except Broken Message,
      (do
        let message ← Program.lift (x.mapError .payloadParseError)
        match Near.asResponse message with
        | some result => Program.lift (parseResult M result)
        | none => Program.lift (.error (.unexpectedServerResponse message)) :
          Async (JsonRpcError E) R) = .done (readMessage M x) := by
    rintro (e | message)
    · rfl
    · rw [Except.mapError, Program.lift_ok_bind, readMessage]
      cases Near.asResponse message <;> rfl
  simp only [readResponseAsync, if_pos h, Program.emit_bind, Program.lift_ok_bind,
    Program.query_bind]
  refine congrArg (Program.tell _) (congrArg (Program.ask (Ask.bytes reply.body)) ?_)
  funext x
  cases x with
  | error e => rfl
  | ok bytes =>
    rw [readBytesAsync, Except.mapError, Program.lift_ok_bind]
    cases SerdeJson.fromSlice bytes with
    | error e => exact hmessage (decodeBody (.error e))
    | ok v => exact congrArg (Program.tell _) (hmessage (decodeBody (.ok v)))

/-- What `call` does with the outcome of sending its request. -/
def receiveAsync (M : Type) [RpcMethod M R E] :
    Except ReqwestError Reply → Async (JsonRpcError E) R
  | .error e => .done (.error (.payloadSendError e))
  | .ok reply => readResponseAsync M reply

/-! ## Calls -/

variable [Redirects]

/-- RPC method executor for the client. -/
def JsonRpcClient.callAsync (self : JsonRpcClient) (method : M) : Async (JsonRpcError E) R := do
  let requestPayload ← Program.lift ((toJson method).mapError .payloadSerializeError)
  Program.emit (.debug ("request payload: " ++ SerdeJson.display requestPayload))
  Program.emit (.debug ("request headers: " ++ Http.debugMap true self.headers))
  let requestPayload ← Program.lift ((SerdeJson.toVec requestPayload).mapError
    fun err => .payloadSerializeError err.into)
  let request := Reqwest.withBody (Reqwest.withHeaders
    (Reqwest.post self.inner.client self.inner.serverAddr) self.headers) requestPayload
  let request ← Program.lift ((Reqwest.wire request).mapError .payloadSendError)
  Program.emit (.sent request)
  let response ← execute self.inner.client (Redirects.limit self.inner.client) [] request
  let response ← Program.lift (response.mapError .payloadSendError)
  readResponseAsync M response

section Stages

variable {self : JsonRpcClient} {method : M} {payload : Value} {body : Bytes}

lemma callAsync_of_toJson_error {e : IoError} (hpayload : toJson method = .error e) :
    self.callAsync method = .done (.error (.payloadSerializeError e)) := by
  simp only [JsonRpcClient.callAsync, hpayload, Except.mapError, Program.lift_error_bind]

lemma callAsync_of_toVec_error {e : SerdeError} (hpayload : toJson method = .ok payload)
    (hbody : SerdeJson.toVec payload = .error e) :
    self.callAsync method
      = .tells (self.requestLines payload) (.done (.error (.payloadSerializeError e.into))) := by
  simp only [JsonRpcClient.callAsync, hpayload, hbody, Except.mapError, Program.lift_ok_bind,
    Program.emit_bind, Program.lift_error_bind]
  rfl

lemma callAsync_of_wire_error {e : ReqwestError} (hpayload : toJson method = .ok payload)
    (hbody : SerdeJson.toVec payload = .ok body)
    (hrequest : Reqwest.wire (self.requestBuilder body) = .error e) :
    self.callAsync method
      = .tells (self.requestLines payload) (.done (.error (.payloadSendError e))) := by
  rw [JsonRpcClient.requestBuilder] at hrequest
  simp only [JsonRpcClient.callAsync, hpayload, hbody, hrequest, Except.mapError,
    Program.lift_ok_bind, Program.emit_bind, Program.lift_error_bind]
  rfl

lemma callAsync_of_wire {request : WireRequest} (hpayload : toJson method = .ok payload)
    (hbody : SerdeJson.toVec payload = .ok body)
    (hrequest : Reqwest.wire (self.requestBuilder body) = .ok request) :
    self.callAsync method = .tells (self.requestLines payload ++ [.sent request])
      (execute self.inner.client (Redirects.limit self.inner.client) [] request
        >>= receiveAsync M) := by
  rw [JsonRpcClient.requestBuilder] at hrequest
  simp only [JsonRpcClient.callAsync, hpayload, hbody, hrequest, Except.mapError,
    Program.lift_ok_bind, Program.emit_bind]
  have hreceive : (fun x : Except ReqwestError Reply =>
      (Program.lift (x.mapError .payloadSendError) >>= fun response =>
        readResponseAsync M response : Async (JsonRpcError E) R)) = receiveAsync M := by
    funext x
    cases x <;> rfl
  exact congrArg (fun k : Except ReqwestError Reply → Async (JsonRpcError E) R =>
    (.tells (self.requestLines payload ++ [.sent request])
      (execute self.inner.client (Redirects.limit self.inner.client) [] request >>= k) :
        Async (JsonRpcError E) R)) hreceive

end Stages

/-! ## What a call is answered -/

/-- What a call can have been answered at any time: the replies to its request and to those that
follow it, and the body of one reply. -/
inductive Asks (self : JsonRpcClient) (method : M) : Dialogue → Prop
  | unsent : Asks self method []
  | sending {first request : WireRequest} {ls : List Handled} (h : Sends self method first)
      (hc : Chain self.inner.client first ls request) : Asks self method (hops ls)
  | received {first : WireRequest} {tr : Dialogue} {r : Except ReqwestError Reply}
      (h : Sends self method first) (hr : Received self.inner.client first tr r) :
      Asks self method tr
  | body {first : WireRequest} {tr : Dialogue} {reply : Reply} (h : Sends self method first)
      (hr : Received self.inner.client first tr (.ok reply)) (b : Except ReqwestError Bytes) :
      Asks self method (tr ++ [⟨.bytes reply.body, b⟩])

/-- What a call that has ended was answered, and the response that it makes of the answers; if
it sends no request, any response is as good. -/
inductive Hears (self : JsonRpcClient) (method : M) :
    Dialogue → Except ReqwestError HttpResponse → Prop
  | unsent (h : ∀ request, ¬ Sends self method request)
      (response : Except ReqwestError HttpResponse) : Hears self method [] response
  | failed {first : WireRequest} {tr : Dialogue} {e : ReqwestError} (h : Sends self method first)
      (hr : Received self.inner.client first tr (.error e)) : Hears self method tr (.error e)
  | head {first : WireRequest} {tr : Dialogue} {reply : Reply} (h : Sends self method first)
      (hr : Received self.inner.client first tr (.ok reply)) (hs : reply.status ≠ .OK) :
      Hears self method tr (.ok ⟨reply.status, reply.headers, .ok reply.body⟩)
  | body {first : WireRequest} {tr : Dialogue} {reply : Reply} (h : Sends self method first)
      (hr : Received self.inner.client first tr (.ok reply)) (hs : reply.status = .OK)
      (b : Except ReqwestError Bytes) :
      Hears self method (tr ++ [⟨.bytes reply.body, b⟩]) (.ok ⟨reply.status, reply.headers, b⟩)

variable {self : JsonRpcClient} {method : M} {tr tr' : Dialogue} {es : List Event}
  {p : Async (JsonRpcError E) R}

/-- After a request has been sent, a call goes on as the method executor. -/
lemma receiveAsync_inv {first : WireRequest} {r : Except ReqwestError Reply}
    (hsends : Sends self method first) (hr : Received self.inner.client first tr r)
    (h : (receiveAsync M r).Follows tr' es p) :
    Asks self method (tr ++ tr') ∧ ∀ x, p = .done x → ∃ response,
      Hears self method (tr ++ tr') response ∧ receive M response = ⟨es, x⟩ := by
  cases r with
  | error e =>
    obtain ⟨rfl, rfl, rfl⟩ := h.done_inv
    rw [List.append_nil]
    refine ⟨.received hsends hr, ?_⟩
    rintro x ⟨⟩
    exact ⟨_, .failed hsends hr, receive_error e⟩
  | ok reply =>
    rw [receiveAsync] at h
    by_cases hs : reply.status = .OK
    · rw [readResponseAsync_of_status hs] at h
      rcases h.tells_inv with ⟨rfl, hp⟩ | ⟨es, rfl, hask⟩
      · rw [List.append_nil]
        exact ⟨.received hsends hr, fun x hx => absurd hx (hp x)⟩
      rcases hask.ask_inv with ⟨rfl, rfl, rfl⟩ | ⟨b, tr', rfl, hread⟩
      · rw [List.append_nil]
        exact ⟨.received hsends hr, nofun⟩
      cases b with
      | error e =>
        obtain ⟨rfl, rfl, rfl⟩ := hread.done_inv
        refine ⟨.body hsends hr _, ?_⟩
        rintro x ⟨⟩
        exact ⟨_, .body hsends hr hs (.error e), readResponse_of_bytes_error hs rfl⟩
      | ok bytes =>
        obtain ⟨rfl, hdone⟩ := hread.tells_done_inv
        refine ⟨.body hsends hr _, fun x hx => ?_⟩
        obtain ⟨rfl, rfl⟩ := hdone x hx
        exact ⟨_, .body hsends hr hs (.ok bytes), readResponse_of_bytes hs rfl⟩
    · rw [readResponseAsync_of_status_ne hs] at h
      obtain ⟨rfl, hdone⟩ := h.tells_done_inv
      rw [List.append_nil]
      refine ⟨.received hsends hr, fun x hx => ?_⟩
      obtain ⟨rfl, rfl⟩ := hdone x hx
      exact ⟨_, .head hsends hr hs, readResponse_of_status_ne hs⟩

/-- A call that sends no request ends on its own, as the method executor does. -/
lemma callAsync_of_not_sends (h : ∀ request, ¬ Sends self method request) :
    ∃ events x, self.callAsync method = .tells events (.done x) ∧
      ∀ server, self.call server method = ⟨events, x⟩ := by
  cases hpayload : toJson method with
  | error e =>
    exact ⟨[], _, callAsync_of_toJson_error hpayload, fun _ => call_of_toJson_error hpayload⟩
  | ok payload =>
    cases hbody : SerdeJson.toVec payload with
    | error e =>
      exact ⟨_, _, callAsync_of_toVec_error hpayload hbody,
        fun _ => call_of_toVec_error hpayload hbody⟩
    | ok body =>
      cases hrequest : Reqwest.wire (self.requestBuilder body) with
      | error e =>
        exact ⟨_, _, callAsync_of_wire_error hpayload hbody hrequest,
          fun _ => call_of_wire_error hpayload hbody hrequest⟩
      | ok request =>
        exact absurd (sends_iff.2 ⟨payload, body, hpayload, hbody, hrequest⟩) (h request)

/-- **A call and its answers.** At any time a call has been answered about its own request and
those that follow it, and when it has ended it has behaved as the method executor does with the
response that it made of the answers. -/
theorem JsonRpcClient.callAsync_inv (h : (self.callAsync method).Follows tr es p) :
    Asks self method tr ∧ ∀ x, p = .done x → ∃ response, Hears self method tr response ∧
      self.call (fun _ => response) method = ⟨es, x⟩ := by
  by_cases hsends : ∃ request, Sends self method request
  · obtain ⟨request, hsends⟩ := hsends
    obtain ⟨payload, body, hpayload, hbody, hrequest⟩ := sends_iff.1 hsends
    rw [callAsync_of_wire hpayload hbody hrequest] at h
    rcases h.tells_inv with ⟨rfl, hp⟩ | ⟨es, rfl, hrest⟩
    · exact ⟨.unsent, fun x hx => absurd hx (hp x)⟩
    have hcall : ∀ {tr₁ tr₂ es₁ es₂} {r : Except ReqwestError Reply},
        (execute self.inner.client (Redirects.limit self.inner.client) [] request :
          Async (JsonRpcError E) _).Follows tr₁ es₁ (.done (.ok r)) →
        (receiveAsync M r).Follows tr₂ es₂ p →
        Asks self method (tr₁ ++ tr₂) ∧ ∀ x, p = .done x → ∃ response,
          Hears self method (tr₁ ++ tr₂) response ∧ self.call (fun _ => response) method
            = ⟨self.requestLines payload ++ [.sent request] ++ (es₁ ++ es₂), x⟩ := by
      intro tr₁ tr₂ es₁ es₂ r hsent hreceive
      obtain ⟨rfl, ⟨ls, request', -, -, hp⟩ | ⟨r', hr', hr⟩⟩ :=
        execute_inv (.nil : Chain self.inner.client request [] request) hsent (Nat.zero_add _)
      · exact absurd rfl (hp _)
      cases hr'
      obtain ⟨hasks, hended⟩ := receiveAsync_inv hsends hr hreceive
      refine ⟨hasks, fun x hx => ?_⟩
      obtain ⟨response, hhears, hresponse⟩ := hended x hx
      refine ⟨response, hhears, ?_⟩
      rw [call_of_wire hpayload hbody hrequest, hresponse]
      simp
    rcases hrest.of_bind with ⟨p', hsent, rfl⟩ | ⟨tr₁, tr₂, es₁, es₂, r, rfl, rfl, hsent, hreceive⟩
    · obtain ⟨rfl, ⟨ls, request', hc, htr, hp⟩ | ⟨r, rfl, hr⟩⟩ :=
        execute_inv (.nil : Chain self.inner.client request [] request) hsent (Nat.zero_add _)
      · obtain rfl : tr = hops ls := htr
        refine ⟨.sending hsends hc, fun x hx => ?_⟩
        rcases Program.bind_eq_done hx with ⟨e, he, -⟩ | ⟨r, hr, -⟩
        · exact absurd he (hp _)
        · exact absurd hr (hp _)
      · have hdone := hcall hsent (.refl _)
        rwa [List.append_nil] at hdone
    · exact hcall hsent hreceive
  · push Not at hsends
    obtain ⟨events, y, hcall, hrun⟩ := callAsync_of_not_sends hsends
    rw [hcall] at h
    obtain ⟨rfl, hdone⟩ := h.tells_done_inv
    refine ⟨.unsent, fun x hx => ?_⟩
    obtain ⟨rfl, rfl⟩ := hdone x hx
    exact ⟨.error ⟨"nothing was received"⟩, .unsent hsends _, hrun _⟩

/-- After its request has been sent a call gets to its end. -/
lemma Received.call_follows {first : WireRequest} {r : Except ReqwestError Reply}
    (hsends : Sends self method first) (hr : Received self.inner.client first tr r) :
    ∃ events, (self.callAsync method).Follows tr events (receiveAsync M r) := by
  obtain ⟨payload, body, hpayload, hbody, hrequest⟩ := sends_iff.1 hsends
  have hsent := (hr.follows (ε := JsonRpcError E)).bind (receiveAsync M)
  exact ⟨_, callAsync_of_wire hpayload hbody hrequest ▸ hsent.after_tells⟩

omit [Redirects] in
/-- What a call does with a reply that it reads to the end. -/
lemma readResponseAsync_follows {reply : Reply} (hs : reply.status = .OK)
    (b : Except ReqwestError Bytes) : ∃ events,
      (readResponseAsync M reply).Follows [⟨.bytes reply.body, b⟩] events
        (.done (readResponse M ⟨reply.status, reply.headers, b⟩).result) := by
  rw [readResponseAsync_of_status hs]
  cases b with
  | error e =>
    rw [readResponse_of_bytes_error hs rfl]
    exact ⟨_, (Program.Follows.ask (.refl _)).after_tells⟩
  | ok bytes =>
    rw [readResponse_of_bytes hs rfl]
    have hbytes : (readBytesAsync M (.ok bytes)).Follows [] (payloadLines _ ++ [])
        (.done (readMessage M (decodeBody (SerdeJson.fromSlice bytes)))) :=
      (Program.Follows.refl _).after_tells
    exact ⟨_, (Program.Follows.ask hbytes).after_tells⟩

/-- A call gets to its end with all that it can be answered. -/
theorem Hears.follows {response : Except ReqwestError HttpResponse}
    (h : Hears self method tr response) : ∃ events, (self.callAsync method).Follows tr events
      (.done (self.call (fun _ => response) method).result) := by
  have hresult : ∀ {first : WireRequest} {response : HttpResponse}, Sends self method first →
      (self.call (fun _ => .ok response) method).result = (readResponse M response).result :=
    fun hsends => call_result_of_answered ⟨_, hsends, rfl⟩
  cases h with
  | unsent h response =>
    obtain ⟨events, x, hcall, hrun⟩ := callAsync_of_not_sends h
    rw [hcall, hrun]
    exact ⟨_, (Program.Follows.refl _).after_tells⟩
  | failed hsends hr =>
    obtain ⟨payload, body, hpayload, hbody, hrequest⟩ := sends_iff.1 hsends
    rw [call_of_wire hpayload hbody hrequest]
    exact hr.call_follows hsends
  | head hsends hr hs =>
    obtain ⟨events, hevents⟩ := hr.call_follows hsends
    rw [receiveAsync, readResponseAsync_of_status_ne hs] at hevents
    rw [hresult hsends, readResponse_of_status_ne hs]
    have hdone := hevents.trans (Program.Follows.refl _).after_tells
    rw [List.append_nil] at hdone
    exact ⟨_, hdone⟩
  | body hsends hr hs b =>
    obtain ⟨events, hevents⟩ := hr.call_follows hsends
    obtain ⟨events', hread⟩ := readResponseAsync_follows (M := M) hs b
    rw [hresult hsends]
    exact ⟨_, hevents.trans hread⟩

end AsyncCall

end NearJsonrpcClient
