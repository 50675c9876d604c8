/-
# Remote procedure calls

A node that handles typed requests one at a time, and redirects none, and any number of calls
that run against it side by side.  The node reads a request from the body in which it is sent
and delivers what it answers; the calls together are remote procedure calls: each of those that
returns has taken effect once, in one order for all of them, and returns what the node answered.
-/
import NearJsonrpcClient.Network
import NearJsonrpcClient.Outcomes
import NearJsonrpcClient.Requests

namespace NearJsonrpcClient

open Lib

/-- A list that is related to one element is one element. -/
lemma exists_of_forall₂_singleton {A B : Type*} {R : A → B → Prop} {a : A} {bs : List B}
    (h : List.Forall₂ R [a] bs) : ∃ b, bs = [b] ∧ R a b := by
  cases h with
  | cons hab h =>
    cases h
    exact ⟨_, rfl, hab⟩

/-- A list that is related to two lists, one after another, is in two parts. -/
lemma exists_of_forall₂_append {A B : Type*} {R : A → B → Prop} {as as' : List A} {bs : List B}
    (h : List.Forall₂ R (as ++ as') bs) :
    ∃ cs cs', bs = cs ++ cs' ∧ List.Forall₂ R as cs ∧ List.Forall₂ R as' cs' :=
  ⟨bs.take as.length, bs.drop as.length, (List.take_append_drop _ _).symm,
    (List.forall₂_take_append _ _ _ h.flip).flip, (List.forall₂_drop_append _ _ _ h.flip).flip⟩

section RemoteCalls

variable [Near] [NodeResponses] [Node] [Reqwest] [SerdeJson]

/-! ## A node as a server -/

/-- What a node, or what stands before it, replies to a request: an outcome, or a status. -/
inductive NodeAnswer (t : TypedMethod) where
  | outcome (o : NodeOutcome t)
  | status (status : StatusCode) (h : status ≠ .OK)

/-- What the client returns for an answer. -/
def NodeAnswer.reported {t : TypedMethod} :
    NodeAnswer t → Except (JsonRpcError t.impl.Error) t.impl.Response
  | .outcome o => o.reported
  | .status s _ => .error (.serverError (nonOkStatus s))

/-- A request with the answer to it. -/
abbrev RemoteCall : Type := Σ r : TypedRequest, NodeAnswer r.1

/-- How a node handles requests: from which state which request is given which answer, and to
which state. -/
abbrev Handling (σ : Type) : Type := σ → RemoteCall → σ → Prop

/-- A reply carries an answer. -/
inductive Carries {t : TypedMethod} (reply : Reply) : NodeAnswer t → Prop
  | outcome {o : NodeOutcome t} {result : Except RpcError Value} (hs : reply.status = .OK)
      (hd : Decodes ⟨reply.status, reply.headers, .ok reply.body⟩ result)
      (ho : Delivers t o result) : Carries reply (.outcome o)
  | status (h : reply.status ≠ .OK) : Carries reply (.status reply.status h)

/-- The server of a node: it reads the request in the body and replies with the answer. -/
def Handling.serving {σ : Type} (handles : Handling σ) : Serving σ := fun s l s' =>
  ∃ c : RemoteCall, handles s c s' ∧ c.1.body = .ok l.1.body ∧ Carries l.2 c.2

/-- A node that redirects no request. -/
def Handling.Direct {σ : Type} (handles : Handling σ) : Prop :=
  ∀ s r answer s', handles s ⟨r, answer⟩ s' → ∀ status h, answer = .status status h →
    ¬ status.IsRedirect

/-- A call of a typed method. -/
def CallJob.typed (client : JsonRpcClient) (r : TypedRequest) : CallJob := ⟨r.1.impl, client, r.2⟩

/-- The remote calls of one task. -/
def callsOf (i : ℕ) (calls : List (ℕ × RemoteCall)) : List RemoteCall :=
  (calls.filter fun c => c.1 = i).map Prod.snd

/-! ## What a call reads in a reply -/

variable [LawfulNodeResponses] [LawfulNode]

/-- The reply that carries an answer is read as the answer. -/
lemma readResponse_of_carries {t : TypedMethod} {reply : Reply} {answer : NodeAnswer t}
    (h : Carries reply answer) :
    (readResponse t.impl.Request ⟨reply.status, reply.headers, .ok reply.body⟩).result
      = answer.reported := by
  cases h with
  | outcome hs hd ho =>
    rw [readResponse_result_of_decodes hs hd]
    exact parseResult_of_delivers ho
  | status h => exact readResponse_result_of_status_ne h

omit [LawfulNodeResponses] [LawfulNode] in
/-- When the body of a reply is lost, so is an outcome, but not a status. -/
lemma readResponse_of_carries_lost {t : TypedMethod} {reply : Reply} {answer : NodeAnswer t}
    (h : Carries reply answer) (e : ReqwestError) :
    ((∃ o, answer = .outcome o) ∧
        (readResponse t.impl.Request ⟨reply.status, reply.headers, .error e⟩).result
          = .error (.payloadRecvError e)) ∨
      (readResponse t.impl.Request ⟨reply.status, reply.headers, .error e⟩).result
        = answer.reported := by
  cases h with
  | @outcome o result hs hd ho =>
    refine .inl ⟨⟨o, rfl⟩, ?_⟩
    rw [readResponse_of_bytes_error hs rfl]
  | status h => exact .inr (readResponse_result_of_status_ne h)

omit [LawfulNodeResponses] [LawfulNode] in
lemma Carries.status_cases {t : TypedMethod} {reply : Reply} {answer : NodeAnswer t}
    (h : Carries reply answer) :
    reply.status = .OK ∨ ∃ hne, answer = .status reply.status hne := by
  cases h with
  | outcome hs _ _ => exact .inl hs
  | status h => exact .inr ⟨h, rfl⟩

omit [LawfulNodeResponses] [LawfulNode] in
/-- A node that redirects no request gives no such reply. -/
lemma Handling.Direct.not_isRedirect {σ : Type} {handles : Handling σ} (hd : handles.Direct)
    {s s' : σ} {ls : List (ℕ × Handled)} (h : Serves handles.serving s ls s') :
    ∀ l ∈ ls, ¬ l.2.2.status.IsRedirect := by
  refine h.forall_mem ?_
  rintro s ⟨i, request, reply⟩ s' ⟨⟨r, answer⟩, hhandles, -, hcarries⟩
  rcases hcarries.status_cases with hs | ⟨hne, ha⟩
  · rw [hs]
    decide
  · exact hd s r answer s' hhandles _ hne ha

omit [Near] [NodeResponses] [Node] [SerdeJson] [LawfulNodeResponses] [LawfulNode] in
/-- What the server handled of one task is part of what it handled. -/
lemma mem_handled_of_handledFor {i : ℕ} {log : List NetRecord} {l : Handled}
    (h : l ∈ handledFor i log) : (i, l) ∈ handled log := by
  obtain ⟨⟨j, l'⟩, hmem, rfl⟩ := List.mem_map.1 h
  obtain ⟨hlog, hj⟩ := List.mem_filter.1 hmem
  obtain rfl : j = i := by simpa using hj
  exact hlog

/-! ## Remote calls -/

/-- A request that the server handled, and the remote call that this was. -/
def Is (l : ℕ × Handled) (c : ℕ × RemoteCall) : Prop :=
  c.1 = l.1 ∧ c.2.1.body = .ok l.2.1.body ∧ Carries l.2.2 c.2.2

omit [LawfulNodeResponses] [LawfulNode] in
lemma map_fst_of_is {ls : List (ℕ × Handled)} {calls : List (ℕ × RemoteCall)}
    (h : List.Forall₂ Is ls calls) : calls.map Prod.fst = ls.map Prod.fst := by
  induction h with
  | nil => rfl
  | cons hlc _ ih => rw [List.map_cons, List.map_cons, ih, hlc.1]

omit [LawfulNodeResponses] [LawfulNode] in
lemma callsOf_is {ls : List (ℕ × Handled)} {calls : List (ℕ × RemoteCall)}
    (h : List.Forall₂ Is ls calls) (i : ℕ) :
    List.Forall₂ (fun (l : Handled) (c : RemoteCall) =>
        c.1.body = .ok l.1.body ∧ Carries l.2 c.2)
      ((ls.filter fun l => l.1 = i).map Prod.snd) (callsOf i calls) := by
  have hfilter : List.Forall₂ Is (ls.filter fun l => l.1 = i) (calls.filter fun c => c.1 = i) := by
    refine List.rel_filter ?_ h
    intro l c hlc
    simp [hlc.1]
  rw [callsOf, List.forall₂_map_left_iff, List.forall₂_map_right_iff]
  exact hfilter.imp fun _ _ hlc => hlc.2

omit [LawfulNodeResponses] [LawfulNode] in
/-- What the server handles, one request after another, are calls of the node. -/
lemma exists_calls {σ : Type} {handles : Handling σ} {s s' : σ} {ls : List (ℕ × Handled)}
    (h : Serves handles.serving s ls s') :
    ∃ calls, Steps (fun s c s' => handles s c.2 s') s calls s' ∧ List.Forall₂ Is ls calls := by
  refine h.simulate id ?_
  rintro s ⟨i, l⟩ s' ⟨c, hc, hbody, hcarries⟩
  exact ⟨(i, c), hc, rfl, hbody, hcarries⟩

omit [NodeResponses] [Node] [LawfulNodeResponses] [LawfulNode] in
/-- The node reads in the body of a call's request the request of the call. -/
lemma Sends.eq_of_body [LawfulBody] (hmsg : InjectiveMessages) {client : JsonRpcClient}
    {r : TypedRequest} (hinj : r.1.InjectiveEncoders) {request : WireRequest}
    (h : Sends client r.2 request) {r' : TypedRequest} (hbody : r'.body = .ok request.body) :
    r' = r :=
  (TypedRequest.eq_of_body hmsg hinj h.body hbody).symm

/-- **Remote procedure calls.** Take any run of calls against a node that redirects no request.
What the node did is a sequential run of its handler, in the order in which it handled the
requests on the wire.  Of each typed call it handled one at most, with the very request of the
call.  A call that has ended could not encode its payload, or could not build its request, and
then the node handled nothing of it; or its request or the reply to it was lost; or else it was
handled exactly once, and it returns what the node answered, unless this is an outcome and the
body of the reply was lost. -/
theorem JsonRpcClient.calls_remote [Redirects] [LawfulBody] [LawfulRedirects]
    (hmsg : InjectiveMessages) {σ : Type} (handles : Handling σ) (hd : handles.Direct) (server : σ)
    (clock : Instant) (log : List NetRecord) (s : Network σ)
    (hr : Network.Run handles.serving (Pool.empty (.init server clock)) log s) :
    ∃ calls : List (ℕ × RemoteCall),
      Steps (fun s c s' => handles s c.2 s') server calls s.env.server ∧
      calls.map Prod.fst = (handled log).map Prod.fst ∧
      ∀ i client r events p, r.1.InjectiveEncoders →
        s.tasks[i]? = some ⟨CallJob.typed client r, events, p⟩ →
        (callsOf i calls).length ≤ 1 ∧ (∀ c ∈ callsOf i calls, c.1 = r) ∧
        ∀ x : Except (JsonRpcError r.1.impl.Error) r.1.impl.Response, p = .done x →
          (∃ e, x = .error (.payloadSerializeError e) ∧ callsOf i calls = []) ∨
          (∃ e, x = .error (.payloadSendError e) ∧
            (Unbuilt client r.2 e ∧ callsOf i calls = [] ∨
              ∃ request, Sends client r.2 request ∧
                ⟨.send request, .error e⟩ ∈ dialogue i log)) ∨
          ∃ answer, callsOf i calls = [⟨r, answer⟩] ∧
            (x = answer.reported ∨ ∃ o body e, answer = .outcome o ∧
              ⟨.bytes body, .error e⟩ ∈ dialogue i log ∧
              x = .error (.payloadRecvError e)) := by
  have hserves := serves_of_steps hr.explains.steps
  obtain ⟨calls, hsteps, his⟩ := exists_calls hserves
  refine ⟨calls, hsteps, map_fst_of_is his, ?_⟩
  intro i client r events p hinj ht
  have hdirect : ∀ l ∈ handledFor i log, ¬ l.2.status.IsRedirect := fun l hl =>
    hd.not_isRedirect hserves _ (mem_handled_of_handledFor hl)
  have hof := callsOf_is his i
  -- what the server handled of the call is the request of the call
  have hone : ∀ {request reply}, Sends client r.2 request →
      handledFor i log = [(request, reply)] →
      ∃ answer, callsOf i calls = [⟨r, answer⟩] ∧ Carries reply answer := by
    intro request reply hsends hhandled
    rw [← handledFor, hhandled] at hof
    obtain ⟨⟨r', answer⟩, hcalls, hbody, hcarries⟩ := exists_of_forall₂_singleton hof
    obtain rfl := hsends.eq_of_body hmsg hinj hbody
    exact ⟨answer, hcalls, hcarries⟩
  have hnone : handledFor i log = [] → callsOf i calls = [] := by
    intro hhandled
    rw [← handledFor, hhandled] at hof
    exact List.forall₂_nil_left_iff.1 hof
  refine ⟨?_, ?_, ?_⟩
  · rw [← hof.length_eq, ← handledFor]
    exact (hr.routed ht).length_le_one hdirect
  · rcases (hr.routed ht).direct hdirect with hhandled | ⟨request, reply, hsends, hhandled⟩
    · simp [hnone hhandled]
    · obtain ⟨answer, hcalls, -⟩ := hone hsends hhandled
      simp [hcalls]
  · rintro x hx
    obtain ⟨response, hperceives, hcall⟩ := hr.perceives ht hx
    have hresult : (client.call (fun _ => response) r.2).result = x :=
      congrArg Traced.result hcall
    rw [← hresult]
    rcases hperceives.result_cases with
      ⟨-, hhandled, e, he⟩ | ⟨e, hfails, he⟩ | ⟨reply, bytes, hreply, hb, hread⟩
    · exact .inl ⟨e, he, hnone hhandled⟩
    · refine .inr (.inl ⟨e, he, ?_⟩)
      rcases hfails with ⟨hunbuilt, hhandled⟩ | hfails
      · exact .inl ⟨hunbuilt, hnone hhandled⟩
      · exact .inr (hfails.direct hdirect)
    · obtain ⟨request, hsends, hhandled⟩ := hreply.direct hdirect
      obtain ⟨answer, hcalls, hcarries⟩ := hone hsends hhandled
      refine .inr (.inr ⟨answer, hcalls, ?_⟩)
      rcases hb with rfl | ⟨e, rfl, hlost⟩
      · exact .inl (hread.trans (readResponse_of_carries hcarries))
      · rcases readResponse_of_carries_lost hcarries e with ⟨⟨o, ho⟩, hlost'⟩ | hstatus
        · exact .inr ⟨o, reply.body, e, ho, hlost, hread.trans hlost'⟩
        · exact .inl (hread.trans hstatus)

end RemoteCalls

section Rate

open scoped Reference
open Reference

attribute [local instance] referenceNode lawfulReferenceNode plainResponses lawfulPlainResponses

noncomputable local instance rateHashJson : SerdeJson :=
  textJson [ratePayload] [resultBody rateHash]

/-- A node that answers one request with the hash of its transaction. -/
def hashing : Handling ℕ := fun n c n' =>
  n = 0 ∧ n' = 1 ∧ c = ⟨rate, .outcome (.response rateHash)⟩

lemma direct_hashing : hashing.Direct := by
  rintro n r answer n' ⟨-, -, hc⟩ status h rfl
  cases hc

/-- The call that submits the transaction. -/
lemma exists_hashingRun : ∃ log s events,
    Network.Run hashing.serving (Pool.empty (.init 0 0)) log s ∧
      s.tasks[0]? = some ⟨CallJob.typed localNode rate, events, .done (.ok rateHash)⟩ := by
  have hsends : Sends localNode rate.2 (requestWith ratePayload) :=
    sends_text (r := rate) _ (by simp) toJson_rate
  have hd : Decodes (reply .OK (resultBody rateHash)) (.ok rateHash) :=
    decodes_of_resultBody .OK (decodeText_render _ [])
  obtain ⟨events, hfollows⟩ := (hears_replyWith hsends (resultBody rateHash)).follows
  rw [result_replyWith hsends hd] at hfollows
  have hserved : hashing.serving 0 (requestWith ratePayload, replyWith (resultBody rateHash)) 1 :=
    ⟨_, ⟨rfl, rfl, rfl⟩, hsends.body (r := rate), .outcome rfl hd (.response ⟨rfl, _, rfl⟩)⟩
  have hstarted : Network.Run hashing.serving (Pool.empty (.init 0 0)) _
      ⟨.init 0 0, [⟨CallJob.typed localNode rate, [], (CallJob.typed localNode rate).start⟩]⟩ :=
    .single (.spawn (CallJob.typed localNode rate))
  have hended := hstarted.trans (.follow (i := 0) hfollows [⟨0, _, _, [_]⟩, ⟨0, _, _, []⟩]
    (by simp) rfl (.cons (World.Answers.replied hserved (Nat.le_refl 0))
      (.cons (World.Answers.body _ (Nat.le_refl 0)) (.nil _))) rfl)
  exact ⟨_, _, _, hended, rfl⟩

/-- The node has handled the transaction once, and the call returns the hash that it answered. -/
theorem JsonRpcClient.calls_remote_rate : ∃ log s calls,
    Network.Run hashing.serving (Pool.empty (.init 0 0)) log s ∧
      Steps (fun s c s' => hashing s c.2 s') 0 calls s.env.server ∧
      ∃ answer : NodeAnswer .broadcastTxAsync, callsOf 0 calls = [⟨rate, answer⟩] ∧
        answer.reported = .ok rateHash := by
  obtain ⟨log, s, events, hr, ht⟩ := exists_hashingRun
  obtain ⟨calls, hsteps, -, hcalls⟩ := JsonRpcClient.calls_remote
    (injectiveMessages_text _ (by decide)) hashing direct_hashing 0 0 log s hr
  obtain ⟨-, -, hended⟩ := hcalls 0 localNode rate events _ injectiveEncodings_reference ht
  refine ⟨log, s, calls, hr, hsteps, ?_⟩
  rcases hended _ rfl with ⟨e, he, -⟩ | ⟨e, he, -⟩ | ⟨answer, hone, hx⟩
  · cases he
  · cases he
  · refine ⟨answer, hone, ?_⟩
    rcases hx with hx | ⟨o, body, e, -, -, hx⟩
    · exact hx.symm
    · cases hx

end Rate

end NearJsonrpcClient
