/-
# Submitting a transaction to a node

The scripts that submit a transaction, against a node that handles typed requests one at a time
and redirects none.  Whatever is lost, the node is called with the transaction once at most; a
script that returns a value has had its transaction handled exactly once, and returns what the
node answered last.
-/
import NearJsonrpcClient.RemoteCalls
import NearJsonrpcClient.Submission

namespace NearJsonrpcClient

open Lib

section RemoteSubmission

variable [Near] [NodeResponses] [Node] [Reqwest] [SerdeJson]

namespace Submission

variable {t : TypedMethod} {β : Type}

/-- The remote calls of a script: none, the call with its transaction, or this call and the
questions for the status of the transaction that the node answered it with. -/
inductive Remote (s : Submission t β) : List RemoteCall → Prop
  | unsent : Remote s []
  | sent (answer : NodeAnswer t) : Remote s [⟨⟨t, s.request⟩, answer⟩]
  | waiting {answer : NodeAnswer t} {txHash : CryptoHash} {polls : List RemoteCall}
      (hn : s.next answer.reported = .ok (.inr txHash))
      (hp : ∀ c ∈ polls, c.1 = ⟨.tx, s.statusRequest txHash⟩) :
      Remote s (⟨⟨t, s.request⟩, answer⟩ :: polls)

/-- How the remote calls of a script lead to a value: the first one does, or the last one. -/
inductive Returns (s : Submission t β) (b : β) : List RemoteCall → Prop
  | submitted {answer : NodeAnswer t} (hn : s.next answer.reported = .ok (.inl b)) :
      Returns s b [⟨⟨t, s.request⟩, answer⟩]
  | accepted {calls : List RemoteCall} {txHash : CryptoHash} {r : RpcTransactionResponse}
      (ha : s.accept r = .ok (some b)) :
      Returns s b (calls ++ [⟨⟨.tx, s.statusRequest txHash⟩, .outcome (.response r)⟩])

omit [NodeResponses] [SerdeJson] in
/-- A script that has called the node more than once waits for a transaction. -/
lemma Remote.cons_inv {s : Submission t β} {c : RemoteCall} {cs : List RemoteCall}
    (h : s.Remote (c :: cs)) : c.1 = ⟨t, s.request⟩ ∧ (cs = [] ∨
      ∃ answer txHash, c = ⟨⟨t, s.request⟩, answer⟩ ∧
        s.next answer.reported = .ok (.inr txHash) ∧
        ∀ c' ∈ cs, c'.1 = ⟨.tx, s.statusRequest txHash⟩) := by
  cases h with
  | sent answer => exact ⟨rfl, .inl rfl⟩
  | waiting hn hp => exact ⟨rfl, .inr ⟨_, _, rfl, hn, hp⟩⟩

end Submission

omit [NodeResponses] [Reqwest] [SerdeJson] in
/-- Only a response is reported as one. -/
lemma NodeAnswer.reported_eq_ok {t : TypedMethod} {answer : NodeAnswer t} {r : t.impl.Response}
    (h : answer.reported = .ok r) : answer = .outcome (.response r) := by
  rcases answer with (r' | e | kind | m) | ⟨status, hs⟩
  · cases h
    rfl
  · cases h
  · cases h
  · cases h
  · cases h

variable [LawfulNodeResponses] [LawfulNode]

namespace Submission

variable {t : TypedMethod} {β : Type} {s : Submission t β}

/-- The requests of a list that the server handled, and the remote calls that these were. -/
abbrev AreCalls : List Handled → List RemoteCall → Prop :=
  List.Forall₂ fun l c => c.1.body = .ok l.1.body ∧ Carries l.2 c.2

section Direct

variable [Redirects] [LawfulBody] [LawfulRedirects] {ls : List Handled} {calls : List RemoteCall}

omit [Redirects] [LawfulNodeResponses] [LawfulNode] [LawfulRedirects] in
/-- The node reads in the requests of a script what the script asked. -/
lemma AreCalls.eq_of_sends (hc : AreCalls ls calls) (hmsg : InjectiveMessages)
    {client : JsonRpcClient} {r : TypedRequest} (hinj : r.1.InjectiveEncoders)
    (h : ∀ l ∈ ls, Sends client r.2 l.1) : ∀ c ∈ calls, c.1 = r := by
  induction hc with
  | nil => simp
  | cons hlc _ ih =>
    rw [List.forall_mem_cons] at h ⊢
    exact ⟨h.1.eq_of_body hmsg hinj hlc.1, ih h.2⟩

omit [LawfulNodeResponses] [LawfulNode] in
/-- What the node was asked by a call whose last reply the script read. -/
lemma AreCalls.of_lastReply (hmsg : InjectiveMessages) {client : JsonRpcClient}
    {r : TypedRequest} (hinj : r.1.InjectiveEncoders) {reply : Reply}
    (h : LastReply client r.2 ls reply) (hd : ∀ l ∈ ls, ¬ l.2.status.IsRedirect)
    (hc : AreCalls ls calls) : ∃ answer, calls = [⟨r, answer⟩] ∧ Carries reply answer := by
  obtain ⟨request, hsends, rfl⟩ := h.direct hd
  obtain ⟨⟨r', answer⟩, rfl, hbody, hcarries⟩ := exists_of_forall₂_singleton hc
  obtain rfl := hsends.eq_of_body hmsg hinj hbody
  exact ⟨answer, rfl, hcarries⟩

lemma Trace.remote (hmsg : InjectiveMessages) (ht : t.InjectiveEncoders)
    (hinj : InjectiveEncodings) {m : ℕ} (h : s.Trace m ls)
    (hd : ∀ l ∈ ls, ¬ l.2.status.IsRedirect) (hc : AreCalls ls calls) : s.Remote calls := by
  cases h with
  | sending h =>
    have hsends := h.sends hd
    rcases h.direct hd with rfl | ⟨request, reply, -, rfl⟩
    · cases hc
      exact .unsent
    · obtain ⟨⟨r, answer⟩, rfl, -⟩ := exists_of_forall₂_singleton hc
      obtain rfl := AreCalls.eq_of_sends hc hmsg (r := ⟨t, s.request⟩) ht hsends ⟨r, answer⟩
        List.mem_cons_self
      exact .sent answer
  | @waiting ls reply txHash x polls hl hx hn hp =>
    obtain ⟨cs, cs', rfl, hfirst, hpolls⟩ := exists_of_forall₂_append hc
    rw [List.forall_mem_append] at hd
    obtain ⟨answer, rfl, hcarries⟩ :=
      AreCalls.of_lastReply hmsg (r := ⟨t, s.request⟩) ht hl hd.1 hfirst
    rw [← hx, readResponse_of_carries hcarries] at hn
    have hsends : ∀ l ∈ polls.flatten, Sends s.client (s.statusRequest txHash) l.1 := by
      intro l hmem
      obtain ⟨p, hp', hl'⟩ := List.mem_flatten.1 hmem
      exact (hp p hp').sends (fun l hl => hd.2 l (List.mem_flatten.2 ⟨p, hp', hl⟩)) l hl'
    exact .waiting hn
      (AreCalls.eq_of_sends hpolls hmsg (r := ⟨.tx, s.statusRequest txHash⟩) hinj hsends)

/-- A script that returns a value has been answered by the node. -/
lemma Says.returns (hmsg : InjectiveMessages) (ht : t.InjectiveEncoders)
    (hinj : InjectiveEncodings) {b : β} (h : s.Says b ls)
    (hd : ∀ l ∈ ls, ¬ l.2.status.IsRedirect) (hc : AreCalls ls calls) : s.Returns b calls := by
  cases h with
  | submitted hl hx hn =>
    obtain ⟨answer, rfl, hcarries⟩ := AreCalls.of_lastReply hmsg (r := ⟨t, s.request⟩) ht hl hd hc
    rw [← hx, readResponse_of_carries hcarries] at hn
    exact .submitted hn
  | @accepted before ls reply txHash r hl hr ha =>
    obtain ⟨cs, cs', rfl, -, hlast⟩ := exists_of_forall₂_append hc
    rw [List.forall_mem_append] at hd
    obtain ⟨answer, rfl, hcarries⟩ :=
      AreCalls.of_lastReply hmsg (r := ⟨.tx, s.statusRequest txHash⟩) hinj hl hd.2 hlast
    have hreported := (readResponse_of_carries (t := .tx) hcarries).symm.trans hr
    obtain rfl := NodeAnswer.reported_eq_ok (t := .tx) hreported
    exact .accepted ha

/-- What the node did for one script of a run. -/
lemma remote_of_run (hmsg : InjectiveMessages) (hinj : InjectiveEncodings) {σ : Type}
    {handles : Handling σ} (hd : handles.Direct) {server : σ} {clock : Instant}
    {log : List NetRecord} {s' : Scripts σ} (s : Submission t β) (ht : t.InjectiveEncoders)
    (hr : Scripts.Run handles.serving (Pool.empty (.init server clock)) log s')
    {calls : List (ℕ × RemoteCall)} (his : List.Forall₂ Is (handled log) calls) {i n : ℕ}
    {events : List Event} {p : Async (ScriptError t.impl.Error) (Unit ⊕ β)}
    (hi : s'.tasks[i]? = some ⟨s.job n, events, p⟩) :
    s.Remote (callsOf i calls) ∧
      (∀ b, p = .done (.ok (.inr b)) → s.Returns b (callsOf i calls)) ∧
      ∃ xs, Completes i log s'.env xs ∧ ∀ x, p = .done x → s.Ends n xs x := by
  obtain ⟨xs, hxs, hguar, hends⟩ := s.keeps hr hi
  obtain ⟨k, m, htrace, -⟩ := hguar.bounded
  have hserves := serves_of_steps hr.explains.steps
  have hdirect : ∀ l ∈ handledFor i log, ¬ l.2.status.IsRedirect := fun l hl =>
    hd.not_isRedirect hserves _ (mem_handled_of_handledFor hl)
  have hc : AreCalls (handledFor i log) (callsOf i calls) := callsOf_is his i
  rw [hxs.handled] at htrace
  refine ⟨htrace.remote hmsg ht hinj hdirect hc, fun b hp => ?_, xs, hxs, hends⟩
  have hsays := (hends _ hp).toSays hxs.fits
  rw [hxs.handled] at hsays
  exact hsays.returns hmsg ht hinj hdirect hc

end Direct

end Submission

/-! ## What `create_account.rs` reports -/

/-- How the creation of an account is reported, from the final status of its transaction. -/
inductive AccountCreation.Reports (expectedOutput : Bytes) :
    FinalExecutionStatus → AccountCreation → Prop
  | failure (err : TxExecutionError) : Reports expectedOutput (.failure err) .failed
  | unexpected {value : Bytes} (h : value ≠ expectedOutput) :
      Reports expectedOutput (.successValue value) .failed
  | successful : Reports expectedOutput (.successValue expectedOutput) .successful

variable [ScriptTypes] {client : JsonRpcClient} {request : RpcBroadcastTxAsyncRequest}
  {senderAccountId : AccountId} {expectedOutput : Bytes}

omit [NodeResponses] [Node] [SerdeJson] [LawfulNodeResponses] [LawfulNode] in
/-- A response that ends the script has a final status. -/
lemma reports_of_accept {r : RpcTransactionResponse} {b : AccountCreation}
    (h : (createAccount client request senderAccountId expectedOutput).accept r = .ok (some b)) :
    ∃ status, ScriptTypes.finalStatus r = some status ∧ b.Reports expectedOutput status := by
  simp only [createAccount] at h
  cases hs : ScriptTypes.finalStatus r with
  | none =>
    rw [hs] at h
    cases h
  | some status =>
    rw [hs] at h
    refine ⟨status, rfl, ?_⟩
    cases status with
    | notStarted => cases h
    | started => cases h
    | failure err =>
      cases h
      exact .failure err
    | successValue value =>
      cases h
      by_cases hv : value = expectedOutput
      · rw [if_pos hv, hv]
        exact .successful
      · rw [if_neg hv]
        exact .unexpected hv

omit [Reqwest] [NodeResponses] [Node] [SerdeJson] [LawfulNodeResponses] [LawfulNode]
  [ScriptTypes] in
/-- A script that submits with `broadcast_tx_async` waits for the hash that it is answered. -/
lemma broadcast_eq_ok {β : Type}
    {x : Except (JsonRpcError RpcBroadcastTxAsyncError) RpcBroadcastTxAsyncResponse}
    {y : β ⊕ CryptoHash} (h : broadcast x = .ok y) :
    ∃ txHash : CryptoHash, x = .ok txHash ∧ y = .inr txHash := by
  cases x with
  | error e => cases h
  | ok txHash =>
    cases h
    exact ⟨txHash, rfl, rfl⟩

omit [NodeResponses] [SerdeJson] [LawfulNodeResponses] [LawfulNode] in
/-- A script that waits for the hash of its transaction returns what it accepts of the last
answer. -/
lemma accepted_of_returns {calls : List RemoteCall} {b : AccountCreation}
    (hremote : (createAccount client request senderAccountId expectedOutput).Remote calls)
    (hreturns : (createAccount client request senderAccountId expectedOutput).Returns b calls) :
    ∃ (txHash : CryptoHash) (polls : List RemoteCall) (r : RpcTransactionResponse),
      calls = ⟨⟨.broadcastTxAsync, request⟩, .outcome (.response txHash)⟩ :: polls ∧
      (∀ c ∈ polls, c.1 = ⟨.tx, (createAccount client request senderAccountId
        expectedOutput).statusRequest txHash⟩) ∧
      polls.getLast? = some ⟨⟨.tx, (createAccount client request senderAccountId
        expectedOutput).statusRequest txHash⟩, .outcome (.response r)⟩ ∧
      (createAccount client request senderAccountId expectedOutput).accept r = .ok (some b) := by
  cases hreturns with
  | @submitted answer hn =>
    obtain ⟨txHash, -, hy⟩ := broadcast_eq_ok hn
    cases hy
  | @accepted before txHash r ha =>
    cases before with
    | nil => cases hremote.cons_inv.1
    | cons c before =>
      obtain ⟨-, hnil | ⟨answer, txHash', rfl, hn, hp⟩⟩ := hremote.cons_inv
      · simp at hnil
      · obtain ⟨hash, hreported, hy⟩ := broadcast_eq_ok hn
        cases hy
        obtain rfl := NodeAnswer.reported_eq_ok (t := .broadcastTxAsync) hreported
        -- the node was asked for the status of the transaction whose hash it answered
        have hlast := hp ⟨⟨.tx, (createAccount client request senderAccountId
          expectedOutput).statusRequest txHash⟩, .outcome (.response r)⟩ (by simp)
        cases hlast
        exact ⟨_, _, r, rfl, hp, List.getLast?_concat, ha⟩

/-- **Creating an account.** Take any run in which the script `create_account` runs next to any
other programs against a node that redirects no request; what the node did is a sequential run of
its handler.  When the script reports that the account was created, or that this failed, the node
was called with the transaction exactly once, and answered its hash; then it was only asked for
the status of the transaction with this hash; and the report follows from the final status in its
last answer. -/
theorem createAccount_reports [Redirects] [LawfulBody] [LawfulRedirects]
    (hmsg : InjectiveMessages) (hinj : InjectiveEncodings) {σ : Type} (handles : Handling σ)
    (hd : handles.Direct) (server : σ) (clock : Instant) (log : List NetRecord) (s' : Scripts σ)
    (hr : Scripts.Run handles.serving (Pool.empty (.init server clock)) log s') :
    ∃ calls : List (ℕ × RemoteCall),
      Steps (fun s c s' => handles s c.2 s') server calls s'.env.server ∧
      ∀ client request senderAccountId expectedOutput i n events
        (p : Async (ScriptError RpcBroadcastTxAsyncError) (Unit ⊕ AccountCreation)) b,
        s'.tasks[i]? = some
          ⟨(createAccount client request senderAccountId expectedOutput).job n, events, p⟩ →
        p = .done (.ok (.inr b)) →
        ∃ (txHash : CryptoHash) (polls : List RemoteCall) (r : RpcTransactionResponse)
          (status : FinalExecutionStatus),
          callsOf i calls
            = ⟨⟨.broadcastTxAsync, request⟩, .outcome (.response txHash)⟩ :: polls ∧
          (∀ c ∈ polls, c.1 = ⟨.tx, (createAccount client request senderAccountId
            expectedOutput).statusRequest txHash⟩) ∧
          polls.getLast? = some ⟨⟨.tx, (createAccount client request senderAccountId
            expectedOutput).statusRequest txHash⟩, .outcome (.response r)⟩ ∧
          ScriptTypes.finalStatus r = some status ∧ b.Reports expectedOutput status := by
  obtain ⟨calls, hsteps, his⟩ := exists_calls (serves_of_steps hr.explains.steps)
  refine ⟨calls, hsteps, ?_⟩
  intro client request senderAccountId expectedOutput i n events p b ht hp
  obtain ⟨hremote, hreturns, -⟩ := Submission.remote_of_run (t := .broadcastTxAsync) hmsg
    hinj hd _ hinj hr his ht
  obtain ⟨txHash, polls, r, hcalls, hpolls, hlast, ha⟩ :=
    accepted_of_returns hremote (hreturns b hp)
  obtain ⟨status, hstatus, hreports⟩ := reports_of_accept ha
  exact ⟨txHash, polls, r, status, hcalls, hpolls, hlast, hstatus, hreports⟩

end RemoteSubmission

section Recognized

open scoped Reference
open Reference

attribute [local instance] referenceNode lawfulReferenceNode plainResponses lawfulPlainResponses
  scriptTypes rateJson

/-! ## A transaction that is recognized by a node -/

/-- A node that answers with the hash of the transaction, does not recognize it when it is asked
for its status, and answers with the outcome when it is asked again. -/
def ratingHandler (waitUntil : String) : Handling ℕ := fun n c n' => n' = n + 1 ∧
  match n with
  | 0 => c = ⟨rate, .outcome (.response rateHash)⟩
  | 1 => c = ⟨⟨.tx, ratedRequest waitUntil⟩, .outcome (.error notYet)⟩
  | _ => c = ⟨⟨.tx, ratedRequest waitUntil⟩, .outcome (.response rated)⟩

lemma direct_ratingHandler (waitUntil : String) : (ratingHandler waitUntil).Direct := by
  rintro n r answer n' ⟨-, hc⟩ status h rfl
  split at hc <;> cases hc

lemma rating_ratingHandler {waitUntil : String} (h : waitUntil ∈ ["EXECUTED", "FINAL"]) :
    Rating (ratingHandler waitUntil).serving waitUntil := by
  have hbody : TypedRequest.body ⟨.tx, ratedRequest waitUntil⟩
      = .ok (requestWith (ratedPayload waitUntil)).body :=
    Sends.body (r := ⟨.tx, ratedRequest waitUntil⟩) (sends_rated h)
  refine ⟨⟨_, ⟨rfl, rfl⟩, Sends.body (r := rate) sends_rate, ?_⟩, ⟨_, ⟨rfl, rfl⟩, hbody, ?_⟩,
    ⟨_, ⟨rfl, rfl⟩, hbody, ?_⟩⟩
  · exact .outcome rfl (decodes_of_resultBody .OK (fromSlice_rate (by simp)))
      (.response ⟨rfl, _, rfl⟩)
  · exact .outcome rfl (decodes_of_errorBody .OK (fromSlice_rate (by simp)))
      (.error (rpcErrorOf_errorStruct _ _) trivial)
  · exact .outcome rfl (decodes_of_resultBody .OK (fromSlice_rate (by simp)))
      (.response ⟨rfl, trivial⟩)

/-- The script that creates an account. -/
def accountScript : Submission .broadcastTxAsync AccountCreation :=
  createAccount localNode rateRequest rateAccount (utf8 "true")

lemma rates_accountScript : Rates accountScript "FINAL" .successful :=
  ⟨rfl, rfl, by simp, rfl, rfl, rfl, rfl, rfl⟩

/-- The script reports that the account was created, as the node answers that the transaction
has returned what is expected. -/
theorem createAccount_reports_rate : ∃ log s' events calls,
    Scripts.Run (ratingHandler "FINAL").serving (Pool.empty (.init 0 0)) log s' ∧
      s'.tasks[0]? = some ⟨accountScript.job 32, events, .done (.ok (.inr .successful))⟩ ∧
      Steps (fun s c s' => ratingHandler "FINAL" s c.2 s') 0 calls s'.env.server ∧
      ∃ (txHash : CryptoHash) (polls : List RemoteCall) (r : RpcTransactionResponse),
        callsOf 0 calls = ⟨rate, .outcome (.response txHash)⟩ :: polls ∧
        polls.getLast? = some ⟨⟨.tx, accountScript.statusRequest txHash⟩,
          .outcome (.response r)⟩ ∧
        ScriptTypes.finalStatus r = some (.successValue (utf8 "true")) := by
  obtain ⟨log, s', events, hr, ht, -⟩ :=
    exists_ratedRun rates_accountScript (rating_ratingHandler (by simp))
  obtain ⟨calls, hsteps, hreports⟩ := createAccount_reports injectiveMessages_rate
    injectiveEncodings_reference (ratingHandler "FINAL") (direct_ratingHandler _) 0 0 log s' hr
  obtain ⟨txHash, polls, r, status, hcalls, -, hlast, hstatus, hreport⟩ :=
    hreports localNode rateRequest rateAccount (utf8 "true") 0 32 events _ .successful ht rfl
  cases hreport
  exact ⟨log, s', events, calls, hr, ht, hsteps, txHash, polls, r, hcalls, hlast, hstatus⟩

end Recognized

end NearJsonrpcClient
