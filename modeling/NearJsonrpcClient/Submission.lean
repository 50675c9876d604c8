/-
# Submitting a transaction

The scripts `send_tx`, `contract_change_method` and `create_account` of the examples, from the
point where they have signed a transaction: they submit it in one call, and then ask for its
status until it has been recognized or a time limit is exceeded.  Whatever is lost on the way,
a transaction is submitted by one call, and repeated only where a server redirects this call.
-/
import NearJsonrpcClient.Requests
import NearJsonrpcClient.Scripts

namespace NearJsonrpcClient

open Lib

section Submission

variable [Near] [Reqwest] [Redirects] [SerdeJson]

/-! ## The scripts -/

/-- `Box<dyn Error>`, as far as the scripts make one, or a panic. -/
inductive ScriptError (E : Type) where
  | text (message : String)
  | call (err : JsonRpcError E)
  | status (err : JsonRpcError RpcTransactionError)
  | unwrapNone

/-- What a script ends with when it has waited too long. -/
def timeLimitExceeded {E : Type} : ScriptError E :=
  .text "time limit exceeded for the transaction to be recognized"

/-- A script that submits a transaction with one method and waits for it with `tx`. -/
structure Submission (t : TypedMethod) (β : Type) where
  client : JsonRpcClient
  request : t.impl.Request
  senderAccountId : AccountId
  waitUntil : TxExecutionStatus
  /-- What follows from the result of submitting: a value, or waiting for a transaction. -/
  next : Except (JsonRpcError t.impl.Error) t.impl.Response →
    Except (ScriptError t.impl.Error) (β ⊕ CryptoHash)
  /-- The errors of `tx` after which the script asks again. -/
  retries : RpcTransactionError → Bool
  /-- How long it sleeps before it does, if at all. -/
  pause : Option ℕ
  /-- What it makes of a response; it asks again when that is nothing. -/
  accept : RpcTransactionResponse → Except (ScriptError t.impl.Error) (Option β)
  /-- A script that does not know of an answer to its transaction does not wait. -/
  next_transportError : ∀ e, ∃ e', next (.error (.transportError e)) = .error e'

namespace Submission

variable {t : TypedMethod} {β : Type}

/-- The request for the status of a transaction. -/
def statusRequest (self : Submission t β) (txHash : CryptoHash) : Tx.RpcTransactionStatusRequest :=
  { transactionInfo := .transactionId txHash self.senderAccountId
    waitUntil := self.waitUntil }

/-- What a script does with the result of a call of `tx`. -/
def settle (self : Submission t β) :
    Except (JsonRpcError RpcTransactionError) RpcTransactionResponse →
      Async (ScriptError t.impl.Error) (Unit ⊕ β)
  | .error err =>
      if err.handlerError.any self.retries then
        match self.pause with
        | some duration => do
            let _ : Unit ← Program.query (Ask.sleep duration)
            return .inl ()
        | none => return .inl ()
      else Program.lift (.error (.status err))
  | .ok response => do
      match ← Program.lift (self.accept response) with
      | some b => return .inr b
      | none => return .inl ()

/-- A round of waiting. -/
def poll (self : Submission t β) (txHash : CryptoHash) (sentAt : Instant) :
    Async (ScriptError t.impl.Error) (Unit ⊕ β) := do
  let response ← (self.client.callAsync (self.statusRequest txHash)).attempt
  let receivedAt : Instant ← Program.query Ask.now
  let delta := asSecs (receivedAt - sentAt)
  Program.lift (if delta > 60 then .error timeLimitExceeded else .ok ())
  self.settle response

/-- What a script does with the result of submitting its transaction. -/
def proceed (self : Submission t β) (n : ℕ) (sentAt : Instant)
    (response : Except (JsonRpcError t.impl.Error) t.impl.Response) :
    Async (ScriptError t.impl.Error) (Unit ⊕ β) := do
  match ← Program.lift (self.next response) with
  | .inl b => return .inr b
  | .inr txHash => Program.rounds (fun _ => self.poll txHash sentAt) n ()

/-- The script, with a number of rounds in which it waits. -/
def script (self : Submission t β) (n : ℕ) : Async (ScriptError t.impl.Error) (Unit ⊕ β) := do
  let sentAt : Instant ← Program.query Ask.now
  let response ← (self.client.callAsync self.request).attempt
  self.proceed n sentAt response

/-- A script that sleeps before it asks again. -/
def Pauses (self : Submission t β) (d : ℕ) : Prop :=
  self.pause = some d ∧ ∀ r, self.accept r ≠ .ok none

/-- The script as a program that runs with others. -/
def job (self : Submission t β) (n : ℕ) : Job :=
  ⟨ScriptError t.impl.Error, Unit ⊕ β, self.script n⟩

end Submission

/-- A `POST` request of a call that holds the body of a request repeats the call. -/
lemma Routed.eq_of_body [LawfulBody] [LawfulRedirects] (hmsg : InjectiveMessages)
    {client : JsonRpcClient} {r r' : TypedRequest} {before after : List Handled} {l : Handled}
    (h : Routed client r.2 (before ++ l :: after)) (hpost : l.1.method = .POST)
    (hinj : r'.1.InjectiveEncoders) (hbody : r'.body = .ok l.1.body) :
    r' = r ∧ ∃ first, Sends client r.2 first ∧ Chain client.inner.client first before l.1 := by
  obtain ⟨first, hsends, hc⟩ := h.of_append
  rw [hc.body_eq hpost] at hbody
  exact ⟨TypedRequest.eq_of_body hmsg hinj hbody hsends.body, first, hsends, hc⟩

/-! ## What happens in a script -/

namespace Submission

variable {t : TypedMethod} {β : Type}

/-- How many redirects the web client of a script follows for one call. -/
abbrev limit (self : Submission t β) : ℕ := Redirects.limit self.client.inner.client

/-- What the server handled of a script that has asked for the status of its transaction with a
number of calls: requests of the call that submits the transaction, followed by requests of
these calls. -/
inductive Trace (s : Submission t β) : ℕ → List Handled → Prop
  | sending {ls : List Handled} (h : Routed s.client s.request ls) : Trace s 0 ls
  | waiting {ls : List Handled} {reply : Reply} {txHash : CryptoHash}
      {x : Except (JsonRpcError t.impl.Error) t.impl.Response} {polls : List (List Handled)}
      (h : LastReply s.client s.request ls reply) (hx : Reads t.impl.Request reply x)
      (hn : s.next x = .ok (.inr txHash))
      (hp : ∀ p ∈ polls, Routed s.client (s.statusRequest txHash) p) :
      Trace s polls.length (ls ++ polls.flatten)

/-- A script that has read the clock, and has submitted its transaction. -/
def Submitted (s : Submission t β) (sentAt : Instant) (h : List NetExchange)
    (x : Except (JsonRpcError t.impl.Error) t.impl.Response) : Prop :=
  ∃ l ys, h = l :: ys ∧ l.seen = ⟨.now, sentAt⟩ ∧ Called s.client s.request ys x

/-- A script waits for the transaction `txHash`. -/
def Begun (s : Submission t β) (txHash : CryptoHash) (sentAt : Instant)
    (h : List NetExchange) : Prop :=
  ∃ before ys x, h = before ++ ys ∧ s.Submitted sentAt before x ∧ s.next x = .ok (.inr txHash)

/-- A script has asked for the status of its transaction, and then has read the clock. -/
def Polled (s : Submission t β) (txHash : CryptoHash) (sentAt receivedAt : Instant)
    (h : List NetExchange) (x : Except (JsonRpcError RpcTransactionError) RpcTransactionResponse) :
    Prop :=
  ∃ before ys l, h = before ++ ys ++ [l] ∧ s.Begun txHash sentAt before ∧
    Called s.client (s.statusRequest txHash) ys x ∧ l.seen = ⟨.now, receivedAt⟩

/-- How a script ends: as follows from the result of its last call. -/
inductive Ends (s : Submission t β) (n : ℕ) (h : List NetExchange) :
    Except (ScriptError t.impl.Error) (Unit ⊕ β) → Prop
  /-- The result of submitting the transaction is the end of it. -/
  | submitted {sentAt : Instant} {x : Except (JsonRpcError t.impl.Error) t.impl.Response} {b : β}
      (hx : s.Submitted sentAt h x) (hn : s.next x = .ok (.inl b)) : Ends s n h (.ok (.inr b))
  | rejected {sentAt : Instant} {x : Except (JsonRpcError t.impl.Error) t.impl.Response}
      {e : ScriptError t.impl.Error} (hx : s.Submitted sentAt h x) (hn : s.next x = .error e) :
      Ends s n h (.error e)
  /-- A response is accepted within the time limit. -/
  | accepted {sentAt receivedAt : Instant} {txHash : CryptoHash} {r : RpcTransactionResponse}
      {b : β} (hx : s.Polled txHash sentAt receivedAt h (.ok r))
      (hlimit : asSecs (receivedAt - sentAt) ≤ 60) (ha : s.accept r = .ok (some b)) :
      Ends s n h (.ok (.inr b))
  | refused {sentAt receivedAt : Instant} {txHash : CryptoHash} {r : RpcTransactionResponse}
      {e : ScriptError t.impl.Error} (hx : s.Polled txHash sentAt receivedAt h (.ok r))
      (hlimit : asSecs (receivedAt - sentAt) ≤ 60) (ha : s.accept r = .error e) :
      Ends s n h (.error e)
  | gaveUp {sentAt receivedAt : Instant} {txHash : CryptoHash}
      {err : JsonRpcError RpcTransactionError}
      (hx : s.Polled txHash sentAt receivedAt h (.error err))
      (hlimit : asSecs (receivedAt - sentAt) ≤ 60)
      (hr : err.handlerError.any s.retries = false) : Ends s n h (.error (.status err))
  | late {sentAt receivedAt : Instant} {txHash : CryptoHash}
      {x : Except (JsonRpcError RpcTransactionError) RpcTransactionResponse}
      (hx : s.Polled txHash sentAt receivedAt h x)
      (hlimit : 60 < asSecs (receivedAt - sentAt)) : Ends s n h (.error timeLimitExceeded)
  /-- All rounds are spent. -/
  | spent (hn : ∀ d, s.Pauses d → n * d < fromSecs 61 + d) : Ends s n h (.ok (.inl ()))

/-- The last reply that the server gave to a script says that it returns the value `b`. -/
inductive Says (s : Submission t β) (b : β) : List Handled → Prop
  | submitted {ls : List Handled} {reply : Reply}
      {x : Except (JsonRpcError t.impl.Error) t.impl.Response}
      (hl : LastReply s.client s.request ls reply) (hx : Reads t.impl.Request reply x)
      (hn : s.next x = .ok (.inl b)) : Says s b ls
  | accepted {before ls : List Handled} {reply : Reply} {txHash : CryptoHash}
      {r : RpcTransactionResponse} (hl : LastReply s.client (s.statusRequest txHash) ls reply)
      (hr : Reads Tx.RpcTransactionStatusRequest reply (.ok r))
      (ha : s.accept r = .ok (some b)) : Says s b (before ++ ls)

/-- What holds at any time of a script: it sends nothing after a loss, and if it sleeps between
the rounds of waiting, the time limit bounds their number. -/
structure Guarantee (s : Submission t β) (h : List NetExchange) : Prop where
  lastSend : LastSend (h.map Exchange.seen)
  bounded : ∃ k m, s.Trace m (effects h) ∧ m ≤ k + 1 ∧
    (∀ d, s.Pauses d → k * d < fromSecs 61 + d) ∧
    h.length ≤ (s.limit + 4) * k + 2 * s.limit + 6

/-- A script waits for the transaction `txHash`, after `k` rounds in which it asked `m` times
for its status. -/
structure Waiting (s : Submission t β) (txHash : CryptoHash) (sentAt : Instant) (k m : ℕ)
    (h : List NetExchange) : Prop where
  begun : s.Begun txHash sentAt h
  asked : ∃ (ls : List Handled) (reply : Reply) (x : Except _ _) (polls : List (List Handled)),
    effects h = ls ++ polls.flatten ∧ polls.length = m ∧
    LastReply s.client s.request ls reply ∧ Reads t.impl.Request reply x ∧
    s.next x = .ok (.inr txHash) ∧ ∀ p ∈ polls, Routed s.client (s.statusRequest txHash) p
  lastSend : LastSend (h.map Exchange.seen)
  deadline : ∀ d, s.Pauses d → k * d < fromSecs 61 + d

/-- A script begins a round of waiting, after `k` rounds. -/
structure Head (s : Submission t β) (txHash : CryptoHash) (t₀ sentAt k : ℕ)
    (h : List NetExchange) : Prop extends Waiting s txHash sentAt k k h where
  lossless : Lossless (h.map Exchange.seen)
  length_le : h.length ≤ (s.limit + 4) * k + s.limit + 3
  later : ∀ d, s.Pauses d → sentAt + k * d ≤ clockAfter t₀ (h.map Exchange.seen)

/-- How a round of waiting ends. -/
def RoundEnds (s : Submission t β) (n : ℕ) (txHash : CryptoHash) (t₀ sentAt k : ℕ) :
    Except (ScriptError t.impl.Error) (Unit ⊕ β) → List NetExchange → Prop
  | .ok (.inl ()), h => s.Head txHash t₀ sentAt k h
  | .ok (.inr b), h => s.Guarantee h ∧ s.Ends n h (.ok (.inr b))
  | .error e, h => s.Ends n h (.error e)

omit [Near] [Reqwest] [Redirects] [SerdeJson] in
/-- Lists of bounded length, one after another. -/
lemma length_flatten_le {A : Type} {n : ℕ} {xs : List (List A)} (h : ∀ x ∈ xs, x.length ≤ n) :
    xs.flatten.length ≤ xs.length * n := by
  induction xs with
  | nil => exact Nat.zero_le _
  | cons x xs ih =>
    rw [List.forall_mem_cons] at h
    rw [List.flatten_cons, List.length_append, List.length_cons, Nat.succ_mul, Nat.add_comm]
    exact Nat.add_le_add (ih h.2) h.1

section Traces

variable {s : Submission t β} {m : ℕ} {ls : List Handled}

/-- The number of requests that the server handles is bounded. -/
lemma Trace.length_le (h : s.Trace m ls) : ls.length ≤ (m + 1) * (s.limit + 1) := by
  cases h with
  | sending h =>
    rw [Nat.zero_add, Nat.one_mul]
    exact h.length_le
  | @waiting ls reply txHash x polls h hx hn hp =>
    have hfirst : ls.length ≤ s.limit + 1 := h.routed.length_le
    have hpolls : polls.flatten.length ≤ polls.length * (s.limit + 1) :=
      length_flatten_le fun p hmem => (hp p hmem).length_le
    rw [List.length_append, Nat.add_mul, Nat.one_mul]
    omega

/-- Without redirects each call has one request at most. -/
lemma Trace.length_le_of_direct [LawfulRedirects] (h : s.Trace m ls)
    (hd : ∀ l ∈ ls, ¬ l.2.status.IsRedirect) : ls.length ≤ m + 1 := by
  cases h with
  | sending h => exact h.length_le_one hd
  | @waiting ls reply txHash x polls h hx hn hp =>
    have hfirst : ls.length ≤ 1 :=
      h.routed.length_le_one fun l hl => hd l (List.mem_append_left _ hl)
    have hpolls : polls.flatten.length ≤ polls.length * 1 :=
      length_flatten_le fun p hmem => (hp p hmem).length_le_one fun l hl =>
        hd l (List.mem_append_right _ (List.mem_flatten.2 ⟨p, hmem, hl⟩))
    rw [List.length_append]
    omega

end Traces

section Histories

variable {s : Submission t β} {txHash : CryptoHash} {sentAt k m n : ℕ} {h ys : List NetExchange}

lemma Begun.append (hb : s.Begun txHash sentAt h) (ys : List NetExchange) :
    s.Begun txHash sentAt (h ++ ys) := by
  obtain ⟨before, zs, x, rfl, hx, hn⟩ := hb
  exact ⟨before, zs ++ ys, x, List.append_assoc _ _ _, hx, hn⟩

/-- What the server handled of a script that has asked for the status of its transaction. -/
lemma Polled.effects_eq {receivedAt : Instant}
    {x : Except (JsonRpcError RpcTransactionError) RpcTransactionResponse}
    (hx : s.Polled txHash sentAt receivedAt h x) (hfits : ∀ x ∈ h, Fits x) :
    ∃ before ys, effects h = before ++ effects ys ∧
      Called s.client (s.statusRequest txHash) ys x := by
  obtain ⟨before, ys, l, rfl, -, hcalled, hl⟩ := hx
  have hnow : effects [l] = [] :=
    effects_singleton_of_not_sent (hfits l (by simp)) (by simp [hl])
  refine ⟨effects before, ys, ?_, hcalled⟩
  rw [effects_append, effects_append, hnow, List.append_nil]

/-- A script that returns a value does so by the last reply. -/
lemma Ends.toSays {b : β} (hends : s.Ends n h (.ok (.inr b))) (hfits : ∀ x ∈ h, Fits x) :
    s.Says b (effects h) := by
  cases hends with
  | @submitted sentAt x _ hx hn =>
    obtain ⟨l, ys, rfl, hl, hcalled⟩ := hx
    have hnow : effects [l] = [] :=
      effects_singleton_of_not_sent (hfits l (by simp)) (by simp [hl])
    obtain ⟨reply, hreply, hreads⟩ := hcalled.reads fun e he => by
      obtain ⟨e', he'⟩ := s.next_transportError e
      rw [he, he'] at hn
      cases hn
    rw [← List.singleton_append, effects_append, hnow, List.nil_append]
    exact .submitted hreply hreads hn
  | @accepted sentAt receivedAt txHash r _ hx hlimit ha =>
    obtain ⟨before, ys, heffects, hcalled⟩ := hx.effects_eq hfits
    obtain ⟨reply, hreply, hreads⟩ := hcalled.reads fun _ h => by cases h
    rw [heffects]
    exact .accepted hreply hreads ha

lemma Waiting.guarantee (hw : s.Waiting txHash sentAt k m h) (hm : m ≤ k + 1)
    (hlength : h.length ≤ (s.limit + 4) * k + 2 * s.limit + 6) : s.Guarantee h := by
  obtain ⟨ls, reply, x, polls, heffects, rfl, hreply, hx, hn, hp⟩ := hw.asked
  refine ⟨hw.lastSend, k, polls.length, ?_, hm, hw.deadline, hlength⟩
  rw [heffects]
  exact .waiting hreply hx hn hp

/-- A question that the server does not see. -/
lemma Waiting.local (hw : s.Waiting txHash sentAt k m h) {e : NetExchange} (hfit : Fits e)
    (he : ∀ request r, e.seen ≠ ⟨.send request, r⟩) :
    s.Waiting txHash sentAt k m (h ++ [e]) := by
  have hnone : effects [e] = [] := effects_singleton_of_not_sent hfit he
  refine ⟨hw.begun.append _, ?_, ?_, hw.deadline⟩
  · rw [effects_append, hnone, List.append_nil]
    exact hw.asked
  · rw [List.map_append]
    exact hw.lastSend.snoc he

/-- A question for the status. -/
lemma Head.call {t₀ : ℕ} (hh : s.Head txHash t₀ sentAt k h)
    (hc : Calling s.client (s.statusRequest txHash) ys) :
    s.Waiting txHash sentAt k (k + 1) (h ++ ys) := by
  obtain ⟨ls, reply, x, polls, heffects, hpolls, hreply, hx, hn, hp⟩ := hh.asked
  refine ⟨hh.begun.append _, ⟨ls, reply, x, polls ++ [effects ys], ?_, ?_, hreply, hx, hn, ?_⟩, ?_,
    hh.deadline⟩
  · rw [effects_append, heffects, List.flatten_append, List.flatten_singleton, List.append_assoc]
  · rw [List.length_append, List.length_singleton, hpolls]
  · intro p hmem
    rcases List.mem_append.1 hmem with hmem | hmem
    · exact hp p hmem
    · rw [List.mem_singleton.1 hmem]
      exact hc.asks.routed hc.fits
  · rw [List.map_append]
    exact hh.lossless.lastSend_append hc.asks.lastSend

/-- The next round, when the time limit is not exceeded. -/
lemma Waiting.succ (hw : s.Waiting txHash sentAt k m h)
    (hd : ∀ d, s.Pauses d → k * d < fromSecs 61) : s.Waiting txHash sentAt (k + 1) m h := by
  refine ⟨hw.begun, hw.asked, hw.lastSend, fun d hp => ?_⟩
  have hk := hd d hp
  rw [Nat.add_mul, Nat.one_mul]
  omega

end Histories

/-! ## The contract of a script -/

section Contract

variable {s : Submission t β} {txHash : CryptoHash} {sentAt k : ℕ} {h : List NetExchange}

/-- What a script does with the result of a call of `tx` that was received in time. -/
lemma meets_settle {t₀ receivedAt : ℕ} (n : ℕ) (hw : s.Waiting txHash sentAt k (k + 1) h)
    (hlength : h.length ≤ (s.limit + 4) * k + 2 * s.limit + 6)
    {x : Except (JsonRpcError RpcTransactionError) RpcTransactionResponse}
    (hx : s.Polled txHash sentAt receivedAt h x)
    (hlossless : (∀ e, x ≠ .error (.transportError e)) → Lossless (h.map Exchange.seen))
    (hin : asSecs (receivedAt - sentAt) ≤ 60)
    (hnow : clockAfter t₀ (h.map Exchange.seen) = receivedAt)
    (hlater : ∀ d, s.Pauses d → sentAt + k * d ≤ receivedAt) :
    (s.settle x).Meets Exchange.seen (promised t₀) h s.Guarantee
      (s.RoundEnds n txHash t₀ sentAt (k + 1)) := by
  have hguar : s.Guarantee h := hw.guarantee (Nat.le_refl _) hlength
  have hd : ∀ d, s.Pauses d → k * d < fromSecs 61 := by
    intro d hp
    have hle := hlater d hp
    have hlt : receivedAt - sentAt < fromSecs 61 := asSecs_le_iff.1 hin
    omega
  cases x with
  | error err =>
    rw [settle]
    by_cases hr : err.handlerError.any s.retries
    · rw [if_pos hr]
      -- a transport error is not one of the handler
      have hloss := hlossless fun e he => by
        cases he
        simp [JsonRpcError.handlerError] at hr
      cases hpause : s.pause with
      | none =>
        refine .done fun _ => ⟨hguar, hw.succ hd, hloss, ?_, ?_⟩
        · rw [Nat.mul_succ]
          omega
        · rintro d ⟨hp, -⟩
          cases hpause.symm.trans hp
      | some duration =>
        refine .ask (fun _ => hguar) fun l a hl => .assuming fun hrely => ?_
        have hfit : Fits l := hrely.1 l (by simp)
        have hw' := (hw.succ hd).local hfit (by simp [hl])
        have hlength' : (h ++ [l]).length ≤ (s.limit + 4) * (k + 1) + s.limit + 3 := by
          rw [List.length_append, List.length_singleton, Nat.mul_succ]
          omega
        refine .done fun _ => ⟨hw'.guarantee (by omega) (by omega), hw', ?_, hlength', ?_⟩
        · rw [List.map_append, List.map_singleton]
          exact hloss.append (lossless_singleton (by simp [hl]))
        · intro d hp
          obtain rfl : duration = d := Option.some_inj.1 (hpause.symm.trans hp.1)
          have hle := hlater duration hp
          rw [List.map_append, List.map_singleton, hl, clockAfter_append, hnow, Nat.add_mul]
          simp only [clockAfter_cons, clockAfter_nil, tick]
          omega
    · rw [if_neg hr]
      exact .done fun _ => ⟨hguar, .gaveUp hx hin (by simpa using hr)⟩
  | ok r =>
    rw [settle]
    cases ha : s.accept r with
    | error e => exact .done fun _ => ⟨hguar, .refused hx hin ha⟩
    | ok b =>
      cases b with
      | some b => exact .done fun _ => ⟨hguar, hguar, .accepted hx hin ha⟩
      | none =>
        refine .done fun _ => ⟨hguar, hw.succ hd, hlossless (fun _ h => by cases h), ?_, ?_⟩
        · rw [Nat.mul_succ]
          omega
        · rintro d ⟨-, hnone⟩
          exact absurd ha (hnone r)

/-- The contract of a round: the step lemma. -/
lemma Head.meets_poll {t₀ : ℕ} (n : ℕ) (hh : s.Head txHash t₀ sentAt k h) :
    (s.poll txHash sentAt).Meets Exchange.seen (promised t₀) h s.Guarantee
      (s.RoundEnds n txHash t₀ sentAt (k + 1)) := by
  have hcall : ∀ {ys}, Calling s.client (s.statusRequest txHash) ys →
      (h ++ ys).length ≤ (s.limit + 4) * k + 2 * s.limit + 5 := by
    intro ys hc
    have hlength := hh.length_le
    have hys : ys.length ≤ s.limit + 2 := hc.length_le
    rw [List.length_append]
    omega
  refine JsonRpcClient.attempt_callAsync_meets ?_ ?_
  · intro ys hc
    exact (hh.call hc).guarantee (Nat.le_refl _) ((hcall hc).trans (Nat.le_succ _))
  intro x ys hcalled
  have hc := hcalled.calling
  have hw := hh.call hc
  refine .ask (fun _ => hw.guarantee (Nat.le_refl _) ((hcall hc).trans (Nat.le_succ _)))
    fun l receivedAt hl => .assuming fun hrely => ?_
  -- the clock has been read after the call
  have hfit : Fits l := hrely.1 l (by simp)
  have hw' := hw.local hfit (by simp [hl])
  have hlength : (h ++ ys ++ [l]).length ≤ (s.limit + 4) * k + 2 * s.limit + 6 := by
    rw [List.length_append, List.length_singleton]
    exact Nat.succ_le_succ (hcall hc)
  have hpolled : s.Polled txHash sentAt receivedAt (h ++ ys ++ [l]) x :=
    ⟨h, ys, l, rfl, hh.begun, hcalled, hl⟩
  have hnow : clockAfter t₀ ((h ++ ys ++ [l]).map Exchange.seen) = receivedAt := by
    rw [List.map_append, List.map_singleton, hl, clockAfter_append]
    rfl
  have hclock : clockAfter t₀ (h.map Exchange.seen) ≤ receivedAt := by
    have htimed := hrely.2
    rw [List.map_append, List.map_singleton, hl, timed_append, List.map_append,
      clockAfter_append, hc.asks.timeless.2] at htimed
    exact htimed.2.1
  change Program.Meets Exchange.seen (promised t₀) (Program.lift
    (if asSecs (receivedAt - sentAt) > 60 then .error timeLimitExceeded else .ok ()) >>=
      fun _ => s.settle x) _ _ _
  by_cases hin : asSecs (receivedAt - sentAt) > 60
  · rw [if_pos hin, Program.lift_error_bind]
    exact .done fun _ => ⟨hw'.guarantee (Nat.le_refl _) hlength, .late hpolled hin⟩
  · rw [if_neg hin, Program.lift_ok_bind]
    refine meets_settle n hw' hlength hpolled (fun hx => ?_) (Nat.le_of_not_lt hin) hnow
      fun d hp => (hh.later d hp).trans hclock
    rw [List.map_append, List.map_append, List.map_singleton]
    exact (hh.lossless.append (hcalled.lossless fun e => hx _)).append
      (lossless_singleton (by simp [hl]))

/-- The contract of the rounds. -/
lemma Head.meets_rounds {t₀ : ℕ} (n : ℕ) (hh : s.Head txHash t₀ sentAt 0 h) :
    (Program.rounds (fun _ => s.poll txHash sentAt) n ()).Meets Exchange.seen (promised t₀)
      h s.Guarantee fun x h => s.Ends n h x := by
  -- the invariant knows how many of the `n` rounds are over
  have hrounds : ∀ m (u : Unit) h, (∃ k, k + m = n ∧ s.Head txHash t₀ sentAt k h) →
      (Program.rounds (fun _ => s.poll txHash sentAt) m u).Meets Exchange.seen (promised t₀)
        h s.Guarantee fun x h => s.Ends n h x := by
    refine Program.Meets.rounds ?_ ?_
    · rintro m - h ⟨k, hk, hh⟩
      refine (hh.meets_poll n).imp ?_
      rintro (e | ⟨⟩ | b) h' hx
      · exact hx
      · exact ⟨k + 1, by omega, hx⟩
      · exact fun _ => hx
    · rintro ⟨⟩ h ⟨k, hk, hh⟩ -
      obtain rfl : k = n := by omega
      have hlength := hh.length_le
      exact ⟨hh.guarantee (Nat.le_succ _) (by omega), .spent hh.deadline⟩
  exact hrounds n () h ⟨0, by simp, hh⟩

/-- The contract of a script: the run lemma. -/
lemma meets_script (s : Submission t β) (t₀ : Instant) (n : ℕ) :
    (s.script n).Meets Exchange.seen (promised t₀) [] s.Guarantee fun x h => s.Ends n h x := by
  have hnone : s.Guarantee [] := by
    refine ⟨(lossless_hops []).lastSend, 0, 0, .sending (.inl rfl), Nat.zero_le 1, ?_,
      Nat.zero_le _⟩
    intro d _
    simp [fromSecs]
  refine .ask (fun _ => hnone) fun l sentAt hl => .assuming fun hrely => ?_
  have hfit : Fits l := hrely.1 l (by simp)
  have heffects : ∀ ys, effects ([] ++ [l] ++ ys) = effects ys := by
    intro ys
    have hl₀ : effects [l] = [] := effects_singleton_of_not_sent hfit (by simp [hl])
    rw [List.nil_append, effects_append, hl₀, List.nil_append]
  have hsend : ∀ {ys : List NetExchange}, LastSend (ys.map Exchange.seen) →
      LastSend (([] ++ [l] ++ ys).map Exchange.seen) := by
    intro ys hys
    exact (lossless_singleton (a := l.seen) (by simp [hl])).lastSend_append hys
  have hcalling : ∀ ys, Calling s.client s.request ys → s.Guarantee ([] ++ [l] ++ ys) := by
    intro ys hc
    have hys : ys.length ≤ s.limit + 2 := hc.length_le
    refine ⟨hsend hc.asks.lastSend, 0, 0, ?_, Nat.zero_le 1, fun d _ => by simp [fromSecs], ?_⟩
    · rw [heffects]
      exact .sending (hc.asks.routed hc.fits)
    · simp only [List.nil_append, List.length_append, List.length_singleton]
      omega
  refine JsonRpcClient.attempt_callAsync_meets hcalling ?_
  intro x ys hcalled
  have hguar := hcalling ys hcalled.calling
  have hsubmitted : s.Submitted sentAt ([] ++ [l] ++ ys) x := ⟨l, ys, rfl, hl, hcalled⟩
  rw [proceed]
  cases hn : s.next x with
  | error e => exact .done fun _ => ⟨hguar, .rejected hsubmitted hn⟩
  | ok y =>
    cases y with
    | inl b => exact .done fun _ => ⟨hguar, .submitted hsubmitted hn⟩
    | inr txHash =>
      have htransport : ∀ e, x ≠ .error (.transportError e) := by
        rintro e rfl
        obtain ⟨e', he'⟩ := s.next_transportError e
        rw [he'] at hn
        cases hn
      obtain ⟨reply, hreply, hreads⟩ := hcalled.reads htransport
      have hlossless := hcalled.lossless fun e => htransport _
      have hys : ys.length ≤ s.limit + 2 := hcalled.calling.length_le
      refine Head.meets_rounds n ⟨⟨?_, ?_, hsend hlossless.lastSend, ?_⟩, ?_, ?_, ?_⟩
      · exact ⟨_, [], x, (List.append_nil _).symm, hsubmitted, hn⟩
      · refine ⟨effects ys, reply, x, [], ?_, rfl, hreply, hreads, hn, by simp⟩
        rw [heffects, List.flatten_nil, List.append_nil]
      · exact fun d _ => by simp [fromSecs]
      · exact (lossless_singleton (a := l.seen) (by simp [hl])).append hlossless
      · simp only [List.nil_append, List.length_append, List.length_singleton]
        omega
      · intro d _
        rw [List.nil_append, List.map_append, List.map_singleton, hl, clockAfter_append,
          hcalled.calling.asks.timeless.2]
        simp [tick]

end Contract

/-! ## A script and its answers -/

section Answered

variable {s : Submission t β} {txHash : CryptoHash} {sentAt receivedAt : Instant} {tr : Dialogue}
  {response : Except ReqwestError HttpResponse}

/-- A script that is answered with a transaction to wait for begins to wait. -/
lemma script_follows (n : ℕ) (h : Hears s.client s.request tr response)
    (hn : s.next (s.client.call (fun _ => response) s.request).result = .ok (.inr txHash)) :
    ∃ events, (s.script n).Follows (⟨.now, sentAt⟩ :: tr) events
      (Program.rounds (fun _ => s.poll txHash sentAt) n ()) := by
  obtain ⟨events, hcall⟩ := h.follows
  have hproceed : s.proceed n sentAt (s.client.call (fun _ => response) s.request).result
      = Program.rounds (fun _ => s.poll txHash sentAt) n () := by
    rw [proceed, hn, Program.lift_ok_bind]
  refine ⟨events, .ask ?_⟩
  rw [← hproceed]
  exact hcall.attempt.bind (s.proceed n sentAt)

/-- A script that is answered in time settles the result. -/
lemma poll_follows (h : Hears s.client (s.statusRequest txHash) tr response)
    (hin : asSecs (receivedAt - sentAt) ≤ 60) : ∃ events,
    (s.poll txHash sentAt).Follows (tr ++ [⟨.now, receivedAt⟩]) events
      (s.settle (s.client.call (fun _ => response) (s.statusRequest txHash)).result) := by
  obtain ⟨events, hcall⟩ := h.follows
  refine ⟨events, ?_⟩
  have hlimit : ∀ p : Async (ScriptError t.impl.Error) (Unit ⊕ β), (Program.lift
      (if asSecs (receivedAt - sentAt) > 60 then .error timeLimitExceeded else .ok ())
        >>= fun _ => p) = p := by
    intro p
    rw [if_neg (Nat.not_lt_of_le hin), Program.lift_ok_bind]
  have hnow : (s.poll txHash sentAt).Follows tr events (.ask .now fun receivedAt : Instant =>
      Program.lift (if asSecs (receivedAt - sentAt) > 60 then .error timeLimitExceeded else .ok ())
        >>= fun _ => s.settle (s.client.call (fun _ => response)
          (s.statusRequest txHash)).result) :=
    hcall.attempt.bind _
  rw [← hlimit (s.settle _)]
  exact hnow.snoc_ask receivedAt

/-- After an error that a script waits out, it sleeps before the next round. -/
lemma poll_retries {err : JsonRpcError RpcTransactionError} {duration : ℕ}
    (h : Hears s.client (s.statusRequest txHash) tr response)
    (hin : asSecs (receivedAt - sentAt) ≤ 60)
    (hx : (s.client.call (fun _ => response) (s.statusRequest txHash)).result = .error err)
    (hr : err.handlerError.any s.retries) (hp : s.pause = some duration) : ∃ events,
    (s.poll txHash sentAt).Follows (tr ++ [⟨.now, receivedAt⟩] ++ [⟨.sleep duration, ()⟩]) events
      (.done (.ok (.inl ()))) := by
  obtain ⟨events, hpoll⟩ := poll_follows h hin
  rw [hx, settle, if_pos hr, hp] at hpoll
  exact ⟨events, hpoll.snoc_ask ()⟩

/-- A script ends with what it accepts. -/
lemma poll_accepts {r : RpcTransactionResponse} {b : β}
    (h : Hears s.client (s.statusRequest txHash) tr response)
    (hin : asSecs (receivedAt - sentAt) ≤ 60)
    (hx : (s.client.call (fun _ => response) (s.statusRequest txHash)).result = .ok r)
    (ha : s.accept r = .ok (some b)) : ∃ events,
    (s.poll txHash sentAt).Follows (tr ++ [⟨.now, receivedAt⟩]) events (.done (.ok (.inr b))) := by
  obtain ⟨events, hpoll⟩ := poll_follows h hin
  rw [hx, settle, ha] at hpoll
  exact ⟨events, hpoll⟩

end Answered

section Runs

variable {σ : Type} {serves : Serving σ} {w : World σ} {log : List NetRecord} {s' : Scripts σ}

/-- What is known of a script of a run: its history, completed by what the server handled late,
keeps its contract. -/
lemma keeps (s : Submission t β) {server : σ} {clock : Instant}
    (hr : Scripts.Run serves (Pool.empty (.init server clock)) log s') {i n : ℕ}
    {events : List Event} {p : Async (ScriptError t.impl.Error) (Unit ⊕ β)}
    (ht : s'.tasks[i]? = some ⟨s.job n, events, p⟩) :
    ∃ xs, Completes i log s'.env xs ∧ s.Guarantee xs ∧ ∀ x, p = .done x → s.Ends n xs x := by
  have hsteps := hr.explains.steps
  -- the contract of the answers alone says that nothing is sent after a loss
  obtain ⟨hguar, -⟩ := hr.meets ht rfl (promised_of_steps hsteps i) (s.meets_script clock n)
  obtain ⟨xs, hxs⟩ := exists_completes hsteps (straysOf_init i server clock) hguar.lastSend
  exact ⟨xs, hxs, hr.meets ht hxs.seen (hxs.promised hsteps) (s.meets_script clock n)⟩

end Runs

/-! ## The requests of a script -/

section Requests

omit [Redirects] [SerdeJson] in
/-- The questions for the status of a transaction do not contain the transaction. -/
lemma signedTransaction_statusRequest (s : Submission t β) (txHash : CryptoHash) :
    TypedRequest.signedTransaction ⟨.tx, s.statusRequest txHash⟩ = none := rfl

variable [LawfulBody] [LawfulRedirects]

/-- Of the requests of a script only those of the call that submits the transaction carry one. -/
lemma Trace.signed {s : Submission t β} {m : ℕ} (hmsg : InjectiveMessages)
    (hinj : InjectiveEncodings) {before after : List Handled} {l : Handled}
    (h : s.Trace m (before ++ l :: after)) (hpost : l.1.method = .POST) {r : TypedRequest}
    (hbody : r.body = .ok l.1.body) (hsigned : r.signedTransaction ≠ none) :
    r = ⟨t, s.request⟩ ∧
      ∃ first, Sends s.client s.request first ∧ Chain s.client.inner.client first before l.1 := by
  have hr := TypedRequest.injectiveEncoders_of_signedTransaction hinj hsigned
  generalize hhandled : before ++ l :: after = handled at h
  cases h with
  | sending h =>
    rw [← hhandled] at h
    exact Routed.eq_of_body hmsg (r := ⟨t, s.request⟩) h hpost hr hbody
  | @waiting ls reply txHash x polls h hx hn hp =>
    have hcases : (∃ cs, ls = before ++ l :: cs) ∨ l ∈ polls.flatten := by
      rcases List.append_eq_append_iff.1 hhandled with ⟨cs, hls, hcs⟩ | ⟨cs, -, hcs⟩
      · cases cs with
        | nil =>
          refine .inr ?_
          rw [← List.nil_append polls.flatten, ← hcs]
          exact List.mem_cons_self
        | cons c cs =>
          rw [List.cons_append, List.cons.injEq] at hcs
          exact .inl ⟨cs, by rw [hls, hcs.1]⟩
      · exact .inr (by rw [hcs]; simp)
    rcases hcases with ⟨cs, rfl⟩ | hmem
    · exact Routed.eq_of_body hmsg (r := ⟨t, s.request⟩) h.routed hpost hr hbody
    · -- a question for the status carries no signed transaction
      obtain ⟨p, hpolls, hl⟩ := List.mem_flatten.1 hmem
      obtain ⟨before', after', rfl⟩ := List.append_of_mem hl
      obtain ⟨rfl, -⟩ := Routed.eq_of_body hmsg (r := ⟨.tx, s.statusRequest txHash⟩)
        (hp _ hpolls) hpost hr hbody
      exact absurd (s.signedTransaction_statusRequest txHash) hsigned

variable {σ : Type}

end Requests

end Submission

/-- `near_primitives::views::FinalExecutionStatus`. -/
inductive FinalExecutionStatus where
  | notStarted
  | started
  | failure (err : TxExecutionError)
  | successValue (value : Bytes)

/-- What the scripts use of the `near-*` crates. -/
class ScriptTypes where
  /-- `TxExecutionStatus::Executed`. -/
  executed : TxExecutionStatus
  /-- `TxExecutionStatus::Final`. -/
  final : TxExecutionStatus
  /-- Whether a variant of `RpcTransactionError` is `UnknownTransaction`. -/
  isUnknownTransaction : NearTypes.RpcTransactionErrorRest → Bool
  /-- The status in the field `final_execution_outcome`. -/
  finalStatus : RpcTransactionResponse → Option FinalExecutionStatus

/-- `send_tx.rs`: the transaction is submitted with `send_tx`. -/
def sendTx (client : JsonRpcClient) (request : RpcSendTransactionRequest) (txHash : CryptoHash)
    (senderAccountId : AccountId) : Submission .sendTx RpcTransactionResponse where
  client := client
  request := request
  senderAccountId := senderAccountId
  waitUntil := request.waitUntil
  next
    | .ok response => .ok (.inl response)
    | .error err =>
        match err.handlerError with
        | some .timeoutError => .ok (.inr txHash)
        | _ => .error (.call err)
  retries
    | .timeoutError => true
    | _ => false
  pause := none
  accept response := .ok (some response)
  next_transportError _ := ⟨_, rfl⟩

/-- What follows from the result of `broadcast_tx_async`: the hash of the transaction. -/
def broadcast {β : Type} :
    Except (JsonRpcError RpcBroadcastTxAsyncError) RpcBroadcastTxAsyncResponse →
      Except (ScriptError RpcBroadcastTxAsyncError) (β ⊕ CryptoHash)
  | .ok txHash => .ok (.inr txHash)
  | .error err => .error (.call err)

variable [ScriptTypes]

/-- The errors that mean that a transaction has not been recognized yet. -/
def notRecognized : RpcTransactionError → Bool
  | .timeoutError => true
  | .other err => ScriptTypes.isUnknownTransaction err
  | .invalidTransaction _ => false

/-- `contract_change_method.rs`: the transaction is submitted with `broadcast_tx_async`. -/
def contractChangeMethod (client : JsonRpcClient) (request : RpcBroadcastTxAsyncRequest)
    (senderAccountId : AccountId) : Submission .broadcastTxAsync RpcTransactionResponse where
  client := client
  request := request
  senderAccountId := senderAccountId
  waitUntil := ScriptTypes.executed
  next := broadcast
  retries := notRecognized
  pause := some (fromSecs 2)
  accept response := .ok (some response)
  next_transportError _ := ⟨_, rfl⟩

/-- What `create_account.rs` reports in the end. -/
inductive AccountCreation where
  | successful
  | failed

/-- `create_account.rs`: a response without a final status makes it ask again at once. -/
def createAccount (client : JsonRpcClient) (request : RpcBroadcastTxAsyncRequest)
    (senderAccountId : AccountId) (expectedOutput : Bytes) :
    Submission .broadcastTxAsync AccountCreation where
  client := client
  request := request
  senderAccountId := senderAccountId
  waitUntil := ScriptTypes.final
  next := broadcast
  retries := notRecognized
  pause := some (fromSecs 2)
  accept response :=
    match ScriptTypes.finalStatus response with
    | none => .error .unwrapNone
    | some (.failure _) => .ok (some .failed)
    | some (.successValue s) =>
        .ok (some (if s = expectedOutput then .successful else .failed))
    | some _ => .ok none
  next_transportError _ := ⟨_, rfl⟩

/-! ## The time limit -/

namespace Submission

omit [ScriptTypes] in
/-- The number of times that a script asks for the status is bounded by the number of pauses
that fit into the time limit. -/
lemma Guarantee.bounded_of_pauses {t : TypedMethod} {β : Type} {s : Submission t β}
    {h : List NetExchange} (hg : s.Guarantee h) (hp : s.Pauses (fromSecs 2)) :
    ∃ m, s.Trace m (effects h) ∧ m ≤ 32 ∧ h.length ≤ 33 * s.limit + 130 := by
  obtain ⟨k, m, htrace, hm, hk, hlength⟩ := hg.bounded
  have hlt := hk _ hp
  rw [fromSecs, fromSecs] at hlt
  have hle : k ≤ 31 := by omega
  have hmul : (s.limit + 4) * k ≤ (s.limit + 4) * 31 := Nat.mul_le_mul_left _ hle
  exact ⟨m, htrace, by omega, by omega⟩

omit [Redirects] [SerdeJson] in
lemma contractChangeMethod_pauses (client : JsonRpcClient) (request : RpcBroadcastTxAsyncRequest)
    (senderAccountId : AccountId) :
    (contractChangeMethod client request senderAccountId).Pauses (fromSecs 2) := by
  refine ⟨rfl, fun r h => ?_⟩
  cases h

end Submission

/-- **Waiting is bounded.** In every state that a run of `contract_change_method` reaches, next to
any other programs and whatever is lost, the script has made 33 calls at most: without redirects
the server handled 33 requests of it at most, and in any case 33 for each of the requests that
one call may come to.  It was given a bounded number of answers, so it waits for ever only for an
answer that does not come, and 32 rounds are never spent.  A response that it ends with is the
one that the last reply of the server holds, received less than 61 seconds after the transaction
was sent; and when it ends because the time limit is exceeded, 61 seconds have passed. -/
theorem contractChangeMethod_bounded [LawfulRedirects] {σ : Type} (serves : Serving σ)
    (server : σ) (clock : Instant) (log : List NetRecord) (s' : Scripts σ)
    (hr : Scripts.Run serves (Pool.empty (.init server clock)) log s') (client : JsonRpcClient)
    (request : RpcBroadcastTxAsyncRequest) (senderAccountId : AccountId) (i n : ℕ)
    (events : List Event)
    (p : Async (ScriptError RpcBroadcastTxAsyncError) (Unit ⊕ RpcTransactionResponse))
    (ht : s'.tasks[i]? = some
      ⟨(contractChangeMethod client request senderAccountId).job n, events, p⟩) :
    (handledFor i log).length ≤ 33 * (Redirects.limit client.inner.client + 1) ∧
    ((∀ l ∈ handledFor i log, ¬ l.2.status.IsRedirect) → (handledFor i log).length ≤ 33) ∧
    (Record.ofTask i log).length ≤ 33 * Redirects.limit client.inner.client + 130 ∧
    (32 ≤ n → p ≠ .done (.ok (.inl ()))) ∧
    ∃ xs, Completes i log s'.env xs ∧
      (∀ response, p = .done (.ok (.inr response)) → ∃ txHash sentAt receivedAt,
        (contractChangeMethod client request senderAccountId).Polled txHash sentAt receivedAt xs
          (.ok response) ∧
        receivedAt - sentAt < fromSecs 61 ∧
        ∃ before ls reply, handledFor i log = before ++ ls ∧
          LastReply client
            ((contractChangeMethod client request senderAccountId).statusRequest txHash) ls reply ∧
          Reads Tx.RpcTransactionStatusRequest reply (.ok response)) ∧
      (p = .done (.error timeLimitExceeded) → ∃ txHash sentAt receivedAt x,
        (contractChangeMethod client request senderAccountId).Polled txHash sentAt receivedAt xs
          x ∧
        fromSecs 61 ≤ receivedAt - sentAt) := by
  have hpauses := Submission.contractChangeMethod_pauses client request senderAccountId
  obtain ⟨xs, hxs, hguar, hends⟩ :=
    (contractChangeMethod client request senderAccountId).keeps hr ht
  obtain ⟨m, htrace, hm, hlength⟩ := hguar.bounded_of_pauses hpauses
  rw [hxs.handled] at htrace
  refine ⟨?_, fun hd => ?_, ?_, ?_, xs, hxs, ?_, ?_⟩
  · exact htrace.length_le.trans (Nat.mul_le_mul_right _ (Nat.succ_le_succ hm))
  · exact (htrace.length_le_of_direct hd).trans (Nat.succ_le_succ hm)
  · rw [← List.length_map (f := Exchange.seen), ← dialogue, ← hxs.seen, List.length_map]
    exact hlength
  · rintro hn rfl
    have hend := hends (.ok (.inl ())) rfl
    cases hend with
    | spent h =>
      have hlt := h _ hpauses
      rw [fromSecs, fromSecs] at hlt
      omega
  · rintro response rfl
    have hend := hends (.ok (.inr response)) rfl
    cases hend with
    | @submitted sentAt x b hx hn => cases x <;> cases hn
    | @accepted sentAt receivedAt txHash r b hx hlimit ha =>
      cases ha
      obtain ⟨before, ys, heffects, hcalled⟩ := hx.effects_eq hxs.fits
      obtain ⟨reply, hreply, hreads⟩ := hcalled.reads fun _ h => by cases h
      exact ⟨txHash, sentAt, receivedAt, hx, asSecs_le_iff.1 hlimit, before, effects ys, reply,
        hxs.handled.symm.trans heffects, hreply, hreads⟩
  · rintro rfl
    have hend := hends (.error timeLimitExceeded) rfl
    cases hend with
    | @rejected sentAt x e hx hn => cases x <;> cases hn
    | refused hx hlimit ha => cases ha
    | @late sentAt receivedAt txHash x hx hlimit =>
      refine ⟨txHash, sentAt, receivedAt, x, hx, ?_⟩
      by_contra hlt
      have hin := asSecs_le_iff.2 (Nat.lt_of_not_le hlt)
      omega

end Submission

section Recognized

open scoped Reference
open Reference

/-! ## A transaction that is recognized -/

/-- The account that has signed the transaction. -/
def rateAccount : AccountId := Value.string "miraclx.testnet"

/-- The payload of a question for its status. -/
def ratedPayload (waitUntil : String) : Map :=
  [("id", .string "dontcare"), ("jsonrpc", .string "2.0"), ("method", .string "tx"),
    ("params", .object [("sender_account_id", rateAccount), ("tx_hash", rateHash),
      ("wait_until", .string waitUntil)])]

/-- The error of a node that has not recognized it yet. -/
def unrecognized : Value :=
  tagged "UNKNOWN_TRANSACTION" [("requested_transaction_hash", rateHash)]

/-- Its outcome. -/
def rated : Value :=
  .object [("final_execution_status", .string "FINAL"),
    ("status", .object [("SuccessValue", .string "dHJ1ZQ==")])]

/-- The values that are written as JSON, and the bodies that are read. -/
noncomputable abbrev rateJson : SerdeJson :=
  textJson [ratePayload, ratedPayload "EXECUTED", ratedPayload "FINAL"]
    [resultBody rateHash, errorBody (handlerErrorValue unrecognized .null), resultBody rated]

noncomputable local instance : SerdeJson := rateJson

/-- The final status in an outcome, for the values that scripts expect. -/
def finalStatusOf : Value → Option FinalExecutionStatus
  | .string "NotStarted" => some .notStarted
  | .string "Started" => some .started
  | .object [("Failure", err)] => some (.failure (.other err))
  | .object [("SuccessValue", .string "")] => some (.successValue [])
  | .object [("SuccessValue", .string "dHJ1ZQ==")] => some (.successValue (utf8 "true"))
  | _ => none

abbrev scriptTypes : ScriptTypes where
  executed := Value.string "EXECUTED"
  final := Value.string "FINAL"
  isUnknownTransaction err := nameOf err.1 = some "UNKNOWN_TRANSACTION"
  finalStatus response := finalStatusOf (Value.index response "status")

local instance : ScriptTypes := scriptTypes

lemma injectiveMessages_rate : InjectiveMessages := injectiveMessages_text _ (by decide +kernel)

/-- A body of the node is read. -/
lemma fromSlice_rate {body : Value} (h : body ∈ [resultBody rateHash,
    errorBody (handlerErrorValue unrecognized .null), resultBody rated]) :
    SerdeJson.fromSlice (utf8 (render body)) = .ok body :=
  decodeText_of_mem (by decide +kernel) h

/-- A call that submits the transaction. -/
lemma sends_rate : Sends localNode rateRequest (requestWith ratePayload) :=
  sends_text (r := rate) _ (by simp) toJson_rate

/-- A question for its status. -/
def ratedRequest (waitUntil : String) : Tx.RpcTransactionStatusRequest :=
  ⟨.transactionId rateHash rateAccount, Value.string waitUntil⟩

lemma sends_rated {waitUntil : String} (h : waitUntil ∈ ["EXECUTED", "FINAL"]) :
    Sends localNode (ratedRequest waitUntil) (requestWith (ratedPayload waitUntil)) := by
  simp only [List.mem_cons, List.not_mem_nil, or_false] at h
  rcases h with rfl | rfl
  · exact sends_text (r := ⟨.tx, ratedRequest "EXECUTED"⟩) _ (by simp) rfl
  · exact sends_text (r := ⟨.tx, ratedRequest "FINAL"⟩) _ (by simp) rfl

/-- The error that the script gets. -/
def notYet : RpcTransactionError :=
  .other ⟨unrecognized, "UNKNOWN_TRANSACTION", nameOf_tagged _ _, by decide⟩

lemma parse_unrecognized : RpcHandlerError.parse unrecognized = .ok notYet := rfl

/-- The call that submits the transaction returns its hash. -/
lemma result_rate :
    (localNode.call (fun _ => .ok (reply .OK (resultBody rateHash))) rateRequest).result
      = .ok rateHash :=
  result_replyWith sends_rate (decodes_of_resultBody .OK (fromSlice_rate (by simp)))

lemma result_unrecognized {waitUntil : String} (h : waitUntil ∈ ["EXECUTED", "FINAL"]) :
    (localNode.call (fun _ => .ok (reply .OK (errorBody (handlerErrorValue unrecognized .null))))
      (ratedRequest waitUntil)).result = .error (.serverError (.handlerError notYet)) := by
  have hconverts : Converts (rpcErrorOf (handlerErrorValue unrecognized .null))
      (.serverError (.handlerError notYet)) :=
    .handler (rpcErrorOf_errorStruct _ _) parse_unrecognized
  rw [result_replyWith (sends_rated h) (decodes_of_errorBody .OK (fromSlice_rate (by simp))),
    parseResult, JsonRpcError.fromRpcError_of_converts hconverts]

lemma result_rated {waitUntil : String} (h : waitUntil ∈ ["EXECUTED", "FINAL"]) :
    (localNode.call (fun _ => .ok (reply .OK (resultBody rated))) (ratedRequest waitUntil)).result
      = .ok rated :=
  result_replyWith (sends_rated h) (decodes_of_resultBody .OK (fromSlice_rate (by simp)))

/-- A script that submits the transaction to a local node, and ends with a value when it gets
the outcome. -/
structure Rates {β : Type} (s : Submission .broadcastTxAsync β) (waitUntil : String) (b : β) :
    Prop where
  client : s.client = localNode
  request : s.request = rateRequest
  waits : waitUntil ∈ ["EXECUTED", "FINAL"]
  statusRequest : s.statusRequest rateHash = ratedRequest waitUntil
  next : s.next (.ok rateHash) = .ok (.inr rateHash)
  retries : s.retries notYet = true
  pause : s.pause = some (fromSecs 2)
  accept : s.accept rated = .ok (some b)

/-- The node answers with the hash, does not recognize the transaction when it is asked for its
status, and answers with the outcome when it is asked again. -/
structure Rating (serves : Serving ℕ) (waitUntil : String) : Prop where
  submitted : serves 0 (requestWith ratePayload, replyWith (resultBody rateHash)) 1
  unrecognized : serves 1 (requestWith (ratedPayload waitUntil),
    replyWith (errorBody (handlerErrorValue unrecognized .null))) 2
  rated : serves 2 (requestWith (ratedPayload waitUntil), replyWith (resultBody rated)) 3

/-- A request that is answered with a body. -/
abbrev answered (m : Map) (body : Value) : Dialogue :=
  [⟨.send (requestWith m), .ok (replyWith body)⟩,
    ⟨.bytes (replyWith body).body, .ok (replyWith body).body⟩]

section Rated

variable {β : Type} {s : Submission .broadcastTxAsync β} {waitUntil : String} {b : β}

/-- The script sleeps once, and gets to its end. -/
lemma Rates.follows (hs : Rates s waitUntil b) : ∃ events, (s.script 32).Follows
    ((⟨.now, 0⟩ :: answered ratePayload (resultBody rateHash))
      ++ ((answered (ratedPayload waitUntil) (errorBody (handlerErrorValue unrecognized .null))
        ++ [⟨.now, 0⟩] ++ [⟨.sleep (fromSecs 2), ()⟩])
      ++ (answered (ratedPayload waitUntil) (resultBody rated) ++ [⟨.now, fromSecs 2⟩])))
    events (.done (.ok (.inr b))) := by
  have hasked : ∀ body, Hears s.client (s.statusRequest rateHash)
      (answered (ratedPayload waitUntil) body) (.ok (reply .OK body)) := by
    intro body
    rw [hs.client, hs.statusRequest]
    exact hears_replyWith (sends_rated hs.waits) body
  have hsubmitted : Hears s.client s.request (answered ratePayload (resultBody rateHash))
      (.ok (reply .OK (resultBody rateHash))) := by
    rw [hs.client, hs.request]
    exact hears_replyWith sends_rate _
  have hsubmit : ∃ events, (s.script 32).Follows
      (⟨.now, 0⟩ :: answered ratePayload (resultBody rateHash)) events
      (Program.rounds (fun _ => s.poll rateHash 0) 32 ()) := by
    refine Submission.script_follows 32 hsubmitted ?_
    rw [hs.client, hs.request, result_rate]
    exact hs.next
  have hwait : ∃ events, (s.poll rateHash 0).Follows
      (answered (ratedPayload waitUntil) (errorBody (handlerErrorValue unrecognized .null))
        ++ [⟨.now, 0⟩] ++ [⟨.sleep (fromSecs 2), ()⟩]) events (.done (.ok (.inl ()))) := by
    have herror : (s.client.call (fun _ => .ok (reply .OK
        (errorBody (handlerErrorValue unrecognized .null)))) (s.statusRequest rateHash)).result
          = .error (.serverError (.handlerError notYet)) := by
      rw [hs.client, hs.statusRequest]
      exact result_unrecognized hs.waits
    exact Submission.poll_retries (hasked _) (by decide) herror hs.retries hs.pause
  have haccept : ∃ events, (s.poll rateHash 0).Follows
      (answered (ratedPayload waitUntil) (resultBody rated) ++ [⟨.now, fromSecs 2⟩]) events
      (.done (.ok (.inr b))) := by
    refine Submission.poll_accepts (hasked _) (by decide) ?_ hs.accept
    rw [hs.client, hs.statusRequest]
    exact result_rated hs.waits
  obtain ⟨events, hsubmit⟩ := hsubmit
  obtain ⟨events', hwait⟩ := hwait
  obtain ⟨events'', haccept⟩ := haccept
  exact ⟨_, hsubmit.trans ((hwait.round 31).trans (haccept.last_round 30))⟩

/-- The run in which the script gets to its end. -/
lemma exists_ratedRun (hs : Rates s waitUntil b) {serves : Serving ℕ}
    (hserves : Rating serves waitUntil) : ∃ log s' events,
    Scripts.Run serves (Pool.empty (.init 0 0)) log s' ∧
      s'.tasks[0]? = some ⟨s.job 32, events, .done (.ok (.inr b))⟩ ∧
      handledFor 0 log = [(requestWith ratePayload, replyWith (resultBody rateHash)),
        (requestWith (ratedPayload waitUntil),
          replyWith (errorBody (handlerErrorValue unrecognized .null))),
        (requestWith (ratedPayload waitUntil), replyWith (resultBody rated))] := by
  obtain ⟨events, hfollows⟩ := hs.follows
  have hstarted : Scripts.Run serves (Pool.empty (.init 0 0)) _
      ⟨.init 0 0, [⟨s.job 32, [], s.script 32⟩]⟩ := .single (.spawn (s.job 32))
  have hended := hstarted.trans (.follow (i := 0) hfollows
    [⟨0, _, _, []⟩, ⟨0, _, _, [_]⟩, ⟨0, _, _, []⟩, ⟨0, _, _, [_]⟩, ⟨0, _, _, []⟩, ⟨0, _, _, []⟩,
      ⟨0, _, _, []⟩, ⟨0, _, _, [_]⟩, ⟨0, _, _, []⟩, ⟨0, _, _, []⟩] (by simp) rfl
    (.cons World.Answers.now
      (.cons (World.Answers.replied hserves.submitted (Nat.le_refl 0))
      (.cons (World.Answers.body _ (Nat.le_refl 0))
      (.cons (World.Answers.replied hserves.unrecognized (Nat.le_refl 0))
      (.cons (World.Answers.body _ (Nat.le_refl 0))
      (.cons World.Answers.now
      (.cons (World.Answers.slept (t := fromSecs 2) (Nat.le_of_eq (Nat.zero_add _)))
      (.cons (World.Answers.replied hserves.rated (Nat.le_refl _))
      (.cons (World.Answers.body _ (Nat.le_refl _))
      (.cons World.Answers.now (.nil _))))))))))) rfl)
  exact ⟨_, _, _, hended, rfl, rfl⟩

end Rated

lemma not_isRedirect_replyWith (body : Value) : ¬ (replyWith body).status.IsRedirect :=
  show ¬ StatusCode.OK.IsRedirect by decide

/-- A node that answers in this order. -/
def ratingNode : Serving ℕ := fun n l n' => n' = n + 1 ∧ l.2 = match n with
  | 0 => replyWith (resultBody rateHash)
  | 1 => replyWith (errorBody (handlerErrorValue unrecognized .null))
  | _ => replyWith (resultBody rated)

lemma rating_ratingNode (waitUntil : String) : Rating ratingNode waitUntil :=
  ⟨⟨rfl, rfl⟩, ⟨rfl, rfl⟩, ⟨rfl, rfl⟩⟩

/-- The script that calls the contract. -/
def rateScript : Submission .broadcastTxAsync RpcTransactionResponse :=
  contractChangeMethod localNode rateRequest rateAccount

lemma rates_rateScript : Rates rateScript "EXECUTED" rated :=
  ⟨rfl, rfl, by simp, rfl, rfl, rfl, rfl, rfl⟩

/-- The script has asked twice, and returns the outcome two seconds after it has sent its
transaction. -/
theorem contractChangeMethod_bounded_rate : ∃ log s' events,
    Scripts.Run ratingNode (Pool.empty (.init 0 0)) log s' ∧
      s'.tasks[0]? = some ⟨rateScript.job 32, events, .done (.ok (.inr rated))⟩ ∧
      (handledFor 0 log).length ≤ 33 ∧
      ∃ xs txHash sentAt receivedAt, rateScript.Polled txHash sentAt receivedAt xs (.ok rated) ∧
        receivedAt - sentAt < fromSecs 61 := by
  obtain ⟨log, s', events, hr, ht, hhandled⟩ :=
    exists_ratedRun rates_rateScript (rating_ratingNode "EXECUTED")
  obtain ⟨-, hlength, -, -, xs, -, hvalue, -⟩ := contractChangeMethod_bounded ratingNode 0 0 log s'
    hr localNode rateRequest rateAccount 0 32 events _ ht
  obtain ⟨txHash, sentAt, receivedAt, hpolled, hlimit, -⟩ := hvalue rated rfl
  refine ⟨log, s', events, hr, ht, hlength ?_, xs, txHash, sentAt, receivedAt, hpolled, hlimit⟩
  rw [hhandled]
  simp [not_isRedirect_replyWith]

end Recognized

end NearJsonrpcClient
