/-
# Scripts

Programs that call a server more than once, read the clock and sleep, and that run side by
side with any other programs.  A script sees the answers to its own questions only.  It can
rely on the clock not going back, and on what an answer says about what the server handled;
in return a call within a script guarantees that the server handles nothing of it but its own
request and the ones to which it is redirected.
-/
import NearJsonrpcClient.Lib.Contract
import NearJsonrpcClient.Network

namespace NearJsonrpcClient

open Lib

section Scripts

variable [Near] [Reqwest] [Redirects] [SerdeJson]

/-- Any program. -/
structure Job where
  Error : Type
  Response : Type
  program : Async Error Response

/-- Programs that run side by side. -/
abbrev Scripts (σ : Type) : Type 1 := Pool Ask.Ans Event Job.Error Job.Response (World σ)

/-- A run of programs against a server. -/
abbrev Scripts.Run {σ : Type} (serves : Serving σ) :
    Scripts σ → List NetRecord → Scripts σ → Prop :=
  Pool.Run Job.program (World.environment serves)

/-! ## The clock -/

section Clock

omit [Near] [Redirects] [SerdeJson]

/-- A number of seconds. -/
def fromSecs (n : ℕ) : ℕ := n * 1000000000

/-- `Duration::as_secs`. -/
def asSecs (duration : ℕ) : ℕ := duration / 1000000000

omit [Reqwest] in
lemma asSecs_le_iff {d n : ℕ} : asSecs d ≤ n ↔ d < fromSecs (n + 1) := by
  rw [asSecs, fromSecs]
  omega

/-- The time after an answer, as far as the program knows. -/
def tick (t : Instant) : (Σ q, Ask.Ans q) → Instant
  | ⟨.now, a⟩ => a
  | ⟨.sleep duration, _⟩ => t + duration
  | ⟨.send _, _⟩ => t
  | ⟨.bytes _, _⟩ => t

/-- The time after a dialogue, as far as the program knows. -/
def clockAfter (t : Instant) (tr : Dialogue) : Instant := tr.foldl tick t

@[simp] lemma clockAfter_nil (t : Instant) : clockAfter t [] = t := rfl

@[simp] lemma clockAfter_cons (t : Instant) (a : Σ q, Ask.Ans q) (tr : Dialogue) :
    clockAfter t (a :: tr) = clockAfter (tick t a) tr := rfl

lemma clockAfter_append (t : Instant) (tr tr' : Dialogue) :
    clockAfter t (tr ++ tr') = clockAfter (clockAfter t tr) tr' := List.foldl_append

/-- The clock does not go back. -/
def Timed (t : Instant) : Dialogue → Prop
  | [] => True
  | a :: tr => t ≤ tick t a ∧ Timed (tick t a) tr

lemma timed_append {t : Instant} {tr tr' : Dialogue} :
    Timed t (tr ++ tr') ↔ Timed t tr ∧ Timed (clockAfter t tr) tr' := by
  induction tr generalizing t with
  | nil => simp [Timed]
  | cons a tr ih => simp only [List.cons_append, Timed, ih, clockAfter_cons, and_assoc]

lemma tick_mono (a : Σ q, Ask.Ans q) {t t' : Instant} (h : t' ≤ t) : tick t' a ≤ tick t a := by
  obtain ⟨_ | _ | _ | d, a⟩ := a
  · exact h
  · exact h
  · exact Nat.le_refl a
  · exact Nat.add_le_add_right h d

lemma Timed.le_tick {a : Σ q, Ask.Ans q} {t t' : Instant} (h : t' ≤ t) (ha : t ≤ tick t a) :
    t' ≤ tick t' a := by
  obtain ⟨_ | _ | _ | d, a⟩ := a
  · exact Nat.le_refl t'
  · exact Nat.le_refl t'
  · exact h.trans ha
  · exact Nat.le_add_right t' d

/-- A program that started earlier knows less of the time. -/
lemma Timed.mono {tr : Dialogue} {t t' : Instant} (h : Timed t tr) (ht : t' ≤ t) :
    Timed t' tr ∧ clockAfter t' tr ≤ clockAfter t tr := by
  induction tr generalizing t t' with
  | nil => exact ⟨trivial, ht⟩
  | cons a tr ih =>
    obtain ⟨ha, htr⟩ := h
    obtain ⟨htimed, hclock⟩ := ih htr (tick_mono a ht)
    exact ⟨⟨Timed.le_tick ht ha, htimed⟩, hclock⟩

variable {σ : Type} {serves : Serving σ}

/-- Time passes with every answer, as the program that gets it is told. -/
lemma World.Answers.tick_le {w w' : World σ} {i : ℕ} {q : Ask} {a : Ask.Ans q}
    {effects : List Handled} (h : World.Answers serves w i q a effects w') :
    w.clock ≤ w'.clock ∧ w.clock ≤ tick w.clock ⟨q, a⟩ ∧ tick w.clock ⟨q, a⟩ ≤ w'.clock := by
  cases h with
  | replied _ ht => exact ⟨ht, Nat.le_refl _, ht⟩
  | replyLost _ _ ht => exact ⟨ht, Nat.le_refl _, ht⟩
  | requestLost _ _ ht => exact ⟨ht, Nat.le_refl _, ht⟩
  | body _ ht => exact ⟨ht, Nat.le_refl _, ht⟩
  | bodyLost _ _ ht => exact ⟨ht, Nat.le_refl _, ht⟩
  | now => exact ⟨Nat.le_refl _, Nat.le_refl _, Nat.le_refl _⟩
  | slept ht => exact ⟨(Nat.le_add_right _ _).trans ht, Nat.le_add_right _ _, ht⟩

lemma World.Moves.clock_le {w w' : World σ} {l : ℕ × Handled} (h : World.Moves serves w l w') :
    w.clock ≤ w'.clock := by
  cases h with
  | late _ _ ht => exact ht

/-- Whatever else runs, a program can rely on the clock. -/
lemma timed_of_steps {w w' : World σ} {log : List NetRecord}
    (h : World.Steps serves w log w') (i : ℕ) :
    Timed w.clock (dialogue i log) ∧ clockAfter w.clock (dialogue i log) ≤ w'.clock := by
  induction h with
  | nil w => exact ⟨trivial, Nat.le_refl _⟩
  | @cons w w₁ w' r log h _ ih =>
    obtain ⟨htimed, hclock⟩ := ih
    rw [← List.singleton_append, dialogue_append]
    cases r with
    | move l =>
      obtain ⟨htimed', hclock'⟩ := htimed.mono (World.Moves.clock_le h)
      exact ⟨htimed', hclock'.trans hclock⟩
    | answer e =>
      obtain ⟨hw, hle, htick⟩ := World.Answers.tick_le h
      by_cases he : e.task = i
      · obtain ⟨htimed', hclock'⟩ := htimed.mono htick
        subst he
        have hone : dialogue e.task [(.answer e : NetRecord)] = [e.seen] := by
          rw [dialogue, Record.ofTask_singleton_self, List.map_singleton]
        rw [hone]
        exact ⟨⟨hle, htimed'⟩, hclock'.trans hclock⟩
      · obtain ⟨htimed', hclock'⟩ := htimed.mono hw
        have hnone : dialogue i [(.answer e : NetRecord)] = [] := by
          rw [dialogue, Record.ofTask_singleton_of_ne he, List.map_nil]
        rw [hnone]
        exact ⟨htimed', hclock'.trans hclock⟩

/-- What a program that starts at the time `t` or later can rely on. -/
def promised (t : Instant) : Rely NetExchange where
  holds h := (∀ x ∈ h, Fits x) ∧ Timed t (h.map Exchange.seen)
  of_append := by
    rintro h h' ⟨hfits, htimed⟩
    rw [List.map_append, timed_append] at htimed
    exact ⟨fun x hx => hfits x (List.mem_append_left _ hx), htimed.1⟩

/-- What a program is answered is as promised. -/
lemma promised_of_steps {w w' : World σ} {log : List NetRecord}
    (h : World.Steps serves w log w') (i : ℕ) : (promised w.clock).holds (Record.ofTask i log) := by
  refine ⟨fun x hx => ?_, (timed_of_steps h i).1⟩
  have hfits : ∀ r ∈ log, ∀ x ∈ Record.ofTask i [r], Fits x := by
    refine h.forall_mem ?_
    rintro s (e | m) s' hs x hx
    · obtain rfl := Record.eq_of_mem_ofTask hx
      exact World.Answers.fits hs
    · cases hx
  obtain ⟨r, hr, hone⟩ := List.mem_filterMap.1 hx
  exact hfits r hr x (by simp [Record.ofTask, hone])

lemma Completes.promised {w w' : World σ} {log : List NetRecord} {i : ℕ} {xs : List NetExchange}
    (h : Completes i log w' xs) (hs : World.Steps serves w log w') :
    (NearJsonrpcClient.promised w.clock).holds xs := by
  refine ⟨h.fits, ?_⟩
  rw [h.seen]
  exact (timed_of_steps hs i).1

end Clock

/-! ## Calls within scripts -/

section Calls

variable {M R E : Type} [RpcHandlerResponse R] [RpcHandlerError E] [RpcMethod M R E]

/-- The history of a call, which may be under way. -/
structure Calling (client : JsonRpcClient) (method : M) (xs : List NetExchange) : Prop where
  fits : ∀ x ∈ xs, Fits x
  asks : Asks client method (xs.map Exchange.seen)

/-- The history of a call that has ended with the result `x`. -/
structure Called (client : JsonRpcClient) (method : M) (xs : List NetExchange)
    (x : Except (JsonRpcError E) R) : Prop where
  fits : ∀ x ∈ xs, Fits x
  hears : ∃ response, Hears client method (xs.map Exchange.seen) response ∧
    (client.call (fun _ => response) method).result = x

section History

variable {self : JsonRpcClient} {method : M} {xs : List NetExchange} {tr : Dialogue}
  {x : Except (JsonRpcError E) R}

omit [Near] [SerdeJson] [Redirects] in
@[simp] lemma clockAfter_hops (t : Instant) (ls : List Handled) : clockAfter t (hops ls) = t := by
  induction ls with
  | nil => rfl
  | cons l ls ih => exact ih

omit [Near] [SerdeJson] in
/-- What a web client receives, in a bounded number of answers that take no time of their own. -/
lemma Received.timeless {client : WebClient} {first : WireRequest} {r : Except ReqwestError Reply}
    (h : Received client first tr r) :
    tr.length ≤ Redirects.limit client + 1 ∧ ∀ t, clockAfter t tr = t := by
  have hlength : ∀ {ls request} {a : Σ q, Ask.Ans q}, Chain client first ls request →
      (hops ls ++ [a]).length ≤ Redirects.limit client + 1 := by
    intro ls request a hc
    rw [List.length_append, List.length_map, List.length_singleton]
    exact Nat.succ_le_succ hc.length_le
  have hclock : ∀ {ls request} {r : Except ReqwestError Reply} t,
      clockAfter t (hops ls ++ [⟨.send request, r⟩]) = t := by
    intro ls request r t
    rw [clockAfter_append, clockAfter_hops]
    rfl
  cases h with
  | lost hc _ => exact ⟨hlength hc, hclock⟩
  | refused hc _ => exact ⟨hlength hc, hclock⟩
  | replied hc _ => exact ⟨hlength hc, hclock⟩

lemma Asks.timeless (h : Asks self method tr) :
    tr.length ≤ Redirects.limit self.inner.client + 2 ∧ ∀ t, clockAfter t tr = t := by
  cases h with
  | unsent => exact ⟨Nat.zero_le _, fun t => rfl⟩
  | sending _ hc =>
    rw [List.length_map]
    exact ⟨hc.length_le.trans (Nat.le_add_right _ _), fun t => clockAfter_hops t _⟩
  | received _ hr => exact ⟨hr.timeless.1.trans (Nat.le_succ _), hr.timeless.2⟩
  | body _ hr b =>
    obtain ⟨hlength, hclock⟩ := hr.timeless
    refine ⟨?_, fun t => ?_⟩
    · rw [List.length_append, List.length_singleton]
      exact Nat.succ_le_succ hlength
    · rw [clockAfter_append, hclock]
      rfl

lemma Calling.length_le (h : Calling self method xs) :
    xs.length ≤ Redirects.limit self.inner.client + 2 := by
  rw [← List.length_map (f := Exchange.seen)]
  exact h.asks.timeless.1

lemma Hears.asks {response : Except ReqwestError HttpResponse}
    (h : Hears self method tr response) : Asks self method tr := by
  cases h with
  | unsent _ _ => exact .unsent
  | failed h hr => exact .received h hr
  | head h hr _ => exact .received h hr
  | body h hr _ b => exact .body h hr b

lemma Called.calling (h : Called self method xs x) : Calling self method xs := by
  obtain ⟨response, hhears, -⟩ := h.hears
  exact ⟨h.fits, hhears.asks⟩

/-- A call that has not failed to send has lost nothing that it sent. -/
lemma Called.lossless (h : Called self method xs x)
    (hx : ∀ e, x ≠ .error (.transportError (.sendError e))) : Lossless (xs.map Exchange.seen) := by
  obtain ⟨response, hhears, hresult⟩ := h.hears
  generalize xs.map Exchange.seen = tr at hhears
  cases hhears with
  | unsent _ _ => exact lossless_hops []
  | failed hsends _ => exact absurd (hresult.symm.trans (hsends.result_of_error _)) (hx _)
  | head _ hr _ => exact hr.lossless
  | body _ hr _ b =>
    refine hr.lossless.append fun request e hmem => ?_
    cases List.mem_singleton.1 hmem

/-- A call reads a reply to the end. -/
def Reads (M : Type) [RpcMethod M R E] (reply : Reply) (x : Except (JsonRpcError E) R) : Prop :=
  (readResponse M ⟨reply.status, reply.headers, .ok reply.body⟩).result = x

/-- A call that ends without a transport error has read the last reply. -/
lemma Called.reads (h : Called self method xs x) (hx : ∀ e, x ≠ .error (.transportError e)) :
    ∃ reply, LastReply self method (effects xs) reply ∧ Reads M reply x := by
  obtain ⟨response, hhears, rfl⟩ := h.hears
  rcases (hhears.perceives h.fits).result_cases with
    ⟨-, -, e, he⟩ | ⟨e, -, he⟩ | ⟨reply, bytes, hreply, hb, hread⟩
  · exact absurd he (hx _)
  · exact absurd he (hx _)
  · refine ⟨reply, hreply, ?_⟩
    rcases hb with rfl | ⟨e, rfl, -⟩
    · exact hread.symm
    · by_cases hs : reply.status = .OK
      · rw [readResponse_of_bytes_error hs rfl] at hread
        exact absurd hread (hx _)
      · rw [Reads, hread, readResponse_result_of_status_ne hs, readResponse_result_of_status_ne hs]

end History

/-- The contract of a call. -/
lemma JsonRpcClient.callAsync_meets {self : JsonRpcClient} {method : M} {t : Instant}
    {h : List NetExchange} {guar : List NetExchange → Prop}
    (hguar : ∀ xs, Calling self method xs → guar (h ++ xs)) :
    (self.callAsync method).Meets Exchange.seen (promised t) h guar fun x h' =>
      ∃ xs, h' = h ++ xs ∧ Called self method xs x := by
  intro xs es p hfollows hrely
  obtain ⟨hasks, hended⟩ := JsonRpcClient.callAsync_inv hfollows
  have hfits : ∀ x ∈ xs, Fits x := fun x hx => hrely.1 x (List.mem_append_right _ hx)
  refine ⟨hguar xs ⟨hfits, hasks⟩, fun x hx => ⟨xs, rfl, hfits, ?_⟩⟩
  obtain ⟨response, hhears, hcall⟩ := hended x hx
  exact ⟨response, hhears, congrArg Traced.result hcall⟩

/-- The rule for a script that makes a call and goes on with its result. -/
lemma JsonRpcClient.attempt_callAsync_meets {ε α : Type} {self : JsonRpcClient} {method : M}
    {t : Instant} {h : List NetExchange} {guar : List NetExchange → Prop}
    {f : Except (JsonRpcError E) R → Async ε α} {post : Except ε α → List NetExchange → Prop}
    (hguar : ∀ xs, Calling self method xs → guar (h ++ xs))
    (hf : ∀ x xs, Called self method xs x →
      (f x).Meets Exchange.seen (promised t) (h ++ xs) guar post) :
    Program.Meets Exchange.seen (promised t) ((self.callAsync method).attempt >>= f) h guar
      post := by
  have hattempt : Program.Meets Exchange.seen (promised t)
      ((self.callAsync method).attempt : Async ε _) h guar fun x h' => ∃ y, x = .ok y ∧
        ∃ xs, h' = h ++ xs ∧ Called self method xs y :=
    (self.callAsync_meets hguar).attempt fun x h' hx => ⟨x, rfl, hx⟩
  refine hattempt.bind ?_ ?_
  · rintro x h' ⟨y, hy, xs, rfl, hcalled⟩
    cases hy
    exact hf x xs hcalled
  · rintro e h' ⟨y, hy, -⟩
    cases hy

end Calls

end Scripts

end NearJsonrpcClient
