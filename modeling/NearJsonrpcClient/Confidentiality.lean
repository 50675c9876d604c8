/-
# Secrets and concurrent calls

What can be watched while a program works with its handles and its calls run side by side:
after every step, the credentials that were made, the `Debug` renderings of the clients, the
lines that each call has logged so far, and what it has returned.  Two programs that differ
only in the secrets of their credentials can be watched doing the same, in every interleaving,
as long as a server gives the requests of the one the replies that another server gives those
of the other.  Requests and replies may be lost, and web clients follow redirects: whether they do
depends on the addresses of their requests only.
-/
import NearJsonrpcClient.Lib.Simulation
import NearJsonrpcClient.Secrets
import NearJsonrpcClient.Workspace

namespace NearJsonrpcClient

open Lib

section Confidentiality

variable [Near] [Reqwest] [SerdeJson]

/-! ## What can be watched -/

/-- What a program shows when it has ended. -/
def showEnd {ε α : Type} : Async ε α → List Output
  | .done x => [.returned x]
  | _ => []

/-- The lines that a call has logged, and what it has returned. -/
def showTask (t : Task Ask.Ans Event CallJob.Error CallJob.Response) : List Output :=
  t.events.filterMap Event.line? ++ showEnd t.program

/-- The credential that an operation makes. -/
def HandleOp.showCredential : HandleOp → List Output
  | .session op => op.showCredential
  | .headersMut _ _ => []

/-- What a step shows. -/
structure View where
  credentials : List Output
  clients : List Output
  calls : List (List Output)

namespace Workspace

variable {σ : Type}

/-- What is shown in a state that a step with some instructions leads to. -/
def view (more : List Instruction) (s : Workspace σ) : View where
  credentials := (opsOf more).flatMap HandleOp.showCredential
  clients := showClients s.table
  calls := s.network.tasks.map showTask

variable [Redirects]

/-- A run of a program, with what each of its steps shows. -/
inductive Watched (serves : Serving σ) (w : World σ) :
    List Instruction → List View → Workspace σ → Prop
  | empty : Watched serves w [] [] (empty w)
  | snoc {instructions more : List Instruction} {seen : List View} {log : List NetRecord}
      {s s' : Workspace σ} (h : Watched serves w instructions seen s)
      (hs : Step serves s more log s') :
      Watched serves w (instructions ++ more) (seen ++ [s'.view more]) s'

variable {serves : Serving σ} {w : World σ} {instructions : List Instruction} {seen : List View}
  {s s' : Workspace σ}

lemma Watched.run (h : Watched serves w instructions seen s) :
    ∃ log, Run serves w instructions log s := by
  induction h with
  | empty => exact ⟨[], .empty⟩
  | snoc _ hs ih =>
    obtain ⟨log, hr⟩ := ih
    exact ⟨_, hr.snoc hs⟩

lemma Watched.table_eq (h : Watched serves w instructions seen s) :
    s.table = handlesOf (opsOf instructions) := by
  obtain ⟨log, hr⟩ := h.run
  exact hr.reachable.table

end Workspace

/-! ## Programs that differ in their secrets -/

/-- Two operations that are the same but for an accepted secret.  An edit of the headers may
depend on hidden values only in hidden values. -/
inductive HandleOp.SameButSecret : HandleOp → HandleOp → Prop
  | session {op op' : Op} (h : NearJsonrpcClient.SameButSecret (.op op) (.op op')) :
      SameButSecret (.session op) (.session op')
  | headersMut (h : ℕ) {edit : HeaderMap → HeaderMap}
      (hedit : ∀ m m', EntriesRel Hidden (Http.entries m) (Http.entries m') →
        EntriesRel Hidden (Http.entries (edit m)) (Http.entries (edit m'))) :
      SameButSecret (.headersMut h edit) (.headersMut h edit)

/-- Two instructions that are the same but for an accepted secret. -/
inductive Instruction.SameButSecret : Instruction → Instruction → Prop
  | handle {op op' : HandleOp} (h : op.SameButSecret op') : SameButSecret (.handle op) (.handle op')
  | call (h : ℕ) (impl : MethodImpl) (method : impl.Request) :
      SameButSecret (.call h impl method) (.call h impl method)

section Counterparts

variable [Redirects]

/-- Requests with one body that two clients send, or that the same replies lead them to. -/
def Paired (client client' : JsonRpcClient) (request request' : WireRequest) : Prop :=
  ∃ body first first' ls ls', Reqwest.wire (client.requestBuilder body) = .ok first ∧
    Reqwest.wire (client'.requestBuilder body) = .ok first' ∧
    Chain client.inner.client first ls request ∧ Chain client'.inner.client first' ls' request' ∧
    ls.map Prod.snd = ls'.map Prod.snd

/-- Paired requests that two programs send from the same handle, after as many instructions. -/
def Counterpart (instructions instructions' : List Instruction) (request request' : WireRequest) :
    Prop :=
  ∃ before after before' after' h client client', instructions = before ++ after ∧
    instructions' = before' ++ after' ∧ before.length = before'.length ∧
    (handlesOf (opsOf before)).get h = some client ∧
    (handlesOf (opsOf before')).get h = some client' ∧ Paired client client' request request'

omit [Near] [SerdeJson] [Redirects] in
lemma SameButSecret.symm {c c' : Command} (h : SameButSecret c c') : SameButSecret c' c := by
  cases h with
  | same c => exact .same c
  | apiKey h hk hk' => exact .apiKey h hk' hk
  | bearer h ha ha' => exact .bearer h ha' ha

omit [Near] [SerdeJson] [Redirects] in
lemma HandleOp.SameButSecret.symm {op op' : HandleOp} (h : op.SameButSecret op') :
    op'.SameButSecret op := by
  cases h with
  | session h => exact .session h.symm
  | headersMut h hedit => exact .headersMut h hedit

omit [Near] [SerdeJson] [Redirects] in
lemma Instruction.SameButSecret.symm {i i' : Instruction} (h : i.SameButSecret i') :
    i'.SameButSecret i := by
  cases h with
  | handle h => exact .handle h.symm
  | call h impl method => exact .call h impl method

omit [Near] [SerdeJson] in
lemma Paired.symm {client client' : JsonRpcClient} {request request' : WireRequest}
    (h : Paired client client' request request') : Paired client' client request' request := by
  obtain ⟨body, first, first', ls, ls', hw, hw', hc, hc', hreplies⟩ := h
  exact ⟨body, first', first, ls', ls, hw', hw, hc', hc, hreplies.symm⟩

variable {instructions instructions' : List Instruction} {request request' : WireRequest}

omit [Near] [SerdeJson] in
lemma Counterpart.symm (h : Counterpart instructions instructions' request request') :
    Counterpart instructions' instructions request' request := by
  obtain ⟨before, after, before', after', i, client, client', his, his', hlength, hc, hc', hp⟩ := h
  exact ⟨before', after', before, after, i, client', client, his', his, hlength.symm, hc', hc,
    hp.symm⟩

omit [Near] [SerdeJson] in
lemma Counterpart.append (h : Counterpart instructions instructions' request request')
    (more more' : List Instruction) :
    Counterpart (instructions ++ more) (instructions' ++ more') request request' := by
  obtain ⟨before, after, before', after', i, client, client', rfl, rfl, hrest⟩ := h
  exact ⟨before, after ++ more, before', after' ++ more', i, client, client',
    List.append_assoc _ _ _, List.append_assoc _ _ _, hrest⟩

end Counterparts

section Alike

variable {K : WireRequest → WireRequest → Prop}

/-! ## Calls that are alike -/

/-- Two events of which the same is logged. -/
def SameLine (e e' : Event) : Prop := e.line? = e'.line?

omit [Near] [SerdeJson] in
/-- The same question, except that requests may be related ones. -/
inductive Ask.Alike (K : WireRequest → WireRequest → Prop) : Ask → Ask → Prop
  | send {request request' : WireRequest} (h : K request request') :
      Alike K (.send request) (.send request')
  | bytes (body : Bytes) : Alike K (.bytes body) (.bytes body)
  | now : Alike K .now .now
  | sleep (duration : ℕ) : Alike K (.sleep duration) (.sleep duration)

/-- The same answer. -/
inductive Ask.SameAnswer : (Σ q, Ask.Ans q) → (Σ q, Ask.Ans q) → Prop
  | send (request request' : WireRequest) (a : Except ReqwestError Reply) :
      SameAnswer ⟨.send request, a⟩ ⟨.send request', a⟩
  | same (x : Σ q, Ask.Ans q) : SameAnswer x x

/-- Two programs that log the same and ask the same, except for their requests. -/
abbrev AlikeAsync {ε α : Type} (K : WireRequest → WireRequest → Prop) (p p' : Async ε α) : Prop :=
  p.Alike SameLine (Ask.Alike K) Ask.SameAnswer p'

omit [Near] [SerdeJson] in
lemma sameLine_refl (es : List Event) : List.Forall₂ SameLine es es :=
  List.forall₂_same.2 fun _ _ => rfl

variable {M R E : Type} [RpcHandlerResponse R] [RpcHandlerError E] [RpcMethod M R E]

/-- What a call does with a reply does not depend on its request. -/
lemma receiveAsync_alike (r : Except ReqwestError Reply) :
    AlikeAsync K (receiveAsync M r) (receiveAsync M r) := by
  cases r with
  | error e => exact .done _
  | ok reply =>
    rw [receiveAsync]
    by_cases hs : reply.status = .OK
    · rw [readResponseAsync_of_status hs]
      refine .tells (sameLine_refl _) (.ask (.bytes reply.body) fun a a' ha => ?_)
      obtain rfl : a = a' := by
        cases ha
        rfl
      cases a with
      | error e => exact .done _
      | ok bytes => exact .tells (sameLine_refl _) (.done _)
    · rw [readResponseAsync_of_status_ne hs]
      exact .tells (sameLine_refl _) (.done _)

variable [Redirects]

omit [Near] [SerdeJson] in
/-- A web client does the same with a reply to two requests to one address, up to the requests
that follow them. -/
lemma redirect_cases [LawfulRedirects] (client : WebClient) (previous : List String)
    {request request' : WireRequest} (hurl : request.url = request'.url) (reply : Reply) :
    (∃ e, Redirects.redirect client previous request reply.status reply.headers = .error e ∧
      Redirects.redirect client previous request' reply.status reply.headers = .error e) ∨
    (Redirects.redirect client previous request reply.status reply.headers = .ok none ∧
      Redirects.redirect client previous request' reply.status reply.headers = .ok none) ∨
    ∃ next next',
      Redirects.redirect client previous request reply.status reply.headers = .ok (some next) ∧
      Redirects.redirect client previous request' reply.status reply.headers = .ok (some next') ∧
      next.url = next'.url := by
  have hcongr := LawfulRedirects.redirect_congr client previous request request' reply.status
    reply.headers hurl
  revert hcongr
  generalize Redirects.redirect client previous request reply.status reply.headers = r
  generalize Redirects.redirect client previous request' reply.status reply.headers = r'
  rcases r with e | _ | next <;> rcases r' with e' | _ | next' <;> simp [Except.map, eq_comm]

section Executions

variable [LawfulRedirects] {ε : Type} {client : WebClient} {first first' : WireRequest}

omit [SerdeJson] in
/-- Two requests to one address are sent alike, as long as the ones that the same replies lead
to are related. -/
lemma execute_alike
    (hK : ∀ ls ls' request request', Chain client first ls request →
      Chain client first' ls' request' → ls.map Prod.snd = ls'.map Prod.snd → K request request')
    {n : ℕ} {ls ls' : List Handled} {request request' : WireRequest}
    (hc : Chain client first ls request) (hc' : Chain client first' ls' request')
    (hreplies : ls.map Prod.snd = ls'.map Prod.snd) (hurls : urls ls = urls ls')
    (hurl : request.url = request'.url) (hn : ls.length + n = Redirects.limit client) :
    AlikeAsync K (execute client n (urls ls) request : Async ε _)
      (execute client n (urls ls') request') := by
  induction n using Nat.strongRecOn generalizing ls ls' request request' with
  | ind n ih =>
    rw [execute, execute, ← hurls, ← hurl]
    refine .ask (.send (hK _ _ _ _ hc hc' hreplies)) fun a a' ha => ?_
    obtain rfl : a = a' := by
      cases ha <;> rfl
    cases a with
    | error e => exact .done _
    | ok reply =>
      have hlength : ls.length = ls'.length := by simpa using congrArg List.length hreplies
      dsimp only
      rcases redirect_cases client (urls ls) hurl reply with
        ⟨e, hr, hr'⟩ | ⟨hr, hr'⟩ | ⟨next, next', hr, hr', hnext⟩
      · simp only [hr, hr']
        exact .done _
      · simp only [hr, hr']
        exact .done _
      · simp only [hr, hr']
        cases n with
        | zero =>
          rw [hnext]
          exact .done _
        | succ n =>
          have hrest := ih n (Nat.lt_succ_self n) (.snoc hc (by omega) hr)
            (.snoc hc' (by omega) (hurls ▸ hr')) (by simp [hreplies]) (by simp [hurls, hurl]) hnext
            (by rw [List.length_append, List.length_singleton]; omega)
          simpa [urls, hurls, hurl] using hrest

end Executions

variable [LawfulDebug] [LawfulBuild] [LawfulRedirects] {client client' : JsonRpcClient}

/-- Calls of clients that differ in hidden values are alike up to their requests. -/
lemma SameShown.callAsync_alike (h : SameShown client client')
    (hK : ∀ request request', Paired client client' request request' → K request request')
    (method : M) : AlikeAsync K (client.callAsync method) (client'.callAsync method) := by
  cases hpayload : toJson method with
  | error e =>
    rw [callAsync_of_toJson_error hpayload, callAsync_of_toJson_error hpayload]
    exact .done _
  | ok payload =>
    have hlines := h.requestLines payload
    cases hbody : SerdeJson.toVec payload with
    | error e =>
      rw [callAsync_of_toVec_error hpayload hbody, callAsync_of_toVec_error hpayload hbody, hlines]
      exact .tells (sameLine_refl _) (.done _)
    | ok body =>
      cases hw : Reqwest.wire (client.requestBuilder body) with
      | error e =>
        rw [callAsync_of_wire_error hpayload hbody hw,
          callAsync_of_wire_error hpayload hbody (h.wire_error hw), hlines]
        exact .tells (sameLine_refl _) (.done _)
      | ok request =>
        cases hw' : Reqwest.wire (client'.requestBuilder body) with
        | error e =>
          rw [h.symm.wire_error hw'] at hw
          cases hw
        | ok request' =>
          have hurl : request.url = request'.url := by
            rw [JsonRpcClient.requestBuilder, h.inner] at hw
            exact LawfulRedirects.wire_url _ _ _ _ _ _ _ _ hw hw'
          have hexecute : AlikeAsync K
              (execute client.inner.client (Redirects.limit client.inner.client) [] request :
                Async (JsonRpcError E) _)
              (execute client.inner.client (Redirects.limit client.inner.client) [] request') := by
            refine execute_alike (fun ls ls' r r' hc hc' hreplies => ?_)
              (.nil : Chain client.inner.client request [] request)
              (.nil : Chain client.inner.client request' [] request') rfl rfl hurl (Nat.zero_add _)
            exact hK r r' ⟨body, request, request', ls, ls', hw, hw', hc, h.inner ▸ hc', hreplies⟩
          rw [callAsync_of_wire hpayload hbody hw, callAsync_of_wire hpayload hbody hw', hlines,
            ← h.inner]
          -- the requests differ in hidden values, and neither of them is logged
          have hsent : SameLine (.sent request) (.sent request') := rfl
          exact .tells (List.rel_append (sameLine_refl _) (.cons hsent .nil))
            (hexecute.bind receiveAsync_alike)

/-- Two calls of one method that have logged the same and go on alike. -/
inductive CallAlike (K : WireRequest → WireRequest → Prop) :
    Task Ask.Ans Event CallJob.Error CallJob.Response →
      Task Ask.Ans Event CallJob.Error CallJob.Response → Prop
  | mk {impl : MethodImpl} {client client' : JsonRpcClient} {method : impl.Request}
      {events events' : List Event} {p p' : Async (JsonRpcError impl.Error) impl.Response}
      (hlines : events.filterMap Event.line? = events'.filterMap Event.line?)
      (hp : AlikeAsync K p p') :
      CallAlike K ⟨⟨impl, client, method⟩, events, p⟩ ⟨⟨impl, client', method⟩, events', p'⟩

omit [SerdeJson] [LawfulDebug] [LawfulBuild] [Redirects] [LawfulRedirects] in
lemma CallAlike.showTask_eq {t t' : Task Ask.Ans Event CallJob.Error CallJob.Response}
    (h : CallAlike K t t') : showTask t = showTask t' := by
  cases h with
  | mk hlines hp =>
    have hend : ∀ {ε α : Type} {p p' : Async ε α}, AlikeAsync K p p' → showEnd p = showEnd p' := by
      intro ε α p p' hp
      cases hp <;> rfl
    rw [showTask, showTask, hlines, hend hp]

/-! ## Workspaces that are alike -/

section Workspaces

variable {σ : Type} {serves serves' : Serving σ}

omit [Near] [SerdeJson] in
/-- Two worlds that differ only in the requests that are under way, and these are related. -/
structure World.Alike (K : WireRequest → WireRequest → Prop) (w w' : World σ) : Prop where
  server : w.server = w'.server
  strays : List.Forall₂ (fun l l' => l.1 = l'.1 ∧ K l.2 l'.2) w.strays w'.strays
  clock : w.clock = w'.clock

omit [SerdeJson] [LawfulDebug] [LawfulBuild] [Redirects] [LawfulRedirects] in
/-- Servers that give related requests the same replies. -/
lemma simulation_calls
    (hserves : ∀ s request request' reply s', K request request' →
      serves s (request, reply) s' → serves' s (request', reply) s') :
    Pool.Simulation (World.environment serves) (World.environment serves') (Ask.Alike K)
      Ask.SameAnswer (CallAlike K) (World.Alike K) where
  tell := by
    rintro ⟨impl, client, method⟩ events e p t h
    cases h with
    | mk hlines hp =>
      cases hp with
      | tell he hp =>
        refine ⟨_, _, _, _, rfl, .mk ?_ hp⟩
        rw [List.filterMap_append, List.filterMap_append, hlines, List.filterMap_cons,
          List.filterMap_cons, he]
  ask := by
    rintro ⟨impl, client, method⟩ events q k t h
    cases h with
    | mk hlines hp =>
      cases hp with
      | ask hq hk => exact ⟨_, _, _, _, rfl, hq, fun a a' ha => .mk hlines (hk a a' ha)⟩
  answer := by
    rintro ⟨server, strays, clock⟩ ⟨_, strays', _⟩ w₁ i q q' a effects ⟨rfl, hstrays, rfl⟩ hq ha
    cases hq with
    | send hK =>
      cases ha with
      | replied h ht =>
        exact ⟨_, _, _, .replied (hserves _ _ _ _ _ hK h) ht, .send _ _ _, rfl, hstrays, rfl⟩
      | replyLost e h ht =>
        exact ⟨_, _, _, .replyLost e (hserves _ _ _ _ _ hK h) ht, .send _ _ _, rfl, hstrays, rfl⟩
      | requestLost _ e ht =>
        exact ⟨_, _, _, .requestLost _ e ht, .send _ _ _, rfl,
          List.rel_append hstrays (.cons ⟨rfl, hK⟩ .nil), rfl⟩
    | bytes body =>
      cases ha with
      | body _ ht => exact ⟨_, _, _, .body body ht, .same _, rfl, hstrays, rfl⟩
      | bodyLost _ e ht => exact ⟨_, _, _, .bodyLost body e ht, .same _, rfl, hstrays, rfl⟩
    | now =>
      cases ha with
      | now => exact ⟨_, _, _, .now, .same _, rfl, hstrays, rfl⟩
    | sleep duration =>
      cases ha with
      | slept ht => exact ⟨_, _, _, .slept ht, .same _, rfl, hstrays, rfl⟩
  move := by
    rintro ⟨server, strays, clock⟩ ⟨_, strays', _⟩ w₁ m ⟨rfl, hstrays, rfl⟩ hm
    cases hm with
    | late hw h ht =>
      obtain rfl : strays = _ := hw
      obtain ⟨before', rest', rfl, hbefore, hrest⟩ := exists_append_of_forall₂ hstrays
      cases hrest with
      | @cons _ l' _ after' hl hafter =>
        obtain ⟨i', request'⟩ := l'
        obtain ⟨rfl, hK⟩ := hl
        exact ⟨_, _, .late rfl (hserves _ _ _ _ _ hK h) ht, rfl, List.rel_append hbefore hafter,
          rfl⟩

/-- Two programs with the same calls, whose clients differ in hidden values. -/
structure Workspace.Alike (K : WireRequest → WireRequest → Prop) (s s' : Workspace σ) : Prop where
  table : Table.Rel SameShown s.table s'.table
  env : s.network.env.Alike K s'.network.env
  tasks : List.Forall₂ (CallAlike K) s.network.tasks s'.network.tasks

variable {server : σ} {clock : Instant} {s s₁ s' : Workspace σ}

omit [Redirects] [LawfulRedirects] in
lemma HandleOp.SameButSecret.actionRel {op op' : HandleOp} (h : op.SameButSecret op') :
    Table.ActionRel SameShown op.action op'.action := by
  cases h with
  | session h => exact h.stepRel.1
  | headersMut h hedit =>
    exact .update h fun client client' hc => .some ⟨hc.inner, hedit _ _ hc.entries⟩

omit [Near] [SerdeJson] [LawfulBuild] [Redirects] [LawfulRedirects] in
lemma HandleOp.SameButSecret.showCredential_eq {op op' : HandleOp} (h : op.SameButSecret op') :
    op.showCredential = op'.showCredential := by
  cases h with
  | session h =>
    cases h with
    | same => rfl
    | apiKey h hk hk' => exact showMade_eq ApiKey.debug_eq hk hk'
    | bearer h ha ha' => exact showMade_eq Authorization.debug_eq ha ha'
  | headersMut h hedit => rfl

omit [SerdeJson] [LawfulBuild] [Redirects] [LawfulRedirects] in
lemma Workspace.Alike.view_eq (h : s.Alike K s') {more more' : List Instruction}
    (hmore : List.Forall₂ Instruction.SameButSecret more more') : s.view more = s'.view more' := by
  have hcredentials : (opsOf more).flatMap HandleOp.showCredential
      = (opsOf more').flatMap HandleOp.showCredential := by
    induction hmore with
    | nil => rfl
    | cons hi _ ih =>
      cases hi with
      | handle hop => exact congrArg₂ (· ++ ·) hop.showCredential_eq ih
      | call h impl method => exact ih
  have hcalls : s.network.tasks.map showTask = s'.network.tasks.map showTask := by
    have htasks := h.tasks
    generalize s.network.tasks = tasks at htasks
    generalize s'.network.tasks = tasks' at htasks
    induction htasks with
    | nil => rfl
    | cons ht _ ih => rw [List.map_cons, List.map_cons, ht.showTask_eq, ih]
  rw [view, view, hcredentials, hcalls, showClients_eq h.table]

/-- The step lemma. -/
lemma Workspace.Alike.step (h : s.Alike K s')
    (hserves : ∀ s request request' reply s', K request request' →
      serves s (request, reply) s' → serves' s (request', reply) s')
    (hK : ∀ i client client' request request', s.table.get i = some client →
      s'.table.get i = some client' → Paired client client' request request' → K request request')
    {more more' : List Instruction} {log : List NetRecord} (hs : Step serves s more log s₁)
    (hmore : List.Forall₂ Instruction.SameButSecret more more') :
    ∃ log' s₁', Step serves' s' more' log' s₁' ∧ s₁.Alike K s₁' := by
  cases hs with
  | handle op =>
    cases hmore with
    | cons hi hnil =>
      cases hnil
      cases hi with
      | handle hop => exact ⟨_, _, .handle _, h.table.act hop.actionRel, h.env, h.tasks⟩
  | @call i client hc impl method =>
    cases hmore with
    | cons hi hnil =>
      cases hnil
      cases hi
      obtain ⟨client', hc', hshown⟩ := h.table.get_some hc
      have hcall := hshown.callAsync_alike (hK i client client' · · hc hc') method
      exact ⟨_, _, .call hc' impl method, h.table, h.env,
        List.rel_append h.tasks (.cons (.mk rfl hcall) .nil)⟩
  | run hn hlength =>
    cases hmore
    obtain ⟨log', network', hn', hlength', henv, htasks⟩ :=
      hn.simulate (simulation_calls hserves) hlength h.env h.tasks
    exact ⟨log', _, .run hn' hlength', h.table, henv, htasks⟩

/-- The run lemma. -/
lemma Workspace.Watched.simulate {instructions : List Instruction} {seen : List View}
    (hw : Watched serves (.init server clock) instructions seen s)
    (hserves : ∀ s request request' reply s', K request request' →
      serves s (request, reply) s' → serves' s (request', reply) s')
    {instructions' : List Instruction}
    (hsame : List.Forall₂ Instruction.SameButSecret instructions instructions')
    (hK : ∀ request request', Counterpart instructions instructions' request request' →
      K request request') :
    ∃ s', Watched serves' (.init server clock) instructions' seen s' ∧ s.Alike K s' := by
  induction hw generalizing instructions' with
  | empty =>
    cases hsame
    exact ⟨_, .empty, Table.rel_nil SameShown, ⟨rfl, .nil, rfl⟩, .nil⟩
  | @snoc instructions more seen log s s₁ hw hs ih =>
    obtain ⟨instructions', more', rfl, hsame, hmore⟩ := exists_append_of_forall₂ hsame
    obtain ⟨s', hw', halike⟩ := ih hsame fun _ _ h => hK _ _ (h.append more more')
    -- clients of one handle at this point send counterparts
    have hpair : ∀ i client client' request request', s.table.get i = some client →
        s'.table.get i = some client' → Paired client client' request request' →
        K request request' := by
      intro i client client' request request' hc hc' hp
      rw [hw.table_eq] at hc
      rw [hw'.table_eq] at hc'
      exact hK _ _ ⟨instructions, more, instructions', more', i, client, client', rfl, rfl,
        hsame.length_eq, hc, hc', hp⟩
    obtain ⟨log', s₁', hs', halike'⟩ := halike.step hserves hpair hs hmore
    rw [halike'.view_eq hmore]
    exact ⟨s₁', hw'.snoc hs', halike'⟩

end Workspaces

end Alike

end Confidentiality

section SecretCall

open scoped Reference
open Reference

local instance secretCallJson : SerdeJson := serdeJson [resultBody nodeState]

end SecretCall

end NearJsonrpcClient
