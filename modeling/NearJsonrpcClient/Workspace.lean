/-
# Handles and calls

A program that works with its client handles, and edits their headers in place, while calls
that it has started run side by side.  A call reads its client when it is started and borrows
it until it has ended, so it does not matter what happens to the handles in the meantime.
The request that a call sends is determined by the lineage of its handle: by the edits that were
made through the handle and those that it descends from, up to the start of the call.
-/
import NearJsonrpcClient.ContentType
import NearJsonrpcClient.Lib.Lineage
import NearJsonrpcClient.Network

namespace NearJsonrpcClient

open Lib

section Workspace

variable [Reqwest]

/-! ## Operations on handles -/

/-- `JsonRpcClient::headers_mut`, and an edit of the headers. -/
def JsonRpcClient.headersMut (self : JsonRpcClient) (edit : HeaderMap → HeaderMap) :
    JsonRpcClient :=
  { self with headers := edit self.headers }

/-- What a program does with its handles. -/
inductive HandleOp : Type 1 where
  | session (op : Op)
  | headersMut (h : ℕ) (edit : HeaderMap → HeaderMap)

/-- What an operation does to the handles. -/
def HandleOp.action : HandleOp → Action JsonRpcClient
  | .session op => op.action
  | .headersMut h edit => .update h fun client => some (client.headersMut edit)

/-- The handles that operations leave. -/
def handlesOf (ops : List HandleOp) : Table JsonRpcClient := Table.run [] (ops.map HandleOp.action)

/-- The lineages of the handles that operations leave. -/
def lineagesOf (ops : List HandleOp) : Table (Lineage JsonRpcClient) :=
  Table.lineages (ops.map HandleOp.action)

/-- No operation changes the server address or the web client of a handle. -/
lemma HandleOp.inner_eq {op : HandleOp} {h : ℕ} {f : JsonRpcClient → Option JsonRpcClient}
    (hop : op.action = .update h f) {client client' : JsonRpcClient}
    (hf : f client = some client') : client'.inner = client.inner := by
  cases op with
  | session op => exact within_inner op h f hop client client' hf
  | headersMut h' edit =>
    cases hop
    cases hf
    rfl

/-- Only connecting creates a client. -/
lemma HandleOp.connect_of_create {op : HandleOp} {client : JsonRpcClient}
    (hop : op.action = .create client) : ∃ route serverAddr,
      op = .session (.connect route serverAddr) ∧
        client = route.connector.connect serverAddr := by
  cases op with
  | headersMut h edit => cases hop
  | session op =>
    revert hop
    refine op.action_cases (motive := fun a => a = .create client → _) ?_ ?_ ?_ ?_
    · rintro route serverAddr rfl ⟨⟩
      exact ⟨route, serverAddr, rfl, rfl⟩
    · intro h _ hcopy
      cases hcopy
    · intro h entry _ hupdate
      cases hupdate
    · intro hskip
      cases hskip

/-- The client of a handle is made by the edits of its lineage, and it is connected to where the
lineage begins. -/
lemma exists_lineageOf {ops : List HandleOp} {h : ℕ} {client : JsonRpcClient}
    (hc : (handlesOf ops).get h = some client) :
    ∃ l, (lineagesOf ops).get h = some l ∧ l.replay = some client ∧
      ∃ route serverAddr, .session (.connect route serverAddr) ∈ ops ∧
        l.origin = route.connector.connect serverAddr ∧
        client.inner = (route.connector.connect serverAddr).inner := by
  obtain ⟨l, hl, hreplay⟩ := Table.exists_lineage hc
  obtain ⟨op, hop, horigin⟩ := List.mem_map.1 (Table.mem_origin hl)
  obtain ⟨route, serverAddr, rfl, hconnect⟩ := HandleOp.connect_of_create horigin
  refine ⟨l, hl, hreplay, route, serverAddr, hop, hconnect, ?_⟩
  rw [← hconnect]
  refine Lineage.replay_keeps (P := fun c : JsonRpcClient => c.inner = l.origin.inner)
    (fun f hf x y hxy hx => ?_) rfl hreplay
  obtain ⟨h', hmem⟩ := Table.mem_updates hl f hf
  obtain ⟨op, -, hop⟩ := List.mem_map.1 hmem
  exact (HandleOp.inner_eq hop hxy).trans hx

/-- An edit that leaves one value under a name. -/
def Writes (k : HeaderName) (v : HeaderValue) (f : JsonRpcClient → Option JsonRpcClient) : Prop :=
  ∀ client client', f client = some client' → client'.headers.getAll k = [v]

/-- An edit that leaves the values under a name as they are. -/
def Spares (k : HeaderName) (f : JsonRpcClient → Option JsonRpcClient) : Prop :=
  ∀ client client', f client = some client' →
    client'.headers.getAll k = client.headers.getAll k

lemma writes_apply [LawfulHeaderMap] {entry : Entry} {v : HeaderValue} (hv : entry.value = some v) :
    Writes entry.name v fun client => entry.apply client := by
  intro client client' h
  change entry.apply client = some client' at h
  rw [Entry.apply_eq, hv] at h
  cases h
  rw [JsonRpcClient.setHeader_headers, LawfulHeaderMap.getAll_insert, if_pos rfl]

lemma spares_apply [LawfulHeaderMap] {entry : Entry} {k : HeaderName} (hk : entry.name ≠ k) :
    Spares k fun client => entry.apply client := by
  intro client client' h
  change entry.apply client = some client' at h
  rw [Entry.apply_eq] at h
  obtain ⟨v, -, rfl⟩ := Option.map_eq_some_iff.1 h
  rw [JsonRpcClient.setHeader_headers, LawfulHeaderMap.getAll_insert, if_neg (Ne.symm hk)]

/-- What was written last under a name, and spared since, is what the client has there. -/
lemma getAll_of_replay {l : Lineage JsonRpcClient} {client : JsonRpcClient}
    (hreplay : l.replay = some client) {k : HeaderName} {v : HeaderValue}
    {before after : List (JsonRpcClient → Option JsonRpcClient)}
    {f : JsonRpcClient → Option JsonRpcClient} (hl : l.updates = before ++ f :: after)
    (hf : Writes k v f) (hafter : ∀ g ∈ after, Spares k g) : client.headers.getAll k = [v] :=
  Lineage.replay_establishes (P := fun c : JsonRpcClient => c.headers.getAll k = [v]) hl hf
    (fun g hg x y hxy hx => (hafter g hg x y hxy).trans hx) hreplay

/-! ## Workspaces -/

variable [Near] [Redirects] [SerdeJson]

/-- What a program does: something with its handles, or a call with one of them. -/
inductive Instruction : Type 1 where
  | handle (op : HandleOp)
  | call (h : ℕ) (impl : MethodImpl) (method : impl.Request)

/-- The operation on the handles that an instruction is, if it is one. -/
def Instruction.op? : Instruction → Option HandleOp
  | .handle op => some op
  | .call _ _ _ => none

/-- The operations on the handles among instructions. -/
def opsOf (instructions : List Instruction) : List HandleOp :=
  instructions.filterMap Instruction.op?

/-- The number of calls among instructions. -/
def callsIn (instructions : List Instruction) : ℕ :=
  instructions.countP fun instruction => instruction.op?.isNone

/-- The handles of a program and its calls. -/
structure Workspace (σ : Type) where
  table : Table JsonRpcClient
  network : Network σ

namespace Workspace

variable {σ : Type} (serves : Serving σ)

/-- A program without handles and calls. -/
def empty (w : World σ) : Workspace σ := ⟨[], Pool.empty w⟩

/-- The program does something with a handle, starts a call with the client that a handle has, or
its calls run. -/
inductive Step (s : Workspace σ) : List Instruction → List NetRecord → Workspace σ → Prop
  | handle (op : HandleOp) : Step s [.handle op] [] { s with table := s.table.act op.action }
  | call {h : ℕ} {client : JsonRpcClient} (hc : s.table.get h = some client) (impl : MethodImpl)
      (method : impl.Request) : Step s [.call h impl method] [] { s with
        network := { s.network with
          tasks := s.network.tasks ++ [⟨⟨impl, client, method⟩, [],
            CallJob.start ⟨impl, client, method⟩⟩] } }
  | run {more : List NetRecord} {network : Network σ}
      (hn : Pool.Step CallJob.start (World.environment serves) s.network more network)
      (hlength : network.tasks.length = s.network.tasks.length) :
      Step s [] more { s with network := network }

/-- A run of the program. -/
inductive Run (w : World σ) : List Instruction → List NetRecord → Workspace σ → Prop
  | empty : Run w [] [] (empty w)
  | snoc {instructions more : List Instruction} {log log' : List NetRecord} {s s' : Workspace σ}
      (h : Run w instructions log s) (hs : Step serves s more log' s') :
      Run w (instructions ++ more) (log ++ log') s'

/-- What holds of a state that is reached: the handles are those of the operations, the calls
have run, and each call has the client that its handle had when it was started. -/
structure Reachable (w : World σ) (instructions : List Instruction) (log : List NetRecord)
    (s : Workspace σ) : Prop where
  table : s.table = handlesOf (opsOf instructions)
  network : Network.Run serves (Pool.empty w) log s.network
  length : s.network.tasks.length = callsIn instructions
  jobs : ∀ before h impl method after, instructions = before ++ .call h impl method :: after →
    ∃ client, (handlesOf (opsOf before)).get h = some client ∧
      (s.network.tasks.map Task.job)[callsIn before]? = some ⟨impl, client, method⟩

variable {serves} {w : World σ} {instructions more : List Instruction} {log log' : List NetRecord}
  {s s' : Workspace σ}

lemma reachable_empty (w : World σ) : Reachable serves w [] [] (empty w) where
  table := rfl
  network := .refl
  length := rfl
  jobs before h impl method after hnil := by simp at hnil

lemma Reachable.handle (h : Reachable serves w instructions log s) (op : HandleOp) :
    Reachable serves w (instructions ++ [.handle op]) log
      { s with table := s.table.act op.action } where
  table := by
    rw [h.table, opsOf, opsOf, List.filterMap_append, handlesOf, handlesOf, List.map_append,
      Table.run_append]
    rfl
  network := h.network
  length := by
    rw [h.length, callsIn, callsIn, List.countP_append]
    rfl
  jobs before i impl method after heq := by
    rcases concat_eq_append_cons heq with ⟨-, hlast⟩ | ⟨after', heq'⟩
    · cases hlast
    · exact h.jobs before i impl method after' heq'

lemma Reachable.call (h : Reachable serves w instructions log s) {i : ℕ} {client : JsonRpcClient}
    (hc : s.table.get i = some client) (impl : MethodImpl) (method : impl.Request) :
    Reachable serves w (instructions ++ [.call i impl method]) log { s with
      network := { s.network with
        tasks := s.network.tasks ++ [⟨⟨impl, client, method⟩, [],
          CallJob.start ⟨impl, client, method⟩⟩] } } where
  table := by
    rw [h.table, opsOf, opsOf, List.filterMap_append]
    exact congrArg handlesOf (List.append_nil _).symm
  network := by
    have hspawn := h.network.snoc (.spawn (CallJob.mk impl client method))
    rwa [List.append_nil] at hspawn
  length := by
    rw [List.length_append, h.length, callsIn, callsIn, List.countP_append]
    rfl
  jobs before i' impl' method' after heq := by
    rw [List.map_append]
    rcases concat_eq_append_cons heq with ⟨rfl, hlast⟩ | ⟨after', heq'⟩
    · -- the call that is started: it is the task after those that there are
      cases hlast
      refine ⟨client, by rw [← h.table, hc], ?_⟩
      rw [← h.length, ← List.length_map (f := Task.job)]
      exact List.getElem?_concat_length
    · obtain ⟨client', hc', hjob⟩ := h.jobs before i' impl' method' after' heq'
      refine ⟨client', hc', ?_⟩
      rw [List.getElem?_append_left (List.getElem?_eq_some_iff.1 hjob).1, hjob]

/-- The step lemma. -/
lemma Reachable.step (h : Reachable serves w instructions log s)
    (hs : Step serves s more log' s') :
    Reachable serves w (instructions ++ more) (log ++ log') s' := by
  cases hs with
  | handle op =>
    rw [List.append_nil]
    exact h.handle op
  | call hc impl method =>
    rw [List.append_nil]
    exact h.call hc impl method
  | run hn hlength =>
    rw [List.append_nil]
    refine ⟨h.table, h.network.snoc hn, hlength.trans h.length, ?_⟩
    rcases hn.jobs_cases with ⟨j, hj⟩ | hjobs
    · rw [hj, List.length_append, List.length_singleton] at hlength
      omega
    · rw [hjobs]
      exact h.jobs

/-- The run lemma. -/
theorem Run.reachable (hr : Run serves w instructions log s) :
    Reachable serves w instructions log s := by
  induction hr with
  | empty => exact reachable_empty w
  | snoc _ hs ih => exact ih.step hs

/-- The calls of a program run on while it does nothing else. -/
lemma Run.wait (hr : Run serves w instructions log s) {network : Network σ}
    (hn : Network.Run serves s.network log' network)
    (hlength : network.tasks.length = s.network.tasks.length) :
    Run serves w instructions (log ++ log') { s with network := network } := by
  induction hn with
  | refl =>
    rw [List.append_nil]
    exact hr
  | @snoc log' more network' network hn hs ih =>
    have hle := Pool.Run.length_le hn
    have hle' := hs.length_le
    have hrun := (ih (by omega)).snoc (.run hs (by dsimp only; omega))
    rwa [List.append_nil, List.append_assoc] at hrun

end Workspace

/-! ## What calls send -/

omit [Redirects] in
/-- A request carries the headers of its client. -/
lemma Sends.getAll [LawfulReqwest] {M R E : Type} [RpcHandlerResponse R] [RpcHandlerError E]
    [RpcMethod M R E] {client : JsonRpcClient} {method : M} {request : WireRequest}
    (h : Sends client method request) {k : HeaderName} (hk : client.headers.getAll k ≠ []) :
    request.headers.getAll k = client.headers.getAll k := by
  obtain ⟨params, body, -, -, hwire⟩ := h
  have hset := getAll_requestBuilder hk body
  rw [LawfulReqwest.wire_headers _ _ k hwire (by rwa [hset]), hset]

/-- **Handles and calls.** In every state that a program reaches with any number of handles and
calls side by side, there is one call for each instruction to call, in their order.  Take one of
them.  Its client is the one of its handle at the time when it was started: what the edits in the
lineage of the handle at that time make of a client connected to the address with which the
lineage begins.  The server handled requests of it as its own replies led this client; without
redirects, one request at most.  The first of them carries, under every name, the value that was
written last in the lineage; nothing done through other handles, and nothing done after the call
was started, has a part in it.  A header entry writes its value under its name and spares the
other names. -/
theorem JsonRpcClient.calls_of_handles [LawfulHeaderMap] [LawfulReqwest] [LawfulRedirects]
    {σ : Type} (serves : Serving σ) (server : σ) (clock : Instant)
    (instructions : List Instruction) (log : List NetRecord) (s : Workspace σ)
    (hr : Workspace.Run serves (.init server clock) instructions log s) :
    s.network.tasks.length = callsIn instructions ∧
    (∀ before h impl (method : impl.Request) after,
      instructions = before ++ .call h impl method :: after →
      ∃ client t l, s.network.tasks[callsIn before]? = some t ∧ t.job = ⟨impl, client, method⟩ ∧
        (handlesOf (opsOf before)).get h = some client ∧
        (lineagesOf (opsOf before)).get h = some l ∧ l.replay = some client ∧
        (∃ route serverAddr, .session (.connect route serverAddr) ∈ opsOf before ∧
          l.origin = route.connector.connect serverAddr ∧
          client.inner = (route.connector.connect serverAddr).inner) ∧
        Routed client method (handledFor (callsIn before) log) ∧
        ((∀ l ∈ handledFor (callsIn before) log, ¬ l.2.status.IsRedirect) →
          (handledFor (callsIn before) log).length ≤ 1) ∧
        ∀ first, (handledFor (callsIn before) log).head? = some first →
          Sends client method first.1 ∧
          ∀ k v earlier f later, l.updates = earlier ++ f :: later → Writes k v f →
            (∀ g ∈ later, Spares k g) → first.1.headers.getAll k = [v]) ∧
    (∀ before op h h' f, HandleOp.action op = .update h f → h ≠ h' →
      (lineagesOf (before ++ [op])).get h' = (lineagesOf before).get h') ∧
    ∀ (entry : Entry) (v : HeaderValue), entry.value = some v →
      Writes entry.name v (fun client => entry.apply client) ∧
        ∀ k, entry.name ≠ k → Spares k fun client => entry.apply client := by
  have hreach := hr.reachable
  refine ⟨hreach.length, ?_, ?_, fun entry v hv => ⟨writes_apply hv, fun k => spares_apply⟩⟩
  · intro before h impl method after heq
    obtain ⟨client, hc, hjob⟩ := hreach.jobs before h impl method after heq
    rw [List.getElem?_map, Option.map_eq_some_iff] at hjob
    obtain ⟨⟨job, events, p⟩, ht, rfl⟩ := hjob
    obtain ⟨l, hl, hreplay, hinner⟩ := exists_lineageOf hc
    have hrouted : Routed client method (handledFor (callsIn before) log) :=
      hreach.network.routed ht
    refine ⟨client, _, l, ht, rfl, hc, hl, hreplay, hinner, hrouted, hrouted.length_le_one, ?_⟩
    intro first hfirst
    have hsends := hrouted.head hfirst
    refine ⟨hsends, fun k v earlier f later hupdates hf hlater => ?_⟩
    have hclient := getAll_of_replay hreplay hupdates hf hlater
    rw [hsends.getAll (by simp [hclient]), hclient]
  · intro before op h h' f hop hne
    rw [lineagesOf, List.map_append, List.map_singleton, hop]
    exact Table.lineages_of_ne _ f hne

end Workspace

section ReplacedToken

open scoped Reference
open Reference

local instance replacedTokenJson : SerdeJson := serdeJson [resultBody nodeState]

/-- A node that counts requests. -/
def counting : Serving ℕ := fun n l n' => n' = n + 1 ∧ l.2 = statusReply

/-- A call for the status of the node. -/
def statusCall (client : JsonRpcClient) : CallJob :=
  ⟨TypedMethod.status.impl, client, (⟨⟩ : RpcStatusRequest)⟩

/-- With the reply of the node, and its body, the call returns what the node says. -/
lemma statusCall_follows {client : JsonRpcClient} (haddr : client.serverAddr ≠ "") : ∃ events,
    (statusCall client).start.Follows [⟨.send (statusRequest client), .ok statusReply⟩,
      ⟨.bytes statusReply.body, .ok statusReply.body⟩] events (.done synced) := by
  have hsends : Sends client (⟨⟩ : RpcStatusRequest) (statusRequest client) :=
    ⟨_, _, rfl, rfl, if_neg haddr⟩
  have hresult : (client.call (fun _ => .ok (reply .OK (resultBody nodeState)))
      (⟨⟩ : RpcStatusRequest)).result = synced :=
    result_replyWith hsends (decodes_resultBody _ _ [])
  obtain ⟨events, hfollows⟩ := (hears_replyWith hsends (resultBody nodeState)).follows
  exact ⟨events, hresult ▸ hfollows⟩

/-- A call that waits gets to its end. -/
lemma exists_endedRun {instructions : List Instruction} {client : JsonRpcClient}
    (haddr : client.serverAddr ≠ "") {s : Workspace ℕ}
    (hr : Workspace.Run counting (.init 0 0) instructions [] s)
    (hs : s.network = ⟨.init 0 0, [⟨statusCall client, [], (statusCall client).start⟩]⟩) :
    ∃ log s events, Workspace.Run counting (.init 0 0) instructions log s ∧
      s.network.tasks = [⟨statusCall client, events, .done synced⟩] ∧
      handledFor 0 log = [(statusRequest client, statusReply)] := by
  obtain ⟨events, hfollows⟩ := statusCall_follows haddr
  have hended : Network.Run counting
      ⟨.init 0 0, [⟨statusCall client, [], (statusCall client).start⟩]⟩ _ _ :=
    .follow (i := 0) hfollows [⟨0, _, _, [_]⟩, ⟨0, _, _, []⟩] (by simp) rfl
      (.cons (World.Answers.replied (s := 1) ⟨rfl, rfl⟩ (Nat.le_refl 0))
        (.cons (World.Answers.body _ (Nat.le_refl 0)) (.nil _))) rfl
  rw [← hs] at hended
  exact ⟨_, _, _, hr.wait hended (by rw [hs]; rfl), by rw [hs]; rfl, rfl⟩

/-- A token is replaced on the clone of a handle, the handle is used for a call, and then it gets
another token itself. -/
def tokenProgram : List Instruction :=
  replacedToken.map (fun op => .handle (.session op))
    ++ .call 0 TypedMethod.status.impl (⟨⟩ : RpcStatusRequest)
      :: [.handle (.session (.header 0 (.prevalidated ("Authorization", token "Bearer c"))))]

/-- The client of the handle when it is used. -/
def tokenClient : JsonRpcClient :=
  (JsonRpcClient.connect "http://localhost:3030").setHeader (.ofStr "Authorization")
    (token "Bearer a")

/-- The program gets to its end while the call is waiting. -/
lemma exists_tokenRun : ∃ s, Workspace.Run counting (.init 0 0) tokenProgram [] s ∧
    s.network = ⟨.init 0 0, [⟨statusCall tokenClient, [], (statusCall tokenClient).start⟩]⟩ := by
  have hconnect : Workspace.Run counting (.init 0 0) _ _ _ := .snoc .empty
    (.handle (.session (.connect .default "http://localhost:3030")))
  have hset := hconnect.snoc
    (.handle (.session (.header 0 (.prevalidated ("Authorization", token "Bearer a")))))
  have hclone := hset.snoc (.handle (.session (.clone 0)))
  have hreplace := hclone.snoc
    (.handle (.session (.header 1 (.prevalidated ("authorization", token "Bearer b")))))
  have hcall := hreplace.snoc (.call (h := 0) rfl TypedMethod.status.impl (⟨⟩ : RpcStatusRequest))
  have hother := hcall.snoc
    (.handle (.session (.header 0 (.prevalidated ("Authorization", token "Bearer c")))))
  exact ⟨_, hother, rfl⟩

/-- The node gets the token that the handle had when the call was started. -/
theorem JsonRpcClient.calls_of_handles_replacedToken : ∃ log s request,
    Workspace.Run counting (.init 0 0) tokenProgram log s ∧
      handledFor 0 log = [(request, statusReply)] ∧
      request.headers.getAll (.ofStr "Authorization") = [token "Bearer a"] := by
  obtain ⟨_, hwaiting, hs⟩ := exists_tokenRun
  obtain ⟨log, s, events, hrun, -, hhandled⟩ := exists_endedRun (by decide) hwaiting hs
  obtain ⟨-, hcalls, -, hentries⟩ := JsonRpcClient.calls_of_handles counting 0 0 _ log s hrun
  obtain ⟨client, t, l, -, -, -, hl, -, -, -, -, hfirst⟩ := hcalls _ 0 TypedMethod.status.impl
    (⟨⟩ : RpcStatusRequest) _ rfl
  have hhead : (handledFor 0 log).head? = some (statusRequest tokenClient, statusReply) := by
    rw [hhandled]
    rfl
  obtain ⟨-, hlast⟩ := hfirst _ hhead
  cases hl
  refine ⟨log, s, _, hrun, hhandled, hlast _ _ [] _ [] rfl ?_ (by simp)⟩
  exact (hentries (.prevalidated ("Authorization", token "Bearer a")) _ rfl).1

end ReplacedToken

end NearJsonrpcClient
