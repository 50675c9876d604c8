/-
# Secrets

What a session shows: the `Debug` renderings of its credentials and of its clients, the
lines that its calls log, and what its calls return.  Two sessions that differ only in the
secrets of their credentials show the same, since a credential is a sensitive header value
from its constructor on, and every step passes it on as it is.
-/
import NearJsonrpcClient.Classification
import NearJsonrpcClient.Methods.Plain
import NearJsonrpcClient.Reference.Replies
import NearJsonrpcClient.Session

namespace NearJsonrpcClient

open Lib

section Hiding

variable [Reqwest]

/-! ## Hidden values -/

/-- Two header values that are equal, or both sensitive. -/
def Hidden (v v' : HeaderValue) : Prop :=
  v = v' ∨ (Http.isSensitive v = true ∧ Http.isSensitive v' = true)

lemma Hidden.refl (v : HeaderValue) : Hidden v v := .inl rfl

lemma Hidden.symm {v v' : HeaderValue} (h : Hidden v v') : Hidden v' v := by
  rcases h with rfl | ⟨hv, hv'⟩
  · exact .refl v
  · exact .inr ⟨hv', hv⟩

/-- Two clients that differ at most in sensitive header values. -/
structure SameShown (client client' : JsonRpcClient) : Prop where
  inner : client.inner = client'.inner
  entries : EntriesRel Hidden (Http.entries client.headers) (Http.entries client'.headers)

lemma SameShown.refl (client : JsonRpcClient) : SameShown client client :=
  ⟨rfl, List.forall₂_same.2 fun _ _ => ⟨rfl, .refl _⟩⟩

lemma SameShown.symm {client client' : JsonRpcClient} (h : SameShown client client') :
    SameShown client' client :=
  ⟨h.inner.symm, (h.entries.imp fun _ _ he => ⟨he.1.symm, he.2.symm⟩).flip⟩

variable [LawfulDebug]

lemma ApiKey.isSensitive (k : ApiKey) : Http.isSensitive k.value = true := by
  obtain ⟨-, v, -, hv⟩ := k.made
  rw [hv, LawfulDebug.isSensitive_setSensitive]

lemma Authorization.isSensitive (a : Authorization) : Http.isSensitive a.value = true := by
  obtain ⟨-, v, -, hv⟩ := a.made
  rw [hv, LawfulDebug.isSensitive_setSensitive]

lemma Hidden.debugValue {v v' : HeaderValue} (h : Hidden v v') (alternate : Bool) :
    Http.debugValue alternate v = Http.debugValue alternate v' := by
  rcases h with rfl | ⟨hv, hv'⟩
  · rfl
  · exact LawfulDebug.debugValue_of_isSensitive alternate v v' hv hv'

lemma ApiKey.debug_eq (alternate : Bool) (k k' : ApiKey) :
    k.debug alternate = k'.debug alternate := by
  have h : Hidden k.value k'.value := .inr ⟨k.isSensitive, k'.isSensitive⟩
  rw [ApiKey.debug, ApiKey.debug, h.debugValue]

lemma Authorization.debug_eq (alternate : Bool) (a a' : Authorization) :
    a.debug alternate = a'.debug alternate := by
  have h : Hidden a.value a'.value := .inr ⟨a.isSensitive, a'.isSensitive⟩
  have hscheme : a.scheme = a'.scheme := rfl
  rw [Authorization.debug, Authorization.debug, h.debugValue, hscheme]

/-! ## Clients that differ in hidden values -/

variable {client client' : JsonRpcClient}

lemma SameShown.debugMap (h : SameShown client client') (alternate : Bool) :
    Http.debugMap alternate client.headers = Http.debugMap alternate client'.headers := by
  refine LawfulDebug.debugMap_congr alternate _ _ (h.entries.imp ?_)
  rintro e e' ⟨hname, hvalue⟩
  exact ⟨hname, hvalue.debugValue alternate⟩

lemma SameShown.debug (h : SameShown client client') (alternate : Bool) :
    client.debug alternate = client'.debug alternate := by
  rw [JsonRpcClient.debug, JsonRpcClient.debug, h.inner, h.debugMap]

lemma SameShown.setHeader (h : SameShown client client') (k : HeaderName) {v v' : HeaderValue}
    (hv : Hidden v v') : SameShown (client.setHeader k v) (client'.setHeader k v') :=
  ⟨h.inner, LawfulDebug.insert_rel Hidden _ _ k v v' h.entries hv⟩

/-- Applying entries with one name and hidden values. -/
lemma SameShown.apply (h : SameShown client client') {entry entry' : Entry}
    (hname : entry.name = entry'.name) (hvalue : Option.Rel Hidden entry.value entry'.value) :
    Option.Rel SameShown (entry.apply client) (entry'.apply client') := by
  rw [Entry.apply_eq, Entry.apply_eq, hname]
  revert hvalue
  generalize entry.value = v
  generalize entry'.value = v'
  rintro (hv | _)
  · exact .some (h.setHeader _ hv)
  · exact .none

/-! ## Operations -/

lemma actionRel_update {entry entry' : Entry} (h : ℕ) (hname : entry.name = entry'.name)
    (hvalue : Option.Rel Hidden entry.value entry'.value) :
    Table.ActionRel SameShown (Entry.action (some (h, entry)))
      (Entry.action (some (h, entry'))) :=
  .update h fun _ _ hc => hc.apply hname hvalue

lemma actionRel_same (op : Op) : Table.ActionRel SameShown op.action op.action :=
  op.actionRel SameShown.refl fun _ _ k v h => h.setHeader k (.refl v)

/-- The credentials of an accepted secret differ in a hidden value. -/
lemma actionRel_apiKey (h : ℕ) {key key' : Bytes} {k k' : ApiKey} (hk : ApiKey.new key = .ok k)
    (hk' : ApiKey.new key' = .ok k') :
    Table.ActionRel SameShown (Op.apiKey h key).action (Op.apiKey h key').action := by
  have hentry : (Op.apiKey h key).entry = some (h, .prevalidated k) := by
    rw [Op.entry, hk]
    rfl
  have hentry' : (Op.apiKey h key').entry = some (h, .prevalidated k') := by
    rw [Op.entry, hk']
    rfl
  rw [Op.action_of_entry hentry, Op.action_of_entry hentry']
  exact actionRel_update h rfl (.some (.inr ⟨k.isSensitive, k'.isSensitive⟩))

lemma actionRel_bearer (h : ℕ) {token token' : String} {a a' : Authorization}
    (ha : Authorization.bearer token = .ok a) (ha' : Authorization.bearer token' = .ok a') :
    Table.ActionRel SameShown (Op.bearer h token).action (Op.bearer h token').action := by
  have hentry : (Op.bearer h token).entry = some (h, .prevalidated a) := by
    rw [Op.entry, ha]
    rfl
  have hentry' : (Op.bearer h token').entry = some (h, .prevalidated a') := by
    rw [Op.entry, ha']
    rfl
  rw [Op.action_of_entry hentry, Op.action_of_entry hentry']
  exact actionRel_update h rfl (.some (.inr ⟨a.isSensitive, a'.isSensitive⟩))

end Hiding

section Secrets

variable [Near] [Reqwest] [SerdeJson]

/-! ## Commands and what they show -/

/-- What a session does: operations on its handles, and calls with the replies they get. -/
inductive Command : Type 1 where
  | op (op : Op)
  | call {M R E : Type} [RpcHandlerResponse R] [RpcHandlerError E] [RpcMethod M R E] (h : ℕ)
      (method : M) (reply : Except ReqwestError HttpResponse)

/-- What a session shows. -/
inductive Output : Type 1 where
  /-- A `Debug` rendering, or a line of the log. -/
  | text (s : String)
  /-- The error of a constructor, or the result of a call. -/
  | returned {T : Type} (x : T)

/-- The renderings of `{:?}` and `{:#?}`. -/
def renderings (debug : Bool → String) : List Output := [.text (debug false), .text (debug true)]

/-- What a constructor of credentials shows. -/
def showMade {T : Type} (debug : Bool → T → String) : Except InvalidHeaderValue T → List Output
  | .ok x => renderings fun alternate => debug alternate x
  | .error err => [.returned err]

/-- The credential that an operation makes. -/
def Op.showCredential : Op → List Output
  | .apiKey _ key => showMade ApiKey.debug (ApiKey.new key)
  | .bearer _ token => showMade Authorization.debug (Authorization.bearer token)
  | _ => []

/-- The clients that there are. -/
def showClients (t : Table JsonRpcClient) : List Output :=
  (t.map fun slot => slot.toList.flatMap fun client =>
    renderings fun alternate => client.debug alternate).flatten

/-- The line of an event that is logged. -/
def Event.line? : Event → Option Output
  | .debug line => some (.text line)
  | .sent _ => none

/-- The lines that a call logs, and what it returns. -/
def showCall {R E : Type} (run : Traced Event (JsonRpcError E) R) : List Output :=
  run.events.filterMap Event.line? ++ [.returned run.result]

/-- What a command does and shows.  A call borrows its client, and an operation shows the
credential that it makes and all the clients that it leaves. -/
def Command.step : Command → Table.Step JsonRpcClient Output
  | .op o =>
      { action := o.action
        shown := fun t => o.showCredential ++ showClients (t.act o.action) }
  | @call _ _ _ _ _ _ _ h method reply =>
      { action := .skip
        shown := fun t => (t.get h).toList.flatMap fun client =>
          showCall (client.call (fun _ => reply) method) }

/-- What a session shows. -/
def shows (commands : List Command) : List Output := Table.outputs [] (commands.map Command.step)

/-- Two commands that are the same but for an accepted secret. -/
inductive SameButSecret : Command → Command → Prop
  | same (c : Command) : SameButSecret c c
  | apiKey (h : ℕ) {key key' : Bytes} {k k' : ApiKey} (hk : ApiKey.new key = .ok k)
      (hk' : ApiKey.new key' = .ok k') :
      SameButSecret (.op (.apiKey h key)) (.op (.apiKey h key'))
  | bearer (h : ℕ) {token token' : String} {a a' : Authorization}
      (ha : Authorization.bearer token = .ok a) (ha' : Authorization.bearer token' = .ok a') :
      SameButSecret (.op (.bearer h token)) (.op (.bearer h token'))

section Steps

variable [LawfulDebug] {client client' : JsonRpcClient}

/-! ## Related steps -/

omit [Near] [SerdeJson] in
lemma showClients_eq {t t' : Table JsonRpcClient} (h : Table.Rel SameShown t t') :
    showClients t = showClients t' := by
  refine congrArg List.flatten (h.map_eq ?_)
  rintro _ _ (hc | _)
  · simp only [Option.toList, List.flatMap_singleton, renderings, hc.debug]
  · rfl

omit [Near] [SerdeJson] [LawfulDebug] in
lemma showMade_eq {T : Type} {debug : Bool → T → String}
    (h : ∀ alternate x x', debug alternate x = debug alternate x')
    {made made' : Except InvalidHeaderValue T} {x x' : T} (hx : made = .ok x)
    (hx' : made' = .ok x') : showMade debug made = showMade debug made' := by
  rw [hx, hx', showMade, showMade, renderings, renderings, h false x x', h true x x']

/-- Related operations that show the same credential are related steps. -/
lemma stepRel_op {op op' : Op} (ha : Table.ActionRel SameShown op.action op'.action)
    (hc : op.showCredential = op'.showCredential) :
    Table.StepRel SameShown (Command.op op).step (Command.op op').step := by
  refine ⟨ha, fun {t t'} h => ?_⟩
  change op.showCredential ++ showClients _ = op'.showCredential ++ showClients _
  rw [hc, showClients_eq (h.act ha)]

/-! ## Calls -/

variable [LawfulBuild]
  {M R E : Type} [RpcHandlerResponse R] [RpcHandlerError E] [RpcMethod M R E]

omit [Near] [SerdeJson] [LawfulDebug] in
/-- A request can be built for both clients, or fails to be with one error. -/
lemma SameShown.wire_error (h : SameShown client client') {body : Bytes} {e : ReqwestError}
    (hw : Reqwest.wire (client.requestBuilder body) = .error e) :
    Reqwest.wire (client'.requestBuilder body) = .error e := by
  have hnames : EntriesRel (fun _ _ => True) (Http.entries client.headers)
      (Http.entries client'.headers) := h.entries.imp fun _ _ he => ⟨he.1, trivial⟩
  rw [JsonRpcClient.requestBuilder, ← h.inner]
  exact LawfulBuild.wire_error _ _ _ _ body e hnames hw

omit [Near] [LawfulBuild] in
lemma SameShown.requestLines (h : SameShown client client') (payload : Value) :
    client.requestLines payload = client'.requestLines payload := by
  rw [JsonRpcClient.requestLines, JsonRpcClient.requestLines, h.debugMap]

omit [LawfulDebug] [LawfulBuild] in
/-- A call shows the lines about its request and what it makes of the reply; the request
itself is not shown. -/
lemma showCall_of_wire {reply : Except ReqwestError HttpResponse} {method : M} {payload : Value}
    {body : Bytes} {request : WireRequest} (hpayload : toJson method = .ok payload)
    (hbody : SerdeJson.toVec payload = .ok body)
    (hrequest : Reqwest.wire (client.requestBuilder body) = .ok request) :
    showCall (client.call (fun _ => reply) method)
      = (client.requestLines payload).filterMap Event.line? ++ showCall (receive M reply) := by
  rw [call_of_wire hpayload hbody hrequest, showCall, showCall, List.filterMap_append,
    List.append_assoc]
  rfl

/-- The call lemma: it goes through the stages of the request. -/
lemma SameShown.showCall (h : SameShown client client') (method : M)
    (reply : Except ReqwestError HttpResponse) :
    showCall (client.call (fun _ => reply) method)
      = NearJsonrpcClient.showCall (client'.call (fun _ => reply) method) := by
  cases hpayload : toJson method with
  | error e => rw [call_of_toJson_error hpayload, call_of_toJson_error hpayload]
  | ok payload =>
    have hlines := h.requestLines payload
    cases hbody : SerdeJson.toVec payload with
    | error e =>
      rw [call_of_toVec_error hpayload hbody, call_of_toVec_error hpayload hbody, hlines]
    | ok body =>
      cases hw : Reqwest.wire (client.requestBuilder body) with
      | error e =>
        rw [call_of_wire_error hpayload hbody hw,
          call_of_wire_error hpayload hbody (h.wire_error hw), hlines]
      | ok request =>
        cases hw' : Reqwest.wire (client'.requestBuilder body) with
        | error e =>
          rw [h.symm.wire_error hw'] at hw
          cases hw
        | ok request' =>
          rw [showCall_of_wire hpayload hbody hw, showCall_of_wire hpayload hbody hw', hlines]

lemma stepRel_call (h : ℕ) (method : M) (reply : Except ReqwestError HttpResponse) :
    Table.StepRel SameShown (Command.call h method reply).step
      (Command.call h method reply).step := by
  refine ⟨.skip, fun {t t'} ht => ?_⟩
  have hslots := ht.2 h
  change (t.get h).toList.flatMap _ = (t'.get h).toList.flatMap _
  revert hslots
  generalize t.get h = slot
  generalize t'.get h = slot'
  rintro (hc | _)
  · simp only [Option.toList, List.flatMap_singleton]
    exact hc.showCall method reply
  · rfl

/-- The step lemma. -/
lemma SameButSecret.stepRel {c c' : Command} (h : SameButSecret c c') :
    Table.StepRel SameShown c.step c'.step := by
  cases h with
  | same c =>
    cases c with
    | op o => exact stepRel_op (actionRel_same o) rfl
    | call h method reply => exact stepRel_call h method reply
  | apiKey h hk hk' =>
    exact stepRel_op (actionRel_apiKey h hk hk') (showMade_eq ApiKey.debug_eq hk hk')
  | bearer h ha ha' =>
    exact stepRel_op (actionRel_bearer h ha ha') (showMade_eq Authorization.debug_eq ha ha')

end Steps

/-- **Noninterference of secrets.** Two sessions whose commands are the same but for the
accepted secrets of their credentials show the same: the `Debug` renderings of every
credential that is made and of every client there is after each operation, the lines that
each call logs, and what each call returns. -/
theorem JsonRpcClient.shows_noninterference [LawfulDebug] [LawfulBuild]
    (commands commands' : List Command) (h : List.Forall₂ SameButSecret commands commands') :
    shows commands = shows commands' := by
  refine (Table.rel_nil SameShown).outputs_eq ?_
  rw [List.forall₂_map_left_iff, List.forall₂_map_right_iff]
  exact h.imp fun _ _ hc => hc.stepRel

end Secrets

section Tokens

open scoped Reference
open Reference

local instance nullReplyJson : SerdeJson := serdeJson [.null]

/-- A client with an API key, whose clone gets a token and asks for the status of the node. -/
def secretSession (key : Bytes) (token : String) : List Command :=
  [.op (.connect .default "http://localhost:3030"), .op (.apiKey 0 key), .op (.clone 0),
    .op (.bearer 1 token), .call 1 (⟨⟩ : RpcStatusRequest) (.ok (reply .OK .null))]

lemma new_of_allowed (key : Bytes) (h : key.all (AllowedByte ·) = true) :
    ∃ k, ApiKey.new key = .ok k := by
  obtain ⟨k, hk, -⟩ := ApiKey.new_of_fromBytes (if_pos h)
  exact ⟨k, hk⟩

lemma bearer_of_allowed (token : String)
    (h : (utf8 "Bearer " ++ utf8 token).all (AllowedByte ·) = true) :
    ∃ a, Authorization.bearer token = .ok a ∧
      a.value = (⟨utf8 "Bearer " ++ utf8 token, true⟩ : HeaderBytes) :=
  Authorization.bearer_of_fromBytes (if_pos h)

/-- Two sessions with different keys and tokens show the same, and send different requests. -/
theorem JsonRpcClient.shows_secretSession :
    shows (secretSession (utf8 "key-1") "token-1")
        = shows (secretSession (utf8 "key-2") "token-2") ∧
      Authorization.bearer "token-1" ≠ Authorization.bearer "token-2" := by
  obtain ⟨k, hk⟩ := new_of_allowed (utf8 "key-1") (by decide)
  obtain ⟨k', hk'⟩ := new_of_allowed (utf8 "key-2") (by decide)
  obtain ⟨a, ha, hv⟩ := bearer_of_allowed "token-1" (by decide)
  obtain ⟨a', ha', hv'⟩ := bearer_of_allowed "token-2" (by decide)
  refine ⟨JsonRpcClient.shows_noninterference _ _ ?_, ?_⟩
  · exact .cons (.same _) (.cons (.apiKey 0 hk hk') (.cons (.same _)
      (.cons (.bearer 1 ha ha') (.cons (.same _) .nil))))
  · intro h
    obtain rfl : a = a' := Except.ok.inj (ha.symm.trans (h.trans ha'))
    have hbytes := congrArg Http.asBytes (hv.symm.trans hv')
    revert hbytes
    decide

end Tokens

end NearJsonrpcClient
