/-
# Sessions

Programs that use the client: they connect client handles, clone them, and set headers on
them.  `JsonRpcClient::header` takes its client by value, so an entry that fails to apply
consumes the handle.  A session is a list of operations, and the handles that it leaves are
the run of its actions on an empty table.
-/
import NearJsonrpcClient.Auth
import NearJsonrpcClient.Lib.Handles

namespace NearJsonrpcClient

open Lib

variable [Reqwest]

/-- The public ways to connect a client. -/
inductive Route where
  | default
  | newClient
  | withClient (client : WebClient)

/-- The connector of a route. -/
def Route.connector : Route → JsonRpcClientConnector
  | .default => JsonRpcClient.defaultConnector
  | .newClient => JsonRpcClient.newClient
  | .withClient client => JsonRpcClient.withClient client

/-! ## Entries -/

/-- A header entry of any type, with its discriminant. -/
inductive Entry : Type 1 where
  | prevalidated {T N : Type} [HeaderEntry Prevalidated T N HeaderValue] [IntoHeaderName N]
      (entry : T)
  | postvalidated {T N V E : Type} [HeaderEntry (Postvalidated E) T N V] [IntoHeaderName N]
      [TryIntoHeaderValue V E] (entry : T)

namespace Entry

/-- The name of the header that an entry sets. -/
def name : Entry → HeaderName
  | @prevalidated _ _ _ _ _ entry =>
      intoHeaderName (HeaderEntry.headerPair Prevalidated entry).1
  | @postvalidated _ _ _ _ E _ _ _ entry =>
      intoHeaderName (HeaderEntry.headerPair (Postvalidated E) entry).1

/-- The value that an entry sets, when it is valid. -/
def value : Entry → Option HeaderValue
  | @prevalidated _ _ _ _ _ entry => some (HeaderEntry.headerPair Prevalidated entry).2
  | @postvalidated _ _ _ _ E _ _ _ entry =>
      (tryInto (HeaderEntry.headerPair (Postvalidated E) entry).2).toOption

/-- The client that `JsonRpcClient::header` returns, when it returns one. -/
def apply (self : JsonRpcClient) : Entry → Option JsonRpcClient
  | @prevalidated _ _ _ _ _ entry => some (self.header Prevalidated entry)
  | @postvalidated _ _ _ _ E _ _ _ entry => (self.header (Postvalidated E) entry).toOption

end Entry

/-- A client with a header set. -/
def JsonRpcClient.setHeader (self : JsonRpcClient) (k : HeaderName) (v : HeaderValue) :
    JsonRpcClient :=
  { self with headers := Http.insert self.headers k v }

@[simp] lemma JsonRpcClient.setHeader_headers (self : JsonRpcClient) (k : HeaderName)
    (v : HeaderValue) : (self.setHeader k v).headers = Http.insert self.headers k v := rfl

lemma header_prevalidated {T N : Type} [HeaderEntry Prevalidated T N HeaderValue]
    [IntoHeaderName N] (self : JsonRpcClient) (entry : T) :
    self.header Prevalidated entry
      = self.setHeader (intoHeaderName (HeaderEntry.headerPair Prevalidated entry).1)
          (HeaderEntry.headerPair Prevalidated entry).2 := rfl

lemma header_postvalidated {T N V E : Type} [HeaderEntry (Postvalidated E) T N V]
    [IntoHeaderName N] [TryIntoHeaderValue V E] (self : JsonRpcClient) (entry : T) :
    self.header (Postvalidated E) entry
      = (tryInto (HeaderEntry.headerPair (Postvalidated E) entry).2).map
          (self.setHeader (intoHeaderName (HeaderEntry.headerPair (Postvalidated E) entry).1)) := by
  change (tryInto (HeaderEntry.headerPair (Postvalidated E) entry).2 >>= _) = _
  cases tryInto (HeaderEntry.headerPair (Postvalidated E) entry).2 <;> rfl

/-- The two discriminants apply entries in one way, once the value is there. -/
lemma Entry.apply_eq (self : JsonRpcClient) (entry : Entry) :
    entry.apply self = entry.value.map (self.setHeader entry.name) := by
  cases entry with
  | prevalidated entry => rfl
  | @postvalidated T N V E _ _ _ entry =>
    rw [Entry.apply, Entry.value, header_postvalidated]
    cases tryInto (HeaderEntry.headerPair (Postvalidated E) entry).2 <;> rfl

/-! ## Operations -/

/-- What a program does with its handles. -/
inductive Op : Type 1 where
  | connect (route : Route) (serverAddr : String)
  | clone (h : ℕ)
  | header (h : ℕ) (entry : Entry)
  /-- `header(ApiKey::new(key)?)`. -/
  | apiKey (h : ℕ) (key : Bytes)
  /-- `header(Authorization::bearer(token)?)`. -/
  | bearer (h : ℕ) (token : String)

/-- The entry that an operation applies, with the handle that it applies it to. -/
def Op.entry : Op → Option (ℕ × Entry)
  | .connect _ _ | .clone _ => none
  | .header h entry => some (h, entry)
  | .apiKey h key => (ApiKey.new key).toOption.map fun k => (h, .prevalidated k)
  | .bearer h token => (Authorization.bearer token).toOption.map fun a => (h, .prevalidated a)

/-- What applying an entry does to the handles. -/
def Entry.action : Option (ℕ × Entry) → Action JsonRpcClient
  | some (h, entry) => .update h fun client => entry.apply client
  | none => .skip

/-- What an operation does to the handles. -/
def Op.action : Op → Action JsonRpcClient
  | .connect route serverAddr => .create (route.connector.connect serverAddr)
  | .clone h => .copy h
  | op => Entry.action op.entry

lemma Op.action_of_entry {op : Op} {h : ℕ} {entry : Entry} (ho : op.entry = some (h, entry)) :
    op.action = .update h fun client => entry.apply client := by
  cases op with
  | connect route serverAddr => cases ho
  | clone h => cases ho
  | _ => exact congrArg Entry.action ho

/-- All that an operation does to the handles. -/
lemma Op.action_cases {motive : Action JsonRpcClient → Prop} (op : Op)
    (connect : ∀ route serverAddr, op = .connect route serverAddr →
      motive (.create (route.connector.connect serverAddr)))
    (clone : ∀ h, op = .clone h → motive (.copy h))
    (apply : ∀ h entry, op.entry = some (h, entry) →
      motive (.update h fun client => entry.apply client))
    (skip : motive .skip) : motive op.action := by
  have hentry : motive (Entry.action op.entry) := by
    rcases he : op.entry with _ | ⟨h, entry⟩
    · exact skip
    · exact apply h entry he
  cases op with
  | connect route serverAddr => exact connect route serverAddr rfl
  | clone h => exact clone h rfl
  | _ => exact hentry

/-- An operation keeps what holds of the clients that it connects and what setting its
header keeps. -/
lemma Op.keeps {P : JsonRpcClient → Prop} (op : Op)
    (hconnect : ∀ route serverAddr, op = .connect route serverAddr →
      P (route.connector.connect serverAddr))
    (hset : ∀ h entry client v, op.entry = some (h, entry) → P client →
      P (client.setHeader entry.name v)) : Table.Keeps P op.action := by
  refine op.action_cases (fun route serverAddr ho => .create (hconnect route serverAddr ho))
    (fun h _ => .copy h) (fun h entry ho => .update h ?_) .skip
  intro client client' hP hc
  rw [Entry.apply_eq] at hc
  obtain ⟨v, -, rfl⟩ := Option.map_eq_some_iff.1 hc
  exact hset h entry client v ho hP

/-- An operation keeps related tables related when setting a header does. -/
lemma Op.actionRel {R : JsonRpcClient → JsonRpcClient → Prop} (op : Op)
    (hrefl : ∀ client, R client client)
    (hset : ∀ client client' k v, R client client' →
      R (client.setHeader k v) (client'.setHeader k v)) :
    Table.ActionRel R op.action op.action := by
  refine op.action_cases (motive := fun a => Table.ActionRel R a a)
    (fun route serverAddr _ => .create (hrefl _)) (fun h _ => .copy h)
    (fun h entry _ => .update h ?_) .skip
  intro client client' hR
  rw [Entry.apply_eq, Entry.apply_eq]
  cases entry.value with
  | none => exact .none
  | some v => exact .some (hset _ _ _ v hR)

/-- The handles that a session leaves. -/
def handles (ops : List Op) : Table JsonRpcClient := Table.run [] (ops.map Op.action)

/-- What every operation of a session keeps holds of every handle. -/
lemma handles_of_keeps {P : JsonRpcClient → Prop} {ops : List Op}
    (h : ∀ op ∈ ops, Table.Keeps P op.action) {i : ℕ} {client : JsonRpcClient}
    (hc : (handles ops).get i = some client) : P client := by
  refine Table.of_run (fun a ha => ?_) hc
  obtain ⟨op, hop, rfl⟩ := List.mem_map.1 ha
  exact h op hop

lemma handles_append (before after : List Op) :
    handles (before ++ after) = (handles before).run (after.map Op.action) := by
  rw [handles, List.map_append, Table.run_append]
  rfl

end NearJsonrpcClient
