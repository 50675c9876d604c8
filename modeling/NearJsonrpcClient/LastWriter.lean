/-
# The last writer of a header

Over a whole session, the header map of a client is a map in which the last writer wins.
The history of a handle is the list of the headers that were set on it and, before it was
cloned, on the handles that it descends from; the header map of a handle holds, under each
name, the value of the last write in its history.
-/
import NearJsonrpcClient.Lib.LastWrite
import NearJsonrpcClient.Reference.Web
import NearJsonrpcClient.Session

namespace NearJsonrpcClient

open Lib

section LastWriter

variable [Reqwest]

/-! ## Histories -/

/-- The headers set on a handle, oldest first. -/
abbrev History : Type := List (HeaderName × HeaderValue)

/-- An entry that applies adds a write to the history; one that does not ends it. -/
def Entry.record : Option (ℕ × Entry) → Action History
  | some (h, entry) =>
      .update h fun writes => entry.value.map fun v => writes ++ [(entry.name, v)]
  | none => .skip

/-- What an operation does to the histories. -/
def Op.record : Op → Action History
  | .connect _ _ => .create []
  | .clone h => .copy h
  | op => Entry.record op.entry

/-- The histories that a session leaves. -/
def histories (ops : List Op) : Table History := Table.run [] (ops.map Op.record)

/-! ## The header maps refine the histories -/

/-- Under each name, a client has the value of the last write and no other. -/
def Refines (client : JsonRpcClient) (writes : History) : Prop :=
  ∀ k, client.headers.getAll k = (lastWrite writes k).toList

variable [LawfulHeaderMap]

lemma getAll_emptyMap (k : HeaderName) : (Http.emptyMap : HeaderMap).getAll k = [] := by
  rw [Http.HeaderMap.getAll, LawfulHeaderMap.entries_emptyMap]
  rfl

lemma refines_connect (connector : JsonRpcClientConnector) (serverAddr : String) :
    Refines (connector.connect serverAddr) [] := fun k => getAll_emptyMap k

lemma Refines.setHeader {client : JsonRpcClient} {writes : History} (h : Refines client writes)
    (k : HeaderName) (v : HeaderValue) :
    Refines (client.setHeader k v) (writes ++ [(k, v)]) := by
  intro k'
  rw [JsonRpcClient.setHeader_headers, LawfulHeaderMap.getAll_insert, lastWrite_append_singleton]
  split
  · rfl
  · exact h k'

lemma Refines.apply {client : JsonRpcClient} {writes : History} (h : Refines client writes)
    (entry : Entry) :
    Option.Rel Refines (entry.apply client)
      (entry.value.map fun v => writes ++ [(entry.name, v)]) := by
  rw [Entry.apply_eq]
  cases entry.value with
  | none => exact .none
  | some v => exact .some (h.setHeader entry.name v)

lemma actionRel_entry (e : Option (ℕ × Entry)) :
    Table.ActionRel Refines (Entry.action e) (Entry.record e) := by
  cases e with
  | none => exact .skip
  | some e => exact .update e.1 fun _ _ h => h.apply e.2

/-- The step lemma: each operation keeps the header maps in step with the histories. -/
lemma actionRel_record (op : Op) : Table.ActionRel Refines op.action op.record := by
  have hentry := actionRel_entry op.entry
  cases op with
  | connect route serverAddr => exact .create (refines_connect _ _)
  | clone h => exact .copy h
  | _ => exact hentry

omit [Reqwest] [LawfulHeaderMap] in
/-- Two images of one list are related when those of each of its elements are. -/
lemma forall₂_map_map {A B C : Type*} {r : B → C → Prop} {f : A → B} {g : A → C}
    (h : ∀ a, r (f a) (g a)) (l : List A) : List.Forall₂ r (l.map f) (l.map g) := by
  rw [List.forall₂_map_left_iff, List.forall₂_map_right_iff, List.forall₂_same]
  exact fun a _ => h a

lemma rel_histories (ops : List Op) : Table.Rel Refines (handles ops) (histories ops) :=
  (Table.rel_nil Refines).run (forall₂_map_map actionRel_record ops)

/-! ## Operations on different names commute -/

/-- Two clients of one server and web client, with the same headers on every lookup. -/
def SameHeaders (client client' : JsonRpcClient) : Prop :=
  client.inner = client'.inner ∧ ∀ k, client.headers.getAll k = client'.headers.getAll k

omit [LawfulHeaderMap] in
lemma SameHeaders.refl (client : JsonRpcClient) : SameHeaders client client :=
  ⟨rfl, fun _ => rfl⟩

lemma SameHeaders.setHeader {client client' : JsonRpcClient} (h : SameHeaders client client')
    (k : HeaderName) (v : HeaderValue) :
    SameHeaders (client.setHeader k v) (client'.setHeader k v) := by
  refine ⟨h.1, fun k' => ?_⟩
  rw [JsonRpcClient.setHeader_headers, JsonRpcClient.setHeader_headers,
    LawfulHeaderMap.getAll_insert, LawfulHeaderMap.getAll_insert, h.2]

lemma actionRel_sameHeaders (op : Op) : Table.ActionRel SameHeaders op.action op.action :=
  op.actionRel SameHeaders.refl fun _ _ k v h => h.setHeader k v

lemma setHeader_comm (client : JsonRpcClient) {k k' : HeaderName} (hne : k ≠ k')
    (v v' : HeaderValue) :
    SameHeaders ((client.setHeader k v).setHeader k' v') ((client.setHeader k' v').setHeader k v) := by
  refine ⟨rfl, fun i => ?_⟩
  simp only [JsonRpcClient.setHeader_headers, LawfulHeaderMap.getAll_insert]
  by_cases hi : i = k'
  · subst hi
    simp [Ne.symm hne]
  · simp [hi]

lemma apply_comm (client : JsonRpcClient) {e e' : Entry} (hne : e.name ≠ e'.name) :
    Option.Rel SameHeaders ((e.apply client).bind fun client => e'.apply client)
      ((e'.apply client).bind fun client => e.apply client) := by
  simp only [Entry.apply_eq]
  cases e.value with
  | none => cases e'.value <;> exact .none
  | some v =>
    cases e'.value with
    | none => exact .none
    | some v' => exact .some (setHeader_comm client hne v v')

/-- Two neighbouring operations on different names may be swapped in a session. -/
lemma handles_swap (before after : List Op) {o o' : Op} {h h' : ℕ} {e e' : Entry}
    (ho : o.entry = some (h, e)) (ho' : o'.entry = some (h', e'))
    (hne : h = h' → e.name ≠ e'.name) :
    Table.Rel SameHeaders (handles (before ++ o :: o' :: after))
      (handles (before ++ o' :: o :: after)) := by
  have hafter : List.Forall₂ (Table.ActionRel SameHeaders) (after.map Op.action)
      (after.map Op.action) := forall₂_map_map actionRel_sameHeaders after
  simp only [handles_append, List.map_cons, Table.run_cons, Op.action_of_entry ho,
    Op.action_of_entry ho']
  -- after the two updates the tables are related, and the rest of the session keeps this
  exact (Table.rel_update_comm SameHeaders.refl _ fun heq client =>
    apply_comm client (hne heq)).run hafter

/-! ## The web client of a handle -/

/-- The server address and the web client of a client. -/
def SameInner (client client' : JsonRpcClient) : Prop := client'.inner = client.inner

omit [LawfulHeaderMap] in
/-- Applying an entry changes the headers only. -/
lemma apply_inner {client client' : JsonRpcClient} {entry : Entry}
    (h : entry.apply client = some client') : SameInner client client' := by
  rw [Entry.apply_eq] at h
  obtain ⟨v, -, rfl⟩ := Option.map_eq_some_iff.1 h
  rfl

omit [LawfulHeaderMap] in
lemma within_inner (op : Op) : Table.Within SameInner op.action := by
  refine op.action_cases (fun _ _ _ => ?_) (fun _ _ => ?_) (fun i entry _ => ?_) ?_
  · intro h f ha
    cases ha
  · intro h f ha
    cases ha
  · rintro h f ⟨⟩ client client' hf
    exact apply_inner hf
  · intro h f ha
    cases ha

omit [LawfulHeaderMap] in
/-- No operation changes the server address or the web client of a handle. -/
lemma handles_inner (before after : List Op) {h : ℕ} {client client' : JsonRpcClient}
    (hc : (handles before).get h = some client)
    (hc' : (handles (before ++ after)).get h = some client') : client'.inner = client.inner := by
  have hrefl : ∀ x : JsonRpcClient, SameInner x x := fun _ => rfl
  have htrans : ∀ x y z : JsonRpcClient, SameInner x y → SameInner y z → SameInner x z :=
    fun _ _ _ hxy hyz => hyz.trans hxy
  have hwithin : ∀ a ∈ after.map Op.action, Table.Within SameInner a := by
    intro a ha
    obtain ⟨op, -, rfl⟩ := List.mem_map.1 ha
    exact within_inner op
  rw [handles_append] at hc'
  exact Table.get_run hrefl htrans hwithin hc hc'

omit [LawfulHeaderMap] in
/-- A header operation leaves the other handles as they are. -/
lemma handles_of_ne (ops : List Op) {op : Op} {h h' : ℕ} {entry : Entry}
    (ho : op.entry = some (h, entry)) (hne : h ≠ h') :
    (handles (ops ++ [op])).get h' = (handles ops).get h' := by
  rw [handles_append, List.map_singleton, Table.run_cons, Table.run_nil, Op.action_of_entry ho]
  exact Table.get_act_update_of_ne _ _ hne

/-! ## The theorem -/

omit [LawfulHeaderMap] in
/-- The headers of a client whose handle has a history. -/
lemma Refines.getAll_iff {client : JsonRpcClient} {writes : History} (h : Refines client writes)
    (k : HeaderName) :
    (client.headers.getAll k = [] ↔ ∀ w ∈ writes, w.1 ≠ k) ∧
      ∀ v, client.headers.getAll k = [v] ↔
        ∃ before after, writes = before ++ (k, v) :: after ∧ ∀ w ∈ after, w.1 ≠ k := by
  rw [h k, ← lastWrite_eq_none_iff]
  simp only [← lastWrite_eq_some_iff]
  cases lastWrite writes k with
  | none => simp
  | some v => simp

omit [LawfulHeaderMap] in
lemma header_eq_error_iff {T N V E : Type} [HeaderEntry (Postvalidated E) T N V]
    [IntoHeaderName N] [TryIntoHeaderValue V E] (client : JsonRpcClient) (entry : T) (e : E) :
    client.header (Postvalidated E) entry = .error e ↔
      tryInto (HeaderEntry.headerPair (Postvalidated E) entry).2 = .error e := by
  rw [header_postvalidated]
  cases tryInto (HeaderEntry.headerPair (Postvalidated E) entry).2 with
  | error e' => simp [Except.map]
  | ok v => simp [Except.map]

omit [LawfulHeaderMap] in
lemma header_of_tryInto {T N V E : Type} [HeaderEntry (Postvalidated E) T N V]
    [IntoHeaderName N] [TryIntoHeaderValue V E] (client : JsonRpcClient) (entry : T)
    {v : HeaderValue}
    (hv : tryInto (HeaderEntry.headerPair (Postvalidated E) entry).2 = .ok v) :
    client.header (Postvalidated E) entry
      = .ok (client.header Prevalidated
          ((HeaderEntry.headerPair (Postvalidated E) entry).1, v)) := by
  rw [header_postvalidated, hv, header_prevalidated]
  rfl

/-- **The last writer of a header.** After a session, the surviving handles are those with
a history; the headers of each hold, under each name that was set in its history, exactly
the value that was set last, and nothing under any other name.  A postvalidated entry fails
exactly when its value does, and is otherwise applied as the prevalidated entry of the
converted value; either way the other handles are as before.  Operations on different names
may be swapped, and no operation changes the server address or the web client of a handle. -/
theorem JsonRpcClient.header_lastWriter :
    (∀ (ops : List Op) (h : ℕ), (handles ops).get h = none ↔ (histories ops).get h = none) ∧
    (∀ (ops : List Op) (h : ℕ) (client : JsonRpcClient) (writes : History),
      (handles ops).get h = some client → (histories ops).get h = some writes →
      ∀ k, client.headers.getAll k = (lastWrite writes k).toList ∧
        (client.headers.getAll k = [] ↔ ∀ w ∈ writes, w.1 ≠ k) ∧
        ∀ v, client.headers.getAll k = [v] ↔
          ∃ before after, writes = before ++ (k, v) :: after ∧ ∀ w ∈ after, w.1 ≠ k) ∧
    (∀ {T N V E : Type} [HeaderEntry (Postvalidated E) T N V] [IntoHeaderName N]
      [TryIntoHeaderValue V E] (client : JsonRpcClient) (entry : T),
      (∀ e, client.header (Postvalidated E) entry = .error e ↔
        tryInto (HeaderEntry.headerPair (Postvalidated E) entry).2 = .error e) ∧
      ∀ v, tryInto (HeaderEntry.headerPair (Postvalidated E) entry).2 = .ok v →
        client.header (Postvalidated E) entry
          = .ok (client.header Prevalidated
              ((HeaderEntry.headerPair (Postvalidated E) entry).1, v))) ∧
    (∀ (ops : List Op) (op : Op) (h h' : ℕ) (entry : Entry), op.entry = some (h, entry) →
      h ≠ h' → (handles (ops ++ [op])).get h' = (handles ops).get h') ∧
    (∀ (before after : List Op) (o o' : Op) (h h' : ℕ) (e e' : Entry),
      o.entry = some (h, e) → o'.entry = some (h', e') → e.name ≠ e'.name →
      Table.Rel SameHeaders (handles (before ++ o :: o' :: after))
        (handles (before ++ o' :: o :: after))) ∧
    ∀ (before after : List Op) (h : ℕ) (client client' : JsonRpcClient),
      (handles before).get h = some client → (handles (before ++ after)).get h = some client' →
      client'.inner = client.inner := by
  refine ⟨?_, ?_, ?_, ?_, ?_, ?_⟩
  · intro ops h
    exact (rel_histories ops).get_eq_none_iff
  · intro ops h client writes hc hw k
    obtain ⟨writes', hw', hr⟩ := (rel_histories ops).get_some hc
    obtain rfl := Option.some_inj.1 (hw.symm.trans hw')
    exact ⟨hr k, hr.getAll_iff k⟩
  · intro T N V E _ _ _ client entry
    exact ⟨header_eq_error_iff client entry, fun v => header_of_tryInto client entry⟩
  · intro ops op h h' entry ho hne
    exact handles_of_ne ops ho hne
  · intro before after o o' h h' e e' ho ho' hne
    exact handles_swap before after ho ho' fun _ => hne
  · intro before after h client client' hc hc'
    exact handles_inner before after hc hc'

end LastWriter

section Clones

open scoped Reference
open Reference

/-- A sensitive header value. -/
def token (s : String) : HeaderValue := (⟨utf8 s, true⟩ : HeaderBytes)

/-- A token is set on a client and, after the client was cloned, replaced on the clone. -/
def replacedToken : List Op :=
  [.connect .default "http://localhost:3030",
    .header 0 (.prevalidated ("Authorization", token "Bearer a")),
    .clone 0,
    .header 1 (.prevalidated ("authorization", token "Bearer b"))]

/-- The handle that was cloned keeps its token, and the clone has the other one. -/
theorem JsonRpcClient.header_replacedToken :
    ((handles replacedToken).get 0).map (fun c => c.headers.getAll (.ofStr "AUTHORIZATION"))
        = some [token "Bearer a"] ∧
      ((handles replacedToken).get 1).map (fun c => c.headers.getAll (.ofStr "AUTHORIZATION"))
        = some [token "Bearer b"] := by
  have hlast := JsonRpcClient.header_lastWriter.2.1 replacedToken
  obtain ⟨c₀, h₀⟩ : ∃ c, (handles replacedToken).get 0 = some c := ⟨_, rfl⟩
  obtain ⟨c₁, h₁⟩ : ∃ c, (handles replacedToken).get 1 = some c := ⟨_, rfl⟩
  rw [h₀, h₁, Option.map_some, Option.map_some,
    (hlast 0 c₀ [(.ofStr "Authorization", token "Bearer a")] h₀ rfl _).1,
    (hlast 1 c₁ [(.ofStr "Authorization", token "Bearer a"),
      (.ofStr "authorization", token "Bearer b")] h₁ rfl _).1]
  exact ⟨rfl, rfl⟩

end Clones

end NearJsonrpcClient
