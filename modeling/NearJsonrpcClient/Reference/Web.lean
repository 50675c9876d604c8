/-
# A reference implementation of the web crates

Small implementations of the classes `Http` and `Reqwest`, with proofs of the laws that
are stated of them.  A header map is the list of its entries, a web client is the map of
its default headers, and a request on the wire has the headers of the request and the
default headers of the names that the request does not set.
-/
import NearJsonrpcClient.Client
import NearJsonrpcClient.Lib.Utf8

namespace NearJsonrpcClient.Reference

/-! ## Header values -/

/-- The bytes of a header value, and whether they are shown. -/
structure HeaderBytes where
  bytes : Bytes
  sensitive : Bool

def debugValue (v : HeaderBytes) : String :=
  if v.sensitive then "Sensitive" else (Lib.ofAscii v.bytes).quote

/-! ## Header maps -/

abbrev Entries : Type := List (HeaderName × HeaderBytes)

namespace Entries

/-- Replace the values of a name where the first one is. -/
def insert : Entries → HeaderName → HeaderBytes → Entries
  | [], k, v => [(k, v)]
  | e :: m, k, v =>
      if e.1 = k then (k, v) :: m.filter fun e => e.1 ≠ k else e :: insert m k v

/-- The entries of the second list, and those of the first one under other names. -/
def merge (m m' : Entries) : Entries := (m.filter fun e => ∀ e' ∈ m', e'.1 ≠ e.1) ++ m'

def debug (alternate : Bool) (m : Entries) : String :=
  let fields := m.map fun e => e.1.lower.quote ++ ": " ++ debugValue e.2
  if alternate ∧ fields ≠ [] then
    "\x7b\n" ++ String.join (fields.map fun field => Fmt.indent field ++ ",\n") ++ "\x7d"
  else
    "\x7b" ++ ", ".intercalate fields ++ "\x7d"

/-- The values of a name. -/
def values (m : Entries) (k : HeaderName) : List HeaderBytes :=
  (m.filter fun e => e.1 = k).map Prod.snd

lemma values_append (m m' : Entries) (k : HeaderName) :
    values (m ++ m') k = values m k ++ values m' k := by
  simp only [values, List.filter_append, List.map_append]

lemma values_cons (e : HeaderName × HeaderBytes) (m : Entries) (k : HeaderName) :
    values (e :: m) k = if e.1 = k then e.2 :: values m k else values m k := by
  by_cases h : e.1 = k
  · simp [values, h]
  · simp [values, h]

lemma values_eq_nil_iff {m : Entries} {k : HeaderName} :
    values m k = [] ↔ ∀ e ∈ m, e.1 ≠ k := by
  simp only [values, List.map_eq_nil_iff, List.filter_eq_nil_iff, decide_eq_true_eq]

/-- Restricting a map to some of its names. -/
lemma values_filter (m : Entries) (p : HeaderName → Bool) (k : HeaderName) :
    values (m.filter fun e => p e.1) k = if p k then values m k else [] := by
  induction m with
  | nil => simp [values]
  | cons e m ih =>
    rw [List.filter_cons]
    by_cases he : e.1 = k
    · subst he
      cases hp : p e.1
      · simpa [hp] using ih
      · simpa [hp, values_cons] using ih
    · cases hp : p e.1
      · simpa [values_cons, he] using ih
      · simpa [values_cons, he] using ih

lemma values_insert (m : Entries) (k : HeaderName) (v : HeaderBytes) (k' : HeaderName) :
    values (insert m k v) k' = if k' = k then [v] else values m k' := by
  induction m with
  | nil =>
    rw [insert, values_cons]
    simp [values, eq_comm]
  | cons e m ih =>
    rw [insert]
    by_cases he : e.1 = k
    · have hrest := values_filter m (fun k' => decide (k' ≠ k)) k'
      rw [if_pos he, values_cons, hrest, values_cons]
      by_cases hk : k' = k
      · simp [hk]
      · simp [hk, he, Ne.symm hk]
    · rw [if_neg he, values_cons, ih, values_cons]
      by_cases hk : k' = k
      · subst hk
        simp [he]
      · simp [hk]

lemma values_merge (m m' : Entries) (k : HeaderName) :
    values (merge m m') k = if values m' k = [] then values m k else values m' k := by
  have hrest := values_filter m (fun k => decide (∀ e' ∈ m', e'.1 ≠ k)) k
  rw [merge, values_append, hrest]
  by_cases h : values m' k = []
  · have hall : ∀ e' ∈ m', e'.1 ≠ k := values_eq_nil_iff.1 h
    rw [if_pos (decide_eq_true hall), if_pos h, h, List.append_nil]
  · have hall : ¬ ∀ e' ∈ m', e'.1 ≠ k := fun hall => h (values_eq_nil_iff.2 hall)
    simp only [decide_eq_true_eq, if_neg hall, if_neg h, List.nil_append]

end Entries

/-! ## The classes -/

/-- A web client, by its default headers. -/
structure WebClient where
  defaultHeaders : Entries

structure RequestBuilder where
  client : WebClient
  url : String
  headers : Entries
  body : Bytes

section Web

scoped instance instHttp : Http where
  HeaderValue := HeaderBytes
  InvalidHeaderValue := Unit
  ToStrError := Unit
  fromBytes bytes := if bytes.all (AllowedByte ·) then .ok ⟨bytes, false⟩ else .error ()
  fromStatic s := ⟨utf8 s, false⟩
  asBytes v := v.bytes
  toStr v := if v.bytes.all (VisibleByte ·) then .ok (Lib.ofAscii v.bytes) else .error ()
  isSensitive v := v.sensitive
  setSensitive v b := { v with sensitive := b }
  debugValue _ := debugValue
  debugStr := String.quote
  HeaderMap := Entries
  emptyMap := []
  insert := Entries.insert
  entries m := m
  debugMap := Entries.debug

/-- The default headers of every web client. -/
def acceptAll : Entries := [(⟨"accept"⟩, ⟨utf8 "*/*", false⟩)]

scoped instance instReqwest : Reqwest where
  WebClient := WebClient
  buildWithDefaultHeaders m := ⟨Entries.merge acceptAll m⟩
  defaultHeaders := WebClient.defaultHeaders
  debugClient alternate c :=
    Fmt.debugStruct alternate "Client" [("default_headers", c.defaultHeaders.debug alternate)]
  RequestBuilder := RequestBuilder
  post c url := ⟨c, url, [], []⟩
  withHeaders rb m := { rb with headers := rb.headers.merge m }
  withBody rb b := { rb with body := b }
  wire rb :=
    if rb.url = "" then .error ⟨"builder error: relative URL without a base"⟩
    else .ok
      { method := .POST
        url := rb.url
        headers := rb.client.defaultHeaders.merge rb.headers
        body := rb.body }
  builderClient := RequestBuilder.client
  builderHeaders := RequestBuilder.headers

/-- The request that follows a redirect to an address of the same server: statuses 307 and 308
repeat the request, and the others ask for what is at the address. -/
def followed (request : WireRequest) (status : StatusCode) (url : String) : WireRequest :=
  let headers := Entries.insert request.headers ⟨"referer"⟩ ⟨utf8 request.url, false⟩
  if status.code = 307 ∨ status.code = 308 then { request with url := url, headers := headers }
  else
    { method := .GET
      url := url
      headers := headers.filter fun e => e.1 ≠ .contentType
      body := [] }

/-- At most ten redirects are followed, to the addresses in the replies. -/
scoped instance instRedirects : Redirects where
  limit _ := 10
  redirect _ _ request status headers :=
    match Entries.values headers ⟨"location"⟩ with
    | [] => .ok none
    | v :: _ =>
        if status.IsRedirect then .ok (some (followed request status (Lib.ofAscii v.bytes)))
        else .ok none
  tooManyRedirects url := ⟨"error following redirect for url (" ++ url ++ "): too many redirects"⟩

/-! ## The laws -/

scoped instance instLawfulHeaderMap : LawfulHeaderMap where
  entries_emptyMap := rfl
  getAll_insert := Entries.values_insert

lemma fromBytes_eq (bytes : Bytes) : Http.fromBytes bytes =
    if bytes.all (AllowedByte ·) then (.ok ⟨bytes, false⟩ : Except Unit HeaderBytes)
    else .error () :=
  rfl

lemma toStr_eq (v : HeaderBytes) : Http.toStr (v : HeaderValue) =
    if v.bytes.all (VisibleByte ·) then (.ok (Lib.ofAscii v.bytes) : Except Unit String)
    else .error () :=
  rfl

lemma all_allowedByte_iff {bytes : Bytes} :
    bytes.all (AllowedByte ·) = true ↔ ∀ b ∈ bytes, AllowedByte b := by
  simp only [List.all_eq_true, decide_eq_true_eq]

lemma all_visibleByte_iff {bytes : Bytes} :
    bytes.all (VisibleByte ·) = true ↔ ∀ b ∈ bytes, VisibleByte b := by
  simp only [List.all_eq_true, decide_eq_true_eq]

/-- A visible byte is ASCII. -/
lemma lt_of_visibleByte {b : UInt8} (h : VisibleByte b) : b < 128 := by
  rcases h with rfl | ⟨-, hlt⟩
  · decide
  · exact UInt8.lt_trans hlt (by decide)

scoped instance instLawfulHeaderValue : LawfulHeaderValue where
  exists_fromBytes_iff bytes := by
    rw [fromBytes_eq, ← all_allowedByte_iff]
    by_cases h : bytes.all (AllowedByte ·) = true
    · rw [if_pos h]
      exact iff_of_true ⟨_, rfl⟩ h
    · rw [if_neg h]
      exact iff_of_false (fun ⟨_, hv⟩ => by cases hv) h
  asBytes_fromBytes bytes v hv := by
    rw [fromBytes_eq] at hv
    split at hv
    · cases hv
      rfl
    · cases hv
  asBytes_setSensitive _ _ := rfl
  toStr_eq_ok_iff v s := by
    change Http.toStr (v : HeaderValue) = _ ↔ (∀ b ∈ HeaderBytes.bytes v, VisibleByte b) ∧ _
    rw [toStr_eq, ← all_visibleByte_iff]
    by_cases h : (HeaderBytes.bytes v).all (VisibleByte ·) = true
    · have htext : utf8 (Lib.ofAscii (HeaderBytes.bytes v)) = HeaderBytes.bytes v :=
        Lib.utf8_ofAscii fun b hb => lt_of_visibleByte (all_visibleByte_iff.1 h b hb)
      rw [if_pos h]
      constructor
      · intro hs
        cases hs
        exact ⟨h, htext⟩
      · rintro ⟨-, hs⟩
        exact congrArg Except.ok (Lib.utf8_injective (htext.trans hs.symm))
    · rw [if_neg h]
      exact iff_of_false (fun hs => by cases hs) fun hs => h hs.1

/-- Inserting looks at the names of the entries only. -/
lemma entriesRel_insert (P : HeaderBytes → HeaderBytes → Prop) {m m' : Entries} (k : HeaderName)
    {v v' : HeaderBytes} (h : EntriesRel P m m') (hv : P v v') :
    EntriesRel P (Entries.insert m k v) (Entries.insert m' k v') := by
  induction h with
  | nil => exact .cons ⟨rfl, hv⟩ .nil
  | @cons e e' m m' he hm ih =>
    rw [Entries.insert, Entries.insert, he.1]
    split
    · refine .cons ⟨rfl, hv⟩ (List.rel_filter ?_ hm)
      rintro ⟨n, w⟩ ⟨n', w'⟩ ⟨rfl, -⟩
      rfl
    · exact .cons he ih

lemma debug_congr (alternate : Bool) {m m' : Entries}
    (h : EntriesRel (fun v v' : HeaderBytes => debugValue v = debugValue v') m m') :
    m.debug alternate = m'.debug alternate := by
  have hfields : m.map (fun e => e.1.lower.quote ++ ": " ++ debugValue e.2)
      = m'.map fun e => e.1.lower.quote ++ ": " ++ debugValue e.2 := by
    induction h with
    | nil => rfl
    | cons he _ ih => rw [List.map_cons, List.map_cons, he.1, he.2, ih]
  rw [Entries.debug, Entries.debug, hfields]

scoped instance instLawfulDebug : LawfulDebug where
  isSensitive_setSensitive _ _ := rfl
  debugValue_of_isSensitive _ v w hv hw := by
    have h : ∀ v : HeaderBytes, v.sensitive = true → debugValue v = "Sensitive" :=
      fun v hv => if_pos hv
    exact (h v hv).trans (h w hw).symm
  insert_rel P _ _ k _ _ h hv := entriesRel_insert P k h hv
  debugMap_congr alternate _ _ h := debug_congr alternate h

lemma wire_ok {rb : RequestBuilder} {request : WireRequest}
    (h : Reqwest.wire (rb : Reqwest.RequestBuilder) = .ok request) :
    request.headers = rb.client.defaultHeaders.merge rb.headers := by
  change (if rb.url = "" then _ else _) = _ at h
  split at h
  · cases h
  · cases h
    rfl

scoped instance instLawfulReqwest : LawfulReqwest where
  asBytes_fromStatic _ := rfl
  defaultHeaders_build m k v hm := by
    have hne : Entries.values m k ≠ [] := by
      rw [show Entries.values m k = [v] from hm]
      exact List.cons_ne_nil v []
    exact ((Entries.values_merge acceptAll m k).trans (if_neg hne)).trans hm
  builderClient_post _ _ := rfl
  contentType_post _ _ := rfl
  builderClient_withHeaders _ _ := rfl
  builderHeaders_withHeaders rb m k := Entries.values_merge rb.headers m k
  builderClient_withBody _ _ := rfl
  builderHeaders_withBody _ _ _ := rfl
  wire_headers rb request k h hk := by
    rw [wire_ok h]
    exact (Entries.values_merge _ _ k).trans (if_neg hk)
  wire_default rb request k h hk _ := by
    rw [wire_ok h]
    exact (Entries.values_merge _ _ k).trans (if_pos hk)
  wire_contentType rb request h hk hd := by
    rw [wire_ok h]
    exact ((Entries.values_merge _ _ _).trans (if_pos hk)).trans hd

scoped instance instLawfulBuild : LawfulBuild where
  wire_error client url _ _ body e _ h := by
    change (if url = "" then _ else _) = _ at h ⊢
    by_cases hurl : url = ""
    · rw [if_pos hurl] at h ⊢
      exact h
    · rw [if_neg hurl] at h
      cases h

scoped instance instLawfulBody : LawfulBody where
  wire_body rb body request h := by
    change (if rb.url = "" then _ else _) = _ at h
    split at h
    · cases h
    · cases h
      rfl

/-- Whether a reply is followed, and where to, does not depend on the request. -/
lemma redirect_cases (client : WebClient) (previous : List String) (status : StatusCode)
    (headers : Entries) :
    (∀ request, Redirects.redirect (client : Reqwest.WebClient) previous request status headers
      = .ok none) ∨
    status.IsRedirect ∧ ∃ url, ∀ request, Redirects.redirect (client : Reqwest.WebClient)
      previous request status headers = .ok (some (followed request status url)) := by
  have heq : ∀ request, Redirects.redirect (client : Reqwest.WebClient) previous request status
      headers = match Entries.values headers ⟨"location"⟩ with
        | [] => .ok none
        | v :: _ =>
            if status.IsRedirect then .ok (some (followed request status (Lib.ofAscii v.bytes)))
            else .ok none := fun _ => rfl
  simp only [heq]
  cases Entries.values headers ⟨"location"⟩ with
  | nil => exact .inl fun _ => rfl
  | cons v vs =>
    by_cases h : status.IsRedirect
    · exact .inr ⟨h, _, fun _ => if_pos h⟩
    · exact .inl fun _ => if_neg h

lemma followed_url (request : WireRequest) (status : StatusCode) (url : String) :
    (followed request status url).url = url := by
  unfold followed
  split <;> rfl

scoped instance instLawfulRedirects : LawfulRedirects where
  isRedirect client previous request status headers h := by
    rcases redirect_cases client previous status headers with hnone | ⟨hs, -⟩
    · exact absurd (hnone request) h
    · exact hs
  redirect_congr client previous request request' status headers _ := by
    rcases redirect_cases client previous status headers with hnone | ⟨-, url, hsome⟩
    · rw [hnone, hnone]
    · rw [hsome, hsome, Except.map, Except.map, Option.map_some, Option.map_some, followed_url,
        followed_url]
  redirect_post client previous request next status headers h hpost := by
    rcases redirect_cases client previous status headers with hnone | ⟨-, url, hsome⟩
    · rw [hnone] at h
      cases h
    · rw [hsome] at h
      cases h
      by_cases hs : status.code = 307 ∨ status.code = 308
      · rw [followed, if_pos hs] at hpost ⊢
        exact ⟨hpost, rfl⟩
      · rw [followed, if_neg hs] at hpost
        cases hpost
  wire_url client url _ _ _ _ request request' h h' := by
    change (if url = "" then _ else _) = _ at h h'
    split at h
    · cases h
    · next hurl =>
      rw [if_neg hurl] at h'
      cases h
      cases h'
      rfl

end Web

end NearJsonrpcClient.Reference
