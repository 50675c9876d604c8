/-
# The `http` and `reqwest` crates

Header names, header values, header maps, status codes, web clients and request builders,
as far as the client uses them.  Apart from header names, which are compared without
regard to case, and status codes, they are parameters.  What the client relies on is
stated as laws, each of them a documented property of the crate.
-/
import NearJsonrpcClient.Serde
import Mathlib.Data.List.Forall2

namespace NearJsonrpcClient

/-- A header name: the lower case form of the text that it was made from. -/
structure HeaderName where
  lower : String
deriving DecidableEq

namespace HeaderName

/-- The header name of a string; names that differ in case only are equal. -/
def ofStr (s : String) : HeaderName := ⟨String.ofList (s.toList.map Char.toLower)⟩

/-- `reqwest::header::CONTENT_TYPE`. -/
def contentType : HeaderName := ⟨"content-type"⟩

end HeaderName

/-- An HTTP status code. -/
structure StatusCode where
  code : ℕ
  range : 100 ≤ code ∧ code < 1000
deriving DecidableEq

namespace StatusCode

def OK : StatusCode := ⟨200, by decide⟩
def BAD_REQUEST : StatusCode := ⟨400, by decide⟩
def UNAUTHORIZED : StatusCode := ⟨401, by decide⟩
def REQUEST_TIMEOUT : StatusCode := ⟨408, by decide⟩
def TOO_MANY_REQUESTS : StatusCode := ⟨429, by decide⟩
def INTERNAL_SERVER_ERROR : StatusCode := ⟨500, by decide⟩
def SERVICE_UNAVAILABLE : StatusCode := ⟨503, by decide⟩

/-- The statuses of the replies that a web client may follow. -/
def IsRedirect (status : StatusCode) : Prop := status.code ∈ [301, 302, 303, 307, 308]

instance : DecidablePred IsRedirect := fun status =>
  inferInstanceAs (Decidable (status.code ∈ [301, 302, 303, 307, 308]))

end StatusCode

/-- The HTTP methods of the requests of the client, and of those that follow redirects. -/
inductive HttpMethod where
  | GET | POST
deriving DecidableEq

/-- `reqwest::Error`, known by its text. -/
structure ReqwestError where
  display : String

/-- Header values and header maps. -/
class Http where
  HeaderValue : Type
  InvalidHeaderValue : Type
  ToStrError : Type
  fromBytes : Bytes → Except InvalidHeaderValue HeaderValue
  fromStatic : String → HeaderValue
  asBytes : HeaderValue → Bytes
  toStr : HeaderValue → Except ToStrError String
  isSensitive : HeaderValue → Bool
  setSensitive : HeaderValue → Bool → HeaderValue
  /-- `Debug` of a header value; the flag is the one of `{:#?}`. -/
  debugValue : Bool → HeaderValue → String
  /-- `Debug` of a string. -/
  debugStr : String → String
  HeaderMap : Type
  /-- `HeaderMap::new`. -/
  emptyMap : HeaderMap
  insert : HeaderMap → HeaderName → HeaderValue → HeaderMap
  /-- `HeaderMap::iter`: every value with its name, in the order of the map. -/
  entries : HeaderMap → List (HeaderName × HeaderValue)
  /-- `Debug` of a header map. -/
  debugMap : Bool → HeaderMap → String

export Http (HeaderValue InvalidHeaderValue HeaderMap)

section Requests

variable [Http]

/-- The values of a name, `HeaderMap::get_all`. -/
def Http.HeaderMap.getAll (m : HeaderMap) (name : HeaderName) : List HeaderValue :=
  ((Http.entries m).filter fun e => e.1 = name).map Prod.snd

/-- A request as it is put on the wire. -/
structure WireRequest where
  method : HttpMethod
  url : String
  headers : HeaderMap
  body : Bytes

/-- A reply: its head, and the outcome of reading its body. -/
structure HttpResponse where
  status : StatusCode
  headers : HeaderMap
  bytes : Except ReqwestError Bytes

/-- The other side of the connection. -/
abbrev Server := WireRequest → Except ReqwestError HttpResponse

end Requests

/-- Web clients and request builders. -/
class Reqwest extends Http where
  /-- `reqwest::Client`. -/
  WebClient : Type
  /-- `Client::builder().default_headers(headers).build().unwrap()`. -/
  buildWithDefaultHeaders : HeaderMap → WebClient
  /-- The default headers that a web client was built with. -/
  defaultHeaders : WebClient → HeaderMap
  /-- `Debug` of a web client. -/
  debugClient : Bool → WebClient → String
  RequestBuilder : Type
  /-- `Client::post`. -/
  post : WebClient → String → RequestBuilder
  /-- `RequestBuilder::headers`. -/
  withHeaders : RequestBuilder → HeaderMap → RequestBuilder
  /-- `RequestBuilder::body`. -/
  withBody : RequestBuilder → Bytes → RequestBuilder
  /-- The first half of `RequestBuilder::send`: build the request and complete it with the
  default headers of the web client. -/
  wire : RequestBuilder → Except ReqwestError WireRequest
  /-- The web client that a request is built for. -/
  builderClient : RequestBuilder → WebClient
  /-- The headers that were set on a request. -/
  builderHeaders : RequestBuilder → HeaderMap

export Reqwest (WebClient)

/-- The policies of web clients for redirects, `redirect::Policy`. -/
class Redirects [Reqwest] where
  /-- How many redirects a web client follows for one request of its caller. -/
  limit : WebClient → ℕ
  /-- What a web client does with a reply to a request that it has sent after requests to the
  given addresses: it returns the reply, follows it with another request, or fails. -/
  redirect : WebClient → List String → WireRequest → StatusCode → HeaderMap →
    Except ReqwestError (Option WireRequest)
  /-- The error of a web client that would have to follow another redirect, to an address. -/
  tooManyRedirects : String → ReqwestError

/-! ## Laws -/

/-- A new map is empty, and inserting replaces all the values of a name. -/
class LawfulHeaderMap [Http] : Prop where
  entries_emptyMap : Http.entries Http.emptyMap = []
  getAll_insert : ∀ (m : HeaderMap) (k : HeaderName) (v : HeaderValue) (k' : HeaderName),
    (Http.insert m k v).getAll k' = if k' = k then [v] else m.getAll k'

/-- Two lists of entries that have the same names, and values related by `P`. -/
def EntriesRel [Http] (P : HeaderValue → HeaderValue → Prop) :
    List (HeaderName × HeaderValue) → List (HeaderName × HeaderValue) → Prop :=
  List.Forall₂ fun e e' => e.1 = e'.1 ∧ P e.2 e'.2

/-- The `Debug` of a sensitive value is a fixed text; a header map is generic in its values,
and its `Debug` shows them by theirs. -/
class LawfulDebug [Http] : Prop where
  isSensitive_setSensitive : ∀ v b, Http.isSensitive (Http.setSensitive v b) = b
  debugValue_of_isSensitive : ∀ alternate v w, Http.isSensitive v = true →
    Http.isSensitive w = true → Http.debugValue alternate v = Http.debugValue alternate w
  insert_rel : ∀ (P : HeaderValue → HeaderValue → Prop) (m m' : HeaderMap) (k : HeaderName)
    (v v' : HeaderValue), EntriesRel P (Http.entries m) (Http.entries m') → P v v' →
    EntriesRel P (Http.entries (Http.insert m k v)) (Http.entries (Http.insert m' k v'))
  debugMap_congr : ∀ (alternate : Bool) (m m' : HeaderMap),
    EntriesRel (fun v v' => Http.debugValue alternate v = Http.debugValue alternate v')
      (Http.entries m) (Http.entries m') →
    Http.debugMap alternate m = Http.debugMap alternate m'

/-- The bytes that a header value may have: a tab, and those that are not control bytes. -/
def AllowedByte (b : UInt8) : Prop := b = 9 ∨ (32 ≤ b ∧ b ≠ 127)

instance : DecidablePred AllowedByte := fun b =>
  inferInstanceAs (Decidable (b = 9 ∨ (32 ≤ b ∧ b ≠ 127)))

lemma forall_allowedByte {bytes : Bytes} (h : bytes.all (AllowedByte ·) = true) :
    ∀ b ∈ bytes, AllowedByte b := by
  intro b hb
  exact of_decide_eq_true (List.all_eq_true.1 h b hb)

/-- The bytes that `to_str` shows. -/
def VisibleByte (b : UInt8) : Prop := b = 9 ∨ (32 ≤ b ∧ b < 127)

instance : DecidablePred VisibleByte := fun b =>
  inferInstanceAs (Decidable (b = 9 ∨ (32 ≤ b ∧ b < 127)))

/-- A header value holds the bytes that it was made from, and it can be made from the bytes
that are allowed. -/
class LawfulHeaderValue [Http] : Prop where
  exists_fromBytes_iff : ∀ bytes,
    (∃ v, Http.fromBytes bytes = .ok v) ↔ ∀ b ∈ bytes, AllowedByte b
  asBytes_fromBytes : ∀ bytes v, Http.fromBytes bytes = .ok v → Http.asBytes v = bytes
  asBytes_setSensitive : ∀ v b, Http.asBytes (Http.setSensitive v b) = Http.asBytes v
  /-- `to_str` succeeds when all the bytes are visible ASCII. -/
  toStr_eq_ok_iff : ∀ v s, Http.toStr v = .ok s ↔
    (∀ b ∈ Http.asBytes v, VisibleByte b) ∧ utf8 s = Http.asBytes v

/-- How the headers of a request come about. -/
class LawfulReqwest [Reqwest] : Prop where
  asBytes_fromStatic : ∀ s, Http.asBytes (Http.fromStatic s) = utf8 s
  /-- A web client has the default headers that it was built with. -/
  defaultHeaders_build : ∀ (m : HeaderMap) (k : HeaderName) (v : HeaderValue), m.getAll k = [v] →
    (Reqwest.defaultHeaders (Reqwest.buildWithDefaultHeaders m)).getAll k = [v]
  builderClient_post : ∀ c url, Reqwest.builderClient (Reqwest.post c url) = c
  /-- A new request has no content type; an address may give it other headers. -/
  contentType_post : ∀ c url,
    (Reqwest.builderHeaders (Reqwest.post c url)).getAll .contentType = []
  builderClient_withHeaders : ∀ rb m,
    Reqwest.builderClient (Reqwest.withHeaders rb m) = Reqwest.builderClient rb
  /-- `RequestBuilder::headers` merges a map into the request. -/
  builderHeaders_withHeaders : ∀ (rb : Reqwest.RequestBuilder) (m : HeaderMap) (k : HeaderName),
    (Reqwest.builderHeaders (Reqwest.withHeaders rb m)).getAll k =
      if m.getAll k = [] then (Reqwest.builderHeaders rb).getAll k else m.getAll k
  builderClient_withBody : ∀ rb b,
    Reqwest.builderClient (Reqwest.withBody rb b) = Reqwest.builderClient rb
  /-- A body of bytes sets no headers. -/
  builderHeaders_withBody : ∀ rb b k,
    (Reqwest.builderHeaders (Reqwest.withBody rb b)).getAll k =
      (Reqwest.builderHeaders rb).getAll k
  /-- The headers of a request are sent. -/
  wire_headers : ∀ (rb : Reqwest.RequestBuilder) (request : WireRequest) (k : HeaderName),
    Reqwest.wire rb = .ok request → (Reqwest.builderHeaders rb).getAll k ≠ [] →
    request.headers.getAll k = (Reqwest.builderHeaders rb).getAll k
  /-- A default header is added for a name that the request does not have. -/
  wire_default : ∀ (rb : Reqwest.RequestBuilder) (request : WireRequest) (k : HeaderName),
    Reqwest.wire rb = .ok request → (Reqwest.builderHeaders rb).getAll k = [] →
    (Reqwest.defaultHeaders (Reqwest.builderClient rb)).getAll k ≠ [] →
    request.headers.getAll k = (Reqwest.defaultHeaders (Reqwest.builderClient rb)).getAll k
  /-- Nothing else sets a content type. -/
  wire_contentType : ∀ (rb : Reqwest.RequestBuilder) (request : WireRequest),
    Reqwest.wire rb = .ok request → (Reqwest.builderHeaders rb).getAll .contentType = [] →
    (Reqwest.defaultHeaders (Reqwest.builderClient rb)).getAll .contentType = [] →
    request.headers.getAll .contentType = []

/-- A header value is valid once it is made: a request that cannot be built fails by its
address, with the same error for all values of its headers. -/
class LawfulBuild [Reqwest] : Prop where
  wire_error : ∀ (client : WebClient) (url : String) (m m' : HeaderMap) (body : Bytes)
    (e : ReqwestError), EntriesRel (fun _ _ => True) (Http.entries m) (Http.entries m') →
    Reqwest.wire (Reqwest.withBody (Reqwest.withHeaders (Reqwest.post client url) m) body)
      = .error e →
    Reqwest.wire (Reqwest.withBody (Reqwest.withHeaders (Reqwest.post client url) m') body)
      = .error e

/-- A web client follows replies with certain statuses only; it decides by the addresses of its
requests, and a request that follows another one is a `POST` request only if it repeats it. -/
class LawfulRedirects [Reqwest] [Redirects] : Prop where
  isRedirect : ∀ (client : WebClient) (previous : List String) (request : WireRequest)
    (status : StatusCode) (headers : HeaderMap),
    Redirects.redirect client previous request status headers ≠ .ok none → status.IsRedirect
  redirect_congr : ∀ (client : WebClient) (previous : List String)
    (request request' : WireRequest) (status : StatusCode) (headers : HeaderMap),
    request.url = request'.url →
    (Redirects.redirect client previous request status headers).map (Option.map WireRequest.url)
      = (Redirects.redirect client previous request' status headers).map
          (Option.map WireRequest.url)
  redirect_post : ∀ (client : WebClient) (previous : List String) (request next : WireRequest)
    (status : StatusCode) (headers : HeaderMap),
    Redirects.redirect client previous request status headers = .ok (some next) →
    next.method = .POST → request.method = .POST ∧ next.body = request.body
  /-- A request is sent to the address that it was made for. -/
  wire_url : ∀ (client : WebClient) (url : String) (m m' : HeaderMap) (body body' : Bytes)
    (request request' : WireRequest),
    Reqwest.wire (Reqwest.withBody (Reqwest.withHeaders (Reqwest.post client url) m) body)
      = .ok request →
    Reqwest.wire (Reqwest.withBody (Reqwest.withHeaders (Reqwest.post client url) m') body')
      = .ok request' → request.url = request'.url

/-- The body that was set on a request is sent. -/
class LawfulBody [Reqwest] : Prop where
  wire_body : ∀ (rb : Reqwest.RequestBuilder) (body : Bytes) (request : WireRequest),
    Reqwest.wire (Reqwest.withBody rb body) = .ok request → request.body = body

end NearJsonrpcClient
