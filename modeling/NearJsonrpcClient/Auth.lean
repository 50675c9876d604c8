/-
# Client authentication

`ApiKey` and `Authorization` of `auth.rs`.  The fields of both are private, so a value of
either type is the result of its constructor; the field `made` keeps this.  A clone of a
value is the value.
-/
import NearJsonrpcClient.Header
import NearJsonrpcClient.Lib.Utf8

namespace NearJsonrpcClient

variable [Reqwest]

/-- NEAR JSON RPC API key. -/
structure ApiKey where
  value : HeaderValue
  made : ∃ apiKey v, Http.fromBytes apiKey = .ok v ∧ value = Http.setSensitive v true

namespace ApiKey

def HEADER_NAME : String := "x-api-key"

/-- Creates a new API key. -/
def new (apiKey : Bytes) : Except InvalidHeaderValue ApiKey :=
  match h : Http.fromBytes apiKey with
  | .ok v => .ok ⟨Http.setSensitive v true, apiKey, v, h, rfl⟩
  | .error err => .error err

lemma value_injective : Function.Injective ApiKey.value := by
  rintro ⟨v, _⟩ ⟨v', _⟩ (rfl : v = v')
  rfl

/-- A key is the sensitive form of the header value of its bytes. -/
lemma new_eq_ok_iff {apiKey : Bytes} {k : ApiKey} : new apiKey = .ok k ↔
    ∃ v, Http.fromBytes apiKey = .ok v ∧ k.value = Http.setSensitive v true := by
  rw [new]
  split
  · next v hv =>
    constructor
    · intro hk
      cases hk
      exact ⟨v, hv, rfl⟩
    · rintro ⟨v', hv', hvalue⟩
      obtain rfl : v = v' := Except.ok.inj (hv.symm.trans hv')
      exact congrArg Except.ok (value_injective hvalue.symm)
  · next hv =>
    refine iff_of_false (fun hk => by cases hk) ?_
    rintro ⟨v', hv', -⟩
    cases hv.symm.trans hv'

lemma new_of_fromBytes {apiKey : Bytes} {v : HeaderValue} (h : Http.fromBytes apiKey = .ok v) :
    ∃ k, new apiKey = .ok k ∧ k.value = Http.setSensitive v true :=
  ⟨⟨Http.setSensitive v true, apiKey, v, h, rfl⟩, new_eq_ok_iff.2 ⟨v, h, rfl⟩, rfl⟩

/-- Returns a string slice if the API key only contains visible ASCII chars. -/
def toStr (self : ApiKey) : Except Http.ToStrError String := Http.toStr self.value

/-- Returns the API key as a byte slice. -/
def asBytes (self : ApiKey) : Bytes := Http.asBytes self.value

/-- The derived `Debug`. -/
def debug (alternate : Bool) (self : ApiKey) : String :=
  Fmt.debugTuple alternate "ApiKey" [Http.debugValue alternate self.value]

instance : HeaderEntry Prevalidated ApiKey String HeaderValue where
  headerName _ := HEADER_NAME
  headerPair self := (HEADER_NAME, self.value)

end ApiKey

/-- `Index<RangeFrom<usize>>`; indexing out of bounds panics. -/
class IndexRangeFrom (T : Type) (Output : outParam Type) where
  index : T → ℕ → Option Output

instance : IndexRangeFrom Bytes Bytes where
  index bytes start := if start ≤ bytes.length then some (bytes.drop start) else none

/-- `str::from_utf8_unchecked`; it is undefined behaviour on bytes that are not UTF-8. -/
def fromUtf8Unchecked (bytes : Bytes) : Option String := Lib.ofUtf8? bytes

/-- HTTP authorization scheme. -/
inductive AuthorizationScheme where
  | bearer
deriving DecidableEq

/-- The derived `Debug`. -/
def AuthorizationScheme.debug : AuthorizationScheme → String
  | .bearer => "Bearer"

/-- NEAR JSON RPC authorization header. -/
structure Authorization where
  scheme : AuthorizationScheme
  value : HeaderValue
  made : ∃ token v, Http.fromBytes (utf8 "Bearer " ++ utf8 token) = .ok v ∧
    value = Http.setSensitive v true

namespace Authorization

def HEADER_NAME : String := "Authorization"

/-- Creates a new authorization token with the bearer scheme. -/
def bearer (token : String) : Except InvalidHeaderValue Authorization :=
  match h : Http.fromBytes (utf8 "Bearer " ++ utf8 token) with
  | .ok v => .ok ⟨.bearer, Http.setSensitive v true, token, v, h, rfl⟩
  | .error err => .error err

/-- A value is determined by its header value, as there is one scheme. -/
lemma value_injective : Function.Injective Authorization.value := by
  rintro ⟨scheme, v, _⟩ ⟨scheme', v', _⟩ (rfl : v = v')
  cases scheme
  cases scheme'
  rfl

/-- An authorization is the sensitive form of the header value of its scheme and token. -/
lemma bearer_eq_ok_iff {token : String} {a : Authorization} : bearer token = .ok a ↔
    ∃ v, Http.fromBytes (utf8 "Bearer " ++ utf8 token) = .ok v ∧
      a.value = Http.setSensitive v true := by
  rw [bearer]
  split
  · next v hv =>
    constructor
    · intro ha
      cases ha
      exact ⟨v, hv, rfl⟩
    · rintro ⟨v', hv', hvalue⟩
      obtain rfl : v = v' := Except.ok.inj (hv.symm.trans hv')
      exact congrArg Except.ok (value_injective hvalue.symm)
  · next hv =>
    refine iff_of_false (fun ha => by cases ha) ?_
    rintro ⟨v', hv', -⟩
    cases hv.symm.trans hv'

lemma bearer_of_fromBytes {token : String} {v : HeaderValue}
    (h : Http.fromBytes (utf8 "Bearer " ++ utf8 token) = .ok v) :
    ∃ a, bearer token = .ok a ∧ a.value = Http.setSensitive v true :=
  ⟨⟨.bearer, Http.setSensitive v true, token, v, h, rfl⟩, bearer_eq_ok_iff.2 ⟨v, h, rfl⟩, rfl⟩

def stripScheme {T Output : Type} [IndexRangeFrom T Output] (self : Authorization) (token : T) :
    Option Output :=
  IndexRangeFrom.index token (match self.scheme with | .bearer => 7)

/-- Returns the token as a byte slice. -/
def asBytes (self : Authorization) : Option Bytes := self.stripScheme (Http.asBytes self.value)

/-- Returns the token as a string slice. -/
def asStr (self : Authorization) : Option String := do fromUtf8Unchecked (← self.asBytes)

/-- The derived `Debug`. -/
def debug (alternate : Bool) (self : Authorization) : String :=
  Fmt.debugTuple alternate "Authorization"
    [self.scheme.debug, Http.debugValue alternate self.value]

instance : HeaderEntry Prevalidated Authorization String HeaderValue where
  headerName _ := HEADER_NAME
  headerPair self := (HEADER_NAME, self.value)

end Authorization

end NearJsonrpcClient
