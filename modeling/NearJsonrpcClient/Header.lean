/-
# Header entries

The traits of `header.rs`: header entries, the two discriminants that say whether the
value of an entry was validated before or is validated when the entry is applied, and the
implementations for pairs of a name and a value.
-/
import NearJsonrpcClient.Client

namespace NearJsonrpcClient

/-- Attribute of the header entries that have been prevalidated. -/
structure Prevalidated where

/-- Attribute of the header entries that need to be validated, with the error of the
validation. -/
structure Postvalidated (E : Type) where

/-- `reqwest::header::IntoHeaderName`, for valid header names. -/
class IntoHeaderName (N : Type) where
  intoHeaderName : N → HeaderName

export IntoHeaderName (intoHeaderName)

instance : IntoHeaderName HeaderName := ⟨id⟩

instance : IntoHeaderName String := ⟨HeaderName.ofStr⟩

variable [Reqwest]

/-- `TryInto<HeaderValue>`. -/
class TryIntoHeaderValue (V : Type) (E : outParam Type) where
  tryInto : V → Except E HeaderValue

export TryIntoHeaderValue (tryInto)

/-- Trait for identifying valid header entries. -/
class HeaderEntry (D H : Type) (Name Value : outParam Type) where
  headerName : H → Name
  headerPair : H → Name × Value

/-- Trait for defining a header entry's application on a client. -/
class HeaderEntryDiscriminant (D H : Type) (Output : outParam Type) where
  apply : JsonRpcClient → H → Output

instance {T N : Type} [HeaderEntry Prevalidated T N HeaderValue] [IntoHeaderName N] :
    HeaderEntryDiscriminant Prevalidated T JsonRpcClient where
  apply client entry :=
    let (k, v) := HeaderEntry.headerPair Prevalidated entry
    { client with headers := Http.insert client.headers (intoHeaderName k) v }

instance {T N V E : Type} [HeaderEntry (Postvalidated E) T N V] [IntoHeaderName N]
    [TryIntoHeaderValue V E] :
    HeaderEntryDiscriminant (Postvalidated E) T (Except E JsonRpcClient) where
  apply client entry := do
    let (k, v) := HeaderEntry.headerPair (Postvalidated E) entry
    return { client with headers := Http.insert client.headers (intoHeaderName k) (← tryInto v) }

instance {N : Type} [IntoHeaderName N] :
    HeaderEntry Prevalidated (N × HeaderValue) N HeaderValue where
  headerName self := self.1
  headerPair self := self

instance {N V E : Type} [IntoHeaderName N] [TryIntoHeaderValue V E] :
    HeaderEntry (Postvalidated E) (N × V) N V where
  headerName self := self.1
  headerPair self := self

/-- Add a header to this request. -/
def JsonRpcClient.header {H Name Value Output : Type} (self : JsonRpcClient) (D : Type)
    (entry : H) [HeaderEntry D H Name Value] [HeaderEntryDiscriminant D H Output] : Output :=
  HeaderEntryDiscriminant.apply D self entry

end NearJsonrpcClient
