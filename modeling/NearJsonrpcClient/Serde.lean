/-
# Deserialization

The errors of `serde_json` and of `std::io`, the trait `DeserializeOwned`, and the part of
`serde` and `serde_json` that the client calls.  A deserialization error is known by the
constructor of `serde::de::Error` that made it and its arguments.  The deserializers that
are not derived in this repository, and the byte level of `serde_json`, are parameters.
-/
import NearJsonrpcClient.Json
import NearJsonrpcClient.Lib.Utf8

namespace NearJsonrpcClient

abbrev Bytes := List UInt8

-- `str::as_bytes`
export Lib (utf8)

/-- `serde_json::Error`. -/
inductive SerdeError where
  | custom (msg : String)
  | invalidType (unexpected : Value) (expected : String)
  | invalidValue (unexpected : Value) (expected : String)
  | invalidLength (len : ℕ) (expected : String)
  | unknownVariant (variant : String) (expected : List String)
  | missingField (field : String)

/-- `std::io::Error`. -/
inductive IoError where
  | other (msg : String)
  | serde (err : SerdeError)

/-- `From<serde_json::Error> for std::io::Error`. -/
def SerdeError.into (err : SerdeError) : IoError := .serde err

/-- `serde::de::DeserializeOwned`, read from a JSON value. -/
class Deserialize (T : Type) where
  /-- `serde_json::from_value`. -/
  fromValue : Value → Except SerdeError T

/-- `serde::Serialize`, written to a JSON value. -/
class Serialize (T : Type) where
  /-- `json!(self)`. -/
  toValue : T → Value

export Deserialize (fromValue)
export Serialize (toValue)

instance : Deserialize Value := ⟨.ok⟩

instance : Deserialize String where
  fromValue
    | .string s => .ok s
    | v => .error (.invalidType v "a string")

instance : Deserialize Unit where
  fromValue
    | .null => .ok ()
    | v => .error (.invalidType v "unit")

instance : Deserialize UInt64 where
  fromValue
    | .number (.posInt n) => .ok n
    | .number (.negInt i) => .error (.invalidValue (.number (.negInt i)) "u64")
    | v => .error (.invalidType v "u64")

instance : Serialize UInt64 := ⟨fun n => .number (.posInt n)⟩

instance : Serialize Bool := ⟨.bool⟩

instance : Serialize Unit := ⟨fun _ => .null⟩

/-- The error of a derived `Deserialize` of an enumeration without variants. -/
def noVariants : Value → SerdeError
  | .string variant => .unknownVariant variant []
  | .object [(variant, _)] => .unknownVariant variant []
  | .object m => .invalidValue (.object m) "map with a single key"
  | v => .invalidType v "string or map"

/-- The functions of `serde_json` between JSON values and bytes, and the text of a value
in a log line. -/
class SerdeJson where
  /-- `serde_json::to_vec`. -/
  toVec : Value → Except SerdeError Bytes
  /-- `serde_json::from_slice::<serde_json::Value>`. -/
  fromSlice : Bytes → Except SerdeError Value
  /-- The text of `format!("{:#}", value)`. -/
  display : Value → String

end NearJsonrpcClient
