/-
# The method `query`

The only method with its own parser for results: a node reports some failures of a query
as a result that is not a query response.
-/
import NearJsonrpcClient.Methods.Common

namespace NearJsonrpcClient

variable [Near]

abbrev RpcQueryRequest : Type := NearTypes.Ty .rpcQueryRequest
abbrev RpcQueryResponse : Type := NearTypes.Ty .rpcQueryResponse

instance : RpcHandlerResponse RpcQueryResponse where

instance : RpcHandlerError RpcQueryError where

structure LegacyQueryError where
  error : String
  blockHeight : BlockHeight
  blockHash : CryptoHash

/-- A field of a derived `Deserialize` for a structure; other fields are ignored. -/
def structField {T : Type} [Deserialize T] (m : Map) (name : String) : Except SerdeError T :=
  match Map.get m name with
  | some v => fromValue v
  | none => .error (.missingField name)

/-- The derived `Deserialize`: a structure is read from an object or from the array of its
fields. -/
instance : Deserialize LegacyQueryError where
  fromValue
    | .object m => do
        return { error := ← structField m "error"
                 blockHeight := ← structField m "block_height"
                 blockHash := ← structField m "block_hash" }
    | .array [error, blockHeight, blockHash] => do
        return { error := ← fromValue error
                 blockHeight := ← fromValue blockHeight
                 blockHash := ← fromValue blockHash }
    | .array xs => .error (.invalidLength xs.length "struct LegacyQueryError with 3 elements")
    | v => .error (.invalidType v "struct LegacyQueryError")

inductive QueryResponse where
  | handlerResponse (r : RpcQueryResponse)
  | handlerError (err : LegacyQueryError)

/-- The error of a value that is of neither shape. -/
def queryResponseMismatch : SerdeError :=
  .custom "data did not match any variant of untagged enum QueryResponse"

/-- The derived `Deserialize` of an untagged enumeration: the first variant that fits. -/
instance : Deserialize QueryResponse where
  fromValue v :=
    match (fromValue v : Except SerdeError RpcQueryResponse) with
    | .ok r => .ok (.handlerResponse r)
    | .error _ =>
        match (fromValue v : Except SerdeError LegacyQueryError) with
        | .ok err => .ok (.handlerError err)
        | .error _ => .error queryResponseMismatch

/-- `str::split`: the parts of a string between the occurrences of a character. -/
def split (s : String) (sep : Char) : List String := (s.toList.splitOn sep).map String.ofList

/-- `Iterator::next` of the parts of a string. -/
def next : List String → Option String × List String
  | [] => (none, [])
  | part :: parts => (some part, parts)

/-- The part of a legacy error in the place of the public key, when the error consists of
the nine steps of an unknown access key. -/
def unknownAccessKeyPart (error : String) : Option String :=
  let errParts := split error ' '
  let (part₁, errParts) := next errParts
  let (part₂, errParts) := next errParts
  let (part₃, errParts) := next errParts
  let (part₄, errParts) := next errParts
  let (part₅, errParts) := next errParts
  let (part₆, errParts) := next errParts
  let (part₇, errParts) := next errParts
  let (part₈, errParts) := next errParts
  let (part₉, _) := next errParts
  match part₁, part₂, part₃, part₄, part₅, part₆, part₇, part₈, part₉ with
  | some "access", some "key", some pk, some "does", some "not", some "exist", some "while",
    some "viewing", none => some pk
  | _, _, _, _, _, _, _, _, _ => none

instance : RpcMethod RpcQueryRequest RpcQueryResponse RpcQueryError where
  methodName _ := "query"
  params self := .ok (toValue self)
  parseHandlerResponse response := do
    match ← (fromValue response : Except SerdeError QueryResponse) with
    | .handlerResponse r => return .ok r
    | .handlerError { error, blockHeight, blockHash } =>
        let queryError ← match unknownAccessKeyPart error with
          | some pk => do
              let publicKey ← (Near.publicKeyFromStr pk).mapError .custom
              pure (.unknownAccessKey publicKey blockHeight blockHash)
          | none => pure (.contractExecutionError error blockHeight blockHash)
        return .error queryError

end NearJsonrpcClient
