/-
# The traits of methods, responses and errors

`RpcMethod`, `RpcHandlerResponse` and `RpcHandlerError` of `methods/mod.rs`, with their
provided methods, the blanket implementation of `RpcMethod` for references, and `to_json`.
The associated types of a method are output parameters of its class.
-/
import NearJsonrpcClient.Lib.Encoding
import NearJsonrpcClient.Near

namespace NearJsonrpcClient

/-- A valid method response. -/
class RpcHandlerResponse (T : Type) extends Deserialize T where
  parse : Value → Except SerdeError T := Deserialize.fromValue

/-- A valid method error. -/
class RpcHandlerError (T : Type) extends Deserialize T where
  /-- Parser for the field `error_struct` of `RpcError`. -/
  parse : Value → Except SerdeError T := Deserialize.fromValue
  /-- Parser for the field `data` of `RpcError`; `none` means that there is no alternative
  deserialization. -/
  parseLegacyError : Value → Option (Except SerdeError T) := fun _ => none

/-- A valid method. -/
class RpcMethod (M : Type) (R E : outParam Type) [RpcHandlerResponse R] [RpcHandlerError E] where
  methodName : M → String
  params : M → Except IoError Value
  parseHandlerResponse : Value → Except SerdeError (Except E R) :=
    fun response => (RpcHandlerResponse.parse response).map .ok

/-- A reference `&T`. -/
structure Ref (T : Type) where
  deref : T

instance {M R E : Type} [RpcHandlerResponse R] [RpcHandlerError E] [RpcMethod M R E] :
    RpcMethod (Ref M) R E where
  methodName self := RpcMethod.methodName self.deref
  params self := RpcMethod.params self.deref
  parseHandlerResponse response := RpcMethod.parseHandlerResponse M response

/-- Converts a method into JSON. -/
def toJson [Near] {M R E : Type} [RpcHandlerResponse R] [RpcHandlerError E] [RpcMethod M R E]
    (method : M) : Except IoError Value := do
  let requestPayload := Near.messageRequest (RpcMethod.methodName method)
    (← RpcMethod.params method)
  return Near.messageToValue requestPayload

lemma toJson_eq [Near] {M R E : Type} [RpcHandlerResponse R] [RpcHandlerError E]
    [RpcMethod M R E] (method : M) :
    toJson method = (RpcMethod.params method).map fun params =>
      Near.messageToValue (Near.messageRequest (RpcMethod.methodName method) params) := by
  rw [toJson]
  cases RpcMethod.params method <;> rfl

/-- The payload of a method is a request with its name and its parameters. -/
lemma toJson_eq_ok_iff [Near] {M R E : Type} [RpcHandlerResponse R] [RpcHandlerError E]
    [RpcMethod M R E] {method : M} {payload : Value} :
    toJson method = .ok payload ↔ ∃ params, RpcMethod.params method = .ok params ∧
      Near.messageToValue (Near.messageRequest (RpcMethod.methodName method) params)
        = payload := by
  rw [toJson_eq, Lib.map_eq_ok_iff]

end NearJsonrpcClient
