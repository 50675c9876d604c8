/-
# An unsuccessful legacy fallback

What the field `data` changes in the conversion of the error of a response, when the
legacy parser does not recognise it.  The parser has two ways of not recognising a value:
to say that there is no alternative deserialization, and to reject it.  The first leaves
the conversion as it is without the field.  The second is an error of its own, which is
reported whenever there is no structured error.
-/
import NearJsonrpcClient.Conversion
import NearJsonrpcClient.Reference.Near

namespace NearJsonrpcClient

section Fallback

variable [NearTypes] {E : Type} [RpcHandlerError E]

namespace RpcError

/-- The error with another field `data`. -/
def withData (err : RpcError) (data : Option Value) : RpcError := { err with data := data }

end RpcError

namespace JsonRpcError

/-- Replace the field `data` that is kept in an error without context. -/
def withData (data : Option Value) : JsonRpcError E → JsonRpcError E
  | .serverError (.nonContextualError err) => .serverError (.nonContextualError (err.withData data))
  | err => err

/-- Data without an alternative deserialization leaves the conversion as it is. -/
lemma fromRpcError_of_noLegacyError (err : RpcError) {d : Value}
    (hd : (RpcHandlerError.parseLegacyError d : Option (Except SerdeError E)) = none) :
    fromRpcError (err.withData (some d))
      = withData (some d) (fromRpcError (err.withData none) : JsonRpcError E) := by
  have hnl : NoLegacyError E (err.withData (some d)).data := noLegacyError_some.2 hd
  obtain ⟨x, hx⟩ := exists_converts (E := E) (err.withData none)
  rw [fromRpcError_of_converts hx]
  refine fromRpcError_of_converts ?_
  cases hx with
  | handler hs hp => exact .handler hs hp
  | validation hs => exact .validation hs
  | internal hs => exact .internal hs
  | legacy _ hdata _ => cases hdata
  | legacyRejected _ hdata _ => cases hdata
  | structRejected hs hp _ => exact .structRejected hs hp hnl
  | nonContextual hs _ => exact .nonContextual hs hnl

/-- Unless there is no structured error, the field `data` is not looked at. -/
lemma fromRpcError_of_structuredError (err : RpcError) (data data' : Option Value)
    (hs : ¬ NoStructuredError E err.errorStruct) :
    fromRpcError (err.withData data) = (fromRpcError (err.withData data') : JsonRpcError E) := by
  obtain ⟨x, hx⟩ := exists_converts (E := E) (err.withData data')
  rw [fromRpcError_of_converts hx]
  refine fromRpcError_of_converts ?_
  cases hx with
  | handler hs' hp => exact .handler hs' hp
  | validation hs' => exact .validation hs'
  | internal hs' => exact .internal hs'
  | legacy hs' _ _ => exact absurd hs' hs
  | legacyRejected hs' _ _ => exact absurd hs' hs
  | @structRejected s e hs' hp _ => exact absurd (Or.inr ⟨s, e, hs', hp⟩) hs
  | nonContextual hs' _ => exact absurd (Or.inl hs') hs

/-- **The field `data` that is not a recognised legacy error.** -/
theorem fromRpcError_unrecognisedData (err : RpcError) (d : Value) :
    ((RpcHandlerError.parseLegacyError d : Option (Except SerdeError E)) = none →
      fromRpcError (err.withData (some d))
          = withData (some d) (fromRpcError (err.withData none) : JsonRpcError E) ∧
        (err.errorStruct = none → fromRpcError (err.withData (some d))
          = (.serverError (.nonContextualError (err.withData (some d))) : JsonRpcError E)) ∧
        ∀ s e, err.errorStruct = some (.handlerError s) →
          (RpcHandlerError.parse s : Except SerdeError E) = .error e →
          fromRpcError (err.withData (some d)) = (.errorMessageParseError e : JsonRpcError E)) ∧
    ∀ e, (RpcHandlerError.parseLegacyError d : Option (Except SerdeError E)) = some (.error e) →
      (NoStructuredError E err.errorStruct →
        fromRpcError (err.withData (some d)) = (.errorMessageParseError e : JsonRpcError E)) ∧
      (¬ NoStructuredError E err.errorStruct →
        fromRpcError (err.withData (some d))
          = (fromRpcError (err.withData none) : JsonRpcError E)) := by
  refine ⟨fun hd => ⟨fromRpcError_of_noLegacyError err hd, ?_, ?_⟩, fun e hd => ⟨?_, ?_⟩⟩
  · intro hs
    exact fromRpcError_of_converts (.nonContextual hs (noLegacyError_some.2 hd))
  · intro s e hs hp
    exact fromRpcError_of_converts (.structRejected hs hp (noLegacyError_some.2 hd))
  · intro hs
    exact fromRpcError_of_converts (.legacyRejected hs rfl hd)
  · intro hs
    exact fromRpcError_of_structuredError err (some d) none hs

end JsonRpcError

end Fallback

section ParseError

open scoped Reference

/-- An error without context, as a node reports a request that it cannot parse. -/
def parseErrorResponse : RpcError where
  errorStruct := none
  code := -32700
  message := "Parse error"
  data := some (.string "Failed parsing args")

/-- The same error with a structured error that has no name. -/
def unknownErrorResponse : RpcError :=
  { parseErrorResponse with errorStruct := some (.handlerError (.object [])) }

/-- The text in the field `data` is not an error of the server, and the conversion for a
transaction method reports just that: the error without context is lost, and so is the
rejection of a structured error. -/
theorem JsonRpcError.fromRpcError_parseErrorResponse :
    (∀ h, (RpcHandlerError.parseLegacyError (.string "Failed parsing args") :
      Option (Except SerdeError RpcTransactionError)) ≠ some (.ok h)) ∧
    (fromRpcError parseErrorResponse : JsonRpcError RpcTransactionError)
      ≠ withData parseErrorResponse.data (fromRpcError (parseErrorResponse.withData none)) ∧
    (fromRpcError parseErrorResponse : JsonRpcError RpcTransactionError)
      ≠ .serverError (.nonContextualError parseErrorResponse) ∧
    (fromRpcError (unknownErrorResponse.withData none) : JsonRpcError RpcTransactionError)
      = .errorMessageParseError (.missingField "name") ∧
    (fromRpcError unknownErrorResponse : JsonRpcError RpcTransactionError)
      = .errorMessageParseError
          (.unknownVariant "Failed parsing args" ["TxExecutionError", "Timeout", "Closed"]) := by
  refine ⟨?_, ?_, ?_, rfl, rfl⟩
  · intro h hh
    cases hh
  · intro hh
    cases hh
  · intro hh
    cases hh

end ParseError

end NearJsonrpcClient
