/-
# The conversion of the error of a response

What `From<RpcError>` makes of an error, as a relation: seven kinds of error, told apart
by the two parsers of the error type.  The relation is functional and total, and the
conversion is the function that it describes.  From it follows what the fallback on the
field `data` changes when it does not recognise a legacy error.
-/
import NearJsonrpcClient.Errors

namespace NearJsonrpcClient

variable [NearTypes] {E : Type} [RpcHandlerError E]

/-- There is no structured error: the field is absent, or the parser rejects it. -/
def NoStructuredError (E : Type) [RpcHandlerError E] (errorStruct : Option RpcErrorKind) : Prop :=
  errorStruct = none ∨
    ∃ s e, errorStruct = some (.handlerError s) ∧
      (RpcHandlerError.parse s : Except SerdeError E) = .error e

/-- There is no alternative deserialization for the field `data`. -/
def NoLegacyError (E : Type) [RpcHandlerError E] (data : Option Value) : Prop :=
  ∀ d, data = some d → (RpcHandlerError.parseLegacyError d : Option (Except SerdeError E)) = none

omit [NearTypes] in
lemma noLegacyError_some {d : Value} :
    NoLegacyError E (some d) ↔
      (RpcHandlerError.parseLegacyError d : Option (Except SerdeError E)) = none := by
  constructor
  · intro h
    exact h d rfl
  · rintro h _ ⟨⟩
    exact h

/-- What an error of a response is converted to. -/
inductive Converts (err : RpcError) : JsonRpcError E → Prop
  | handler {s : Value} {h : E} (hs : err.errorStruct = some (.handlerError s))
      (hp : RpcHandlerError.parse s = .ok h) : Converts err (.serverError (.handlerError h))
  | validation {k : RpcRequestValidationErrorKind}
      (hs : err.errorStruct = some (.requestValidationError k)) :
      Converts err (.serverError (.requestValidationError k))
  | internal {s : Value} (hs : err.errorStruct = some (.internalError s)) :
      Converts err
        (.serverError (.internalError ((s.index "info").index "error_message").asStr))
  | legacy {d : Value} {h : E} (hs : NoStructuredError E err.errorStruct)
      (hd : err.data = some d) (hp : RpcHandlerError.parseLegacyError d = some (.ok h)) :
      Converts err (.serverError (.handlerError h))
  | legacyRejected {d : Value} {e : SerdeError} (hs : NoStructuredError E err.errorStruct)
      (hd : err.data = some d)
      (hp : (RpcHandlerError.parseLegacyError d : Option (Except SerdeError E))
        = some (.error e)) :
      Converts err (.errorMessageParseError e)
  | structRejected {s : Value} {e : SerdeError} (hs : err.errorStruct = some (.handlerError s))
      (hp : (RpcHandlerError.parse s : Except SerdeError E) = .error e)
      (hd : NoLegacyError E err.data) : Converts err (.errorMessageParseError e)
  | nonContextual (hs : err.errorStruct = none) (hd : NoLegacyError E err.data) :
      Converts err (.serverError (.nonContextualError err))

namespace JsonRpcError

/-! ## The two matches of the conversion -/

lemma fromErrorStruct_eq_inr {errorStruct : Option RpcErrorKind}
    (h : NoStructuredError E errorStruct) :
    ∃ slot, fromErrorStruct (E := E) errorStruct = .inr slot ∧
      ∀ e, slot = some e ↔ ∃ s, errorStruct = some (.handlerError s) ∧
        (RpcHandlerError.parse s : Except SerdeError E) = .error e := by
  rcases h with rfl | ⟨s, e, rfl, he⟩
  · exact ⟨none, rfl, by simp⟩
  · refine ⟨some e, by rw [fromErrorStruct, he], ?_⟩
    intro e'
    simp only [Option.some.injEq, RpcErrorKind.handlerError.injEq, exists_eq_left', he,
      Except.error.injEq]

lemma fromData_of_noLegacyError {data : Option Value} (h : NoLegacyError E data)
    (slot : Option SerdeError) : fromData (E := E) slot data = .inr slot := by
  cases data with
  | none => rfl
  | some d => rw [fromData, h d rfl]

/-! ## The conversion is the function of the relation -/

lemma fromRpcError_of_converts {err : RpcError} {x : JsonRpcError E} (h : Converts err x) :
    fromRpcError err = x := by
  cases h with
  | handler hs hp => rw [fromRpcError, hs, fromErrorStruct, hp]
  | validation hs => rw [fromRpcError, hs, fromErrorStruct]
  | internal hs => rw [fromRpcError, hs, fromErrorStruct]
  | legacy hs hd hp =>
    obtain ⟨slot, hslot, -⟩ := fromErrorStruct_eq_inr hs
    simp only [fromRpcError, hslot, hd, fromData, hp]
  | legacyRejected hs hd hp =>
    obtain ⟨slot, hslot, -⟩ := fromErrorStruct_eq_inr hs
    simp only [fromRpcError, hslot, hd, fromData, hp]
  | @structRejected s e hs hp hd =>
    obtain ⟨slot, hslot, hiff⟩ := fromErrorStruct_eq_inr (E := E) (Or.inr ⟨s, e, hs, hp⟩)
    obtain rfl := (hiff e).2 ⟨s, hs, hp⟩
    simp only [fromRpcError, hslot, fromData_of_noLegacyError hd]
  | nonContextual hs hd =>
    simp only [fromRpcError, hs, fromErrorStruct, fromData_of_noLegacyError hd]

/-- Without a structured error, the field `data` decides. -/
lemma exists_converts_of_noStructuredError {err : RpcError}
    (hs : NoStructuredError E err.errorStruct) : ∃ x : JsonRpcError E, Converts err x := by
  by_cases hd : NoLegacyError E err.data
  · rcases hs with hs | ⟨s, e, hs, hp⟩
    · exact ⟨_, .nonContextual hs hd⟩
    · exact ⟨_, .structRejected hs hp hd⟩
  · rw [NoLegacyError] at hd
    push Not at hd
    obtain ⟨d, hd, hne⟩ := hd
    rcases hp : (RpcHandlerError.parseLegacyError d : Option (Except SerdeError E)) with
      _ | (e | h)
    · exact absurd hp hne
    · exact ⟨_, .legacyRejected hs hd hp⟩
    · exact ⟨_, .legacy hs hd hp⟩

lemma exists_converts (err : RpcError) : ∃ x : JsonRpcError E, Converts err x := by
  rcases hs : err.errorStruct with _ | (k | s | s)
  · exact exists_converts_of_noStructuredError (Or.inl hs)
  · exact ⟨_, .validation hs⟩
  · cases hp : (RpcHandlerError.parse s : Except SerdeError E) with
    | ok h => exact ⟨_, .handler hs hp⟩
    | error e => exact exists_converts_of_noStructuredError (Or.inr ⟨s, e, hs, hp⟩)
  · exact ⟨_, .internal hs⟩

end JsonRpcError

end NearJsonrpcClient
