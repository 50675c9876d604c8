/-
# Errors of unknown blocks

The seven error types that are decoded with `parse_unknown_block!`, against their derived
decoder.  The shortcut is there for the errors that are written without their message, and
it adds these; but it looks at the name of an error only, and so it also takes the errors
that are written with their message, which is lost.
-/
import NearJsonrpcClient.Lib.Shortcut
import NearJsonrpcClient.Methods.Plain
import NearJsonrpcClient.Reference.Replies

namespace NearJsonrpcClient

open Lib

/-! ## The name and the message -/

/-- A value has the name of an unknown block. -/
def NamesUnknownBlock (v : Value) : Prop := v.index "name" = .string "UNKNOWN_BLOCK"

/-- A value is the error of an unknown block with its message. -/
def CarriesMessage (v : Value) (msg : String) : Prop :=
  NamesUnknownBlock v ∧ (v.index "info").index "error_message" = .string msg

lemma namesUnknownBlock_iff {v : Value} :
    (v.index "name").eqStr "UNKNOWN_BLOCK" = true ↔ NamesUnknownBlock v :=
  Value.eqStr_iff

/-- Only an object has a name. -/
lemma NamesUnknownBlock.exists_object {v : Value} (h : NamesUnknownBlock v) :
    ∃ m, v = .object m := by
  cases v with
  | object m => exact ⟨m, rfl⟩
  | _ => cases h

section UnknownBlock

variable [Near]

/-- The derived decoder of an enumeration whose tag is `name` and whose content is `info`:
under the name of an unknown block it reads the string `error_message` of the content, and
no other field. -/
class LawfulUnknownBlock : Prop where
  fromValue_eq_ok_iff : ∀ (τ : UnknownBlockTy) (v : Value) (err : UnknownBlockError τ),
    NamesUnknownBlock v → (Near.unknownBlockErrorFromValue τ v = .ok err ↔
      ∃ msg, (v.index "info").index "error_message" = .string msg ∧ err = .unknownBlock msg)

namespace UnknownBlockTy

/-- The implementation of `RpcHandlerError` for each of the types. -/
@[reducible] def handlerError : (τ : UnknownBlockTy) → RpcHandlerError (UnknownBlockError τ)
  | .rpcBlockError | .rpcChunkError | .rpcGasPriceError | .rpcLightClientProofError
  | .rpcLightClientNextBlockError | .rpcStateChangesError | .rpcProtocolConfigError =>
      inferInstance

/-- The parser of each of the types. -/
def parse (τ : UnknownBlockTy) (v : Value) : Except SerdeError (UnknownBlockError τ) :=
  τ.handlerError.parse v

/-- What the parser accepts beyond the derived decoder: objects with the name of an unknown
block, as one without a message. -/
def Beyond (τ : UnknownBlockTy) (v : Value) (err : UnknownBlockError τ) : Prop :=
  (∃ m, v = .object m) ∧ v.index "name" = .string "UNKNOWN_BLOCK" ∧ err = .unknownBlock ""

/-! ## The shortcut -/

/-- All the types share the macro. -/
lemma parse_eq (τ : UnknownBlockTy) :
    τ.parse = shortcut (fun v => (v.index "name").eqStr "UNKNOWN_BLOCK") (.unknownBlock "")
      fromValue := by
  cases τ <;> rfl

lemma parse_of_namesUnknownBlock (τ : UnknownBlockTy) {v : Value} (h : NamesUnknownBlock v) :
    τ.parse v = .ok (.unknownBlock "") := by
  rw [τ.parse_eq]
  exact shortcut_of_test (namesUnknownBlock_iff.2 h)

/-- The parser is conservative where the derived decoder gives no other unknown block. -/
lemma conservativeAt_parse_iff (τ : UnknownBlockTy) (v : Value) :
    ConservativeAt fromValue τ.parse τ.Beyond v ↔
      (NamesUnknownBlock v → ∀ err : UnknownBlockError τ, fromValue v = .ok err →
        err = .unknownBlock "") := by
  rw [τ.parse_eq, conservativeAt_shortcut_iff, namesUnknownBlock_iff]
  intro h
  have hname : NamesUnknownBlock v := namesUnknownBlock_iff.1 h
  exact ⟨hname.exists_object, hname, rfl⟩

variable [LawfulUnknownBlock]

/-- What the derived decoder gives under the name of an unknown block is what it carries. -/
lemma forall_fromValue_iff (τ : UnknownBlockTy) (v : Value) :
    (NamesUnknownBlock v → ∀ err : UnknownBlockError τ, fromValue v = .ok err →
        err = .unknownBlock "") ↔ ∀ msg, CarriesMessage v msg → msg = "" := by
  constructor
  · rintro h msg ⟨hname, hfield⟩
    have hdecoded : fromValue v = .ok (UnknownBlockError.unknownBlock msg : UnknownBlockError τ) :=
      (LawfulUnknownBlock.fromValue_eq_ok_iff τ v _ hname).2 ⟨msg, hfield, rfl⟩
    exact UnknownBlockError.unknownBlock.inj (h hname _ hdecoded)
  · intro h hname err herr
    obtain ⟨msg, hfield, rfl⟩ := (LawfulUnknownBlock.fromValue_eq_ok_iff τ v err hname).1 herr
    rw [h msg ⟨hname, hfield⟩]

/-- **The workaround for unknown blocks.** For each of the error types, the parser extends
the derived decoder conservatively at a value, and keeps the message that the value
carries, exactly when the value carries no message but the empty one. -/
theorem parse_conservative_iff (τ : UnknownBlockTy) (v : Value) :
    (ConservativeAt fromValue τ.parse τ.Beyond v ∧
        ∀ msg, CarriesMessage v msg → τ.parse v = .ok (.unknownBlock msg))
      ↔ ∀ msg, CarriesMessage v msg → msg = "" := by
  rw [τ.conservativeAt_parse_iff, τ.forall_fromValue_iff, and_iff_left_iff_imp]
  intro h msg hmsg
  rw [τ.parse_of_namesUnknownBlock hmsg.1, h msg hmsg]

end UnknownBlockTy

end UnknownBlock

section Messages

open scoped Reference
open Reference

local instance lawfulUnknownBlock : LawfulUnknownBlock where
  fromValue_eq_ok_iff τ v err hname := by
    have hnameOf : nameOf v = some "UNKNOWN_BLOCK" := congrArg Value.asStr hname
    change unknownBlockErrorFromValue τ v = _ ↔ ∃ msg, infoOf v "error_message" = _ ∧ _
    rw [unknownBlockErrorFromValue, if_pos hnameOf]
    split
    · next s hs =>
      rw [hs]
      simp [eq_comm]
    · next hs =>
      refine iff_of_false (fun h => by cases h) ?_
      rintro ⟨msg, hmsg, -⟩
      exact hs msg hmsg

/-- An unknown block that is written without its message is accepted beyond the derived
decoder. -/
theorem UnknownBlockTy.parse_conservative_partial :
    ConservativeAt fromValue (parse .rpcChunkError) (Beyond .rpcChunkError)
      (tagged "UNKNOWN_BLOCK" []) := by
  refine ((parse_conservative_iff .rpcChunkError (tagged "UNKNOWN_BLOCK" [])).2 ?_).1
  rintro msg ⟨-, hmsg⟩
  cases hmsg

/-- An unknown block that is written with its message. -/
def fullUnknownBlock : Value :=
  tagged "UNKNOWN_BLOCK" [("error_message", .string "DB Not Found Error: BLOCK HEIGHT: 1")]

/-- The request for a block that the node does not have. -/
def unknownBlockRequest : RpcBlockRequest := Value.object [("block_id", .number (.posInt 1))]

/-- The body in which a node answers it. -/
def fullUnknownBlockBody : Value := errorBody (handlerErrorValue fullUnknownBlock .null)

local instance fullUnknownBlockJson : SerdeJson := serdeJson [fullUnknownBlockBody]

/-- The derived decoder reads the message, and the parser drops it; so does a call. -/
theorem UnknownBlockTy.parse_fullUnknownBlock :
    (fromValue fullUnknownBlock : Except SerdeError RpcBlockError)
      = .ok (.unknownBlock "DB Not Found Error: BLOCK HEIGHT: 1") ∧
    (RpcHandlerError.parse fullUnknownBlock : Except SerdeError RpcBlockError)
      = .ok (.unknownBlock "") ∧
    ((JsonRpcClient.connect "http://localhost:3030").call
        (always (reply .OK fullUnknownBlockBody)) unknownBlockRequest).result
      = .error (.serverError (.handlerError (.unknownBlock ""))) ∧
    ¬ ∀ (τ : UnknownBlockTy) (v : Value), ConservativeAt fromValue τ.parse τ.Beyond v := by
  have hdecoded : (fromValue fullUnknownBlock : Except SerdeError RpcBlockError)
      = .ok (.unknownBlock "DB Not Found Error: BLOCK HEIGHT: 1") := rfl
  have hparsed : (RpcHandlerError.parse fullUnknownBlock : Except SerdeError RpcBlockError)
      = .ok (.unknownBlock "") := rfl
  refine ⟨hdecoded, hparsed, ?_, ?_⟩
  · have herr := rpcErrorOf_errorStruct fullUnknownBlock .null
    rw [call_result_of_answered (answered_always _ rfl (by decide) _)]
    exact readResponse_result_of_outcome rfl
      (.error (decodes_errorBody .OK _ _ []) (.handler herr hparsed))
  · intro h
    have hkept := (h .rpcBlockError fullUnknownBlock).keeps _ hdecoded
    have hsame := hparsed.symm.trans hkept
    simp at hsame

end Messages

end NearJsonrpcClient
