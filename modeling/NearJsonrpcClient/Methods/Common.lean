/-
# What the methods share

The module `common` of `methods/mod.rs`: the workaround for partially serialized
`UnknownBlock` errors, the transaction serializer, and the response and error
implementations that several methods use.
-/
import NearJsonrpcClient.Methods

namespace NearJsonrpcClient

variable [Near]

instance {τ : NearTy} : Deserialize (NearTypes.Ty τ) := ⟨Near.tyFromValue τ⟩
instance {τ : NearTy} : Serialize (NearTypes.Ty τ) := ⟨Near.tyToValue τ⟩
instance {τ : UnknownBlockTy} : Deserialize (UnknownBlockError τ) :=
  ⟨Near.unknownBlockErrorFromValue τ⟩
instance : Deserialize RpcQueryError := ⟨Near.rpcQueryErrorFromValue⟩
instance : Deserialize RpcTransactionError := ⟨Near.rpcTransactionErrorFromValue⟩
instance : Deserialize ServerError := ⟨Near.serverErrorFromValue⟩

/-- `Deserialize for Option<T>`. -/
instance {T : Type} [Deserialize T] : Deserialize (Option T) where
  fromValue
    | .null => .ok none
    | v => (fromValue v).map some

/-- `parse_unknown_block!`: the workaround for deserializing partially serialized error
types missing the field `error_message` in their `UnknownBlock` variants. -/
def parseUnknownBlock {τ : UnknownBlockTy} (err : Value) : Except SerdeError (UnknownBlockError τ) :=
  if (err.index "name").eqStr "UNKNOWN_BLOCK" then .ok (.unknownBlock "")
  else fromValue err

def serializeSignedTransaction (tx : SignedTransaction) : Except IoError String := do
  return Near.toBase64 (← Near.borshToVec tx)

-- adv_*
instance : RpcHandlerError Unit where

-- adv_*
instance : RpcHandlerResponse Unit where
  parse _ := .ok ()

instance : RpcHandlerResponse Value where
  parse value := .ok value

instance : RpcHandlerError Value where
  parse handlerError := .ok handlerError

abbrev FinalExecutionOutcomeView : Type := NearTypes.Ty .finalExecutionOutcomeView
abbrev RpcStatusError : Type := NearTypes.Ty .rpcStatusError
abbrev RpcTransactionResponse : Type := NearTypes.Ty .rpcTransactionResponse
abbrev RpcValidatorError : Type := NearTypes.Ty .rpcValidatorError

-- broadcast_tx_commit, tx
instance : RpcHandlerResponse FinalExecutionOutcomeView where

-- broadcast_tx_commit, tx, EXPERIMENTAL_tx_status
instance : RpcHandlerError RpcTransactionError where
  parseLegacyError value :=
    match (fromValue value : Except SerdeError ServerError) with
    | .ok (.txExecutionError (.invalidTxError context)) =>
        some (.ok (.invalidTransaction context))
    | .error err => some (.error err)
    | _ => none

-- health, status
instance : RpcHandlerError RpcStatusError where

-- EXPERIMENTAL_changes, EXPERIMENTAL_changes_in_block
instance : RpcHandlerError RpcStateChangesError where
  parse value := parseUnknownBlock value

-- send_tx
instance : RpcHandlerResponse RpcTransactionResponse where

-- validators, EXPERIMENTAL_validators_ordered
instance : RpcHandlerError RpcValidatorError where

end NearJsonrpcClient
