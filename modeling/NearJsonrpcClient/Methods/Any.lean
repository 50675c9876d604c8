/-
# The generic method, and all typed methods

`RpcAnyRequest` of `methods/any`, which carries its method name and its parameters as they
are and borrows the types of a response and an error, and the list of the methods of the
crate that have request types of their own.
-/
import NearJsonrpcClient.Methods.Plain
import NearJsonrpcClient.Methods.Query
import NearJsonrpcClient.Methods.Transactions

namespace NearJsonrpcClient

/-- What a generic request takes its types from. -/
class AnyRequestResult (T : Type) (R E : outParam Type) where

instance {R E : Type} : AnyRequestResult (Except E R) R E where

instance {M R E : Type} [RpcHandlerResponse R] [RpcHandlerError E] [RpcMethod M R E] :
    AnyRequestResult M R E where

structure RpcAnyRequest (T E : Type) where
  method : String
  params : Value

instance {T E : Type} [RpcHandlerResponse T] [RpcHandlerError E] :
    RpcMethod (RpcAnyRequest T E) T E where
  methodName self := self.method
  params self := .ok self.params

/-- `methods::any::<T>(method_name, params)`. -/
def any (T : Type) {R E : Type} [AnyRequestResult T R E] (methodName : String) (params : Value) :
    RpcAnyRequest R E :=
  { method := methodName, params := params }

/-- `&…&T` with a number of references. -/
def RefN (T : Type) : ℕ → Type
  | 0 => T
  | n + 1 => Ref (RefN T n)

/-- A value behind a number of references. -/
def refN {T : Type} (self : T) : (n : ℕ) → RefN T n
  | 0 => self
  | n + 1 => ⟨refN self n⟩

instance instRpcMethodRefN {M R E : Type} [RpcHandlerResponse R] [RpcHandlerError E]
    [RpcMethod M R E] : (n : ℕ) → RpcMethod (RefN M n) R E
  | 0 => inferInstanceAs (RpcMethod M R E)
  | n + 1 =>
      have := instRpcMethodRefN (M := M) n
      inferInstanceAs (RpcMethod (Ref (RefN M n)) R E)

/-! ## All typed methods -/

/-- A request type that is a method, with its response and error types. -/
structure MethodImpl where
  Request : Type
  Response : Type
  Error : Type
  [response : RpcHandlerResponse Response]
  [error : RpcHandlerError Error]
  [method : RpcMethod Request Response Error]

instance (impl : MethodImpl) : RpcHandlerResponse impl.Response := impl.response
instance (impl : MethodImpl) : RpcHandlerError impl.Error := impl.error
instance (impl : MethodImpl) : RpcMethod impl.Request impl.Response impl.Error := impl.method

/-- The methods with a request type of their own. -/
inductive TypedMethod where
  | block | broadcastTxAsync | broadcastTxCommit | chunk | gasPrice | health
  | lightClientProof | networkInfo | nextLightClientBlock | query | sendTx | status | tx
  | validators | changes | changesInBlock | genesisConfig | protocolConfig | receipt
  | txStatus | validatorsOrdered | sandboxPatchState | sandboxFastForward | advCheckStore
  | advDisableDoomslug | advDisableHeaderSync | advGetSavedBlocks | advProduceBlocks
  | advSetWeight | advSwitchToHeight
deriving DecidableEq

variable [Near]

/-- The implementation of a typed method. -/
abbrev TypedMethod.impl : TypedMethod → MethodImpl
  | .block => ⟨RpcBlockRequest, RpcBlockResponse, RpcBlockError⟩
  | .broadcastTxAsync =>
      ⟨RpcBroadcastTxAsyncRequest, RpcBroadcastTxAsyncResponse, RpcBroadcastTxAsyncError⟩
  | .broadcastTxCommit =>
      ⟨RpcBroadcastTxCommitRequest, RpcBroadcastTxCommitResponse, RpcTransactionError⟩
  | .chunk => ⟨RpcChunkRequest, RpcChunkResponse, RpcChunkError⟩
  | .gasPrice => ⟨RpcGasPriceRequest, RpcGasPriceResponse, RpcGasPriceError⟩
  | .health => ⟨RpcHealthRequest, RpcHealthResponse, RpcStatusError⟩
  | .lightClientProof =>
      ⟨RpcLightClientExecutionProofRequest, RpcLightClientExecutionProofResponse,
        RpcLightClientProofError⟩
  | .networkInfo => ⟨RpcNetworkInfoRequest, RpcNetworkInfoResponse, RpcNetworkInfoError⟩
  | .nextLightClientBlock =>
      ⟨RpcLightClientNextBlockRequest, RpcLightClientNextBlockResponse,
        RpcLightClientNextBlockError⟩
  | .query => ⟨RpcQueryRequest, RpcQueryResponse, RpcQueryError⟩
  | .sendTx => ⟨RpcSendTransactionRequest, RpcTransactionResponse, RpcTransactionError⟩
  | .status => ⟨RpcStatusRequest, RpcStatusResponse, RpcStatusError⟩
  | .tx => ⟨Tx.RpcTransactionStatusRequest, RpcTransactionResponse, RpcTransactionError⟩
  | .validators => ⟨RpcValidatorRequest, RpcValidatorResponse, RpcValidatorError⟩
  | .changes =>
      ⟨RpcStateChangesInBlockByTypeRequest, RpcStateChangesInBlockResponse, RpcStateChangesError⟩
  | .changesInBlock =>
      ⟨RpcStateChangesInBlockRequest, RpcStateChangesInBlockByTypeResponse, RpcStateChangesError⟩
  | .genesisConfig => ⟨RpcGenesisConfigRequest, RpcGenesisConfigResponse, RpcGenesisConfigError⟩
  | .protocolConfig => ⟨RpcProtocolConfigRequest, RpcProtocolConfigResponse, RpcProtocolConfigError⟩
  | .receipt => ⟨RpcReceiptRequest, RpcReceiptResponse, RpcReceiptError⟩
  | .txStatus =>
      ⟨ExperimentalTxStatus.RpcTransactionStatusRequest, RpcTransactionResponse,
        RpcTransactionError⟩
  | .validatorsOrdered =>
      ⟨RpcValidatorsOrderedRequest, RpcValidatorsOrderedResponse, RpcValidatorError⟩
  | .sandboxPatchState =>
      ⟨RpcSandboxPatchStateRequest, RpcSandboxPatchStateResponse, RpcSandboxPatchStateError⟩
  | .sandboxFastForward =>
      ⟨RpcSandboxFastForwardRequest, RpcSandboxFastForwardResponse, RpcSandboxFastForwardError⟩
  | .advCheckStore => ⟨RpcAdversarialCheckStoreRequest, RpcAdversarialCheckStoreResponse, Unit⟩
  | .advDisableDoomslug => ⟨RpcAdversarialDisableDoomslugRequest, Unit, Unit⟩
  | .advDisableHeaderSync => ⟨RpcAdversarialDisableHeaderSyncRequest, Unit, Unit⟩
  | .advGetSavedBlocks =>
      ⟨RpcAdversarialGetSavedBlocksRequest, RpcAdversarialGetSavedBlocksResponse, Unit⟩
  | .advProduceBlocks => ⟨RpcAdversarialProduceBlocksRequest, Unit, Unit⟩
  | .advSetWeight => ⟨RpcAdversarialSetWeightRequest, Unit, Unit⟩
  | .advSwitchToHeight => ⟨RpcAdversarialSwitchToHeightRequest, Unit, Unit⟩

end NearJsonrpcClient
