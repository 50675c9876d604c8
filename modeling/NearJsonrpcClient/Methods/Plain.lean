/-
# The remaining methods

The methods of `methods/` that send their request as it stands, or a few of its fields,
and inherit the provided parser for results: the public methods, the experimental ones,
and those of the features `sandbox` and `adversarial`.
-/
import NearJsonrpcClient.Methods.Common

namespace NearJsonrpcClient

variable [Near]

/-! ## Public methods -/

abbrev RpcBlockRequest : Type := NearTypes.Ty .rpcBlockRequest
abbrev RpcBlockResponse : Type := NearTypes.Ty .blockView

instance : RpcHandlerResponse RpcBlockResponse where

instance : RpcHandlerError RpcBlockError where
  parse value := parseUnknownBlock value

instance : RpcMethod RpcBlockRequest RpcBlockResponse RpcBlockError where
  methodName _ := "block"
  params self := .ok (toValue self)

abbrev RpcChunkRequest : Type := NearTypes.Ty .rpcChunkRequest
abbrev RpcChunkResponse : Type := NearTypes.Ty .chunkView

instance : RpcHandlerResponse RpcChunkResponse where

instance : RpcHandlerError RpcChunkError where
  parse value := parseUnknownBlock value

instance : RpcMethod RpcChunkRequest RpcChunkResponse RpcChunkError where
  methodName _ := "chunk"
  params self := .ok (toValue self)

structure RpcGasPriceRequest where
  blockId : MaybeBlockId

abbrev RpcGasPriceResponse : Type := NearTypes.Ty .gasPriceView

instance : RpcHandlerResponse RpcGasPriceResponse where

instance : RpcHandlerError RpcGasPriceError where
  parse value := parseUnknownBlock value

instance : RpcMethod RpcGasPriceRequest RpcGasPriceResponse RpcGasPriceError where
  methodName _ := "gas_price"
  params self := .ok (.array [toValue self.blockId])

structure RpcHealthRequest where

abbrev RpcHealthResponse : Type := NearTypes.Ty .rpcHealthResponse

instance : RpcHandlerResponse RpcHealthResponse where

instance : RpcMethod RpcHealthRequest RpcHealthResponse RpcStatusError where
  methodName _ := "health"
  params _ := .ok .null

abbrev RpcLightClientExecutionProofRequest : Type := NearTypes.Ty .rpcLightClientExecutionProofRequest
abbrev RpcLightClientExecutionProofResponse : Type :=
  NearTypes.Ty .rpcLightClientExecutionProofResponse

instance : RpcHandlerResponse RpcLightClientExecutionProofResponse where

instance : RpcHandlerError RpcLightClientProofError where
  parse value := parseUnknownBlock value

instance : RpcMethod RpcLightClientExecutionProofRequest RpcLightClientExecutionProofResponse
    RpcLightClientProofError where
  methodName _ := "light_client_proof"
  params self := .ok (toValue self)

structure RpcNetworkInfoRequest where

abbrev RpcNetworkInfoResponse : Type := NearTypes.Ty .rpcNetworkInfoResponse
abbrev RpcNetworkInfoError : Type := NearTypes.Ty .rpcNetworkInfoError

instance : RpcHandlerResponse RpcNetworkInfoResponse where

instance : RpcHandlerError RpcNetworkInfoError where

instance : RpcMethod RpcNetworkInfoRequest RpcNetworkInfoResponse RpcNetworkInfoError where
  methodName _ := "network_info"
  params _ := .ok .null

abbrev RpcLightClientNextBlockRequest : Type := NearTypes.Ty .rpcLightClientNextBlockRequest
abbrev RpcLightClientNextBlockResponse : Type := Option (NearTypes.Ty .lightClientBlockView)

instance : RpcHandlerResponse RpcLightClientNextBlockResponse where

instance : RpcHandlerError RpcLightClientNextBlockError where
  parse value := parseUnknownBlock value

instance : RpcMethod RpcLightClientNextBlockRequest RpcLightClientNextBlockResponse
    RpcLightClientNextBlockError where
  methodName _ := "next_light_client_block"
  params self := .ok (toValue self)

structure RpcStatusRequest where

abbrev RpcStatusResponse : Type := NearTypes.Ty .statusResponse

instance : RpcHandlerResponse RpcStatusResponse where

instance : RpcMethod RpcStatusRequest RpcStatusResponse RpcStatusError where
  methodName _ := "status"
  params _ := .ok .null

abbrev RpcValidatorRequest : Type := NearTypes.Ty .rpcValidatorRequest
abbrev RpcValidatorResponse : Type := NearTypes.Ty .epochValidatorInfo

instance : RpcHandlerResponse RpcValidatorResponse where

instance : RpcMethod RpcValidatorRequest RpcValidatorResponse RpcValidatorError where
  methodName _ := "validators"
  params self := .ok (toValue self)

/-! ## Experimental methods -/

abbrev RpcStateChangesInBlockByTypeRequest : Type :=
  NearTypes.Ty .rpcStateChangesInBlockByTypeRequest
abbrev RpcStateChangesInBlockResponse : Type := NearTypes.Ty .rpcStateChangesInBlockResponse

instance : RpcHandlerResponse RpcStateChangesInBlockResponse where

instance : RpcMethod RpcStateChangesInBlockByTypeRequest RpcStateChangesInBlockResponse
    RpcStateChangesError where
  methodName _ := "EXPERIMENTAL_changes"
  params self := .ok (toValue self)

abbrev RpcStateChangesInBlockRequest : Type := NearTypes.Ty .rpcStateChangesInBlockRequest
abbrev RpcStateChangesInBlockByTypeResponse : Type :=
  NearTypes.Ty .rpcStateChangesInBlockByTypeResponse

instance : RpcHandlerResponse RpcStateChangesInBlockByTypeResponse where

instance : RpcMethod RpcStateChangesInBlockRequest RpcStateChangesInBlockByTypeResponse
    RpcStateChangesError where
  methodName _ := "EXPERIMENTAL_changes_in_block"
  params self := .ok (toValue self)

structure RpcGenesisConfigRequest where

abbrev RpcGenesisConfigResponse : Type := NearTypes.Ty .genesisConfig

/-- An error that is never constructed. -/
inductive RpcGenesisConfigError

instance : Deserialize RpcGenesisConfigError where
  fromValue v := .error (noVariants v)

instance : RpcHandlerResponse RpcGenesisConfigResponse where

instance : RpcHandlerError RpcGenesisConfigError where

instance : RpcMethod RpcGenesisConfigRequest RpcGenesisConfigResponse RpcGenesisConfigError where
  methodName _ := "EXPERIMENTAL_genesis_config"
  params _ := .ok .null

abbrev RpcProtocolConfigRequest : Type := NearTypes.Ty .rpcProtocolConfigRequest
abbrev RpcProtocolConfigResponse : Type := NearTypes.Ty .protocolConfigView

instance : RpcHandlerResponse RpcProtocolConfigResponse where

instance : RpcHandlerError RpcProtocolConfigError where
  parse value := parseUnknownBlock value

instance : RpcMethod RpcProtocolConfigRequest RpcProtocolConfigResponse
    RpcProtocolConfigError where
  methodName _ := "EXPERIMENTAL_protocol_config"
  params self := .ok (toValue self)

abbrev RpcReceiptRequest : Type := NearTypes.Ty .rpcReceiptRequest
abbrev RpcReceiptResponse : Type := NearTypes.Ty .receiptView
abbrev RpcReceiptError : Type := NearTypes.Ty .rpcReceiptError

instance : RpcHandlerResponse RpcReceiptResponse where

instance : RpcHandlerError RpcReceiptError where

instance : RpcMethod RpcReceiptRequest RpcReceiptResponse RpcReceiptError where
  methodName _ := "EXPERIMENTAL_receipt"
  params self := .ok (toValue self)

abbrev RpcValidatorsOrderedRequest : Type := NearTypes.Ty .rpcValidatorsOrderedRequest
abbrev RpcValidatorsOrderedResponse : Type := NearTypes.Ty .rpcValidatorsOrderedResponse

instance : RpcHandlerResponse RpcValidatorsOrderedResponse where

instance : RpcMethod RpcValidatorsOrderedRequest RpcValidatorsOrderedResponse
    RpcValidatorError where
  methodName _ := "EXPERIMENTAL_validators_ordered"
  params self := .ok (toValue self)

/-! ## Sandbox methods -/

abbrev RpcSandboxPatchStateRequest : Type := NearTypes.Ty .rpcSandboxPatchStateRequest
abbrev RpcSandboxPatchStateResponse : Type := NearTypes.Ty .rpcSandboxPatchStateResponse
abbrev RpcSandboxPatchStateError : Type := NearTypes.Ty .rpcSandboxPatchStateError

instance : RpcHandlerResponse RpcSandboxPatchStateResponse where

instance : RpcHandlerError RpcSandboxPatchStateError where

instance : RpcMethod RpcSandboxPatchStateRequest RpcSandboxPatchStateResponse
    RpcSandboxPatchStateError where
  methodName _ := "sandbox_patch_state"
  params self := .ok (toValue self)

abbrev RpcSandboxFastForwardRequest : Type := NearTypes.Ty .rpcSandboxFastForwardRequest
abbrev RpcSandboxFastForwardResponse : Type := NearTypes.Ty .rpcSandboxFastForwardResponse
abbrev RpcSandboxFastForwardError : Type := NearTypes.Ty .rpcSandboxFastForwardError

instance : RpcHandlerResponse RpcSandboxFastForwardResponse where

instance : RpcHandlerError RpcSandboxFastForwardError where

instance : RpcMethod RpcSandboxFastForwardRequest RpcSandboxFastForwardResponse
    RpcSandboxFastForwardError where
  methodName _ := "sandbox_fast_forward"
  params self := .ok (toValue self)

/-! ## Adversarial methods -/

omit [Near]

structure RpcAdversarialCheckStoreRequest where

structure RpcAdversarialCheckStoreResponse where
  value : UInt64

/-- The derived `Deserialize` of a structure with one unnamed field. -/
instance : Deserialize RpcAdversarialCheckStoreResponse where
  fromValue v := (fromValue v).map .mk

instance : RpcHandlerResponse RpcAdversarialCheckStoreResponse where

instance : RpcMethod RpcAdversarialCheckStoreRequest RpcAdversarialCheckStoreResponse Unit where
  methodName _ := "adv_check_store"
  params _ := .ok .null

structure RpcAdversarialDisableDoomslugRequest where

instance : RpcMethod RpcAdversarialDisableDoomslugRequest Unit Unit where
  methodName _ := "adv_disable_doomslug"
  params _ := .ok .null

structure RpcAdversarialDisableHeaderSyncRequest where

instance : RpcMethod RpcAdversarialDisableHeaderSyncRequest Unit Unit where
  methodName _ := "adv_disable_header_sync"
  params _ := .ok .null

structure RpcAdversarialGetSavedBlocksRequest where

structure RpcAdversarialGetSavedBlocksResponse where
  value : UInt64

/-- The derived `Deserialize` of a structure with one unnamed field. -/
instance : Deserialize RpcAdversarialGetSavedBlocksResponse where
  fromValue v := (fromValue v).map .mk

instance : RpcHandlerResponse RpcAdversarialGetSavedBlocksResponse where

instance : RpcMethod RpcAdversarialGetSavedBlocksRequest RpcAdversarialGetSavedBlocksResponse
    Unit where
  methodName _ := "adv_get_saved_blocks"
  params _ := .ok .null

structure RpcAdversarialProduceBlocksRequest where
  numBlocks : UInt64
  onlyValid : Bool

instance : RpcMethod RpcAdversarialProduceBlocksRequest Unit Unit where
  methodName _ := "adv_produce_blocks"
  params self := .ok (.array [toValue self.numBlocks, toValue self.onlyValid])

structure RpcAdversarialSetWeightRequest where
  height : UInt64

instance : RpcMethod RpcAdversarialSetWeightRequest Unit Unit where
  methodName _ := "adv_set_weight"
  params self := .ok (toValue self.height)

structure RpcAdversarialSwitchToHeightRequest where
  height : UInt64

instance : RpcMethod RpcAdversarialSwitchToHeightRequest Unit Unit where
  methodName _ := "adv_switch_to_height"
  params self := .ok (.array [toValue self.height])

end NearJsonrpcClient
