/-
# The `near-*` crates

The types and functions of `near-primitives`, `near-crypto`, `near-chain-configs` and
`near-jsonrpc-primitives` that the client names.  They are not part of this repository, so
they are parameters.  Of an error enumeration the variants that the client constructs or
matches are constructors here, and the remaining ones are a parameter.
-/
import NearJsonrpcClient.Serde

namespace NearJsonrpcClient

/-- The types that the client only sends, or only receives, as JSON. -/
inductive NearTy where
  -- arguments of requests
  | cryptoHash | accountId | txExecutionStatus | maybeBlockId
  -- requests
  | rpcBlockRequest | rpcChunkRequest | rpcLightClientExecutionProofRequest
  | rpcLightClientNextBlockRequest | rpcQueryRequest | rpcValidatorRequest
  | rpcStateChangesInBlockByTypeRequest | rpcStateChangesInBlockRequest
  | rpcProtocolConfigRequest | rpcReceiptRequest | rpcValidatorsOrderedRequest
  | rpcSandboxPatchStateRequest | rpcSandboxFastForwardRequest
  -- responses
  | blockView | chunkView | gasPriceView | finalExecutionOutcomeView | rpcHealthResponse
  | rpcLightClientExecutionProofResponse | rpcNetworkInfoResponse | lightClientBlockView
  | rpcQueryResponse | rpcTransactionResponse | statusResponse | epochValidatorInfo
  | rpcStateChangesInBlockResponse | rpcStateChangesInBlockByTypeResponse | genesisConfig
  | protocolConfigView | receiptView | rpcValidatorsOrderedResponse
  | rpcSandboxPatchStateResponse | rpcSandboxFastForwardResponse
  -- errors
  | rpcStatusError | rpcValidatorError | rpcReceiptError | rpcNetworkInfoError
  | rpcSandboxPatchStateError | rpcSandboxFastForwardError
deriving DecidableEq

/-- The error types that the client decodes with `parse_unknown_block!`. -/
inductive UnknownBlockTy where
  | rpcBlockError | rpcChunkError | rpcGasPriceError | rpcLightClientProofError
  | rpcLightClientNextBlockError | rpcStateChangesError | rpcProtocolConfigError
deriving DecidableEq

/-- The types of the `near-*` crates. -/
class NearTypes where
  /-- The types that the client does not look into. -/
  Ty : NearTy → Type
  /-- The variants of an error type other than `UnknownBlock`. -/
  UnknownBlockRest : UnknownBlockTy → Type
  /-- The variants of `RpcQueryError` that the client does not construct. -/
  RpcQueryErrorRest : Type
  /-- The variants of `RpcTransactionError` that the client does not construct. -/
  RpcTransactionErrorRest : Type
  /-- The variants of `ServerError` other than `TxExecutionError`. -/
  ServerErrorRest : Type
  /-- The variants of `TxExecutionError` other than `InvalidTxError`. -/
  TxExecutionErrorRest : Type
  InvalidTxError : Type
  PublicKey : Type
  SignedTransaction : Type
  RpcRequestValidationErrorKind : Type
  /-- `near_jsonrpc_primitives::message::Message`. -/
  Message : Type
  /-- `near_jsonrpc_primitives::message::Broken`. -/
  Broken : Type
  /-- What the body of a reply is deserialized to before it is checked. -/
  WireMessage : Type

export NearTypes (InvalidTxError PublicKey SignedTransaction RpcRequestValidationErrorKind
  Message Broken WireMessage)

variable [NearTypes]

abbrev CryptoHash : Type := NearTypes.Ty .cryptoHash
abbrev AccountId : Type := NearTypes.Ty .accountId
abbrev TxExecutionStatus : Type := NearTypes.Ty .txExecutionStatus
abbrev MaybeBlockId : Type := NearTypes.Ty .maybeBlockId

/-- `near_primitives::types::BlockHeight`. -/
abbrev BlockHeight : Type := UInt64

/-! ## Errors of the handlers -/

/-- An error type with a variant `UnknownBlock`. -/
inductive UnknownBlockError (τ : UnknownBlockTy) where
  | unknownBlock (errorMessage : String)
  | other (err : NearTypes.UnknownBlockRest τ)

abbrev RpcBlockError : Type := UnknownBlockError .rpcBlockError
abbrev RpcChunkError : Type := UnknownBlockError .rpcChunkError
abbrev RpcGasPriceError : Type := UnknownBlockError .rpcGasPriceError
abbrev RpcLightClientProofError : Type := UnknownBlockError .rpcLightClientProofError
abbrev RpcLightClientNextBlockError : Type := UnknownBlockError .rpcLightClientNextBlockError
abbrev RpcStateChangesError : Type := UnknownBlockError .rpcStateChangesError
abbrev RpcProtocolConfigError : Type := UnknownBlockError .rpcProtocolConfigError

inductive RpcQueryError where
  | unknownAccessKey (publicKey : PublicKey) (blockHeight : BlockHeight) (blockHash : CryptoHash)
  | contractExecutionError (vmError : String) (blockHeight : BlockHeight) (blockHash : CryptoHash)
  | other (err : NearTypes.RpcQueryErrorRest)

inductive RpcTransactionError where
  | invalidTransaction (context : InvalidTxError)
  | timeoutError
  | other (err : NearTypes.RpcTransactionErrorRest)

inductive TxExecutionError where
  | invalidTxError (context : InvalidTxError)
  | other (err : NearTypes.TxExecutionErrorRest)

inductive ServerError where
  | txExecutionError (err : TxExecutionError)
  | other (err : NearTypes.ServerErrorRest)

/-! ## Errors of the JSON-RPC layer -/

inductive RpcErrorKind where
  | requestValidationError (kind : RpcRequestValidationErrorKind)
  | handlerError (err : Value)
  | internalError (err : Value)

structure RpcError where
  errorStruct : Option RpcErrorKind
  code : Int
  message : String
  data : Option Value

/-- The functions of the `near-*` crates. -/
class Near extends NearTypes where
  /-- `from_value` for a type that the client does not look into. -/
  tyFromValue : ∀ τ, Value → Except SerdeError (Ty τ)
  /-- `json!` for a type that the client does not look into. -/
  tyToValue : ∀ τ, Ty τ → Value
  unknownBlockErrorFromValue : ∀ τ, Value → Except SerdeError (UnknownBlockError τ)
  rpcQueryErrorFromValue : Value → Except SerdeError RpcQueryError
  rpcTransactionErrorFromValue : Value → Except SerdeError RpcTransactionError
  serverErrorFromValue : Value → Except SerdeError ServerError
  /-- `PublicKey::from_str`, with the text of its error. -/
  publicKeyFromStr : String → Except String PublicKey
  /-- `borsh::to_vec` for a signed transaction. -/
  borshToVec : SignedTransaction → Except IoError Bytes
  /-- `near_primitives::serialize::to_base64`. -/
  toBase64 : Bytes → String
  /-- `Message::request`, up to the random id that it puts into a message. -/
  messageRequest : String → Value → Message
  /-- `json!` for a message. -/
  messageToValue : Message → Value
  /-- `from_value` for the body of a reply. -/
  wireMessageFromValue : Value → Except SerdeError WireMessage
  /-- `message::decoded_to_parsed`. -/
  decodedToParsed : Except SerdeError WireMessage → Except Broken Message
  /-- The field `result` of a message that is a `Message::Response`. -/
  asResponse : Message → Option (Except RpcError Value)

end NearJsonrpcClient
