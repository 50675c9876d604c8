/-
# Methods that carry a transaction

`tx`, `EXPERIMENTAL_tx_status`, `send_tx`, `broadcast_tx_async` and `broadcast_tx_commit`.
-/
import NearJsonrpcClient.Methods.Common

namespace NearJsonrpcClient

variable [Near]

/-- `near_jsonrpc_primitives::types::transactions::SignedTransaction`. -/
inductive TransactionInfo.Signed where
  | signedTransaction (tx : SignedTransaction)

inductive TransactionInfo where
  | transaction (signedTransaction : TransactionInfo.Signed)
  | transactionId (txHash : CryptoHash) (senderAccountId : AccountId)

/-- The parameters of the two methods that ask for the status of a transaction. -/
def transactionStatusParams (transactionInfo : TransactionInfo) (waitUntil : TxExecutionStatus) :
    Except IoError Value :=
  match transactionInfo with
  | .transaction signedTransaction =>
      match signedTransaction with
      | .signedTransaction tx => do
          return .ofEntries
            [("signed_tx_base64", .string (← serializeSignedTransaction tx)),
              ("wait_until", toValue waitUntil)]
  | .transactionId txHash senderAccountId =>
      .ok (.ofEntries
        [("tx_hash", toValue txHash),
          ("sender_account_id", toValue senderAccountId),
          ("wait_until", toValue waitUntil)])

namespace Tx

structure RpcTransactionStatusRequest where
  transactionInfo : TransactionInfo
  waitUntil : TxExecutionStatus

instance : RpcMethod RpcTransactionStatusRequest RpcTransactionResponse RpcTransactionError where
  methodName _ := "tx"
  params self := transactionStatusParams self.transactionInfo self.waitUntil

end Tx

namespace ExperimentalTxStatus

structure RpcTransactionStatusRequest where
  transactionInfo : TransactionInfo
  waitUntil : TxExecutionStatus

instance : RpcMethod RpcTransactionStatusRequest RpcTransactionResponse RpcTransactionError where
  methodName _ := "EXPERIMENTAL_tx_status"
  params self := transactionStatusParams self.transactionInfo self.waitUntil

end ExperimentalTxStatus

structure RpcSendTransactionRequest where
  signedTransaction : SignedTransaction
  waitUntil : TxExecutionStatus

instance : RpcMethod RpcSendTransactionRequest RpcTransactionResponse RpcTransactionError where
  methodName _ := "send_tx"
  params self := do
    return .ofEntries
      [("signed_tx_base64", .string (← serializeSignedTransaction self.signedTransaction)),
        ("wait_until", toValue self.waitUntil)]

abbrev RpcBroadcastTxAsyncResponse : Type := CryptoHash

structure RpcBroadcastTxAsyncRequest where
  signedTransaction : SignedTransaction

/-- An error that is never constructed. -/
inductive RpcBroadcastTxAsyncError

instance : Deserialize RpcBroadcastTxAsyncError where
  fromValue v := .error (noVariants v)

instance : RpcHandlerResponse RpcBroadcastTxAsyncResponse where

instance : RpcHandlerError RpcBroadcastTxAsyncError where

instance : RpcMethod RpcBroadcastTxAsyncRequest RpcBroadcastTxAsyncResponse
    RpcBroadcastTxAsyncError where
  methodName _ := "broadcast_tx_async"
  params self := do
    return .array [.string (← serializeSignedTransaction self.signedTransaction)]

abbrev RpcBroadcastTxCommitResponse : Type := FinalExecutionOutcomeView

structure RpcBroadcastTxCommitRequest where
  signedTransaction : SignedTransaction

instance : RpcMethod RpcBroadcastTxCommitRequest RpcBroadcastTxCommitResponse
    RpcTransactionError where
  methodName _ := "broadcast_tx_commit"
  params self := do
    return .array [.string (← serializeSignedTransaction self.signedTransaction)]

end NearJsonrpcClient
