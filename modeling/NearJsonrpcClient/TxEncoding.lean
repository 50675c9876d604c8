/-
# Transactions on the wire

The five methods that carry a transaction, or the hash and the sender of one, write
payloads that tell them apart: a request can be recovered from its payload.  Encoding a
request fails only where its transaction is serialized.
-/
import NearJsonrpcClient.Lib.Utf8
import NearJsonrpcClient.Methods.Any
import NearJsonrpcClient.Reference.Near

namespace NearJsonrpcClient

open Lib

section Encoding

variable [Near]

/-! ## The requests -/

/-- The methods that carry a transaction. -/
inductive TransactionMethod where
  | tx | txStatus | sendTx | broadcastTxAsync | broadcastTxCommit
deriving DecidableEq

namespace TransactionMethod

abbrev typed : TransactionMethod → TypedMethod
  | .tx => .tx
  | .txStatus => .txStatus
  | .sendTx => .sendTx
  | .broadcastTxAsync => .broadcastTxAsync
  | .broadcastTxCommit => .broadcastTxCommit

/-- The requests of a method. -/
abbrev Request (m : TransactionMethod) : Type := m.typed.impl.Request

def name : TransactionMethod → String
  | .tx => "tx"
  | .txStatus => "EXPERIMENTAL_tx_status"
  | .sendTx => "send_tx"
  | .broadcastTxAsync => "broadcast_tx_async"
  | .broadcastTxCommit => "broadcast_tx_commit"

omit [Near] in
lemma name_injective : Function.Injective name := by
  intro m m' h
  cases m <;> cases m' <;> first | rfl | (exact absurd h (by decide))

lemma methodName_eq : ∀ {m : TransactionMethod} (request : m.Request),
    RpcMethod.methodName request = m.name
  | .tx, _ => rfl
  | .txStatus, _ => rfl
  | .sendTx, _ => rfl
  | .broadcastTxAsync, _ => rfl
  | .broadcastTxCommit, _ => rfl

/-- The signed transaction of a request, when it has one. -/
def signedTransaction : (m : TransactionMethod) → m.Request → Option SignedTransaction
  | .tx, ⟨.transaction (.signedTransaction signed), _⟩ => some signed
  | .tx, ⟨.transactionId _ _, _⟩ => none
  | .txStatus, ⟨.transaction (.signedTransaction signed), _⟩ => some signed
  | .txStatus, ⟨.transactionId _ _, _⟩ => none
  | .sendTx, ⟨signed, _⟩ => some signed
  | .broadcastTxAsync, ⟨signed⟩ => some signed
  | .broadcastTxCommit, ⟨signed⟩ => some signed

end TransactionMethod

/-- A request of one of the methods. -/
abbrev TransactionRequest : Type := Σ m : TransactionMethod, m.Request

/-- The payload of a request. -/
def TransactionRequest.toJson (r : TransactionRequest) : Except IoError Value :=
  NearJsonrpcClient.toJson r.2

/-- The encoders of the other crates lose nothing. -/
structure InjectiveEncodings : Prop where
  borsh : Unambiguous Near.borshToVec
  base64 : Function.Injective Near.toBase64
  cryptoHash : Function.Injective (toValue : CryptoHash → Value)
  accountId : Function.Injective (toValue : AccountId → Value)
  txExecutionStatus : Function.Injective (toValue : TxExecutionStatus → Value)
  message : Function.Injective2 fun (method : String) (params : Value) =>
    Near.messageToValue (Near.messageRequest method params)

/-! ## The encoders -/

lemma serializeSignedTransaction_eq (tx : SignedTransaction) :
    serializeSignedTransaction tx = (Near.borshToVec tx).map Near.toBase64 := by
  rw [serializeSignedTransaction]
  cases Near.borshToVec tx <;> rfl

lemma TransactionRequest.toJson_eq (r : TransactionRequest) :
    r.toJson = (RpcMethod.params r.2).map fun params =>
      Near.messageToValue (Near.messageRequest r.1.name params) := by
  rw [TransactionRequest.toJson, NearJsonrpcClient.toJson_eq, TransactionMethod.methodName_eq]

/-- The parameters of a request for a signed transaction. -/
def signedTransactionParams (waitUntil : TxExecutionStatus) (base64 : String) : Value :=
  .ofEntries [("signed_tx_base64", .string base64), ("wait_until", toValue waitUntil)]

/-- The parameters of a request for the hash and the sender of a transaction. -/
def transactionIdParams (txHash : CryptoHash) (senderAccountId : AccountId)
    (waitUntil : TxExecutionStatus) : Value :=
  .ofEntries
    [("tx_hash", toValue txHash), ("sender_account_id", toValue senderAccountId),
      ("wait_until", toValue waitUntil)]

lemma transactionStatusParams_transaction (tx : SignedTransaction)
    (waitUntil : TxExecutionStatus) :
    transactionStatusParams (.transaction (.signedTransaction tx)) waitUntil
      = (serializeSignedTransaction tx).map (signedTransactionParams waitUntil) := by
  rw [transactionStatusParams]
  cases serializeSignedTransaction tx <;> rfl

lemma params_sendTransaction (request : RpcSendTransactionRequest) :
    RpcMethod.params request
      = transactionStatusParams (.transaction (.signedTransaction request.signedTransaction))
          request.waitUntil := rfl

lemma params_broadcastTxAsync (request : RpcBroadcastTxAsyncRequest) :
    RpcMethod.params request
      = (serializeSignedTransaction request.signedTransaction).map fun s =>
          .array [.string s] := by
  change (do return Value.array [.string (← serializeSignedTransaction _)]) = _
  cases serializeSignedTransaction request.signedTransaction <;> rfl

lemma params_broadcastTxCommit (request : RpcBroadcastTxCommitRequest) :
    RpcMethod.params request
      = (serializeSignedTransaction request.signedTransaction).map fun s =>
          .array [.string s] := by
  change (do return Value.array [.string (← serializeSignedTransaction _)]) = _
  cases serializeSignedTransaction request.signedTransaction <;> rfl

/-! ## No two requests have the same payload -/

lemma signedTransactionParams_injective2 (hinj : InjectiveEncodings) :
    Function.Injective2 signedTransactionParams := by
  intro w w' s s' h
  have hs := congrArg (Value.index · "signed_tx_base64") h
  have hw := congrArg (Value.index · "wait_until") h
  simp [signedTransactionParams, Value.ofEntries, Value.index] at hs hw
  exact ⟨hinj.txExecutionStatus hw, hs⟩

lemma transactionIdParams_injective (hinj : InjectiveEncodings) {t t' : CryptoHash}
    {a a' : AccountId} {w w' : TxExecutionStatus}
    (h : transactionIdParams t a w = transactionIdParams t' a' w') :
    t = t' ∧ a = a' ∧ w = w' := by
  have ht := congrArg (Value.index · "tx_hash") h
  have ha := congrArg (Value.index · "sender_account_id") h
  have hw := congrArg (Value.index · "wait_until") h
  simp [transactionIdParams, Value.ofEntries, Value.index] at ht ha hw
  exact ⟨hinj.cryptoHash ht, hinj.accountId ha, hinj.txExecutionStatus hw⟩

lemma signedTransactionParams_ne_transactionIdParams {w w' : TxExecutionStatus} {s : String}
    {t : CryptoHash} {a : AccountId} :
    signedTransactionParams w s ≠ transactionIdParams t a w' := by
  intro h
  have hs := congrArg (Value.index · "signed_tx_base64") h
  simp [signedTransactionParams, transactionIdParams, Value.ofEntries, Value.index] at hs

lemma unambiguous_serializeSignedTransaction (hinj : InjectiveEncodings) :
    Unambiguous serializeSignedTransaction := by
  have h := hinj.borsh.map hinj.base64
  simpa only [← serializeSignedTransaction_eq] using h

lemma unambiguous_transactionStatusParams (hinj : InjectiveEncodings)
    {info info' : TransactionInfo} {w w' : TxExecutionStatus} {v : Value}
    (h : transactionStatusParams info w = .ok v) (h' : transactionStatusParams info' w' = .ok v) :
    info = info' ∧ w = w' := by
  rcases info with ⟨⟨t⟩⟩ | ⟨t, a⟩ <;> rcases info' with ⟨⟨t'⟩⟩ | ⟨t', a'⟩
  · rw [transactionStatusParams_transaction] at h h'
    obtain ⟨s, hs, rfl⟩ := map_eq_ok_iff.1 h
    obtain ⟨s', hs', heq⟩ := map_eq_ok_iff.1 h'
    obtain ⟨rfl, rfl⟩ := signedTransactionParams_injective2 hinj heq
    rw [unambiguous_serializeSignedTransaction hinj hs hs']
    exact ⟨rfl, rfl⟩
  · rw [transactionStatusParams_transaction] at h
    obtain ⟨s, hs, rfl⟩ := map_eq_ok_iff.1 h
    exact absurd (Except.ok.inj h').symm signedTransactionParams_ne_transactionIdParams
  · rw [transactionStatusParams_transaction] at h'
    obtain ⟨s, hs, rfl⟩ := map_eq_ok_iff.1 h'
    exact absurd (Except.ok.inj h).symm signedTransactionParams_ne_transactionIdParams
  · obtain ⟨rfl, rfl, rfl⟩ :=
      transactionIdParams_injective hinj (Except.ok.inj (h.trans h'.symm))
    exact ⟨rfl, rfl⟩

/-- The parameters of each method. -/
lemma unambiguous_params (hinj : InjectiveEncodings) (m : TransactionMethod) :
    Unambiguous fun request : m.Request => RpcMethod.params request := by
  have harray : Function.Injective fun s : String => Value.array [.string s] := by
    intro s s' h
    simpa using h
  cases m with
  | tx =>
    rintro ⟨info, w⟩ ⟨info', w'⟩ v h h'
    obtain ⟨rfl, rfl⟩ := unambiguous_transactionStatusParams hinj h h'
    rfl
  | txStatus =>
    rintro ⟨info, w⟩ ⟨info', w'⟩ v h h'
    obtain ⟨rfl, rfl⟩ := unambiguous_transactionStatusParams hinj h h'
    rfl
  | sendTx =>
    rintro ⟨t, w⟩ ⟨t', w'⟩ v h h'
    have h₁ := (params_sendTransaction ⟨t, w⟩).symm.trans h
    have h₂ := (params_sendTransaction ⟨t', w'⟩).symm.trans h'
    obtain ⟨ht, rfl⟩ := unambiguous_transactionStatusParams hinj h₁ h₂
    cases ht
    rfl
  | broadcastTxAsync =>
    rintro ⟨t⟩ ⟨t'⟩ v h h'
    have hser := (unambiguous_serializeSignedTransaction hinj).map harray
    have ht : t = t' := hser ((params_broadcastTxAsync ⟨t⟩).symm.trans h)
      ((params_broadcastTxAsync ⟨t'⟩).symm.trans h')
    rw [ht]
  | broadcastTxCommit =>
    rintro ⟨t⟩ ⟨t'⟩ v h h'
    have hser := (unambiguous_serializeSignedTransaction hinj).map harray
    have ht : t = t' := hser ((params_broadcastTxCommit ⟨t⟩).symm.trans h)
      ((params_broadcastTxCommit ⟨t'⟩).symm.trans h')
    rw [ht]

lemma TransactionRequest.unambiguous_toJson (hinj : InjectiveEncodings) :
    Unambiguous TransactionRequest.toJson := by
  have h := Unambiguous.sigma TransactionMethod.name_injective hinj.message
    (unambiguous_params hinj)
  simpa only [← TransactionRequest.toJson_eq] using h

/-! ## Encoding fails only where a transaction is serialized -/

/-- A request without a signed transaction has parameters, and those of any other request
are made of the text of its transaction. -/
lemma params_cases : ∀ (m : TransactionMethod) (request : m.Request),
    (m.signedTransaction request = none ∧ ∃ v, RpcMethod.params request = .ok v) ∨
      ∃ t f, m.signedTransaction request = some t ∧
        RpcMethod.params request = (serializeSignedTransaction t).map f
  | .tx, ⟨.transaction (.signedTransaction t), w⟩ =>
    .inr ⟨t, _, rfl, transactionStatusParams_transaction t w⟩
  | .tx, ⟨.transactionId _ _, _⟩ => .inl ⟨rfl, _, rfl⟩
  | .txStatus, ⟨.transaction (.signedTransaction t), w⟩ =>
    .inr ⟨t, _, rfl, transactionStatusParams_transaction t w⟩
  | .txStatus, ⟨.transactionId _ _, _⟩ => .inl ⟨rfl, _, rfl⟩
  | .sendTx, ⟨t, w⟩ => .inr ⟨t, _, rfl, transactionStatusParams_transaction t w⟩
  | .broadcastTxAsync, ⟨t⟩ => .inr ⟨t, _, rfl, params_broadcastTxAsync ⟨t⟩⟩
  | .broadcastTxCommit, ⟨t⟩ => .inr ⟨t, _, rfl, params_broadcastTxCommit ⟨t⟩⟩

lemma TransactionRequest.toJson_eq_error_iff (r : TransactionRequest) (e : IoError) :
    r.toJson = .error e ↔
      ∃ t, r.1.signedTransaction r.2 = some t ∧ Near.borshToVec t = .error e := by
  rw [TransactionRequest.toJson_eq, map_eq_error_iff]
  rcases params_cases r.1 r.2 with ⟨hnone, v, hv⟩ | ⟨t, f, ht, hp⟩
  · simp [hnone, hv]
  · simp [ht, hp, map_eq_error_iff, serializeSignedTransaction_eq]

/-- **Transactions on the wire.** Two requests with the same payload are the same request,
so a request can be recovered from its payload; and encoding a request fails exactly when
it has a signed transaction whose serialization fails. -/
theorem TransactionRequest.toJson_lossless (hinj : InjectiveEncodings) :
    (∀ (r₁ r₂ : TransactionRequest) (payload : Value),
      r₁.toJson = .ok payload → r₂.toJson = .ok payload → r₁ = r₂) ∧
    (∃ recover : Value → Option TransactionRequest,
      ∀ r payload, TransactionRequest.toJson r = .ok payload → recover payload = some r) ∧
    ∀ r : TransactionRequest, (∃ e, r.toJson = .error e) ↔
      ∃ t, r.1.signedTransaction r.2 = some t ∧ ∃ e, Near.borshToVec t = .error e := by
  have h := TransactionRequest.unambiguous_toJson hinj
  refine ⟨fun r₁ r₂ payload h₁ h₂ => h h₁ h₂, h.exists_decode, ?_⟩
  intro r
  simp only [TransactionRequest.toJson_eq_error_iff]
  constructor
  · rintro ⟨e, t, ht, he⟩
    exact ⟨t, ht, e, he⟩
  · rintro ⟨t, ht, e, he⟩
    exact ⟨e, t, ht, he⟩

end Encoding

section Payloads

open scoped Reference
open Reference

lemma toBase64_injective : Function.Injective Reference.toBase64 := by
  have hchar : Function.Injective fun x : UInt8 => Char.ofNat x.toNat := by
    intro x y h
    have hnat : x.toNat = y.toNat := by
      rw [← toNat_ofNat_toNat x, ← toNat_ofNat_toNat y]
      exact congrArg Char.toNat h
    exact UInt8.toNat_inj.1 hnat
  intro b b' h
  rw [Reference.toBase64, Reference.toBase64] at h
  split at h <;> split at h
  · next hb hb' => rw [hb, hb']
  · have hlist := congrArg String.toList h
    simp at hlist
  · have hlist := congrArg String.toList h
    simp at hlist
  · have hlist := congrArg String.toList h
    rw [String.toList_ofList, String.toList_ofList, List.cons_inj_right] at hlist
    exact hchar.list_map hlist

lemma injectiveEncodings_reference : InjectiveEncodings where
  borsh := by
    intro t t' b h h'
    exact (Except.ok.inj h).trans (Except.ok.inj h').symm
  base64 := toBase64_injective
  cryptoHash _ _ h := h
  accountId _ _ h := h
  txExecutionStatus _ _ h := h
  message := by
    intro m m' p p' (h : messageRequest m p = messageRequest m' p')
    have hm := congrArg (Value.index · "method") h
    have hp := congrArg (Value.index · "params") h
    simp only [messageRequest_method, messageRequest_params, Value.string.injEq] at hm hp
    exact ⟨hm, hp⟩

/-- A signed transaction, sent and waited for. -/
def sentTransaction : TransactionRequest :=
  ⟨.sendTx, ⟨([0x69, 0xb7, 0x1d] : Bytes), Value.string "FINAL"⟩⟩

/-- The status of the same transaction, waited for in the same way. -/
def polledTransaction : TransactionRequest :=
  ⟨.tx, ⟨.transaction (.signedTransaction ([0x69, 0xb7, 0x1d] : Bytes)), Value.string "FINAL"⟩⟩

/-- Sending a transaction and asking for its status are told apart by their payloads, and
neither fails. -/
theorem TransactionRequest.toJson_sentTransaction :
    sentTransaction.toJson ≠ polledTransaction.toJson ∧
      ¬ (∃ e, sentTransaction.toJson = .error e) := by
  obtain ⟨hinj, -, herror⟩ := TransactionRequest.toJson_lossless injectiveEncodings_reference
  constructor
  · intro h
    have heq := hinj sentTransaction polledTransaction _ rfl h.symm
    cases congrArg Sigma.fst heq
  · rw [herror]
    rintro ⟨t, -, e, he⟩
    cases he

end Payloads

end NearJsonrpcClient
