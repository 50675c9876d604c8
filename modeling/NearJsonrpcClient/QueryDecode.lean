/-
# Query results

Which values the method `query` reads as a response, which as an error, and which it
rejects.  The message of an unknown access key is recognised by the parts between its
spaces; by the rule for splits, these are the messages of one form around a public key
without spaces, and no others.
-/
import NearJsonrpcClient.Lib.Tokens
import NearJsonrpcClient.Methods.Query

namespace NearJsonrpcClient

open Lib

/-! ## The message of an unknown access key -/

/-- The message with a text in the place of the public key. -/
def unknownAccessKeyMessage (key : String) : String :=
  "access key " ++ key ++ " does not exist while viewing"

/-- A message of an unknown access key, with a part without spaces for the key. -/
def IsUnknownAccessKey (error key : String) : Prop :=
  ' ' ∉ key.toList ∧ error = unknownAccessKeyMessage key

/-- The nine steps succeed on the splits with exactly these parts. -/
lemma unknownAccessKeyPart_eq_some_iff_split {error key : String} :
    unknownAccessKeyPart error = some key ↔
      split error ' '
        = ["access", "key"] ++ key :: ["does", "not", "exist", "while", "viewing"] := by
  unfold unknownAccessKeyPart
  generalize split error ' ' = parts
  constructor
  · intro h
    rcases parts with _ | ⟨p₁, _ | ⟨p₂, _ | ⟨p₃, _ | ⟨p₄, _ | ⟨p₅, _ | ⟨p₆, _ | ⟨p₇, _ | ⟨p₈, _ | ⟨p₉, parts⟩⟩⟩⟩⟩⟩⟩⟩⟩
    -- the nine steps see exactly eight parts
    case cons.cons.cons.cons.cons.cons.cons.cons.nil =>
      simp only [next] at h
      split at h
      · simp_all
      · cases h
    all_goals simp only [next, reduceCtorEq] at h
  · rintro rfl
    rfl

/-- Splitting a string is splitting its characters. -/
lemma split_eq_iff {s : String} {sep : Char} {parts : List String} :
    split s sep = parts ↔ s.toList.splitOn sep = parts.map String.toList := by
  rw [split]
  constructor
  · rintro rfl
    simp
  · intro h
    rw [h]
    simp

/-- **The message of an unknown access key.** -/
theorem unknownAccessKeyPart_eq_some {error key : String} :
    unknownAccessKeyPart error = some key ↔ IsUnknownAccessKey error key := by
  have hsplit : split error ' '
        = ["access", "key"] ++ key :: ["does", "not", "exist", "while", "viewing"] ↔
      error.toList.splitOn ' ' = ["access", "key"].map String.toList
        ++ key.toList :: ["does", "not", "exist", "while", "viewing"].map String.toList := by
    rw [split_eq_iff]
    rfl
  rw [unknownAccessKeyPart_eq_some_iff_split, hsplit,
    splitOn_eq_append_cons_iff (by decide) (by decide), IsUnknownAccessKey,
    unknownAccessKeyMessage, ← String.toList_inj]
  simp

lemma unknownAccessKeyPart_eq_none {error : String} :
    unknownAccessKeyPart error = none ↔ ∀ key, ¬ IsUnknownAccessKey error key := by
  rw [Option.eq_none_iff_forall_ne_some]
  exact forall_congr' fun key => not_congr unknownAccessKeyPart_eq_some

/-! ## The two shapes -/

variable [Near]

/-- An object is a legacy error when three of its fields are of the right types, whatever
its other fields are. -/
lemma fromValue_legacyQueryError_object {m : Map} {error : String} {H : BlockHeight}
    {B : CryptoHash} {hash : Value} (herror : Map.get m "error" = some (.string error))
    (hheight : Map.get m "block_height" = some (.number (.posInt H)))
    (hhash : Map.get m "block_hash" = some hash) (hB : fromValue hash = .ok B) :
    fromValue (.object m) = .ok (⟨error, H, B⟩ : LegacyQueryError) := by
  have h₁ : structField m "error" = .ok error := by
    rw [structField, herror]
    rfl
  have h₂ : structField m "block_height" = .ok H := by
    rw [structField, hheight]
    rfl
  have h₃ : structField m "block_hash" = .ok B := by
    rw [structField, hhash]
    exact hB
  change (do
    let error ← structField m "error"
    let blockHeight ← structField m "block_height"
    let blockHash ← structField m "block_hash"
    return ({ error, blockHeight, blockHash } : LegacyQueryError)) = _
  rw [h₁, h₂, h₃]
  rfl

/-- A value that is a legacy error, and not a response. -/
structure IsLegacyError (v : Value) (error : String) (H : BlockHeight) (B : CryptoHash) : Prop where
  notResponse : ∀ r : RpcQueryResponse, fromValue v ≠ .ok r
  legacy : fromValue v = .ok (⟨error, H, B⟩ : LegacyQueryError)

lemma fromValue_queryResponse (v : Value) :
    (fromValue v : Except SerdeError QueryResponse) =
      match (fromValue v : Except SerdeError RpcQueryResponse) with
      | .ok r => .ok (.handlerResponse r)
      | .error _ =>
          match (fromValue v : Except SerdeError LegacyQueryError) with
          | .ok err => .ok (.handlerError err)
          | .error _ => .error queryResponseMismatch := rfl

lemma fromValue_of_response {v : Value} {r : RpcQueryResponse} (h : fromValue v = .ok r) :
    fromValue v = .ok (QueryResponse.handlerResponse r) := by
  rw [fromValue_queryResponse, h]

lemma fromValue_of_legacyError {v : Value} {error : String} {H : BlockHeight} {B : CryptoHash}
    (h : IsLegacyError v error H B) :
    fromValue v = .ok (QueryResponse.handlerError ⟨error, H, B⟩) := by
  rw [fromValue_queryResponse]
  cases hr : (fromValue v : Except SerdeError RpcQueryResponse) with
  | ok r => exact absurd hr (h.notResponse r)
  | error e => rw [h.legacy]

lemma fromValue_of_neither {v : Value} (hr : ∀ r : RpcQueryResponse, fromValue v ≠ .ok r)
    (hl : ∀ l : LegacyQueryError, fromValue v ≠ .ok l) :
    fromValue v = (.error queryResponseMismatch : Except SerdeError QueryResponse) := by
  rw [fromValue_queryResponse]
  cases hr' : (fromValue v : Except SerdeError RpcQueryResponse) with
  | ok r => exact absurd hr' (hr r)
  | error e =>
    cases hl' : (fromValue v : Except SerdeError LegacyQueryError) with
    | ok l => exact absurd hl' (hl l)
    | error e' => rfl

/-! ## The parser for results -/

/-- What a legacy error is read as. -/
def readLegacyError (err : LegacyQueryError) :
    Except SerdeError (Except RpcQueryError RpcQueryResponse) :=
  match unknownAccessKeyPart err.error with
  | some pk =>
      match Near.publicKeyFromStr pk with
      | .ok publicKey =>
          .ok (.error (.unknownAccessKey publicKey err.blockHeight err.blockHash))
      | .error msg => .error (.custom msg)
  | none => .ok (.error (.contractExecutionError err.error err.blockHeight err.blockHash))

lemma parseHandlerResponse_query (v : Value) :
    RpcMethod.parseHandlerResponse RpcQueryRequest v =
      match (fromValue v : Except SerdeError QueryResponse) with
      | .ok (.handlerResponse r) => .ok (.ok r)
      | .ok (.handlerError err) => readLegacyError err
      | .error e => .error e := by
  rcases hv : (fromValue v : Except SerdeError QueryResponse) with e | r | ⟨error, H, B⟩
  · simp only [RpcMethod.parseHandlerResponse, hv]
    rfl
  · simp only [RpcMethod.parseHandlerResponse, hv]
    rfl
  · simp only [RpcMethod.parseHandlerResponse, hv, readLegacyError, bind, Except.bind]
    cases hpart : unknownAccessKeyPart error with
    | none => rfl
    | some pk =>
      cases hpk : Near.publicKeyFromStr pk with
      | ok publicKey => simp only [hpk]; rfl
      | error msg => simp only [hpk]; rfl

namespace RpcQueryRequest

lemma parseHandlerResponse_of_response {v : Value} {r : RpcQueryResponse}
    (h : fromValue v = .ok r) :
    RpcMethod.parseHandlerResponse RpcQueryRequest v = .ok (.ok r) := by
  rw [parseHandlerResponse_query, fromValue_of_response h]

lemma parseHandlerResponse_of_neither {v : Value}
    (hr : ∀ r : RpcQueryResponse, fromValue v ≠ .ok r)
    (hl : ∀ l : LegacyQueryError, fromValue v ≠ .ok l) :
    RpcMethod.parseHandlerResponse RpcQueryRequest v = .error queryResponseMismatch := by
  rw [parseHandlerResponse_query, fromValue_of_neither hr hl]

section LegacyError

variable {v : Value} {error : String} {H : BlockHeight} {B : CryptoHash}

lemma parseHandlerResponse_of_key (h : IsLegacyError v error H B) {key : String}
    (hk : IsUnknownAccessKey error key) {pk : PublicKey} (hpk : Near.publicKeyFromStr key = .ok pk) :
    RpcMethod.parseHandlerResponse RpcQueryRequest v
      = .ok (.error (.unknownAccessKey pk H B)) := by
  simp only [parseHandlerResponse_query, fromValue_of_legacyError h, readLegacyError,
    unknownAccessKeyPart_eq_some.2 hk, hpk]

lemma parseHandlerResponse_of_rejectedKey (h : IsLegacyError v error H B) {key : String}
    (hk : IsUnknownAccessKey error key) {msg : String}
    (hpk : Near.publicKeyFromStr key = .error msg) :
    RpcMethod.parseHandlerResponse RpcQueryRequest v = .error (.custom msg) := by
  simp only [parseHandlerResponse_query, fromValue_of_legacyError h, readLegacyError,
    unknownAccessKeyPart_eq_some.2 hk, hpk]

lemma parseHandlerResponse_of_otherError (h : IsLegacyError v error H B)
    (hk : ∀ key, ¬ IsUnknownAccessKey error key) :
    RpcMethod.parseHandlerResponse RpcQueryRequest v
      = .ok (.error (.contractExecutionError error H B)) := by
  simp only [parseHandlerResponse_query, fromValue_of_legacyError h, readLegacyError,
    unknownAccessKeyPart_eq_none.2 hk]

/-- The three ways in which a legacy error is read, told apart by its message. -/
lemma parseHandlerResponse_legacyError_cases (h : IsLegacyError v error H B) :
    (∃ key pk, IsUnknownAccessKey error key ∧ Near.publicKeyFromStr key = .ok pk ∧
      RpcMethod.parseHandlerResponse RpcQueryRequest v
        = .ok (.error (.unknownAccessKey pk H B))) ∨
    (∃ key msg, IsUnknownAccessKey error key ∧ Near.publicKeyFromStr key = .error msg ∧
      RpcMethod.parseHandlerResponse RpcQueryRequest v = .error (.custom msg)) ∨
    (∀ key, ¬ IsUnknownAccessKey error key) ∧
      RpcMethod.parseHandlerResponse RpcQueryRequest v
        = .ok (.error (.contractExecutionError error H B)) := by
  by_cases hk : ∃ key, IsUnknownAccessKey error key
  · obtain ⟨key, hk⟩ := hk
    cases hpk : Near.publicKeyFromStr key with
    | ok pk => exact .inl ⟨key, pk, hk, hpk, parseHandlerResponse_of_key h hk hpk⟩
    | error msg =>
      exact .inr (.inl ⟨key, msg, hk, hpk, parseHandlerResponse_of_rejectedKey h hk hpk⟩)
  · push Not at hk
    exact .inr (.inr ⟨hk, parseHandlerResponse_of_otherError h hk⟩)

end LegacyError

end RpcQueryRequest

end NearJsonrpcClient
