/-
# A reference implementation of the `near-*` crates

A small implementation of the classes `Near` and `SerdeJson`, on which the results are
read at concrete inputs.  The wire formats of the errors and messages are those of the
node; the types that the client does not look into are JSON values.
-/
import NearJsonrpcClient.Lib.Utf8
import NearJsonrpcClient.Methods.Transactions
import Mathlib.Data.List.Nodup

namespace NearJsonrpcClient.Reference

/-! ## JSON text -/

/-- The text of a string without control characters. -/
def quote (s : String) : String :=
  String.ofList (['\x22'] ++ s.toList.flatMap (fun c =>
    if c = '\x22' ∨ c = '\x5c' then ['\x5c', c] else [c]) ++ ['\x22'])

mutual

/-- The text of a value. -/
def render : Value → String
  | .null => "null"
  | .bool b => toString b
  | .number (.posInt n) => toString n
  | .number (.negInt i) => toString i
  | .number (.float bits) => toString (Float.ofBits bits)
  | .string s => quote s
  | .array xs => "[" ++ ",".intercalate (renderAll xs) ++ "]"
  | .object m => "\x7b" ++ ",".intercalate (renderEntries m) ++ "\x7d"

def renderAll : List Value → List String
  | [] => []
  | x :: xs => render x :: renderAll xs

def renderEntries : List (String × Value) → List String
  | [] => []
  | (k, v) :: m => (quote k ++ ":" ++ render v) :: renderEntries m

end

/-- A decoder for the texts of the given values. -/
def decodeText (bodies : List Value) (b : Bytes) : Except SerdeError Value :=
  match bodies.find? (fun v => utf8 (render v) = b) with
  | some v => .ok v
  | none => .error (.custom "expected value at line 1 column 1")

lemma decodeText_render (body : Value) (bodies : List Value) :
    decodeText (body :: bodies) (utf8 (render body)) = .ok body := by
  have hfind : (body :: bodies).find? (fun v => utf8 (render v) = utf8 (render body))
      = some body :=
    List.find?_cons_of_pos (decide_eq_true rfl)
  rw [decodeText, hfind]

/-- Values with different texts are decoded. -/
lemma decodeText_of_mem {bodies : List Value} (h : (bodies.map render).Nodup) {body : Value}
    (hb : body ∈ bodies) : decodeText bodies (utf8 (render body)) = .ok body := by
  rw [decodeText]
  cases hfind : bodies.find? (fun v => utf8 (render v) = utf8 (render body)) with
  | none => simpa using List.find?_eq_none.1 hfind body hb
  | some v =>
    have hv : utf8 (render v) = utf8 (render body) := by simpa using List.find?_some hfind
    rw [List.inj_on_of_nodup_map h (List.mem_of_find?_eq_some hfind) hb (Lib.utf8_injective hv)]

abbrev serdeJson (bodies : List Value) : SerdeJson where
  toVec v := .ok (utf8 (render v))
  fromSlice := decodeText bodies
  display := render

/-! ## The `near-*` crates -/

/-- An error as the node writes it. -/
def tagged (name : String) (info : List (String × Value)) : Value :=
  .ofEntries [("name", .string name), ("info", .ofEntries info)]

/-- An error without fields as the node writes it. -/
def taggedUnit (name : String) : Value := .ofEntries [("name", .string name)]

/-- The name of an error that the node wrote. -/
def nameOf (v : Value) : Option String := (v.index "name").asStr

/-- A field of an error that the node wrote. -/
def infoOf (v : Value) (field : String) : Value := (v.index "info").index field

@[simp] lemma nameOf_tagged (name : String) (info : List (String × Value)) :
    nameOf (tagged name info) = some name := by
  simp [nameOf, tagged, Value.ofEntries, Value.index, Value.asStr]

@[simp] lemma nameOf_taggedUnit (name : String) : nameOf (taggedUnit name) = some name := by
  simp [nameOf, taggedUnit, Value.ofEntries, Value.index, Value.asStr]

@[simp] lemma infoOf_tagged (name : String) (info : List (String × Value)) (field : String) :
    infoOf (tagged name info) field = (Value.ofEntries info).index field := by
  simp [infoOf, tagged, Value.ofEntries, Value.index]

/-- The errors under names other than the given ones. -/
abbrev OtherError (names : List String) : Type :=
  { v : Value // ∃ name, nameOf v = some name ∧ name ∉ names }

abbrev nearTypes : NearTypes where
  Ty _ := Value
  UnknownBlockRest _ := OtherError ["UNKNOWN_BLOCK"]
  RpcQueryErrorRest := OtherError ["UNKNOWN_ACCESS_KEY", "CONTRACT_EXECUTION_ERROR"]
  RpcTransactionErrorRest := OtherError ["INVALID_TRANSACTION", "TIMEOUT_ERROR"]
  ServerErrorRest := Bool
  TxExecutionErrorRest := Value
  InvalidTxError := Value
  PublicKey := String
  SignedTransaction := Bytes
  RpcRequestValidationErrorKind := Value
  Message := Value
  Broken := String
  WireMessage := Value

section Near

scoped instance instNearTypes : NearTypes := nearTypes

/-- The other errors, under their names. -/
def otherFromValue (names : List String) (v : Value) : Except SerdeError (OtherError names) :=
  match h : nameOf v with
  | none => .error (.missingField "name")
  | some name =>
      if hn : name ∈ names then .error (.missingField "info")
      else .ok ⟨v, name, h, hn⟩

def tyFromValue (τ : NearTy) (v : Value) : Except SerdeError (NearTypes.Ty τ) :=
  match τ with
  | .cryptoHash | .accountId | .txExecutionStatus =>
      match v with
      | .string s => .ok (.string s)
      | v => .error (.invalidType v "a string")
  | .rpcQueryResponse =>
      match v.index "error" with
      | .null => .ok v
      | _ => .error
          (.custom "data did not match any variant of untagged enum QueryResponseKind")
  | _ => .ok v

def unknownBlockErrorFromValue (τ : UnknownBlockTy) (v : Value) :
    Except SerdeError (UnknownBlockError τ) :=
  if nameOf v = some "UNKNOWN_BLOCK" then
    match infoOf v "error_message" with
    | .string s => .ok (.unknownBlock s)
    | _ => .error (.missingField "error_message")
  else (otherFromValue ["UNKNOWN_BLOCK"] v).map .other

def rpcQueryErrorFromValue (v : Value) : Except SerdeError RpcQueryError :=
  if nameOf v = some "UNKNOWN_ACCESS_KEY" then do
    let publicKey : String ← fromValue (infoOf v "public_key")
    return .unknownAccessKey publicKey (← fromValue (infoOf v "block_height"))
      (infoOf v "block_hash")
  else if nameOf v = some "CONTRACT_EXECUTION_ERROR" then do
    return .contractExecutionError (← fromValue (infoOf v "vm_error"))
      (← fromValue (infoOf v "block_height")) (infoOf v "block_hash")
  else (otherFromValue ["UNKNOWN_ACCESS_KEY", "CONTRACT_EXECUTION_ERROR"] v).map .other

def rpcTransactionErrorFromValue (v : Value) : Except SerdeError RpcTransactionError :=
  if nameOf v = some "INVALID_TRANSACTION" then
    match infoOf v "context" with
    | .null => .error (.missingField "context")
    | context => .ok (.invalidTransaction context)
  else if nameOf v = some "TIMEOUT_ERROR" then .ok .timeoutError
  else (otherFromValue ["INVALID_TRANSACTION", "TIMEOUT_ERROR"] v).map .other

def serverErrorVariants : List String := ["TxExecutionError", "Timeout", "Closed"]

def serverErrorFromValue : Value → Except SerdeError ServerError
  | .string "Timeout" => .ok (.other false)
  | .string "Closed" => .ok (.other true)
  | .object [("TxExecutionError", .object [("InvalidTxError", context)])] =>
      .ok (.txExecutionError (.invalidTxError context))
  | .object [("TxExecutionError", err)] => .ok (.txExecutionError (.other err))
  | .string variant => .error (.unknownVariant variant serverErrorVariants)
  | .object [(variant, _)] => .error (.unknownVariant variant serverErrorVariants)
  | v => .error (.invalidType v "string or map")

/-! ### Messages -/

/-- A field of an object, when it has one. -/
def field? : Value → String → Option Value
  | .object m, key => Map.get m key
  | _, _ => none

/-- An object with no other keys than the given ones. -/
def hasOnly (keys : List String) : Value → Bool
  | .object m => m.all fun e => e.1 ∈ keys
  | _ => false

lemma hasOnly_ofEntries {keys : List String} {entries : List (String × Value)}
    (h : ∀ e ∈ entries, e.1 ∈ keys) : hasOnly keys (.ofEntries entries) = true := by
  have hfold : ∀ (es : List (String × Value)) (m : Map), (∀ e ∈ es, e.1 ∈ keys) →
      (∀ e ∈ m, e.1 ∈ keys) → ∀ e ∈ es.foldl (fun m e => Map.insert m e.1 e.2) m, e.1 ∈ keys := by
    intro es
    induction es with
    | nil => exact fun m _ hm => hm
    | cons e es ih =>
      intro m hes hm
      rw [List.forall_mem_cons] at hes
      refine ih _ hes.2 fun e' he' => ?_
      rcases Map.mem_insert he' with rfl | he'
      · exact hes.1
      · exact hm e' he'
  simpa [hasOnly, Value.ofEntries] using hfold entries [] h (by simp)

/-- A number that is an `i64`. -/
def isInteger : Value → Bool
  | .number (.posInt n) => n.toNat < 2 ^ 63
  | .number (.negInt _) => true
  | _ => false

def isRpcError (v : Value) : Bool :=
  hasOnly ["name", "cause", "code", "message", "data"] v && isInteger (v.index "code")
    && (v.index "message").asStr.isSome

/-- What an error of the JSON-RPC layer consists of. -/
def rpcErrorOf (v : Value) : RpcError where
  errorStruct :=
    match nameOf v with
    | some "REQUEST_VALIDATION_ERROR" => (field? v "cause").map .requestValidationError
    | some "HANDLER_ERROR" => (field? v "cause").map .handlerError
    | some "INTERNAL_ERROR" => (field? v "cause").map .internalError
    | _ => none
  code :=
    match v.index "code" with
    | .number (.posInt n) => n.toNat
    | .number (.negInt i) => i.toInt
    | _ => 0
  message := (v.index "message").asStr.getD ""
  data :=
    match v.index "data" with
    | .null => none
    | d => some d

/-- An object with the version of the protocol. -/
def isWire (keys : List String) (v : Value) : Bool :=
  hasOnly keys v && (v.index "jsonrpc").eqStr "2.0"

/-- A response has an id, and either a result, which may be null, or an error. -/
def asResponse (v : Value) : Option (Except RpcError Value) :=
  if isWire ["jsonrpc", "result", "error", "id"] v && (field? v "id").isSome then
    match field? v "result", v.index "error" with
    | some r, .null => some (.ok r)
    | none, err => if isRpcError err then some (.error (rpcErrorOf err)) else none
    | some _, _ => none
  else none

/-- A request or a notification. -/
def isRequest (v : Value) : Bool :=
  isWire ["jsonrpc", "method", "params", "id"] v && (v.index "method").asStr.isSome

/-- A body is a response, a request, a notification or a batch. -/
def decodedToParsed : Except SerdeError Value → Except String Value
  | .ok (.array xs) => .ok (.array xs)
  | .ok v => if (asResponse v).isSome || isRequest v then .ok v else .error "unmatched"
  | .error _ => .error "syntax error"

/-- Parameters that are null are left out. -/
def messageRequest (method : String) (params : Value) : Value :=
  let head := [("jsonrpc", .string "2.0"), ("id", .string "dontcare"), ("method", .string method)]
  match params with
  | .null => .ofEntries head
  | params => .ofEntries (head ++ [("params", params)])

@[simp] lemma messageRequest_method (method : String) (params : Value) :
    (messageRequest method params).index "method" = .string method := by
  cases params <;> simp [messageRequest, Value.ofEntries, Value.index]

@[simp] lemma messageRequest_params (method : String) (params : Value) :
    (messageRequest method params).index "params" = params := by
  cases params <;> simp [messageRequest, Value.ofEntries, Value.index]

/-- The base64 form of a transaction that is never built, and an injective text for every
other one. -/
def toBase64 (b : Bytes) : String :=
  if b = [0x69, 0xb7, 0x1d] then "abcd"
  else String.ofList ('=' :: b.map fun x => Char.ofNat x.toNat)

scoped instance instNear : Near where
  tyFromValue := tyFromValue
  tyToValue _ v := v
  unknownBlockErrorFromValue := unknownBlockErrorFromValue
  rpcQueryErrorFromValue := rpcQueryErrorFromValue
  rpcTransactionErrorFromValue := rpcTransactionErrorFromValue
  serverErrorFromValue := serverErrorFromValue
  publicKeyFromStr s := if s = "" then .error "unknown key type" else .ok s
  borshToVec := .ok
  toBase64 := toBase64
  messageRequest := messageRequest
  messageToValue v := v
  wireMessageFromValue := .ok
  decodedToParsed := decodedToParsed
  asResponse := asResponse

end Near

end NearJsonrpcClient.Reference
