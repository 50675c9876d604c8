/-
# JSON values

The values of `serde_json`, with the operations the client performs on them: indexing by
a key, reading a string, and building an object from the entries of a `json!` literal.
The entries of an object are kept in the order of their keys, so that two objects with
the same entries are the same value however they were built.
-/
import Mathlib.Data.String.Basic

namespace NearJsonrpcClient

/-- A JSON number: a nonnegative integer, a negative integer, or the bits of a float. -/
inductive Number where
  | posInt (n : UInt64)
  | negInt (i : Int64)
  | float (bits : UInt64)
deriving DecidableEq

/-- `serde_json::Value`. -/
inductive Value where
  | null
  | bool (b : Bool)
  | number (n : Number)
  | string (s : String)
  | array (xs : List Value)
  | object (m : List (String × Value))

/-- The entries of an object. -/
abbrev Map := List (String × Value)

namespace Map

/-- The entry of a key, when there is one. -/
def get (m : Map) (key : String) : Option Value := m.lookup key

/-- Insert an entry in key order, replacing the value of a key that is already there. -/
def insert : Map → String → Value → Map
  | [], key, v => [(key, v)]
  | (k, w) :: m, key, v =>
      if key = k then (key, v) :: m
      else if key < k then (key, v) :: (k, w) :: m
      else (k, w) :: insert m key v

@[simp] lemma get_nil (key : String) : get [] key = none := rfl

lemma get_cons (k : String) (w : Value) (m : Map) (key : String) :
    get ((k, w) :: m) key = if key = k then some w else get m key := by
  by_cases h : key = k
  · subst h
    simp [get]
  · have hk : (key == k) = false := beq_false_of_ne h
    simp [get, List.lookup_cons, h, hk]

@[simp] lemma get_insert (m : Map) (k : String) (v : Value) (key : String) :
    get (insert m k v) key = if key = k then some v else get m key := by
  induction m with
  | nil => rw [insert, get_cons]
  | cons e m ih =>
    obtain ⟨k', w⟩ := e
    rw [insert]
    split
    · next h =>
      subst h
      rw [get_cons, get_cons]
      split <;> simp
    · next h =>
      split
      · rw [get_cons]
      · rw [get_cons, ih, get_cons]
        by_cases hk : key = k
        · subst hk
          simp [h]
        · simp [hk]

lemma mem_insert {m : Map} {k : String} {v : Value} {e : String × Value}
    (h : e ∈ insert m k v) : e = (k, v) ∨ e ∈ m := by
  induction m with
  | nil => exact .inl (List.mem_singleton.1 h)
  | cons e' m ih =>
    rw [insert] at h
    split at h
    · rcases List.mem_cons.1 h with rfl | h
      · exact .inl rfl
      · exact .inr (List.mem_cons_of_mem _ h)
    · split at h
      · exact (List.mem_cons.1 h).imp id id
      · rcases List.mem_cons.1 h with rfl | h
        · exact .inr List.mem_cons_self
        · exact (ih h).imp id (List.mem_cons_of_mem _)

end Map

namespace Value

/-- `json!({ k₁: v₁, …, kₙ: vₙ })`. -/
def ofEntries (entries : List (String × Value)) : Value :=
  .object (entries.foldl (fun m e => Map.insert m e.1 e.2) [])

/-- `value[key]`: the entry of an object, and `null` for a missing key or a value that is
not an object. -/
def index : Value → String → Value
  | .object m, key => (Map.get m key).getD .null
  | _, _ => .null

/-- `value.as_str()`. -/
def asStr : Value → Option String
  | .string s => some s
  | _ => none

/-- `value == str`. -/
def eqStr (v : Value) (s : String) : Bool := v.asStr == some s

lemma eqStr_iff {v : Value} {s : String} : v.eqStr s = true ↔ v = .string s := by
  cases v <;> simp [eqStr, asStr]

end Value

end NearJsonrpcClient
