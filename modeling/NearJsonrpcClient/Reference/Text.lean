/-
# A serializer that loses nothing

An implementation of `SerdeJson` whose texts tell all values apart: the given values are
written as JSON text, and every other value in a form that is no JSON text.
-/
import NearJsonrpcClient.Lib.Utf8
import NearJsonrpcClient.Reference.Near
import Mathlib.Logic.Encodable.Basic
import Mathlib.Data.Nat.Pairing
import Mathlib.Logic.Equiv.List

namespace NearJsonrpcClient.Reference

/-- A number for a string. -/
def codeString (s : String) : ℕ := Encodable.encode (s.toList.map Char.toNat)

lemma codeString_injective : Function.Injective codeString := by
  intro s s' h
  have hlist : s.toList.map Char.toNat = s'.toList.map Char.toNat := Encodable.encode_injective h
  have hchar : Function.Injective Char.toNat := fun _ _ => Char.toNat_inj.1
  exact String.toList_injective (hchar.list_map hlist)

def codeNumber : Number → ℕ
  | .posInt n => Nat.pair 0 n.toNat
  | .negInt i => Nat.pair 1 i.toUInt64.toNat
  | .float bits => Nat.pair 2 bits.toNat

lemma codeNumber_injective : Function.Injective codeNumber := by
  intro n n' h
  cases n <;> cases n' <;> simp only [codeNumber, Nat.pair_eq_pair] at h <;> try omega
  · rw [UInt64.toNat_inj.1 h.2]
  · next i i' =>
    obtain ⟨i⟩ := i
    obtain ⟨i'⟩ := i'
    obtain rfl : i = i' := UInt64.toNat_inj.1 h.2
    rfl
  · rw [UInt64.toNat_inj.1 h.2]

mutual

/-- A number for a value. -/
def code : Value → ℕ
  | .null => Nat.pair 0 0
  | .bool b => Nat.pair 1 b.toNat
  | .number n => Nat.pair 2 (codeNumber n)
  | .string s => Nat.pair 3 (codeString s)
  | .array xs => Nat.pair 4 (codeAll xs)
  | .object m => Nat.pair 5 (codeEntries m)

def codeAll : List Value → ℕ
  | [] => 0
  | x :: xs => Nat.pair (code x) (codeAll xs) + 1

def codeEntries : List (String × Value) → ℕ
  | [] => 0
  | (k, v) :: m => Nat.pair (codeString k) (Nat.pair (code v) (codeEntries m)) + 1

end

mutual

lemma code_injective : ∀ v v' : Value, code v = code v' → v = v'
  | v, v' => by
    intro h
    cases v <;> cases v' <;> simp only [code, Nat.pair_eq_pair] at h <;> try omega
    · rfl
    · next b b' => cases b <;> cases b' <;> simp at h ⊢
    · rw [codeNumber_injective h.2]
    · rw [codeString_injective h.2]
    · next xs xs' => rw [codeAll_injective xs xs' h.2]
    · next m m' => rw [codeEntries_injective m m' h.2]

lemma codeAll_injective : ∀ xs xs' : List Value, codeAll xs = codeAll xs' → xs = xs'
  | [], [] => fun _ => rfl
  | [], _ :: _ => fun h => by simp [codeAll] at h
  | _ :: _, [] => fun h => by simp [codeAll] at h
  | x :: xs, x' :: xs' => fun h => by
    simp only [codeAll, Nat.add_right_cancel_iff, Nat.pair_eq_pair] at h
    rw [code_injective x x' h.1, codeAll_injective xs xs' h.2]

lemma codeEntries_injective : ∀ m m' : List (String × Value),
    codeEntries m = codeEntries m' → m = m'
  | [], [] => fun _ => rfl
  | [], (_, _) :: _ => fun h => by simp [codeEntries] at h
  | (_, _) :: _, [] => fun h => by simp [codeEntries] at h
  | (k, v) :: m, (k', v') :: m' => fun h => by
    simp only [codeEntries, Nat.add_right_cancel_iff, Nat.pair_eq_pair] at h
    rw [codeString_injective h.1, code_injective v v' h.2.1, codeEntries_injective m m' h.2.2]

end

/-! ## The serializer -/

open Classical in
/-- The text of a value: JSON for the given ones. -/
noncomputable def text (known : List Value) (v : Value) : Bytes :=
  if v ∈ known then utf8 (render v) else 0 :: List.replicate (code v) 1

lemma text_of_mem {known : List Value} {v : Value} (h : v ∈ known) :
    text known v = utf8 (render v) := if_pos h

/-- The text of an object begins with a brace. -/
lemma utf8_render_object (m : List (String × Value)) :
    ∃ bytes, utf8 (render (.object m)) = 0x7b :: bytes := by
  refine ⟨utf8 (",".intercalate (renderEntries m) ++ "\x7d"), ?_⟩
  rw [render, String.append_assoc]
  exact Lib.utf8_append _ _

/-- Some objects with different texts are written as JSON; then all values have different
texts. -/
lemma text_injective {known : List Map}
    (hknown : (known.map fun m => render (.object m)).Nodup) :
    Function.Injective (text (known.map .object)) := by
  intro v v' h
  unfold text at h
  split at h <;> split at h
  · next hv hv' =>
    obtain ⟨m, hm, rfl⟩ := List.mem_map.1 hv
    obtain ⟨m', hm', rfl⟩ := List.mem_map.1 hv'
    rw [List.inj_on_of_nodup_map hknown hm hm' (Lib.utf8_injective h)]
  · next hv hv' =>
    obtain ⟨m, -, rfl⟩ := List.mem_map.1 hv
    obtain ⟨bytes, hbytes⟩ := utf8_render_object m
    rw [hbytes] at h
    simp at h
  · next hv hv' =>
    obtain ⟨m, -, rfl⟩ := List.mem_map.1 hv'
    obtain ⟨bytes, hbytes⟩ := utf8_render_object m
    rw [hbytes] at h
    simp at h
  · have hcode := congrArg List.length h
    simp only [List.length_cons, List.length_replicate, Nat.add_right_cancel_iff] at hcode
    exact code_injective v v' hcode

/-- A serializer that writes some objects as JSON, and a decoder for some bodies. -/
noncomputable abbrev textJson (known : List Map) (bodies : List Value) : SerdeJson where
  toVec v := .ok (text (known.map .object) v)
  fromSlice := decodeText bodies
  display := render

end NearJsonrpcClient.Reference
