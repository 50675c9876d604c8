/-
# UTF-8

The encoding of strings as lists of bytes: it is the concatenation of the encodings of the
characters, it can be decoded, and it is the identity on ASCII.
-/
import Mathlib.Data.String.Basic

namespace NearJsonrpcClient.Lib

/-- The UTF-8 encoding of a string. -/
def utf8 (s : String) : List UInt8 := s.toUTF8.data.toList

/-- The string that is encoded by some bytes, when there is one. -/
def ofUtf8? (bytes : List UInt8) : Option String := String.fromUTF8? ⟨bytes.toArray⟩

/-! ## Decoding -/

lemma utf8_injective : Function.Injective utf8 := by
  intro s t h
  have hdata : s.toUTF8.data = t.toUTF8.data := Array.toList_inj.1 h
  have hbytes : s.toByteArray = t.toByteArray := ByteArray.ext hdata
  exact String.toByteArray_inj.1 hbytes

lemma ofUtf8?_utf8 (s : String) : ofUtf8? (utf8 s) = some s := by
  have hbytes : (⟨(utf8 s).toArray⟩ : ByteArray) = s.toByteArray := by
    rw [utf8, Array.toArray_toList, String.toUTF8_eq_toByteArray]
  rw [ofUtf8?, hbytes, String.fromUTF8?, dif_pos s.isValidUTF8]
  rfl

/-- Bytes decode to the one string that they encode. -/
theorem ofUtf8?_eq_some_iff {bytes : List UInt8} {s : String} :
    ofUtf8? bytes = some s ↔ utf8 s = bytes := by
  constructor
  · intro h
    rw [ofUtf8?, String.fromUTF8?] at h
    split at h
    · cases h
      rfl
    · cases h
  · rintro rfl
    exact ofUtf8?_utf8 s

/-! ## Characters -/

lemma utf8_eq_flatMap (s : String) : utf8 s = s.toList.flatMap String.utf8EncodeChar := by
  have hbytes : s.toByteArray = (s.toList.flatMap String.utf8EncodeChar).toByteArray :=
    String.utf8Encode_toList.symm
  rw [utf8, String.toUTF8_eq_toByteArray, hbytes, List.toList_data_toByteArray]

lemma utf8_append (s t : String) : utf8 (s ++ t) = utf8 s ++ utf8 t := by
  simp only [utf8_eq_flatMap, String.toList_append, List.flatMap_append]

/-- A suffix is decoded from where its encoding starts. -/
lemma drop_utf8_append (s t : String) : (utf8 (s ++ t)).drop (utf8 s).length = utf8 t := by
  rw [utf8_append, List.drop_left]

/-! ## ASCII -/

lemma utf8EncodeChar_ascii {c : Char} (h : c.toNat < 128) :
    String.utf8EncodeChar c = [UInt8.ofNat c.toNat] := by
  have hle : c.val.toNat ≤ 0x7f := Nat.le_of_lt_succ h
  rw [String.utf8EncodeChar, if_pos hle]
  rfl

lemma mem_utf8_of_ascii {s : String} {c : Char} (hc : c ∈ s.toList) (h : c.toNat < 128) :
    UInt8.ofNat c.toNat ∈ utf8 s := by
  rw [utf8_eq_flatMap, List.mem_flatMap]
  exact ⟨c, hc, by rw [utf8EncodeChar_ascii h]; exact List.mem_singleton_self _⟩

/-- The character of a byte has its number. -/
lemma toNat_ofNat_toNat (b : UInt8) : (Char.ofNat b.toNat).toNat = b.toNat := by
  have hlt : b.toNat < 256 := b.toNat_lt
  have hvalid : b.toNat.isValidChar := .inl (by omega)
  rw [Char.ofNat, dif_pos hvalid]
  rfl

/-- The text of ASCII bytes. -/
def ofAscii (bytes : List UInt8) : String := String.ofList (bytes.map fun b => Char.ofNat b.toNat)

theorem utf8_ofAscii {bytes : List UInt8} (h : ∀ b ∈ bytes, b < 128) :
    utf8 (ofAscii bytes) = bytes := by
  rw [utf8_eq_flatMap, ofAscii, String.toList_ofList]
  induction bytes with
  | nil => rfl
  | cons b bytes ih =>
    have hb : b < 128 := h b List.mem_cons_self
    have hbytes : ∀ b ∈ bytes, b < 128 := fun b hb => h b (List.mem_cons_of_mem _ hb)
    have hnat : (Char.ofNat b.toNat).toNat = b.toNat := toNat_ofNat_toNat b
    have hlt : (Char.ofNat b.toNat).toNat < 128 := by
      rw [hnat]
      exact UInt8.lt_iff_toNat_lt.1 hb
    rw [List.map_cons, List.flatMap_cons, utf8EncodeChar_ascii hlt, hnat, ih hbytes,
      UInt8.ofNat_toNat]
    rfl

end NearJsonrpcClient.Lib
