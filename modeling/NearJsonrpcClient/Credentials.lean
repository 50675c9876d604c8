/-
# Credentials

Which tokens and keys are accepted, and what is read back from them.  A token is stored
behind the scheme `Bearer ` and read from a fixed offset on, as UTF-8 and without a check;
the offset is the length of the scheme, so what is read is the token.
-/
import NearJsonrpcClient.Auth
import NearJsonrpcClient.Reference.Web

namespace NearJsonrpcClient

open Lib

/-! ## Bytes -/

/-- A control character is written as a byte that a header value may not have. -/
lemma exists_not_allowedByte {s : String} {c : Char} (hc : c ∈ s.toList)
    (hcontrol : (c.toNat < 32 ∧ c ≠ '\t') ∨ c.toNat = 127) :
    ∃ b ∈ utf8 s, ¬ AllowedByte b := by
  have hascii : c.toNat < 128 := by omega
  have hnat : (UInt8.ofNat c.toNat).toNat = c.toNat := by
    rw [UInt8.toNat_ofNat']
    omega
  refine ⟨UInt8.ofNat c.toNat, mem_utf8_of_ascii hc hascii, ?_⟩
  rintro (htab | ⟨hle, hne⟩)
  · have hnine : c.toNat = 9 := by
      rw [← hnat, htab]
      rfl
    have hchar : c = '\t' := Char.toNat_inj.1 hnine
    rcases hcontrol with ⟨-, h⟩ | h
    · exact h hchar
    · omega
  · have hge : 32 ≤ c.toNat := by
      rw [← hnat]
      exact UInt8.le_iff_toNat_le.1 hle
    have h127 : c.toNat ≠ 127 := by
      intro h
      exact hne (UInt8.toNat_inj.1 (hnat.trans h))
    omega

/-- Of the allowed bytes, the visible ones are those up to 126. -/
lemma visibleByte_iff {b : UInt8} (h : AllowedByte b) : VisibleByte b ↔ b ≤ 126 := by
  have hlt : b < 127 ↔ b ≤ 126 := by
    rw [UInt8.lt_iff_toNat_lt, UInt8.le_iff_toNat_le]
    exact Nat.lt_succ_iff
  constructor
  · rintro (rfl | ⟨-, hb⟩)
    · decide
    · exact hlt.1 hb
  · intro hb
    rcases h with rfl | ⟨hle, -⟩
    · exact .inl rfl
    · exact .inr ⟨hle, hlt.2 hb⟩

section Credentials

variable [Reqwest]

/-! ## Tokens -/

namespace Authorization

/-- Every value is made of some token. -/
lemma exists_eq_bearer (a : Authorization) : ∃ token, bearer token = .ok a := by
  obtain ⟨token, v, hv, hvalue⟩ := a.made
  exact ⟨token, bearer_eq_ok_iff.2 ⟨v, hv, hvalue⟩⟩

variable [LawfulHeaderValue]

/-- The scheme does not change which tokens are accepted. -/
lemma exists_bearer_iff {token : String} :
    (∃ a, bearer token = .ok a) ↔ ∀ b ∈ utf8 token, AllowedByte b := by
  have hscheme : ∀ b ∈ utf8 "Bearer ", AllowedByte b := forall_allowedByte (by decide)
  have hall : (∀ b ∈ utf8 "Bearer " ++ utf8 token, AllowedByte b)
      ↔ ∀ b ∈ utf8 token, AllowedByte b := by
    rw [List.forall_mem_append]
    exact and_iff_right hscheme
  rw [← hall, ← LawfulHeaderValue.exists_fromBytes_iff]
  constructor
  · rintro ⟨a, ha⟩
    obtain ⟨v, hv, -⟩ := bearer_eq_ok_iff.1 ha
    exact ⟨v, hv⟩
  · rintro ⟨v, hv⟩
    obtain ⟨a, ha, -⟩ := bearer_of_fromBytes hv
    exact ⟨a, ha⟩

variable {token : String} {a : Authorization}

lemma asBytes_value (h : bearer token = .ok a) :
    Http.asBytes a.value = utf8 ("Bearer " ++ token) := by
  obtain ⟨v, hv, hvalue⟩ := bearer_eq_ok_iff.1 h
  rw [hvalue, LawfulHeaderValue.asBytes_setSensitive, LawfulHeaderValue.asBytes_fromBytes _ _ hv,
    utf8_append]

/-- The offset is the length of the scheme, and lies within the value. -/
lemma seven_le_length (h : bearer token = .ok a) : 7 ≤ (Http.asBytes a.value).length := by
  have hscheme : (utf8 "Bearer ").length = 7 := rfl
  rw [asBytes_value h, utf8_append, List.length_append, hscheme]
  omega

lemma asBytes_of_bearer (h : bearer token = .ok a) : a.asBytes = some (utf8 token) := by
  -- the offset of `strip_scheme`
  have hscheme : (utf8 "Bearer ").length = 7 := rfl
  have hindex : a.asBytes = some ((Http.asBytes a.value).drop 7) := by
    rw [asBytes, stripScheme]
    exact if_pos (seven_le_length h)
  rw [hindex, asBytes_value h, ← hscheme]
  exact congrArg some (drop_utf8_append "Bearer " token)

/-- The slice is UTF-8, and it is that of the token. -/
lemma asStr_of_bearer (h : bearer token = .ok a) : a.asStr = some token := by
  rw [asStr, asBytes_of_bearer h]
  exact ofUtf8?_eq_some_iff.2 rfl

end Authorization

/-! ## Keys -/

namespace ApiKey

variable [LawfulHeaderValue]

lemma exists_new_iff {key : Bytes} : (∃ k, new key = .ok k) ↔ ∀ b ∈ key, AllowedByte b := by
  rw [← LawfulHeaderValue.exists_fromBytes_iff]
  constructor
  · rintro ⟨k, hk⟩
    obtain ⟨v, hv, -⟩ := new_eq_ok_iff.1 hk
    exact ⟨v, hv⟩
  · rintro ⟨v, hv⟩
    obtain ⟨k, hk, -⟩ := new_of_fromBytes hv
    exact ⟨k, hk⟩

variable {key : Bytes} {k : ApiKey}

lemma asBytes_of_new (h : new key = .ok k) : k.asBytes = key := by
  obtain ⟨v, hv, hvalue⟩ := new_eq_ok_iff.1 h
  rw [asBytes, hvalue, LawfulHeaderValue.asBytes_setSensitive,
    LawfulHeaderValue.asBytes_fromBytes _ _ hv]

lemma toStr_eq_ok_iff (h : new key = .ok k) {s : String} :
    k.toStr = .ok s ↔ (∀ b ∈ key, b ≤ 126) ∧ utf8 s = key := by
  have hallowed : ∀ b ∈ key, AllowedByte b := exists_new_iff.1 ⟨k, h⟩
  have hvisible : (∀ b ∈ key, VisibleByte b) ↔ ∀ b ∈ key, b ≤ 126 :=
    forall₂_congr fun b hb => visibleByte_iff (hallowed b hb)
  have hbytes : Http.asBytes k.value = key := asBytes_of_new h
  rw [toStr, LawfulHeaderValue.toStr_eq_ok_iff, hbytes, hvisible]

/-- A key is shown exactly when it is ASCII, and then as it is. -/
lemma exists_toStr_iff (h : new key = .ok k) :
    (∃ s, k.toStr = .ok s ∧ utf8 s = key) ↔ ∀ b ∈ key, b ≤ 126 := by
  constructor
  · rintro ⟨s, hs, -⟩
    exact ((toStr_eq_ok_iff h).1 hs).1
  · intro hkey
    have hascii : ∀ b ∈ key, b < 128 := by
      intro b hb
      have h126 := UInt8.le_iff_toNat_le.1 (hkey b hb)
      exact UInt8.lt_iff_toNat_lt.2 (Nat.lt_of_le_of_lt h126 (by decide))
    have htext : utf8 (ofAscii key) = key := utf8_ofAscii hascii
    exact ⟨ofAscii key, (toStr_eq_ok_iff h).2 ⟨hkey, htext⟩, htext⟩

end ApiKey

/-- **Credentials round-trip.** A token is accepted exactly when its bytes are allowed in a
header value, with the scheme before it or without; a control character is not.  Every
authorization is made of one token, which can be read from it: the slice after the scheme
lies within the value, it is the token, and it is UTF-8.  A key is accepted exactly when its
bytes are allowed, is stored as it is, and is shown exactly when no byte is above 126. -/
theorem credentials_roundTrip [LawfulHeaderValue] :
    (∀ token : String,
      ((∃ a, Authorization.bearer token = .ok a) ↔ ∀ b ∈ utf8 token, AllowedByte b) ∧
      ((∃ a, Authorization.bearer token = .ok a)
        ↔ ∃ v, Http.fromBytes (utf8 token) = .ok v) ∧
      ∀ c ∈ token.toList, (c.toNat < 32 ∧ c ≠ '\t') ∨ c.toNat = 127 →
        ¬ ∃ a, Authorization.bearer token = .ok a) ∧
    (∀ a : Authorization, ∃ token, Authorization.bearer token = .ok a) ∧
    (∀ (token : String) (a : Authorization), Authorization.bearer token = .ok a →
      7 ≤ (Http.asBytes a.value).length ∧
      a.asBytes = some (utf8 token) ∧
      a.asStr = some token ∧
      ∃ v, HeaderEntry.headerPair Prevalidated a = (Authorization.HEADER_NAME, v) ∧
        Http.asBytes v = utf8 ("Bearer " ++ token)) ∧
    (∀ (token token' : String) (a a' : Authorization), Authorization.bearer token = .ok a →
      Authorization.bearer token' = .ok a' → Http.asBytes a.value = Http.asBytes a'.value →
      token = token') ∧
    (∀ key : Bytes, (∃ k, ApiKey.new key = .ok k) ↔ ∀ b ∈ key, AllowedByte b) ∧
    ∀ (key : Bytes) (k : ApiKey), ApiKey.new key = .ok k →
      k.asBytes = key ∧
      (∃ v, HeaderEntry.headerPair Prevalidated k = (ApiKey.HEADER_NAME, v) ∧
        Http.asBytes v = key) ∧
      ((∃ s, k.toStr = .ok s ∧ utf8 s = key) ↔ ∀ b ∈ key, b ≤ 126) ∧
      ∀ s, k.toStr = .ok s → utf8 s = key := by
  refine ⟨fun token => ⟨Authorization.exists_bearer_iff, ?_, ?_⟩, Authorization.exists_eq_bearer,
    fun token a ha => ?_, ?_, fun key => ApiKey.exists_new_iff, fun key k hk => ?_⟩
  · rw [Authorization.exists_bearer_iff, LawfulHeaderValue.exists_fromBytes_iff]
  · intro c hc hcontrol haccepted
    obtain ⟨b, hb, hnot⟩ := exists_not_allowedByte hc hcontrol
    exact hnot (Authorization.exists_bearer_iff.1 haccepted b hb)
  · exact ⟨Authorization.seven_le_length ha, Authorization.asBytes_of_bearer ha,
      Authorization.asStr_of_bearer ha, a.value, rfl, Authorization.asBytes_value ha⟩
  · intro token token' a a' ha ha' hbytes
    -- the values agree on the scheme, and so on the rest
    rw [Authorization.asBytes_value ha, Authorization.asBytes_value ha', utf8_append,
      utf8_append] at hbytes
    exact utf8_injective (List.append_cancel_left hbytes)
  · have hkey : k.asBytes = key := ApiKey.asBytes_of_new hk
    refine ⟨hkey, ⟨k.value, rfl, hkey⟩, ApiKey.exists_toStr_iff hk, fun s hs => ?_⟩
    exact ((ApiKey.toStr_eq_ok_iff hk).1 hs).2

end Credentials

section Opaque

open scoped Reference
open Reference

/-- A token with characters that are not ASCII is read back, and a key whose first byte is
not is stored but not shown. -/
theorem credentials_roundTrip_opaque :
    (∃ a, Authorization.bearer "clé-€" = .ok a ∧ a.asStr = some "clé-€") ∧
    (∃ k, ApiKey.new (0xff :: utf8 "key") = .ok k ∧ k.asBytes = 0xff :: utf8 "key" ∧
      ∀ s, k.toStr ≠ .ok s) ∧
    ¬ ∃ a, Authorization.bearer "token\r\n" = .ok a := by
  obtain ⟨haccepts, -, hread, -, hnew, hkey⟩ := credentials_roundTrip
  refine ⟨?_, ?_, ?_⟩
  · obtain ⟨a, ha⟩ := (haccepts "clé-€").1.2 (forall_allowedByte (by decide))
    exact ⟨a, ha, (hread _ a ha).2.2.1⟩
  · obtain ⟨k, hk⟩ := (hnew (0xff :: utf8 "key")).2 (forall_allowedByte (by decide))
    obtain ⟨hbytes, -, hshown, hstr⟩ := hkey _ k hk
    refine ⟨k, hk, hbytes, fun s hs => ?_⟩
    have hff : (0xff : UInt8) ≤ 126 := hshown.1 ⟨s, hs, hstr s hs⟩ 0xff List.mem_cons_self
    exact absurd hff (by decide)
  · exact (haccepts "token\r\n").2.2 '\r' (by decide) (by decide)

end Opaque

end NearJsonrpcClient
