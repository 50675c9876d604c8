/-
# Decoders with a shortcut

A decoder extends another one conservatively at an input when it agrees with the results
of the other one there, and is restricted where the other one fails.  A shortcut gives a
fixed result to the inputs that pass a test and leaves the others to a decoder; it is
conservative where the decoder has no other result than the fixed one.
-/
import Mathlib.Logic.Basic

namespace NearJsonrpcClient.Lib

variable {A B ε : Type}

/-- At one input, a decoder keeps the results of another one, and satisfies `Beyond` where
that one fails. -/
structure ConservativeAt (decode extended : A → Except ε B) (Beyond : A → B → Prop) (a : A) :
    Prop where
  keeps : ∀ b, decode a = .ok b → extended a = .ok b
  beyond : ∀ e b, decode a = .error e → extended a = .ok b → Beyond a b

/-- A fixed result for the inputs that pass a test. -/
def shortcut (test : A → Bool) (fixed : B) (decode : A → Except ε B) (a : A) : Except ε B :=
  if test a then .ok fixed else decode a

variable {test : A → Bool} {fixed : B} {decode : A → Except ε B} {a : A}

lemma shortcut_of_test (h : test a = true) : shortcut test fixed decode a = .ok fixed := if_pos h

lemma shortcut_of_not_test (h : ¬ test a = true) : shortcut test fixed decode a = decode a :=
  if_neg h

/-- All that a shortcut accepts beyond the decoder is the fixed result. -/
lemma test_of_shortcut_of_decode {e : ε} {b : B} (hd : decode a = .error e)
    (h : shortcut test fixed decode a = .ok b) : test a = true ∧ b = fixed := by
  by_cases ht : test a = true
  · rw [shortcut_of_test ht] at h
    exact ⟨ht, (Except.ok.inj h).symm⟩
  · rw [shortcut_of_not_test ht, hd] at h
    cases h

theorem conservativeAt_shortcut_iff {Beyond : A → B → Prop}
    (hbeyond : test a = true → Beyond a fixed) :
    ConservativeAt decode (shortcut test fixed decode) Beyond a
      ↔ (test a = true → ∀ b, decode a = .ok b → b = fixed) := by
  constructor
  · intro h ht b hb
    have hkept := h.keeps b hb
    rw [shortcut_of_test ht] at hkept
    exact (Except.ok.inj hkept).symm
  · intro h
    refine ⟨fun b hb => ?_, fun e b hd hb => ?_⟩
    · by_cases ht : test a = true
      -- the shortcut hides the result of the decoder, which is the fixed one
      · rw [shortcut_of_test ht, h ht b hb]
      · rw [shortcut_of_not_test ht, hb]
    · obtain ⟨ht, rfl⟩ := test_of_shortcut_of_decode hd hb
      exact hbeyond ht

end NearJsonrpcClient.Lib
