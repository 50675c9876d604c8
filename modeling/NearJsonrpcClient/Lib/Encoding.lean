/-
# Encoders that may fail

An encoder is unambiguous when no two values have the same encoding, which is to say that
a value can be recovered from its encoding.  Unambiguous encoders compose with injective
functions, and a family of them is unambiguous when the encodings are put under names that
tell the members of the family apart.
-/
import Mathlib.Logic.Function.Basic

namespace NearJsonrpcClient.Lib

universe u v w

variable {ε : Type u} {α : Type v} {β γ τ : Type w}

/-- No two values have the same encoding. -/
def Unambiguous (encode : α → Except ε β) : Prop :=
  ∀ ⦃a a' b⦄, encode a = .ok b → encode a' = .ok b → a = a'

lemma map_eq_ok_iff {x : Except ε β} {f : β → γ} {c : γ} :
    x.map f = .ok c ↔ ∃ b, x = .ok b ∧ f b = c := by
  cases x with
  | error e => simp [Except.map]
  | ok b => simp [Except.map]

lemma map_eq_error_iff {x : Except ε β} {f : β → γ} {e : ε} :
    x.map f = .error e ↔ x = .error e := by
  cases x with
  | error e => simp [Except.map]
  | ok b => simp [Except.map]

lemma bind_eq_ok_iff {x : Except ε β} {f : β → Except ε γ} {c : γ} :
    x >>= f = .ok c ↔ ∃ b, x = .ok b ∧ f b = .ok c := by
  cases x with
  | error e => simp [bind, Except.bind]
  | ok b => simp [bind, Except.bind]

lemma mapError_eq_ok_iff {δ : Type*} {x : Except ε β} {f : ε → δ} {b : β} :
    x.mapError f = .ok b ↔ x = .ok b := by
  cases x with
  | error e => exact ⟨nofun, nofun⟩
  | ok b' => exact ⟨fun h => congrArg Except.ok (Except.ok.inj h),
      fun h => congrArg Except.ok (Except.ok.inj h)⟩

namespace Unambiguous

/-- A value can be recovered from its encoding. -/
theorem exists_decode {encode : α → Except ε β} (h : Unambiguous encode) :
    ∃ decode : β → Option α, ∀ a b, encode a = .ok b → decode b = some a := by
  classical
  refine ⟨fun b => if hb : ∃ a, encode a = .ok b then some hb.choose else none, ?_⟩
  intro a b hab
  have hb : ∃ a, encode a = .ok b := ⟨a, hab⟩
  have hchoose : hb.choose = a := h hb.choose_spec hab
  exact (dif_pos hb).trans (congrArg some hchoose)

/-- An encoder that does not fail. -/
lemma of_injective {f : α → β} (hf : Function.Injective f) :
    Unambiguous fun a => (.ok (f a) : Except ε β) := by
  intro a a' b ha ha'
  exact hf ((Except.ok.inj ha).trans (Except.ok.inj ha').symm)

/-- An encoding may be encoded further. -/
lemma map {encode : α → Except ε β} (h : Unambiguous encode) {f : β → γ}
    (hf : Function.Injective f) : Unambiguous fun a => (encode a).map f := by
  intro a a' c ha ha'
  obtain ⟨b, hb, rfl⟩ := map_eq_ok_iff.1 ha
  obtain ⟨b', hb', hf'⟩ := map_eq_ok_iff.1 ha'
  obtain rfl := hf hf'
  exact h hb hb'

section Sigma

variable {ι : Type v} {A : ι → Type v} {encode : ∀ i, A i → Except ε β} {name : ι → τ}
  {message : τ → β → γ}

/-- In a family of encoders, with each encoding put under the name of its member, what an
unambiguous member encodes can be recovered. -/
lemma eq_of_sigma (hname : Function.Injective name) (hmessage : Function.Injective2 message)
    {x y : Σ i, A i} (h : Unambiguous (encode x.1)) {c : γ}
    (hx : (encode x.1 x.2).map (message (name x.1)) = .ok c)
    (hy : (encode y.1 y.2).map (message (name y.1)) = .ok c) : x = y := by
  obtain ⟨i, a⟩ := x
  obtain ⟨j, a'⟩ := y
  obtain ⟨b, hb, rfl⟩ := map_eq_ok_iff.1 hx
  obtain ⟨b', hb', hm⟩ := map_eq_ok_iff.1 hy
  obtain ⟨hn, rfl⟩ := hmessage hm
  obtain rfl : i = j := hname hn.symm
  exact congrArg (Sigma.mk i) (h hb hb')

/-- A family of unambiguous encoders. -/
theorem sigma (hname : Function.Injective name) (hmessage : Function.Injective2 message)
    (h : ∀ i, Unambiguous (encode i)) :
    Unambiguous fun x : Σ i, A i => (encode x.1 x.2).map (message (name x.1)) :=
  fun _ _ _ hx hy => eq_of_sigma hname hmessage (h _) hx hy

end Sigma

end Unambiguous

end NearJsonrpcClient.Lib
