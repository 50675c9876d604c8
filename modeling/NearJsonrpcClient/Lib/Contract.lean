/-
# Contracts of interactive programs

A program relies on the environment and gives a guarantee in return: as long as the answers
that it gets are as promised, the guarantee holds of every history of answers, and when the
program ends its postcondition holds of the result and the history.  A history may record
more of an answer than the program sees.  There is one rule for each way to build a program,
and a pool of tasks keeps the contracts of its tasks.
-/
import NearJsonrpcClient.Lib.Pool

namespace NearJsonrpcClient.Lib

universe u v w x y z z'

/-- What a program relies on: a property of histories that holds of their beginnings too. -/
structure Rely (L : Type x) where
  holds : List L → Prop
  of_append : ∀ h h', holds (h ++ h') → holds h

namespace Program

variable {Q : Type u} {Ans : Q → Type v} {ω : Type w} {ε α β σ : Type v} {L : Type x}

section Meets

variable (seen : L → Σ q, Ans q) (rely : Rely L)

/-- The contract of a program that starts after the history `h`. -/
def Meets (p : Program Ans ω ε α) (h : List L) (guar : List L → Prop)
    (post : Except ε α → List L → Prop) : Prop :=
  ∀ ls es r, p.Follows (ls.map seen) es r → rely.holds (h ++ ls) →
    guar (h ++ ls) ∧ ∀ x, r = .done x → post x (h ++ ls)

end Meets

namespace Meets

variable {seen : L → Σ q, Ans q} {rely : Rely L} {h : List L} {guar : List L → Prop}

/-- A program may assume what it relies on of the history before it. -/
lemma assuming {p : Program Ans ω ε α} {post : Except ε α → List L → Prop}
    (hp : rely.holds h → Meets seen rely p h guar post) : Meets seen rely p h guar post :=
  fun ls es r hr hrely => hp (rely.of_append _ _ hrely) ls es r hr hrely

lemma imp {p : Program Ans ω ε α} {post post' : Except ε α → List L → Prop}
    (hp : Meets seen rely p h guar post) (hpost : ∀ x h', post x h' → post' x h') :
    Meets seen rely p h guar post' := by
  intro ls es r hr hrely
  obtain ⟨hguar, hx⟩ := hp ls es r hr hrely
  exact ⟨hguar, fun x hdone => hpost x _ (hx x hdone)⟩

lemma done {x : Except ε α} {post : Except ε α → List L → Prop}
    (hx : rely.holds h → guar h ∧ post x h) : Meets seen rely (.done x : Program Ans ω ε α) h guar
      post := by
  intro ls es r hr hrely
  obtain ⟨hls, -, rfl⟩ := hr.done_inv
  obtain rfl := List.map_eq_nil_iff.1 hls
  rw [List.append_nil] at hrely ⊢
  obtain ⟨hguar, hpost⟩ := hx hrely
  refine ⟨hguar, fun y hy => ?_⟩
  cases hy
  exact hpost

lemma ask {q : Q} {k : Ans q → Program Ans ω ε α} {post : Except ε α → List L → Prop}
    (hguar : rely.holds h → guar h)
    (hk : ∀ l a, seen l = ⟨q, a⟩ → Meets seen rely (k a) (h ++ [l]) guar post) :
    Meets seen rely (.ask q k) h guar post := by
  intro ls es r hr hrely
  rcases hr.ask_inv with ⟨hls, -, rfl⟩ | ⟨a, tr, htr, hr'⟩
  · obtain rfl := List.map_eq_nil_iff.1 hls
    rw [List.append_nil] at hrely ⊢
    exact ⟨hguar hrely, nofun⟩
  · obtain ⟨l, ls, rfl, hl, rfl⟩ := List.map_eq_cons_iff.1 htr
    rw [List.append_cons] at hrely ⊢
    exact hk l a hl ls es r hr' hrely

/-- A program in two parts: the second starts from where the first ends with a value. -/
theorem bind {p : Program Ans ω ε α} {f : α → Program Ans ω ε β}
    {mid : Except ε α → List L → Prop} {post : Except ε β → List L → Prop}
    (hp : Meets seen rely p h guar mid)
    (hf : ∀ a h', mid (.ok a) h' → Meets seen rely (f a) h' guar post)
    (he : ∀ e h', mid (.error e) h' → post (.error e) h') :
    Meets seen rely (p >>= f) h guar post := by
  intro ls es r hr hrely
  rcases hr.of_bind with ⟨p', hp', rfl⟩ | ⟨tr₁, tr₂, es₁, es₂, a, htr, rfl, h₁, h₂⟩
  · obtain ⟨hguar, hmid⟩ := hp ls es p' hp' hrely
    refine ⟨hguar, fun x hx => ?_⟩
    rcases bind_eq_done hx with ⟨e, rfl, rfl⟩ | ⟨a, rfl, ha⟩
    · exact he e _ (hmid _ rfl)
    · have hlast := hf a _ (hmid _ rfl) [] [] (f a) (.refl _) (by simpa using hrely)
      simpa using hlast.2 x ha
  · obtain ⟨ls₁, ls₂, rfl, rfl, rfl⟩ := List.map_eq_append_iff.1 htr
    rw [← List.append_assoc] at hrely ⊢
    obtain ⟨-, hmid⟩ := hp ls₁ es₁ _ h₁ (rely.of_append _ _ hrely)
    exact hf a _ (hmid _ rfl) ls₂ es₂ r h₂ hrely

theorem attempt {ε' : Type v} {p : Program Ans ω ε α} {post : Except ε α → List L → Prop}
    {post' : Except ε' (Except ε α) → List L → Prop} (hp : Meets seen rely p h guar post)
    (hpost : ∀ x h', post x h' → post' (.ok x) h') : Meets seen rely p.attempt h guar post' := by
  intro ls es r hr hrely
  obtain ⟨p', hp', rfl⟩ := hr.of_attempt
  obtain ⟨hguar, hx⟩ := hp ls es p' hp' hrely
  refine ⟨hguar, fun x hdone => ?_⟩
  obtain ⟨y, rfl, rfl⟩ := attempt_eq_done hdone
  exact hpost y _ (hx y rfl)

/-- A loop, with an invariant that knows the number of rounds that remain. -/
theorem rounds {body : σ → Program Ans ω ε (σ ⊕ α)} {inv : ℕ → σ → List L → Prop}
    {post : Except ε (σ ⊕ α) → List L → Prop}
    (hbody : ∀ n s h, inv (n + 1) s h → Meets seen rely (body s) h guar fun x h' =>
      match x with
      | .ok (.inl s') => inv n s' h'
      | .ok (.inr a) => rely.holds h' → guar h' ∧ post (.ok (.inr a)) h'
      | .error e => post (.error e) h')
    (hout : ∀ s h, inv 0 s h → rely.holds h → guar h ∧ post (.ok (.inl s)) h) :
    ∀ n s h, inv n s h → Meets seen rely (rounds body n s) h guar post := by
  intro n
  induction n with
  | zero => exact fun s h hinv => .done (hout s h hinv)
  | succ n ih =>
    intro s h hinv
    refine (hbody n s h hinv).bind ?_ fun e h' he => he
    rintro (s' | a) h' hmid
    · exact ih s' h' hmid
    · exact .done hmid

end Meets

end Program

namespace Pool

variable {Q : Type u} {Ans : Q → Type v} {ω : Type w} {J : Type x} {ε α : J → Type v}
  {S : Type y} {η : Type z} {μ : Type z'} {start : ∀ j, Program Ans ω (ε j) (α j)}
  {E : Environment Ans η μ S}

/-- In every state that a pool reaches, a task keeps its contract of every history that it
cannot tell from its own, if the history is as promised. -/
theorem Run.meets {env : S} {log : List (Record Ans η μ)} {s : Pool Ans ω ε α S}
    (hr : Run start E (empty env) log s) {i : ℕ} {t : Task Ans ω ε α}
    (ht : s.tasks[i]? = some t) {xs : List (Exchange Ans η)}
    (hxs : xs.map Exchange.seen = (Record.ofTask i log).map Exchange.seen)
    {rely : Rely (Exchange Ans η)} (hrely : rely.holds xs) {guar : List (Exchange Ans η) → Prop}
    {post : Except (ε t.job) (α t.job) → List (Exchange Ans η) → Prop}
    (hp : (start t.job).Meets Exchange.seen rely [] guar post) :
    guar xs ∧ ∀ x, t.program = .done x → post x xs := by
  have hfollows := hr.explains.follows i t ht
  rw [← hxs] at hfollows
  exact hp _ _ _ hfollows hrely

end Pool

end NearJsonrpcClient.Lib
