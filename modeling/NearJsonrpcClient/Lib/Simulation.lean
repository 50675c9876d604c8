/-
# Simulation of pools

Two programs are alike when they emit related events, ask related questions, and go on alike
after related answers.  Tasks of two pools may be related in any way that the steps of tasks
keep; when their environments give related answers to related questions, every step of the
one pool is matched by a step of the other.
-/
import NearJsonrpcClient.Lib.Pool

namespace NearJsonrpcClient.Lib

universe u v w x y z z'

/-! ## Lists whose elements are related one by one -/

section Lists

variable {A : Type u} {B : Type v} {R : A → B → Prop}

lemma exists_append_of_forall₂ {as as' : List A} {bs : List B}
    (h : List.Forall₂ R (as ++ as') bs) :
    ∃ cs cs', bs = cs ++ cs' ∧ List.Forall₂ R as cs ∧ List.Forall₂ R as' cs' := by
  induction as generalizing bs with
  | nil => exact ⟨[], bs, rfl, .nil, h⟩
  | cons a as ih =>
    cases h with
    | cons hab h =>
      obtain ⟨cs, cs', rfl, hcs, hcs'⟩ := ih h
      exact ⟨_ :: cs, cs', rfl, .cons hab hcs, hcs'⟩

variable {as : List A} {bs : List B}

lemma exists_getElem?_of_forall₂ (h : List.Forall₂ R as bs) {i : ℕ} {a : A} (ha : as[i]? = some a) :
    ∃ b, bs[i]? = some b ∧ R a b := by
  induction h generalizing i with
  | nil => cases ha
  | cons hab _ ih =>
    cases i with
    | zero =>
      cases ha
      exact ⟨_, rfl, hab⟩
    | succ i => exact ih ha

lemma forall₂_set (h : List.Forall₂ R as bs) (i : ℕ) {a : A} {b : B} (hab : R a b) :
    List.Forall₂ R (as.set i a) (bs.set i b) := by
  induction h generalizing i with
  | nil => exact .nil
  | cons hab' h ih =>
    cases i with
    | zero => exact .cons hab h
    | succ i => exact .cons hab' (ih i)

end Lists

variable {Q : Type u} {Ans : Q → Type v} {ω : Type w}

/-! ## Programs that are alike -/

section Programs

variable {ε α β : Type v}

/-- Two programs that cannot be told apart by what is related. -/
inductive Program.Alike (E : ω → ω → Prop) (D : Q → Q → Prop)
    (A : (Σ q, Ans q) → (Σ q, Ans q) → Prop) : Program Ans ω ε α → Program Ans ω ε α → Prop
  | done (x : Except ε α) : Alike E D A (.done x) (.done x)
  | tell {e e' : ω} {p p' : Program Ans ω ε α} (he : E e e') (h : Alike E D A p p') :
      Alike E D A (.tell e p) (.tell e' p')
  | ask {q q' : Q} {k : Ans q → Program Ans ω ε α} {k' : Ans q' → Program Ans ω ε α}
      (hq : D q q') (h : ∀ a a', A ⟨q, a⟩ ⟨q', a'⟩ → Alike E D A (k a) (k' a')) :
      Alike E D A (.ask q k) (.ask q' k')

variable {E : ω → ω → Prop} {D : Q → Q → Prop} {A : (Σ q, Ans q) → (Σ q, Ans q) → Prop}

lemma Program.Alike.tells {es es' : List ω} {p p' : Program Ans ω ε α}
    (hes : List.Forall₂ E es es') (h : p.Alike E D A p') :
    (Program.tells es p).Alike E D A (Program.tells es' p') := by
  induction hes with
  | nil => exact h
  | cons he _ ih => exact .tell he ih

lemma Program.Alike.bind {p p' : Program Ans ω ε α} {f f' : α → Program Ans ω ε β}
    (h : p.Alike E D A p') (hf : ∀ a, (f a).Alike E D A (f' a)) :
    (p >>= f).Alike E D A (p' >>= f') := by
  induction h with
  | done x =>
    cases x with
    | error e => exact .done _
    | ok a => exact hf a
  | tell he _ ih => exact .tell he ih
  | ask hq _ ih => exact .ask hq ih

end Programs

/-! ## Pools that are alike -/

variable {J : Type x} {ε α : J → Type v} {S : Type y} {η : Type z} {μ : Type z'}

/-- A relation between tasks that their steps keep, and between environments that their
answers and moves keep. -/
structure Pool.Simulation (E E' : Environment Ans η μ S) (D : Q → Q → Prop)
    (A : (Σ q, Ans q) → (Σ q, Ans q) → Prop) (R : Task Ans ω ε α → Task Ans ω ε α → Prop)
    (I : S → S → Prop) : Prop where
  tell : ∀ {j : J} {events : List ω} {e : ω} {p : Program Ans ω (ε j) (α j)} {t : Task Ans ω ε α},
    R ⟨j, events, .tell e p⟩ t → ∃ j' events' e' p', t = ⟨j', events', .tell e' p'⟩ ∧
      R ⟨j, events ++ [e], p⟩ ⟨j', events' ++ [e'], p'⟩
  ask : ∀ {j : J} {events : List ω} {q : Q} {k : Ans q → Program Ans ω (ε j) (α j)}
    {t : Task Ans ω ε α}, R ⟨j, events, .ask q k⟩ t →
      ∃ j' events' q' k', t = ⟨j', events', .ask q' k'⟩ ∧ D q q' ∧
        ∀ a a', A ⟨q, a⟩ ⟨q', a'⟩ → R ⟨j, events, k a⟩ ⟨j', events', k' a'⟩
  answer : ∀ {env env' env₁ : S} {i : ℕ} {q q' : Q} {a : Ans q} {effects : List η},
    I env env' → D q q' → E.answers env i q a effects env₁ → ∃ a' effects' env₁',
      E'.answers env' i q' a' effects' env₁' ∧ A ⟨q, a⟩ ⟨q', a'⟩ ∧ I env₁ env₁'
  move : ∀ {env env' env₁ : S} {m : μ}, I env env' → E.moves env m env₁ →
    ∃ m' env₁', E'.moves env' m' env₁' ∧ I env₁ env₁'

variable {start : ∀ j, Program Ans ω (ε j) (α j)} {E E' : Environment Ans η μ S}
  {D : Q → Q → Prop} {A : (Σ q, Ans q) → (Σ q, Ans q) → Prop}
  {R : Task Ans ω ε α → Task Ans ω ε α → Prop} {I : S → S → Prop} {s s₁ s' : Pool Ans ω ε α S}

/-- A step that starts no task is matched. -/
lemma Pool.Step.simulate (hsim : Simulation E E' D A R I)
    {more : List (Record Ans η μ)} (hs : Step start E s more s₁)
    (hlength : s₁.tasks.length = s.tasks.length) (henv : I s.env s'.env)
    (htasks : List.Forall₂ R s.tasks s'.tasks) :
    ∃ more' s₁', Step start E' s' more' s₁' ∧ s₁'.tasks.length = s'.tasks.length ∧
      I s₁.env s₁'.env ∧ List.Forall₂ R s₁.tasks s₁'.tasks := by
  cases hs with
  | spawn j =>
    rw [List.length_append, List.length_singleton] at hlength
    omega
  | @tell i j events e p hi =>
    obtain ⟨t, ht, hr⟩ := exists_getElem?_of_forall₂ htasks hi
    obtain ⟨j', events', e', p', rfl, hr'⟩ := hsim.tell hr
    exact ⟨_, _, .tell ht, List.length_set, henv, forall₂_set htasks i hr'⟩
  | @answer i j events q k a effects env hi ha =>
    obtain ⟨t, ht, hr⟩ := exists_getElem?_of_forall₂ htasks hi
    obtain ⟨j', events', q', k', rfl, hq, hk⟩ := hsim.ask hr
    obtain ⟨a', effects', env', ha', hanswer, henv'⟩ := hsim.answer henv hq ha
    exact ⟨_, _, .answer ht ha', List.length_set, henv', forall₂_set htasks i (hk a a' hanswer)⟩
  | move hm =>
    obtain ⟨m', env', hm', henv'⟩ := hsim.move henv hm
    exact ⟨_, _, .move hm', rfl, henv', htasks⟩

end NearJsonrpcClient.Lib
