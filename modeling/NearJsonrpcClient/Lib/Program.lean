/-
# Interactive programs

A program emits events, asks questions of its environment and goes on with the answers, and
ends with a value or with an error; an early return is an error that ends it.  Its answers
depend on what happened before, so a program follows a list of answers.
-/
import Mathlib.Data.Nat.Notation

namespace NearJsonrpcClient.Lib

universe u v w

/-- A program that asks questions `q` with answers in `Ans q`, emits events of type `ω`, and
ends with an error of type `ε` or a value of type `α`. -/
inductive Program {Q : Type u} (Ans : Q → Type v) (ω : Type w) (ε α : Type v) where
  | done (x : Except ε α)
  | tell (e : ω) (rest : Program Ans ω ε α)
  | ask (q : Q) (k : Ans q → Program Ans ω ε α)

namespace Program

variable {Q : Type u} {Ans : Q → Type v} {ω : Type w} {ε α β : Type v}

/-- A step that emits one event. -/
def emit (e : ω) : Program Ans ω ε PUnit := .tell e (.done (.ok ⟨⟩))

/-- A step that emits nothing and may fail. -/
def lift (x : Except ε α) : Program Ans ω ε α := .done x

/-- A step that asks one question. -/
def query (q : Q) : Program Ans ω ε (Ans q) := .ask q fun a => .done (.ok a)

/-- Run `p` and, when it ends with a value, continue with it. -/
protected def bind : Program Ans ω ε α → (α → Program Ans ω ε β) → Program Ans ω ε β
  | .done (.ok a), f => f a
  | .done (.error e), _ => .done (.error e)
  | .tell e p, f => .tell e (p.bind f)
  | .ask q k, f => .ask q fun a => (k a).bind f

instance : Monad (Program Ans ω ε) where
  pure a := .done (.ok a)
  bind := Program.bind

@[simp] lemma lift_ok_bind (a : α) (f : α → Program Ans ω ε β) :
    ((lift (.ok a) : Program Ans ω ε α) >>= f) = f a := rfl

@[simp] lemma lift_error_bind (e : ε) (f : α → Program Ans ω ε β) :
    ((lift (.error e) : Program Ans ω ε α) >>= f) = .done (.error e) := rfl

@[simp] lemma emit_bind (e : ω) (f : PUnit → Program Ans ω ε β) :
    (emit e >>= f : Program Ans ω ε β) = .tell e (f ⟨⟩) := rfl

@[simp] lemma query_bind (q : Q) (f : Ans q → Program Ans ω ε β) :
    (query q >>= f : Program Ans ω ε β) = .ask q f := rfl

/-- A program after a few events. -/
def tells (events : List ω) (p : Program Ans ω ε α) : Program Ans ω ε α := events.foldr .tell p

/-- Run `p` and go on with its result, which may be an error. -/
def attempt {ε' : Type v} : Program Ans ω ε α → Program Ans ω ε' (Except ε α)
  | .done x => .done (.ok x)
  | .tell e p => .tell e p.attempt
  | .ask q k => .ask q fun a => (k a).attempt

/-- A number of rounds of a loop: a round ends the loop with a value, or with what the next
one starts from. -/
def rounds {σ : Type v} (body : σ → Program Ans ω ε (σ ⊕ α)) :
    ℕ → σ → Program Ans ω ε (σ ⊕ α)
  | 0, s => .done (.ok (.inl s))
  | n + 1, s => do
      match ← body s with
      | .inl s' => rounds body n s'
      | .inr a => .done (.ok (.inr a))

lemma bind_eq_done {p : Program Ans ω ε α} {f : α → Program Ans ω ε β} {x : Except ε β}
    (h : (p >>= f) = .done x) :
    (∃ e, p = .done (.error e) ∧ x = .error e) ∨ ∃ a, p = .done (.ok a) ∧ f a = .done x := by
  cases p with
  | done y =>
    cases y with
    | error e =>
      cases h
      exact .inl ⟨e, rfl, rfl⟩
    | ok a => exact .inr ⟨a, rfl, h⟩
  | tell e p => cases h
  | ask q k => cases h

lemma attempt_eq_done {ε' : Type v} {p : Program Ans ω ε α} {x : Except ε' (Except ε α)}
    (h : p.attempt = .done x) : ∃ y, p = .done y ∧ x = .ok y := by
  cases p with
  | done y =>
    cases h
    exact ⟨y, rfl, rfl⟩
  | tell e p => cases h
  | ask q k => cases h

/-! ## Programs and the answers they get -/

/-- With a list of answers and after emitting some events, a program has become another. -/
inductive Follows : Program Ans ω ε α → List (Σ q, Ans q) → List ω → Program Ans ω ε α → Prop
  | refl (p : Program Ans ω ε α) : Follows p [] [] p
  | tell {e : ω} {p p' : Program Ans ω ε α} {tr : List (Σ q, Ans q)} {es : List ω}
      (h : Follows p tr es p') : Follows (.tell e p) tr (e :: es) p'
  | ask {q : Q} {a : Ans q} {k : Ans q → Program Ans ω ε α} {p' : Program Ans ω ε α}
      {tr : List (Σ q, Ans q)} {es : List ω} (h : Follows (k a) tr es p') :
      Follows (.ask q k) (⟨q, a⟩ :: tr) es p'

namespace Follows

variable {p p' p'' : Program Ans ω ε α} {tr tr' : List (Σ q, Ans q)} {es es' : List ω}

lemma trans (h : Follows p tr es p') (h' : Follows p' tr' es' p'') :
    Follows p (tr ++ tr') (es ++ es') p'' := by
  induction h with
  | refl p => exact h'
  | tell _ ih => exact .tell (ih h')
  | ask _ ih => exact .ask (ih h')

/-- The last event. -/
lemma snoc_tell {e : ω} (h : Follows p tr es (.tell e p')) : Follows p tr (es ++ [e]) p' := by
  have h' := h.trans (.tell (.refl p'))
  rwa [List.append_nil] at h'

/-- The last answer. -/
lemma snoc_ask {q : Q} {k : Ans q → Program Ans ω ε α} (h : Follows p tr es (.ask q k))
    (a : Ans q) : Follows p (tr ++ [⟨q, a⟩]) es (k a) := by
  have h' := h.trans (.ask (a := a) (.refl (k a)))
  rwa [List.append_nil] at h'

lemma after_tells {events : List ω} (h : Follows p tr es p') :
    Follows (tells events p) tr (events ++ es) p' := by
  induction events with
  | nil => exact h
  | cons e events ih => exact .tell ih

lemma done_inv {x : Except ε α} (h : Follows (.done x) tr es p') :
    tr = [] ∧ es = [] ∧ p' = .done x := by
  cases h with
  | refl => exact ⟨rfl, rfl, rfl⟩

lemma ask_inv {q : Q} {k : Ans q → Program Ans ω ε α} (h : Follows (.ask q k) tr es p') :
    (tr = [] ∧ es = [] ∧ p' = .ask q k) ∨
      ∃ a tr', tr = ⟨q, a⟩ :: tr' ∧ Follows (k a) tr' es p' := by
  cases h with
  | refl => exact .inl ⟨rfl, rfl, rfl⟩
  | ask h => exact .inr ⟨_, _, rfl, h⟩

/-- A program that begins with events is among them, or has emitted them. -/
lemma tells_inv {events : List ω} (h : Follows (tells events p) tr es p') :
    (tr = [] ∧ ∀ x, p' ≠ .done x) ∨ ∃ es', es = events ++ es' ∧ Follows p tr es' p' := by
  induction events generalizing es with
  | nil => exact .inr ⟨es, rfl, h⟩
  | cons e events ih =>
    cases h with
    | refl => exact .inl ⟨rfl, nofun⟩
    | tell h =>
      rcases ih h with hleft | ⟨es', rfl, h'⟩
      · exact .inl hleft
      · exact .inr ⟨es', rfl, h'⟩

/-- A program that only emits events is not answered anything, and it ends when it has emitted
them. -/
lemma tells_done_inv {events : List ω} {x : Except ε α}
    (h : Follows (tells events (.done x)) tr es p') :
    tr = [] ∧ ∀ y, p' = .done y → es = events ∧ y = x := by
  rcases h.tells_inv with ⟨htr, hp⟩ | ⟨es', rfl, h'⟩
  · exact ⟨htr, fun y hy => absurd hy (hp y)⟩
  · obtain ⟨htr, rfl, rfl⟩ := h'.done_inv
    refine ⟨htr, ?_⟩
    rintro y ⟨⟩
    exact ⟨List.append_nil events, rfl⟩

lemma bind (h : Follows p tr es p') (f : α → Program Ans ω ε β) :
    Follows (p >>= f) tr es (p' >>= f) := by
  induction h with
  | refl p => exact .refl _
  | tell _ ih => exact .tell ih
  | ask _ ih => exact .ask ih

lemma attempt {ε' : Type v} (h : Follows p tr es p') :
    Follows (p.attempt : Program Ans ω ε' (Except ε α)) tr es p'.attempt := by
  induction h with
  | refl p => exact .refl _
  | tell _ ih => exact .tell ih
  | ask _ ih => exact .ask ih

/-- A round of a loop that leads to the next one. -/
lemma round {σ : Type v} {body : σ → Program Ans ω ε (σ ⊕ α)} {s s' : σ}
    (h : Follows (body s) tr es (.done (.ok (.inl s')))) (n : ℕ) :
    Follows (rounds body (n + 1) s) tr es (rounds body n s') := h.bind _

/-- A round that ends a loop. -/
lemma last_round {σ : Type v} {body : σ → Program Ans ω ε (σ ⊕ α)} {s : σ} {a : α}
    (h : Follows (body s) tr es (.done (.ok (.inr a)))) (n : ℕ) :
    Follows (rounds body (n + 1) s) tr es (.done (.ok (.inr a))) := h.bind _

/-- A program in two parts is in its first part, or has ended it with a value. -/
theorem of_bind {p : Program Ans ω ε α} {f : α → Program Ans ω ε β} {r : Program Ans ω ε β}
    (h : Follows (p >>= f) tr es r) :
    (∃ p', Follows p tr es p' ∧ r = (p' >>= f)) ∨
      ∃ tr₁ tr₂ es₁ es₂ a, tr = tr₁ ++ tr₂ ∧ es = es₁ ++ es₂ ∧
        Follows p tr₁ es₁ (.done (.ok a)) ∧ Follows (f a) tr₂ es₂ r := by
  induction p generalizing tr es with
  | done x =>
    cases x with
    | ok a => exact .inr ⟨[], tr, [], es, a, rfl, rfl, .refl _, h⟩
    | error e =>
      cases h
      exact .inl ⟨_, .refl _, rfl⟩
  | tell e p ih =>
    cases h with
    | refl => exact .inl ⟨_, .refl _, rfl⟩
    | tell h =>
      rcases ih h with ⟨p', hp', rfl⟩ | ⟨tr₁, tr₂, es₁, es₂, a, rfl, rfl, h₁, h₂⟩
      · exact .inl ⟨p', .tell hp', rfl⟩
      · exact .inr ⟨tr₁, tr₂, e :: es₁, es₂, a, rfl, rfl, .tell h₁, h₂⟩
  | ask q k ih =>
    cases h with
    | refl => exact .inl ⟨_, .refl _, rfl⟩
    | @ask _ a _ _ tr es h =>
      rcases ih a h with ⟨p', hp', rfl⟩ | ⟨tr₁, tr₂, es₁, es₂, b, rfl, rfl, h₁, h₂⟩
      · exact .inl ⟨p', .ask hp', rfl⟩
      · exact .inr ⟨⟨q, a⟩ :: tr₁, tr₂, es₁, es₂, b, rfl, rfl, .ask h₁, h₂⟩

/-- An attempt follows the answers as the program that it runs. -/
lemma of_attempt {ε' : Type v} {p : Program Ans ω ε α} {r : Program Ans ω ε' (Except ε α)}
    (h : Follows p.attempt tr es r) : ∃ p', Follows p tr es p' ∧ r = p'.attempt := by
  induction p generalizing tr es with
  | done x =>
    cases h
    exact ⟨_, .refl _, rfl⟩
  | tell e p ih =>
    cases h with
    | refl => exact ⟨_, .refl _, rfl⟩
    | tell h =>
      obtain ⟨p', hp', rfl⟩ := ih h
      exact ⟨p', .tell hp', rfl⟩
  | ask q k ih =>
    cases h with
    | refl => exact ⟨_, .refl _, rfl⟩
    | ask h =>
      obtain ⟨p', hp', rfl⟩ := ih _ h
      exact ⟨p', .ask hp', rfl⟩

end Follows

end Program

end NearJsonrpcClient.Lib
