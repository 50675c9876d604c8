/-
# Computations that may fail and leave a trace

A value of `Traced ω ε α` is the complete observable behaviour of a computation that
emits events of type `ω` while it runs and ends either with a value of type `α` or with
an error of type `ε`.  An early return is a failing step: the events emitted before it
stay in the trace and nothing after it runs.
-/
import Mathlib.Logic.Basic

namespace NearJsonrpcClient.Lib

universe u v w

/-- A computation with the events it emits and the result it ends with. -/
structure Traced (ω : Type u) (ε : Type v) (α : Type w) where
  /-- The events, in the order in which they were emitted. -/
  events : List ω
  /-- The value, or the error of the step that failed. -/
  result : Except ε α

namespace Traced

variable {ω : Type u} {ε : Type v} {α β : Type w}

/-- A step that emits one event. -/
def emit (e : ω) : Traced ω ε PUnit := ⟨[e], .ok ⟨⟩⟩

/-- A step that emits nothing and may fail. -/
def lift (x : Except ε α) : Traced ω ε α := ⟨[], x⟩

/-- Run `x` and, when it succeeds, continue with its value. -/
protected def bind (x : Traced ω ε α) (f : α → Traced ω ε β) : Traced ω ε β :=
  match x.result with
  | .error e => ⟨x.events, .error e⟩
  | .ok a => ⟨x.events ++ (f a).events, (f a).result⟩

instance : Monad (Traced ω ε) where
  pure a := ⟨[], .ok a⟩
  bind := Traced.bind

@[simp] lemma emit_bind (e : ω) (f : PUnit → Traced ω ε β) :
    (emit e >>= f) = ⟨e :: (f ⟨⟩).events, (f ⟨⟩).result⟩ := rfl

@[simp] lemma lift_ok_bind (a : α) (f : α → Traced ω ε β) : (lift (.ok a) >>= f) = f a := rfl

@[simp] lemma lift_error_bind (e : ε) (f : α → Traced ω ε β) :
    (lift (.error e) >>= f) = lift (.error e) := rfl

/-- An event is emitted by the first computation, or by the continuation of its value. -/
lemma mem_bind_events {x : Traced ω ε α} {f : α → Traced ω ε β} {e : ω} :
    e ∈ (x >>= f).events ↔ e ∈ x.events ∨ ∃ a, x.result = .ok a ∧ e ∈ (f a).events := by
  obtain ⟨events, err | a⟩ := x
  · change e ∈ events ↔ _
    simp
  · change e ∈ events ++ (f a).events ↔ _
    simp

end Traced

end NearJsonrpcClient.Lib
