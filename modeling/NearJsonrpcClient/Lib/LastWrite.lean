/-
# The last write under a name

The value that a list of writes leaves under a name: that of the last write under it.
-/
import Mathlib.Data.List.Basic

namespace NearJsonrpcClient.Lib

universe u v

variable {K : Type u} {V : Type v} [DecidableEq K]

def lastWrite (writes : List (K × V)) (k : K) : Option V :=
  (writes.reverse.find? fun w => w.1 = k).map Prod.snd

lemma lastWrite_append_singleton (writes : List (K × V)) (k : K) (v : V) (k' : K) :
    lastWrite (writes ++ [(k, v)]) k' = if k' = k then some v else lastWrite writes k' := by
  rw [lastWrite, List.reverse_append, List.reverse_singleton, List.singleton_append]
  by_cases h : k' = k
  · rw [List.find?_cons_of_pos (by simp [h]), if_pos h]
    rfl
  · rw [List.find?_cons_of_neg (by simpa using Ne.symm h), if_neg h]
    rfl

/-- There is no value exactly under the names that nothing was written under. -/
lemma lastWrite_eq_none_iff {writes : List (K × V)} {k : K} :
    lastWrite writes k = none ↔ ∀ w ∈ writes, w.1 ≠ k := by
  rw [lastWrite, Option.map_eq_none_iff, List.find?_eq_none]
  simp

/-- The value is that of a write after which nothing was written under the name. -/
theorem lastWrite_eq_some_iff {writes : List (K × V)} {k : K} {v : V} :
    lastWrite writes k = some v ↔
      ∃ before after, writes = before ++ (k, v) :: after ∧ ∀ w ∈ after, w.1 ≠ k := by
  rw [lastWrite, Option.map_eq_some_iff]
  constructor
  · rintro ⟨⟨k', v'⟩, hfind, rfl⟩
    obtain ⟨hk, after, before, heq, hafter⟩ := List.find?_eq_some_iff_append.1 hfind
    obtain rfl : k' = k := by simpa using hk
    refine ⟨before.reverse, after.reverse, ?_, ?_⟩
    · rw [← List.reverse_reverse writes, heq]
      simp
    · intro w hw
      simpa using hafter w (List.mem_reverse.1 hw)
  · rintro ⟨before, after, rfl, hafter⟩
    refine ⟨(k, v), List.find?_eq_some_iff_append.2 ⟨by simp, after.reverse, before.reverse,
      by simp, ?_⟩, rfl⟩
    intro w hw
    simpa using hafter w (List.mem_reverse.1 hw)

end NearJsonrpcClient.Lib
