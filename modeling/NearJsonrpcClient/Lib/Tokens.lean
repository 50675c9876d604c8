/-
# Splitting at a separator

What the parts of a split are, and which lists split into a sequence of fixed parts around
one free part: those that are written out from the fixed parts and a part without
separators, and no others.
-/
import Mathlib.Data.List.Basic

namespace NearJsonrpcClient.Lib

universe u

variable {α : Type u} [DecidableEq α] {sep : α}

/-- No part of a split contains the separator. -/
lemma not_mem_of_mem_splitOn {xs part : List α} (h : part ∈ xs.splitOn sep) : sep ∉ part := by
  induction xs generalizing part with
  | nil =>
    rw [List.splitOn_nil, List.mem_singleton] at h
    rw [h]
    exact List.not_mem_nil
  | cons x xs ih =>
    rw [List.splitOn_cons_eq_if_modifyHead] at h
    split at h
    · rcases List.mem_cons.1 h with rfl | h
      · exact List.not_mem_nil
      · exact ih h
    · next hx =>
      rcases hs : xs.splitOn sep with _ | ⟨head, tail⟩
      · exact absurd hs (List.splitOn_ne_nil sep xs)
      · rw [hs, List.modifyHead_cons] at h
        rcases List.mem_cons.1 h with rfl | h
        · have hhead : sep ∉ head := ih (by rw [hs]; exact List.mem_cons_self)
          intro hmem
          rcases List.mem_cons.1 hmem with rfl | hmem
          · exact hx (beq_self_eq_true _)
          · exact hhead hmem
        · exact ih (by rw [hs]; exact List.mem_cons_of_mem _ h)

/-- A split is the only way to write a list out of parts without separators. -/
theorem splitOn_eq_iff {xs : List α} {parts : List (List α)} :
    xs.splitOn sep = parts ↔
      parts ≠ [] ∧ (∀ part ∈ parts, sep ∉ part) ∧ xs = [sep].intercalate parts := by
  constructor
  · rintro rfl
    exact ⟨List.splitOn_ne_nil sep xs, fun _ => not_mem_of_mem_splitOn,
      (List.intercalate_splitOn sep).symm⟩
  · rintro ⟨hne, hsep, rfl⟩
    exact List.splitOn_intercalate sep hsep hne

omit [DecidableEq α] in
lemma intercalate_cons (x : List α) (xs : List (List α)) :
    [sep].intercalate (x :: xs) = x ++ xs.flatMap fun y => sep :: y := by
  induction xs generalizing x with
  | nil => simp
  | cons y ys ih =>
    rw [List.intercalate_cons_cons, ih, List.flatMap_cons]
    simp

omit [DecidableEq α] in
/-- A sequence of parts with one part singled out. -/
lemma intercalate_append_cons (before : List (List α)) (x : List α) (after : List (List α)) :
    [sep].intercalate (before ++ x :: after)
      = (before.flatMap fun y => y ++ [sep]) ++ x ++ after.flatMap fun y => sep :: y := by
  induction before with
  | nil => rw [List.nil_append, intercalate_cons, List.flatMap_nil, List.nil_append]
  | cons y ys ih =>
    have hcons : ∃ z zs, ys ++ x :: after = z :: zs := by
      cases ys with
      | nil => exact ⟨x, after, rfl⟩
      | cons z zs => exact ⟨z, zs ++ x :: after, rfl⟩
    obtain ⟨z, zs, hz⟩ := hcons
    rw [List.cons_append, hz, List.intercalate_cons_cons, ← hz, ih]
    simp

/-- The lists that split into fixed parts around a free one. -/
theorem splitOn_eq_append_cons_iff {xs x : List α} {before after : List (List α)}
    (hb : ∀ part ∈ before, sep ∉ part) (ha : ∀ part ∈ after, sep ∉ part) :
    xs.splitOn sep = before ++ x :: after ↔
      sep ∉ x ∧
        xs = (before.flatMap fun y => y ++ [sep]) ++ x ++ after.flatMap fun y => sep :: y := by
  rw [splitOn_eq_iff, intercalate_append_cons]
  constructor
  · rintro ⟨-, hsep, hxs⟩
    exact ⟨hsep x (List.mem_append_right _ List.mem_cons_self), hxs⟩
  · rintro ⟨hx, hxs⟩
    refine ⟨by simp, ?_, hxs⟩
    intro part hpart
    rcases List.mem_append.1 hpart with hpart | hpart
    · exact hb part hpart
    · rcases List.mem_cons.1 hpart with rfl | hpart
      · exact hx
      · exact ha part hpart

end NearJsonrpcClient.Lib
