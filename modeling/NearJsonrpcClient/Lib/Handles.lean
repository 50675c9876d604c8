/-
# Handles

A table of handles: values that are created, copied and updated through their handles, and
consumed by an update that fails.  A run of actions on a table is a fold.  Two tables are
related when their handles are, one by one; related actions keep tables related, and so do
runs of them.  This is the one induction from which invariants of all handles, refinements
of them and comparisons of two runs, with what they show, follow.
-/
import Mathlib.Data.List.Forall2

namespace NearJsonrpcClient.Lib

universe u v

variable {α : Type u} {β : Type v}

/-- The values of the handles, in the order of their creation; a consumed handle has none. -/
abbrev Table (α : Type u) : Type u := List (Option α)

/-- What an operation does to a table. -/
inductive Action (α : Type u) where
  | create (a : α)
  | copy (h : ℕ)
  | update (h : ℕ) (f : α → Option α)
  | skip

namespace Table

/-- The value of a handle that exists and is not consumed. -/
def get (t : Table α) (h : ℕ) : Option α := t[h]?.join

def act (t : Table α) : Action α → Table α
  | .create a => t ++ [some a]
  | .copy h => t ++ [t.get h]
  | .update h f => t.modify h fun slot => slot.bind f
  | .skip => t

def run (t : Table α) (actions : List (Action α)) : Table α := actions.foldl act t

@[simp] lemma run_nil (t : Table α) : t.run [] = t := rfl

@[simp] lemma run_cons (t : Table α) (a : Action α) (actions : List (Action α)) :
    t.run (a :: actions) = (t.act a).run actions := rfl

lemma run_append (t : Table α) (as bs : List (Action α)) :
    t.run (as ++ bs) = (t.run as).run bs := List.foldl_append

/-! ## One action -/

lemma get_append_singleton (t : Table α) (slot : Option α) (h : ℕ) :
    get (t ++ [slot]) h = if h = t.length then slot else t.get h := by
  unfold get
  rcases Nat.lt_trichotomy h t.length with hlt | rfl | hgt
  · rw [if_neg (Nat.ne_of_lt hlt), List.getElem?_append_left hlt]
  · rw [if_pos rfl, List.getElem?_concat_length]
    rfl
  · rw [if_neg (Nat.ne_of_gt hgt), List.getElem?_eq_none (by simp; omega),
      List.getElem?_eq_none (by omega)]

lemma get_modify (t : Table α) (h : ℕ) (f : α → Option α) (h' : ℕ) :
    get (t.modify h fun slot => slot.bind f) h'
      = if h = h' then (t.get h').bind f else t.get h' := by
  unfold get
  rw [List.getElem?_modify]
  split
  · cases t[h']? <;> rfl
  · simp

/-- An update leaves the other handles as they are. -/
lemma get_act_update_of_ne (t : Table α) {h h' : ℕ} (f : α → Option α) (hne : h ≠ h') :
    (t.act (.update h f)).get h' = t.get h' := by
  rw [act, get_modify, if_neg hne]

lemma length_act_update (t : Table α) (h : ℕ) (f : α → Option α) :
    (t.act (.update h f)).length = t.length := List.length_modify _ _ _

/-! ## Related tables -/

/-- The handles of two tables are related one by one. -/
def Rel (R : α → β → Prop) (t : Table α) (t' : Table β) : Prop :=
  t.length = t'.length ∧ ∀ h, Option.Rel R (t.get h) (t'.get h)

lemma rel_nil (R : α → β → Prop) : Rel R [] [] := ⟨rfl, fun _ => .none⟩

/-- Two actions do related things. -/
inductive ActionRel (R : α → β → Prop) : Action α → Action β → Prop
  | create {a : α} {b : β} (hab : R a b) : ActionRel R (.create a) (.create b)
  | copy (h : ℕ) : ActionRel R (.copy h) (.copy h)
  | update (h : ℕ) {f : α → Option α} {g : β → Option β}
      (hfg : ∀ a b, R a b → Option.Rel R (f a) (g b)) :
      ActionRel R (.update h f) (.update h g)
  | skip : ActionRel R .skip .skip

variable {R : α → β → Prop} {t : Table α} {t' : Table β}

lemma Rel.append_singleton (h : Rel R t t') {slot : Option α} {slot' : Option β}
    (hslot : Option.Rel R slot slot') : Rel R (t ++ [slot]) (t' ++ [slot']) := by
  refine ⟨by simp [h.1], ?_⟩
  intro i
  rw [get_append_singleton, get_append_singleton, h.1]
  split
  · exact hslot
  · exact h.2 i

/-- The step lemma. -/
lemma Rel.act {a : Action α} {b : Action β} (h : Rel R t t') (hab : ActionRel R a b) :
    Rel R (t.act a) (t'.act b) := by
  cases hab with
  | create hab => exact h.append_singleton (.some hab)
  | copy i => exact h.append_singleton (h.2 i)
  | update i hfg =>
    refine ⟨by rw [length_act_update, length_act_update, h.1], ?_⟩
    intro j
    rw [Table.act, Table.act, get_modify, get_modify]
    split
    · have hj := h.2 j
      revert hj
      generalize t.get j = x
      generalize t'.get j = y
      rintro (hxy | _)
      · exact hfg _ _ hxy
      · exact .none
    · exact h.2 j
  | skip => exact h

/-- The run lemma. -/
theorem Rel.run {as : List (Action α)} {bs : List (Action β)} (h : Rel R t t')
    (hab : List.Forall₂ (ActionRel R) as bs) : Rel R (t.run as) (t'.run bs) := by
  induction hab generalizing t t' with
  | nil => exact h
  | cons hab _ ih => exact ih (h.act hab)

/-- Updates that commute on a value may be swapped. -/
lemma rel_update_comm {R : α → α → Prop} (hrefl : ∀ x, R x x) (t : Table α) {i j : ℕ}
    {f g : α → Option α}
    (hcomm : i = j → ∀ x, Option.Rel R ((f x).bind g) ((g x).bind f)) :
    Rel R ((t.act (.update i f)).act (.update j g)) ((t.act (.update j g)).act (.update i f)) := by
  have hself : ∀ slot : Option α, Option.Rel R slot slot := by
    rintro (_ | x)
    · exact .none
    · exact .some (hrefl x)
  refine ⟨by simp only [length_act_update], ?_⟩
  intro k
  simp only [Table.act, get_modify]
  by_cases hi : i = k <;> by_cases hj : j = k
  · subst hi
    simp only [hj, if_true]
    cases t.get i with
    | none => exact .none
    | some x => exact hcomm hj.symm x
  · simp only [hi, hj, if_true, if_false]
    exact hself _
  · simp only [hi, hj, if_true, if_false]
    exact hself _
  · simp only [hi, hj, if_false]
    exact hself _

lemma Rel.get_some (h : Rel R t t') {i : ℕ} {a : α} (ha : t.get i = some a) :
    ∃ b, t'.get i = some b ∧ R a b := by
  have hi := h.2 i
  rw [ha] at hi
  cases hb : t'.get i with
  | none =>
    rw [hb] at hi
    cases hi
  | some b =>
    rw [hb] at hi
    cases hi with
    | some hab => exact ⟨b, rfl, hab⟩

lemma Rel.get_eq_none_iff (h : Rel R t t') {i : ℕ} : t.get i = none ↔ t'.get i = none := by
  have hi := h.2 i
  revert hi
  generalize t.get i = x
  generalize t'.get i = y
  rintro (_ | _) <;> simp

lemma Rel.map_eq {γ : Type*} (h : Rel R t t') {f : Option α → γ} {g : Option β → γ}
    (hfg : ∀ slot slot', Option.Rel R slot slot' → f slot = g slot') : t.map f = t'.map g := by
  refine List.ext_getElem (by simp [h.1]) fun i hi hi' => ?_
  rw [List.length_map] at hi hi'
  have hslots := h.2 i
  rw [get, get, List.getElem?_eq_getElem hi, List.getElem?_eq_getElem hi'] at hslots
  rw [List.getElem_map, List.getElem_map]
  exact hfg _ _ hslots

/-! ## Outputs of a run -/

/-- A step of a program: what it does to a table, and what it shows of the table. -/
structure Step (α : Type u) (ο : Type*) where
  action : Action α
  shown : Table α → List ο

variable {ο : Type*}

/-- What the steps of a run show, each of the table that it starts from. -/
def outputs : Table α → List (Step α ο) → List ο
  | _, [] => []
  | t, s :: steps => s.shown t ++ outputs (t.act s.action) steps

/-- Two steps do related things, and show the same of related tables. -/
structure StepRel (R : α → β → Prop) (s : Step α ο) (s' : Step β ο) : Prop where
  action : ActionRel R s.action s'.action
  shown : ∀ {t : Table α} {t' : Table β}, Rel R t t' → s.shown t = s'.shown t'

/-- Related runs show the same. -/
theorem Rel.outputs_eq {steps : List (Step α ο)} {steps' : List (Step β ο)} (h : Rel R t t')
    (hs : List.Forall₂ (StepRel R) steps steps') : outputs t steps = outputs t' steps' := by
  induction hs generalizing t t' with
  | nil => rfl
  | cons hs _ ih => rw [outputs, outputs, hs.shown h, ih (h.act hs.action)]

/-! ## Invariants -/

/-- An action that keeps a property of the values. -/
inductive Keeps (P : α → Prop) : Action α → Prop
  | create {a : α} (ha : P a) : Keeps P (.create a)
  | copy (h : ℕ) : Keeps P (.copy h)
  | update (h : ℕ) {f : α → Option α} (hf : ∀ a b, P a → f a = some b → P b) :
      Keeps P (.update h f)
  | skip : Keeps P .skip

lemma Keeps.actionRel {P : α → Prop} {a : Action α} (h : Keeps P a) :
    ActionRel (fun x y => x = y ∧ P x) a a := by
  cases h with
  | create ha => exact .create ⟨rfl, ha⟩
  | copy h => exact .copy h
  | update h hf =>
    refine .update h ?_
    rintro x _ ⟨rfl, hx⟩
    rename_i f
    cases hy : f x with
    | none => exact .none
    | some y => exact .some ⟨rfl, hf x y hx hy⟩
  | skip => exact .skip

/-- What every action of a run keeps holds of every handle. -/
theorem of_run {P : α → Prop} {as : List (Action α)} (h : ∀ a ∈ as, Keeps P a) {i : ℕ} {x : α}
    (hx : get (run [] as) i = some x) : P x := by
  have hself : List.Forall₂ (ActionRel fun x y => x = y ∧ P x) as as :=
    List.forall₂_same.2 fun a ha => (h a ha).actionRel
  obtain ⟨y, -, -, hP⟩ := ((rel_nil _).run hself).get_some hx
  exact hP

/-! ## Histories of one handle -/

/-- The updates of an action stay within a relation between the old value and the new one. -/
def Within (Q : α → α → Prop) (a : Action α) : Prop :=
  ∀ h f, a = .update h f → ∀ x y, f x = some y → Q x y

lemma length_le_act (t : Table α) (a : Action α) : t.length ≤ (t.act a).length := by
  cases a with
  | create a => simp [Table.act]
  | copy h => simp [Table.act]
  | update h f => exact Nat.le_of_eq (length_act_update t h f).symm
  | skip => exact Nat.le_refl _

lemma lt_length_of_get {i : ℕ} {x : α} (h : t.get i = some x) : i < t.length := by
  by_contra hle
  rw [get, List.getElem?_eq_none (by omega)] at h
  cases h

/-- A consumed handle stays consumed. -/
lemma get_act_eq_none {i : ℕ} (hi : i < t.length) (h : t.get i = none) (a : Action α) :
    (t.act a).get i = none := by
  have hne : i ≠ t.length := Nat.ne_of_lt hi
  cases a with
  | create a => rw [Table.act, get_append_singleton, if_neg hne, h]
  | copy j => rw [Table.act, get_append_singleton, if_neg hne, h]
  | update j f =>
    rw [Table.act, get_modify, h]
    split <;> rfl
  | skip => exact h

lemma get_run_eq_none {i : ℕ} (hi : i < t.length) (h : t.get i = none)
    (as : List (Action α)) : (t.run as).get i = none := by
  induction as generalizing t with
  | nil => exact h
  | cons a as ih =>
    exact ih (Nat.lt_of_lt_of_le hi (length_le_act t a)) (get_act_eq_none hi h a)

variable {Q : α → α → Prop}

/-- An action changes a handle that exists by an update only. -/
lemma get_act (hrefl : ∀ x, Q x x) {a : Action α} (ha : Within Q a) {i : ℕ} {x y : α}
    (hx : t.get i = some x) (hy : (t.act a).get i = some y) : Q x y := by
  have hne : i ≠ t.length := Nat.ne_of_lt (lt_length_of_get hx)
  cases a with
  | create a =>
    rw [Table.act, get_append_singleton, if_neg hne, hx] at hy
    cases hy
    exact hrefl x
  | copy h =>
    rw [Table.act, get_append_singleton, if_neg hne, hx] at hy
    cases hy
    exact hrefl x
  | update h f =>
    rw [Table.act, get_modify, hx] at hy
    split at hy
    · exact ha h f rfl x y hy
    · cases hy
      exact hrefl x
  | skip =>
    rw [Table.act, hx] at hy
    cases hy
    exact hrefl x

/-- Over a run, a handle changes within the relation that its updates stay in. -/
theorem get_run (hrefl : ∀ x, Q x x) (htrans : ∀ x y z, Q x y → Q y z → Q x z)
    {as : List (Action α)} (has : ∀ a ∈ as, Within Q a) {i : ℕ} {x y : α}
    (hx : t.get i = some x) (hy : (t.run as).get i = some y) : Q x y := by
  induction as generalizing t x with
  | nil =>
    cases hx.symm.trans hy
    exact hrefl _
  | cons a as ih =>
    have hrest : ∀ b ∈ as, Within Q b := fun b hb => has b (List.mem_cons_of_mem _ hb)
    cases hz : (t.act a).get i with
    | none =>
      have hi := Nat.lt_of_lt_of_le (lt_length_of_get hx) (length_le_act t a)
      rw [run_cons, get_run_eq_none hi hz] at hy
      cases hy
    | some z =>
      exact htrans x z y (get_act hrefl (has a List.mem_cons_self) hx hz) (ih hrest hz hy)

end Table

end NearJsonrpcClient.Lib
