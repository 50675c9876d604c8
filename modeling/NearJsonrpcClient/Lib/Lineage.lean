/-
# Lineages of handles

The value of a handle is determined by what it was created as and by the updates that were
made through it and, before it was copied, through the handles that it descends from.  A
table of such lineages runs along with a table of values; what is done through other handles
is not part of a lineage.
-/
import NearJsonrpcClient.Lib.Handles

namespace NearJsonrpcClient.Lib

universe u

variable {α : Type u}

/-- How a value came about. -/
structure Lineage (α : Type u) where
  origin : α
  updates : List (α → Option α)

namespace Lineage

/-- Make the updates again, one after another. -/
def replay (l : Lineage α) : Option α := l.updates.foldlM (fun a f => f a) l.origin

/-- A lineage after another update, which may fail. -/
def update (f : α → Option α) (l : Lineage α) : Option (Lineage α) :=
  (l.replay.bind f).map fun _ => { l with updates := l.updates ++ [f] }

lemma replay_append (a : α) (fs gs : List (α → Option α)) :
    (⟨a, fs ++ gs⟩ : Lineage α).replay
      = (⟨a, fs⟩ : Lineage α).replay.bind fun b => (⟨b, gs⟩ : Lineage α).replay := by
  rw [replay, List.foldlM_append]
  rfl

lemma replay_snoc (l : Lineage α) (f : α → Option α) :
    ({ l with updates := l.updates ++ [f] } : Lineage α).replay = l.replay.bind f := by
  rw [replay_append]
  cases l.replay with
  | none => rfl
  | some b => simp [replay]

/-- What the updates keep holds in the end when it holds at first. -/
lemma replay_keeps {P : α → Prop} {fs : List (α → Option α)}
    (hfs : ∀ f ∈ fs, ∀ x y, f x = some y → P x → P y) {a b : α} (ha : P a)
    (hb : (⟨a, fs⟩ : Lineage α).replay = some b) : P b := by
  induction fs generalizing a with
  | nil =>
    cases hb
    exact ha
  | cons f fs ih =>
    obtain ⟨c, hc, hrest⟩ := Option.bind_eq_some_iff.1 hb
    exact ih (fun g hg => hfs g (List.mem_cons_of_mem _ hg))
      (hfs f List.mem_cons_self a c hc ha) hrest

/-- What an update brings about, and the later ones keep, holds in the end. -/
lemma replay_establishes {P : α → Prop} {l : Lineage α} {before after : List (α → Option α)}
    {f : α → Option α} (hl : l.updates = before ++ f :: after)
    (hf : ∀ x y, f x = some y → P y) (hafter : ∀ g ∈ after, ∀ x y, g x = some y → P x → P y)
    {b : α} (hb : l.replay = some b) : P b := by
  obtain ⟨a, fs⟩ := l
  obtain rfl : fs = before ++ f :: after := hl
  rw [replay_append] at hb
  obtain ⟨x, -, hrest⟩ := Option.bind_eq_some_iff.1 hb
  obtain ⟨y, hy, hlast⟩ := Option.bind_eq_some_iff.1 hrest
  exact replay_keeps hafter (hf x y hy) hlast

end Lineage

/-! ## The table of lineages -/

/-- What an action does to the lineages. -/
def Action.trace : Action α → Action (Lineage α)
  | .create a => .create ⟨a, []⟩
  | .copy h => .copy h
  | .update h f => .update h (Lineage.update f)
  | .skip => .skip

namespace Table

/-- The lineages that a run leaves. -/
def lineages (as : List (Action α)) : Table (Lineage α) := run [] (as.map Action.trace)

/-- A value is the one that its lineage gives. -/
def Replays (a : α) (l : Lineage α) : Prop := l.replay = some a

/-- The step lemma. -/
lemma actionRel_trace (a : Action α) : ActionRel Replays a a.trace := by
  cases a with
  | create a => exact .create rfl
  | copy h => exact .copy h
  | skip => exact .skip
  | update h f =>
    refine .update h fun x l hl => ?_
    have hreplay : l.replay = some x := hl
    rw [Lineage.update, hreplay, Option.bind_some]
    cases hf : f x with
    | none => exact .none
    | some y =>
      refine .some ?_
      rw [Replays, Lineage.replay_snoc, hreplay, Option.bind_some, hf]

/-- The run lemma: every value has a lineage that gives it. -/
theorem exists_lineage {as : List (Action α)} {h : ℕ} {a : α} (ha : (run [] as).get h = some a) :
    ∃ l, (lineages as).get h = some l ∧ l.replay = some a := by
  have hall : List.Forall₂ (ActionRel Replays) as (as.map Action.trace) := by
    rw [List.forall₂_map_right_iff, List.forall₂_same]
    exact fun a _ => actionRel_trace a
  exact ((rel_nil Replays).run hall).get_some ha

/-- The updates of a lineage are updates of the run. -/
lemma mem_updates {as : List (Action α)} {h : ℕ} {l : Lineage α}
    (hl : (lineages as).get h = some l) : ∀ f ∈ l.updates, ∃ h', Action.update h' f ∈ as := by
  refine of_run (P := fun l : Lineage α => ∀ f ∈ l.updates, ∃ h', Action.update h' f ∈ as)
    (fun b hb => ?_) hl
  obtain ⟨a, ha, rfl⟩ := List.mem_map.1 hb
  cases a with
  | create a => exact .create (by simp)
  | copy h => exact .copy h
  | skip => exact .skip
  | update h f =>
    refine .update h fun l l' hl hl' => ?_
    obtain ⟨-, -, rfl⟩ := Option.map_eq_some_iff.1 hl'
    intro g hg
    rcases List.mem_append.1 hg with hg | hg
    · exact hl g hg
    · obtain rfl := List.mem_singleton.1 hg
      exact ⟨h, ha⟩

/-- A lineage begins with a value that was created. -/
lemma mem_origin {as : List (Action α)} {h : ℕ} {l : Lineage α}
    (hl : (lineages as).get h = some l) : Action.create l.origin ∈ as := by
  refine of_run (P := fun l : Lineage α => Action.create l.origin ∈ as) (fun b hb => ?_) hl
  obtain ⟨a, ha, rfl⟩ := List.mem_map.1 hb
  cases a with
  | create a => exact .create ha
  | copy h => exact .copy h
  | skip => exact .skip
  | update h f =>
    refine .update h fun l l' hl hl' => ?_
    obtain ⟨-, -, rfl⟩ := Option.map_eq_some_iff.1 hl'
    exact hl

/-- Only what is done through a handle becomes part of its lineage. -/
lemma lineages_of_ne (as : List (Action α)) {h h' : ℕ} (f : α → Option α) (hne : h ≠ h') :
    (lineages (as ++ [.update h f])).get h' = (lineages as).get h' := by
  rw [lineages, List.map_append, run_append]
  exact get_act_update_of_ne _ _ hne

end Table

end NearJsonrpcClient.Lib
