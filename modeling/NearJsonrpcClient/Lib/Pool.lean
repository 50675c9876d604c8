/-
# Pools of tasks

Tasks run programs side by side in one environment.  A step of a pool starts a task, lets
one emit an event, lets the environment answer the question that one waits for, or lets the
environment make a move of its own; any task may take the next step.  What is recorded of a
run, the answers and the moves in their order, explains it: the records are a run of the
environment, and every task follows the answers that it got.
-/
import NearJsonrpcClient.Lib.Program
import Mathlib.Data.List.Forall2

namespace NearJsonrpcClient.Lib

universe u v w x y z z'

/-- An element of a list with one more element is one of the list, or this element. -/
lemma concat_eq_append_cons {A : Type u} {xs before after : List A} {x y : A}
    (h : xs ++ [x] = before ++ y :: after) :
    (xs = before ∧ x = y) ∨ ∃ after', xs = before ++ y :: after' := by
  rcases List.eq_nil_or_concat after with rfl | ⟨after, z, rfl⟩
  · obtain ⟨hbefore, hone⟩ := List.append_inj' h rfl
    exact .inl ⟨hbefore, List.singleton_inj.1 hone⟩
  · rw [List.concat_eq_append, ← List.cons_append, ← List.append_assoc] at h
    exact .inr ⟨after, (List.append_inj' h rfl).1⟩

/-! ## Runs of a labelled relation -/

/-- A run of a relation between states, with the labels of its steps. -/
inductive Steps {S : Type u} {L : Type v} (R : S → L → S → Prop) : S → List L → S → Prop
  | nil (s : S) : Steps R s [] s
  | cons {s s' s'' : S} {l : L} {ls : List L} (h : R s l s') (hs : Steps R s' ls s'') :
      Steps R s (l :: ls) s''

namespace Steps

variable {S : Type u} {L : Type v} {R : S → L → S → Prop} {s s' s'' : S} {ls ls' : List L}

lemma append (h : Steps R s ls s') (h' : Steps R s' ls' s'') : Steps R s (ls ++ ls') s'' := by
  induction h with
  | nil s => exact h'
  | cons hl _ ih => exact .cons hl (ih h')

lemma snoc {l : L} (h : Steps R s ls s') (hl : R s' l s'') : Steps R s (ls ++ [l]) s'' :=
  h.append (.cons hl (.nil s''))

/-- What holds at first and is kept by every step holds after a run. -/
theorem induct {P : List L → S → Prop} (hnil : P [] s)
    (hsnoc : ∀ ls l s₁ s₂, P ls s₁ → R s₁ l s₂ → P (ls ++ [l]) s₂) (h : Steps R s ls s') :
    P ls s' := by
  have hall : ∀ pre, P pre s → P (pre ++ ls) s' := by
    clear hnil
    induction h with
    | nil s => exact fun pre hpre => by rwa [List.append_nil]
    | @cons s s₁ _ l ls hl _ ih =>
      intro pre hpre
      rw [List.append_cons]
      exact ih _ (hsnoc pre l s s₁ hpre hl)
  exact hall [] hnil

/-- What holds of the labels of single steps holds of all labels of a run. -/
lemma forall_mem {P : L → Prop} (hP : ∀ s l s', R s l s' → P l) (h : Steps R s ls s') :
    ∀ l ∈ ls, P l := by
  induction h with
  | nil s => simp
  | cons hl _ ih => exact List.forall_mem_cons.2 ⟨hP _ _ _ hl, ih⟩

variable {S' : Type w} {L' : Type x} {R' : S' → L' → S' → Prop} (π : S → S')

/-- A run whose steps are runs of another relation. -/
lemma flatMap {f : L → List L'} (hf : ∀ s l s', R s l s' → Steps R' (π s) (f l) (π s'))
    (h : Steps R s ls s') : Steps R' (π s) (ls.flatMap f) (π s') := by
  induction h with
  | nil s => exact .nil (π s)
  | cons hl _ ih => exact (hf _ _ _ hl).append ih

/-- A run whose steps are steps of another relation, with related labels. -/
lemma simulate {P : L → L' → Prop}
    (hP : ∀ s l s', R s l s' → ∃ l', R' (π s) l' (π s') ∧ P l l') (h : Steps R s ls s') :
    ∃ ls', Steps R' (π s) ls' (π s') ∧ List.Forall₂ P ls ls' := by
  induction h with
  | nil s => exact ⟨[], .nil (π s), .nil⟩
  | cons hl _ ih =>
    obtain ⟨l', hl', hP'⟩ := hP _ _ _ hl
    obtain ⟨ls', hls', hall⟩ := ih
    exact ⟨l' :: ls', .cons hl' hls', .cons hP' hall⟩

end Steps

/-! ## Pools -/

variable {Q : Type u} {Ans : Q → Type v} {ω : Type w} {J : Type x} {ε α : J → Type v}
  {S : Type y} {η : Type z} {μ : Type z'}

/-- A task: what it was started as, the events that it emitted, and the rest of it. -/
structure Task (Ans : Q → Type v) (ω : Type w) (ε α : J → Type v) where
  job : J
  events : List ω
  program : Program Ans ω (ε job) (α job)

/-- The environment and the tasks, in the order in which they were started. -/
structure Pool (Ans : Q → Type v) (ω : Type w) (ε α : J → Type v) (S : Type y) where
  env : S
  tasks : List (Task Ans ω ε α)

/-- An answer that the environment gave to a task, with the effects that it had. -/
structure Exchange (Ans : Q → Type v) (η : Type z) where
  task : ℕ
  query : Q
  answer : Ans query
  effects : List η

/-- What is recorded of a run: an answer to a task, or a move of the environment. -/
inductive Record (Ans : Q → Type v) (η : Type z) (μ : Type z') where
  | answer (e : Exchange Ans η)
  | move (m : μ)

/-- What the task sees of an exchange. -/
def Exchange.seen (e : Exchange Ans η) : Σ q, Ans q := ⟨e.query, e.answer⟩

namespace Record

/-- A record as an exchange with a task, when it is one. -/
def ofTask? (i : ℕ) : Record Ans η μ → Option (Exchange Ans η)
  | .answer e => if e.task = i then some e else none
  | .move _ => none

/-- The exchanges with one task. -/
def ofTask (i : ℕ) (log : List (Record Ans η μ)) : List (Exchange Ans η) :=
  log.filterMap (ofTask? i)

@[simp] lemma ofTask_nil (i : ℕ) : ofTask i ([] : List (Record Ans η μ)) = [] := rfl

@[simp] lemma ofTask_append (i : ℕ) (log log' : List (Record Ans η μ)) :
    ofTask i (log ++ log') = ofTask i log ++ ofTask i log' := List.filterMap_append

@[simp] lemma ofTask_move (i : ℕ) (m : μ) : ofTask i [(.move m : Record Ans η μ)] = [] := rfl

lemma ofTask_singleton_self (e : Exchange Ans η) :
    ofTask e.task [(.answer e : Record Ans η μ)] = [e] := by
  simp [ofTask, ofTask?]

lemma ofTask_singleton_of_ne {e : Exchange Ans η} {i : ℕ} (h : e.task ≠ i) :
    ofTask i [(.answer e : Record Ans η μ)] = [] := by
  simp [ofTask, ofTask?, h]

lemma eq_of_mem_ofTask {e x : Exchange Ans η} {i : ℕ}
    (h : x ∈ ofTask i [(.answer e : Record Ans η μ)]) : x = e := by
  by_cases he : e.task = i
  · subst he
    rw [ofTask_singleton_self] at h
    exact List.mem_singleton.1 h
  · rw [ofTask_singleton_of_ne he] at h
    cases h

end Record

/-- An environment: from which state it answers which question of which task how, with which
effects and to which state; and the moves that it makes on its own. -/
structure Environment (Ans : Q → Type v) (η : Type z) (μ : Type z') (S : Type y) where
  answers : S → ℕ → ∀ q, Ans q → List η → S → Prop
  moves : S → μ → S → Prop

/-- A step of the environment. -/
def Environment.Step (E : Environment Ans η μ S) (s : S) : Record Ans η μ → S → Prop
  | .answer e, s' => E.answers s e.task e.query e.answer e.effects s'
  | .move m, s' => E.moves s m s'

namespace Pool

variable (start : ∀ j, Program Ans ω (ε j) (α j)) (E : Environment Ans η μ S)

/-- An environment without tasks. -/
def empty (env : S) : Pool Ans ω ε α S := ⟨env, []⟩

/-- A step of a pool, with what is recorded of it. -/
inductive Step (s : Pool Ans ω ε α S) : List (Record Ans η μ) → Pool Ans ω ε α S → Prop
  | spawn (j : J) : Step s [] { s with tasks := s.tasks ++ [⟨j, [], start j⟩] }
  | tell {i : ℕ} {j : J} {events : List ω} {e : ω} {p : Program Ans ω (ε j) (α j)}
      (h : s.tasks[i]? = some ⟨j, events, .tell e p⟩) :
      Step s [] { s with tasks := s.tasks.set i ⟨j, events ++ [e], p⟩ }
  | answer {i : ℕ} {j : J} {events : List ω} {q : Q} {k : Ans q → Program Ans ω (ε j) (α j)}
      {a : Ans q} {effects : List η} {env : S}
      (h : s.tasks[i]? = some ⟨j, events, .ask q k⟩) (ha : E.answers s.env i q a effects env) :
      Step s [.answer ⟨i, q, a, effects⟩] ⟨env, s.tasks.set i ⟨j, events, k a⟩⟩
  | move {m : μ} {env : S} (hm : E.moves s.env m env) : Step s [.move m] { s with env := env }

/-- A run of a pool, with what is recorded of it. -/
inductive Run (s : Pool Ans ω ε α S) : List (Record Ans η μ) → Pool Ans ω ε α S → Prop
  | refl : Run s [] s
  | snoc {log more : List (Record Ans η μ)} {s' s'' : Pool Ans ω ε α S} (h : Run s log s')
      (hs : Step start E s' more s'') : Run s (log ++ more) s''

/-- The records explain a pool: they are a run of its environment, every task follows the
answers that it got, and there are none for tasks that are not there. -/
structure Explains (env : S) (log : List (Record Ans η μ)) (s : Pool Ans ω ε α S) : Prop where
  steps : Steps E.Step env log s.env
  follows : ∀ i t, s.tasks[i]? = some t →
    (start t.job).Follows ((Record.ofTask i log).map Exchange.seen) t.events t.program
  fresh : ∀ i, s.tasks.length ≤ i → Record.ofTask i log = []

variable {start E}

lemma explains_empty (env : S) :
    Explains start E env [] (empty env : Pool Ans ω ε α S) where
  steps := .nil env
  follows := by
    intro i t h
    cases h
  fresh _ _ := rfl

lemma getElem?_set_cases {A : Type*} {l : List A} {i j : ℕ} {a b : A}
    (h : (l.set i a)[j]? = some b) : (i = j ∧ a = b) ∨ (i ≠ j ∧ l[j]? = some b) := by
  rw [List.getElem?_set] at h
  split at h
  · next hij =>
    split at h
    · exact .inl ⟨hij, Option.some_inj.1 h⟩
    · cases h
  · next hij => exact .inr ⟨hij, h⟩

/-- The step lemma. -/
lemma Explains.step {env : S} {log more : List (Record Ans η μ)} {s s' : Pool Ans ω ε α S}
    (h : Explains start E env log s) (hs : Step start E s more s') :
    Explains start E env (log ++ more) s' := by
  cases hs with
  | spawn j =>
    rw [List.append_nil]
    refine ⟨h.steps, fun i t ht => ?_, fun i hi => h.fresh i ?_⟩
    · rcases Nat.lt_trichotomy i s.tasks.length with hlt | rfl | hgt
      · exact h.follows i t (by rwa [List.getElem?_append_left hlt] at ht)
      · rw [List.getElem?_concat_length] at ht
        cases ht
        rw [h.fresh _ (Nat.le_refl _)]
        exact .refl _
      · rw [List.getElem?_eq_none (by simp; omega)] at ht
        cases ht
    · simp only [List.length_append] at hi
      omega
  | @tell i j events e p hi =>
    rw [List.append_nil]
    refine ⟨h.steps, fun i' t ht => ?_, fun i' hi' => h.fresh i' (by simpa using hi')⟩
    rcases getElem?_set_cases ht with ⟨rfl, rfl⟩ | ⟨-, ht⟩
    · exact (h.follows i _ hi).snoc_tell
    · exact h.follows i' t ht
  | @answer i j events q k a effects env' hi ha =>
    have hlt : i < s.tasks.length := (List.getElem?_eq_some_iff.1 hi).1
    refine ⟨h.steps.snoc ha, fun i' t ht => ?_, fun i' hi' => ?_⟩
    · rcases getElem?_set_cases ht with ⟨rfl, rfl⟩ | ⟨hne, ht⟩
      · have hask := (h.follows i _ hi).snoc_ask a
        have hone : Record.ofTask i [(.answer ⟨i, q, a, effects⟩ : Record Ans η μ)]
            = [⟨i, q, a, effects⟩] := Record.ofTask_singleton_self _
        rw [Record.ofTask_append, hone, List.map_append]
        exact hask
      · rw [Record.ofTask_append, Record.ofTask_singleton_of_ne hne, List.append_nil]
        exact h.follows i' t ht
    · rw [List.length_set] at hi'
      rw [Record.ofTask_append, h.fresh i' hi', Record.ofTask_singleton_of_ne (by simp; omega)]
      rfl
  | @move m env' hm =>
    refine ⟨h.steps.snoc hm, fun i t ht => ?_, fun i hi => ?_⟩
    · rw [Record.ofTask_append, Record.ofTask_move, List.append_nil]
      exact h.follows i t ht
    · rw [Record.ofTask_append, Record.ofTask_move, List.append_nil]
      exact h.fresh i hi

/-- The run lemma. -/
theorem Explains.run {env : S} {log more : List (Record Ans η μ)} {s s' : Pool Ans ω ε α S}
    (h : Explains start E env log s) (hr : Run start E s more s') :
    Explains start E env (log ++ more) s' := by
  induction hr with
  | refl => rwa [List.append_nil]
  | snoc _ hs ih =>
    rw [← List.append_assoc]
    exact ih.step hs

theorem Run.explains {env : S} {log : List (Record Ans η μ)} {s : Pool Ans ω ε α S}
    (hr : Run start E (empty env) log s) : Explains start E env log s :=
  (explains_empty env).run hr

/-! ## Tasks that have ended -/

/-- A task that has ended gets no more answers and stays as it is. -/
lemma Step.ended {s s' : Pool Ans ω ε α S} {more : List (Record Ans η μ)}
    (hs : Step start E s more s') {i : ℕ} {j : J} {events : List ω}
    {r : Except (ε j) (α j)} (h : s.tasks[i]? = some ⟨j, events, .done r⟩) :
    s'.tasks[i]? = some ⟨j, events, .done r⟩ ∧ Record.ofTask i more = [] := by
  have hlt : i < s.tasks.length := (List.getElem?_eq_some_iff.1 h).1
  cases hs with
  | spawn j' => exact ⟨by rw [List.getElem?_append_left hlt, h], rfl⟩
  | @tell i' j' events' e p hi =>
    have hne : i' ≠ i := by
      rintro rfl
      cases h.symm.trans hi
    exact ⟨by rw [List.getElem?_set_ne hne, h], rfl⟩
  | @answer i' j' events' q k a effects env' hi ha =>
    have hne : i' ≠ i := by
      rintro rfl
      cases h.symm.trans hi
    exact ⟨by rw [List.getElem?_set_ne hne, h], Record.ofTask_singleton_of_ne hne⟩
  | move hm => exact ⟨h, rfl⟩

theorem Run.ended {s s' : Pool Ans ω ε α S} {more : List (Record Ans η μ)}
    (hr : Run start E s more s') {i : ℕ} : ∀ {t : Task Ans ω ε α}, s.tasks[i]? = some t →
      ∀ {r : Except (ε t.job) (α t.job)}, t.program = .done r →
        s'.tasks[i]? = some t ∧ Record.ofTask i more = [] := by
  rintro ⟨j, events, p⟩ h (r : Except (ε j) (α j)) (rfl : p = .done r)
  induction hr with
  | refl => exact ⟨h, rfl⟩
  | snoc _ hs ih =>
    obtain ⟨htask, hlog⟩ := ih
    obtain ⟨htask', hmore⟩ := hs.ended htask
    exact ⟨htask', by rw [Record.ofTask_append, hlog, hmore]; rfl⟩

/-- A step starts a task, or leaves the jobs of the tasks as they are. -/
lemma Step.jobs_cases {s s' : Pool Ans ω ε α S} {more : List (Record Ans η μ)}
    (hs : Step start E s more s') :
    (∃ j, s'.tasks = s.tasks ++ [⟨j, [], start j⟩]) ∨
      s'.tasks.map Task.job = s.tasks.map Task.job := by
  have hset : ∀ {i : ℕ} {t t' : Task Ans ω ε α}, s.tasks[i]? = some t → t'.job = t.job →
      (s.tasks.set i t').map Task.job = s.tasks.map Task.job := by
    intro i t t' hi hjob
    obtain ⟨hlt, rfl⟩ := List.getElem?_eq_some_iff.1 hi
    rw [List.map_set, hjob, ← List.getElem_map Task.job (h := by simpa using hlt),
      List.set_getElem_self]
  cases hs with
  | spawn j => exact .inl ⟨j, rfl⟩
  | tell hi => exact .inr (hset hi rfl)
  | answer hi _ => exact .inr (hset hi rfl)
  | move _ => exact .inr rfl

lemma Step.length_le {s s' : Pool Ans ω ε α S} {more : List (Record Ans η μ)}
    (hs : Step start E s more s') : s.tasks.length ≤ s'.tasks.length := by
  rcases hs.jobs_cases with ⟨j, hj⟩ | hjobs
  · simp [hj]
  · exact Nat.le_of_eq (by simpa using (congrArg List.length hjobs).symm)

lemma Run.length_le {s s' : Pool Ans ω ε α S} {log : List (Record Ans η μ)}
    (hr : Run start E s log s') : s.tasks.length ≤ s'.tasks.length := by
  induction hr with
  | refl => exact Nat.le_refl _
  | snoc _ hs ih => exact Nat.le_trans ih hs.length_le

/-! ## Runs of one task -/

lemma Run.trans {s s' s'' : Pool Ans ω ε α S} {log log' : List (Record Ans η μ)}
    (h : Run start E s log s') (h' : Run start E s' log' s'') :
    Run start E s (log ++ log') s'' := by
  induction h' with
  | refl => rwa [List.append_nil]
  | snoc _ hs ih =>
    rw [← List.append_assoc]
    exact .snoc ih hs

/-- The records of a run are a run of the environment. -/
lemma Run.steps {s s' : Pool Ans ω ε α S} {log : List (Record Ans η μ)}
    (hr : Run start E s log s') : Steps E.Step s.env log s'.env := by
  induction hr with
  | refl => exact .nil s.env
  | snoc _ hs ih =>
    cases hs with
    | spawn j => rwa [List.append_nil]
    | tell hi => rwa [List.append_nil]
    | answer hi ha => exact ih.snoc ha
    | move hm => exact ih.snoc hm

lemma Run.single {s s' : Pool Ans ω ε α S} {more : List (Record Ans η μ)}
    (hs : Step start E s more s') : Run start E s more s' := .snoc .refl hs

/-- A task runs alone as far as its program follows the answers of the environment. -/
lemma Run.follow {i : ℕ} {j : J} {events es : List ω} {p p' : Program Ans ω (ε j) (α j)}
    {tr : List (Σ q, Ans q)} (h : p.Follows tr es p') (xs : List (Exchange Ans η))
    (htask : ∀ x ∈ xs, x.task = i) (hseen : xs.map Exchange.seen = tr) {env : S}
    {s : Pool Ans ω ε α S} (hsteps : Steps E.Step s.env (xs.map .answer) env)
    (hi : s.tasks[i]? = some ⟨j, events, p⟩) :
    Run start E s (xs.map .answer) ⟨env, s.tasks.set i ⟨j, events ++ es, p'⟩⟩ := by
  induction h generalizing s xs events with
  | refl p =>
    obtain rfl := List.map_eq_nil_iff.1 hseen
    cases hsteps
    obtain ⟨hlt, htask⟩ := List.getElem?_eq_some_iff.1 hi
    rw [List.append_nil, ← htask, List.set_getElem_self]
    exact .refl
  | @tell e p p' tr es h ih =>
    have hlt : i < s.tasks.length := (List.getElem?_eq_some_iff.1 hi).1
    have hrest := ih xs htask hseen (s := { s with tasks := s.tasks.set i ⟨j, events ++ [e], p⟩ })
      hsteps (List.getElem?_set_self hlt)
    rw [List.set_set, List.append_assoc] at hrest
    exact (Run.single (.tell hi)).trans hrest
  | @ask q a k p' tr es h ih =>
    have hlt : i < s.tasks.length := (List.getElem?_eq_some_iff.1 hi).1
    obtain ⟨⟨i', q', a', effects⟩, xs, rfl, hx, hxs⟩ := List.map_eq_cons_iff.1 hseen
    cases hx
    obtain rfl : i' = i := htask _ List.mem_cons_self
    cases hsteps with
    | @cons _ env' _ _ _ hstep hsteps =>
      have hrest := ih xs (fun x hx => htask x (List.mem_cons_of_mem _ hx)) hxs
        (s := ⟨env', s.tasks.set i' ⟨j, events, k a'⟩⟩) hsteps (List.getElem?_set_self hlt)
      rw [List.set_set] at hrest
      exact (Run.single (.answer hi hstep)).trans hrest

end Pool

end NearJsonrpcClient.Lib
