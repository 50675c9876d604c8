/-
# Concurrent calls

Any number of calls run side by side against one server, in an environment in which time
passes and requests and replies may be lost.  A request that is lost to its sender may still
reach the server, at any later time.  However all this interleaves, the server handles requests
one after another; those of a call are its own request and the ones to which the replies of the
server redirect it; and every call behaves as the method executor does with the last reply.
-/
import NearJsonrpcClient.AsyncCall
import NearJsonrpcClient.Lib.Pool
import NearJsonrpcClient.Methods.Any
import NearJsonrpcClient.Reference.Replies

namespace NearJsonrpcClient

open Lib

section Network

variable [Reqwest]

/-! ## The environment -/

/-- How a server handles requests: from which state which request is given which reply, and
to which state. -/
abbrev Serving (σ : Type) : Type := σ → Handled → σ → Prop

/-- The state of the server, the requests that are still under way although their senders have
given them up, with the tasks that they are from, and the time. -/
structure World (σ : Type) where
  server : σ
  strays : List (ℕ × WireRequest)
  clock : Instant

/-- A world in which nothing is under way. -/
def World.init {σ : Type} (server : σ) (clock : Instant) : World σ := ⟨server, [], clock⟩

namespace World

variable {σ : Type} (serves : Serving σ)

/-- How the environment answers the task `i`.  A reply may be lost after the request has been
handled; a request may be lost before that, and is a stray then; a body may be lost; and time
passes. -/
inductive Answers (w : World σ) (i : ℕ) : ∀ q, Ask.Ans q → List Handled → World σ → Prop
  | replied {request : WireRequest} {reply : Reply} {s : σ} {t : Instant}
      (h : serves w.server (request, reply) s) (ht : w.clock ≤ t) :
      Answers w i (.send request) (.ok reply) [(request, reply)] ⟨s, w.strays, t⟩
  | replyLost {request : WireRequest} {reply : Reply} {s : σ} {t : Instant} (e : ReqwestError)
      (h : serves w.server (request, reply) s) (ht : w.clock ≤ t) :
      Answers w i (.send request) (.error e) [(request, reply)] ⟨s, w.strays, t⟩
  | requestLost (request : WireRequest) (e : ReqwestError) {t : Instant} (ht : w.clock ≤ t) :
      Answers w i (.send request) (.error e) [] ⟨w.server, w.strays ++ [(i, request)], t⟩
  | body (body : Bytes) {t : Instant} (ht : w.clock ≤ t) :
      Answers w i (.bytes body) (.ok body) [] ⟨w.server, w.strays, t⟩
  | bodyLost (body : Bytes) (e : ReqwestError) {t : Instant} (ht : w.clock ≤ t) :
      Answers w i (.bytes body) (.error e) [] ⟨w.server, w.strays, t⟩
  | now : Answers w i .now w.clock [] w
  | slept {duration : ℕ} {t : Instant} (ht : w.clock + duration ≤ t) :
      Answers w i (.sleep duration) () [] ⟨w.server, w.strays, t⟩

/-- What the environment does on its own: the server handles a stray, and nobody gets the
reply. -/
inductive Moves (w : World σ) : ℕ × Handled → World σ → Prop
  | late {i : ℕ} {request : WireRequest} {reply : Reply} {before after : List (ℕ × WireRequest)}
      {s : σ} {t : Instant} (hw : w.strays = before ++ (i, request) :: after)
      (h : serves w.server (request, reply) s) (ht : w.clock ≤ t) :
      Moves w (i, (request, reply)) ⟨s, before ++ after, t⟩

/-- The environment of programs that use a server. -/
def environment : Environment Ask.Ans Handled (ℕ × Handled) (World σ) where
  answers w i q a effects w' := Answers serves w i q a effects w'
  moves w l w' := Moves serves w l w'

end World

/-- An answer of the environment. -/
abbrev NetExchange : Type := Exchange Ask.Ans Handled

/-- An answer of the environment, or a request that the server handled late. -/
abbrev NetRecord : Type := Record Ask.Ans Handled (ℕ × Handled)

/-- What the server handled in a part of a history. -/
abbrev effects (h : List NetExchange) : List Handled := h.flatMap Exchange.effects

/-- The requests that the server handled in a step, with the tasks that they are from. -/
def handledIn : NetRecord → List (ℕ × Handled)
  | .answer e => e.effects.map (e.task, ·)
  | .move l => [l]

/-- The requests that the server handled, with the tasks that they are from. -/
def handled (log : List NetRecord) : List (ℕ × Handled) := log.flatMap handledIn

/-- The requests of one task that the server handled. -/
def handledFor (i : ℕ) (log : List NetRecord) : List Handled :=
  ((handled log).filter fun l => l.1 = i).map Prod.snd

/-- What a task was answered. -/
abbrev dialogue (i : ℕ) (log : List NetRecord) : Dialogue :=
  (Record.ofTask i log).map Exchange.seen

/-- A server handles requests one after another. -/
abbrev Serves {σ : Type} (serves : Serving σ) : σ → List (ℕ × Handled) → σ → Prop :=
  Steps fun s l s' => serves s l.2 s'

/-- A run of the environment. -/
abbrev World.Steps {σ : Type} (serves : Serving σ) : World σ → List NetRecord → World σ → Prop :=
  Lib.Steps (World.environment serves).Step

/-! ## What the server handled -/

section Handled

lemma dialogue_append (i : ℕ) (log log' : List NetRecord) :
    dialogue i (log ++ log') = dialogue i log ++ dialogue i log' := by
  rw [dialogue, Record.ofTask_append, List.map_append]

lemma dialogue_move (i : ℕ) (log : List NetRecord) (l : ℕ × Handled) :
    dialogue i (log ++ [.move l]) = dialogue i log := by
  have hnone : dialogue i [(.move l : NetRecord)] = [] := rfl
  rw [dialogue_append, hnone, List.append_nil]

lemma effects_append (h h' : List NetExchange) : effects (h ++ h') = effects h ++ effects h' :=
  List.flatMap_append

lemma handled_append (log log' : List NetRecord) :
    handled (log ++ log') = handled log ++ handled log' := List.flatMap_append

lemma handledFor_append (i : ℕ) (log log' : List NetRecord) :
    handledFor i (log ++ log') = handledFor i log ++ handledFor i log' := by
  rw [handledFor, handled_append, List.filter_append, List.map_append]
  rfl

lemma handledFor_answer (i : ℕ) (e : NetExchange) :
    handledFor i [.answer e] = effects (Record.ofTask i [(.answer e : NetRecord)]) := by
  by_cases h : e.task = i
  · subst h
    simp [handledFor, handled, handledIn, Record.ofTask_singleton_self, List.filter_map,
      Function.comp_def]
  · simp [handledFor, handled, handledIn, Record.ofTask_singleton_of_ne h, List.filter_map,
      Function.comp_def, h]

lemma handledFor_move (i : ℕ) (l : ℕ × Handled) :
    handledFor i [.move l] = if l.1 = i then [l.2] else [] := by
  by_cases h : l.1 = i
  · simp [handledFor, handled, handledIn, h]
  · simp [handledFor, handled, handledIn, h]

variable {σ : Type} {serves : Serving σ} {w w' : World σ} {log : List NetRecord}

/-- In every step the server handles one request or none. -/
lemma serves_of_step {r : NetRecord} (h : (World.environment serves).Step w r w') :
    Serves serves w.server (handledIn r) w'.server := by
  cases r with
  | answer e =>
    obtain ⟨i, q, a, effects⟩ := e
    cases h with
    | replied h _ => exact .cons h (.nil _)
    | replyLost _ h _ => exact .cons h (.nil _)
    | requestLost _ _ _ => exact .nil _
    | body _ _ => exact .nil _
    | bodyLost _ _ _ => exact .nil _
    | now => exact .nil _
    | slept _ => exact .nil _
  | move l =>
    cases h with
    | late _ h _ => exact .cons h (.nil _)

lemma serves_of_steps (h : World.Steps serves w log w') :
    Serves serves w.server (handled log) w'.server :=
  h.flatMap World.server fun _ _ _ => serves_of_step

/-- What an answer says about what the server handled. -/
inductive Fits : NetExchange → Prop
  | replied (i : ℕ) (request : WireRequest) (reply : Reply) :
      Fits ⟨i, .send request, .ok reply, [(request, reply)]⟩
  | replyLost (i : ℕ) (request : WireRequest) (reply : Reply) (e : ReqwestError) :
      Fits ⟨i, .send request, .error e, [(request, reply)]⟩
  | requestLost (i : ℕ) (request : WireRequest) (e : ReqwestError) :
      Fits ⟨i, .send request, .error e, []⟩
  | body (i : ℕ) (body : Bytes) : Fits ⟨i, .bytes body, .ok body, []⟩
  | bodyLost (i : ℕ) (body : Bytes) (e : ReqwestError) : Fits ⟨i, .bytes body, .error e, []⟩
  | now (i : ℕ) (t : Instant) : Fits ⟨i, .now, t, []⟩
  | slept (i : ℕ) (duration : ℕ) : Fits ⟨i, .sleep duration, (), []⟩

lemma World.Answers.fits {i : ℕ} {q : Ask} {a : Ask.Ans q} {effects : List Handled}
    (h : World.Answers serves w i q a effects w') : Fits ⟨i, q, a, effects⟩ := by
  cases h with
  | replied _ _ => exact .replied _ _ _
  | replyLost _ _ _ => exact .replyLost _ _ _ _
  | requestLost _ _ _ => exact .requestLost _ _ _
  | body _ _ => exact .body _ _
  | bodyLost _ _ _ => exact .bodyLost _ _ _
  | now => exact .now _ _
  | slept _ => exact .slept _ _

/-! ## Strays -/

/-- The requests of a task that are under way without it. -/
def straysOf (i : ℕ) (w : World σ) : List WireRequest :=
  (w.strays.filter fun l => l.1 = i).map Prod.snd

@[simp] lemma straysOf_init (i : ℕ) (s : σ) (t : Instant) : straysOf i (World.init s t) = [] := rfl

/-- The request of an exchange that was lost before it was handled. -/
def lost? : NetExchange → Option WireRequest
  | ⟨_, .send request, .error _, []⟩ => some request
  | _ => none

lemma lost?_eq_some {x : NetExchange} {request : WireRequest} (h : lost? x = some request) :
    ∃ i e, x = ⟨i, .send request, .error e, []⟩ := by
  unfold lost? at h
  split at h
  · cases h
    exact ⟨_, _, rfl⟩
  · cases h

lemma World.Answers.straysOf_eq {i j : ℕ} {q : Ask} {a : Ask.Ans q} {effects : List Handled}
    (h : World.Answers serves w j q a effects w') :
    straysOf i w' = straysOf i w
      ++ (Record.ofTask i [(.answer ⟨j, q, a, effects⟩ : NetRecord)]).filterMap lost? := by
  by_cases hj : j = i
  · subst hj
    have hone : Record.ofTask j [(.answer ⟨j, q, a, effects⟩ : NetRecord)]
        = [⟨j, q, a, effects⟩] := Record.ofTask_singleton_self _
    rw [hone]
    cases h <;> simp [straysOf, lost?]
  · have hnone : Record.ofTask i [(.answer ⟨j, q, a, effects⟩ : NetRecord)] = [] :=
      Record.ofTask_singleton_of_ne hj
    rw [hnone]
    cases h <;> simp [straysOf, hj]

lemma World.Moves.straysOf_eq {i : ℕ} {l : ℕ × Handled} (h : World.Moves serves w l w') :
    (l.1 ≠ i ∧ straysOf i w' = straysOf i w) ∨
      l.1 = i ∧ ∃ before after, straysOf i w = before ++ l.2.1 :: after ∧
        straysOf i w' = before ++ after := by
  cases h with
  | @late j request reply before after s t hw h ht =>
    by_cases hj : j = i
    · exact .inr ⟨hj, (before.filter fun l => l.1 = i).map Prod.snd,
        (after.filter fun l => l.1 = i).map Prod.snd, by simp [straysOf, hw, hj],
        by simp [straysOf]⟩
    · exact .inl ⟨hj, by simp [straysOf, hw, hj]⟩

/-- A dialogue in which nothing is sent after a loss. -/
def LastSend (tr : Dialogue) : Prop :=
  ∀ before request e after, tr = before ++ ⟨.send request, .error e⟩ :: after →
    ∀ request' r, (⟨.send request', r⟩ : Σ q, Ask.Ans q) ∉ after

/-- A dialogue in which nothing that is sent is lost. -/
def Lossless (tr : Dialogue) : Prop :=
  ∀ request e, (⟨.send request, .error e⟩ : Σ q, Ask.Ans q) ∉ tr

lemma lastSend_singleton (a : Σ q, Ask.Ans q) : LastSend [a] := by
  intro before request e after h
  obtain rfl : after = [] := by
    have hlength := congrArg List.length h
    simp only [List.length_append, List.length_cons, List.length_nil] at hlength
    exact List.eq_nil_of_length_eq_zero (by omega)
  simp

/-- A question that sends nothing loses nothing. -/
lemma lossless_singleton {a : Σ q, Ask.Ans q} (ha : ∀ request r, a ≠ ⟨.send request, r⟩) :
    Lossless [a] :=
  fun request e hmem => ha request (.error e) (List.mem_singleton.1 hmem).symm

lemma Lossless.lastSend_append {tr tr' : Dialogue} (h : Lossless tr) (h' : LastSend tr') :
    LastSend (tr ++ tr') := by
  intro before request e after heq
  rcases List.append_eq_append_iff.1 heq with ⟨cs, rfl, htr'⟩ | ⟨cs, rfl, hcs⟩
  · exact h' cs request e after htr'
  · cases cs with
    | nil => exact h' [] request e after (by simpa using hcs.symm)
    | cons c cs =>
      cases hcs
      exact absurd (by simp) (h request e)

lemma Lossless.append {tr tr' : Dialogue} (h : Lossless tr) (h' : Lossless tr') :
    Lossless (tr ++ tr') := by
  intro request e hmem
  rcases List.mem_append.1 hmem with hmem | hmem
  · exact h request e hmem
  · exact h' request e hmem

lemma Lossless.lastSend {tr : Dialogue} (h : Lossless tr) : LastSend tr := by
  rintro before request e after rfl
  exact absurd (by simp) (h request e)

lemma LastSend.of_append {tr tr' : Dialogue} (h : LastSend (tr ++ tr')) : LastSend tr := by
  rintro before request e after rfl request' r hmem
  exact h before request e (after ++ tr') (by simp) request' r (List.mem_append_left _ hmem)

/-- A question that sends nothing may follow a loss. -/
lemma LastSend.snoc {tr : Dialogue} (h : LastSend tr) {a : Σ q, Ask.Ans q}
    (ha : ∀ request r, a ≠ ⟨.send request, r⟩) : LastSend (tr ++ [a]) := by
  intro before request e after heq request' r hmem
  rcases List.append_eq_append_iff.1 heq with ⟨cs, rfl, hcs⟩ | ⟨cs, rfl, hcs⟩
  · cases cs with
    | nil =>
      rw [List.nil_append, List.cons.injEq] at hcs
      exact ha _ _ hcs.1
    | cons c cs => simp at hcs
  · cases cs with
    | nil =>
      rw [List.nil_append, List.cons.injEq] at hcs
      exact ha _ _ hcs.1.symm
    | cons c cs =>
      obtain ⟨rfl, rfl⟩ := List.cons.inj hcs
      rcases List.mem_append.1 hmem with hmem | hmem
      · exact h before request e cs rfl request' r hmem
      · exact ha _ _ (List.mem_singleton.1 hmem).symm

/-- The server sees only what is sent. -/
lemma effects_of_not_sent {xs : List NetExchange} (hfits : ∀ x ∈ xs, Fits x)
    (h : ∀ request r, (⟨.send request, r⟩ : Σ q, Ask.Ans q) ∉ xs.map Exchange.seen) :
    effects xs = [] := by
  rw [effects, List.flatMap_eq_nil_iff]
  intro x hx
  have hseen := List.mem_map_of_mem (f := Exchange.seen) hx
  cases hfits x hx with
  | replied i request reply => exact absurd hseen (h _ _)
  | replyLost i request reply e => exact absurd hseen (h _ _)
  | _ => rfl

lemma effects_singleton_of_not_sent {x : NetExchange} (hfit : Fits x)
    (h : ∀ request r, x.seen ≠ ⟨.send request, r⟩) : effects [x] = [] := by
  refine effects_of_not_sent (List.forall_mem_singleton.2 hfit) fun request r hmem => ?_
  exact h request r (List.mem_singleton.1 hmem).symm

lemma Lossless.filterMap_lost? {xs : List NetExchange} (h : Lossless (xs.map Exchange.seen)) :
    xs.filterMap lost? = [] := by
  refine List.filterMap_eq_nil_iff.2 fun x hx => ?_
  cases hlost : lost? x with
  | none => rfl
  | some request =>
    obtain ⟨i, e, rfl⟩ := lost?_eq_some hlost
    exact absurd (List.mem_map_of_mem (f := Exchange.seen) hx) (h request e)

/-- A history of a task with everything that the server handled of it, also after the answers:
the task could not tell it from its own. -/
structure Completes (i : ℕ) (log : List NetRecord) (w : World σ) (xs : List NetExchange) :
    Prop where
  seen : xs.map Exchange.seen = dialogue i log
  fits : ∀ x ∈ xs, Fits x
  handled : effects xs = handledFor i log
  strays : xs.filterMap lost? = straysOf i w

variable {i : ℕ} {xs : List NetExchange}

/-- A stray that the server handles is a request whose reply was lost. -/
lemma Completes.late (h : Completes i log w xs) {l : Handled} {before after : List WireRequest}
    (hw : straysOf i w = before ++ l.1 :: after) (hw' : straysOf i w' = before ++ after)
    (hlast : LastSend (dialogue i log)) : ∃ xs', Completes i (log ++ [.move (i, l)]) w' xs' := by
  obtain ⟨request, reply⟩ := l
  rw [← h.strays] at hw
  obtain ⟨ys, zs, rfl, hys, hzs⟩ := List.filterMap_eq_append_iff.1 hw
  obtain ⟨us, x, vs, rfl, hus, hx, hvs⟩ := List.filterMap_eq_cons_iff.1 hzs
  obtain ⟨j, e, rfl⟩ := lost?_eq_some hx
  have hseen := h.seen
  have hnone : effects vs = [] := by
    refine effects_of_not_sent (fun x hx => h.fits x (by simp [hx])) fun request' r => ?_
    refine hlast ((ys ++ us).map Exchange.seen) request e _ ?_ request' r
    rw [← hseen]
    simp [Exchange.seen]
  refine ⟨ys ++ us ++ ⟨j, .send request, .error e, [(request, reply)]⟩ :: vs, ?_, ?_, ?_, ?_⟩
  · rw [dialogue_move, ← hseen]
    simp [Exchange.seen]
  · intro x hx
    simp only [List.mem_append, List.mem_cons] at hx
    rcases hx with (hx | hx) | rfl | hx
    · exact h.fits x (by simp [hx])
    · exact h.fits x (by simp [hx])
    · exact .replyLost _ _ _ _
    · exact h.fits x (by simp [hx])
  · have hhandled := h.handled
    rw [handledFor_append, handledFor_move, if_pos rfl, ← hhandled]
    simp [hnone]
  · have hus' : us.filterMap lost? = [] := List.filterMap_eq_nil_iff.2 hus
    rw [hw', List.filterMap_append, List.filterMap_append, hys, hus', List.append_nil,
      List.filterMap_cons, hvs]
    rfl

/-- The step lemma. -/
lemma Completes.step (h : Completes i log w xs) {r : NetRecord}
    (hs : (World.environment serves).Step w r w') (hlast : LastSend (dialogue i log)) :
    ∃ xs', Completes i (log ++ [r]) w' xs' := by
  cases r with
  | move l =>
    obtain ⟨j, l⟩ := l
    rcases World.Moves.straysOf_eq (i := i) hs with ⟨hj, hw⟩ | ⟨rfl, before, after, hw, hw'⟩
    · refine ⟨xs, h.seen.trans (dialogue_move i log _).symm, h.fits, ?_, h.strays.trans hw.symm⟩
      rw [handledFor_append, handledFor_move, if_neg hj, List.append_nil]
      exact h.handled
    · exact h.late hw hw' hlast
  | answer e =>
    obtain ⟨j, q, a, effects⟩ := e
    have hfit : Fits ⟨j, q, a, effects⟩ := World.Answers.fits hs
    refine ⟨xs ++ Record.ofTask i [(.answer ⟨j, q, a, effects⟩ : NetRecord)], ?_, ?_, ?_, ?_⟩
    · rw [dialogue_append, List.map_append, h.seen]
    · intro x hx
      rcases List.mem_append.1 hx with hx | hx
      · exact h.fits x hx
      · obtain rfl := Record.eq_of_mem_ofTask hx
        exact hfit
    · rw [effects_append, handledFor_append, handledFor_answer, h.handled]
    · rw [List.filterMap_append, h.strays, World.Answers.straysOf_eq hs]

/-- The run lemma. -/
theorem exists_completes (h : World.Steps serves w log w') (hw : straysOf i w = [])
    (hlast : LastSend (dialogue i log)) : ∃ xs, Completes i log w' xs := by
  refine h.induct (P := fun log w' => LastSend (dialogue i log) → ∃ xs, Completes i log w' xs)
    (fun _ => ⟨[], rfl, by simp, rfl, hw.symm⟩) ?_ hlast
  intro log r w₁ w₂ ih hs hlast'
  rw [dialogue_append] at hlast'
  obtain ⟨xs, hxs⟩ := ih hlast'.of_append
  exact hxs.step hs hlast'.of_append

/-- What the server handles of a task that gets no more answers were strays of it. -/
lemma strays_of_steps (h : World.Steps serves w log w') (hi : Record.ofTask i log = []) :
    ((handledFor i log).map Prod.fst ++ straysOf i w').Perm (straysOf i w) := by
  refine h.induct (P := fun log w' => Record.ofTask i log = [] →
    ((handledFor i log).map Prod.fst ++ straysOf i w').Perm (straysOf i w))
    (fun _ => .refl _) ?_ hi
  intro log r w₁ w₂ ih hs hi'
  rw [Record.ofTask_append, List.append_eq_nil_iff] at hi'
  refine List.Perm.trans ?_ (ih hi'.1)
  rw [handledFor_append]
  cases r with
  | answer e =>
    obtain ⟨j, q, a, effects⟩ := e
    rw [handledFor_answer, hi'.2, World.Answers.straysOf_eq hs, hi'.2]
    simp
  | move l =>
    rw [handledFor_move]
    rcases World.Moves.straysOf_eq (i := i) hs with ⟨hj, hw⟩ | ⟨hj, before, after, hw, hw'⟩
    · rw [if_neg hj, hw, List.append_nil]
    · rw [if_pos hj, hw, hw']
      simp only [List.map_append, List.map_cons, List.map_nil, List.append_assoc,
        List.singleton_append]
      exact (List.perm_middle.symm).append_left _

end Handled

/-! ## Requests that are answered -/

section Answered

variable {request : WireRequest} {ls : List Handled} {xs : List NetExchange}

lemma effects_of_hops {xs : List NetExchange} (hfits : ∀ x ∈ xs, Fits x)
    (h : xs.map Exchange.seen = hops ls) : effects xs = ls := by
  induction ls generalizing xs with
  | nil =>
    obtain rfl := List.map_eq_nil_iff.1 h
    rfl
  | cons l ls ih =>
    obtain ⟨x, xs, rfl, hx, hxs⟩ := List.map_eq_cons_iff.1 h
    rw [List.forall_mem_cons] at hfits
    have hone : x.effects = [l] := by
      cases hfits.1 <;> cases hx
      rfl
    rw [effects, List.flatMap_cons, hone]
    exact congrArg (l :: ·) (ih hfits.2 hxs)

lemma effects_of_replied {xs : List NetExchange} {reply : Reply} (hfits : ∀ x ∈ xs, Fits x)
    (h : xs.map Exchange.seen = hops ls ++ [⟨.send request, .ok reply⟩]) :
    effects xs = ls ++ [(request, reply)] := by
  have hhops : xs.map Exchange.seen = hops (ls ++ [(request, reply)]) := by simpa [hops] using h
  exact effects_of_hops hfits hhops

lemma effects_of_lost {xs : List NetExchange} {e : ReqwestError} (hfits : ∀ x ∈ xs, Fits x)
    (h : xs.map Exchange.seen = hops ls ++ [⟨.send request, .error e⟩]) :
    ∃ after, effects xs = ls ++ after ∧ (after = [] ∨ ∃ reply, after = [(request, reply)]) := by
  obtain ⟨ys, zs, rfl, hys, hzs⟩ := List.map_eq_append_iff.1 h
  obtain ⟨z, rfl, hz⟩ := List.map_eq_singleton_iff.1 hzs
  have hls : effects ys = ls := effects_of_hops (fun x hx => hfits x (by simp [hx])) hys
  refine ⟨z.effects, by simp [← hls], ?_⟩
  cases hfits z (by simp) with
  | replyLost i request reply e =>
    cases hz
    exact .inr ⟨_, rfl⟩
  | requestLost i request e => exact .inl rfl
  | _ => cases hz

lemma lossless_hops (ls : List Handled) : Lossless (hops ls) := by
  intro request e hmem
  obtain ⟨l, -, hl⟩ := List.mem_map.1 hmem
  cases hl

lemma lossless_replied (ls : List Handled) (request : WireRequest) (reply : Reply) :
    Lossless (hops ls ++ [⟨.send request, .ok reply⟩]) := by
  have h := lossless_hops (ls ++ [(request, reply)])
  simpa [hops] using h

/-- A history with the body of a reply in the end. -/
lemma exists_of_body {tr : Dialogue} {body : Bytes} {b : Except ReqwestError Bytes}
    (hfits : ∀ x ∈ xs, Fits x)
    (h : xs.map Exchange.seen = tr ++ [⟨.bytes body, b⟩]) :
    ∃ ys, ys.map Exchange.seen = tr ∧ (∀ x ∈ ys, Fits x) ∧ effects ys = effects xs ∧
      (b = .ok body ∨ ∃ e, b = .error e) := by
  obtain ⟨ys, zs, rfl, hys, hzs⟩ := List.map_eq_append_iff.1 h
  obtain ⟨z, rfl, hz⟩ := List.map_eq_singleton_iff.1 hzs
  refine ⟨ys, hys, fun x hx => hfits x (by simp [hx]), ?_⟩
  cases hfits z (by simp) with
  | body i body =>
    cases hz
    exact ⟨by simp, .inl rfl⟩
  | bodyLost i body e =>
    cases hz
    exact ⟨by simp, .inr ⟨e, rfl⟩⟩
  | _ => cases hz

end Answered

/-! ## The requests of a call -/

section Routes

variable [Redirects] {client : WebClient} {first request : WireRequest} {ls : List Handled}

lemma Chain.length_le (h : Chain client first ls request) :
    ls.length ≤ Redirects.limit client := by
  cases h with
  | nil => exact Nat.zero_le _
  | snoc _ hn _ =>
    rw [List.length_append, List.length_singleton]
    exact hn

lemma Chain.eq_first (h : Chain client first ls request) (hnil : ls = []) : request = first := by
  cases h with
  | nil => rfl
  | snoc _ _ _ => simp at hnil

/-- Without redirects a web client does not go on. -/
lemma Chain.eq_nil [LawfulRedirects] (h : Chain client first ls request)
    (hd : ∀ l ∈ ls, ¬ l.2.status.IsRedirect) : ls = [] ∧ request = first := by
  cases h with
  | nil => exact ⟨rfl, rfl⟩
  | snoc _ _ hr =>
    have hlast := hd _ (List.mem_append_right _ (List.mem_singleton_self _))
    exact absurd (LawfulRedirects.isRedirect _ _ _ _ _ (by rw [hr]; nofun)) hlast

/-- A `POST` request that follows others repeats the first of them. -/
lemma Chain.body_eq [LawfulRedirects] (h : Chain client first ls request)
    (hpost : request.method = .POST) : request.body = first.body := by
  induction h with
  | nil => rfl
  | snoc _ _ hr ih =>
    obtain ⟨hprevious, hbody⟩ := LawfulRedirects.redirect_post _ _ _ _ _ _ hr hpost
    exact hbody.trans (ih hprevious)

/-- A web client has followed the replies before each of its requests. -/
lemma Chain.of_append (h : Chain client first ls request) {before after : List Handled}
    {l : Handled} (heq : ls = before ++ l :: after) : Chain client first before l.1 := by
  induction h generalizing after with
  | nil => simp at heq
  | snoc h _ _ ih =>
    rcases concat_eq_append_cons heq with ⟨rfl, rfl⟩ | ⟨after', heq'⟩
    · exact h
    · exact ih heq'

/-- Only a redirect is not returned. -/
lemma Refuses.isRedirect [LawfulRedirects] {reply : Reply} {e : ReqwestError}
    (h : Refuses client ls request reply e) : reply.status.IsRedirect := by
  cases h with
  | policy hr => exact LawfulRedirects.isRedirect _ _ _ _ _ (by rw [hr]; nofun)
  | limit _ hr => exact LawfulRedirects.isRedirect _ _ _ _ _ (by rw [hr]; nofun)

lemma Received.lossless {tr : Dialogue} {reply : Reply}
    (h : Received client first tr (.ok reply)) : Lossless tr := by
  cases h with
  | replied _ _ => exact lossless_replied _ _ _

lemma Received.lastSend {tr : Dialogue}
    {r : Except ReqwestError Reply} (h : Received client first tr r) : LastSend tr := by
  cases h with
  | lost _ _ => exact (lossless_hops _).lastSend_append (lastSend_singleton _)
  | refused _ _ => exact (lossless_replied _ _ _).lastSend
  | replied _ _ => exact (lossless_replied _ _ _).lastSend

end Routes

variable [Near] [Redirects] [SerdeJson] {M R E : Type} [RpcHandlerResponse R] [RpcHandlerError E]
  [RpcMethod M R E]

/-- What a server handles of a call: nothing, or the request of the call and those to which its
replies redirect the web client. -/
def Routed (self : JsonRpcClient) (method : M) (handled : List Handled) : Prop :=
  handled = [] ∨ ∃ first ls request reply, Sends self method first ∧
    Chain self.inner.client first ls request ∧ handled = ls ++ [(request, reply)]

/-- A call has sent requests in vain: the last one, or the reply to it, was lost, or the web client
neither returns this reply nor follows it. -/
inductive Fails (self : JsonRpcClient) (method : M) (tr : Dialogue) :
    List Handled → ReqwestError → Prop
  | lost {first request : WireRequest} {ls after : List Handled} {e : ReqwestError}
      (h : Sends self method first) (hc : Chain self.inner.client first ls request)
      (hl : ⟨.send request, .error e⟩ ∈ tr)
      (ha : after = [] ∨ ∃ reply, after = [(request, reply)]) : Fails self method tr (ls ++ after) e
  | refused {first request : WireRequest} {ls : List Handled} {reply : Reply} {e : ReqwestError}
      (h : Sends self method first) (hc : Chain self.inner.client first ls request)
      (hr : Refuses self.inner.client ls request reply e) :
      Fails self method tr (ls ++ [(request, reply)]) e

/-- The web client of a call returns a reply, the last one that the server gave. -/
def LastReply (self : JsonRpcClient) (method : M) (handled : List Handled) (reply : Reply) : Prop :=
  ∃ first ls request, Sends self method first ∧ Chain self.inner.client first ls request ∧
    Redirects.redirect self.inner.client (urls ls) request reply.status reply.headers = .ok none ∧
    handled = ls ++ [(request, reply)]

/-- What a call that has been answered `tr` knows of the body of a reply: it may be lost. -/
def BodyOf (tr : Dialogue) (reply : Reply) (bytes : Except ReqwestError Bytes) : Prop :=
  bytes = .ok reply.body ∨ ∃ e, bytes = .error e ∧ ⟨.bytes reply.body, .error e⟩ ∈ tr

/-- What the server handled of a call that has ended, and the response that the call makes of
it. -/
inductive Perceives (self : JsonRpcClient) (method : M) (tr : Dialogue) (handled : List Handled) :
    Except ReqwestError HttpResponse → Prop
  | unsent (h : ∀ request, ¬ Sends self method request) (hh : handled = [])
      (response : Except ReqwestError HttpResponse) : Perceives self method tr handled response
  | failed {e : ReqwestError} (h : Fails self method tr handled e) :
      Perceives self method tr handled (.error e)
  | replied {reply : Reply} {bytes : Except ReqwestError Bytes}
      (h : LastReply self method handled reply) (hb : BodyOf tr reply bytes) :
      Perceives self method tr handled (.ok ⟨reply.status, reply.headers, bytes⟩)

section Dialogues

variable {self : JsonRpcClient} {method : M} {tr : Dialogue} {xs : List NetExchange}
  {response : Except ReqwestError HttpResponse}

/-- A call sends nothing after a loss. -/
lemma Asks.lastSend (h : Asks self method tr) : LastSend tr := by
  cases h with
  | unsent => exact (lossless_hops []).lastSend
  | sending _ _ => exact (lossless_hops _).lastSend
  | received _ hr => exact hr.lastSend
  | body _ hr b => exact hr.lossless.lastSend_append (lastSend_singleton _)

lemma Received.routed {first : WireRequest} {r : Except ReqwestError Reply}
    (hsends : Sends self method first)
    (h : Received self.inner.client first (xs.map Exchange.seen) r)
    (hfits : ∀ x ∈ xs, Fits x) : Routed self method (effects xs) := by
  generalize htr : xs.map Exchange.seen = tr at h
  cases h with
  | lost hc e =>
    obtain ⟨after, hafter, rfl | ⟨reply, rfl⟩⟩ := effects_of_lost hfits htr
    · rw [hafter, List.append_nil]
      cases hc with
      | nil => exact .inl rfl
      | snoc hc _ _ => exact .inr ⟨_, _, _, _, hsends, hc, rfl⟩
    · exact .inr ⟨_, _, _, _, hsends, hc, hafter⟩
  | refused hc _ => exact .inr ⟨_, _, _, _, hsends, hc, effects_of_replied hfits htr⟩
  | replied hc _ => exact .inr ⟨_, _, _, _, hsends, hc, effects_of_replied hfits htr⟩

/-- At any time the server handled requests of a call as its replies led the web client. -/
lemma Asks.routed (h : Asks self method (xs.map Exchange.seen)) (hfits : ∀ x ∈ xs, Fits x) :
    Routed self method (effects xs) := by
  generalize htr : xs.map Exchange.seen = tr at h
  cases h with
  | unsent =>
    obtain rfl := List.map_eq_nil_iff.1 htr
    exact .inl rfl
  | sending hsends hc =>
    rw [effects_of_hops hfits htr]
    cases hc with
    | nil => exact .inl rfl
    | snoc hc _ _ => exact .inr ⟨_, _, _, _, hsends, hc, rfl⟩
  | received hsends hr => exact Received.routed hsends (htr ▸ hr) hfits
  | body hsends hr b =>
    obtain ⟨ys, hys, hfits', heffects, -⟩ := exists_of_body hfits htr
    rw [← heffects]
    exact Received.routed hsends (hys ▸ hr) hfits'

lemma Hears.perceives (h : Hears self method (xs.map Exchange.seen) response)
    (hfits : ∀ x ∈ xs, Fits x) :
    Perceives self method (xs.map Exchange.seen) (effects xs) response := by
  generalize htr : xs.map Exchange.seen = tr at h
  cases h with
  | unsent hsends response =>
    obtain rfl := List.map_eq_nil_iff.1 htr
    exact .unsent hsends rfl response
  | failed hsends hr =>
    refine .failed ?_
    cases hr with
    | lost hc e =>
      obtain ⟨after, hafter, ha⟩ := effects_of_lost hfits htr
      rw [hafter]
      exact .lost hsends hc (by simp) ha
    | refused hc hr =>
      rw [effects_of_replied hfits htr]
      exact .refused hsends hc hr
  | head hsends hr hs =>
    cases hr with
    | replied hc hr =>
      exact .replied ⟨_, _, _, hsends, hc, hr, effects_of_replied hfits htr⟩ (.inl rfl)
  | body hsends hr hs b =>
    obtain ⟨ys, hys, hfits', heffects, hb⟩ := exists_of_body hfits htr
    cases hr with
    | replied hc hr =>
      have hhandled := heffects.symm.trans (effects_of_replied hfits' hys)
      refine .replied ⟨_, _, _, hsends, hc, hr, hhandled⟩ (hb.imp id ?_)
      rintro ⟨e, rfl⟩
      exact ⟨e, rfl, by simp⟩

/-- When a call has ended, at most its last request is under way, and then it was lost. -/
lemma Hears.strays (h : Hears self method (xs.map Exchange.seen) response) :
    xs.filterMap lost? = [] ∨ ∃ request e, response = .error e ∧
      (∃ first, Sends self method first) ∧
      ⟨.send request, .error e⟩ ∈ xs.map Exchange.seen ∧ xs.filterMap lost? = [request] := by
  generalize htr : xs.map Exchange.seen = tr at h
  cases h with
  | unsent _ _ => exact .inl (Lossless.filterMap_lost? (htr ▸ lossless_hops []))
  | head _ hr _ => exact .inl (Lossless.filterMap_lost? (htr ▸ hr.lossless))
  | @body first tr reply _ hr _ b =>
    have hbody : Lossless [(⟨.bytes reply.body, b⟩ : Σ q, Ask.Ans q)] := by
      intro request e hmem
      cases List.mem_singleton.1 hmem
    exact .inl (Lossless.filterMap_lost? (htr ▸ hr.lossless.append hbody))
  | failed hsends hr =>
    cases hr with
    | refused _ _ => exact .inl (Lossless.filterMap_lost? (htr ▸ lossless_replied _ _ _))
    | @lost ls request _ e =>
      obtain ⟨ys, zs, rfl, hys, hzs⟩ := List.map_eq_append_iff.1 htr
      obtain ⟨z, rfl, hz⟩ := List.map_eq_singleton_iff.1 hzs
      have hnone : ys.filterMap lost? = [] := Lossless.filterMap_lost? (hys ▸ lossless_hops ls)
      rw [List.filterMap_append, hnone, List.nil_append]
      cases hlost : lost? z with
      | none => exact .inl (by simp [hlost])
      | some request' =>
        obtain ⟨i, e', rfl⟩ := lost?_eq_some hlost
        cases hz
        exact .inr ⟨request, _, rfl, ⟨_, hsends⟩, by simp, by simp [hlost]⟩

/-- The number of requests of a call that the server handles is bounded. -/
lemma Routed.length_le {handled : List Handled} (h : Routed self method handled) :
    handled.length ≤ Redirects.limit self.inner.client + 1 := by
  rcases h with rfl | ⟨first, ls, request, reply, -, hc, rfl⟩
  · exact Nat.zero_le _
  · rw [List.length_append, List.length_singleton]
    exact Nat.succ_le_succ hc.length_le

/-- Each request of a call that a server handles follows the ones before it. -/
lemma Routed.of_append {before after : List Handled} {l : Handled}
    (h : Routed self method (before ++ l :: after)) :
    ∃ first, Sends self method first ∧ Chain self.inner.client first before l.1 := by
  rcases h with hnil | ⟨first, ls, request, reply, hsends, hc, heq⟩
  · simp at hnil
  · refine ⟨first, hsends, ?_⟩
    rcases concat_eq_append_cons heq.symm with ⟨rfl, rfl⟩ | ⟨after', heq'⟩
    · exact hc
    · exact hc.of_append heq'

/-- The first request of a call that a server handles is the one that the call sends. -/
lemma Routed.head {handled : List Handled} {l : Handled} (h : Routed self method handled)
    (hl : handled.head? = some l) : Sends self method l.1 := by
  obtain ⟨rest, rfl⟩ := List.head?_eq_some_iff.1 hl
  have hrest : Routed self method ([] ++ l :: rest) := h
  obtain ⟨first, hsends, hc⟩ := hrest.of_append
  rwa [hc.eq_first rfl]

lemma LastReply.routed {handled : List Handled} {reply : Reply}
    (h : LastReply self method handled reply) : Routed self method handled := by
  obtain ⟨first, ls, request, hsends, hc, -, rfl⟩ := h
  exact .inr ⟨first, ls, request, reply, hsends, hc, rfl⟩

/-- A server that does not redirect a call handles its request once at most. -/
lemma Routed.direct [LawfulRedirects] {handled : List Handled} (h : Routed self method handled)
    (hd : ∀ l ∈ handled, ¬ l.2.status.IsRedirect) :
    handled = [] ∨ ∃ request reply, Sends self method request ∧ handled = [(request, reply)] := by
  rcases h with rfl | ⟨first, ls, request, reply, hsends, hc, rfl⟩
  · exact .inl rfl
  · obtain ⟨rfl, rfl⟩ := hc.eq_nil fun l hl => hd l (List.mem_append_left _ hl)
    exact .inr ⟨_, reply, hsends, rfl⟩

lemma Routed.length_le_one [LawfulRedirects] {handled : List Handled}
    (h : Routed self method handled) (hd : ∀ l ∈ handled, ¬ l.2.status.IsRedirect) :
    handled.length ≤ 1 := by
  rcases h.direct hd with rfl | ⟨request, reply, -, rfl⟩
  · exact Nat.zero_le 1
  · exact Nat.le_refl 1

/-- Without redirects the server handles nothing of a call but the request that the call sends. -/
lemma Routed.sends [LawfulRedirects] {handled : List Handled} (h : Routed self method handled)
    (hd : ∀ l ∈ handled, ¬ l.2.status.IsRedirect) : ∀ l ∈ handled, Sends self method l.1 := by
  rcases h.direct hd with rfl | ⟨request, reply, hsends, rfl⟩
  · simp
  · simpa using hsends

/-- Without redirects the last reply is the one to the request of the call. -/
lemma LastReply.direct [LawfulRedirects] {handled : List Handled} {reply : Reply}
    (h : LastReply self method handled reply) (hd : ∀ l ∈ handled, ¬ l.2.status.IsRedirect) :
    ∃ request, Sends self method request ∧ handled = [(request, reply)] := by
  obtain ⟨first, ls, request, hsends, hc, -, rfl⟩ := h
  obtain ⟨rfl, rfl⟩ := hc.eq_nil fun l hl => hd l (List.mem_append_left _ hl)
  exact ⟨_, hsends, rfl⟩

/-- Without redirects a call fails to send only if its request or the reply to it is lost. -/
lemma Fails.direct [LawfulRedirects] {handled : List Handled} {e : ReqwestError}
    (h : Fails self method tr handled e) (hd : ∀ l ∈ handled, ¬ l.2.status.IsRedirect) :
    ∃ request, Sends self method request ∧ ⟨.send request, .error e⟩ ∈ tr := by
  cases h with
  | lost hsends hc hl ha =>
    obtain ⟨rfl, rfl⟩ := hc.eq_nil fun l hl => hd l (List.mem_append_left _ hl)
    exact ⟨_, hsends, hl⟩
  | refused hsends hc hr =>
    exact absurd hr.isRedirect (hd _ (List.mem_append_right _ (List.mem_singleton_self _)))

omit [Redirects] in
/-- A call whose request cannot be sent fails. -/
lemma Sends.result_of_error {request : WireRequest} (h : Sends self method request)
    (e : ReqwestError) : (self.call (fun _ => .error e) method).result
      = .error (.payloadSendError e) := by
  obtain ⟨payload, body, hpayload, hbody, hrequest⟩ := sends_iff.1 h
  rw [call_of_wire hpayload hbody hrequest]
  rfl

end Dialogues

/-! ## Runs of calls -/

/-- A call of any method with any client. -/
structure CallJob where
  impl : MethodImpl
  client : JsonRpcClient
  method : impl.Request

namespace CallJob

abbrev Error (c : CallJob) : Type := JsonRpcError c.impl.Error

abbrev Response (c : CallJob) : Type := c.impl.Response

/-- The program of a call. -/
def start (c : CallJob) : Async c.Error c.Response := c.client.callAsync c.method

end CallJob

/-- Calls that run side by side. -/
abbrev Network (σ : Type) : Type 1 :=
  Pool Ask.Ans Event CallJob.Error CallJob.Response (World σ)

/-- A run of calls against a server. -/
abbrev Network.Run {σ : Type} (serves : Serving σ) :
    Network σ → List NetRecord → Network σ → Prop :=
  Pool.Run CallJob.start (World.environment serves)

section Runs

variable {σ : Type} {serves : Serving σ} {server : σ} {clock : Instant} {log : List NetRecord}
  {s : Network σ} {i : ℕ} {t : Task Ask.Ans Event CallJob.Error CallJob.Response}

/-- What is known of a call of a run: its history, completed by what the server handled late,
and, when it has ended, the response with which it has behaved as the method executor. -/
lemma Network.Run.completes (hr : Network.Run serves (Pool.empty (.init server clock)) log s)
    (ht : s.tasks[i]? = some t) : ∃ xs, Completes i log s.env xs ∧
      Asks t.job.client t.job.method (xs.map Exchange.seen) ∧
      ∀ x, t.program = .done x → ∃ response,
        Hears t.job.client t.job.method (xs.map Exchange.seen) response ∧
        t.job.client.call (fun _ => response) t.job.method = ⟨t.events, x⟩ := by
  have hexplains := hr.explains
  obtain ⟨hasks, hended⟩ := JsonRpcClient.callAsync_inv (hexplains.follows i t ht)
  obtain ⟨xs, hxs⟩ := exists_completes hexplains.steps (straysOf_init i server clock)
    hasks.lastSend
  have hseen : xs.map Exchange.seen = (Record.ofTask i log).map Exchange.seen := hxs.seen
  rw [← hseen] at hasks hended
  exact ⟨xs, hxs, hasks, hended⟩

lemma Network.Run.routed (hr : Network.Run serves (Pool.empty (.init server clock)) log s)
    (ht : s.tasks[i]? = some t) : Routed t.job.client t.job.method (handledFor i log) := by
  obtain ⟨xs, hxs, hasks, -⟩ := hr.completes ht
  rw [← hxs.handled]
  exact hasks.routed hxs.fits

lemma Network.Run.perceives (hr : Network.Run serves (Pool.empty (.init server clock)) log s)
    (ht : s.tasks[i]? = some t) {x : Except t.job.Error t.job.Response}
    (hx : t.program = .done x) : ∃ response,
      Perceives t.job.client t.job.method (dialogue i log) (handledFor i log) response ∧
      t.job.client.call (fun _ => response) t.job.method = ⟨t.events, x⟩ := by
  obtain ⟨xs, hxs, -, hended⟩ := hr.completes ht
  obtain ⟨response, hhears, hcall⟩ := hended x hx
  rw [← hxs.handled, ← hxs.seen]
  exact ⟨response, hhears.perceives hxs.fits, hcall⟩

/-- After a call has ended, the server handles nothing of it, or a request of it that was
lost. -/
lemma Network.Run.late (hr : Network.Run serves (Pool.empty (.init server clock)) log s)
    (ht : s.tasks[i]? = some t) {x : Except t.job.Error t.job.Response}
    (hx : t.program = .done x) {log' : List NetRecord} {s' : Network σ}
    (hr' : Network.Run serves s log' s') : s'.tasks[i]? = some t ∧
      (handledFor i log' = [] ∨ ∃ request reply e, x = .error (.payloadSendError e) ∧
        ⟨.send request, .error e⟩ ∈ dialogue i log ∧ handledFor i log' = [(request, reply)]) := by
  obtain ⟨xs, hxs, -, hended⟩ := hr.completes ht
  obtain ⟨response, hhears, hcall⟩ := hended x hx
  obtain ⟨ht', hnone⟩ := hr'.ended ht hx
  have hperm := strays_of_steps hr'.steps hnone
  refine ⟨ht', ?_⟩
  rcases hhears.strays with hstrays | ⟨request, e, rfl, ⟨first, hfirst⟩, hlost, hstrays⟩
  · rw [← hxs.strays, hstrays, List.perm_nil, List.append_eq_nil_iff, List.map_eq_nil_iff] at hperm
    exact .inl hperm.1
  · rw [← hxs.strays, hstrays, List.perm_singleton, List.append_eq_singleton_iff] at hperm
    rcases hperm with ⟨hnil, -⟩ | ⟨hone, -⟩
    · exact .inl (List.map_eq_nil_iff.1 hnil)
    · obtain ⟨⟨request', reply⟩, hl, rfl⟩ := List.map_eq_singleton_iff.1 hone
      refine .inr ⟨_, reply, e, ?_, ?_, hl⟩
      · rw [← hfirst.result_of_error e, hcall]
      · rw [← hxs.seen]
        exact hlost

/-- **Concurrent calls.** In every state that a run of calls reaches, what the server handled is
a sequential run of it.  Of each call, also of one that is under way or was given up, it handled
requests as its own replies led the web client of the call: first the one that the call sends,
and after each other one the one to which the reply redirects it, no more than the web client
follows; without redirects this is one request at most.  A call that has ended has the events
and the result of the method executor with one response: the last reply, or an error.  The order
is that of real time: before a call is started nothing of it is handled, and after it has ended
nothing but the last request of a call that fails since this request was lost. -/
theorem JsonRpcClient.calls_sequential [LawfulRedirects] {σ : Type} (serves : Serving σ)
    (server : σ) (clock : Instant) (log : List NetRecord) (s : Network σ)
    (hr : Network.Run serves (Pool.empty (.init server clock)) log s) :
    Serves serves server (handled log) s.env.server ∧
    (∀ i t, s.tasks[i]? = some t →
      Routed t.job.client t.job.method (handledFor i log) ∧
      (handledFor i log).length ≤ Redirects.limit t.job.client.inner.client + 1 ∧
      ((∀ l ∈ handledFor i log, ¬ l.2.status.IsRedirect) → (handledFor i log).length ≤ 1 ∧
        ∀ l ∈ handledFor i log, Sends t.job.client t.job.method l.1) ∧
      ∀ x, t.program = .done x → ∃ response,
        Perceives t.job.client t.job.method (dialogue i log) (handledFor i log) response ∧
        t.job.client.call (fun _ => response) t.job.method = ⟨t.events, x⟩) ∧
    ∀ log' s', Network.Run serves s log' s' →
      (∀ i t x, s.tasks[i]? = some t → t.program = .done x → s'.tasks[i]? = some t ∧
        (handledFor i log' = [] ∨ ∃ request reply e, x = .error (.payloadSendError e) ∧
          ⟨.send request, .error e⟩ ∈ dialogue i log ∧ handledFor i log' = [(request, reply)])) ∧
      ∀ i, s.tasks.length ≤ i → handledFor i log = [] := by
  refine ⟨serves_of_steps hr.explains.steps, fun i t ht => ?_, fun log' s' hr' =>
    ⟨fun i t x ht hx => hr.late ht hx hr', fun i hi => ?_⟩⟩
  · have hrouted := hr.routed ht
    exact ⟨hrouted, hrouted.length_le, fun hd => ⟨hrouted.length_le_one hd, hrouted.sends hd⟩,
      fun x hx => hr.perceives ht hx⟩
  · have hfresh := hr.explains.fresh i hi
    obtain ⟨xs, hxs⟩ := exists_completes (i := i) hr.explains.steps (straysOf_init i server clock)
      (by rw [dialogue, hfresh]; exact (lossless_hops []).lastSend)
    have hnone : xs.map Exchange.seen = [] := by
      rw [hxs.seen, dialogue, hfresh]
      rfl
    rw [← hxs.handled, List.map_eq_nil_iff.1 hnone]
    rfl

end Runs

/-! ## What a result says about delivery -/

section Delivery

variable {self : JsonRpcClient} {method : M} {tr : Dialogue} {handled : List Handled}

omit [Reqwest] [Redirects] [SerdeJson] in
lemma Converts.ne_sendError {err : RpcError} {x : JsonRpcError E} (h : Converts err x)
    (e : JsonRpcTransportSendError) : x ≠ .transportError (.sendError e) := by
  cases h <;> simp

omit [Redirects] in
/-- Once there is a reply, sending has not failed. -/
lemma readResponse_ne_sendError (response : HttpResponse) (e : JsonRpcTransportSendError) :
    (readResponse M response).result ≠ .error (.transportError (.sendError e)) := by
  by_cases hs : response.status = .OK
  · obtain ⟨x, hx⟩ := exists_outcome (M := M) response
    rw [readResponse_result_of_outcome hs hx]
    cases hx with
    | error hd hc => simpa using hc.ne_sendError e
    | _ => simp
  · rw [readResponse_result_of_status_ne hs]
    simp

omit [Redirects] in
/-- The encoded request of a call cannot be built. -/
def Unbuilt (self : JsonRpcClient) (method : M) (e : ReqwestError) : Prop :=
  ∃ params body, RpcMethod.params method = .ok params ∧
    SerdeJson.toVec (Near.messageToValue
      (Near.messageRequest (RpcMethod.methodName method) params)) = .ok body ∧
    Reqwest.wire (self.requestBuilder body) = .error e

omit [Redirects] in
/-- A call that sends no request could not encode or build it. -/
lemma call_result_of_not_sends (h : ∀ request, ¬ Sends self method request) (server : Server) :
    (∃ e, (self.call server method).result = .error (.payloadSerializeError e)) ∨
      ∃ e, Unbuilt self method e ∧
        (self.call server method).result = .error (.payloadSendError e) := by
  cases hpayload : toJson method with
  | error e => exact .inl ⟨e, by rw [call_of_toJson_error hpayload]⟩
  | ok payload =>
    cases hbody : SerdeJson.toVec payload with
    | error e => exact .inl ⟨e.into, by rw [call_of_toVec_error hpayload hbody]⟩
    | ok body =>
      cases hrequest : Reqwest.wire (self.requestBuilder body) with
      | error e =>
        refine .inr ⟨e, ?_, by rw [call_of_wire_error hpayload hbody hrequest]⟩
        obtain ⟨params, hparams, rfl⟩ := toJson_eq_ok_iff.1 hpayload
        exact ⟨params, body, hparams, hbody, hrequest⟩
      | ok request =>
        exact absurd (sends_iff.2 ⟨payload, body, hpayload, hbody, hrequest⟩) (h request)

/-- What a call does with what it perceives: it could not encode its payload, it failed to send,
or it reads the last reply. -/
lemma Perceives.result_cases {response : Except ReqwestError HttpResponse}
    (h : Perceives self method tr handled response) :
    ((∀ request, ¬ Sends self method request) ∧ handled = [] ∧ ∃ e,
      (self.call (fun _ => response) method).result = .error (.payloadSerializeError e)) ∨
    (∃ e, (Unbuilt self method e ∧ handled = [] ∨ Fails self method tr handled e) ∧
      (self.call (fun _ => response) method).result = .error (.payloadSendError e)) ∨
    ∃ reply bytes, LastReply self method handled reply ∧ BodyOf tr reply bytes ∧
      (self.call (fun _ => response) method).result
        = (readResponse M ⟨reply.status, reply.headers, bytes⟩).result := by
  cases h with
  | unsent h hh response =>
    rcases call_result_of_not_sends h fun _ => response with he | ⟨e, hunbuilt, he⟩
    · exact .inl ⟨h, hh, he⟩
    · exact .inr (.inl ⟨e, .inl ⟨hunbuilt, hh⟩, he⟩)
  | @failed e h =>
    refine .inr (.inl ⟨e, .inr h, ?_⟩)
    cases h with
    | lost h _ _ _ => exact h.result_of_error e
    | refused h _ _ => exact h.result_of_error e
  | @replied reply bytes h hb =>
    refine .inr (.inr ⟨reply, bytes, h, hb, ?_⟩)
    obtain ⟨first, ls, request, hsends, -⟩ := h
    exact call_result_of_answered ⟨first, hsends, rfl⟩

end Delivery

/-- **What a result says about delivery.** In every state that a run of calls reaches, take a
call that has ended.  If it could not encode its payload, it sends no request and the server
handled none of it.  If it failed to send, its request could not be built, or its last request or
the reply to it was lost, or its web client neither returns this reply nor follows it.  If it
ended in any other way, its web client returns the last reply that the server gave: then the
result is the error of its status, or the classification of its body, or the body of a reply with
status 200 was lost. -/
theorem JsonRpcClient.call_delivery {σ : Type} (serves : Serving σ) (server : σ) (clock : Instant)
    (log : List NetRecord) (s : Network σ)
    (hr : Network.Run serves (Pool.empty (.init server clock)) log s)
    (i : ℕ) (t : Task Ask.Ans Event CallJob.Error CallJob.Response)
    (x : Except t.job.Error t.job.Response) (ht : s.tasks[i]? = some t)
    (hx : t.program = .done x) :
    ((∃ e, x = .error (.payloadSerializeError e)) →
      handledFor i log = [] ∧ ∀ request, ¬ Sends t.job.client t.job.method request) ∧
    (∀ e, x = .error (.payloadSendError e) →
      Unbuilt t.job.client t.job.method e ∧ handledFor i log = [] ∨
        Fails t.job.client t.job.method (dialogue i log) (handledFor i log) e) ∧
    ((∀ e, x ≠ .error (.transportError (.sendError e))) →
      ∃ reply, LastReply t.job.client t.job.method (handledFor i log) reply ∧
      (reply.status ≠ .OK → ∃ e, StatusError reply.status e ∧ x = .error (.serverError e)) ∧
      (reply.status = .OK →
        (∃ e, ⟨.bytes reply.body, .error e⟩ ∈ dialogue i log ∧ x = .error (.payloadRecvError e)) ∨
          Outcome t.job.impl.Request ⟨reply.status, reply.headers, .ok reply.body⟩ x)) := by
  obtain ⟨response, hperceives, hcall⟩ := hr.perceives ht hx
  have hresult : (t.job.client.call (fun _ => response) t.job.method).result = x := by
    rw [hcall]
  have hcases := hperceives.result_cases
  rw [hresult] at hcases
  rcases hcases with ⟨hnot, hnone, e, rfl⟩ | ⟨e, hfails, rfl⟩ | ⟨reply, bytes, hreply, hb, hread⟩
  · refine ⟨fun _ => ⟨hnone, hnot⟩, ?_, fun hne => absurd rfl (hne _)⟩
    rintro e' ⟨⟩
  · refine ⟨?_, ?_, fun hne => absurd rfl (hne _)⟩
    · rintro ⟨e', ⟨⟩⟩
    · rintro e' ⟨⟩
      exact hfails
  · have hne := readResponse_ne_sendError (M := t.job.impl.Request)
      ⟨reply.status, reply.headers, bytes⟩
    rw [← hread] at hne
    refine ⟨fun ⟨e, he⟩ => absurd he (hne _), fun e he => absurd he (hne _), fun _ =>
      ⟨reply, hreply, fun hs => ?_, fun hs => ?_⟩⟩
    · refine ⟨_, statusError_nonOkStatus reply.status, ?_⟩
      rw [hread]
      exact readResponse_result_of_status_ne hs
    · rcases hb with rfl | ⟨e, rfl, hlost⟩
      · exact .inr ((readResponse_result_iff hs).1 hread.symm)
      · refine .inl ⟨e, hlost, ?_⟩
        rw [hread, readResponse_of_bytes_error hs rfl]

end Network

section Moved

open scoped Reference
open Reference

section Answered

variable [SerdeJson] {M R E : Type} [RpcHandlerResponse R] [RpcHandlerError E] [RpcMethod M R E]
  {client : JsonRpcClient} {method : M} {request : WireRequest}

/-- The reply with a body. -/
def replyWith (body : Value) : Reply := ⟨.OK, Http.emptyMap, utf8 (render body)⟩

/-- A call whose request is answered, and that gets the body. -/
lemma hears_replyWith (h : Sends client method request) (body : Value) :
    Hears client method [⟨.send request, .ok (replyWith body)⟩,
      ⟨.bytes (replyWith body).body, .ok (replyWith body).body⟩] (.ok (reply .OK body)) :=
  .body h (.replied .nil rfl) rfl _

lemma result_replyWith (h : Sends client method request) {body : Value}
    {result : Except RpcError Value} (hd : Decodes (reply .OK body) result) :
    (client.call (fun _ => .ok (reply .OK body)) method).result = parseResult M result :=
  (call_result_of_answered ⟨_, h, rfl⟩).trans (readResponse_result_of_decodes rfl hd)

end Answered

/-- What a node says about its status. -/
def nodeState : Value := .string "synced"

local instance nodeStateJson : SerdeJson := serdeJson [resultBody nodeState]

/-- A call for the status of a local node. -/
def statusJob : CallJob where
  impl := TypedMethod.status.impl
  client := JsonRpcClient.connect "http://localhost:3030/"
  method := (⟨⟩ : RpcStatusRequest)

/-- The request of the call. -/
def originalRequest : WireRequest where
  method := .POST
  url := "http://localhost:3030/"
  headers := Reqwest.defaultHeaders statusJob.client.inner.client
  body := utf8 (render (messageRequest "status" .null))

/-- The reply of a node that has moved. -/
def movedReply : Reply where
  status := ⟨307, by decide⟩
  headers := ([(⟨"location"⟩, ⟨utf8 "http://localhost:3030/rpc", false⟩)] : Entries)
  body := []

/-- The request that follows this reply. -/
def movedRequest : WireRequest :=
  followed originalRequest movedReply.status "http://localhost:3030/rpc"

/-- The reply of the node. -/
def statusReply : Reply := replyWith (resultBody nodeState)

/-- A node that counts requests, and has moved to another address. -/
def moved : Serving ℕ := fun n l n' => n' = n + 1 ∧
  l.2 = if l.1.url = "http://localhost:3030/" then movedReply else statusReply

lemma sends_originalRequest : Sends statusJob.client statusJob.method originalRequest :=
  ⟨_, _, rfl, rfl, rfl⟩

/-- The redirect leads to the other address. -/
lemma chain_moved :
    Chain statusJob.client.inner.client originalRequest [(originalRequest, movedReply)]
      movedRequest :=
  show Chain _ _ ([] ++ [(originalRequest, movedReply)]) _ from .snoc .nil (by decide) rfl

/-- What the call ends with when the node has answered. -/
def synced : Except statusJob.Error statusJob.Response := .ok nodeState

/-- What the call ends with when its request is lost. -/
def timedOut : ReqwestError := ⟨"operation timed out"⟩

lemma hears_synced : Hears statusJob.client statusJob.method
    (hops [(originalRequest, movedReply)] ++ [⟨.send movedRequest, .ok statusReply⟩]
      ++ [⟨.bytes statusReply.body, .ok statusReply.body⟩])
    (.ok ⟨statusReply.status, statusReply.headers, .ok statusReply.body⟩) :=
  .body sends_originalRequest (.replied chain_moved rfl) rfl _

lemma call_synced : (statusJob.client.call
    (fun _ => .ok ⟨statusReply.status, statusReply.headers, .ok statusReply.body⟩)
    statusJob.method).result = synced :=
  call_result_resultBody nodeState [] rfl (by decide)

/-- A run of two calls.  The request of the second one is lost; the first one is redirected and
returns what the node says.  Then the node handles the lost request. -/
lemma exists_movedRun : ∃ log s events events' stray s',
    Network.Run moved (Pool.empty (.init 0 0)) log s ∧
    s.tasks = [⟨statusJob, events, .done synced⟩,
      ⟨statusJob, events', .done (.error (.payloadSendError timedOut))⟩] ∧
    Network.Run moved s [.move (1, (originalRequest, stray))] s' ∧
    handledFor 0 log = [(originalRequest, movedReply), (movedRequest, statusReply)] := by
  obtain ⟨events, hsynced⟩ := hears_synced.follows
  rw [call_synced] at hsynced
  have hreceived : Received statusJob.client.inner.client originalRequest
      (hops [] ++ [⟨.send originalRequest, .error timedOut⟩]) (.error timedOut) :=
    .lost .nil timedOut
  obtain ⟨events', hlost⟩ := (Hears.failed sends_originalRequest hreceived).follows
  rw [sends_originalRequest.result_of_error] at hlost
  have hstarted : Network.Run moved (Pool.empty (.init 0 0)) _
      ⟨.init 0 0, [⟨statusJob, [], statusJob.start⟩, ⟨statusJob, [], statusJob.start⟩]⟩ :=
    (Pool.Run.single (.spawn statusJob)).trans (.single (.spawn statusJob))
  have hsecond := hstarted.trans (.follow (i := 1) hlost [⟨1, _, _, []⟩]
    (by simp) rfl (.cons (World.Answers.requestLost _ _ (Nat.le_refl 0)) (.nil _)) rfl)
  have hfirst := hsecond.trans (.follow (i := 0) hsynced
    [⟨0, _, _, [_]⟩, ⟨0, _, _, [_]⟩, ⟨0, _, _, []⟩] (by simp) rfl
    (.cons (World.Answers.replied (s := 1) ⟨rfl, rfl⟩ (Nat.le_refl 0))
      (.cons (World.Answers.replied (s := 2) ⟨rfl, rfl⟩ (Nat.le_refl 0))
        (.cons (World.Answers.body _ (Nat.le_refl 0)) (.nil _)))) rfl)
  have hstrays : (⟨2, [(1, originalRequest)], 0⟩ : World ℕ).strays
      = [] ++ (1, originalRequest) :: [] := rfl
  have hlate : World.Moves moved ⟨2, [(1, originalRequest)], 0⟩
      (1, (originalRequest, movedReply)) ⟨3, [], 0⟩ :=
    .late hstrays ⟨rfl, rfl⟩ (Nat.le_refl 0)
  exact ⟨_, _, _, _, _, _, hfirst, rfl, .single (.move hlate), rfl⟩

/-- The node handles two requests of the first call, and the request of the second one after
this call has failed. -/
theorem JsonRpcClient.calls_sequential_moved : ∃ log s log' s',
    Network.Run moved (Pool.empty (.init 0 0)) log s ∧ Network.Run moved s log' s' ∧
      Serves moved 0 (handled log) s.env.server ∧
      Routed statusJob.client statusJob.method (handledFor 0 log) ∧
      (handledFor 0 log).length = 2 ∧
      (∃ response, Perceives statusJob.client statusJob.method (dialogue 0 log)
        (handledFor 0 log) response) ∧
      ∃ request reply, handledFor 1 log' = [(request, reply)] ∧
        ⟨.send request, .error timedOut⟩ ∈ dialogue 1 log := by
  obtain ⟨log, s, events, events', stray, s', hrun, htasks, hlate, hhandled⟩ := exists_movedRun
  obtain ⟨hserves, hcalls, hafter⟩ := JsonRpcClient.calls_sequential moved 0 0 log s hrun
  have hfirst : s.tasks[0]? = some ⟨statusJob, events, .done synced⟩ := by
    rw [htasks]
    rfl
  have hsecond : s.tasks[1]? = some ⟨statusJob, events',
      .done (.error (.payloadSendError timedOut))⟩ := by
    rw [htasks]
    rfl
  obtain ⟨hrouted, -, -, hended⟩ := hcalls 0 _ hfirst
  obtain ⟨response, hperceives, -⟩ := hended synced rfl
  obtain ⟨-, hnone | ⟨request, reply, e, he, hlost, hone⟩⟩ :=
    (hafter _ s' hlate).1 1 _ (.error (.payloadSendError timedOut)) hsecond rfl
  · cases hnone
  · cases he
    exact ⟨log, s, _, s', hrun, hlate, hserves, hrouted, by rw [hhandled]; rfl,
      ⟨response, hperceives⟩, request, reply, hone, hlost⟩

/-- The caller of the first call knows what the node has replied in the end, and the caller of
the second one that its request was lost. -/
theorem JsonRpcClient.call_delivery_moved : ∃ log s,
    Network.Run moved (Pool.empty (.init 0 0)) log s ∧
      (∃ reply, LastReply statusJob.client statusJob.method (handledFor 0 log) reply ∧
        (reply.status = .OK → (∃ e, ⟨.bytes reply.body, .error e⟩ ∈ dialogue 0 log ∧
            synced = .error (.payloadRecvError e)) ∨
          Outcome statusJob.impl.Request ⟨reply.status, reply.headers, .ok reply.body⟩ synced)) ∧
      (Unbuilt statusJob.client statusJob.method timedOut ∧ handledFor 1 log = [] ∨
        Fails statusJob.client statusJob.method (dialogue 1 log) (handledFor 1 log) timedOut) := by
  obtain ⟨log, s, events, events', stray, s', hrun, htasks, hlate, hhandled⟩ := exists_movedRun
  have hfirst : s.tasks[0]? = some ⟨statusJob, events, .done synced⟩ := by
    rw [htasks]
    rfl
  have hsecond : s.tasks[1]? = some ⟨statusJob, events',
      .done (.error (.payloadSendError timedOut))⟩ := by
    rw [htasks]
    rfl
  obtain ⟨-, -, hreply⟩ := JsonRpcClient.call_delivery moved 0 0 log s hrun 0 _ synced hfirst rfl
  obtain ⟨-, hfails, -⟩ := JsonRpcClient.call_delivery moved 0 0 log s hrun 1 _
    (.error (.payloadSendError timedOut)) hsecond rfl
  obtain ⟨reply, hlast, -, hok⟩ := hreply nofun
  exact ⟨log, s, hrun, ⟨reply, hlast, hok⟩, hfails timedOut rfl⟩

end Moved

end NearJsonrpcClient
