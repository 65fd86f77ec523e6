import Mathlib.Algebra.Ring.Int.Defs
import Mathlib.Logic.Relation
import SignOn.Proofs.Flow.World
/-!
Calls that run at the same time. A `System` is a world and the calls in progress; in one step, one
call does one act, or the world drifts by itself (its clock moves, say). `Reaches` closes the steps
under repetition, so it covers every interleaving of the calls.

Facts about a reachable system come from three sides: what every act keeps in the world, what every
call keeps of its own course (`Thread.Follows`), and sums over the calls (`total_set`).
-/

namespace SignOn

variable {κ : Type} {V : κ → Type}

/-- A call in progress: the events up to now, and how it goes on. -/
structure Thread (V : κ → Type) where
  call : κ
  past : List Event
  rest : Flow (V call)

/-- A call that has not done anything yet. -/
def Thread.start (flow : (k : κ) → Flow (V k)) (k : κ) : Thread V := ⟨k, [], flow k⟩

/-- The outcome of a call, once it has ended. -/
def Thread.outcome? (t : Thread V) : Option (Except Failure (V t.call)) :=
  match t.rest with
  | .done value => some (.ok value)
  | .fail failure => some (.error failure)
  | .step _ _ => none

/-- Whether a call has ended well. -/
def Thread.succeeded (t : Thread V) : Bool :=
  match t.outcome? with
  | some (.ok _) => true
  | _ => false

theorem Thread.exists_of_succeeded {t : Thread V} (h : t.succeeded = true) :
    ∃ value, t.outcome? = some (.ok value) := by
  unfold succeeded at h
  split at h
  · next value he => exact ⟨value, he⟩
  · cases h

/-- A call that keeps to its course. -/
def Thread.Follows (R : Event → Prop) (I : κ → List Event → Act → Prop)
    (Q : (k : κ) → List Event → Except Failure (V k) → Prop) (t : Thread V) : Prop :=
  t.rest.Along R (I t.call) (Q t.call) t.past

/-- Each event of a call was allowed where it happened. -/
def Thread.Allowed (I : κ → List Event → Act → Prop) (t : Thread V) : Prop :=
  ∀ pre e post, t.past = pre ++ e :: post → I t.call pre e.act

theorem Thread.allowed_start (I : κ → List Event → Act → Prop) (flow : (k : κ) → Flow (V k))
    (k : κ) : (Thread.start flow k).Allowed I := by
  intro pre e post he
  exact absurd he.symm (List.append_ne_nil_of_right_ne_nil _ (List.cons_ne_nil _ _))

theorem Thread.Allowed.append {I : κ → List Event → Act → Prop} {k : κ} {past : List Event}
    {rest next : Flow (V k)} (h : Thread.Allowed I ⟨k, past, rest⟩) {e : Event}
    (he : I k past e.act) : Thread.Allowed I ⟨k, past ++ [e], next⟩ := by
  intro pre x post hx
  rcases List.eq_nil_or_concat post with rfl | ⟨post, y, rfl⟩
  · obtain ⟨rfl, hlast⟩ := List.append_inj' hx rfl
    cases hlast
    exact he
  · rw [List.concat_eq_append, ← List.cons_append, ← List.append_assoc] at hx
    exact h pre x post (List.append_inj' hx rfl).1

theorem Thread.Follows.end {R : Event → Prop} {I : κ → List Event → Act → Prop}
    {Q : (k : κ) → List Event → Except Failure (V k) → Prop} {t : Thread V} (h : t.Follows R I Q)
    {result : Except Failure (V t.call)} (ht : t.outcome? = some result) :
    Q t.call t.past result := by
  obtain ⟨k, past, rest⟩ := t
  cases rest with
  | done value => cases ht; exact h
  | fail failure => cases ht; exact h
  | step act next => cases ht

/-- A world and the calls in progress. -/
structure System (V : κ → Type) where
  world : World
  threads : List (Thread V)

namespace System

/-- The system after a call has done its next act. -/
def after (s : System V) (i : Nat) (k : κ) (past : List Event) (act : Act)
    (next : act.Answer → Flow (V k)) : System V where
  world := (s.world.perform act).2
  threads := s.threads.set i ⟨k, past ++ [s.world.event act], next (s.world.perform act).1⟩

/-- One step: a call does its next act, or the world drifts. -/
inductive Step (drift : World → World → Prop) : System V → System V → Prop where
  | act {s : System V} {i : Nat} {k : κ} {past : List Event} {act : Act}
      {next : act.Answer → Flow (V k)} (h : s.threads[i]? = some ⟨k, past, .step act next⟩) :
      Step drift s (s.after i k past act next)
  | drift {w w' : World} {ts : List (Thread V)} (h : drift w w') : Step drift ⟨w, ts⟩ ⟨w', ts⟩

/-- Any number of steps. -/
def Reaches (drift : World → World → Prop) : System V → System V → Prop :=
  Relation.ReflTransGen (Step drift)

variable {drift : World → World → Prop} {s s' : System V}

theorem map_call_set {ts : List (Thread V)} {i : Nat} {t t' : Thread V} (h : ts[i]? = some t)
    (hc : t'.call = t.call) : (ts.set i t').map (·.call) = ts.map (·.call) := by
  induction ts generalizing i with
  | nil => rfl
  | cons a ts ih =>
    cases i with
    | zero =>
      rw [List.getElem?_cons_zero, Option.some.injEq] at h
      rw [List.set_cons_zero, List.map_cons, List.map_cons, hc, h]
    | succ i =>
      rw [List.getElem?_cons_succ] at h
      rw [List.set_cons_succ, List.map_cons, List.map_cons, ih h]

/-- The calls of a system stay the same. -/
theorem Reaches.calls (h : Reaches drift s s') :
    s'.threads.map (·.call) = s.threads.map (·.call) := by
  induction h with
  | refl => rfl
  | tail _ hstep ih =>
    cases hstep with
    | act hi => rw [← ih]; exact map_call_set hi rfl
    | drift _ => exact ih

/-- A call of some kind is still there. -/
theorem Reaches.exists_call (h : Reaches drift s s') {p : κ → Prop}
    (hp : ∃ t ∈ s.threads, p t.call) : ∃ t ∈ s'.threads, p t.call := by
  obtain ⟨t, ht, hk⟩ := hp
  have hmem : t.call ∈ s'.threads.map (·.call) := by
    rw [Reaches.calls h]
    exact List.mem_map_of_mem ht
  obtain ⟨t', ht', he⟩ := List.mem_map.1 hmem
  refine ⟨t', ht', ?_⟩
  rw [he]
  exact hk

/-- After an act, every call is still there, and has done what it had done before. -/
theorem exists_after {i : Nat} {k : κ} {past : List Event} {act : Act}
    {next : act.Answer → Flow (V k)} (hi : s.threads[i]? = some ⟨k, past, .step act next⟩)
    {t : Thread V} (ht : t ∈ s.threads) : ∃ t' ∈ (s.after i k past act next).threads,
      t'.call = t.call ∧ t.past ⊆ t'.past := by
  obtain ⟨j, hj⟩ := List.mem_iff_getElem?.1 ht
  by_cases hij : i = j
  · subst hij
    obtain rfl := Option.some.inj (hi.symm.trans hj)
    obtain ⟨hlt, -⟩ := List.getElem?_eq_some_iff.1 hi
    exact ⟨_, List.mem_of_getElem? (List.getElem?_set_self hlt), rfl,
      List.subset_append_left _ _⟩
  · refine ⟨t, List.mem_of_getElem? (i := j) ?_, rfl, List.Subset.refl _⟩
    rw [after, List.getElem?_set_ne hij, hj]

/-- What holds of a world, and is kept by acts and by drift, holds all along. -/
theorem Reaches.world {W : World → Prop} (h : Reaches drift s s') (h0 : W s.world)
    (hact : ∀ w act, W w → W (w.perform act).2) (hdrift : ∀ w w', drift w w' → W w → W w') :
    W s'.world := by
  induction h with
  | refl => exact h0
  | tail _ hstep ih =>
    cases hstep with
    | act _ => exact hact _ _ ih
    | drift hd => exact hdrift _ _ hd ih

/-- Calls keep to their courses, to what holds of the world, and to what the world makes of their
events, if each act that a course allows does, and if the world does by itself. -/
theorem Reaches.courses {W : World → Prop} {F : World → Event → Prop} {R : Event → Prop}
    {I : κ → List Event → Act → Prop} {Q : (k : κ) → List Event → Except Failure (V k) → Prop}
    (h : Reaches drift s s') (hW : W s.world)
    (h0 : ∀ t ∈ s.threads, t.Follows R I Q ∧ ∀ e ∈ t.past, F s.world e)
    (hact : ∀ w k past act, (∃ t ∈ s.threads, t.call = k) → W w → (∀ e ∈ past, F w e) →
      I k past act → W (w.perform act).2 ∧ R (w.event act) ∧ F (w.perform act).2 (w.event act) ∧
        ∀ e, F w e → F (w.perform act).2 e)
    (hdrift : ∀ w w', drift w w' → W w → W w' ∧ ∀ e, F w e → F w' e) :
    W s'.world ∧ ∀ t ∈ s'.threads, t.Follows R I Q ∧ ∀ e ∈ t.past, F s'.world e := by
  induction h with
  | refl => exact ⟨hW, h0⟩
  | @tail mid _ hr hstep ih =>
    cases hstep with
    | @act _ i k past act next hi =>
      have hmem := List.mem_of_getElem? hi
      obtain ⟨hcourse, hpast⟩ := ih.2 _ hmem
      have hcall : ∃ t ∈ s.threads, t.call = k := by
        rw [← List.mem_map, ← Reaches.calls hr]
        exact List.mem_map_of_mem hmem
      obtain ⟨hw, hr, hevent, hkeep⟩ := hact _ k past act hcall ih.1 hpast hcourse.1
      refine ⟨hw, fun t ht => ?_⟩
      rcases List.mem_or_eq_of_mem_set ht with ht | rfl
      · exact ⟨(ih.2 t ht).1, fun e he => hkeep e ((ih.2 t ht).2 e he)⟩
      · refine ⟨hcourse.2 _ hr, fun e he => ?_⟩
        rcases List.mem_append.1 he with he | he
        · exact hkeep e (hpast e he)
        · rw [List.mem_singleton] at he
          exact he ▸ hevent
    | drift hd =>
      obtain ⟨hw, hkeep⟩ := hdrift _ _ hd ih.1
      exact ⟨hw, fun t ht => ⟨(ih.2 t ht).1, fun e he => hkeep e ((ih.2 t ht).2 e he)⟩⟩

/-- Calls keep to their courses and to what holds of the world, if no act that a course allows
breaks it, and if the events of such worlds are among those considered. -/
theorem Reaches.follows {W : World → Prop} {R : Event → Prop} {I : κ → List Event → Act → Prop}
    {Q : (k : κ) → List Event → Except Failure (V k) → Prop} (h : Reaches drift s s')
    (hW : W s.world) (h0 : ∀ t ∈ s.threads, t.Follows R I Q)
    (hact : ∀ w k past act, W w → I k past act → W (w.perform act).2 ∧ R (w.event act))
    (hdrift : ∀ w w', drift w w' → W w → W w') :
    W s'.world ∧ ∀ t ∈ s'.threads, t.Follows R I Q := by
  obtain ⟨hw, ht⟩ := h.courses (F := fun _ _ => True) hW
    (fun t ht => ⟨h0 t ht, fun _ _ => trivial⟩)
    (fun w k past act _ hw _ hi => ⟨(hact w k past act hw hi).1, (hact w k past act hw hi).2,
      trivial, fun _ _ => trivial⟩)
    (fun w w' hd hw => ⟨hdrift w w' hd hw, fun _ _ => trivial⟩)
  exact ⟨hw, fun t h => (ht t h).1⟩

/-- As long as calls keep to their courses, each of their events was allowed. -/
theorem Reaches.allowed {R : Event → Prop} {I : κ → List Event → Act → Prop}
    {Q : (k : κ) → List Event → Except Failure (V k) → Prop} (h : Reaches drift s s')
    (hfollows : ∀ mid, Reaches drift s mid → ∀ t ∈ mid.threads, t.Follows R I Q)
    (h0 : ∀ t ∈ s.threads, t.Allowed I) : ∀ t ∈ s'.threads, t.Allowed I := by
  induction h with
  | refl => exact h0
  | tail hr hstep ih =>
    cases hstep with
    | act hi =>
      intro t ht
      rcases List.mem_or_eq_of_mem_set ht with ht | rfl
      · exact ih t ht
      · have hmem := List.mem_of_getElem? hi
        exact (ih _ hmem).append (hfollows _ hr _ hmem).1
    | drift _ => exact ih

/-- The next act of one call, if it has not ended. -/
def advance (i : Nat) (s : System V) : System V :=
  match s.threads[i]? with
  | some ⟨k, past, .step act next⟩ => s.after i k past act next
  | _ => s

/-- Calls act in a given order. -/
def schedule (order : List Nat) (s : System V) : System V := order.foldl (fun s i => s.advance i) s

theorem reaches_advance (drift : World → World → Prop) (i : Nat) (s : System V) :
    Reaches drift s (s.advance i) := by
  unfold advance
  split
  · next h => exact .single (.act h)
  · exact .refl

/-- Every order of the acts is an interleaving. -/
theorem reaches_schedule (drift : World → World → Prop) (order : List Nat) (s : System V) :
    Reaches drift s (s.schedule order) := by
  induction order generalizing s with
  | nil => exact .refl
  | cons i order ih => exact (reaches_advance drift i s).trans (ih _)

/-- The world may drift in more ways. -/
theorem Reaches.mono {drift' : World → World → Prop} (hd : ∀ w w', drift w w' → drift' w w')
    (h : Reaches drift s s') : Reaches drift' s s' := by
  refine Relation.ReflTransGen.mono (fun a b hstep => ?_) _ _ h
  cases hstep with
  | act hi => exact .act hi
  | drift hw => exact .drift (hd _ _ hw)

/-- Further calls do not stand in the way. -/
theorem Reaches.append (h : Reaches drift s s') (more : List (Thread V)) :
    Reaches drift ⟨s.world, s.threads ++ more⟩ ⟨s'.world, s'.threads ++ more⟩ := by
  induction h with
  | refl => exact .refl
  | @tail a b _ hstep ih =>
    refine ih.tail ?_
    cases hstep with
    | @act _ i k past act next hi =>
      obtain ⟨hlt, -⟩ := List.getElem?_eq_some_iff.1 hi
      have hi' : (a.threads ++ more)[i]? = some ⟨k, past, .step act next⟩ := by
        rw [List.getElem?_append_left hlt, hi]
      have hstep : Step drift ⟨a.world, a.threads ++ more⟩ _ := .act hi'
      rw [after, List.set_append_left _ _ hlt] at hstep
      exact hstep
    | drift hd => exact .drift hd

/-- A call may run to its end while the others stand still. -/
theorem reaches_run (drift : World → World → Prop) {i : Nat} {k : κ} {past : List Event}
    {rest : Flow (V k)} (hi : s.threads[i]? = some ⟨k, past, rest⟩) :
    ∃ ts, Reaches drift s ⟨(rest.run s.world).2, ts⟩ := by
  induction rest generalizing s past with
  | done value => exact ⟨s.threads, .refl⟩
  | fail failure => exact ⟨s.threads, .refl⟩
  | step act next ih =>
    obtain ⟨hlt, -⟩ := List.getElem?_eq_some_iff.1 hi
    obtain ⟨ts, hts⟩ := ih (s.world.perform act).1 (s := s.after i k past act next)
      (List.getElem?_set_self hlt)
    exact ⟨ts, (Relation.ReflTransGen.single (.act hi)).trans hts⟩

/-! ## Logs -/

/-- Any number of steps, with the events in the order in which they happened, each beside the number
of the call whose it is. -/
inductive Runs (drift : World → World → Prop) (s : System V) :
    List (Nat × Event) → System V → Prop where
  | refl : Runs drift s [] s
  | act {log : List (Nat × Event)} {s' : System V} {i : Nat} {k : κ} {past : List Event} {act : Act}
      {next : act.Answer → Flow (V k)} (h : Runs drift s log s')
      (hi : s'.threads[i]? = some ⟨k, past, .step act next⟩) :
      Runs drift s (log ++ [(i, s'.world.event act)]) (s'.after i k past act next)
  | drift {log : List (Nat × Event)} {s' : System V} {w : World} (h : Runs drift s log s')
      (hd : drift s'.world w) : Runs drift s log ⟨w, s'.threads⟩

theorem Runs.reaches {log : List (Nat × Event)} (h : Runs drift s log s') :
    Reaches drift s s' := by
  induction h with
  | refl => exact .refl
  | act _ hi ih => exact ih.tail (.act hi)
  | drift _ hd ih => exact ih.tail (.drift hd)

/-- Before an event of the log, the run had come to a system where it happened next. -/
theorem Runs.before {log : List (Nat × Event)} (h : Runs drift s log s')
    {pre post : List (Nat × Event)} {i : Nat} {e : Event} (hlog : log = pre ++ (i, e) :: post) :
    ∃ mid : System V, Runs drift s pre mid ∧ e = mid.world.event e.act := by
  induction h generalizing post with
  | refl => exact absurd hlog.symm (List.append_ne_nil_of_right_ne_nil _ (List.cons_ne_nil _ _))
  | @act log mid j k past act next hr hi ih =>
    rcases List.eq_nil_or_concat post with rfl | ⟨post, x, rfl⟩
    · obtain ⟨rfl, hlast⟩ := List.append_inj' hlog rfl
      cases hlast
      exact ⟨mid, hr, rfl⟩
    · rw [List.concat_eq_append, ← List.cons_append, ← List.append_assoc] at hlog
      exact ih (List.append_inj' hlog rfl).1
  | drift _ _ ih => exact ih hlog

/-- The last event of a kind, beside the number of the call whose it is. -/
def last? (p : Event → Bool) (log : List (Nat × Event)) : Option (Nat × Event) :=
  log.reverse.find? (p ·.2)

theorem last?_append (p : Event → Bool) (log : List (Nat × Event)) (i : Nat) (e : Event) :
    last? p (log ++ [(i, e)]) = if p e then some (i, e) else last? p log := by
  rw [last?, List.reverse_append, List.reverse_singleton, List.singleton_append, List.find?_cons]
  cases p e <;> rfl

theorem mem_of_last? {p : Event → Bool} {log : List (Nat × Event)} {x : Nat × Event}
    (h : last? p log = some x) : x ∈ log ∧ p x.2 = true := by
  rw [last?] at h
  have hp := List.find?_some h
  exact ⟨List.mem_reverse.1 (List.mem_of_find?_eq_some h), hp⟩

theorem exists_last? {p : Event → Bool} {log : List (Nat × Event)} {x : Nat × Event}
    (hx : x ∈ log) (hp : p x.2 = true) : ∃ y, last? p log = some y := by
  refine Option.isSome_iff_exists.1 (List.find?_isSome.2 ⟨x, List.mem_reverse.2 hx, hp⟩)

theorem past_nil_of_start {flow : (k : κ) → Flow (V k)} {ts : List (Thread V)}
    (h : ∀ t ∈ ts, ∃ k, t = Thread.start flow k) : ∀ t ∈ ts, t.past = [] := by
  intro t ht
  obtain ⟨k, rfl⟩ := h t ht
  rfl

/-- The log holds exactly what the calls have done, if none had done anything before. -/
theorem Runs.mem_log {start : System V} {log : List (Nat × Event)} (h : Runs drift start log s)
    (h0 : ∀ t ∈ start.threads, t.past = []) {i : Nat} {e : Event} :
    (i, e) ∈ log ↔ ∃ t, s.threads[i]? = some t ∧ e ∈ t.past := by
  induction h with
  | refl =>
    refine ⟨fun hm => absurd hm List.not_mem_nil, ?_⟩
    rintro ⟨t, ht, he⟩
    rw [h0 t (List.mem_of_getElem? ht)] at he
    cases he
  | @act log s' j k past act next _ hj ih =>
    obtain ⟨hlt, -⟩ := List.getElem?_eq_some_iff.1 hj
    rw [List.mem_append, List.mem_singleton, ih, after]
    by_cases hij : j = i
    · subst hij
      simp only [List.getElem?_set_self hlt, hj, Option.some.injEq, exists_eq_left',
        List.mem_append, List.mem_singleton, Prod.mk.injEq, true_and]
    · have hne : i ≠ j := fun he => hij he.symm
      simp only [List.getElem?_set_ne hij, Prod.mk.injEq, hne, false_and, or_false]
  | drift _ _ ih => exact ih

/-- The events of calls in a given order. -/
def logOf : List Nat → System V → List (Nat × Event)
  | [], _ => []
  | i :: order, s => match s.threads[i]? with
    | some ⟨_, _, .step act _⟩ => (i, s.world.event act) :: logOf order (s.advance i)
    | _ => logOf order (s.advance i)

theorem Runs.schedule {start : System V} {log : List (Nat × Event)} (h : Runs drift start log s)
    (order : List Nat) : Runs drift start (log ++ logOf order s) (s.schedule order) := by
  induction order generalizing s log with
  | nil => rw [logOf, List.append_nil]; exact h
  | cons i order ih =>
    rw [logOf]
    split
    · next k past act next hi =>
      have hact : s.advance i = s.after i k past act next := by simp only [advance, hi]
      have := ih (s := s.advance i) (hact ▸ h.act hi)
      simpa [schedule] using this
    · next hi =>
      have hact : s.advance i = s := by
        unfold advance
        split
        · next h => exact absurd h (hi _ _ _ _)
        · rfl
      rw [hact]
      have := ih h
      simpa [schedule, hact] using this

/-! ## Drawn values -/

/-- A call has drawn a UUID. -/
def Draws (s : System V) (i : Nat) (u : Uuid) : Prop :=
  ∃ t, s.threads[i]? = some t ∧ ⟨.uuid, u⟩ ∈ t.past

/-- Every UUID that a call has drawn is one of those drawn so far, and no two calls have drawn the
same. -/
structure Fresh (s : System V) : Prop where
  known : ∀ i u, s.Draws i u → ∃ n < s.world.drawn, u = s.world.outside.uuids n
  apart : ∀ i j u v, s.Draws i u → s.Draws j v → i ≠ j → u ≠ v

/-- The UUIDs up to now differ from one another. -/
def Distinct (w : World) : Prop :=
  ∀ m n, m < w.drawn → n < w.drawn → w.outside.uuids m = w.outside.uuids n → m = n

/-- What a call has drawn after an act, it had drawn before, or the act has drawn it. -/
theorem draws_after {i : Nat} {k : κ} {past : List Event} {act : Act}
    {next : act.Answer → Flow (V k)} (hi : s.threads[i]? = some ⟨k, past, .step act next⟩) {j : Nat}
    {u : Uuid} (h : (s.after i k past act next).Draws j u) :
    s.Draws j u ∨ (j = i ∧ act = .uuid ∧ u = s.world.outside.uuids s.world.drawn ∧
      (s.world.perform act).2.drawn = s.world.drawn + 1) := by
  obtain ⟨t, ht, hu⟩ := h
  by_cases hj : i = j
  · subst hj
    obtain ⟨hlt, -⟩ := List.getElem?_eq_some_iff.1 hi
    rw [after, List.getElem?_set_self hlt, Option.some.injEq] at ht
    subst ht
    rcases List.mem_append.1 hu with hu | hu
    · exact .inl ⟨_, hi, hu⟩
    · rw [List.mem_singleton] at hu
      have ha : act = .uuid := (congrArg Event.act hu).symm
      subst ha
      cases hu
      exact .inr ⟨rfl, rfl, rfl, rfl⟩
  · rw [after, List.getElem?_set_ne hj] at ht
    exact .inl ⟨t, ht, hu⟩

theorem Fresh.after (h : s.Fresh) {i : Nat} {k : κ} {past : List Event} {act : Act}
    {next : act.Answer → Flow (V k)} (hi : s.threads[i]? = some ⟨k, past, .step act next⟩)
    (hd : Distinct (s.world.perform act).2) : (s.after i k past act next).Fresh := by
  have hout : (s.world.perform act).2.outside = s.world.outside := s.world.perform_outside act
  have hle := s.world.drawn_le_perform act
  have hnew {j : Nat} {u : Uuid} (hj : s.Draws j u)
      (hdrawn : (s.world.perform act).2.drawn = s.world.drawn + 1) :
      u ≠ s.world.outside.uuids s.world.drawn := by
    intro he
    obtain ⟨n, hn, rfl⟩ := h.known j u hj
    have := hd n s.world.drawn (by omega) (by omega) (by rw [hout]; exact he)
    omega
  constructor
  · intro j u hj
    rcases draws_after hi hj with hj | ⟨-, -, rfl, hdrawn⟩
    · obtain ⟨n, hn, rfl⟩ := h.known j u hj
      exact ⟨n, Nat.lt_of_lt_of_le hn hle, by rw [System.after, hout]⟩
    · exact ⟨s.world.drawn, by rw [System.after, hdrawn]; omega, by rw [System.after, hout]⟩
  · intro j l u v hj hl hne
    rcases draws_after hi hj with hold | ⟨hij, -, rfl, hdrawn⟩
    · rcases draws_after hi hl with hold' | ⟨-, -, rfl, hdrawn⟩
      · exact h.apart j l u v hold hold' hne
      · exact hnew hold hdrawn
    · rcases draws_after hi hl with hold' | ⟨hil, -, -, -⟩
      · exact (hnew hold' hdrawn).symm
      · exact absurd (hij.trans hil.symm) hne

theorem Distinct.before {w : World} {act : Act} (h : Distinct (w.perform act).2) : Distinct w := by
  intro m n hm hn he
  have hle := w.drawn_le_perform act
  refine h m n (by omega) (by omega) ?_
  rw [w.perform_outside]
  exact he

/-- No two calls draw the same UUID, if the UUIDs differ at the end. -/
theorem Runs.fresh {start : System V} {log : List (Nat × Event)} (h : Runs drift start log s)
    (h0 : ∀ t ∈ start.threads, t.past = [])
    (hdrift : ∀ w w', drift w w' → w'.drawn = w.drawn ∧ w'.outside.uuids = w.outside.uuids)
    (hd : Distinct s.world) : s.Fresh := by
  induction h with
  | refl =>
    have hnone (i : Nat) (u : Uuid) : ¬ start.Draws i u := by
      rintro ⟨t, ht, hu⟩
      rw [h0 t (List.mem_of_getElem? ht)] at hu
      exact absurd hu List.not_mem_nil
    exact ⟨fun i u hi => absurd hi (hnone i u), fun i _ u _ hi => absurd hi (hnone i u)⟩
  | act _ hi ih => exact (ih hd.before).after hi hd
  | @drift log s' w _ hw ih =>
    obtain ⟨hdrawn, huuids⟩ := hdrift _ _ hw
    have hbefore : Distinct s'.world := by
      intro m n hm hn he
      exact hd m n (hdrawn ▸ hm) (hdrawn ▸ hn) (huuids ▸ he)
    have hf := ih hbefore
    refine ⟨fun i u hi => ?_, hf.apart⟩
    show ∃ n < w.drawn, u = w.outside.uuids n
    rw [hdrawn, huuids]
    exact hf.known i u hi

/-- The acts that calls may still do stay within bounds. -/
theorem Reaches.acts {A : Act → Prop} (h : Reaches drift s s')
    (h0 : ∀ t ∈ s.threads, t.rest.Acts A) : ∀ t ∈ s'.threads, t.rest.Acts A := by
  induction h with
  | refl => exact h0
  | tail _ hstep ih =>
    cases hstep with
    | act hi =>
      intro t ht
      rcases List.mem_or_eq_of_mem_set ht with ht | rfl
      · exact ih t ht
      · exact (ih _ (List.mem_of_getElem? hi)).2 _
    | drift _ => exact ih

end System

/-! ## Sums over calls -/

/-- The sum of a quantity over calls. -/
def total (f : Thread V → Int) (ts : List (Thread V)) : Int := (ts.map f).sum

theorem total_set (f : Thread V → Int) {ts : List (Thread V)} {i : Nat} {t : Thread V}
    (h : ts[i]? = some t) (t' : Thread V) : total f (ts.set i t') = total f ts + (f t' - f t) := by
  induction ts generalizing i with
  | nil => cases h
  | cons a ts ih =>
    cases i with
    | zero =>
      rw [List.getElem?_cons_zero, Option.some.injEq] at h
      subst h
      simp only [total, List.set_cons_zero, List.map_cons, List.sum_cons]
      omega
    | succ i =>
      have ih := ih h
      simp only [total, List.set_cons_succ, List.map_cons, List.sum_cons] at ih ⊢
      omega

theorem total_eq_zero {f : Thread V → Int} {ts : List (Thread V)} (h : ∀ t ∈ ts, f t = 0) :
    total f ts = 0 := by
  induction ts with
  | nil => rfl
  | cons a ts ih =>
    have ha := h a List.mem_cons_self
    have ih := ih fun t ht => h t (List.mem_cons_of_mem _ ht)
    simp only [total, List.map_cons, List.sum_cons] at ih ⊢
    omega

theorem total_add (f g : Thread V → Int) (ts : List (Thread V)) :
    total (fun t => f t + g t) ts = total f ts + total g ts := by
  induction ts with
  | nil => rfl
  | cons a ts ih =>
    simp only [total, List.map_cons, List.sum_cons] at ih ⊢
    omega

theorem total_sub (f g : Thread V → Int) (ts : List (Thread V)) :
    total (fun t => f t - g t) ts = total f ts - total g ts := by
  induction ts with
  | nil => rfl
  | cons a ts ih =>
    simp only [total, List.map_cons, List.sum_cons] at ih ⊢
    omega

/-- Counting calls is summing over them. -/
theorem total_toInt (p : Thread V → Bool) (ts : List (Thread V)) :
    total (fun t => (p t).toInt) ts = ts.countP p := by
  induction ts with
  | nil => rfl
  | cons a ts ih =>
    rw [List.countP_cons]
    simp only [total, List.map_cons, List.sum_cons] at ih ⊢
    rw [ih]
    cases p a <;> simp [Int.add_comm]

theorem total_le_total {f g : Thread V → Int} {ts : List (Thread V)} (h : ∀ t ∈ ts, f t ≤ g t) :
    total f ts ≤ total g ts := by
  induction ts with
  | nil => exact Int.le_refl _
  | cons a ts ih =>
    have ha := h a List.mem_cons_self
    have ih := ih fun t ht => h t (List.mem_cons_of_mem _ ht)
    simp only [total, List.map_cons, List.sum_cons] at ih ⊢
    omega

end SignOn
