import SignOn.Flow.World
/-!
What holds along a call, whatever it is answered. `Flow.Along` follows a call through every course
that it can take: one condition holds whenever the call pauses before an act, another one when it
ends. Both speak about the events up to then. So a fact about all calls that run at the same time
can be proved one call at a time.
-/

namespace SignOn

/-- An act together with its answer. -/
structure Event where
  act : Act
  answer : act.Answer

/-- What happens when an act is done in a world. -/
def World.event (w : World) (act : Act) : Event := ⟨act, (w.perform act).1⟩

namespace Flow

variable {α β : Type}

/-! ## Sequences -/

@[simp] theorem pure_eq (a : α) : (pure a : Flow α) = .done a := rfl

@[simp] theorem done_bind (a : α) (f : α → Flow β) : (Flow.done a >>= f) = f a := rfl

@[simp] theorem fail_bind (e : Failure) (f : α → Flow β) : (Flow.fail e >>= f) = .fail e := rfl

@[simp] theorem step_bind (act : Act) (next : act.Answer → Flow α) (f : α → Flow β) :
    (Flow.step act next >>= f) = .step act fun answer => next answer >>= f := rfl

theorem bind_assoc {γ : Type} (f : Flow α) (g : α → Flow β) (h : β → Flow γ) :
    (f >>= g >>= h) = f >>= fun a => g a >>= h := by
  induction f with
  | done a => rfl
  | fail e => rfl
  | step act next ih => exact congrArg (Flow.step act) (funext ih)

theorem bind_pure (f : Flow α) : (f >>= pure) = f := by
  induction f with
  | done a => rfl
  | fail e => rfl
  | step act next ih => exact congrArg (Flow.step act) (funext ih)

@[simp] theorem ensure_true (e : Failure) : ensure true e = .done () := rfl

@[simp] theorem ensure_false (e : Failure) : ensure false e = .fail e := rfl

@[simp] theorem require_some (a : α) (e : Failure) : require (some a) e = .done a := rfl

@[simp] theorem require_none (e : Failure) : (require none e : Flow α) = .fail e := rfl

@[simp] theorem ofExcept_ok (a : α) : ofExcept (.ok a) = .done a := rfl

@[simp] theorem ofExcept_error (e : Failure) : (ofExcept (.error e) : Flow α) = .fail e := rfl

/-! ## Which acts a call may do -/

/-- Every act that the call may ever do satisfies a condition. -/
def Acts (A : Act → Prop) : Flow α → Prop
  | .done _ => True
  | .fail _ => True
  | .step act next => A act ∧ ∀ answer, (next answer).Acts A

theorem Acts.bind {A : Act → Prop} {f : Flow α} {g : α → Flow β} (hf : f.Acts A)
    (hg : ∀ a, (g a).Acts A) : (f >>= g).Acts A := by
  induction f with
  | done a => exact hg a
  | fail e => trivial
  | step act next ih => exact ⟨hf.1, fun answer => ih answer (hf.2 answer)⟩

theorem Acts.mono {A B : Act → Prop} (h : ∀ act, A act → B act) {f : Flow α} (hf : f.Acts A) :
    f.Acts B := by
  induction f with
  | done a => trivial
  | fail e => trivial
  | step act next ih => exact ⟨h act hf.1, fun answer => ih answer (hf.2 answer)⟩

theorem acts_ensure (A : Act → Prop) (condition : Bool) (e : Failure) :
    (ensure condition e).Acts A := by cases condition <;> trivial

theorem acts_require (A : Act → Prop) (value : Option α) (e : Failure) :
    (require value e).Acts A := by cases value <;> trivial

theorem acts_ofExcept (A : Act → Prop) (result : Except Failure α) : (ofExcept result).Acts A := by
  cases result <;> trivial

/-! ## Courses -/

variable {R : Event → Prop} {I : List Event → Act → Prop}
  {Q : List Event → Except Failure α → Prop}

/-- Whatever the call is answered, `I` holds before each act and `Q` at the end. Only events that
satisfy `R` need to be considered. -/
def Along (R : Event → Prop) (I : List Event → Act → Prop)
    (Q : List Event → Except Failure α → Prop) : List Event → Flow α → Prop
  | past, .done value => Q past (.ok value)
  | past, .fail failure => Q past (.error failure)
  | past, .step act next =>
    I past act ∧ ∀ answer, R ⟨act, answer⟩ → Along R I Q (past ++ [⟨act, answer⟩]) (next answer)

/-- What a course says of the place where a call is. -/
def At (I : List Event → Act → Prop) (Q : List Event → Except Failure α → Prop)
    (past : List Event) : Flow α → Prop
  | .done value => Q past (.ok value)
  | .fail failure => Q past (.error failure)
  | .step act _ => I past act

theorem Along.at {f : Flow α} {past : List Event} (h : f.Along R I Q past) : f.At I Q past := by
  cases f with
  | done a => exact h
  | fail e => exact h
  | step act next => exact h.1

/-- How a course goes on behind a call. -/
def Behind (R : Event → Prop) (I : List Event → Act → Prop)
    (Q : List Event → Except Failure β → Prop) (g : α → Flow β) (past : List Event) :
    Except Failure α → Prop
  | .ok a => Along R I Q past (g a)
  | .error e => Q past (.error e)

theorem Along.bind {Q : List Event → Except Failure β → Prop} {f : Flow α} {g : α → Flow β}
    {past : List Event} (h : f.Along R I (Behind R I Q g) past) : (f >>= g).Along R I Q past := by
  induction f generalizing past with
  | done a => exact h
  | fail e => exact h
  | step act next ih => exact ⟨h.1, fun answer hr => ih answer (h.2 answer hr)⟩

theorem Along.mono {Q' : List Event → Except Failure α → Prop} {f : Flow α} {past : List Event}
    (hq : ∀ past result, Q past result → Q' past result) (h : f.Along R I Q past) :
    f.Along R I Q' past := by
  induction f generalizing past with
  | done a => exact hq _ _ h
  | fail e => exact hq _ _ h
  | step act next ih => exact ⟨h.1, fun answer hr => ih answer (h.2 answer hr)⟩

/-- A condition on the past that no act of the call disturbs holds all along. -/
theorem Along.of_acts {A : Act → Prop} {J : List Event → Prop} {f : Flow α} (hf : f.Acts A)
    (hstep : ∀ past (e : Event), A e.act → R e → J past → J (past ++ [e]))
    (hpause : ∀ past act, A act → J past → I past act)
    (hend : ∀ past result, J past → Q past result) {past : List Event} (h : J past) :
    f.Along R I Q past := by
  induction f generalizing past with
  | done a => exact hend _ _ h
  | fail e => exact hend _ _ h
  | step act next ih =>
    exact ⟨hpause _ _ hf.1 h,
      fun answer hr => ih answer (hf.2 answer) (hstep past ⟨act, answer⟩ hf.1 hr h)⟩

/-! ## Courses that give a value -/

section
variable {P : List Event → α → Prop} {past : List Event}

/-- A course on which the value that the call gives, if any, is as stated. -/
abbrev Leads (R : Event → Prop) (I : List Event → Act → Prop) (P : List Event → α → Prop)
    (past : List Event) (f : Flow α) : Prop :=
  f.Along R I (fun later result => ∀ a, result = .ok a → P later a) past

theorem leads_fail (e : Failure) : Leads R I P past (.fail e) := fun a h => by cases h

theorem leads_pure {a : α} (h : P past a) : Leads R I P past (pure a) := fun a' h' => by
  cases h'
  exact h

theorem Leads.bind {P' : List Event → β → Prop} {f : Flow α} {g : α → Flow β}
    (hf : Leads R I P past f) (hg : ∀ a later, P later a → Leads R I P' later (g a)) :
    Leads R I P' past (f >>= g) := by
  refine Along.bind (Along.mono (fun later result h => ?_) hf)
  cases result with
  | ok a => exact hg a later (h a rfl)
  | error e => intro b hb; cases hb

/-- The call goes on only with what was found. -/
theorem require_leads {P' : List Event → β → Prop} {found : Option α} {e : Failure}
    {g : α → Flow β} (hg : ∀ a, found = some a → Leads R I P' past (g a)) :
    Leads R I P' past (require found e >>= g) := by
  cases found with
  | none => exact leads_fail (P := P') e
  | some a => exact hg a rfl

/-- The call goes on only with what was computed. -/
theorem ofExcept_leads {P' : List Event → β → Prop} {result : Except Failure α} {g : α → Flow β}
    (hg : ∀ a, result = .ok a → Leads R I P' past (g a)) :
    Leads R I P' past (ofExcept result >>= g) := by
  cases result with
  | error e => exact leads_fail (P := P') e
  | ok a => exact hg a rfl

end

end Flow
end SignOn
