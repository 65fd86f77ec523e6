import SignOn.Proofs.Flow.Sequential
/-!
Calls one after another, with their events. `Flow.Traces` says how a call that runs alone may end,
and what happens until then, if time may pass before each of its acts. `Flow.Traced` follows the
call act by act, and says that a condition on the events, the outcome and the world holds at every
end.
-/

namespace SignOn.Flow

variable {α β : Type} {D : World → World → Prop} {w w' : World} {past events : List Event}
  {Q : List Event → Except Failure α → World → Prop}

/-- How a call that runs alone may end, and with which events, if the world drifts before each act.
-/
inductive Traces (D : World → World → Prop) :
    Flow α → World → List Event → Except Failure α → World → Prop where
  | done (value : α) (w : World) : Traces D (.done value) w [] (.ok value) w
  | fail (failure : Failure) (w : World) : Traces D (.fail failure) w [] (.error failure) w
  | step {act : Act} {next : act.Answer → Flow α} {w w₁ w' : World} {events : List Event}
      {result : Except Failure α} (hd : D w w₁)
      (h : Traces D (next (w₁.perform act).1) (w₁.perform act).2 events result w') :
      Traces D (.step act next) w (w₁.event act :: events) result w'

/-- What holds along every course of a call holds along this one. -/
theorem Along.of_traces {R : Event → Prop} {I : List Event → Act → Prop}
    {Q : List Event → Except Failure α → Prop} {f : Flow α} {result : Except Failure α}
    (h : f.Along R I Q past) (hr : ∀ w act, R (World.event w act))
    (ht : f.Traces D w events result w') :
    (∀ pre e post, events = pre ++ e :: post → I (past ++ pre) e.act) ∧
      Q (past ++ events) result := by
  induction ht generalizing past with
  | done value w =>
    rw [List.append_nil]
    exact ⟨fun pre e post he => by simp at he, h⟩
  | fail failure w =>
    rw [List.append_nil]
    exact ⟨fun pre e post he => by simp at he, h⟩
  | @step act next w w₁ w' events result hd _ ih =>
    obtain ⟨hacts, hend⟩ := ih (h.2 _ (hr w₁ act))
    refine ⟨fun pre e post he => ?_, ?_⟩
    · cases pre with
      | nil =>
        cases he
        rw [List.append_nil]
        exact h.1
      | cons x pre =>
        obtain ⟨hx, hrest⟩ := List.cons.inj he
        rw [← hx, List.append_cons]
        exact hacts pre e post hrest
    · rw [List.append_cons]
      exact hend

/-- What neither time nor an act disturbs holds at the end. -/
theorem Traces.keeps {P : World → Prop} {f : Flow α} {result : Except Failure α}
    (h : f.Traces D w events result w') (hd : ∀ w w', D w w' → P w → P w')
    (ha : ∀ w act, P w → P (w.perform act).2) (hw : P w) : P w' := by
  induction h with
  | done value w => exact hw
  | fail failure w => exact hw
  | step hdrift _ ih => exact ih (ha _ _ (hd _ _ hdrift hw))

/-- The events of a call during which time stands still. -/
def log : Flow α → World → List Event
  | .done _, _ => []
  | .fail _, _ => []
  | .step act next, w => w.event act :: (next (w.perform act).1).log (w.perform act).2

/-- Time may stand still during a call. -/
theorem traces_run {I : World → Prop} (hi : ∀ w act, I w → I (w.perform act).2)
    (hd : ∀ w, I w → D w w) (f : Flow α) (h : I w) :
    f.Traces D w (f.log w) (f.run w).1 (f.run w).2 := by
  induction f generalizing w with
  | done value => exact .done value w
  | fail failure => exact .fail failure w
  | step act next ih => exact .step (hd w h) (ih _ (hi w act h))

/-- However a call ends, the condition holds of its events, its outcome and the world. -/
def Traced (D : World → World → Prop) (Q : List Event → Except Failure α → World → Prop) :
    List Event → Flow α → World → Prop
  | past, .done value, w => Q past (.ok value) w
  | past, .fail failure, w => Q past (.error failure) w
  | past, .step act next, w => ∀ w₁, D w w₁ →
    Traced D Q (past ++ [w₁.event act]) (next (w₁.perform act).1) (w₁.perform act).2

theorem Traced.of_traces {f : Flow α} {result : Except Failure α} (h : f.Traced D Q past w)
    (ht : f.Traces D w events result w') : Q (past ++ events) result w' := by
  induction ht generalizing past with
  | done value w => rw [List.append_nil]; exact h
  | fail failure w => rw [List.append_nil]; exact h
  | step hd _ ih =>
    rw [List.append_cons]
    exact ih (h _ hd)

theorem Traced.mono {Q' : List Event → Except Failure α → World → Prop} {f : Flow α}
    (h : f.Traced D Q past w) (hq : ∀ past result w, Q past result w → Q' past result w) :
    f.Traced D Q' past w := by
  induction f generalizing past w with
  | done value => exact hq _ _ _ h
  | fail failure => exact hq _ _ _ h
  | step act next ih => exact fun w₁ hd => ih _ (h w₁ hd)

/-- How a call goes on behind another one. -/
def Onward (D : World → World → Prop) (Q : List Event → Except Failure β → World → Prop)
    (g : α → Flow β) (past : List Event) : Except Failure α → World → Prop
  | .ok value, w => (g value).Traced D Q past w
  | .error failure, w => Q past (.error failure) w

theorem Traced.bind {Q : List Event → Except Failure β → World → Prop} {f : Flow α}
    {g : α → Flow β} (h : f.Traced D (Onward D Q g) past w) : (f >>= g).Traced D Q past w := by
  induction f generalizing past w with
  | done value => exact h
  | fail failure => exact h
  | step act next ih => exact fun w₁ hd => ih _ (h w₁ hd)

theorem Traced.and {Q' : List Event → Except Failure α → World → Prop} {f : Flow α}
    (h : f.Traced D Q past w) (h' : f.Traced D Q' past w) :
    f.Traced D (fun past result w => Q past result w ∧ Q' past result w) past w := by
  induction f generalizing past w with
  | done value => exact ⟨h, h'⟩
  | fail failure => exact ⟨h, h'⟩
  | step act next ih => exact fun w₁ hd => ih _ (h w₁ hd) (h' w₁ hd)

/-- What neither time nor any act of the call disturbs holds at the end, and the events of the call
come behind those before. -/
theorem Traced.of_acts {A : Act → Prop} {P : World → Prop} {f : Flow α} (hf : f.Acts A)
    (hd : ∀ w w', D w w' → P w → P w') (ha : ∀ w act, A act → P w → P (w.perform act).2)
    (h : P w) : f.Traced D (fun past' _ w' => (∃ more, past' = past ++ more) ∧ P w') past w := by
  induction f generalizing past w with
  | done value => exact ⟨⟨[], (List.append_nil past).symm⟩, h⟩
  | fail failure => exact ⟨⟨[], (List.append_nil past).symm⟩, h⟩
  | step act next ih =>
    intro w₁ hw
    refine (ih _ (hf.2 _) (ha w₁ act hf.1 (hd w w₁ hw h))).mono fun past' result w' hend => ?_
    obtain ⟨⟨more, rfl⟩, hp⟩ := hend
    exact ⟨⟨w₁.event act :: more, by rw [List.append_assoc]; rfl⟩, hp⟩

end SignOn.Flow
