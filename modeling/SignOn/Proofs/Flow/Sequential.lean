import SignOn.Proofs.Flow.World
/-!
Calls one after another. While a call runs alone, time may pass before each of its acts:
`Flow.Yields` says how such a call may end. `Flow.Ensures` follows the call act by act and says that
a condition holds at every end; `Ensures.of_yields` joins the two.
-/

namespace SignOn.Flow

variable {α β : Type} {D : World → World → Prop} {w : World}
  {Q : Except Failure α → World → Prop}

/-- How a call that runs alone may end, if the world drifts before each act. -/
inductive Yields (D : World → World → Prop) :
    Flow α → World → Except Failure α → World → Prop where
  | done (value : α) (w : World) : Yields D (.done value) w (.ok value) w
  | fail (failure : Failure) (w : World) : Yields D (.fail failure) w (.error failure) w
  | step {act : Act} {next : act.Answer → Flow α} {w w₁ w' : World} {result : Except Failure α}
      (hd : D w w₁) (h : Yields D (next (w₁.perform act).1) (w₁.perform act).2 result w') :
      Yields D (.step act next) w result w'

/-- Time may stand still during a call. -/
theorem yields_run {I : World → Prop} (hi : ∀ w act, I w → I (w.perform act).2)
    (hd : ∀ w, I w → D w w) (f : Flow α) (h : I w) : f.Yields D w (f.run w).1 (f.run w).2 := by
  induction f generalizing w with
  | done value => exact .done value w
  | fail failure => exact .fail failure w
  | step act next ih => exact .step (hd w h) (ih _ (hi w act h))

/-- However a call ends, the condition holds of its outcome and of the world. -/
def Ensures (D : World → World → Prop) (Q : Except Failure α → World → Prop) :
    Flow α → World → Prop
  | .done value, w => Q (.ok value) w
  | .fail failure, w => Q (.error failure) w
  | .step act next, w =>
    ∀ w₁, D w w₁ → Ensures D Q (next (w₁.perform act).1) (w₁.perform act).2

theorem Ensures.of_yields {f : Flow α} {result : Except Failure α} {w' : World}
    (h : f.Ensures D Q w) (hy : f.Yields D w result w') : Q result w' := by
  induction hy with
  | done value w => exact h
  | fail failure w => exact h
  | step hd _ ih => exact ih (h _ hd)

theorem Ensures.mono {Q' : Except Failure α → World → Prop} {f : Flow α} (h : f.Ensures D Q w)
    (hq : ∀ result w, Q result w → Q' result w) : f.Ensures D Q' w := by
  induction f generalizing w with
  | done value => exact hq _ _ h
  | fail failure => exact hq _ _ h
  | step act next ih => exact fun w₁ hd => ih _ (h w₁ hd)

/-- How a call goes on behind another one. -/
def Then (D : World → World → Prop) (Q : Except Failure β → World → Prop) (g : α → Flow β) :
    Except Failure α → World → Prop
  | .ok value, w => (g value).Ensures D Q w
  | .error failure, w => Q (.error failure) w

theorem Ensures.bind {Q : Except Failure β → World → Prop} {f : Flow α} {g : α → Flow β}
    (h : f.Ensures D (Then D Q g) w) : (f >>= g).Ensures D Q w := by
  induction f generalizing w with
  | done value => exact h
  | fail failure => exact h
  | step act next ih => exact fun w₁ hd => ih _ (h w₁ hd)

theorem ensures_ofExcept {result : Except Failure α} (h : Q result w) :
    (ofExcept result).Ensures D Q w := by
  cases result <;> exact h

theorem ensures_ensure {Q : Except Failure Unit → World → Prop} {condition : Bool}
    {failure : Failure} (ht : condition = true → Q (.ok ()) w) (hf : Q (.error failure) w) :
    (ensure condition failure).Ensures D Q w := by
  cases condition with
  | true => exact ht rfl
  | false => exact hf

/-- A condition on the world that neither time nor any act of the call disturbs holds at the end. -/
theorem Ensures.of_acts {A : Act → Prop} {P : World → Prop} {f : Flow α} (hf : f.Acts A)
    (hd : ∀ w w', D w w' → P w → P w') (ha : ∀ w act, A act → P w → P (w.perform act).2)
    (h : P w) : f.Ensures D (fun _ w' => P w') w := by
  induction f generalizing w with
  | done value => exact h
  | fail failure => exact h
  | step act next ih => exact fun w₁ hw => ih _ (hf.2 _) (ha w₁ act hf.1 (hd w w₁ hw h))

end SignOn.Flow
