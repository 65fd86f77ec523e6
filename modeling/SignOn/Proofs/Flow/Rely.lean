import SignOn.Proofs.Flow.Concurrent
import SignOn.Proofs.Flow.Traced
/-!
Calls that rely on one another. Each call is followed alone, while the world changes before each of
its acts in the ways that the call tolerates (`Flow.Tolerates`); in return, it guarantees which acts
it does. If the acts that one call guarantees are changes that the others tolerate, then calls that
run at the same time end as each of them does alone (`System.Reaches.tolerates`).
-/

namespace SignOn.Flow

variable {α β : Type} {D : World → World → Prop} {G : Act → Prop} {w w' : World}
  {past : List Event} {Q : List Event → Except Failure α → World → Prop}

/-- However the world changes before each act of a call, the act is a guaranteed one, and the
condition holds at the end. -/
def Tolerates (D : World → World → Prop) (G : Act → Prop)
    (Q : List Event → Except Failure α → World → Prop) : List Event → Flow α → World → Prop
  | past, .done value, w => Q past (.ok value) w
  | past, .fail failure, w => Q past (.error failure) w
  | past, .step act next, w => ∀ w₁, D w w₁ → G act ∧
    Tolerates D G Q (past ++ [w₁.event act]) (next (w₁.perform act).1) (w₁.perform act).2

theorem Tolerates.mono {Q' : List Event → Except Failure α → World → Prop} {f : Flow α}
    (h : f.Tolerates D G Q past w) (hq : ∀ past result w, Q past result w → Q' past result w) :
    f.Tolerates D G Q' past w := by
  induction f generalizing past w with
  | done value => exact hq _ _ _ h
  | fail failure => exact hq _ _ _ h
  | step act next ih => exact fun w₁ hd => ⟨(h w₁ hd).1, ih _ (h w₁ hd).2⟩

/-- A call that keeps its guarantee, and how it ends otherwise. -/
theorem Tolerates.and_traced {Q' : List Event → Except Failure α → World → Prop} {f : Flow α}
    (h : f.Tolerates D G Q past w) (h' : f.Traced D Q' past w) :
    f.Tolerates D G (fun past result w => Q past result w ∧ Q' past result w) past w := by
  induction f generalizing past w with
  | done value => exact ⟨h, h'⟩
  | fail failure => exact ⟨h, h'⟩
  | step act next ih => exact fun w₁ hd => ⟨(h w₁ hd).1, ih _ (h w₁ hd).2 (h' w₁ hd)⟩

/-- What neither the changes nor any act of the call disturbs holds at the end. -/
theorem Tolerates.of_acts {A : Act → Prop} {J : List Event → World → Prop} {f : Flow α}
    (hf : f.Acts A) (hg : ∀ act, A act → G act)
    (hd : ∀ past w w', D w w' → J past w → J past w')
    (ha : ∀ past w act, A act → J past w → J (past ++ [w.event act]) (w.perform act).2)
    (h : J past w) : f.Tolerates D G (fun past _ w => J past w) past w := by
  induction f generalizing past w with
  | done value => exact h
  | fail failure => exact h
  | step act next ih =>
    exact fun w₁ hw => ⟨hg act hf.1, ih _ (hf.2 _) (ha _ _ _ hf.1 (hd _ _ _ hw h))⟩

/-- A call that waits tolerates another change. -/
theorem Tolerates.later {f : Flow α} (h : f.Tolerates D G Q past w) (hd : D w w')
    (htrans : ∀ a b c, D a b → D b c → D a c)
    (hq : ∀ past result, Q past result w → Q past result w') : f.Tolerates D G Q past w' := by
  cases f with
  | done value => exact hq _ _ h
  | fail failure => exact hq _ _ h
  | step act next => exact fun w₁ hw => h w₁ (htrans _ _ _ hd hw)

end SignOn.Flow

namespace SignOn

variable {κ : Type} {V : κ → Type} {D : κ → World → World → Prop} {G : κ → Act → Prop}
  {Q : (k : κ) → List Event → Except Failure (V k) → World → Prop}

/-- A call that tolerates what the others do, and keeps its guarantee. -/
def Thread.Tolerates (D : κ → World → World → Prop) (G : κ → Act → Prop)
    (Q : (k : κ) → List Event → Except Failure (V k) → World → Prop) (w : World) (t : Thread V) :
    Prop := t.rest.Tolerates (D t.call) (G t.call) (Q t.call) t.past w

theorem Thread.Tolerates.end {w : World} {t : Thread V} (h : t.Tolerates D G Q w)
    {result : Except Failure (V t.call)} (ht : t.outcome? = some result) :
    Q t.call t.past result w := by
  obtain ⟨k, past, rest⟩ := t
  cases rest with
  | done value => cases ht; exact h
  | fail failure => cases ht; exact h
  | step act next => cases ht

namespace System

variable {drift : World → World → Prop} {s s' : System V}

/-- Calls that get along: what each of them guarantees, and the drift of the world, keep what holds
of the world, and are changes that the others tolerate. -/
structure Agree (drift : World → World → Prop) (W : World → Prop) (D : κ → World → World → Prop)
    (G : κ → Act → Prop) (Q : (k : κ) → List Event → Except Failure (V k) → World → Prop)
    (calls : List κ) : Prop where
  refl : ∀ k w, W w → D k w w
  trans : ∀ k a b c, D k a b → D k b c → D k a c
  stable : ∀ k past result w w', D k w w' → Q k past result w → Q k past result w'
  act : ∀ k ∈ calls, ∀ w act, W w → G k act → W (w.perform act).2
  others : ∀ {i j : Nat} {k l : κ}, i ≠ j → calls[i]? = some k → calls[j]? = some l →
    ∀ w act, W w → G k act → D l w (w.perform act).2
  drift : ∀ w w', drift w w' → W w → W w' ∧ ∀ k ∈ calls, D k w w'

/-- Calls that get along end at the same time as each of them does alone. -/
theorem Reaches.tolerates {W : World → Prop} (h : Reaches drift s s')
    (ha : Agree drift W D G Q (s.threads.map (·.call))) (hW : W s.world)
    (h0 : ∀ t ∈ s.threads, t.Tolerates D G Q s.world) :
    W s'.world ∧ ∀ t ∈ s'.threads, t.Tolerates D G Q s'.world := by
  induction h with
  | refl => exact ⟨hW, h0⟩
  | @tail mid _ hr hstep ih =>
    obtain ⟨hworld, hthreads⟩ := ih
    have hcalls := Reaches.calls hr
    have hcall {t : Thread V} (ht : t ∈ mid.threads) : t.call ∈ s.threads.map (·.call) :=
      hcalls ▸ List.mem_map_of_mem ht
    cases hstep with
    | @act _ i k past act next hi =>
      have hmem := List.mem_of_getElem? hi
      obtain ⟨hguarantee, hnext⟩ := hthreads _ hmem mid.world (ha.refl k mid.world hworld)
      obtain ⟨hlt, -⟩ := List.getElem?_eq_some_iff.1 hi
      refine ⟨ha.act k (hcall hmem) mid.world act hworld hguarantee, fun t ht => ?_⟩
      obtain ⟨j, hj⟩ := List.mem_iff_getElem?.1 ht
      by_cases hij : i = j
      · subst hij
        rw [after, List.getElem?_set_self hlt, Option.some.injEq] at hj
        subst hj
        exact hnext
      · rw [after, List.getElem?_set_ne hij] at hj
        have hdone := ha.others hij (by rw [← hcalls, List.getElem?_map, hi]; rfl)
          (by rw [← hcalls, List.getElem?_map, hj]; rfl) mid.world act hworld hguarantee
        exact (hthreads t (List.mem_of_getElem? hj)).later hdone (ha.trans _)
          fun past result => ha.stable _ past result _ _ hdone
    | drift hd =>
      obtain ⟨hlater, hdrift⟩ := ha.drift _ _ hd hworld
      refine ⟨hlater, fun t ht => ?_⟩
      have hdone := hdrift t.call (hcall ht)
      exact (hthreads t ht).later hdone (ha.trans _)
        fun past result => ha.stable _ past result _ _ hdone

end System
end SignOn
