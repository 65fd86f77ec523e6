import SignOn.Proofs.Flow.Readable
/-!
Runs in which cache commands fail. Commands are counted, so what a failure does to a call depends on
its number: a call does not tell apart worlds in which the same ones of its own commands fail
(`run_failing`). `CommandCount` counts the commands of a part of a call, and `Needs` says that a
part fails exactly if one of its commands does.
-/

namespace SignOn

namespace World

/-- The same world, in which other cache commands fail. -/
def failing (w : World) (fails : Nat → Bool) : World :=
  { w with outside := { w.outside with cacheFails := fails } }

/-- The same world, in which no cache command fails behind the next `n`. -/
def mended (w : World) (n : Nat) : World :=
  w.failing fun i => decide (i < w.cacheCalls + n) && w.outside.cacheFails i

@[simp] theorem perform_cacheCalls (w : World) (cmd : Cache.Command) :
    (w.perform (.cache cmd)).2.cacheCalls = w.cacheCalls + 1 := by
  simp only [perform, performCache]
  split
  · rfl
  · cases w.lostSwaps <;> cases cmd <;> rfl

/-- Only commands are counted. -/
theorem perform_cacheCalls_eq (w : World) {act : Act} (h : ∀ cmd, act ≠ .cache cmd) :
    (w.perform act).2.cacheCalls = w.cacheCalls := by
  cases act with
  | cache cmd => exact absurd rfl (h cmd)
  | exchange code => simp only [perform]; split <;> rfl
  | mail address code => simp only [perform]; split <;> rfl
  | text phone message => simp only [perform]; split <;> rfl
  | _ => rfl

theorem cacheCalls_le_perform (w : World) (act : Act) :
    w.cacheCalls ≤ (w.perform act).2.cacheCalls := by
  cases act with
  | cache cmd => rw [perform_cacheCalls]; exact Nat.le_succ _
  | _ => exact Nat.le_of_eq (w.perform_cacheCalls_eq (by intro cmd hc; cases hc)).symm

/-- An act whose own command fares the same is answered the same. -/
theorem perform_failing {w : World} {fails : Nat → Bool} {act : Act}
    (h : ∀ cmd, act = .cache cmd → fails w.cacheCalls = w.outside.cacheFails w.cacheCalls) :
    (w.failing fails).perform act = ((w.perform act).1, (w.perform act).2.failing fails) := by
  cases act with
  | cache cmd =>
    simp only [perform, performCache, failing, h cmd rfl]
    split
    · rfl
    · cases w.lostSwaps <;> cases cmd <;> rfl
  | exchange code =>
    simp only [perform, failing]
    split <;> rfl
  | mail address code =>
    simp only [perform, failing]
    split <;> rfl
  | text phone message =>
    simp only [perform, failing]
    split <;> rfl
  | _ => rfl

end World

namespace Flow

variable {α β : Type} {w : World} {f : Flow α} {g : α → Flow β} {m n : Nat}

theorem cacheCalls_le_run (f : Flow α) (w : World) : w.cacheCalls ≤ (f.run w).2.cacheCalls := by
  induction f generalizing w with
  | done value => exact Nat.le_refl _
  | fail failure => exact Nat.le_refl _
  | step act next ih => exact Nat.le_trans (w.cacheCalls_le_perform act) (ih _ _)

/-- If its own commands fare the same, a call goes the same way. -/
theorem run_failing {fails : Nat → Bool} {f : Flow α}
    (h : ∀ n, n < (f.run w).2.cacheCalls → fails n = w.outside.cacheFails n) :
    f.run (w.failing fails) = ((f.run w).1, (f.run w).2.failing fails) := by
  induction f generalizing w with
  | done value => rfl
  | fail failure => rfl
  | step act next ih =>
    have hact : (w.failing fails).perform act
        = ((w.perform act).1, (w.perform act).2.failing fails) := by
      refine World.perform_failing fun cmd hcmd => h _ ?_
      subst hcmd
      have hle := cacheCalls_le_run (next (w.perform (.cache cmd)).1) (w.perform (.cache cmd)).2
      rw [World.perform_cacheCalls] at hle
      exact hle
    simp only [run, hact]
    exact ih _ fun n hn => by rw [World.perform_outside]; exact h n hn

/-! ## How many commands -/

/-- A call that gives `n` commands if it succeeds, and never more than `m`. -/
structure CommandCount (n m : Nat) (f : Flow α) : Prop where
  given : ∀ w a, (f.run w).1 = .ok a → (f.run w).2.cacheCalls = w.cacheCalls + n
  atMost : ∀ w, (f.run w).2.cacheCalls ≤ w.cacheCalls + m

theorem CommandCount.bind {n' m' : Nat} (hf : f.CommandCount n m)
    (hg : ∀ a, (g a).CommandCount n' m')
    (hm : m ≤ n + m') : (f >>= g).CommandCount (n + n') (n + m') := by
  refine ⟨fun w b hb => ?_, fun w => ?_⟩
  · obtain ⟨a, ha, hb'⟩ := run_bind_ok.1 hb
    rw [run_bind_world ha, (hg a).given _ b hb', hf.given w a ha, Nat.add_assoc]
  · rcases run_bind_cases f g w with ⟨e, -, hrun⟩ | ⟨a, ha, hrun⟩
    · rw [hrun]
      exact Nat.le_trans (hf.atMost w) (Nat.add_le_add_left hm _)
    · have hgiven := hf.given w a ha
      have hmost := (hg a).atMost (f.run w).2
      rw [hrun]
      omega

/-- Nothing is counted where a call cannot succeed. -/
theorem CommandCount.of_fails {n' : Nat} (h : f.CommandCount n m)
    (hfails : ∀ w a, (f.run w).1 ≠ .ok a) :
    f.CommandCount n' m := ⟨fun w a ha => absurd ha (hfails w a), h.atMost⟩

theorem counts_step {act : Act} {next : act.Answer → Flow α} (hact : ∀ cmd, act ≠ .cache cmd)
    (h : ∀ answer, (next answer).CommandCount n m) : (Flow.step act next).CommandCount n m := by
  have hnone (w : World) : (w.perform act).2.cacheCalls = w.cacheCalls :=
    w.perform_cacheCalls_eq hact
  refine ⟨fun w a ha => ?_, fun w => ?_⟩
  · rw [← hnone w]
    exact (h _).given _ a ha
  · rw [← hnone w]
    exact (h _).atMost _

theorem counts_of_acts (hf : f.Acts fun act => ∀ cmd, act ≠ .cache cmd) : f.CommandCount 0 0 := by
  have hnone (w : World) : (f.run w).2.cacheCalls = w.cacheCalls := by
    induction f generalizing w with
    | done value => rfl
    | fail failure => rfl
    | step act next ih => exact (ih _ (hf.2 _) _).trans (w.perform_cacheCalls_eq hf.1)
  exact ⟨fun w _ _ => hnone w, fun w => Nat.le_of_eq (hnone w)⟩

theorem counts_command (cmd : Cache.Command) : (Flow.cache cmd).CommandCount 1 1 := by
  have hone (w : World) : ((Flow.cache cmd).run w).2.cacheCalls = w.cacheCalls + 1 := by
    rw [run_cache, World.perform_cacheCalls]
  exact ⟨fun w _ _ => hone w, fun w => Nat.le_of_eq (hone w)⟩

section
variable {k : Nat} (hf : f.CommandCount n m) (hm : m ≤ n + k)
include hf hm

/-- It does not matter to a call whether commands fail that come later. -/
theorem run_mended : f.run (w.mended (n + k)) = ((f.run w).1, (f.run w).2.failing fun i =>
    decide (i < w.cacheCalls + (n + k)) && w.outside.cacheFails i) := by
  refine run_failing fun i hi => ?_
  have hmost := hf.atMost w
  have hlt : i < w.cacheCalls + (n + k) := by omega
  rw [decide_eq_true hlt, Bool.true_and]

theorem run_mended_of_ok {a : α} (h : (f.run w).1 = .ok a) :
    f.run (w.mended (n + k)) = (.ok a, (f.run w).2.mended k) := by
  rw [run_mended hf hm, h, World.mended, hf.given w a h, run_outside, Nat.add_assoc]

end

/-! ## Which of them must not fail -/

/-- A call that succeeds exactly if none of its `n` commands fails. -/
structure Needs (n : Nat) (f : Flow α) : Prop where
  given : ∀ w a, (f.run w).1 = .ok a → (f.run w).2.cacheCalls = w.cacheCalls + n
  succeeds : ∀ w, (∃ a, (f.run w).1 = .ok a) ↔
    ∀ i < n, w.outside.cacheFails (w.cacheCalls + i) = false

theorem needs_pure (a : α) : (pure a : Flow α).Needs 0 :=
  ⟨fun _ _ _ => rfl, fun _ => ⟨fun _ i hi => absurd hi (Nat.not_lt_zero i), fun _ => ⟨a, rfl⟩⟩⟩

/-- A call that needs one command. -/
theorem needs_one (hgiven : ∀ w a, (f.run w).1 = .ok a → (f.run w).2.cacheCalls = w.cacheCalls + 1)
    (h : ∀ w, (∃ a, (f.run w).1 = .ok a) ↔ w.outside.cacheFails w.cacheCalls = false) :
    f.Needs 1 := by
  refine ⟨hgiven, fun w => (h w).trans ?_⟩
  simp only [Nat.lt_one_iff, forall_eq, Nat.add_zero]

theorem needs_command (cmd : Cache.Command) : (Flow.cache cmd).Needs 1 := by
  refine needs_one (counts_command cmd).given fun w => ?_
  rw [run_cache]
  simp only [World.perform, World.performCache]
  cases w.outside.cacheFails w.cacheCalls with
  | true => simp
  | false => cases w.lostSwaps <;> cases cmd <;> simp

theorem Needs.bind (hf : f.Needs m) (hg : ∀ a, (g a).Needs n) : (f >>= g).Needs (m + n) := by
  refine ⟨fun w b hb => ?_, fun w => ?_⟩
  · obtain ⟨a, ha, hb'⟩ := run_bind_ok.1 hb
    rw [run_bind_world ha, (hg a).given _ b hb', hf.given w a ha, Nat.add_assoc]
  · have hsplit : (∀ i < m + n, w.outside.cacheFails (w.cacheCalls + i) = false) ↔
        (∀ i < m, w.outside.cacheFails (w.cacheCalls + i) = false) ∧
          ∀ i < n, w.outside.cacheFails (w.cacheCalls + m + i) = false := by
      refine ⟨fun h => ⟨fun i hi => h i (by omega), fun i hi => ?_⟩, fun h i hi => ?_⟩
      · rw [Nat.add_assoc]
        exact h (m + i) (by omega)
      · by_cases him : i < m
        · exact h.1 i him
        · have hrest := h.2 (i - m) (by omega)
          rwa [Nat.add_assoc, Nat.add_sub_cancel' (Nat.le_of_not_lt him)] at hrest
    rw [hsplit, ← hf.succeeds w]
    constructor
    · rintro ⟨b, hb⟩
      obtain ⟨a, ha, hb'⟩ := run_bind_ok.1 hb
      have hrest := ((hg a).succeeds _).1 ⟨b, hb'⟩
      rw [hf.given w a ha, run_outside] at hrest
      exact ⟨⟨a, ha⟩, hrest⟩
    · rintro ⟨⟨a, ha⟩, hrest⟩
      rw [← hf.given w a ha, ← run_outside f] at hrest
      obtain ⟨b, hb⟩ := ((hg a).succeeds _).2 hrest
      exact ⟨b, run_bind_ok.2 ⟨a, ha, hb⟩⟩

end Flow
end SignOn
