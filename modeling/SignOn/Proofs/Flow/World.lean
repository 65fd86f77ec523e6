import SignOn.Proofs.Cache.Memory
import SignOn.Proofs.Flow.Along
/-!
What one act does to a world. Each act changes the part that it is about, the account store or the
cache, and counters and records besides; the clock and what lies outside never change by an act.
-/

namespace SignOn.World

variable (w : World)

/-- A cache command fails, or is a swap that is lost to others, or is answered by the cache. Only
the cache and the two counters change. -/
theorem performCache_cases (cmd : Cache.Command) :
    ∃ lost calls, ∃ answer : Except Failure cmd.Answer, ∃ cache,
      w.perform (.cache cmd)
        = (answer, { w with cache := cache, lostSwaps := lost, cacheCalls := calls }) ∧
      ((∃ e, answer = .error e ∧ cache = w.cache) ∨
        ((∃ key expected value lifetime, cmd = .swap key expected value lifetime) ∧
          HEq answer (Except.ok false : Except Failure Bool) ∧ cache = w.cache) ∨
        (answer = .ok (w.cache.perform w.millis cmd).1 ∧
          cache = (w.cache.perform w.millis cmd).2)) := by
  have hanswered : ∃ lost calls, ∃ answer : Except Failure cmd.Answer, ∃ cache,
      (Except.ok (w.cache.perform w.millis cmd).1,
        { w with cacheCalls := w.cacheCalls + 1, cache := (w.cache.perform w.millis cmd).2 })
        = (answer, { w with cache := cache, lostSwaps := lost, cacheCalls := calls }) ∧
      (answer = .ok (w.cache.perform w.millis cmd).1 ∧
          cache = (w.cache.perform w.millis cmd).2) := ⟨_, _, _, _, rfl, rfl, rfl⟩
  by_cases hf : w.outside.cacheFails w.cacheCalls = true
  · refine ⟨w.lostSwaps, w.cacheCalls + 1, .error (.cache "cache.down"), w.cache, ?_,
      .inl ⟨_, rfl, rfl⟩⟩
    simp only [perform, performCache, hf, if_true]
  · obtain ⟨lost, calls, answer, cache, he, hr⟩ := hanswered
    cases hl : w.lostSwaps with
    | zero =>
      refine ⟨lost, calls, answer, cache, ?_, .inr (.inr hr)⟩
      rw [← he]
      simp only [perform, performCache, hf, hl]
      rfl
    | succ n =>
      cases cmd with
      | swap key expected value lifetime =>
        refine ⟨n, w.cacheCalls + 1, .ok false, w.cache, ?_,
          .inr (.inl ⟨⟨key, expected, value, lifetime, rfl⟩, HEq.rfl, rfl⟩)⟩
        simp only [perform, performCache, hf, hl]
        rfl
      | _ =>
        refine ⟨lost, calls, answer, cache, ?_, .inr (.inr hr)⟩
        rw [← he]
        simp only [perform, performCache, hf, hl]
        rfl

@[simp] theorem perform_clock (act : Act) : (w.perform act).2.clock = w.clock := by
  cases act with
  | cache cmd => obtain ⟨lost, calls, answer, cache, he, -⟩ := w.performCache_cases cmd; rw [he]
  | exchange code => simp only [perform]; split <;> rfl
  | mail address code => simp only [perform]; split <;> rfl
  | text phone message => simp only [perform]; split <;> rfl
  | _ => rfl

@[simp] theorem perform_outside (act : Act) : (w.perform act).2.outside = w.outside := by
  cases act with
  | cache cmd => obtain ⟨lost, calls, answer, cache, he, -⟩ := w.performCache_cases cmd; rw [he]
  | exchange code => simp only [perform]; split <;> rfl
  | mail address code => simp only [perform]; split <;> rfl
  | text phone message => simp only [perform]; split <;> rfl
  | _ => rfl

@[simp] theorem perform_millis (act : Act) : (w.perform act).2.millis = w.millis := by
  simp only [millis, perform_clock]

@[simp] theorem perform_now (act : Act) : (w.perform act).2.now = w.now := by
  simp only [now, perform_millis]

theorem drawn_le_perform (act : Act) : w.drawn ≤ (w.perform act).2.drawn := by
  cases act with
  | cache cmd =>
    obtain ⟨lost, calls, answer, cache, he, -⟩ := w.performCache_cases cmd
    exact Nat.le_of_eq (by rw [he])
  | exchange code => simp only [perform]; split <;> exact Nat.le_refl _
  | mail address code => simp only [perform]; split <;> exact Nat.le_refl _
  | text phone message => simp only [perform]; split <;> exact Nat.le_refl _
  | uuid => exact Nat.le_succ _
  | code => exact Nat.le_succ _
  | salt => exact Nat.le_succ _
  | _ => exact Nat.le_refl _

/-- Only statements change the account store. -/
theorem perform_store_eq {act : Act} (h : ∀ st, act ≠ .store st) :
    (w.perform act).2.store = w.store := by
  cases act with
  | store st => exact absurd rfl (h st)
  | cache cmd => obtain ⟨lost, calls, answer, cache, he, -⟩ := w.performCache_cases cmd; rw [he]
  | exchange code => simp only [perform]; split <;> rfl
  | mail address code => simp only [perform]; split <;> rfl
  | text phone message => simp only [perform]; split <;> rfl
  | _ => rfl

/-- Only commands change the cache. -/
theorem perform_cache_eq {act : Act} (h : ∀ cmd, act ≠ .cache cmd) :
    (w.perform act).2.cache = w.cache := by
  cases act with
  | cache cmd => exact absurd rfl (h cmd)
  | exchange code => simp only [perform]; split <;> rfl
  | mail address code => simp only [perform]; split <;> rfl
  | text phone message => simp only [perform]; split <;> rfl
  | _ => rfl

theorem perform_keyed (h : w.cache.Keyed) (act : Act) : (w.perform act).2.cache.Keyed := by
  cases act with
  | cache cmd =>
    obtain ⟨lost, calls, answer, cache, he, hc⟩ := w.performCache_cases cmd
    rw [he]
    rcases hc with ⟨e, -, rfl⟩ | ⟨-, -, rfl⟩ | ⟨-, rfl⟩
    · exact h
    · exact h
    · exact h.perform _ _
  | _ => rw [perform_cache_eq _ (by intro cmd hc; cases hc)]; exact h

/-- A cache that is up answers every command other than a swap. -/
theorem perform_cache_up {cmd : Cache.Command} (h : ∀ n, w.outside.cacheFails n = false)
    (hc : ∀ key expected value lifetime, cmd ≠ .swap key expected value lifetime) :
    (w.perform (.cache cmd)).1 = .ok (w.cache.perform w.millis cmd).1 ∧
      (w.perform (.cache cmd)).2.cache = (w.cache.perform w.millis cmd).2 := by
  have hf : w.outside.cacheFails w.cacheCalls = false := h _
  simp only [perform, performCache, hf]
  cases cmd with
  | swap key expected value lifetime => exact absurd rfl (hc key expected value lifetime)
  | _ => cases w.lostSwaps <;> exact ⟨rfl, rfl⟩

/-- What succeeds, other than a swap, was answered by the cache. -/
theorem perform_cache_ok {cmd : Cache.Command} {answer : cmd.Answer}
    (h : (w.perform (.cache cmd)).1 = .ok answer)
    (hc : ∀ key expected value lifetime, cmd ≠ .swap key expected value lifetime) :
    answer = (w.cache.perform w.millis cmd).1 ∧
      (w.perform (.cache cmd)).2.cache = (w.cache.perform w.millis cmd).2 := by
  obtain ⟨lost, calls, answer', cache, he, hcases⟩ := w.performCache_cases cmd
  rw [he] at h ⊢
  rcases hcases with ⟨e, rfl, -⟩ | ⟨⟨key, expected, value, lifetime, hswap⟩, -⟩ | ⟨rfl, rfl⟩
  · cases h
  · exact absurd hswap (hc key expected value lifetime)
  · exact ⟨(Except.ok.inj h).symm, rfl⟩

/-- The same, of an event. -/
theorem perform_of_event {w : World} {act : Act} {cmd : Cache.Command} {answer : cmd.Answer}
    (h : w.event act = ⟨.cache cmd, .ok answer⟩)
    (hc : ∀ key expected value lifetime, cmd ≠ .swap key expected value lifetime) :
    answer = (w.cache.perform w.millis cmd).1 ∧
      (w.perform act).2.cache = (w.cache.perform w.millis cmd).2 := by
  obtain rfl : act = .cache cmd := congrArg Event.act h
  exact w.perform_cache_ok (eq_of_heq (Event.mk.inj h).2) hc

/-! ### What the clock shows -/

/-- The clock shows a millisecond that has a date. -/
theorem millis_calendar :
    Calendar.firstSecond * 1000 ≤ w.millis ∧ w.millis < (Calendar.lastSecond + 1) * 1000 := by
  unfold millis
  split
  · next h =>
    rw [Bool.and_eq_true, decide_eq_true_eq, decide_eq_true_eq] at h
    exact h
  · decide

/-- The clock shows a second that has a date. -/
theorem now_calendar : Calendar.firstSecond ≤ w.now ∧ w.now ≤ Calendar.lastSecond := by
  have h := w.millis_calendar
  unfold now
  omega

/-- The clock shows a second that 64 bits can hold. -/
theorem now_bounds : -9223372036854775808 ≤ w.now ∧ w.now ≤ 9223372036854775807 := by
  have h := w.now_calendar
  have hf : Calendar.firstSecond = -8334601228800 := rfl
  have hl : Calendar.lastSecond = 8210266876799 := rfl
  omega

/-- The clock shows fewer milliseconds than the cache can name. -/
theorem millis_lt_lastMilli : w.millis < Cache.Memory.lastMilli := by
  have h := w.millis_calendar
  have hlast : Calendar.lastSecond = 8210266876799 := rfl
  have hmax : Cache.Memory.lastMilli = 9223372036854775807 := rfl
  omega

/-- The second that the clock shows has begun, and is not over. -/
theorem now_le_millis : w.now * 1000 ≤ w.millis ∧ w.millis < (w.now + 1) * 1000 := by
  unfold now
  omega

/-- Where the clock has not gone back, its second has not gone back. -/
theorem now_mono {w w' : World} (h : w.millis ≤ w'.millis) : w.now ≤ w'.now :=
  Int.ediv_le_ediv (by decide) h

/-- What was written at a time that has a date lives for the milliseconds of its lifetime. -/
theorem millis_lt_expiry_iff {written : Int} (h : Calendar.firstSecond * 1000 ≤ written)
    (lifetime : Cache.Lifetime) :
    w.millis < Cache.Memory.expiry written lifetime ↔ w.millis < written + lifetime.millis := by
  have hnow := w.millis_calendar
  have hmax : Cache.Memory.lastMilli = 9223372036854775807 := rfl
  have hfirst : Calendar.firstSecond = -8334601228800 := rfl
  have hlast : Calendar.lastSecond = 8210266876799 := rfl
  rw [Cache.Memory.expiry]
  omega

end SignOn.World

/-! ## Calls alone -/

namespace SignOn.Flow

variable {α β : Type} {w : World}

theorem run_bind_ok {f : Flow α} {g : α → Flow β} {b : β} : ((f >>= g).run w).1 = .ok b ↔
    ∃ a, (f.run w).1 = .ok a ∧ ((g a).run (f.run w).2).1 = .ok b := by
  induction f generalizing w with
  | done a =>
    refine ⟨fun h => ⟨a, rfl, h⟩, ?_⟩
    rintro ⟨a', ha, hb⟩
    cases ha
    exact hb
  | fail e =>
    refine ⟨fun h => (by cases h), ?_⟩
    rintro ⟨a, ha, -⟩
    cases ha
  | step act next ih => exact ih _

/-- Behind a call that has succeeded, the next one goes on. -/
theorem run_bind_of_ok {f : Flow α} {g : α → Flow β} {a : α} {w' : World}
    (h : f.run w = (.ok a, w')) : (f >>= g).run w = (g a).run w' := by
  induction f generalizing w with
  | done value => cases h; rfl
  | fail failure => cases h
  | step act next ih => exact ih _ h

/-- Behind a call that has failed, nothing happens. -/
theorem run_bind_of_error {f : Flow α} {g : α → Flow β} {e : Failure} {w' : World}
    (h : f.run w = (.error e, w')) : (f >>= g).run w = (.error e, w') := by
  induction f generalizing w with
  | done value => cases h
  | fail failure => cases h; rfl
  | step act next ih => exact ih _ h

/-- How a part and the rest of the call end: the part fails, or the rest goes on behind it. -/
theorem run_bind_cases (f : Flow α) (g : α → Flow β) (w : World) :
    (∃ e, (f.run w).1 = .error e ∧ (f >>= g).run w = (.error e, (f.run w).2)) ∨
      ∃ a, (f.run w).1 = .ok a ∧ (f >>= g).run w = (g a).run (f.run w).2 := by
  cases hr : f.run w with
  | mk result w' => cases result with
    | error e => exact .inl ⟨e, rfl, run_bind_of_error hr⟩
    | ok a => exact .inr ⟨a, rfl, run_bind_of_ok hr⟩

/-- Behind a call that has succeeded, the next one goes on in the world that it has left. -/
theorem run_bind_world {f : Flow α} {g : α → Flow β} {a : α} (h : (f.run w).1 = .ok a) :
    ((f >>= g).run w).2 = ((g a).run (f.run w).2).2 :=
  congrArg Prod.snd (run_bind_of_ok (Prod.ext h rfl))

/-- No time passes while a call runs alone. -/
@[simp] theorem run_millis (f : Flow α) : (f.run w).2.millis = w.millis := by
  induction f generalizing w with
  | done value => rfl
  | fail failure => rfl
  | step act next ih => exact (ih _).trans (w.perform_millis act)

@[simp] theorem run_now (f : Flow α) : (f.run w).2.now = w.now := by
  simp only [World.now, run_millis]

@[simp] theorem run_pure (a : α) : (pure a : Flow α).run w = (.ok a, w) := rfl

@[simp] theorem run_ofExcept (result : Except Failure α) :
    (ofExcept result).run w = (result, w) := by cases result <;> rfl

theorem run_store (st : Store.Statement) (w : World) :
    (Flow.store st).run w = w.perform (.store st) := run_ofExcept _

theorem run_cache (cmd : Cache.Command) (w : World) :
    (Flow.cache cmd).run w = w.perform (.cache cmd) := run_ofExcept _

/-- A command other than a swap is answered by the cache, unless the cache fails. -/
theorem run_command {cmd : Cache.Command}
    (hc : ∀ key expected value lifetime, cmd ≠ .swap key expected value lifetime) (w : World) :
    (Flow.cache cmd).run w
      = if w.outside.cacheFails w.cacheCalls
        then (.error (.cache "cache.down"), { w with cacheCalls := w.cacheCalls + 1 })
        else (.ok (w.cache.perform w.millis cmd).1, { w with
          cacheCalls := w.cacheCalls + 1, cache := (w.cache.perform w.millis cmd).2 }) := by
  rw [run_cache, World.perform, World.performCache]
  split
  · rfl
  · cases cmd with
    | swap key expected value lifetime => exact absurd rfl (hc key expected value lifetime)
    | _ => cases w.lostSwaps <;> rfl

@[simp] theorem run_require_ok {value : Option α} {e : Failure} {a : α} :
    ((require value e).run w).1 = .ok a ↔ value = some a := by
  cases value <;> simp [require, run]

@[simp] theorem run_require_world {value : Option α} {e : Failure} :
    ((require value e).run w).2 = w := by cases value <;> rfl

@[simp] theorem run_ensure_ok {condition : Bool} {e : Failure} {a : Unit} :
    ((ensure condition e).run w).1 = .ok a ↔ condition = true := by
  cases condition <;> simp [ensure, run]

@[simp] theorem run_ensure_world {condition : Bool} {e : Failure} :
    ((ensure condition e).run w).2 = w := by cases condition <;> rfl

end SignOn.Flow
