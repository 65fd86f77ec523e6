import SignOn.Proofs.Flow.World
import SignOn.Setup
/-!
What calls can read. A cache also holds entries that are dead already, and it drops them at odd
moments. Two worlds that differ in such entries only are alike: no call tells them apart, now or
later (`run_alike`). And a call that keeps to some keys leaves what is read under all others
(`read?_run_of_acts`).
-/

namespace SignOn

namespace Cache.Memory

variable {c c' : Memory} {now : Int}

/-- From now on, the same is read in both caches, under every key. -/
structure Alike (now : Int) (c c' : Memory) : Prop where
  keyed : c.Keyed
  keyed' : c'.Keyed
  read : ∀ key later, now ≤ later → c'.read? later key = c.read? later key

theorem Alike.refl (h : c.Keyed) : Alike now c c := ⟨h, h, fun _ _ _ => rfl⟩

/-- A look is not seen by anyone. -/
theorem Alike.settle (h : Alike now c c') (key : String) : Alike now c (c'.settle now key) where
  keyed := h.keyed
  keyed' := h.keyed'.settle
  read other later hle := by
    rw [← h.read other later hle]
    by_cases hk : other = key
    · rw [hk]; exact read?_settle_of_le hle
    · rw [read?_eq, find?_settle_ne hk, read?_eq]

theorem Alike.later (h : Alike now c c') {later : Int} (hle : now ≤ later) : Alike later c c' :=
  ⟨h.keyed, h.keyed', fun key _ ht => h.read key _ (Int.le_trans hle ht)⟩

theorem Alike.symm (h : Alike now c c') : Alike now c' c :=
  ⟨h.keyed', h.keyed, fun key later hle => (h.read key later hle).symm⟩

theorem Alike.write (h : Alike now c c') (key : String) (value : Bytes)
    (lifetime : Option Lifetime) :
    Alike now (c.write now key value lifetime) (c'.write now key value lifetime) where
  keyed := h.keyed.write _ _
  keyed' := h.keyed'.write _ _
  read other later hle := by
    by_cases hk : other = key
    · rw [hk, read?_eq, read?_eq, find?_write_self, find?_write_self]
    · have hread := h.read other later hle
      rw [read?_eq, read?_eq] at hread
      rw [read?_eq, read?_eq, find?_write_ne h.keyed hk, find?_write_ne h.keyed' hk,
        alive_alive hle, alive_alive hle, hread]

theorem Alike.erase (h : Alike now c c') (key : String) :
    Alike now (c.erase key) (c'.erase key) where
  keyed := h.keyed.erase
  keyed' := h.keyed'.erase
  read other later hle := by
    by_cases hk : other = key
    · rw [hk, read?_eq, read?_eq, find?_erase_self, find?_erase_self]
    · have hread := h.read other later hle
      rw [read?_eq, read?_eq] at hread
      rw [read?_eq, read?_eq, find?_erase_ne hk, find?_erase_ne hk, hread]

/-- Both caches give the same answer to a command, and stay alike. -/
theorem Alike.perform (h : Alike now c c') (cmd : Command) :
    (c'.perform now cmd).1 = (c.perform now cmd).1 ∧
      Alike now (c.perform now cmd).2 (c'.perform now cmd).2 := by
  have hread (key : String) : c'.read? now key = c.read? now key := h.read key now (Int.le_refl _)
  have hsettle (key : String) : Alike now (c.settle now key) (c'.settle now key) :=
    ((h.settle key).symm.settle key).symm
  cases cmd with
  | get key => exact ⟨hread key, hsettle key⟩
  | set key value lifetime => exact ⟨rfl, h.write key value lifetime⟩
  | delete key => exact ⟨rfl, h.erase key⟩
  | setIfAbsent key value lifetime =>
    simp only [Memory.perform, hread key]
    split
    · exact ⟨rfl, h⟩
    · exact ⟨rfl, h.write key value _⟩
  | swap key expected value lifetime =>
    simp only [Memory.perform, hread key]
    split
    · exact ⟨rfl, h.write key value _⟩
    · exact ⟨rfl, hsettle key⟩
  | ping => exact ⟨rfl, h⟩

end Cache.Memory

/-! ## Worlds -/

namespace World

variable {w w' : World}

/-- Worlds that no call tells apart, as long as the cache is up: they differ in dead entries of the
cache, and in how many commands it was given. -/
structure Alike (w w' : World) : Prop where
  same : w' = { w with cache := w'.cache, cacheCalls := w'.cacheCalls }
  up : ∀ n, w.outside.cacheFails n = false
  cache : w.cache.Alike w.millis w'.cache

/-- Both worlds give the same answer to an act, and stay alike. -/
theorem Alike.perform (h : Alike w w') (act : Act) :
    (w'.perform act).1 = (w.perform act).1 ∧ Alike (w.perform act).2 (w'.perform act).2 := by
  obtain ⟨hsame, hup, hcache⟩ := h
  generalize w'.cache = cache, w'.cacheCalls = calls at hsame hcache
  subst hsame
  cases act with
  | cache cmd =>
    obtain ⟨hanswer, halike⟩ := hcache.perform cmd
    simp only [World.perform, World.performCache, hup]
    cases w.lostSwaps with
    | zero => exact ⟨congrArg Except.ok hanswer, rfl, hup, halike⟩
    | succ lost =>
      -- Of the commands, only a swap can be lost to others.
      cases cmd with
      | swap key expected value lifetime => exact ⟨rfl, rfl, hup, hcache⟩
      | _ => exact ⟨congrArg Except.ok hanswer, rfl, hup, halike⟩
  | exchange code =>
    simp only [World.perform]
    split <;> exact ⟨rfl, rfl, hup, hcache⟩
  | mail address code =>
    simp only [World.perform]
    split <;> exact ⟨rfl, rfl, hup, hcache⟩
  | text phone message =>
    simp only [World.perform]
    split <;> exact ⟨rfl, rfl, hup, hcache⟩
  | _ => exact ⟨rfl, rfl, hup, hcache⟩

end World

namespace Flow

variable {α : Type} {w w' : World}

/-- No call tells worlds apart that are alike. -/
theorem run_alike (h : w.Alike w') (f : Flow α) :
    (f.run w').1 = (f.run w).1 ∧ (f.run w).2.Alike (f.run w').2 := by
  induction f generalizing w w' with
  | done value => exact ⟨rfl, h⟩
  | fail failure => exact ⟨rfl, h⟩
  | step act next ih =>
    obtain ⟨hanswer, halike⟩ := h.perform act
    obtain ⟨hresult, hworld⟩ := ih (w.perform act).1 halike
    simp only [run, hanswer]
    exact ⟨hresult, hworld⟩

@[simp] theorem run_outside (f : Flow α) : (f.run w).2.outside = w.outside := by
  induction f generalizing w with
  | done value => rfl
  | fail failure => rfl
  | step act next ih => exact (ih _).trans (w.perform_outside act)

theorem run_keyed (h : w.cache.Keyed) (f : Flow α) : (f.run w).2.cache.Keyed := by
  induction f generalizing w with
  | done value => exact h
  | fail failure => exact h
  | step act next ih => exact ih _ (w.perform_keyed h act)

/-- A call that keeps to other keys leaves what is read under this one. -/
theorem read?_run_of_acts (h : w.cache.Keyed) {key : String} {f : Flow α}
    (hf : f.Acts fun act => ∀ cmd, act = .cache cmd → cmd.key? ≠ some key) {later : Int}
    (hle : w.millis ≤ later) : (f.run w).2.cache.read? later key = w.cache.read? later key := by
  induction f generalizing w with
  | done value => rfl
  | fail failure => rfl
  | step act next ih =>
    have hread : (w.perform act).2.cache.read? later key = w.cache.read? later key := by
      cases act with
      | cache cmd =>
        obtain ⟨lost, calls, answer, cache, he, hr⟩ := w.performCache_cases cmd
        rw [he]
        rcases hr with ⟨e, -, rfl⟩ | ⟨-, -, rfl⟩ | ⟨-, rfl⟩
        · rfl
        · rfl
        · exact Cache.Memory.read?_perform_of_key_ne h (hf.1 cmd rfl) hle
      | _ => rw [World.perform_cache_eq _ (by intro cmd hc; cases hc)]
    rw [← hread]
    exact ih _ (w.perform_keyed h act) (hf.2 _) (by rw [World.perform_millis]; exact hle)

end Flow
end SignOn
