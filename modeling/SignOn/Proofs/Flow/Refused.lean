import SignOn.Network
import SignOn.Proofs.Flow.Readable
/-!
Calls that are refused. A call is refused if it fails for a cause that the client is told. Parts of
a call are of three kinds: some leave no trace at all (`Quiet`), some leave none if they are refused
(`Clean`), and some are never refused, whatever they do (`Firm`). A call is clean that consists of
such parts in this order.
-/

namespace SignOn

/-- A failure whose cause the client is told. -/
def Failure.IsRefusal (e : Failure) : Prop := e.kind ≠ .internal

instance (e : Failure) : Decidable e.IsRefusal := inferInstanceAs (Decidable (_ ≠ _))

/-- Senders report what goes wrong with them as failures inside the service. -/
structure Outside.ReportsInside (o : Outside) : Prop where
  mail : ∀ address code e, o.deliverMail address code = .error e → e.kind = .internal
  text : ∀ phone message e, o.deliverText phone message = .error e → e.kind = .internal

/-- The senders of a network do. -/
theorem Outside.reportsInside_through (o : Outside) (n : Network) (s : Settings) :
    (o.through n s).ReportsInside := by
  constructor
  · intro address code e he
    simp only [Outside.through, Mail.send] at he
    split at he
    · split at he <;> cases he
      rfl
    · cases he
  · intro phone message e he
    simp only [Outside.through, Sms.send] at he
    split at he
    · split at he
      · cases he
      · split at he
        · cases he
          rfl
        · split at he <;> cases he
          rfl
    · cases he

namespace World

/-- What is stored, what can be read from now on, and what was sent is the same. -/
structure Undisturbed (w w' : World) : Prop where
  millis : w'.millis = w.millis
  store : w'.store = w.store
  read : ∀ key later, w.millis ≤ later → w'.cache.read? later key = w.cache.read? later key
  mails : w'.mails = w.mails
  texts : w'.texts = w.texts

variable {w w' w'' : World}

theorem Undisturbed.refl (w : World) : w.Undisturbed w := ⟨rfl, rfl, fun _ _ _ => rfl, rfl, rfl⟩

theorem Undisturbed.trans (h : w.Undisturbed w') (h' : w'.Undisturbed w'') :
    w.Undisturbed w'' where
  millis := h'.millis.trans h.millis
  store := h'.store.trans h.store
  read key later hle := by
    rw [h'.read key later (by rwa [h.millis]), h.read key later hle]
  mails := h'.mails.trans h.mails
  texts := h'.texts.trans h.texts

/-- The cache holds no key twice, and senders report failures inside. -/
structure Orderly (w : World) : Prop where
  keyed : w.cache.Keyed
  senders : w.outside.ReportsInside

theorem Orderly.perform (h : w.Orderly) (act : Act) : (w.perform act).2.Orderly := by
  refine ⟨w.perform_keyed h.keyed act, ?_⟩
  rw [perform_outside]
  exact h.senders

/-- An act that leaves no trace: it only looks, or draws. -/
def IsQuiet : Act → Prop
  | .clock => True
  | .uuid => True
  | .code => True
  | .salt => True
  | .store (.createUser _) => False
  | .store (.createSession _) => False
  | .store (.updateSession _) => False
  | .store (.endSession ..) => False
  | .store _ => True
  | .cache (.get _) => True
  | _ => False

theorem IsQuiet.undisturbed {act : Act} (h : IsQuiet act) (hk : w.cache.Keyed) :
    w.Undisturbed (w.perform act).2 := by
  cases act with
  | store st =>
    cases st with
    | userById | userByIdCode | userByEmail | userByPhone | sessionByToken => exact .refl w
    | _ => exact h.elim
  | cache cmd =>
    cases cmd with
    | get key =>
      obtain ⟨lost, calls, answer, cache, he, hcases⟩ := w.performCache_cases (.get key)
      rw [he]
      refine ⟨rfl, rfl, ?_, rfl, rfl⟩
      rcases hcases with ⟨e, -, rfl⟩ | ⟨-, -, rfl⟩ | ⟨-, rfl⟩
      · exact fun _ _ _ => rfl
      · exact fun _ _ _ => rfl
      · exact ((Cache.Memory.Alike.refl hk).settle key).read
    | _ => exact h.elim
  | clock | uuid | code | salt => exact ⟨rfl, rfl, fun _ _ _ => rfl, rfl, rfl⟩
  | _ => exact h.elim

/-- A swap that does not take place leaves no trace, whoever it was lost to. -/
theorem undisturbed_of_lost (hk : w.cache.Keyed) {key : String} {expected : Option Bytes}
    {value : Bytes} {lifetime : Cache.Lifetime}
    (h : (w.perform (.cache (.swap key expected value lifetime))).1 = .ok false) :
    w.Undisturbed (w.perform (.cache (.swap key expected value lifetime))).2 := by
  obtain ⟨lost, calls, answer, cache, he, hcases⟩ :=
    w.performCache_cases (.swap key expected value lifetime)
  rw [he] at h ⊢
  refine ⟨rfl, rfl, ?_, rfl, rfl⟩
  rcases hcases with ⟨e, -, rfl⟩ | ⟨-, -, rfl⟩ | ⟨rfl, rfl⟩
  · exact fun _ _ _ => rfl
  · exact fun _ _ _ => rfl
  · have hanswer := Except.ok.inj h
    simp only [Cache.Memory.perform] at hanswer ⊢
    split at hanswer
    · cases hanswer
    · next hne =>
      rw [if_neg hne]
      exact ((Cache.Memory.Alike.refl hk).settle key).read

/-- Where a key is taken, nothing is set under it. -/
theorem undisturbed_of_taken {key : String} {value : Bytes} {lifetime : Cache.Lifetime}
    (h : (w.perform (.cache (.setIfAbsent key value lifetime))).1 = .ok false) :
    w.Undisturbed (w.perform (.cache (.setIfAbsent key value lifetime))).2 := by
  obtain ⟨hanswer, hcache⟩ := w.perform_cache_ok h fun _ _ _ _ hswap => by cases hswap
  obtain ⟨lost, calls, answer, cache, he, -⟩ :=
    w.performCache_cases (.setIfAbsent key value lifetime)
  rw [he] at hcache ⊢
  refine ⟨rfl, rfl, fun other later _ => ?_, rfl, rfl⟩
  simp only [Cache.Memory.perform] at hanswer hcache
  split at hanswer
  · next hread =>
    rw [hread] at hcache
    exact congrArg (Cache.Memory.read? · later other) hcache
  · cases hanswer

end World

namespace Flow

open World

variable {α β : Type} {w : World} {f : Flow α} {g : α → Flow β}

theorem run_orderly (h : w.Orderly) (f : Flow α) : (f.run w).2.Orderly := by
  induction f generalizing w with
  | done value => exact h
  | fail failure => exact h
  | step act next ih => exact ih _ (h.perform act)

/-- If the call is refused, it leaves no trace. -/
def LeavesNoTrace (f : Flow α) (w : World) : Prop :=
  ∀ e, (f.run w).1 = .error e → e.IsRefusal → w.Undisturbed (f.run w).2

/-- A call that leaves no trace, however it ends. -/
def Quiet (f : Flow α) : Prop := ∀ w : World, w.Orderly → w.Undisturbed (f.run w).2

/-- A call that leaves no trace if it is refused. -/
def Clean (f : Flow α) : Prop := ∀ w : World, w.Orderly → f.LeavesNoTrace w

/-- A call whose failures are all of a certain sort. -/
def FailsWith (P : Failure → Prop) (f : Flow α) : Prop :=
  ∀ w : World, w.Orderly → ∀ e, (f.run w).1 = .error e → P e

/-- A call that is never refused. -/
def Firm (f : Flow α) : Prop := f.FailsWith (·.kind = .internal)

/-! ## Parts that leave no trace -/

theorem quiet_of_acts (h : f.Acts IsQuiet) : f.Quiet := by
  intro w hw
  induction f generalizing w with
  | done value => exact .refl w
  | fail failure => exact .refl w
  | step act next ih =>
    exact (IsQuiet.undisturbed h.1 hw.keyed).trans (ih _ (h.2 _) _ (hw.perform act))

theorem Quiet.clean (h : f.Quiet) : f.Clean := fun w hw _ _ _ => h w hw

/-- A quiet part comes first. -/
theorem Quiet.then (hf : f.Quiet) (hg : ∀ a, (g a).Clean) : (f >>= g).Clean := by
  intro w hw e he href
  rcases run_bind_cases f g w with ⟨e', -, hrun⟩ | ⟨a, -, hrun⟩
  · rw [hrun]
    exact hf w hw
  · rw [hrun] at he ⊢
    exact (hf w hw).trans (hg a _ (run_orderly hw f) e he href)

theorem quiet_then (hf : f.Acts IsQuiet) (hg : ∀ a, (g a).Clean) : (f >>= g).Clean :=
  (quiet_of_acts hf).then hg

/-! ## Parts that are not refused -/

theorem Firm.clean (h : f.Firm) : f.Clean := fun w hw e he href => absurd (h w hw e he) href

/-- Behind a clean part, nothing is refused any more. -/
theorem Clean.then (hf : f.Clean) (hg : ∀ a, (g a).Firm) : (f >>= g).Clean := by
  intro w hw e he href
  rcases run_bind_cases f g w with ⟨e', he', hrun⟩ | ⟨a, -, hrun⟩
  · rw [hrun] at he ⊢
    cases he
    exact hf w hw _ he' href
  · rw [hrun] at he
    exact absurd (hg a _ (run_orderly hw f) e he) href

theorem FailsWith.bind {P : Failure → Prop} (hf : f.FailsWith P) (hg : ∀ a, (g a).FailsWith P) :
    (f >>= g).FailsWith P := by
  intro w hw e he
  rcases run_bind_cases f g w with ⟨e', he', hrun⟩ | ⟨a, -, hrun⟩
  · rw [hrun] at he
    cases he
    exact hf w hw _ he'
  · rw [hrun] at he
    exact hg a _ (run_orderly hw f) e he

theorem failsWith_pure (P : Failure → Prop) (a : α) : (pure a : Flow α).FailsWith P :=
  fun _ _ _ he => by cases he

theorem failsWith_ensure {P : Failure → Prop} {condition : Bool} {e : Failure} (h : P e) :
    (ensure condition e).FailsWith P := by
  intro w _ e' he
  cases condition with
  | true => cases he
  | false => cases he; exact h

theorem failsWith_require {P : Failure → Prop} {value : Option α} {e : Failure} (h : P e) :
    (require value e).FailsWith P := by
  intro w _ e' he
  cases value with
  | some a => cases he
  | none => cases he; exact h

/-- A cache command fails only if the cache does. -/
theorem command_fails {P : Failure → Prop} (cmd : Cache.Command) (h : P (.cache "cache.down")) :
    (Flow.cache cmd).FailsWith P := by
  intro w _ e he
  rw [run_cache, perform, performCache] at he
  dsimp only at he
  split at he
  · cases he
    exact h
  · revert he
    cases w.lostSwaps <;> cases cmd <;> exact fun he => by cases he

theorem command_firm (cmd : Cache.Command) : (Flow.cache cmd).Firm := command_fails cmd rfl

/-- Only an account that is stored can be refused. -/
theorem statement_fails {P : Failure → Prop} {st : Store.Statement}
    (h : ∀ new, st ≠ .createUser new) : (Flow.store st).FailsWith P := by
  intro w _ e he
  rw [run_store] at he
  cases st with
  | createUser new => exact absurd rfl (h new)
  | _ => cases he

/-- An account that is not stored leaves no trace. -/
theorem creation_clean (new : NewUser) : (Flow.store (.createUser new)).Clean := by
  intro w _ e he _
  rw [run_store] at he ⊢
  simp only [perform, performStore, Store.Memory.perform, Store.Memory.createUser] at he ⊢
  split at he
  · next hconflict =>
    rw [if_pos hconflict]
    exact .refl w
  · cases he

end Flow
end SignOn
