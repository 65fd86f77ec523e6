import SignOn.Proofs.Account.Founding
import SignOn.Proofs.Account.Uniqueness
/-!
Where accounts come from. Whatever calls run at the same time, every account in the store was stored
by one of them as it is, but for its being in service (`exists_registers`), and that call had what
it takes: so somebody has signed up with a password, whose hash the account holds, or has come
through the provider, and then the account holds none (`origin`).
-/

namespace SignOn.Account

open SignOn.Verification

variable {s : Setup} {w : World} {user : User} {password : String}
  {start now : System Call.Value} {t : Thread Call.Value}

/-! ## Who stored an account -/

/-- A new account is in service. -/
theorem registered_of_event {act : Act} {new : NewUser}
    (h : w.event act = ⟨.store (.createUser new), .ok user⟩) : user.registered = user := by
  have hfaithful := faithful_event w act
  rw [h] at hfaithful
  have hservice : user.deletedAt = none := by simpa [User.isDeleted] using hfaithful.1
  rw [User.registered, ← hservice]

/-- Every account was stored by a call. -/
theorem exists_registers (ho : Opens s start) (hr : System.Reaches Turns start now)
    (hu : user ∈ now.world.store.users) :
    ∃ t ∈ now.threads, Registers t.past (asNew user) user.registered := by
  induction hr generalizing user with
  | refl =>
    rw [ho.store] at hu
    cases hu
  | tail _ hstep ih =>
    cases hstep with
    | act hi =>
      rcases registered_perform hu with hold | hnew
      · obtain ⟨t, ht, hreg⟩ := ih hold
        obtain ⟨t', ht', -, hsub⟩ := System.exists_after hi ht
        exact ⟨t', ht', hsub hreg⟩
      · obtain ⟨hlt, -⟩ := List.getElem?_eq_some_iff.1 hi
        refine ⟨_, List.mem_of_getElem? (List.getElem?_set_self hlt), ?_⟩
        rw [registered_of_event hnew, Registers, hnew]
        exact List.mem_append_right _ List.mem_cons_self
    | drift hd =>
      have hroster := Store.Memory.known_of_mem hu
      rw [Store.Memory.Known, hd.roster] at hroster
      obtain ⟨old, hold, he⟩ := List.mem_map.1 hroster
      obtain ⟨t, ht, hreg⟩ := ih hold
      have hnew : asNew old.registered = asNew user.registered := congrArg asNew he
      change asNew old = asNew user at hnew
      rw [hnew, he] at hreg
      exact ⟨t, ht, hreg⟩

/-- Calls do what they may do, in any interleaving. -/
theorem allowed_of_reaches (ho : Opens s start) (hr : System.Reaches Turns start now) :
    ∀ t ∈ now.threads, t.Allowed (MayDo s) := by
  refine hr.allowed (R := Timely) (Q := Concludes) (fun mid hmid => ?_) fun t ht => ?_
  · refine (hmid.follows (W := fun _ => True) trivial (fun t ht => ?_)
      (fun w _ _ act _ _ => ⟨trivial, timely_event w act⟩) fun _ _ _ _ => trivial).2
    obtain ⟨k, rfl⟩ := ho.calls t ht
    exact flow_founds s k
  · obtain ⟨k, rfl⟩ := ho.calls t ht
    exact Thread.allowed_start _ _ k

/-- What a call has found before it stored an account. -/
theorem founds_of_registers (ho : Opens s start) (hr : System.Reaches Turns start now)
    (ht : t ∈ now.threads) {new : NewUser} (h : Registers t.past new user) :
    ∃ pre, pre ⊆ t.past ∧ Founds s pre new t.call := by
  obtain ⟨pre, post, hsplit⟩ := List.append_of_mem h
  refine ⟨pre, hsplit ▸ List.subset_append_left _ _, ?_⟩
  exact allowed_of_reaches ho hr t ht pre _ post hsplit

/-! ## Kinds of origin -/

/-- Somebody has opened an account by signing up with a password. -/
def SignedUp (now : System Call.Value) (user : User) (password : String) : Prop :=
  ∃ t ∈ now.threads, ∃ request ip, t.call = .signUp request ip ∧ request.password = password ∧
    Registers t.past (asNew user) user.registered

/-- Somebody has opened an account behind a profile of the provider, in a browser or on a device. -/
def CameThrough (now : System Call.Value) (user : User) : Prop :=
  ∃ t ∈ now.threads, ((∃ state code ip, t.call = .callback state code ip) ∨
    ∃ request ip, t.call = .complete request ip) ∧ Registers t.past (asNew user) user.registered

/-- Every account has one of the two origins. -/
theorem origin (ho : Opens s start) (hr : System.Reaches Turns start now)
    (hu : user ∈ now.world.store.users) :
    (∃ password, SignedUp now user password) ∨ CameThrough now user := by
  obtain ⟨t, ht, hreg⟩ := exists_registers ho hr hu
  obtain ⟨pre, -, hfounds⟩ := founds_of_registers ho hr ht hreg
  cases hcall : t.call with
  | signUp request ip => exact .inl ⟨request.password, t, ht, request, ip, hcall, rfl, hreg⟩
  | callback state code ip => exact .inr ⟨t, ht, .inl ⟨state, code, ip, hcall⟩, hreg⟩
  | complete request ip => exact .inr ⟨t, ht, .inr ⟨request, ip, hcall⟩, hreg⟩
  | _ =>
    rw [hcall] at hfounds
    exact hfounds.elim

/-- Who has signed up has a hash of the password, made with a salt that was drawn for it. -/
theorem SignedUp.hashed (ho : Opens s start) (hr : System.Reaches Turns start now)
    (h : SignedUp now user password) : ∃ t ∈ now.threads, ∃ request ip salt,
      t.call = .signUp request ip ∧ request.password = password ∧ ⟨.salt, salt⟩ ∈ t.past ∧
        s.suite.hashPassword salt password = .ok user.passwordHash := by
  obtain ⟨t, ht, request, ip, hcall, rfl, hreg⟩ := h
  obtain ⟨pre, hsub, hfounds⟩ := founds_of_registers ho hr ht hreg
  rw [hcall] at hfounds
  obtain ⟨-, -, salt, hsalt, hhash⟩ := hfounds
  exact ⟨t, ht, request, ip, salt, hcall, rfl, hsub hsalt, hhash⟩

/-- Who has come through the provider has no password. -/
theorem CameThrough.hasPassword (ho : Opens s start) (hr : System.Reaches Turns start now)
    (h : CameThrough now user) : user.hasPassword = false := by
  obtain ⟨t, ht, hcall, hreg⟩ := h
  obtain ⟨pre, -, hfounds⟩ := founds_of_registers ho hr ht hreg
  have hhash : user.passwordHash = "" := by
    rcases hcall with ⟨state, code, ip, hcall⟩ | ⟨request, ip, hcall⟩ <;>
      · rw [hcall] at hfounds
        exact hfounds.2.1
  rw [User.hasPassword, hhash]
  rfl

end SignOn.Account
