import Mathlib.Data.List.Induction
import SignOn.Proofs.Account.Reachable
import SignOn.Proofs.Sample
/-!
Accounts, whatever calls run at the same time, whatever fails, and whoever goes out of service. That
an email or a phone is free is looked up long before the account is stored, so the lookup promises
nothing: it is the store that refuses the second of two accounts. No two accounts share an email or
a phone, and of calls that race for one of them, one succeeds at most: `accounts_kept`.
-/

namespace SignOn.Account

variable {s : Setup} {w : World} {user : User}

/-! ## Kinds of accounts -/

/-- No password is stored as the empty text. -/
def StoresPasswords (s : Setup) : Prop :=
  ∀ salt password hash, s.suite.hashPassword salt password = .ok hash → hash ≠ ""

theorem print_ne_nil (input : Crypto.Argon2.Input) (digest : Bytes) :
    Password.Stored.print input digest ≠ [] := by
  unfold Password.Stored.print
  exact List.append_ne_nil_of_right_ne_nil _ (List.cons_ne_nil _ _)

theorem storesPasswords_standard (s : Setup) (h : s.suite = Crypto.Suite.standard) :
    StoresPasswords s := by
  intro salt password hash hhash hempty
  rw [h] at hhash
  change Password.hash salt password = .ok hash at hhash
  dsimp only [Password.hash] at hhash
  split at hhash
  · next digest _ =>
    have hprint := congrArg String.toList ((Except.ok.inj hhash).trans hempty)
    rw [String.toList_ofList] at hprint
    exact print_ne_nil _ digest hprint
  · cases hhash

/-- An account has a password, an email and a phone, or it came through Google with an email that
is proven. -/
structure IsKind (user : User) : Prop where
  provider : user.provider = .email ∨ user.provider = .google
  password : user.hasPassword = true ↔ user.provider = .email
  byEmail : user.provider = .email →
    user.email.isSome = true ∧ user.phone.isSome = true ∧ user.activated = false
  byGoogle : user.provider = .google →
    user.email.isSome = true ∧ user.hasPassword = false ∧ user.activated = true

theorem IsRegular.isKind (hs : StoresPasswords s) (h : IsRegular s (asNew user)) :
    IsKind user := by
  rcases h with ⟨hprovider, hemail, hphone, hactivated, salt, password, hhash⟩ |
    ⟨hprovider, hemail, hactivated, hhash⟩
  · change user.provider = .email at hprovider
    have hne : user.passwordHash ≠ "" := hs salt password _ hhash
    have hpassword : user.hasPassword = true := by simpa [User.hasPassword] using hne
    refine ⟨.inl hprovider, iff_of_true hpassword hprovider, fun _ => ⟨hemail, hphone, hactivated⟩,
      fun hgoogle => ?_⟩
    rw [hprovider] at hgoogle
    cases hgoogle
  · change user.provider = .google at hprovider
    change user.passwordHash = "" at hhash
    have hpassword : user.hasPassword = false := by simp [User.hasPassword, hhash]
    have hne : user.provider ≠ .email := by rw [hprovider]; intro he; cases he
    refine ⟨.inr hprovider, iff_of_false (by simp [hpassword]) hne, fun he => absurd he hne,
      fun _ => ⟨hemail, hpassword, hactivated⟩⟩

/-! ## Calls that store accounts -/

/-- A call has tried to store an account. -/
def Tries (past : List Event) (new : NewUser) : Prop :=
  ∃ answer, ⟨.store (.createUser new), answer⟩ ∈ past

/-- Two new accounts share an email or a phone. -/
def Clash (new other : NewUser) : Prop :=
  (∃ email, new.email = some email ∧ other.email = some email) ∨
    ∃ phone, new.phone = some phone ∧ other.phone = some phone

/-- A call has stored an account. -/
def HasStored (sys : System Call.Value) (i : Nat) (user : User) : Prop :=
  ∃ t, sys.threads[i]? = some t ∧ ∃ new, Registers t.past new user

/-- An act leaves the accounts as they are, or stores one more. -/
theorem users_perform (w : World) (act : Act) :
    (w.perform act).2.store.users = w.store.users ∨
      isCreation act = true ∧ ∃ user, (w.perform act).2.store.users = w.store.users ++ [user] := by
  cases act with
  | store st =>
    cases st with
    | createUser new =>
      change (w.store.createUser new w.instant).2.users = _ ∨
        _ ∧ ∃ user, (w.store.createUser new w.instant).2.users = _
      rcases Store.Memory.createUser_cases w.store new w.instant with he | ⟨he, -⟩
      · rw [he]; exact .inl rfl
      · rw [he]; exact .inr ⟨rfl, _, rfl⟩
    | createSession new => exact .inl (Store.Memory.users_createSession new)
    | _ => exact .inl rfl
  | _ => rw [w.perform_store_eq (by intro st hst; cases hst)]; exact .inl rfl

/-- Every account was there before an act, or the act has stored it as it is. -/
theorem registered_perform {act : Act} (h : user ∈ (w.perform act).2.store.users) :
    user ∈ w.store.users ∨ w.event act = ⟨.store (.createUser (asNew user)), .ok user⟩ := by
  rcases users_perform w act with he | ⟨hcreation, -⟩
  · exact .inl (he ▸ h)
  · cases act with
    | store st =>
      cases st with
      | createUser new =>
        change user ∈ (w.store.createUser new w.instant).2.users at h
        change _ ∨ (⟨.store (.createUser new), (w.store.createUser new w.instant).1⟩ : Event) = _
        rcases Store.Memory.createUser_cases w.store new w.instant with he | ⟨he, -⟩
        · exact .inl (by rw [he] at h; exact h)
        · rw [he] at h ⊢
          rcases List.mem_append.1 h with h | h
          · exact .inl h
          · rw [List.mem_singleton] at h
            subst h
            exact .inr rfl
      | _ => cases hcreation
    | _ => cases hcreation

/-- An account that a call has stored after an act, it had stored before, or the act has stored it
under a new number. -/
theorem hasStored_after {sys : System Call.Value} {i : Nat} {k : Call} {past : List Event}
    {act : Act} {next : act.Answer → Flow k.Value}
    (hi : sys.threads[i]? = some ⟨k, past, .step act next⟩) {j : Nat}
    (h : HasStored (sys.after i k past act next) j user) :
    HasStored sys j user ∨ (j = i ∧ ∀ other ∈ sys.world.store.users, other.id ≠ user.id) := by
  obtain ⟨t, ht, new, hnew⟩ := h
  by_cases hj : i = j
  · subst hj
    obtain ⟨hlt, -⟩ := List.getElem?_eq_some_iff.1 hi
    rw [System.after, List.getElem?_set_self hlt, Option.some.injEq] at ht
    subst ht
    rcases List.mem_append.1 hnew with hnew | hnew
    · exact .inl ⟨_, hi, new, hnew⟩
    · rw [List.mem_singleton] at hnew
      refine .inr ⟨rfl, fun other ho => ?_⟩
      obtain rfl : act = .store (.createUser new) := (congrArg Event.act hnew).symm
      have hanswer : (sys.world.store.createUser new sys.world.instant).1 = .ok user :=
        (eq_of_heq (Event.mk.inj hnew).2).symm
      rcases Store.Memory.createUser_cases sys.world.store new sys.world.instant with
        he | ⟨he, -⟩
      · rw [he] at hanswer; cases hanswer
      · rw [he] at hanswer
        obtain rfl := Except.ok.inj hanswer
        exact Store.Memory.id_accountFor_ne ho
  · rw [System.after, List.getElem?_set_ne hj] at ht
    exact .inl ⟨t, ht, new, hnew⟩

section
variable {start now : System Call.Value}

theorem keeps_of_opens (ho : Opens s start) (hr : System.Reaches Turns start now) :
    Ledger s (fun _ => True) now.world.store ∧
      ∀ t ∈ now.threads, Keeps s (fun _ => True) now.world.store t :=
  keeps_of_reaches (fun _ _ hd => ⟨hd, trivial⟩) ho.calls (ho.store ▸ ledger_empty s _) trivial hr

/-- Two calls never store the same account. -/
theorem stored_apart (ho : Opens s start) (hr : System.Reaches Turns start now) {i j : Nat}
    {a b : User} (hij : i ≠ j) (ha : HasStored now i a) (hb : HasStored now j b) : a.id ≠ b.id := by
  induction hr generalizing i j a b with
  | refl =>
    obtain ⟨t, ht, new, hnew⟩ := ha
    obtain ⟨k, rfl⟩ := ho.calls t (List.mem_of_getElem? ht)
    exact absurd hnew List.not_mem_nil
  | @tail mid _ hmid hstep ih =>
    obtain ⟨-, hkeeps⟩ := keeps_of_opens ho hmid
    have hknown {i : Nat} {a : User} (ha : HasStored mid i a) :
        ∃ stored ∈ mid.world.store.users, stored.id = a.id := by
      obtain ⟨t, ht, new, hnew⟩ := ha
      have hconfirmed := (hkeeps t (List.mem_of_getElem? ht)).confirmed _ hnew
      obtain ⟨stored, hs, hid, -⟩ := (hconfirmed.user a rfl).stored
      exact ⟨stored, hs, hid⟩
    cases hstep with
    | act hi =>
      rcases hasStored_after hi ha with ha | ⟨hia, hnew⟩
      · rcases hasStored_after hi hb with hb | ⟨-, hnew⟩
        · exact ih hij ha hb
        · obtain ⟨stored, hs, hid⟩ := hknown ha
          exact hid ▸ hnew stored hs
      · rcases hasStored_after hi hb with hb | ⟨hib, -⟩
        · obtain ⟨stored, hs, hid⟩ := hknown hb
          exact hid ▸ (hnew stored hs).symm
        · exact absurd (hia.trans hib.symm) hij
    | drift _ => exact ih hij ha hb

/-! ## The invariant -/

/-- What holds of the accounts at all times, and what calls do to them. -/
structure AccountsKept (s : Setup) (now : System Call.Value) : Prop where
  unique : now.world.store.Unique
  kinds : ∀ user ∈ now.world.store.users, IsKind user
  /-- The next act of a call leaves the accounts as they are, or stores one more. -/
  appends : ∀ t ∈ now.threads, ∀ act next, t.rest = .step act next →
    (now.world.perform act).2.store.users = now.world.store.users ∨
      isCreation act = true ∧
        ∃ user, (now.world.perform act).2.store.users = now.world.store.users ++ [user]
  /-- A call tries to store an account once at most. -/
  single : ∀ t ∈ now.threads, t.past.countP (isCreation ·.act) ≤ 1
  /-- Of two calls that try to store accounts of one email or one phone, one succeeds at most. -/
  once : ∀ (i j : Nat) t t', i ≠ j → now.threads[i]? = some t → now.threads[j]? = some t' →
    ∀ new other, Tries t.past new → Tries t'.past other → Clash new other →
      ¬ (t.succeeded = true ∧ t'.succeeded = true)
  /-- A call that has signed somebody up has stored the account that it was asked for. -/
  registers : ∀ t ∈ now.threads, t.succeeded = true → t.call.HasRegistered t.past

variable {t : Thread Call.Value} {P : Int → Prop} {store : Store.Memory}

theorem Keeps.ends (h : Keeps s P store t) (ht : t.succeeded = true) :
    Unrefused t.past ∧ t.call.HasRegistered t.past := by
  obtain ⟨answer, hanswer⟩ := t.exists_of_succeeded ht
  have hends := h.course.end hanswer answer rfl
  exact ⟨hends.unrefused, hends.registered⟩

/-- What a call that has succeeded has tried to store, it has stored. -/
theorem Keeps.registers (h : Keeps s P store t) (ht : t.succeeded = true) {new : NewUser}
    (htry : Tries t.past new) : ∃ user, Registers t.past new user ∧ store.Known user ∧
      user.email = new.email ∧ user.phone = new.phone := by
  obtain ⟨answer, hanswer⟩ := htry
  cases answer with
  | error e => exact absurd hanswer ((h.ends ht).1 new e)
  | ok user =>
    have hconfirmed := h.confirmed _ hanswer
    exact ⟨user, hanswer, hconfirmed.user user rfl, hconfirmed.faithful.2⟩

theorem Permitted.untried {k : Call} {past : List Event} {act : Act} (h : Permitted s k past act)
    (hc : isCreation act = true) : Untried past := by
  unfold isCreation at hc
  split at hc
  · exact h.2
  · cases hc

/-- A call tries to store an account once at most, since it may do so only before it has tried. -/
theorem countP_le_one {k : Call} {past : List Event}
    (h : ∀ pre e post, past = pre ++ e :: post → Permitted s k pre e.act) :
    past.countP (isCreation ·.act) ≤ 1 := by
  induction past using List.reverseRec with
  | nil => exact Nat.zero_le 1
  | append_singleton past e ih =>
    have hpast : past.countP (isCreation ·.act) ≤ 1 :=
      ih fun pre x post he => h pre x (post ++ [e]) (by rw [he]; simp)
    rw [List.countP_append, List.countP_singleton]
    split
    · next he =>
      have hwarranted := h past e [] rfl
      have huntried : Untried past := hwarranted.untried he
      rw [List.countP_eq_zero.2 fun x hx => by simp [huntried x hx]]
    · exact hpast

/-- Two calls that try to store accounts of one email or one phone do not both succeed. -/
theorem not_both_succeeded (ho : Opens s start) (hr : System.Reaches Turns start now) {i j : Nat}
    {t t' : Thread Call.Value} (hij : i ≠ j) (hi : now.threads[i]? = some t)
    (hj : now.threads[j]? = some t') {new other : NewUser} (htry : Tries t.past new)
    (htry' : Tries t'.past other) (hclash : Clash new other) :
    ¬ (t.succeeded = true ∧ t'.succeeded = true) := by
  rintro ⟨hsucceeded, hsucceeded'⟩
  obtain ⟨hl, hkeeps⟩ := keeps_of_opens ho hr
  obtain ⟨a, ha, hka, hae, hap⟩ := (hkeeps t (List.mem_of_getElem? hi)).registers hsucceeded htry
  obtain ⟨b, hb, hkb, hbe, hbp⟩ :=
    (hkeeps t' (List.mem_of_getElem? hj)).registers hsucceeded' htry'
  have hne : a.id ≠ b.id := stored_apart ho hr hij ⟨t, hi, new, ha⟩ ⟨t', hj, other, hb⟩
  obtain ⟨x, hx, hxid, -, hxe, hxp⟩ := hka.stored
  obtain ⟨y, hy, hyid, -, hye, hyp⟩ := hkb.stored
  have hxy : x = y := by
    rcases hclash with ⟨email, hn, ho⟩ | ⟨phone, hn, ho⟩
    · exact hl.unique.eq_of_email hx hy (hxe.trans (hae.trans hn)) (hye.trans (hbe.trans ho))
    · exact hl.unique.eq_of_phone hx hy (hxp.trans (hap.trans hn)) (hyp.trans (hbp.trans ho))
  rw [← hxid, ← hyid, hxy] at hne
  exact hne rfl

/-- However calls race and fail, the accounts are kept. -/
theorem accounts_kept (hs : StoresPasswords s) (ho : Opens s start)
    (hr : System.Reaches Turns start now) : AccountsKept s now := by
  obtain ⟨hl, hkeeps⟩ := keeps_of_opens ho hr
  constructor
  case unique => exact hl.unique
  case kinds =>
    intro user hu
    have hregular : IsRegular s (asNew user.registered) := hl.regular _ (List.mem_map_of_mem hu)
    exact IsRegular.isKind hs hregular
  case appends =>
    intro t _ act _ _
    exact users_perform now.world act
  case single =>
    intro t ht
    exact countP_le_one (hkeeps t ht).allowed
  case once =>
    intro i j t t' hij hi hj new other htry htry' hclash
    exact not_both_succeeded ho hr hij hi hj htry htry' hclash
  case registers =>
    intro t ht hsucceeded
    exact ((hkeeps t ht).ends hsucceeded).2

end

/-- A newcomer comes back from Google in two windows. -/
def newcomers : System Call.Value where
  world := Sample.world
  threads := [.redirect (Sample.uuid 7).text, .redirect (Sample.uuid 8).text,
    .callback (Sample.uuid 7).text "one" "10.0.0.1",
    .callback (Sample.uuid 8).text "two" "10.0.0.2"].map (Thread.start (Call.flow Sample.setup))

/-- Both callbacks find that the email is free before either stores an account. -/
def bothFindFree : List Nat :=
  List.replicate 2 0 ++ List.replicate 2 1 ++ List.replicate 7 2 ++ List.replicate 7 3 ++
    List.replicate 9 2 ++ List.replicate 9 3

theorem opens_newcomers : Opens Sample.setup newcomers := ⟨rfl, rfl, fresh_of_calls rfl⟩

theorem accounts_kept_newcomers :
    AccountsKept Sample.setup (newcomers.schedule bothFindFree) ∧
      StoresPasswords Sample.setup ∧
      (newcomers.schedule bothFindFree).threads.countP (·.past.any (isCreation ·.act)) = 2 ∧
      (newcomers.schedule bothFindFree).threads.map (·.succeeded) = [true, true, true, false] := by
  have hstores : StoresPasswords Sample.setup := storesPasswords_standard _ rfl
  refine ⟨accounts_kept hstores opens_newcomers ?_, hstores, by decide +kernel, by decide +kernel⟩
  exact System.reaches_schedule _ _ _

end SignOn.Account
