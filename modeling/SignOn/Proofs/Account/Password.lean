import SignOn.Proofs.Account.Isolation
import SignOn.Proofs.Account.Origin
import SignOn.Proofs.Flow.Readable
import SignOn.Proofs.Password.Stored
/-!
Signing in with an email and a password, exactly. Accounts never change but for going out of
service, so the account that holds an email holds the password hash with which it was opened, or
none: what a sign-in answers depends on who opened the account, and how, and on its being in
service (`signIn_exact`).
-/

namespace SignOn.Account

open SignOn.Keyspace SignOn.Session

variable {s : Setup} {w : World} {user : User} {email password ip : String} {e : Failure}
  {request : SignInRequest}

/-! ## What a sign-in finds -/

/-- What becomes of a sign-in with a password at an account. -/
def judge (s : Setup) (user : User) (password : String) : Except Failure Unit :=
  if user.hasPassword then
    match s.suite.verifyPassword user.passwordHash password with
    | .ok () => if user.isDeleted then .error .inactiveUser else .ok ()
    | .error e => .error e
  else .error .mustUseGoogle

/-- A request to sign in with an email and a password that keeps all rules. -/
structure WithPassword (s : Setup) (request : SignInRequest) (email password : String) :
    Prop where
  provider : request.provider = .email
  email_eq : request.email = some email
  password_eq : request.password = some password
  password_ne : password ≠ ""
  valid : request.violations s.emails = []

theorem WithPassword.email_ne (h : WithPassword s request email password) : email ≠ "" := by
  rintro rfl
  have hvalid := h.valid
  simp [SignInRequest.violations, h.email_eq, checkPresent, checkEmail, Rule.check,
    s.emails.accepts_empty] at hvalid

theorem required_some {value : Option String} {text : String} (hv : value = some text)
    (ht : text ≠ "") (field : String) : required value field = .done text := by
  subst hv
  have hfilter : (some text).filter (· != "") = some text := by simp [ht]
  rw [required, hfilter]
  rfl

/-- Only the email and the password matter. -/
theorem signIn_eq (h : WithPassword s request email password) : signIn s request ip = (do
    let user ← byPassword s email password
    Flow.ensure (!user.isDeleted) .inactiveUser
    let tokens ← Session.update s user .email ip
    return respond user tokens) := by
  have hvalid : ensureValid (request.violations s.emails) = .done () := by rw [h.valid]; rfl
  rw [signIn, hvalid, h.provider, required_some h.email_eq h.email_ne,
    required_some h.password_eq h.password_ne]
  rfl

theorem run_lookup (f : Option User → Flow SignedIn) :
    (Flow.store (.userByEmail email) >>= f).run w
      = (f (w.store.users.find? (·.email == some email))).run w := rfl

theorem run_signIn_none (h : WithPassword s request email password)
    (hfound : w.store.users.find? (·.email == some email) = none) :
    (signIn s request ip).run w = (.error .userNotFound, w) := by
  rw [signIn_eq h, byPassword, Flow.bind_assoc, run_lookup, hfound]
  rfl

/-- The password is checked first, then whether the account is in service. -/
theorem judge_bind {α : Type} (s : Setup) (user : User) (password : String) (g : Flow α) : (do
      Flow.ensure user.hasPassword .mustUseGoogle
      Flow.ofExcept (s.suite.verifyPassword user.passwordHash password)
      Flow.ensure (!user.isDeleted) .inactiveUser
      g) = (Flow.ofExcept (judge s user password) >>= fun _ => g) := by
  cases hpassword : user.hasPassword with
  | false => simp [judge, hpassword]
  | true =>
    cases hverify : s.suite.verifyPassword user.passwordHash password with
    | error e => simp [judge, hpassword, hverify]
    | ok done => cases hservice : user.isDeleted <;> simp [judge, hpassword, hverify, hservice]

theorem run_signIn_some (h : WithPassword s request email password)
    (hfound : w.store.users.find? (·.email == some email) = some user) :
    (signIn s request ip).run w = (Flow.ofExcept (judge s user password) >>= fun _ => do
      let tokens ← Session.update s user .email ip
      return respond user tokens : Flow SignedIn).run w := by
  rw [signIn_eq h, byPassword, Flow.bind_assoc, run_lookup, hfound, Flow.require_some,
    Flow.done_bind, Flow.bind_assoc]
  have hchecked := judge_bind s user password (do
    let tokens ← Session.update s user .email ip
    return respond user tokens : Flow SignedIn)
  rw [← hchecked]
  simp only [Flow.bind_assoc, Flow.pure_eq, Flow.done_bind]

theorem run_put (hup : ∀ n, w.outside.cacheFails n = false) (idCode key : String)
    (pair : TokenPair) : ((do
      Sessions.put s.sessionLifetime idCode key
      return pair : Flow TokenPair).run w).1 = .ok pair := by
  refine Flow.run_bind_ok.2 ⟨(), ?_, rfl⟩
  rw [Sessions.put, Flow.run_cache]
  exact (w.perform_cache_up hup (by intro _ _ _ _ h; cases h)).1

/-- What goes into a pair that is made now: the second that the clock shows, and the UUIDs that are
drawn next. -/
def nextMint (w : World) : Mint :=
  ⟨w.now, w.outside.uuids w.drawn, w.now, w.outside.uuids (w.drawn + 1),
    w.outside.uuids (w.drawn + 2)⟩

/-- With the cache up, a session is always renewed. -/
theorem run_update (s : Setup) (user : User) (provider : AuthProvider) (ip : String)
    (hup : ∀ n, w.outside.cacheFails n = false) :
    ((Session.update s user provider ip).run w).1 = .ok ((nextMint w).pair s user) := by
  generalize hm : nextMint w = m
  have hdrawn : (Session.update s user provider ip).run w = (do
      let updated ← Flow.store
        (.updateSession ⟨(m.snapshot user).userId, ip, (m.pair s user).refresh, m.startedAt⟩)
      if !updated then
        let _ ← Flow.store (.createSession (newRow (m.snapshot user) (m.pair s user) provider ip))
      Sessions.put s.sessionLifetime (m.snapshot user).idCode (m.snapshot user).sessionKey
      return m.pair s user : Flow TokenPair).run { w with drawn := w.drawn + 3 } := by
    rw [← hm]
    rfl
  -- Whether or not there was a row, the key of the new session is put there.
  have hrow (updated : Bool) {w' : World} (hup' : ∀ n, w'.outside.cacheFails n = false) :
      ((do
        if !updated then
          let _ ← Flow.store (.createSession (newRow (m.snapshot user) (m.pair s user) provider ip))
        Sessions.put s.sessionLifetime (m.snapshot user).idCode (m.snapshot user).sessionKey
        return m.pair s user : Flow TokenPair).run w').1 = .ok (m.pair s user) := by
    cases updated with
    | true => exact run_put hup' _ _ _
    | false =>
      refine Flow.run_bind_ok.2 ⟨_, rfl, run_put ?_ _ _ _⟩
      rw [Flow.run_outside]
      exact hup'
  rw [hdrawn]
  refine Flow.run_bind_ok.2 ⟨_, rfl, hrow _ ?_⟩
  rw [Flow.run_outside]
  exact hup

/-- An answer for an account: it shows the account as it is stored, and hands out a pair that is
made for it. -/
structure IsFor (s : Setup) (w : World) (user : User) (answer : SignedIn) : Prop where
  shown : answer.user = ⟨user.idCode, user.email, user.phone, user.activated, user.provider,
    user.createdAt⟩
  tokens : answer.tokens = (nextMint w).pair s user

/-- At an account, a sign-in is refused and nothing happens, or it gives tokens for the account. -/
theorem run_signIn_cases (s : Setup) (ip : String) (h : WithPassword s request email password)
    (hup : ∀ n, w.outside.cacheFails n = false)
    (hfound : w.store.users.find? (·.email == some email) = some user) :
    (∃ e, judge s user password = .error e ∧ (signIn s request ip).run w = (.error e, w)) ∨
      judge s user password = .ok () ∧
        ∃ answer, ((signIn s request ip).run w).1 = .ok answer ∧ IsFor s w user answer := by
  rw [run_signIn_some h hfound]
  cases judge s user password with
  | error e => exact .inl ⟨e, rfl, rfl⟩
  | ok done =>
    have hupdate := run_update s user .email ip hup
    rw [Flow.ofExcept_ok, Flow.done_bind]
    exact .inr ⟨rfl, _, Flow.run_bind_ok.2 ⟨_, hupdate, rfl⟩, rfl, rfl⟩

/-! ## What depends on the origin -/

/-- Every salt that a call has drawn has sixteen bytes. -/
def Salted (now : System Call.Value) : Prop :=
  ∀ t ∈ now.threads, ∀ salt, ⟨.salt, salt⟩ ∈ t.past → salt.length = 16

/-- Under the salts that sign-ups have drawn, the hash function tells the password apart from every
other one with which somebody has signed up. -/
def ToldApart (s : Setup) (now : System Call.Value) (password : String) : Prop :=
  ∀ t ∈ now.threads, ∀ request ip salt stored, t.call = .signUp request ip →
    ⟨.salt, salt⟩ ∈ t.past → s.suite.hashPassword salt request.password = .ok stored →
      s.suite.hashPassword salt password = .ok stored → password = request.password

section
variable {start now : System Call.Value} {other : String} (hs : s.suite = Crypto.Suite.standard)
  (ho : Opens s start) (hr : System.Reaches Turns start now)
include ho hr

theorem CameThrough.judge_eq (h : CameThrough now user) :
    judge s user password = .error .mustUseGoogle := by
  rw [judge, h.hasPassword ho hr]
  rfl

include hs

/-- Who has signed up is refused for a wrong password first, then for being out of service. -/
theorem SignedUp.judge_eq (hsalted : Salted now) (happart : ToldApart s now password)
    (h : SignedUp now user other) : judge s user password
      = if password = other then
          if user.isDeleted then .error .inactiveUser else .ok ()
        else .error .incorrectPassword := by
  obtain ⟨t, ht, request, ip, salt, hcall, rfl, hsalt, hhash⟩ := h.hashed ho hr
  have hne : user.passwordHash ≠ "" := storesPasswords_standard s hs salt _ _ hhash
  have hpassword : user.hasPassword = true := by simpa [User.hasPassword] using hne
  have hright : s.suite.hashPassword salt password = .ok user.passwordHash ↔
      password = request.password := by
    refine ⟨happart t ht request ip salt _ hcall hsalt hhash, ?_⟩
    rintro rfl
    exact hhash
  rw [judge, if_pos hpassword]
  rw [hs] at hhash hright ⊢
  have hmost : salt.length ≤ 48 := by
    rw [hsalted t ht salt hsalt]
    decide
  rcases Password.verify_cases hmost hhash password with ⟨hsame, hverify⟩ | ⟨hother, hverify⟩
  · have hverify : Crypto.Suite.standard.verifyPassword user.passwordHash password = .ok () :=
      hverify
    rw [hverify, if_pos (hright.1 hsame)]
  · have hverify : Crypto.Suite.standard.verifyPassword user.passwordHash password
        = .error .incorrectPassword := hverify
    rw [hverify, if_neg fun he => hother (hright.2 he)]

end

/-! ## Signing in -/

/-- How a sign-in with an email and a password ends. -/
structure Decides (s : Setup) (now : System Call.Value) (email password : String)
    (result : Except Failure SignedIn) (later : World) : Prop where
  /-- The account with the email gets tokens if and only if somebody opened it with this very
  password, and it is in service. -/
  accepts : ∀ user ∈ now.world.store.users, user.email = some email →
    ((∃ answer, result = .ok answer ∧ IsFor s now.world user answer) ↔
      SignedUp now user password ∧ user.isDeleted = false)
  /-- Nobody else gets tokens. -/
  holder : ∀ answer, result = .ok answer → ∃ user ∈ now.world.store.users,
    user.email = some email ∧ IsFor s now.world user answer
  unknown : (∀ user ∈ now.world.store.users, user.email ≠ some email) →
    result = .error .userNotFound
  /-- Every account was opened with a password or through the provider. -/
  opened : ∀ user ∈ now.world.store.users, user.email = some email →
    (∃ other, SignedUp now user other) ∨ CameThrough now user
  google : ∀ user ∈ now.world.store.users, user.email = some email → CameThrough now user →
    result = .error .mustUseGoogle
  wrong : ∀ user ∈ now.world.store.users, user.email = some email → ∀ other,
    SignedUp now user other → other ≠ password → result = .error .incorrectPassword
  retired : ∀ user ∈ now.world.store.users, user.email = some email →
    SignedUp now user password → user.isDeleted = true → result = .error .inactiveUser
  readable : ∀ detail, result ≠ .error (.passwordHash detail)
  /-- A sign-in that fails has changed nothing. -/
  unchanged : ∀ e, result = .error e → later = now.world

/-- Where nobody holds the email, nobody is found. -/
theorem decides_of_none {now : System Call.Value}
    (hnone : ∀ user ∈ now.world.store.users, user.email ≠ some email) :
    Decides s now email password (.error .userNotFound) now.world where
  accepts user hu he := absurd he (hnone user hu)
  holder answer he := by cases he
  unknown _ := rfl
  opened user hu he := absurd he (hnone user hu)
  google user hu he := absurd he (hnone user hu)
  wrong user hu he := absurd he (hnone user hu)
  retired user hu he := absurd he (hnone user hu)
  readable detail he := by cases he
  unchanged _ _ := rfl

section
variable {start now : System Call.Value} (hs : s.suite = Crypto.Suite.standard)
  (ho : Opens s start) (hr : System.Reaches Turns start now)
include hs ho hr

/-- Whatever the origin of an account, what becomes of a sign-in is known. -/
theorem judge_cases (hsalted : Salted now) (happart : ToldApart s now password)
    (hu : user ∈ now.world.store.users) :
    (CameThrough now user ∧ judge s user password = .error .mustUseGoogle) ∨
      (∃ other, SignedUp now user other ∧ other ≠ password ∧
        judge s user password = .error .incorrectPassword) ∨
      (SignedUp now user password ∧ user.isDeleted = true ∧
        judge s user password = .error .inactiveUser) ∨
      (SignedUp now user password ∧ user.isDeleted = false ∧ judge s user password = .ok ()) := by
  rcases origin ho hr hu with ⟨other, hsigned⟩ | hcame
  · have hjudge := hsigned.judge_eq hs ho hr hsalted happart
    by_cases hright : password = other
    · subst hright
      rw [if_pos rfl] at hjudge
      cases hservice : user.isDeleted with
      | true => exact .inr (.inr (.inl ⟨hsigned, rfl, by rw [hjudge, hservice]; rfl⟩))
      | false => exact .inr (.inr (.inr ⟨hsigned, rfl, by rw [hjudge, hservice]; rfl⟩))
    · rw [if_neg hright] at hjudge
      exact .inr (.inl ⟨other, hsigned, fun he => hright he.symm, hjudge⟩)
  · exact .inl ⟨hcame, hcame.judge_eq ho hr⟩

/-- Where an account holds the email, the sign-in ends as it is judged there. -/
theorem decides_of_some (hsalted : Salted now) (happart : ToldApart s now password)
    (hu : user ∈ now.world.store.users) (hemail : user.email = some email)
    {result : Except Failure SignedIn} {later : World}
    (hresult : (∃ e, judge s user password = .error e ∧ result = .error e ∧ later = now.world) ∨
      judge s user password = .ok () ∧
        ∃ answer, result = .ok answer ∧ IsFor s now.world user answer) :
    Decides s now email password result later := by
  have hunique : now.world.store.Unique := (keeps_of_opens ho hr).1.unique
  have honly (other) (ho : other ∈ now.world.store.users) (he : other.email = some email) :
      other = user := hunique.eq_of_email ho hu he hemail
  have hrefused {e : Failure} (hjudge : judge s user password = .error e) : result = .error e := by
    rcases hresult with ⟨e', hjudge', hresult, -⟩ | ⟨hjudge', -⟩
    · rw [hjudge] at hjudge'
      cases hjudge'
      exact hresult
    · rw [hjudge] at hjudge'
      cases hjudge'
  have hjudged := judge_cases hs ho hr hsalted happart hu
  constructor
  case accepts =>
    intro other ho' he
    obtain rfl := honly other ho' he
    constructor
    · rintro ⟨answer, hm, -⟩
      rcases hjudged with ⟨-, hjudge⟩ | ⟨-, -, -, hjudge⟩ | ⟨-, -, hjudge⟩ | ⟨hsigned, hservice, -⟩
      · rw [hrefused hjudge] at hm; cases hm
      · rw [hrefused hjudge] at hm; cases hm
      · rw [hrefused hjudge] at hm; cases hm
      · exact ⟨hsigned, hservice⟩
    · rintro ⟨hsigned, hservice⟩
      have hjudge := hsigned.judge_eq hs ho hr hsalted happart
      rw [if_pos rfl, hservice] at hjudge
      rcases hresult with ⟨e, hjudge', -⟩ | ⟨-, htokens⟩
      · rw [hjudge'] at hjudge; cases hjudge
      · exact htokens
  case holder =>
    intro answer ha
    rcases hresult with ⟨e, -, he, -⟩ | ⟨-, given, hgiven, hfor⟩
    · rw [he] at ha; cases ha
    · rw [hgiven] at ha
      exact ⟨user, hu, hemail, Except.ok.inj ha ▸ hfor⟩
  case unknown => exact fun hnone => absurd hemail (hnone user hu)
  case opened => exact fun other ho' _ => origin ho hr ho'
  case google =>
    intro other ho' he hcame
    obtain rfl := honly other ho' he
    exact hrefused (hcame.judge_eq ho hr)
  case wrong =>
    intro other ho' he before hsigned hne
    obtain rfl := honly other ho' he
    refine hrefused ?_
    rw [hsigned.judge_eq hs ho hr hsalted happart, if_neg hne.symm]
  case retired =>
    intro other ho' he hsigned hservice
    obtain rfl := honly other ho' he
    refine hrefused ?_
    rw [hsigned.judge_eq hs ho hr hsalted happart, if_pos rfl, hservice]
    rfl
  case readable =>
    intro detail hfault
    rcases hresult with ⟨e, hjudge, he, -⟩ | ⟨-, answer, hm, -⟩
    · rw [he] at hfault
      obtain rfl := Except.error.inj hfault
      rw [hjudge] at hjudged
      rcases hjudged with ⟨-, hj⟩ | ⟨-, -, -, hj⟩ | ⟨-, -, hj⟩ | ⟨-, -, hj⟩ <;> cases hj
    · rw [hm] at hfault; cases hfault
  case unchanged =>
    intro e he
    rcases hresult with ⟨-, -, -, hlater⟩ | ⟨-, answer, hm, -⟩
    · exact hlater
    · rw [hm] at he; cases he

/-- Signing in with an email and a password depends on who opened the account and how, and on its
being in service. -/
theorem signIn_exact (hup : ∀ n, now.world.outside.cacheFails n = false) (hsalted : Salted now)
    (happart : ToldApart s now password) (h : WithPassword s request email password) (ip : String) :
    Decides s now email password ((signIn s request ip).run now.world).1
      ((signIn s request ip).run now.world).2 := by
  cases hfound : now.world.store.users.find? (·.email == some email) with
  | none =>
    rw [run_signIn_none h hfound]
    refine decides_of_none fun user hu he => ?_
    simpa [he] using List.find?_eq_none.1 hfound user hu
  | some user =>
    have hemail : user.email = some email := by simpa using List.find?_some hfound
    refine decides_of_some hs ho hr hsalted happart (List.mem_of_find?_eq_some hfound) hemail ?_
    rcases run_signIn_cases s ip h hup hfound with ⟨e, hjudge, hrun⟩ | haccepted
    · rw [hrun]
      exact .inl ⟨e, hjudge, rfl, rfl⟩
    · exact .inr haccepted

end

/-! ## A member -/

/-- Salts have sixteen bytes if chance never gives others. -/
theorem salted_of_reaches {drift : World → World → Prop} {start now : System Call.Value}
    (hd : ∀ w w', drift w w' → w'.outside.salts = w.outside.salts)
    (hsalts : ∀ n, (start.world.outside.salts n).length = 16)
    (hstart : ∀ t ∈ start.threads, t.past = []) (hr : System.Reaches drift start now) :
    Salted now := by
  have hkept {mid : System Call.Value} (hmid : System.Reaches drift start mid) (n : Nat) :
      (mid.world.outside.salts n).length = 16 :=
    hmid.world (W := fun w => ∀ n, (w.outside.salts n).length = 16) hsalts
      (fun w act h => by rw [w.perform_outside]; exact h) (fun w w' hw h => hd w w' hw ▸ h) n
  induction hr with
  | refl =>
    intro t ht salt hsalt
    rw [hstart t ht] at hsalt
    cases hsalt
  | @tail mid _ hmid hstep ih =>
    cases hstep with
    | act hi =>
      intro t ht salt hsalt
      rcases List.mem_or_eq_of_mem_set ht with ht | rfl
      · exact ih t ht salt hsalt
      · rcases List.mem_append.1 hsalt with hsalt | hsalt
        · exact ih _ (List.mem_of_getElem? hi) salt hsalt
        · have hevent := List.mem_singleton.1 hsalt
          obtain rfl : Act.salt = _ := congrArg Event.act hevent
          rw [show salt = _ from eq_of_heq (Event.mk.inj hevent).2]
          exact hkept hmid _
    | drift _ => exact ih

theorem mem_users_run {α : Type} (hm : user ∈ w.store.users) (f : Flow α) :
    user ∈ (f.run w).2.store.users := by
  induction f generalizing w with
  | done value => exact hm
  | fail failure => exact hm
  | step act next ih => exact ih _ (mem_users_perform hm act)

theorem run_createUser (hempty : w.store.users = []) (new : NewUser) :
    (Flow.store (.createUser new)).run w = (.ok (w.store.accountFor new w.instant),
      { w with store := { w.store with users := [w.store.accountFor new w.instant] } }) := by
  have hcreated : w.store.createUser new w.instant = (.ok (w.store.accountFor new w.instant),
      { w.store with users := [w.store.accountFor new w.instant] }) := by
    simp [Store.Memory.createUser, hempty]
  rw [Flow.run_store]
  change ((w.store.createUser new w.instant).1,
    { w with store := (w.store.createUser new w.instant).2 }) = _
  rw [hcreated]

/-- Where there are no accounts, a sign-up opens one, and begins its session. -/
theorem run_signUp_first (s : Setup) (request : SignUpRequest) (ip : String) {stored : String}
    (hempty : w.store.users = []) (hvalid : request.violations s.emails = [])
    (hhash : s.suite.hashPassword (w.outside.salts (w.drawn + 1)) request.password = .ok stored) :
    ∃ user, user.email = some request.email ∧ user.isDeleted = false ∧
      (signUp s request ip).run w = (do
        let tokens ← Session.create s user .email ip
        return respond user tokens : Flow SignedIn).run
          { w with drawn := w.drawn + 2, store := { w.store with users := [user] } } := by
  have hensured : ensureValid (request.violations s.emails) = .done () := by rw [hvalid]; rfl
  have hemail : (ensureFreeEmail request.email).run w = (.ok (), w) := by
    change (Flow.ensure (w.store.users.find? _).isNone _).run w = _
    rw [hempty]
    rfl
  have hphone : (ensureFreePhone (Phone.normalize request.phone)).run w = (.ok (), w) := by
    change (Flow.ensure (w.store.users.find? _).isNone _).run w = _
    rw [hempty]
    rfl
  rw [signUp, hensured, Flow.done_bind, Flow.run_bind_of_ok hemail, Flow.run_bind_of_ok hphone]
  change ∃ user : User, _ ∧ _ ∧ (Flow.ofExcept (s.suite.hashPassword
    (w.outside.salts (w.drawn + 1)) request.password) >>= _ : Flow SignedIn).run
      { w with drawn := w.drawn + 2 } = _
  rw [hhash, Flow.ofExcept_ok, Flow.done_bind,
    Flow.run_bind_of_ok (run_createUser (w := { w with drawn := w.drawn + 2 }) hempty _)]
  exact ⟨_, rfl, rfl, rfl⟩

theorem exists_user_of_signUp (s : Setup) (request : SignUpRequest) (ip : String) {stored : String}
    (hempty : w.store.users = []) (hvalid : request.violations s.emails = [])
    (hhash : s.suite.hashPassword (w.outside.salts (w.drawn + 1)) request.password = .ok stored) :
    ∃ user ∈ ((signUp s request ip).run w).2.store.users, user.email = some request.email ∧
      user.isDeleted = false := by
  obtain ⟨user, hemail, hservice, hrun⟩ := run_signUp_first s request ip hempty hvalid hhash
  rw [hrun]
  exact ⟨user, mem_users_run (List.mem_singleton_self _) _, hemail, hservice⟩

/-- Ada's sign-up. -/
def joining : SignUpRequest := ⟨"ada@example.org", "correct horse", "+77010000001"⟩

/-- Ada signs up, where salts have sixteen bytes. -/
def registering : System Call.Value where
  world := { Sample.world with outside :=
    { Sample.outside with salts := fun _ => List.replicate 16 7 } }
  threads := [.signUp joining "::1"].map (Thread.start (Call.flow Sample.setup))

/-- Ada's sign-in. -/
def comingBack : SignInRequest := ⟨.email, some "ada@example.org", some "correct horse", none, none⟩

/-- Behind her sign-up, Ada gets tokens for her account. -/
theorem signIn_exact_registering : ∃ now, System.Reaches Turns registering now ∧
    Decides Sample.setup now "ada@example.org" "correct horse"
      ((signIn Sample.setup comingBack "::1").run now.world).1
      ((signIn Sample.setup comingBack "::1").run now.world).2 ∧
    ∃ user ∈ now.world.store.users, ∃ answer,
      ((signIn Sample.setup comingBack "::1").run now.world).1 = .ok answer ∧
        IsFor Sample.setup now.world user answer := by
  have hopens : Opens Sample.setup registering := ⟨rfl, rfl, fresh_of_calls rfl⟩
  obtain ⟨now, hruns, hworld⟩ : ∃ now, System.Reaches (fun _ _ => False) registering now ∧
      now.world = ((signUp Sample.setup joining "::1").run registering.world).2 := by
    obtain ⟨ts, hruns⟩ := System.reaches_run (fun _ _ => False) (s := registering) (i := 0) rfl
    exact ⟨_, hruns, rfl⟩
  have hr : System.Reaches Turns registering now := hruns.mono fun _ _ hd => hd.elim
  have hcall : ∀ t ∈ now.threads, t.call = .signUp joining "::1" := fun t ht => by
    have hmem : t.call ∈ registering.threads.map (·.call) := hruns.calls ▸ List.mem_map_of_mem ht
    exact List.mem_singleton.1 hmem
  have hsalted : Salted now := salted_of_reaches (fun _ _ hd => hd.elim) (fun _ => rfl)
    (System.past_nil_of_start hopens.calls) hruns
  have happart : ToldApart Sample.setup now "correct horse" := by
    intro t ht request ip salt stored hsigned _ _ _
    rw [hcall t ht] at hsigned
    cases hsigned
    rfl
  have hup : ∀ n, now.world.outside.cacheFails n = false := fun n => by
    rw [hworld, Flow.run_outside]
    rfl
  have hasks : WithPassword Sample.setup comingBack "ada@example.org" "correct horse" :=
    ⟨rfl, rfl, rfl, by decide, by decide +kernel⟩
  have hdecides := signIn_exact rfl hopens hr hup hsalted happart hasks "::1"
  have hlength : 8 ≤ (List.replicate 16 7 : Bytes).length := by decide
  obtain ⟨stored, hstored⟩ := Password.exists_hash hlength joining.password
  obtain ⟨user, hu, hemail, hservice⟩ := exists_user_of_signUp Sample.setup joining "::1"
    (w := registering.world) rfl (by decide +kernel) hstored
  rw [← hworld] at hu
  have hsigned : SignedUp now user "correct horse" := by
    rcases hdecides.opened user hu hemail with ⟨other, t, ht, request, ip, hsigned, rfl, hreg⟩ |
      ⟨t, ht, hother, -⟩
    · rw [hcall t ht] at hsigned
      cases hsigned
      exact ⟨t, ht, joining, "::1", hcall t ht, rfl, hreg⟩
    · rw [hcall t ht] at hother
      rcases hother with ⟨_, _, _, hother⟩ | ⟨_, _, hother⟩ <;> cases hother
  exact ⟨now, hr, hdecides, user, hu, (hdecides.accepts user hu hemail).2 ⟨hsigned, hservice⟩⟩

end SignOn.Account
