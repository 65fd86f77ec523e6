import SignOn.Proofs.Account.FailedOpening
import SignOn.Proofs.Session.Recording
/-!
What is recorded of a login. Users who come back are recorded by a renewal, and newcomers, who have
no row, by a beginning. So the row of a user goes on to name the provider of the first login, and
the other ways to sign in are nowhere recorded: `recording_exact` says when the row names the
provider of the login for which a pair has just been handed out.
-/

namespace SignOn.Account

open SignOn.Flow SignOn.Keyspace SignOn.Session SignOn.Verification

/-! ## Logins -/

/-- What there is to record of a login. -/
structure Login where
  provider : AuthProvider
  ip : String
  deriving DecidableEq, Repr

namespace Call

/-- The login that a call is, if it is one. -/
def login? : Call → Option Login
  | .signUp _ ip => some ⟨.email, ip⟩
  | .signIn request ip => some ⟨request.provider, ip⟩
  | .callback _ _ ip => some ⟨.google, ip⟩
  | .device _ ip => some ⟨.google, ip⟩
  | .complete _ ip => some ⟨.google, ip⟩
  | _ => none

/-- Whether a call signs nobody in but newcomers. -/
def isOpening : Call → Bool
  | .signUp .. | .complete .. => true
  | _ => false

end Call

/-- What the row of a user says after a login at a second, for which a pair was handed out. -/
structure Recorded (before after : Store.Memory) (login : Login) (now : Int) (pair : TokenPair)
    (user : User) (row : SessionRow) : Prop where
  found : after.rowFor user.id = some row
  token : row.refreshToken = pair.refresh
  ip : row.ip = login.ip
  started : row.startedAt = some now
  active : row.endedAt = none
  /-- A user who had a row still has that one, -/
  kept : ∀ old, before.rowFor user.id = some old → row.id = old.id
  /-- and it names the provider that it named before. -/
  provider : row.provider = before.named user.id login.provider

variable {s : Setup} {w : World} {before store : Store.Memory} {user : User}
  {provider : AuthProvider} {ip : String} {k : Call} {login : Login} {α : Type}

/-- The provider of the login is recorded exactly if the user has no row, or one that names it. -/
theorem Recorded.provider_iff {after : Store.Memory} {now : Int} {pair : TokenPair}
    {row : SessionRow} (h : Recorded before after login now pair user row) :
    row.provider = login.provider ↔
      ∀ old, before.rowFor user.id = some old → old.provider = login.provider := by
  rw [h.provider, Store.Memory.named_eq_iff]

/-! ## Sessions -/

theorem pair_of_concluded {pair : TokenPair} (h : (concluded s user w store).1 = .ok pair) :
    pair = (Mint.next w).pair s user := by
  unfold concluded at h
  dsimp only at h
  split at h
  · exact (nomatch h)
  · exact (Except.ok.inj h).symm

/-- A session that begins for a user without a row. -/
theorem create_recorded (h : w.store.Rows) (hnone : before.rowFor user.id = none)
    {pair : TokenPair} (hpair : ((Session.create s user provider ip).run w).1 = .ok pair) : ∃ row,
      Recorded before ((Session.create s user provider ip).run w).2.store ⟨provider, ip⟩ w.now pair
        user row := by
  rw [Session.run_create] at hpair ⊢
  obtain rfl := pair_of_concluded hpair
  obtain ⟨id, hrow, -⟩ := rowFor_begun h s (.next w) user provider ip
  rw [concluded_store]
  refine ⟨_, hrow, rfl, rfl, rfl, rfl, fun old ho => ?_, ?_⟩
  · rw [hnone] at ho
    cases ho
  · rw [Store.Memory.named, hnone]
    rfl

/-- A session that is renewed, or begins for want of a row. -/
theorem update_recorded (h : w.store.Rows) {pair : TokenPair}
    (hpair : ((Session.update s user provider ip).run w).1 = .ok pair) : ∃ row,
      Recorded w.store ((Session.update s user provider ip).run w).2.store ⟨provider, ip⟩ w.now pair
        user row := by
  rw [Session.run_update, renewed_eq h] at hpair ⊢
  obtain rfl := pair_of_concluded hpair
  obtain ⟨id, hrow, hkept⟩ := rowFor_begun h s (.next w) user provider ip
  have hnamed := congrArg
    (Option.map (Store.Memory.withProvider (w.store.named user.id provider))) hrow
  rw [concluded_store]
  exact ⟨_, Store.Memory.rowFor_naming_self.trans hnamed, rfl, rfl, rfl, rfl, hkept, rfl⟩

/-! ## Parts of the calls -/

/-- If a call hands out a pair from here, that is recorded, and newcomers had no row. -/
def Records (k : Call) (login : Login) (before store : Store.Memory) (f : Flow k.Value) : Prop :=
  ∀ w, w.store = store → ∀ pair, k.pair? (f.run w).1 = some pair → ∃ user row,
    user ∈ (f.run w).2.store.users ∧ (k.isOpening = true → before.rowFor user.id = none) ∧
      Recorded before (f.run w).2.store login w.now pair user row

/-- A part that stores nothing comes first, and whatever it gives is as stated. -/
theorem finds_then {Q : α → Prop} {f : Flow α} {g : α → Flow k.Value} (hf : f.Acts KeepsStore)
    (hq : ∀ w, w.store = store → ∀ a, (f.run w).1 = .ok a → Q a)
    (hg : ∀ a, Q a → Records k login before store (g a)) :
    Records k login before store (f >>= g) := by
  intro w hw pair hpair
  have hstore : (f.run w).2.store = store := (store_run_of_acts hf w).trans hw
  rcases run_bind_cases f g w with ⟨e, -, hrun⟩ | ⟨a, ha, hrun⟩
  · rw [hrun, Call.pair?_error] at hpair
    cases hpair
  · rw [hrun] at hpair ⊢
    rw [← run_now f]
    exact hg a (hq w hw a ha) _ hstore pair hpair

theorem keeps_then {f : Flow α} {g : α → Flow k.Value} (hf : f.Acts KeepsStore)
    (hg : ∀ a, Records k login before store (g a)) : Records k login before store (f >>= g) :=
  finds_then hf (fun _ _ _ _ => trivial) fun a _ => hg a

theorem fails_records (e : Failure) : Records k login before store (.fail e) := by
  intro w _ pair hpair
  rw [run, Call.pair?_error] at hpair
  cases hpair

/-- A pair is handed out in the answer. -/
theorem answer_records {f : Flow TokenPair} {answer : TokenPair → k.Value}
    (ha : ∀ pair, k.pair? (.ok (answer pair)) = some pair)
    (hf : ∀ w, w.store = store → ∀ pair, (f.run w).1 = .ok pair → ∃ user row,
      user ∈ (f.run w).2.store.users ∧ (k.isOpening = true → before.rowFor user.id = none) ∧
        Recorded before (f.run w).2.store login w.now pair user row) :
    Records k login before store (f >>= fun pair => pure (answer pair)) := by
  intro w hw pair hpair
  rcases run_bind_cases f (fun pair => pure (answer pair)) w with
    ⟨e, -, hrun⟩ | ⟨given, hgiven, hrun⟩
  · rw [hrun, Call.pair?_error] at hpair
    cases hpair
  · rw [hrun, run_pure] at hpair ⊢
    obtain rfl : given = pair := Option.some.inj ((ha given).symm.trans hpair)
    exact hf w hw given hgiven

/-- A user who had an account gets the pair. -/
theorem update_then (h : store.Rows) (hu : user ∈ store.users) (hk : k.isOpening = false)
    {answer : TokenPair → k.Value} (ha : ∀ pair, k.pair? (.ok (answer pair)) = some pair) :
    Records k ⟨provider, ip⟩ store store
      (Session.update s user provider ip >>= fun pair => pure (answer pair)) := by
  refine answer_records ha ?_
  rintro w rfl pair hpair
  obtain ⟨row, hrow⟩ := update_recorded h hpair
  exact ⟨user, row, mem_users_run hu _, fun hopens => (by rw [hk] at hopens; cases hopens), hrow⟩

/-- A newcomer gets the pair, once the account is stored. -/
theorem create_then (h : before.Rows) (hnone : before.rowFor user.id = none)
    {answer : TokenPair → k.Value} (ha : ∀ pair, k.pair? (.ok (answer pair)) = some pair) :
    Records k ⟨provider, ip⟩ before { before with users := before.users ++ [user] }
      (Session.create s user provider ip >>= fun pair => pure (answer pair)) := by
  refine answer_records ha fun w hw pair hpair => ?_
  have hrows : w.store.Rows := by
    rw [hw]
    exact ⟨h.ids, h.users⟩
  have hu : user ∈ w.store.users := by
    rw [hw]
    exact List.mem_append_right _ (List.mem_singleton_self user)
  obtain ⟨row, hrow⟩ := create_recorded hrows hnone hpair
  exact ⟨user, row, mem_users_run hu _, fun _ => hnone, hrow⟩

/-- No row belongs to an account that is new. -/
theorem rowFor_of_new {P : Int → Prop} (hl : Ledger s P before)
    (hnew : ∀ old ∈ before.users, old.id ≠ user.id) : before.rowFor user.id = none := by
  cases hrow : before.rowFor user.id with
  | none => rfl
  | some row =>
    obtain ⟨owner, hknown, howner, -⟩ := hl.belongs user.id row hrow
    obtain ⟨stored, hstored, hid, -⟩ := hknown.stored
    exact absurd (hid.trans (howner.symm.trans (Store.Memory.mem_of_rowFor hrow).2))
      (hnew stored hstored)

/-- An account is stored for a newcomer. -/
theorem opens_then {P : Int → Prop} (hl : Ledger s P before) {new : NewUser}
    {g : User → Flow k.Value} (hg : ∀ user, before.rowFor user.id = none →
      Records k login before { before with users := before.users ++ [user] } (g user)) :
    Records k login before before (Flow.store (.createUser new) >>= g) := by
  rintro w rfl pair hpair
  have hcreated : (Flow.store (.createUser new)).run w = ((w.store.createUser new w.instant).1,
      { w with store := (w.store.createUser new w.instant).2 }) := Flow.run_store _ w
  rcases w.store.createUser_cases new w.instant with he | ⟨he, -⟩
  · rw [he] at hcreated
    rw [run_bind_of_error hcreated, Call.pair?_error] at hpair
    cases hpair
  · rw [he] at hcreated
    rw [run_bind_of_ok hcreated] at hpair ⊢
    exact hg _ (rowFor_of_new hl fun old ho => Store.Memory.id_accountFor_ne ho) _ rfl pair hpair

/-! ## Accounts that are found -/

theorem found_email {email : String} {found : Option User}
    (h : ((Flow.store (.userByEmail email)).run w).1 = .ok found) :
    ∀ user, found = some user → user ∈ w.store.users := by
  rintro user rfl
  rw [Flow.run_store] at h
  exact List.mem_of_find?_eq_some (Except.ok.inj h)

theorem found_phone {phone : String} {found : Option User}
    (h : ((Flow.store (.userByPhone phone)).run w).1 = .ok found) :
    ∀ user, found = some user → user ∈ w.store.users := by
  rintro user rfl
  rw [Flow.run_store] at h
  exact List.mem_of_find?_eq_some (Except.ok.inj h)

theorem found_byPassword {email password : String}
    (h : ((byPassword s email password).run w).1 = .ok user) : user ∈ w.store.users := by
  obtain ⟨found, hlookup, h⟩ := run_bind_ok.1 h
  obtain ⟨holder, hfound, h⟩ := run_bind_ok.1 h
  obtain ⟨-, -, h⟩ := run_bind_ok.1 h
  obtain ⟨-, -, h⟩ := run_bind_ok.1 h
  cases h
  exact found_email hlookup user (run_require_ok.1 hfound)

theorem found_byCode {phone code : String} (h : ((byCode phone code).run w).1 = .ok user) :
    user ∈ w.store.users := by
  obtain ⟨-, -, h⟩ := run_bind_ok.1 h
  obtain ⟨found, hlookup, h⟩ := run_bind_ok.1 h
  obtain ⟨holder, hfound, h⟩ := run_bind_ok.1 h
  obtain ⟨-, -, h⟩ := run_bind_ok.1 h
  cases h
  have hstored := found_phone hlookup user (run_require_ok.1 hfound)
  rwa [store_run_of_acts (check_acts _ code)] at hstored

/-! ## Each call -/

section
variable {P : Int → Prop} (hl : Ledger s P before)
include hl

/-- The account that a call has found gets the pair, if it is in service. -/
theorem returning_then (hk : k.isOpening = false) (hu : user ∈ before.users)
    {answer : TokenPair → k.Value} (ha : ∀ pair, k.pair? (.ok (answer pair)) = some pair) :
    Records k ⟨provider, ip⟩ before before (do
      Flow.ensure (!user.isDeleted) .inactiveUser
      let pair ← Session.update s user provider ip
      return answer pair) :=
  keeps_then (acts_ensure _ _ _) fun _ => update_then hl.rows hu hk ha

theorem signUp_records (request : SignUpRequest) (ip : String) :
    Records (.signUp request ip) ⟨.email, ip⟩ before before (signUp s request ip) := by
  refine keeps_then (ensureValid_acts _) fun _ => keeps_then (ensureFreeEmail_acts _) fun _ => ?_
  refine keeps_then (ensureFreePhone_acts _) fun _ => keeps_then uuid_acts fun id => ?_
  refine keeps_then salt_acts fun salt => keeps_then (acts_ofExcept _ _) fun hash => ?_
  refine opens_then hl fun user hnone => ?_
  exact create_then hl.rows hnone fun _ => rfl

theorem signIn_records (request : SignInRequest) (ip : String) :
    Records (.signIn request ip) ⟨request.provider, ip⟩ before before (signIn s request ip) := by
  refine keeps_then (ensureValid_acts _) fun _ => ?_
  have hfinish {f : Flow User} (hf : f.Acts KeepsStore)
      (hfound : ∀ w, w.store = before → ∀ user, (f.run w).1 = .ok user → user ∈ before.users) :
      Records (.signIn request ip) ⟨request.provider, ip⟩ before before (do
        let user ← f
        Flow.ensure (!user.isDeleted) .inactiveUser
        let tokens ← Session.update s user request.provider ip
        return respond user tokens) :=
    finds_then hf hfound fun user hu =>
      returning_then hl rfl hu fun _ => rfl
  cases hp : request.provider with
  | email =>
    rw [hp] at hfinish
    refine keeps_then (required_acts _ _) fun email =>
      keeps_then (required_acts _ _) fun password =>
      hfinish (byPassword_acts s email password) ?_
    rintro w rfl user hu
    exact found_byPassword hu
  | phone =>
    rw [hp] at hfinish
    refine keeps_then (required_acts _ _) fun phone => keeps_then (required_acts _ _) fun code =>
      hfinish (byCode_acts _ code) ?_
    rintro w rfl user hu
    exact found_byCode hu
  | google => exact fails_records _

theorem callback_records (state code ip : String) :
    Records (.callback state code ip) ⟨.google, ip⟩ before before
      (Google.callback s state code ip) := by
  refine keeps_then (acts_ensure _ _ _) fun _ => keeps_then (claimedAt_acts state) fun found => ?_
  refine keeps_then (acts_require _ _ _) fun claimedAt => keeps_then now_acts fun now => ?_
  refine keeps_then (acts_ensure _ _ _) fun _ =>
    keeps_then (take_acts s state claimedAt) fun _ => ?_
  refine keeps_then (acts_ensure _ _ _) fun _ => ?_
  refine keeps_then (profileOrRestore_acts s state claimedAt code) fun profile => ?_
  refine keeps_then (release_acts state) fun _ => ?_
  refine finds_then (lookup_acts (.userByEmail profile.email) trivial)
    (fun w hw found hfound => hw ▸ found_email hfound) fun found hfound => ?_
  cases found with
  | some user =>
    have hupdate : Records (.callback state code ip) ⟨.google, ip⟩ before before
        (Session.update s user .google ip >>= pure) :=
      update_then hl.rows (hfound user rfl) rfl fun _ => rfl
    rw [bind_pure] at hupdate
    exact keeps_then (acts_ensure _ _ _) fun _ => hupdate
  | none =>
    dsimp only
    rw [Google.createUser, bind_assoc]
    refine keeps_then uuid_acts fun id => opens_then hl fun user hnone => ?_
    have hcreate : Records (.callback state code ip) ⟨.google, ip⟩ before
        { before with users := before.users ++ [user] }
        (Session.create s user .google ip >>= pure) :=
      create_then hl.rows hnone fun _ => rfl
    rw [bind_pure] at hcreate
    exact hcreate

theorem fromDevice_records (googleToken ip : String) :
    Records (.device googleToken ip) ⟨.google, ip⟩ before before
      (Google.fromDevice s googleToken ip) := by
  refine keeps_then ⟨AdmitsProvider.profile _, fun _ => acts_ofExcept _ _⟩ fun profile => ?_
  refine finds_then (lookup_acts (.userByEmail profile.email) trivial)
    (fun w hw found hfound => hw ▸ found_email hfound) fun found hfound => ?_
  cases found with
  | some user => exact returning_then hl rfl (hfound user rfl) fun _ => rfl
  | none =>
    -- A newcomer is given a request, however its id is written, and no pair.
    generalize Uuid.text = name
    refine keeps_then uuid_acts fun id => keeps_then (newRequest_acts s (name id) _) fun _ => ?_
    intro w _ pair hpair
    cases hpair

theorem complete_records (request : CompleteRequest) (ip : String) :
    Records (.complete request ip) ⟨.google, ip⟩ before before (complete s request ip) := by
  refine keeps_then (ensureValid_acts _) fun _ => keeps_then (provenEmail_acts _) fun email => ?_
  refine keeps_then (check_acts _ _) fun _ => keeps_then (ensureFreeEmail_acts email) fun _ => ?_
  refine keeps_then (ensureFreePhone_acts _) fun _ => ?_
  rw [Google.createUser, bind_assoc]
  refine keeps_then uuid_acts fun id => opens_then hl fun user hnone => ?_
  refine keeps_then (dropRequest_acts _) fun _ => keeps_then (clear_acts _) fun _ => ?_
  exact create_then hl.rows hnone fun _ => rfl

/-- Whatever login hands out a pair records it. -/
theorem flow_records (hk : k.login? = some login) :
    Records k login before before (k.flow s) := by
  cases k with
  | signUp request ip => cases hk; exact signUp_records hl request ip
  | signIn request ip => cases hk; exact signIn_records hl request ip
  | callback state code ip => cases hk; exact callback_records hl state code ip
  | device googleToken ip => cases hk; exact fromDevice_records hl googleToken ip
  | complete request ip => cases hk; exact complete_records hl request ip
  | _ => cases hk

end

/-! ## What is recorded -/

/-- What is recorded of logins in a world. -/
structure Recording (s : Setup) (w : World) : Prop where
  /-- A renewal has the outcome of a beginning, and leaves the same, but for the provider in a row
  that was there: that one it leaves. -/
  renewal : ∀ user provider ip, (Session.update s user provider ip).run w
    = (((Session.create s user provider ip).run w).1,
      { ((Session.create s user provider ip).run w).2 with
        store := ((Session.create s user provider ip).run w).2.store.naming user.id
          (w.store.named user.id provider) })
  /-- So the two come to the same exactly if there is no row, or one that names the provider. -/
  same_iff : ∀ user provider ip,
    (Session.update s user provider ip).run w = (Session.create s user provider ip).run w ↔
      ∀ row, w.store.rowFor user.id = some row → row.provider = provider
  /-- A login that hands out a pair is recorded in the row of its user, with its provider if the
  call opens the account, and in general exactly if the row did not name another one before. -/
  login : ∀ (k : Call) login pair, k.login? = some login →
    k.pair? ((k.flow s).run w).1 = some pair →
    ∃ user row, user ∈ ((k.flow s).run w).2.store.users ∧
      Recorded w.store ((k.flow s).run w).2.store login w.now pair user row ∧
      (k.isOpening = true → row.provider = login.provider) ∧
      (row.provider = login.provider ↔
        ∀ old, w.store.rowFor user.id = some old → old.provider = login.provider)

/-- What is recorded of logins in every world to which calls can lead. -/
theorem recording_exact (h : Reachable s w) : Recording s w where
  renewal := run_update_eq h.ledger.rows
  same_iff := run_update_eq_iff h.ledger.rows
  login k login pair hk hpair := by
    obtain ⟨user, row, hu, hopens, hrow⟩ := flow_records h.ledger hk w rfl pair hpair
    refine ⟨user, row, hu, hrow, fun hopening => ?_, hrow.provider_iff⟩
    rw [hrow.provider, Store.Memory.named, hopens hopening]
    rfl

/-- Ada's device has shown her Google token. -/
def introduced : World :=
  ((Call.flow Sample.setup (.device "token" "::1")).run Sample.world).2

/-- She has asked for a code for her phone. -/
def phoned : World :=
  ((Call.flow Sample.setup
    (.sendCode ⟨.phone, none, some "77010000001", some (Sample.uuid 0).text⟩)).run introduced).2

/-- She has completed her sign-up. -/
def settled : World :=
  ((Call.flow Sample.setup
    (.complete ⟨(Sample.uuid 0).text, "77010000001", "100001"⟩ "::1")).run phoned).2

/-- She has asked for another code. -/
def phonedAgain : World :=
  ((Call.flow Sample.setup (.sendCode ⟨.phone, none, some "77010000001", none⟩)).run settled).2

/-- She signs in by phone. -/
def byPhone : Call := .signIn ⟨.phone, none, none, some "77010000001", some "100006"⟩ "::1"

theorem phonedAgain_reachable : Reachable Sample.setup phonedAgain :=
  ((((Reachable.empty rfl rfl).call _).call _).call _).call _

theorem recording_exact_phonedAgain :
    Reachable Sample.setup phonedAgain ∧ byPhone.login? = some ⟨.phone, "::1"⟩ ∧
      (byPhone.pair? ((byPhone.flow Sample.setup).run phonedAgain).1).isSome = true ∧
      Recording Sample.setup phonedAgain :=
  ⟨phonedAgain_reachable, rfl, by decide +kernel, recording_exact phonedAgain_reachable⟩

/-- Her sign-in by phone succeeds, and her row says that she came through Google. It would not if
the session had been begun anew. -/
theorem unrecorded_byPhone : Reachable Sample.setup phonedAgain ∧
    byPhone.login? = some ⟨.phone, "::1"⟩ ∧
    (byPhone.pair? ((byPhone.flow Sample.setup).run phonedAgain).1).isSome = true ∧
    ((byPhone.flow Sample.setup).run phonedAgain).2.store.users.map (·.id) = [1] ∧
    (((byPhone.flow Sample.setup).run phonedAgain).2.store.rowFor 1).map (·.provider)
      = some .google ∧
    ∀ user : User, user.id = 1 → (Session.update Sample.setup user .phone "::1").run phonedAgain
      ≠ (Session.create Sample.setup user .phone "::1").run phonedAgain := by
  refine ⟨phonedAgain_reachable, rfl, by decide +kernel, by decide +kernel, by decide +kernel,
    fun user hid hsame => ?_⟩
  have hgoogle : (phonedAgain.store.rowFor 1).map (·.provider) = some .google := by decide +kernel
  obtain ⟨row, hrow, hprovider⟩ := Option.map_eq_some_iff.1 hgoogle
  have hphone := (run_update_eq_iff phonedAgain_reachable.ledger.rows user .phone "::1").1 hsame row
    (hid ▸ hrow)
  rw [hprovider] at hphone
  cases hphone

end SignOn.Account
