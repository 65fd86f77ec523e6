import SignOn.Proofs.Account.Preconditions
/-!
For whom a call writes. A call writes a session row or a session key only for the account that it is
meant for: the one that it has stored itself, the one that has the email or the phone by which it
signs in, the one whose refresh token it was given, or the one for whose email the provider vouches
(`flow_writesTarget`). And it asks the provider for a profile once at most.
-/

namespace SignOn.Account

open SignOn.Keyspace SignOn.Session SignOn.Verification

/-! ## Whom a call is meant for -/

/-- The store finds accounts by what they have, and stores them with the email that it is given. -/
def Truthful : Event → Prop
  | ⟨.store (.userByEmail email), .ok (some user)⟩ => user.email = some email
  | ⟨.store (.userByPhone phone), .ok (some user)⟩ => user.phone = some phone
  | ⟨.store (.createUser new), .ok user⟩ => user.email = new.email
  | _ => True

/-- The provider has not vouched for anybody. -/
def Unvouched (past : List Event) : Prop := ∀ token profile, ⟨.profile token, .ok profile⟩ ∉ past

/-- The provider has vouched for the email of an account. -/
def Vouched (past : List Event) (user : User) : Prop :=
  ∃ token profile, ⟨.profile token, .ok profile⟩ ∈ past ∧ user.email = some profile.email

/-- A request signs in by the email or the phone of an account. -/
def Names (request : SignInRequest) (user : User) : Prop :=
  (request.provider = .email ∧ ∃ email, request.email = some email ∧ user.email = some email) ∨
    (request.provider = .phone ∧ ∃ phone, request.phone = some phone ∧
      user.phone = some (Phone.normalize phone))

/-- A call is meant for an account. -/
def Meant (s : Setup) (past : List Event) (user : User) : Call → Prop
  | .signUp .. => ∃ new, Registers past new user
  | .complete .. => ∃ new, Registers past new user
  | .signIn request _ => Names request user
  | .refresh token ip => Owns s (.refresh token ip) past user
  | .callback .. => Vouched past user
  | .device .. => Vouched past user
  | _ => False

/-- A call may write for an account: it has seen it, and is meant for it. -/
structure Target (s : Setup) (k : Call) (past : List Event) (user : User) : Prop where
  seen : Seen past user
  meant : Meant s past user k

/-- What a call may do next: it writes sessions for the account that it is meant for, and asks for a
profile only once. -/
def WritesTarget (s : Setup) (k : Call) (past : List Event) : Act → Prop
  | .store (.createSession new) => ∃ user, Target s k past user ∧ new.userId = user.id
  | .store (.updateSession update) => ∃ user, Target s k past user ∧ update.userId = user.id
  | .cache (.set key _ _) =>
    ∀ code, key = Sessions.key code → ∃ user, Target s k past user ∧ user.idCode = code
  | .profile _ => Unvouched past
  | _ => True

/-- Whatever the call is answered, it keeps to its aims, and the value that it gives, if any, is as
stated. -/
abbrev Targets {α : Type} (s : Setup) (k : Call) (P : List Event → α → Prop) (past : List Event)
    (f : Flow α) : Prop := Flow.Leads Truthful (WritesTarget s k) P past f

theorem truthful_event (w : World) (act : Act) : Truthful (w.event act) := by
  cases act with
  | store st =>
    cases st with
    | userByEmail email =>
      change Truthful ⟨.store (.userByEmail email),
        .ok (w.store.users.find? (·.email == some email))⟩
      cases hfound : w.store.users.find? (·.email == some email) with
      | none => trivial
      | some user =>
        have hfits := List.find?_some hfound
        exact eq_of_beq hfits
    | userByPhone phone =>
      change Truthful ⟨.store (.userByPhone phone),
        .ok (w.store.users.find? (·.phone == some phone))⟩
      cases hfound : w.store.users.find? (·.phone == some phone) with
      | none => trivial
      | some user =>
        have hfits := List.find?_some hfound
        exact eq_of_beq hfits
    | createUser new =>
      change Truthful ⟨.store (.createUser new), (w.store.createUser new w.instant).1⟩
      rcases Store.Memory.createUser_cases w.store new w.instant with he | ⟨he, -⟩
      · rw [he]
        trivial
      · rw [he]
        exact rfl
    | _ => trivial
  | _ => trivial

section
variable {s : Setup} {k : Call} {past later : List Event} {user : User}

theorem Vouched.mono (h : Vouched past user) (hsub : past ⊆ later) : Vouched later user := by
  obtain ⟨token, profile, he, hemail⟩ := h
  exact ⟨token, profile, hsub he, hemail⟩

theorem Meant.mono (h : Meant s past user k) (hsub : past ⊆ later) : Meant s later user k := by
  cases k with
  | signUp request ip => exact h.imp fun _ hnew => hsub hnew
  | complete request ip => exact h.imp fun _ hnew => hsub hnew
  | signIn request ip => exact h
  | refresh token ip =>
    intro token' ip' hk
    obtain ⟨row, now, snapshot, hrow, hvalid, hfound⟩ := h token' ip' hk
    exact ⟨row, now, snapshot, hsub hrow, hvalid, hsub hfound⟩
  | callback state code ip => exact Vouched.mono h hsub
  | device token ip => exact Vouched.mono h hsub
  | _ => exact h.elim

theorem Target.mono (h : Target s k past user) (hsub : past ⊆ later) : Target s k later user := by
  obtain ⟨⟨e, he, hshown⟩, hmeant⟩ := h
  exact ⟨⟨e, hsub he, hshown⟩, hmeant.mono hsub⟩

end

/-! ## Acts that write no session -/

/-- An act that writes no session, and asks for no profile. -/
def IsPlain : Act → Prop
  | .store (.createSession _) => False
  | .store (.updateSession _) => False
  | .cache (.set key _ _) => ∀ code, key ≠ Sessions.key code
  | .profile _ => False
  | _ => True

theorem IsPlain.key {key : String} (h : ∀ code, Sessions.key code ≠ key) {cmd : Cache.Command}
    (hc : cmd.key? = some key) : IsPlain (.cache cmd) := by
  cases cmd with
  | set key' value lifetime =>
    obtain rfl : key' = key := Option.some.inj hc
    exact fun code hcode => h code hcode.symm
  | _ => trivial

instance : AdmitsCodes IsPlain where
  clock := trivial
  uuid := trivial
  salt := trivial
  lookup st h := by cases st <;> first | exact h.elim | trivial
  request _ id := .key fun code => sessions_ne_requests code id
  state _ state := .key fun code => sessions_ne_states code state
  code := trivial
  bundle _ subject := .key fun code => sessions_ne_bundles code subject
  mail _ _ := trivial
  text _ _ := trivial

theorem logout_plain (token : String) : (logout token).Acts IsPlain := by
  refine (statement_acts trivial).bind fun found => (Flow.acts_require _ _ _).bind fun row => ?_
  refine now_acts.bind fun now => (statement_acts trivial).bind fun _ => ?_
  refine (lookup_acts (.userById _) trivial).bind fun owner => ?_
  cases owner with
  | some user => exact command_acts trivial
  | none => trivial

theorem IsPlain.writesTarget {act : Act} (h : IsPlain act) (s : Setup) (k : Call)
    (past : List Event) : WritesTarget s k past act := by
  cases act with
  | store st => cases st <;> first | exact h.elim | trivial
  | cache cmd =>
    cases cmd with
    | set key value lifetime => exact fun code hcode => absurd hcode (h code)
    | _ => trivial
  | profile token => exact h.elim
  | _ => trivial

/-- How a call goes on without asking for a profile. -/
structure Grows (past later : List Event) : Prop where
  kept : past ⊆ later
  unvouched : Unvouched past → Unvouched later

section
variable {past mid later : List Event}

theorem Grows.refl (past : List Event) : Grows past past := ⟨List.Subset.refl _, id⟩

theorem Grows.trans (h : Grows past mid) (h' : Grows mid later) : Grows past later :=
  ⟨List.Subset.trans h.kept h'.kept, h'.unvouched ∘ h.unvouched⟩

theorem Grows.append (h : Grows past later) {e : Event} (he : IsPlain e.act) :
    Grows past (later ++ [e]) := by
  refine ⟨List.Subset.trans h.kept (List.subset_append_left _ _), fun hpast token profile hm => ?_⟩
  rcases List.mem_append.1 hm with hm | hm
  · exact h.unvouched hpast token profile hm
  · rw [List.mem_singleton] at hm
    subst hm
    exact he

end

/-! ## Steps -/

section
variable {s : Setup} {k : Call} {α β : Type} {past : List Event} {P : List Event → α → Prop}
  {Q : List Event → β → Prop} {user : User}

theorem targets_of_plain {f : Flow α} (hf : f.Acts IsPlain) :
    Targets s k (fun later _ => Grows past later) past f :=
  .of_acts (J := Grows past) hf (fun _ _ ha _ hgrows => hgrows.append ha)
    (fun later _ ha _ => ha.writesTarget s k later) (fun _ _ hgrows _ _ => hgrows) (.refl past)

/-- A plain part of a call comes first. -/
theorem plain_then {f : Flow α} {g : α → Flow β} (hf : f.Acts IsPlain)
    (hg : ∀ a later, Grows past later → Targets s k Q later (g a)) :
    Targets s k Q past (f >>= g) :=
  (targets_of_plain hf).bind hg

/-- A statement that writes no session comes first. -/
theorem told_then (st : Store.Statement) (hst : IsPlain (.store st)) {g : st.Answer → Flow β}
    (hg : ∀ answer later, Grows past later → ⟨.store st, .ok answer⟩ ∈ later →
      Truthful ⟨.store st, .ok answer⟩ → Targets s k Q later (g answer)) :
    Targets s k Q past (Flow.store st >>= g) := by
  refine ⟨hst.writesTarget s k past, fun answer htruthful => ?_⟩
  cases answer with
  | ok answer =>
    exact hg answer _ ((Grows.refl past).append hst)
      (List.mem_append_right _ List.mem_cons_self) htruthful
  | error e => exact Flow.leads_fail (P := Q) e

/-- The call goes on only with a field that its request has. -/
theorem field_then {value : Option String} {field : String} {g : String → Flow β}
    (hg : ∀ a, value = some a → Targets s k Q past (g a)) :
    Targets s k Q past (required value field >>= g) :=
  Flow.require_leads fun a ha => hg a (Option.eq_some_of_filter_eq_some ha)

end

/-! ## Sessions of one account -/

/-- An act that writes the session of one account. -/
def WritesFor (user : User) : Act → Prop
  | .clock => True
  | .uuid => True
  | .store (.createSession new) => new.userId = user.id
  | .store (.updateSession update) => update.userId = user.id
  | .cache (.set key _ _) => key = Sessions.key user.idCode
  | _ => False

theorem mint_writesFor {s : Setup} {user : User} {α : Type} {g : Snapshot → TokenPair → Flow α}
    (hg : ∀ m : Mint, (g (m.snapshot user) (m.pair s user)).Acts (WritesFor user)) : (do
      let snapshot ← Session.newSnapshot user
      let pair ← Session.issuePair s snapshot
      g snapshot pair).Acts (WritesFor user) :=
  ⟨trivial, fun startedAt => ⟨trivial, fun key => ⟨trivial, fun issuedAt =>
    ⟨trivial, fun accessId => ⟨trivial, fun refreshId =>
      hg ⟨startedAt, key, issuedAt, accessId, refreshId⟩⟩⟩⟩⟩⟩

theorem put_writesFor (s : Setup) (user : User) (m : Mint) : (do
    Sessions.put s.sessionLifetime (m.snapshot user).idCode (m.snapshot user).sessionKey
    return m.pair s user : Flow TokenPair).Acts (WritesFor user) :=
  Flow.Acts.bind ⟨rfl, fun _ => Flow.acts_ofExcept _ _⟩ fun _ => trivial

theorem insert_writesFor (s : Setup) (user : User) (m : Mint) (provider : AuthProvider)
    (ip : String) : (Flow.store
      (.createSession (newRow (m.snapshot user) (m.pair s user) provider ip))).Acts
        (WritesFor user) := statement_acts rfl

theorem create_writesFor (s : Setup) (user : User) (provider : AuthProvider) (ip : String) :
    (Session.create s user provider ip).Acts (WritesFor user) :=
  mint_writesFor fun m => (insert_writesFor s user m provider ip).bind fun _ =>
    put_writesFor s user m

theorem update_writesFor (s : Setup) (user : User) (provider : AuthProvider) (ip : String) :
    (Session.update s user provider ip).Acts (WritesFor user) := by
  refine mint_writesFor fun m => ?_
  have hupdate : (Flow.store (.updateSession ⟨(m.snapshot user).userId, ip, (m.pair s user).refresh,
      (m.snapshot user).startedAt⟩)).Acts (WritesFor user) := statement_acts rfl
  refine hupdate.bind fun updated => ?_
  cases updated with
  | true => exact put_writesFor s user m
  | false =>
    exact (insert_writesFor s user m provider ip).bind fun _ => put_writesFor s user m

section
variable {s : Setup} {k : Call} {α : Type} {past : List Event} {user : User}

theorem WritesFor.writesTarget {act : Act} (h : WritesFor user act) (ht : Target s k past user) :
    WritesTarget s k past act := by
  cases act with
  | store st =>
    cases st with
    | createSession new => exact ⟨user, ht, h⟩
    | updateSession update => exact ⟨user, ht, h⟩
    | _ => exact h.elim
  | cache cmd =>
    cases cmd with
    | set key value lifetime =>
      exact fun code hcode => ⟨user, ht, sessions_key_injective (h.symm.trans hcode)⟩
    | _ => exact h.elim
  | clock => trivial
  | uuid => trivial
  | _ => exact h.elim

/-- A session is written for the account that the call is meant for. -/
theorem targets_of_writesFor {f : Flow α} (hf : f.Acts (WritesFor user))
    (ht : Target s k past user) : Targets s k (fun _ _ => True) past f :=
  .of_acts (J := fun later => Target s k later user) hf
    (fun _ _ _ _ h => h.mono (List.subset_append_left _ _)) (fun _ _ ha h => ha.writesTarget h)
    (fun _ _ _ _ _ => trivial) ht

end

/-! ## Each call -/

section
variable (s : Setup) {k : Call} {past : List Event}

theorem byPassword_targets (email password : String) :
    Targets s k (fun later user => Seen later user ∧ user.email = some email) past
      (byPassword s email password) := by
  refine told_then (.userByEmail email) trivial fun found past₁ h₁ hfound htruthful =>
    Flow.require_leads fun user hu => ?_
  subst hu
  refine plain_then (Flow.acts_ensure _ _ _) fun _ past₂ h₂ => ?_
  refine plain_then (Flow.acts_ofExcept _ _) fun _ past₃ h₃ => ?_
  exact Flow.leads_pure ⟨⟨_, h₃.kept (h₂.kept hfound), rfl⟩, htruthful⟩

theorem byCode_targets (phone code : String) :
    Targets s k (fun later user => Seen later user ∧ user.phone = some phone) past
      (byCode phone code) := by
  refine plain_then (check_acts _ code) fun _ past₁ h₁ => ?_
  refine told_then (.userByPhone phone) trivial fun found past₂ h₂ hfound htruthful =>
    Flow.require_leads fun user hu => ?_
  subst hu
  refine plain_then (clear_acts _) fun _ past₃ h₃ => ?_
  exact Flow.leads_pure ⟨⟨_, h₃.kept hfound, rfl⟩, htruthful⟩

/-- The provider vouches for the email of a profile. -/
theorem profile_targets (token : String) (h : Unvouched past) : Targets s k
    (fun later profile => ⟨.profile token, .ok profile⟩ ∈ later) past (Flow.profile token) := by
  refine ⟨h, fun answer _ => ?_⟩
  cases answer with
  | ok profile =>
    exact Flow.leads_pure (P := fun later profile => ⟨.profile token, .ok profile⟩ ∈ later)
      (List.mem_append_right _ List.mem_cons_self)
  | error e => exact Flow.leads_fail e

theorem signUp_targets (request : SignUpRequest) (ip : String) :
    Targets s (.signUp request ip) (fun _ _ => True) past (signUp s request ip) := by
  refine plain_then (ensureValid_acts _) fun _ past₁ h₁ => ?_
  refine plain_then (ensureFreeEmail_acts _) fun _ past₂ h₂ => ?_
  refine plain_then (ensureFreePhone_acts _) fun _ past₃ h₃ => ?_
  refine plain_then uuid_acts fun id past₄ h₄ => ?_
  refine plain_then salt_acts fun salt past₅ h₅ => ?_
  refine plain_then (Flow.acts_ofExcept _ _) fun hash past₆ h₆ => ?_
  refine told_then (.createUser _) trivial fun user past₇ h₇ hnew _ => ?_
  have ht : Target s (.signUp request ip) past₇ user := ⟨⟨_, hnew, rfl⟩, _, hnew⟩
  exact (targets_of_writesFor (create_writesFor s user .email ip) ht).bind
    fun _ _ _ => Flow.leads_pure trivial

theorem signIn_targets (request : SignInRequest) (ip : String) :
    Targets s (.signIn request ip) (fun _ _ => True) past (signIn s request ip) := by
  have hfinish (provider : AuthProvider) (user : User) {later : List Event}
      (ht : Target s (.signIn request ip) later user) :
      Targets s (.signIn request ip) (fun _ _ => True) later (do
        Flow.ensure (!user.isDeleted) .inactiveUser
        let tokens ← Session.update s user provider ip
        return respond user tokens) :=
    plain_then (Flow.acts_ensure _ _ _) fun _ _ hgrows =>
      (targets_of_writesFor (update_writesFor s user provider ip) (ht.mono hgrows.kept)).bind
        fun _ _ _ => Flow.leads_pure trivial
  refine plain_then (ensureValid_acts _) fun _ past₁ h₁ => ?_
  cases hp : request.provider with
  | email =>
    refine field_then fun email he => ?_
    refine field_then fun password _ => ?_
    exact (byPassword_targets s email password).bind fun user later ⟨hseen, hemail⟩ =>
      hfinish _ user ⟨hseen, .inl ⟨hp, email, he, hemail⟩⟩
  | phone =>
    refine field_then fun phone hphone => ?_
    refine field_then fun code _ => ?_
    exact (byCode_targets s (Phone.normalize phone) code).bind fun user later ⟨hseen, huser⟩ =>
      hfinish _ user ⟨hseen, .inr ⟨hp, phone, hphone, huser⟩⟩
  | google => exact Flow.leads_fail _

theorem refresh_targets (token ip : String) :
    Targets s (.refresh token ip) (fun _ _ => True) past (refresh s token ip) := by
  refine Flow.Leads.bind (P := fun _ _ => True) ?_ fun _ _ _ => Flow.leads_pure trivial
  refine Flow.Leads.bind (P := fun later snapshot => ∃ row now found,
    ⟨.store (.sessionByToken token), .ok (some row)⟩ ∈ later ∧
      Token.validate s.suite.sign s.settings.token .refresh now token = .ok found ∧
      snapshot.idCode = found.idCode) ?_ fun snapshot past₁ ⟨row, now, found, hrow, hv, hcode⟩ => ?_
  · refine told_then (.sessionByToken token) trivial fun answer past₁ h₁ hrow _ =>
      Flow.require_leads fun row hr => ?_
    subst hr
    refine ⟨trivial, fun now _ => ?_⟩
    have hmem (x : Event) : x ∈ past₁ → x ∈ past₁ ++ [⟨.clock, now⟩] := List.mem_append_left _
    refine Flow.ofExcept_leads fun found hv => ?_
    refine plain_then (Flow.acts_ensure _ _ _) fun _ past₂ h₂ => ?_
    exact Flow.leads_pure ⟨row, now, found, h₂.kept (hmem _ hrow), hv, rfl⟩
  · refine told_then (.userByIdCode snapshot.idCode) trivial fun owner past₂ h₂ howner _ =>
      Flow.require_leads fun user hu => ?_
    subst hu
    refine plain_then (Flow.acts_ensure _ _ _) fun _ past₃ h₃ => ?_
    have hown : Owns s (.refresh token ip) past₃ user := by
      rintro token' ip' he
      cases he
      exact ⟨row, now, found, h₃.kept (h₂.kept hrow), hv, hcode ▸ h₃.kept howner⟩
    have ht : Target s (.refresh token ip) past₃ user := ⟨⟨_, h₃.kept howner, rfl⟩, hown⟩
    exact (targets_of_writesFor (update_writesFor s user user.provider ip) ht).bind
      fun _ _ _ => Flow.leads_pure trivial

/-- The account that is opened for an email has it. -/
theorem googleUser_targets (email : String) (phone : Option String) : Targets s k
    (fun later user => past ⊆ later ∧ user.email = some email ∧ ∃ new, Registers later new user)
    past (Google.createUser email phone) := by
  refine plain_then uuid_acts fun id past₁ h₁ => ⟨trivial, fun answer htruthful => ?_⟩
  cases answer with
  | error e => exact Flow.leads_fail e
  | ok user =>
    intro opened he
    obtain rfl : user = opened := Except.ok.inj he
    exact ⟨List.Subset.trans h₁.kept (List.subset_append_left _ _), htruthful, _,
      List.mem_append_right _ List.mem_cons_self⟩

theorem signInWith_targets (hk : ∀ past user, Vouched past user → Meant s past user k)
    {profile : UserProfile} {token : String} (hp : ⟨.profile token, .ok profile⟩ ∈ past)
    (ip : String) :
    Targets s k (fun _ _ => True) past (Google.signInWith s profile.email ip) := by
  refine told_then (.userByEmail profile.email) trivial fun found past₁ h₁ hfound htruthful => ?_
  cases found with
  | some user =>
    refine plain_then (Flow.acts_ensure _ _ _) fun _ past₂ h₂ => ?_
    have hvouched : Vouched past₂ user := ⟨token, profile, h₂.kept (h₁.kept hp), htruthful⟩
    exact targets_of_writesFor (update_writesFor s user .google ip)
      ⟨⟨_, h₂.kept hfound, rfl⟩, hk _ _ hvouched⟩
  | none =>
    refine (googleUser_targets s profile.email none).bind
      fun user past₂ ⟨h₂, hemail, new, hnew⟩ => ?_
    have hvouched : Vouched past₂ user := ⟨token, profile, h₂ (h₁.kept hp), hemail⟩
    exact targets_of_writesFor (create_writesFor s user .google ip)
      ⟨⟨_, hnew, rfl⟩, hk _ _ hvouched⟩

theorem profileOrRestore_targets (state : String) (claimedAt : Int) (code : String)
    (h : Unvouched past) : Targets s k
      (fun later profile => ∃ token, ⟨.profile token, .ok profile⟩ ∈ later) past
      (Google.profileOrRestore s state claimedAt code) := by
  have hfailed (e : Failure) (later : List Event) : Targets s k
      (fun later profile => ∃ token, ⟨.profile token, .ok profile⟩ ∈ later) later (do
        let _ ← States.restore s.stateLifetime state claimedAt
        .fail e) := plain_then (restore_acts s state claimedAt) fun _ _ _ => Flow.leads_fail e
  refine ⟨trivial, fun token _ => ?_⟩
  cases token with
  | error e => exact hfailed e _
  | ok token =>
    have hgrows := (Grows.refl past).append (e := ⟨.exchange code, .ok token⟩) trivial
    refine ⟨hgrows.unvouched h, fun profile _ => ?_⟩
    cases profile with
    | error e => exact hfailed e _
    | ok profile =>
      exact Flow.leads_pure
        (P := fun later profile => ∃ token, ⟨.profile token, .ok profile⟩ ∈ later)
        ⟨token.accessToken, List.mem_append_right _ List.mem_cons_self⟩

theorem callback_targets (state code ip : String) (h : Unvouched past) :
    Targets s (.callback state code ip) (fun _ _ => True) past
      (Google.callback s state code ip) := by
  refine plain_then (Flow.acts_ensure _ _ _) fun _ past₁ h₁ => ?_
  refine plain_then (claimedAt_acts state) fun found past₂ h₂ => ?_
  refine plain_then (Flow.acts_require _ _ _) fun claimedAt past₃ h₃ => ?_
  refine plain_then now_acts fun now past₄ h₄ => ?_
  refine plain_then (Flow.acts_ensure _ _ _) fun _ past₅ h₅ => ?_
  refine plain_then (take_acts s state claimedAt) fun taken past₆ h₆ => ?_
  refine plain_then (Flow.acts_ensure _ _ _) fun _ past₇ h₇ => ?_
  have hgrows := (((((h₁.trans h₂).trans h₃).trans h₄).trans h₅).trans h₆).trans h₇
  refine (profileOrRestore_targets s state claimedAt code (hgrows.unvouched h)).bind
    fun profile past₈ ⟨token, hp⟩ => ?_
  refine plain_then (release_acts state) fun _ past₉ h₉ => ?_
  exact signInWith_targets (k := .callback state code ip) s (fun _ _ hvouched => hvouched)
    (h₉.kept hp) ip

theorem fromDevice_targets (googleToken ip : String) (h : Unvouched past) :
    Targets s (.device googleToken ip) (fun _ _ => True) past
      (Google.fromDevice s googleToken ip) := by
  refine (profile_targets s googleToken h).bind fun profile past₁ hp => ?_
  refine told_then (.userByEmail profile.email) trivial fun found past₂ h₂ hfound htruthful => ?_
  cases found with
  | some user =>
    refine plain_then (Flow.acts_ensure _ _ _) fun _ past₃ h₃ => ?_
    have hvouched : Vouched past₃ user := ⟨googleToken, profile, h₃.kept (h₂.kept hp), htruthful⟩
    have ht : Target s (.device googleToken ip) past₃ user := ⟨⟨_, h₃.kept hfound, rfl⟩, hvouched⟩
    exact (targets_of_writesFor (update_writesFor s user .google ip) ht).bind
      fun _ _ _ => Flow.leads_pure trivial
  | none =>
    generalize Uuid.text = name
    exact plain_then uuid_acts fun id _ _ => plain_then (newRequest_acts s (name id) _)
      fun _ _ _ => Flow.leads_pure trivial

theorem complete_targets (request : CompleteRequest) (ip : String) :
    Targets s (.complete request ip) (fun _ _ => True) past (complete s request ip) := by
  refine plain_then (ensureValid_acts _) fun _ past₁ h₁ => ?_
  refine plain_then (provenEmail_acts _) fun email past₂ h₂ => ?_
  refine plain_then (check_acts _ _) fun _ past₃ h₃ => ?_
  refine plain_then (ensureFreeEmail_acts _) fun _ past₄ h₄ => ?_
  refine plain_then (ensureFreePhone_acts _) fun _ past₅ h₅ => ?_
  refine (googleUser_targets s email (some (Phone.normalize request.phone))).bind
    fun user past₆ ⟨_, _, new, hnew⟩ => ?_
  refine plain_then (dropRequest_acts _) fun _ past₇ h₇ => ?_
  refine plain_then (clear_acts _) fun _ past₈ h₈ => ?_
  have hreg := h₈.kept (h₇.kept hnew)
  have ht : Target s (.complete request ip) past₈ user := ⟨⟨_, hreg, rfl⟩, new, hreg⟩
  exact (targets_of_writesFor (create_writesFor s user .google ip) ht).bind
    fun _ _ _ => Flow.leads_pure trivial

/-- Whatever a call is answered, it writes sessions only for the account that it is meant for. -/
theorem flow_writesTarget (k : Call) : (k.flow s).Along Truthful (WritesTarget s k)
    (fun _ _ => True) [] := by
  have hplain {k : Call} (hf : (k.flow s).Acts IsPlain) :
      Targets s k (fun _ _ => True) [] (k.flow s) :=
    (targets_of_plain hf).mono fun _ _ _ _ _ => trivial
  have hnone : Unvouched [] := fun _ _ => List.not_mem_nil
  have htargets : Targets s k (fun _ _ => True) [] (k.flow s) := by
    cases k with
    | signUp request ip => exact signUp_targets s request ip
    | signIn request ip => exact signIn_targets s request ip
    | refresh token ip => exact refresh_targets s token ip
    | logout token => exact hplain (logout_plain token)
    | redirect state => exact hplain (redirectUrl_acts s state)
    | callback state code ip => exact callback_targets s state code ip hnone
    | device googleToken ip => exact fromDevice_targets s googleToken ip hnone
    | complete request ip => exact complete_targets s request ip
    | sendCode request => exact hplain (sendCode_acts s request)
  exact htargets.mono fun _ _ _ => trivial

end

end SignOn.Account
