import SignOn.Proofs.Account.Calls
/-!
What entitles a call to what it does. Whatever a call is answered, it stores an account once at
most, it writes a session row or a session key only for an account that it has seen in service, it
sends a code only to one that it has looked up, and the pair that it hands out is one that it has
made for an account in service: `flow_permitted`. Only a logout ends a session, the one whose token
it was given.
-/

namespace SignOn.Account

open SignOn.Keyspace SignOn.Session SignOn.Verification

/-! ## What a call has seen -/

/-- The account that the store has shown in an event. -/
def shown? : Event → Option User
  | ⟨.store (.createUser _), .ok user⟩ => some user
  | ⟨.store (.userById _), .ok found⟩ => found
  | ⟨.store (.userByIdCode _), .ok found⟩ => found
  | ⟨.store (.userByEmail _), .ok found⟩ => found
  | ⟨.store (.userByPhone _), .ok found⟩ => found
  | _ => none

/-- A call has seen an account in service. -/
def InService (past : List Event) (user : User) : Prop :=
  user.isDeleted = false ∧ ∃ e ∈ past, shown? e = some user

/-- A call has seen an account in service, and has read from the clock what goes into a pair. -/
structure Backs (past : List Event) (user : User) (m : Mint) : Prop where
  inService : InService past user
  started : ⟨.clock, m.startedAt⟩ ∈ past
  issued : ⟨.clock, m.issuedAt⟩ ∈ past

/-- The user whose row was written in an event, and the refresh token that it was given. -/
def written? : Event → Option (Int × String)
  | ⟨.store (.createSession new), .ok _⟩ => some (new.userId, new.refreshToken)
  | ⟨.store (.updateSession update), .ok true⟩ => some (update.userId, update.refreshToken)
  | _ => none

/-- A pair that a call has made for an account in service, and written into its row. -/
def Handed (s : Setup) (past : List Event) (pair : TokenPair) : Prop :=
  ∃ user m, Backs past user m ∧ pair = m.pair s user ∧
    ∃ e ∈ past, written? e = some (user.id, pair.refresh)

/-- The act of storing an account. -/
def isCreation : Act → Bool
  | .store (.createUser _) => true
  | _ => false

/-- A call has not tried to store an account. -/
def Untried (past : List Event) : Prop := ∀ e ∈ past, isCreation e.act = false

/-- No account was refused to a call. -/
def Unrefused (past : List Event) : Prop :=
  ∀ new failure, ⟨.store (.createUser new), .error failure⟩ ∉ past

/-- An account that the store gives for a new one is that one, in service. -/
def Faithful : Event → Prop
  | ⟨.store (.createUser new), .ok user⟩ =>
    user.isDeleted = false ∧ user.email = new.email ∧ user.phone = new.phone
  | _ => True

/-- How a call goes on that stores no account meanwhile. -/
def UntriedSince (past later : List Event) : Prop :=
  ∃ more, later = past ++ more ∧ Untried more

section
variable {past later : List Event} {user : User} {m : Mint}

theorem UntriedSince.refl (past : List Event) : UntriedSince past past :=
  ⟨[], (List.append_nil past).symm, by intro e he; cases he⟩

theorem UntriedSince.append (h : UntriedSince past later) {e : Event}
    (he : isCreation e.act = false) : UntriedSince past (later ++ [e]) := by
  obtain ⟨more, rfl, hmore⟩ := h
  refine ⟨more ++ [e], List.append_assoc .., fun x hx => ?_⟩
  rcases List.mem_append.1 hx with hx | hx
  · exact hmore x hx
  · rw [List.mem_singleton] at hx
    exact hx ▸ he

theorem UntriedSince.trans {mid : List Event} (h : UntriedSince past mid)
    (h' : UntriedSince mid later) : UntriedSince past later := by
  obtain ⟨more, rfl, hmore⟩ := h
  obtain ⟨more', rfl, hmore'⟩ := h'
  refine ⟨more ++ more', List.append_assoc .., fun e he => ?_⟩
  rcases List.mem_append.1 he with he | he
  · exact hmore e he
  · exact hmore' e he

theorem UntriedSince.mem (h : UntriedSince past later) {e : Event} (he : e ∈ past) : e ∈ later := by
  obtain ⟨more, rfl, -⟩ := h
  exact List.mem_append_left _ he

theorem UntriedSince.untried (h : UntriedSince past later) (hpast : Untried past) :
    Untried later := by
  obtain ⟨more, rfl, hmore⟩ := h
  intro e he
  rcases List.mem_append.1 he with he | he
  · exact hpast e he
  · exact hmore e he

theorem Untried.unrefused (h : Untried past) : Unrefused past := by
  intro new failure he
  cases h _ he

theorem UntriedSince.unrefused (h : UntriedSince past later) (hpast : Unrefused past) :
    Unrefused later := by
  obtain ⟨more, rfl, hmore⟩ := h
  intro new failure he
  rcases List.mem_append.1 he with he | he
  · exact hpast new failure he
  · exact hmore.unrefused new failure he

theorem InService.extend (h : InService past user) (hext : UntriedSince past later) :
    InService later user := by
  obtain ⟨hservice, e, he, hshown⟩ := h
  exact ⟨hservice, e, hext.mem he, hshown⟩

theorem Backs.extend (h : Backs past user m) (hext : UntriedSince past later) :
    Backs later user m :=
  ⟨h.inService.extend hext, hext.mem h.started, hext.mem h.issued⟩

end

/-! ## What a call may do -/

/-- An account that may be stored: it comes with a password, an email and a phone, or through
Google, with an email. -/
def IsRegular (s : Setup) (new : NewUser) : Prop :=
  (new.provider = .email ∧ new.email.isSome = true ∧ new.phone.isSome = true ∧
      new.activated = false ∧
      ∃ salt password, s.suite.hashPassword salt password = .ok new.passwordHash) ∨
    (new.provider = .google ∧ new.email.isSome = true ∧ new.activated = true ∧
      new.passwordHash = "")

/-- The call is a logout, and has found a row by the token that it was given. -/
def MayEnd (k : Call) (past : List Event) (row : SessionRow) : Prop :=
  ∃ token, k = .logout token ∧ ⟨.store (.sessionByToken token), .ok (some row)⟩ ∈ past

/-- If the call is a refresh, the account is the one that the refresh token of a row names. -/
def Owns (s : Setup) (k : Call) (past : List Event) (user : User) : Prop :=
  ∀ token ip, k = .refresh token ip → ∃ row now snapshot,
    ⟨.store (.sessionByToken token), .ok (some row)⟩ ∈ past ∧
    Token.validate s.suite.sign s.settings.token .refresh now token = .ok snapshot ∧
    ⟨.store (.userByIdCode snapshot.idCode), .ok (some user)⟩ ∈ past

theorem Owns.extend {s : Setup} {k : Call} {past later : List Event} {user : User}
    (h : Owns s k past user) (hext : UntriedSince past later) : Owns s k later user := by
  intro token ip hk
  obtain ⟨row, now, snapshot, hrow, hvalid, hfound⟩ := h token ip hk
  exact ⟨row, now, snapshot, hext.mem hrow, hvalid, hext.mem hfound⟩

/-- What a call may write into a session row: the refresh token of a pair that it has made for the
account whose row it is, and when that session began. -/
def Writes (s : Setup) (k : Call) (past : List Event) (userId : Int) (token : String)
    (startedAt : Int) : Prop :=
  ∃ user m, Backs past user m ∧ Owns s k past user ∧ userId = user.id ∧
    token = (m.pair s user).refresh ∧ startedAt = m.startedAt

/-- What a call may do to the session key of a code: cache it, if it has seen the account in
service, or drop it, if it is a logout and the account is that of the row. -/
def WorksOnKey (k : Call) (past : List Event) (code : String) (cmd : Cache.Command) : Prop :=
  (∃ value lifetime user, cmd = .set (Sessions.key code) value lifetime ∧ InService past user ∧
      user.idCode = code) ∨
    ∃ row user, cmd = .delete (Sessions.key code) ∧ MayEnd k past row ∧
      ⟨.store (.userById row.userId), .ok (some user)⟩ ∈ past ∧ user.idCode = code

/-- What a call may do next. -/
def Permitted (s : Setup) (k : Call) (past : List Event) : Act → Prop
  | .store (.createUser new) => IsRegular s new ∧ Untried past
  | .store (.createSession new) => Writes s k past new.userId new.refreshToken new.startedAt
  | .store (.updateSession update) =>
    Writes s k past update.userId update.refreshToken update.startedAt
  | .store (.endSession id _) => ∃ row, MayEnd k past row ∧ id = row.id
  | .cache cmd => ∀ code, cmd.key? = some (Sessions.key code) → WorksOnKey k past code cmd
  | .mail address _ => ∃ user, user.isDeleted = false ∧
    ⟨.store (.userByEmail address), .ok (some user)⟩ ∈ past
  | .text number _ => ∃ found : Option User, (∀ user, found = some user → user.isDeleted = false) ∧
    ⟨.store (.userByPhone number), .ok found⟩ ∈ past
  | _ => True

/-- Whatever the call is answered, it does what it may do, and the value that it gives, if any, is
as stated. -/
abbrev Conforms {α : Type} (s : Setup) (k : Call) (P : List Event → α → Prop) (past : List Event)
    (f : Flow α) : Prop :=
  f.Along Faithful (Permitted s k) (fun later result => ∀ a, result = .ok a → P later a) past

/-- An act that stores nothing, sends nothing, and leaves session keys alone. -/
def IsIdle : Act → Prop
  | .store (.sessionByToken _) => True
  | .store st => st.IsLookup
  | .cache cmd => ∀ code, cmd.key? ≠ some (Sessions.key code)
  | .mail .. => False
  | .text .. => False
  | _ => True

theorem IsIdle.key {key : String} (h : ∀ code, Sessions.key code ≠ key) {cmd : Cache.Command}
    (hc : cmd.key? = some key) : IsIdle (.cache cmd) := by
  intro code hsession
  rw [hc] at hsession
  exact h code (Option.some.inj hsession).symm

instance : AdmitsProvider IsIdle where
  clock := trivial
  uuid := trivial
  salt := trivial
  lookup st h := by cases st <;> first | exact h | trivial
  request _ id := .key fun code => sessions_ne_requests code id
  state _ state := .key fun code => sessions_ne_states code state
  exchange _ := trivial
  profile _ := trivial

instance : AdmitsChecks IsIdle where
  look subject := .key (fun code => sessions_ne_bundles code subject) rfl
  void subject := .key (fun code => sessions_ne_bundles code subject) rfl

theorem IsIdle.permitted {act : Act} (h : IsIdle act) (s : Setup) (k : Call) (past : List Event) :
    Permitted s k past act := by
  cases act with
  | store st => cases st <;> first | exact h.elim | trivial
  | cache cmd => exact fun code hcode => absurd hcode (h code)
  | mail address code => exact h.elim
  | text phone message => exact h.elim
  | _ => trivial

theorem IsIdle.not_creation {act : Act} (h : IsIdle act) : isCreation act = false := by
  cases act with
  | store st => cases st <;> first | exact h.elim | rfl
  | _ => rfl

section
variable {s : Setup} {k : Call} {α β : Type} {past : List Event} {P : List Event → α → Prop}
  {Q : List Event → β → Prop}

theorem permitted_fail (e : Failure) : Conforms s k P past (.fail e) := Flow.leads_fail e

theorem permitted_pure {a : α} (h : P past a) : Conforms s k P past (pure a) := Flow.leads_pure h

theorem Conforms.bind {f : Flow α} {g : α → Flow β} (hf : Conforms s k P past f)
    (hg : ∀ a later, P later a → Conforms s k Q later (g a)) : Conforms s k Q past (f >>= g) :=
  Flow.Leads.bind hf hg

theorem permitted_of_idle {f : Flow α} (hf : f.Acts IsIdle) :
    Conforms s k (fun later _ => UntriedSince past later) past f :=
  .of_acts (J := UntriedSince past) hf (fun _ _ ha _ hext => hext.append ha.not_creation)
    (fun later _ ha _ => ha.permitted s k later) (fun _ _ hext _ _ => hext) (.refl past)

/-- An idle part of a call comes first. -/
theorem idle_then {f : Flow α} {g : α → Flow β} (hf : f.Acts IsIdle)
    (hg : ∀ a later, UntriedSince past later → Conforms s k Q later (g a)) :
    Conforms s k Q past (f >>= g) :=
  (permitted_of_idle hf).bind hg

/-- A statement other than storing an account comes first. -/
theorem stated_then (st : Store.Statement) (hst : Permitted s k past (.store st))
    (hc : isCreation (.store st) = false) {g : st.Answer → Flow β}
    (hg : ∀ answer later, UntriedSince past later → ⟨.store st, .ok answer⟩ ∈ later →
      Conforms s k Q later (g answer)) : Conforms s k Q past (Flow.store st >>= g) := by
  refine ⟨hst, fun answer _ => ?_⟩
  cases answer with
  | ok answer =>
    exact hg answer _ ((UntriedSince.refl past).append hc)
      (List.mem_append_right _ List.mem_cons_self)
  | error e => exact permitted_fail (P := Q) e

/-- The call goes on only with what was looked up. -/
theorem require_then {found : Option α} {e : Failure} {g : α → Flow β}
    (hg : ∀ a, found = some a → Conforms s k Q past (g a)) :
    Conforms s k Q past (Flow.require found e >>= g) := Flow.require_leads hg

/-- The call goes on only with what was computed. -/
theorem ofExcept_then {result : Except Failure α} {g : α → Flow β}
    (hg : ∀ a, result = .ok a → Conforms s k Q past (g a)) :
    Conforms s k Q past (Flow.ofExcept result >>= g) := Flow.ofExcept_leads hg

/-- The call goes on only with an account in service. -/
theorem inService_then {user : User} {e : Failure} {g : Unit → Flow β}
    (hg : user.isDeleted = false → Conforms s k Q past (g ())) :
    Conforms s k Q past (Flow.ensure (!user.isDeleted) e >>= g) := by
  cases hu : user.isDeleted with
  | true => exact permitted_fail (P := Q) e
  | false => exact hg hu

end

/-! ## Sessions -/

section
variable {s : Setup} {k : Call} {α : Type} {past : List Event} {user : User}
  {Q : List Event → α → Prop}

/-- The clock is read and the session is named, and a pair is made of that. -/
theorem mint_then (hu : InService past user) {g : Snapshot → TokenPair → Flow α}
    (hg : ∀ m later, UntriedSince past later → Backs later user m →
      Conforms s k Q later (g (m.snapshot user) (m.pair s user))) : Conforms s k Q past (do
      let snapshot ← Session.newSnapshot user
      let pair ← Session.issuePair s snapshot
      g snapshot pair) := by
  refine ⟨trivial, fun startedAt _ => ⟨trivial, fun key _ => ⟨trivial, fun issuedAt _ =>
    ⟨trivial, fun accessId _ => ⟨trivial, fun refreshId _ => ?_⟩⟩⟩⟩⟩
  have hext : UntriedSince past (past ++ [⟨.clock, startedAt⟩] ++ [⟨.uuid, key⟩] ++
      [⟨.clock, issuedAt⟩] ++ [⟨.uuid, accessId⟩] ++ [⟨.uuid, refreshId⟩]) :=
    (((((UntriedSince.refl past).append rfl).append rfl).append rfl).append rfl).append rfl
  refine hg ⟨startedAt, key, issuedAt, accessId, refreshId⟩ _ hext ⟨hu.extend hext, ?_, ?_⟩
  · simp
  · simp

/-- The key of a session is cached at the end. -/
theorem put_permitted {m : Mint} {start : List Event} (hext : UntriedSince start past)
    (hb : Backs past user m)
    (hw : ∃ e ∈ past, written? e = some (user.id, (m.pair s user).refresh)) :
    Conforms s k (fun later pair => UntriedSince start later ∧ Handed s later pair) past (do
      Keyspace.Sessions.put s.sessionLifetime (m.snapshot user).idCode (m.snapshot user).sessionKey
      return m.pair s user) := by
  refine ⟨fun code hcode => ?_, fun answer _ => ?_⟩
  · obtain rfl := sessions_key_injective (Option.some.inj hcode)
    exact .inl ⟨_, _, user, rfl, hb.inService, rfl⟩
  · cases answer with
    | error e => exact permitted_fail e
    | ok done =>
      have hext' := (UntriedSince.refl past).append
        (e := ⟨.cache (.set (Sessions.key user.idCode) (Text.utf8 m.key.text)
          (some s.sessionLifetime)), .ok done⟩) rfl
      obtain ⟨e, he, hwritten⟩ := hw
      exact permitted_pure
        ⟨hext.trans hext', user, m, hb.extend hext', rfl, e, hext'.mem he, hwritten⟩

theorem create_permitted (hu : InService past user) (ho : Owns s k past user)
    (provider : AuthProvider) (ip : String) :
    Conforms s k (fun later pair => UntriedSince past later ∧ Handed s later pair) past
      (Session.create s user provider ip) := by
  refine mint_then hu fun m past₁ h₁ hb => ?_
  refine stated_then (.createSession (newRow (m.snapshot user) (m.pair s user) provider ip))
    ⟨user, m, hb, ho.extend h₁, rfl, rfl, rfl⟩ rfl fun _ past₂ h₂ hrow => ?_
  exact put_permitted (h₁.trans h₂) (hb.extend h₂) ⟨_, hrow, rfl⟩

theorem update_permitted (hu : InService past user) (ho : Owns s k past user)
    (provider : AuthProvider) (ip : String) :
    Conforms s k (fun later pair => UntriedSince past later ∧ Handed s later pair) past
      (Session.update s user provider ip) := by
  refine mint_then hu fun m past₁ h₁ hb => ?_
  refine stated_then (.updateSession ⟨(m.snapshot user).userId, ip, (m.pair s user).refresh,
    (m.snapshot user).startedAt⟩) ⟨user, m, hb, ho.extend h₁, rfl, rfl, rfl⟩ rfl
    fun updated past₂ h₂ hrow => ?_
  cases updated with
  | true => exact put_permitted (h₁.trans h₂) (hb.extend h₂) ⟨_, hrow, rfl⟩
  | false =>
    refine stated_then (.createSession (newRow (m.snapshot user) (m.pair s user) provider ip))
      ⟨user, m, hb.extend h₂, ho.extend (h₁.trans h₂), rfl, rfl, rfl⟩ rfl fun _ past₃ h₃ hnew => ?_
    exact put_permitted ((h₁.trans h₂).trans h₃) (hb.extend (h₂.trans h₃)) ⟨_, hnew, rfl⟩

end

/-! ## Accounts -/

/-- An account was stored for a call. -/
def Registers (past : List Event) (new : NewUser) (user : User) : Prop :=
  ⟨.store (.createUser new), .ok user⟩ ∈ past

section
variable {s : Setup} {k : Call} {past : List Event}

/-- A new account is stored, or the call has failed. -/
theorem createUser_permitted {new : NewUser} (hnew : IsRegular s new) (h : Untried past) :
    Conforms s k
      (fun later user => InService later user ∧ Unrefused later ∧ Registers later new user)
      past (Flow.store (.createUser new)) := by
  refine ⟨⟨hnew, h⟩, fun answer hfaithful => ?_⟩
  cases answer with
  | error e => exact permitted_fail e
  | ok user =>
    have hlast : (⟨.store (.createUser new), .ok user⟩ : Event) ∈
        past ++ [⟨.store (.createUser new), .ok user⟩] :=
      List.mem_append_right _ List.mem_cons_self
    refine permitted_pure ⟨⟨hfaithful.1, _, hlast, rfl⟩, fun other failure he => ?_, hlast⟩
    rcases List.mem_append.1 he with he | he
    · exact h.unrefused other failure he
    · rw [List.mem_singleton] at he
      cases he

theorem googleUser_permitted (email : String) (phone : Option String) (h : Untried past) :
    Conforms s k (fun later user => InService later user ∧ Unrefused later ∧
        ∃ new, Registers later new user ∧ new.email = some email ∧ new.phone = phone)
      past (Google.createUser email phone) := by
  refine idle_then uuid_acts fun id past₁ h₁ => ?_
  have hnew : IsRegular s ⟨id.text, some email, phone, "", true, .google⟩ :=
    .inr ⟨rfl, rfl, rfl, rfl⟩
  refine (createUser_permitted hnew (h₁.untried h)).mono fun past₂ result hresult user hu => ?_
  obtain ⟨hservice, hunrefused, hregistered⟩ := hresult user hu
  exact ⟨hservice, hunrefused, _, hregistered, rfl, rfl⟩

/-- A call has been shown an account. -/
def Seen (past : List Event) (user : User) : Prop := ∃ e ∈ past, shown? e = some user

theorem byPassword_permitted (email password : String) :
    Conforms s k (fun later user => UntriedSince past later ∧ Seen later user) past
      (byPassword s email password) := by
  refine stated_then (.userByEmail email) trivial rfl fun found past₁ h₁ hfound =>
    require_then fun user hu => ?_
  subst hu
  refine idle_then (Flow.acts_ensure _ _ _) fun _ past₂ h₂ => ?_
  refine idle_then (Flow.acts_ofExcept _ _) fun _ past₃ h₃ => ?_
  exact permitted_pure ⟨(h₁.trans h₂).trans h₃, _, h₃.mem (h₂.mem hfound), rfl⟩

theorem byCode_permitted (phone code : String) :
    Conforms s k (fun later user => UntriedSince past later ∧ Seen later user) past
      (byCode phone code) := by
  refine idle_then (check_acts _ code) fun _ past₁ h₁ => ?_
  refine stated_then (.userByPhone phone) trivial rfl fun found past₂ h₂ hfound =>
    require_then fun user hu => ?_
  subst hu
  refine idle_then (clear_acts _) fun _ past₃ h₃ => ?_
  exact permitted_pure ⟨(h₁.trans h₂).trans h₃, _, h₃.mem hfound, rfl⟩

/-- A refresh token that may be exchanged is held by a row. -/
theorem validateRefresh_permitted (token : String) : Conforms s k
    (fun later snapshot => UntriedSince past later ∧
      ∃ row now found, ⟨.store (.sessionByToken token), .ok (some row)⟩ ∈ later ∧
        Token.validate s.suite.sign s.settings.token .refresh now token = .ok found ∧
        snapshot.idCode = found.idCode)
    past (Session.validateRefresh s token) := by
  refine stated_then (.sessionByToken token) trivial rfl fun found past₁ h₁ hfound =>
    require_then fun row hrow => ?_
  subst hrow
  refine ⟨trivial, fun now _ => ofExcept_then fun snapshot hv => ?_⟩
  have h₂ := (UntriedSince.refl past₁).append (e := ⟨.clock, now⟩) rfl
  refine idle_then (Flow.acts_ensure _ _ _) fun _ past₃ h₃ => ?_
  exact permitted_pure ⟨(h₁.trans h₂).trans h₃, row, now, snapshot, h₃.mem (h₂.mem hfound), hv, rfl⟩

end

/-! ## Codes -/

/-- A code may be sent to a subject: an account in service has the email, or the phone is free or
that of an account in service. -/
def MayReceive (past : List Event) : Subject → Prop
  | .email address => ∃ user, user.isDeleted = false ∧
    ⟨.store (.userByEmail address), .ok (some user)⟩ ∈ past
  | .phone number => ∃ found : Option User,
    (∀ user, found = some user → user.isDeleted = false) ∧
    ⟨.store (.userByPhone number), .ok found⟩ ∈ past

theorem MayReceive.extend {past later : List Event} {subject : Subject}
    (h : MayReceive past subject) (hext : UntriedSince past later) : MayReceive later subject := by
  cases subject with
  | email address =>
    obtain ⟨user, hu, he⟩ := h
    exact ⟨user, hu, hext.mem he⟩
  | phone number =>
    obtain ⟨found, hf, he⟩ := h
    exact ⟨found, hf, hext.mem he⟩

section
variable (s : Setup) {k : Call} {past : List Event}

theorem ensureInService_then {α : Type} {Q : List Event → α → Prop} {found : Option User}
    {g : Unit → Flow α} (hg : ∀ user, found = some user → user.isDeleted = false →
      Conforms s k Q past (g ())) : Conforms s k Q past (ensureInService found >>= g) := by
  cases found with
  | none => exact permitted_fail (P := Q) _
  | some user => exact inService_then fun hu => hg user rfl hu

theorem ensureFreePhone_permitted (phone : String) : Conforms s k
    (fun later _ => UntriedSince past later ∧ ⟨.store (.userByPhone phone), .ok none⟩ ∈ later) past
    (ensureFreePhone phone) := by
  refine stated_then (.userByPhone phone) trivial rfl fun found past₁ h₁ hfound => ?_
  cases found with
  | some user => exact permitted_fail _
  | none => exact permitted_pure ⟨h₁, hfound⟩

theorem codeSubject_permitted (request : SendCodeRequest) :
    Conforms s k (fun later subject => UntriedSince past later ∧ MayReceive later subject) past
      (codeSubject request) := by
  unfold codeSubject
  split
  · refine idle_then (required_acts _ _) fun email past₁ h₁ => ?_
    refine stated_then (.userByEmail email) trivial rfl fun found past₂ h₂ hfound => ?_
    refine ensureInService_then s fun user hu hservice => ?_
    exact permitted_pure ⟨h₁.trans h₂, user, hservice, hu ▸ hfound⟩
  · refine idle_then (required_acts _ _) fun value past₁ h₁ => ?_
    split
    · refine idle_then (provenEmail_acts _) fun email past₂ h₂ => ?_
      refine (ensureFreePhone_permitted s (Phone.normalize value)).bind
        fun _ past₃ ⟨h₃, hfree⟩ => ?_
      refine permitted_pure ⟨(h₁.trans h₂).trans h₃, none, fun user hu => ?_, hfree⟩
      cases hu
    · refine stated_then (.userByPhone (Phone.normalize value)) trivial rfl
        fun found past₂ h₂ hfound => ensureInService_then s fun user hu hservice => ?_
      refine permitted_pure ⟨h₁.trans h₂, found, fun other ho => ?_, hfound⟩
      obtain rfl := Option.some.inj (hu.symm.trans ho)
      exact hservice
  · exact permitted_fail _

theorem deliver_permitted {subject : Subject} (h : MayReceive past subject) (code : String) :
    Conforms s k (fun later _ => UntriedSince past later) past (deliver s subject code) := by
  cases subject with
  | email address =>
    refine ⟨h, fun answer _ => ?_⟩
    have hext := (UntriedSince.refl past).append (e := ⟨.mail address code, answer⟩) rfl
    cases answer with
    | ok done => exact permitted_pure (a := done) hext
    | error e => exact permitted_fail e
  | phone number =>
    refine ⟨h, fun answer _ => ?_⟩
    have hext := (UntriedSince.refl past).append (e := ⟨.text number (textOf s code), answer⟩) rfl
    cases answer with
    | ok done => exact permitted_pure (a := done) hext
    | error e => exact permitted_fail e

theorem issue_permitted {subject : Subject} (h : MayReceive past subject) :
    Conforms s k (fun later _ => UntriedSince past later) past (issue s subject) := by
  have hbundle (cmd : Cache.Command) (hc : cmd.key? = some (Bundles.key subject)) :
      IsIdle (.cache cmd) := .key (fun code => sessions_ne_bundles code subject) hc
  unfold issue
  split
  · exact permitted_of_idle (now_acts.bind fun now =>
      storeBundle_acts s subject hbundle (fun _ => pure_acts _) _)
  · refine idle_then ⟨trivial, fun _ => trivial⟩ fun code past₁ h₁ => ?_
    refine idle_then (storeBundle_acts s subject hbundle (addCode_acts s code) _)
      fun _ past₂ h₂ => ?_
    exact (deliver_permitted s (h.extend (h₁.trans h₂)) code).mono fun later result hresult a ha =>
      (h₁.trans h₂).trans (hresult a ha)

end

/-! ## Each call -/

/-- A call that has signed somebody up has stored the account that it was asked for. -/
def Call.HasRegistered (past : List Event) : Call → Prop
  | .signUp request _ => ∃ new user, Registers past new user ∧ new.email = some request.email ∧
    new.phone = some (Phone.normalize request.phone)
  | .complete request _ => ∃ new user, Registers past new user ∧
    new.phone = some (Phone.normalize request.phone)
  | _ => True

/-- How a call ends well: no account was refused to it, and the pair that it hands out is one that
it has made for an account in service. -/
structure Ends (s : Setup) (k : Call) (past : List Event) (answer : k.Value) : Prop where
  unrefused : Unrefused past
  handed : ∀ pair, k.pair? (.ok answer) = some pair → Handed s past pair
  registered : k.HasRegistered past

section
variable (s : Setup) {past : List Event}

theorem signUp_permitted (request : SignUpRequest) (ip : String) (h : Untried past) :
    Conforms s (.signUp request ip) (Ends s (.signUp request ip)) past (signUp s request ip) := by
  refine idle_then (ensureValid_acts _) fun _ past₁ h₁ => ?_
  refine idle_then (ensureFreeEmail_acts _) fun _ past₂ h₂ => ?_
  refine idle_then (ensureFreePhone_acts _) fun _ past₃ h₃ => ?_
  refine idle_then uuid_acts fun id past₄ h₄ => ?_
  refine idle_then salt_acts fun salt past₅ h₅ => ofExcept_then fun hash hhash => ?_
  have hnew : IsRegular s ⟨id.text, some request.email, some (Phone.normalize request.phone), hash,
      false, .email⟩ := .inl ⟨rfl, rfl, rfl, rfl, salt, request.password, hhash⟩
  have huntried := ((((h₁.trans h₂).trans h₃).trans h₄).trans h₅).untried h
  refine (createUser_permitted hnew huntried).bind fun user past₆ ⟨hu, hunrefused, hreg⟩ => ?_
  refine (create_permitted hu (fun _ _ he => by cases he) .email ip).bind
    fun pair past₇ ⟨h₇, hpair⟩ => permitted_pure ⟨h₇.unrefused hunrefused, fun _ he => ?_, ?_⟩
  · cases he
    exact hpair
  · exact ⟨_, user, h₇.mem hreg, rfl, rfl⟩

theorem signIn_permitted (request : SignInRequest) (ip : String) (h : Untried past) :
    Conforms s (.signIn request ip) (Ends s (.signIn request ip)) past (signIn s request ip) := by
  have hfinish (provider : AuthProvider) (user : User) {later : List Event}
      (hext : UntriedSince past later) (hu : Seen later user) :
      Conforms s (.signIn request ip) (Ends s (.signIn request ip)) later (do
        Flow.ensure (!user.isDeleted) .inactiveUser
        let tokens ← Session.update s user provider ip
        return respond user tokens) := by
    refine inService_then fun hservice => ?_
    refine (update_permitted ⟨hservice, hu⟩ (fun _ _ he => by cases he) provider ip).bind
      fun pair last ⟨hlast, hpair⟩ => permitted_pure
        ⟨((hext.trans hlast).untried h).unrefused, fun _ he => ?_, trivial⟩
    cases he
    exact hpair
  refine idle_then (ensureValid_acts _) fun _ past₁ h₁ => ?_
  cases request.provider with
  | email =>
    refine idle_then (required_acts _ _) fun email past₂ h₂ => ?_
    refine idle_then (required_acts _ _) fun password past₃ h₃ => ?_
    exact (byPassword_permitted email password).bind fun user past₄ ⟨h₄, hu⟩ =>
      hfinish _ user (((h₁.trans h₂).trans h₃).trans h₄) hu
  | phone =>
    refine idle_then (required_acts _ _) fun phone past₂ h₂ => ?_
    refine idle_then (required_acts _ _) fun code past₃ h₃ => ?_
    exact (byCode_permitted (Phone.normalize phone) code).bind fun user past₄ ⟨h₄, hu⟩ =>
      hfinish _ user (((h₁.trans h₂).trans h₃).trans h₄) hu
  | google => exact permitted_fail _

theorem refresh_permitted (token ip : String) (h : Untried past) :
    Conforms s (.refresh token ip) (Ends s (.refresh token ip)) past (refresh s token ip) := by
  have hrefresh : Conforms s (.refresh token ip)
      (fun later result => UntriedSince past later ∧ Handed s later result.2) past
      (Session.refresh s token ip) := by
    refine (validateRefresh_permitted token).bind
      fun snapshot past₁ ⟨h₁, row, now, found, hrow, hvalid, hcode⟩ => ?_
    refine stated_then (.userByIdCode snapshot.idCode) trivial rfl fun owner past₂ h₂ howner =>
      require_then fun user hu => inService_then fun hservice => ?_
    subst hu
    have hown : Owns s (.refresh token ip) past₂ user := by
      rintro token' ip' he
      cases he
      exact ⟨row, now, found, h₂.mem hrow, hvalid, hcode ▸ howner⟩
    refine (update_permitted ⟨hservice, _, howner, rfl⟩ hown user.provider ip).bind
      fun pair past₃ ⟨h₃, hpair⟩ => permitted_pure ⟨(h₁.trans h₂).trans h₃, hpair⟩
  refine hrefresh.bind fun result later ⟨hext, hpair⟩ =>
    permitted_pure ⟨(hext.untried h).unrefused, fun _ he => ?_, trivial⟩
  cases he
  exact hpair

theorem logout_permitted (token : String) (h : Untried past) :
    Conforms s (.logout token) (Ends s (.logout token)) past (logout token) := by
  refine stated_then (.sessionByToken token) trivial rfl fun found past₁ h₁ hfound =>
    require_then fun row hrow => ?_
  subst hrow
  refine idle_then now_acts fun now past₂ h₂ => ?_
  refine stated_then (.endSession row.id now) ⟨row, ⟨token, rfl, h₂.mem hfound⟩, rfl⟩ rfl
    fun _ past₃ h₃ _ => ?_
  refine stated_then (.userById row.userId) trivial rfl fun owner past₄ h₄ howner => ?_
  have hends {later : List Event} (hext : UntriedSince past₄ later) :
      Ends s (.logout token) later () := by
    have hall := (((h₁.trans h₂).trans h₃).trans h₄).trans hext
    exact ⟨(hall.untried h).unrefused, fun _ he => (by cases he), trivial⟩
  cases owner with
  | none => exact permitted_pure (hends (.refl _))
  | some user =>
    refine ⟨fun code hcode => ?_, fun answer _ => ?_⟩
    · obtain rfl := sessions_key_injective (Option.some.inj hcode)
      exact .inr ⟨row, user, rfl, ⟨token, rfl, h₄.mem (h₃.mem (h₂.mem hfound))⟩, howner, rfl⟩
    · have hext := (UntriedSince.refl past₄).append
        (e := ⟨.cache (.delete (Sessions.key user.idCode)), answer⟩) rfl
      cases answer with
      | ok done => exact permitted_pure (a := done) (hends hext)
      | error e => exact permitted_fail e

theorem signInWith_permitted {k : Call} (hk : ∀ token ip, k ≠ .refresh token ip) (email ip : String)
    (h : Untried past) : Conforms s k (fun later pair => Unrefused later ∧ Handed s later pair) past
      (Google.signInWith s email ip) := by
  refine stated_then (.userByEmail email) trivial rfl fun found past₁ h₁ hfound => ?_
  cases found with
  | some user =>
    refine inService_then fun hservice => ?_
    refine (update_permitted ⟨hservice, _, hfound, rfl⟩ (fun token ip he => absurd he (hk token ip))
      .google ip).mono fun later result hresult pair hp => ?_
    obtain ⟨hext, hpair⟩ := hresult pair hp
    exact ⟨((h₁.trans hext).untried h).unrefused, hpair⟩
  | none =>
    refine (googleUser_permitted email none (h₁.untried h)).bind
      fun user past₂ ⟨hu, hunrefused, _⟩ => ?_
    refine (create_permitted hu (fun token ip he => absurd he (hk token ip)) .google ip).mono
      fun later result hresult pair hp => ?_
    obtain ⟨hext, hpair⟩ := hresult pair hp
    exact ⟨hext.unrefused hunrefused, hpair⟩

theorem callback_permitted (state code ip : String) (h : Untried past) :
    Conforms s (.callback state code ip) (Ends s (.callback state code ip)) past
      (Google.callback s state code ip) := by
  refine idle_then (Flow.acts_ensure _ _ _) fun _ past₁ h₁ => ?_
  refine idle_then (claimedAt_acts state) fun found past₂ h₂ => ?_
  refine idle_then (Flow.acts_require _ _ _) fun claimedAt past₃ h₃ => ?_
  refine idle_then now_acts fun now past₄ h₄ => ?_
  refine idle_then (Flow.acts_ensure _ _ _) fun _ past₅ h₅ => ?_
  refine idle_then (take_acts s state claimedAt) fun taken past₆ h₆ => ?_
  refine idle_then (Flow.acts_ensure _ _ _) fun _ past₇ h₇ => ?_
  refine idle_then (profileOrRestore_acts s state claimedAt code) fun profile past₈ h₈ => ?_
  refine idle_then (release_acts state) fun _ past₉ h₉ => ?_
  have huntried : Untried past₉ := h₉.untried (h₈.untried (h₇.untried (h₆.untried (h₅.untried
    (h₄.untried (h₃.untried (h₂.untried (h₁.untried h))))))))
  refine (signInWith_permitted s (fun _ _ he => by cases he) profile.email ip huntried).mono
    fun later result hresult pair hp => ?_
  obtain ⟨hunrefused, hpair⟩ := hresult pair hp
  refine ⟨hunrefused, fun _ he => ?_, trivial⟩
  cases he
  exact hpair

theorem fromDevice_permitted (googleToken ip : String) (h : Untried past) :
    Conforms s (.device googleToken ip) (Ends s (.device googleToken ip)) past
      (Google.fromDevice s googleToken ip) := by
  refine idle_then ⟨trivial, fun _ => Flow.acts_ofExcept _ _⟩ fun profile past₁ h₁ => ?_
  refine stated_then (.userByEmail profile.email) trivial rfl fun found past₂ h₂ hfound => ?_
  have huntried : Untried past₂ := h₂.untried (h₁.untried h)
  cases found with
  | some user =>
    refine inService_then fun hservice => ?_
    refine (update_permitted ⟨hservice, _, hfound, rfl⟩ (fun _ _ he => by cases he) .google ip).bind
      fun pair past₃ ⟨h₃, hpair⟩ => permitted_pure
        ⟨(h₃.untried huntried).unrefused, fun _ he => ?_, trivial⟩
    cases he
    exact hpair
  | none =>
    generalize Uuid.text = name
    refine (idle_then uuid_acts fun id past₃ h₃ => idle_then (newRequest_acts s (name id) _)
      fun _ past₄ h₄ => permitted_pure
        ⟨((h₃.trans h₄).untried huntried).unrefused, fun _ he => ?_, trivial⟩)
    cases he

theorem complete_permitted (request : CompleteRequest) (ip : String) (h : Untried past) :
    Conforms s (.complete request ip) (Ends s (.complete request ip)) past
      (complete s request ip) := by
  refine idle_then (ensureValid_acts _) fun _ past₁ h₁ => ?_
  refine idle_then (provenEmail_acts _) fun email past₂ h₂ => ?_
  refine idle_then (check_acts _ _) fun _ past₃ h₃ => ?_
  refine idle_then (ensureFreeEmail_acts _) fun _ past₄ h₄ => ?_
  refine idle_then (ensureFreePhone_acts _) fun _ past₅ h₅ => ?_
  have huntried := ((((h₁.trans h₂).trans h₃).trans h₄).trans h₅).untried h
  refine (googleUser_permitted email (some (Phone.normalize request.phone)) huntried).bind
    fun user past₆ ⟨hu, hunrefused, new, hreg, _, hphone⟩ => ?_
  refine idle_then (dropRequest_acts _) fun _ past₇ h₇ => ?_
  refine idle_then (clear_acts _) fun _ past₈ h₈ => ?_
  have h₆₈ := h₇.trans h₈
  refine (create_permitted (hu.extend h₆₈) (fun _ _ he => by cases he) .google ip).bind
    fun pair past₉ ⟨h₉, hpair⟩ => permitted_pure
      ⟨(h₆₈.trans h₉).unrefused hunrefused, fun _ he => ?_, new, user, (h₆₈.trans h₉).mem hreg,
        hphone⟩
  cases he
  exact hpair

theorem redirect_permitted (state : String) (h : Untried past) :
    Conforms s (.redirect state) (Ends s (.redirect state)) past (Google.redirectUrl s state) :=
  (permitted_of_idle (redirectUrl_acts s state)).mono fun _ _ hext answer ha =>
    ⟨((hext answer ha).untried h).unrefused, fun _ he => (by cases he), trivial⟩

theorem sendCode_permitted (request : SendCodeRequest) (h : Untried past) :
    Conforms s (.sendCode request) (Ends s (.sendCode request)) past (sendCode s request) := by
  refine idle_then (ensureValid_acts _) fun _ past₁ h₁ => ?_
  refine (codeSubject_permitted s request).bind fun subject past₂ ⟨h₂, hsubject⟩ => ?_
  refine (issue_permitted s hsubject).mono fun later _ hext answer ha => ?_
  have hall := (h₁.trans h₂).trans (hext answer ha)
  exact ⟨(hall.untried h).unrefused, fun _ he => (by cases he), trivial⟩

/-- Whatever a call is answered, it does what it may do, and ends as stated. -/
theorem flow_permitted (k : Call) : Conforms s k (Ends s k) [] (k.flow s) := by
  have h : Untried [] := by intro e he; cases he
  cases k with
  | signUp request ip => exact signUp_permitted s request ip h
  | signIn request ip => exact signIn_permitted s request ip h
  | refresh token ip => exact refresh_permitted s token ip h
  | logout token => exact logout_permitted s token h
  | redirect state => exact redirect_permitted s state h
  | callback state code ip => exact callback_permitted s state code ip h
  | device googleToken ip => exact fromDevice_permitted s googleToken ip h
  | complete request ip => exact complete_permitted s request ip h
  | sendCode request => exact sendCode_permitted s request h

end

end SignOn.Account
