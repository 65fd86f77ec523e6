import SignOn.Proofs.Account.WriteTargets
import SignOn.Proofs.Verification.Voiding
/-!
On what a call founds an account. Whatever a call is answered, it stores an account only for an
email and a phone that somebody has shown to be theirs: with a password, behind a profile of the
provider, or behind a request id and a code that it has found. What it finds there, only a device
and a sent code have put there. Both follow from what each act of a call rests on (`flow_founds`).
-/

namespace SignOn.Account

open SignOn.Keyspace SignOn.Session SignOn.Verification

/-! ## What a call has found -/

/-- The provider has vouched for an email. -/
def HasProven (past : List Event) (email : String) : Prop :=
  ∃ token profile, ⟨.profile token, .ok profile⟩ ∈ past ∧ profile.email = email

/-- A completion has looked at its request and at the codes of its phone before anything else, and
has found an email and its code. -/
def HasLooked (request : CompleteRequest) (past : List Event) (email : String) : Prop :=
  ∃ value codes loaded rest,
    past = ⟨.cache (.get (Requests.key request.requestId)), .ok value⟩ ::
      ⟨.cache (.get (Bundles.key (.phone (Phone.normalize request.phone)))), .ok codes⟩ :: rest ∧
    Requests.ofValue value = some email ∧ Bundles.ofValue codes = .ok loaded ∧
    loaded.bundle.contains request.code = true

/-- Where something was put that had been absent. -/
def putKey? : Event → Option String
  | ⟨.cache (.setIfAbsent key _ _), .ok true⟩ => some key
  | _ => none

/-- An email was put under a request id. -/
def HasPut (past : List Event) (id : String) : Prop :=
  ∃ e ∈ past, putKey? e = some (Requests.key id)

/-- Who gets the code that a request asks for. -/
def subjectOf? (request : SendCodeRequest) : Option Subject :=
  match request.provider with
  | .email => request.email.map .email
  | .phone => request.phone.map fun phone => .phone (Phone.normalize phone)
  | .google => none

/-! ## What an act rests on -/

/-- What a call has found before it stores an account. -/
def Founds (s : Setup) (past : List Event) (new : NewUser) : Call → Prop
  | .signUp request _ =>
    new.provider = .email ∧ new.email = some request.email ∧
      ∃ salt, ⟨.salt, salt⟩ ∈ past ∧
        s.suite.hashPassword salt request.password = .ok new.passwordHash
  | .callback .. =>
    new.provider = .google ∧ new.passwordHash = "" ∧
      ∃ email, new.email = some email ∧ HasProven past email
  | .complete request _ =>
    new.provider = .google ∧ new.passwordHash = "" ∧ request.violations = [] ∧
      new.phone = some (Phone.normalize request.phone) ∧
      ∃ email, new.email = some email ∧ HasLooked request past email
  | _ => False

/-- What a call writes about a request: a completion drops it, and a device puts an email there for
which the provider has vouched, under an id that was drawn for it. -/
def TendsRequest (s : Setup) (k : Call) (past : List Event) (id : String) (cmd : Cache.Command) :
    Prop :=
  (cmd = .delete (Requests.key id) ∧ ∃ request ip, k = .complete request ip) ∨
    ∃ email uuid, cmd = .setIfAbsent (Requests.key id) (Text.utf8 email) s.requestLifetime ∧
      (∃ token ip, k = .device token ip) ∧ HasProven past email ∧ ⟨.uuid, uuid⟩ ∈ past ∧
      id = uuid.text

/-- What a call writes about the codes of a subject: it voids them, or it is sent to put one code
behind those that stand there, which it does once. -/
def TendsBundle (s : Setup) (k : Call) (past : List Event) (subject : Subject)
    (cmd : Cache.Command) : Prop :=
  (cmd = .delete (Bundles.key subject) ∧ ∀ request, k ≠ .sendCode request) ∨
    ∃ request expected value, cmd = .swap (Bundles.key subject) expected value s.bundleLifetime ∧
      k = .sendCode request ∧ request.violations s.emails = [] ∧ Extends expected value ∧
      (∀ e ∈ past, ¬ Stored subject e) ∧
      ∃ receiver, subjectOf? request = some receiver ∧ receiver.key = subject.key

/-- The call is on a state. -/
def IsOnState (state : String) : Call → Prop
  | .redirect state' => state' = state
  | .callback state' .. => state' = state
  | _ => False

/-- What a call may do next. Looking is free. -/
def MayDo (s : Setup) (k : Call) (past : List Event) : Act → Prop
  | .store (.createUser new) => Founds s past new k
  | .cache (.get _) => True
  | .cache cmd =>
    (∀ id, cmd.key? = some (Requests.key id) → TendsRequest s k past id cmd) ∧
    (∀ subject, cmd.key? = some (Bundles.key subject) → TendsBundle s k past subject cmd) ∧
    ∀ state, cmd.key? = some (States.key state) → IsOnState state k
  | _ => True

/-- What a call that is over has done: a device is told under which id its email was put, and a
completion that succeeds has dropped its request. -/
def Concludes (k : Call) (past : List Event) (result : Except Failure k.Value) : Prop :=
  match k, result with
  | .device .., result => ∀ id, HasPut past id →
    ∃ answer, result = .ok answer ∧ answer.requestId = some id
  | .complete request _, .ok _ => (∃ email, HasLooked request past email) ∧
    ⟨.cache (.delete (Requests.key request.requestId)), .ok ()⟩ ∈ past
  | _, _ => True

/-- Whatever the call is answered, it does what it may do, and the value that it gives, if any, is
as stated. -/
abbrev Founding {α : Type} (s : Setup) (k : Call) (P : List Event → α → Prop) (past : List Event)
    (f : Flow α) : Prop := Flow.Leads Timely (MayDo s k) P past f

/-! ## Acts that rest on nothing -/

/-- An act that stores no account, and at most looks at requests, codes and states. -/
def IsSilent : Act → Prop
  | .store (.createUser _) => False
  | .cache (.get _) => True
  | .cache cmd => (∀ id, cmd.key? ≠ some (Requests.key id)) ∧
    (∀ subject, cmd.key? ≠ some (Bundles.key subject)) ∧
    ∀ state, cmd.key? ≠ some (States.key state)
  | _ => True

/-- How a call goes on that rests on nothing meanwhile. -/
def SilentSince (past later : List Event) : Prop :=
  ∃ more, later = past ++ more ∧ ∀ e ∈ more, IsSilent e.act

section
variable {s : Setup} {k : Call} {past mid later : List Event} {email id : String}
  {request : CompleteRequest} {subject : Subject}

theorem SilentSince.refl (past : List Event) : SilentSince past past :=
  ⟨[], (List.append_nil past).symm, fun _ h => absurd h List.not_mem_nil⟩

theorem SilentSince.trans (h : SilentSince past mid) (h' : SilentSince mid later) :
    SilentSince past later := by
  obtain ⟨more, rfl, hmore⟩ := h
  obtain ⟨rest, rfl, hrest⟩ := h'
  refine ⟨more ++ rest, List.append_assoc _ _ _, fun e he => ?_⟩
  rcases List.mem_append.1 he with he | he
  · exact hmore e he
  · exact hrest e he

theorem SilentSince.append (h : SilentSince past later) {e : Event} (he : IsSilent e.act) :
    SilentSince past (later ++ [e]) :=
  h.trans ⟨[e], rfl, fun _ hx => List.mem_singleton.1 hx ▸ he⟩

theorem SilentSince.subset (h : SilentSince past later) : past ⊆ later := by
  obtain ⟨more, rfl, -⟩ := h
  exact List.subset_append_left _ _

theorem exists_of_putKey? {e : Event} {key : String} (h : putKey? e = some key) :
    ∃ value lifetime, e = ⟨.cache (.setIfAbsent key value lifetime), .ok true⟩ := by
  unfold putKey? at h
  split at h
  · cases h
    exact ⟨_, _, rfl⟩
  · cases h

theorem HasProven.mono (h : HasProven past email) (hsub : past ⊆ later) :
    HasProven later email := by
  obtain ⟨token, profile, he, hemail⟩ := h
  exact ⟨token, profile, hsub he, hemail⟩

theorem HasLooked.append (h : HasLooked request past email) (more : List Event) :
    HasLooked request (past ++ more) email := by
  obtain ⟨value, codes, loaded, rest, rfl, hfound⟩ := h
  exact ⟨value, codes, loaded, rest ++ more, rfl, hfound⟩

theorem HasLooked.extend (h : HasLooked request past email) (hlater : SilentSince past later) :
    HasLooked request later email := by
  obtain ⟨more, rfl, -⟩ := hlater
  exact h.append more

/-- A call that rests on nothing puts no email under a request id. -/
theorem SilentSince.hasPut (h : SilentSince past later) (hput : HasPut later id) :
    HasPut past id := by
  obtain ⟨more, rfl, hmore⟩ := h
  obtain ⟨e, he, hkey⟩ := hput
  rcases List.mem_append.1 he with he | he
  · exact ⟨e, he, hkey⟩
  · obtain ⟨value, lifetime, rfl⟩ := exists_of_putKey? hkey
    exact absurd rfl ((hmore _ he).1 id)

/-- It stores no bundle. -/
theorem SilentSince.stored (h : SilentSince past later) (hpast : ∀ e ∈ past, ¬ Stored subject e) :
    ∀ e ∈ later, ¬ Stored subject e := by
  obtain ⟨more, rfl, hmore⟩ := h
  intro e he
  rcases List.mem_append.1 he with he | he
  · exact hpast e he
  · rintro ⟨expected, value, lifetime, rfl⟩
    exact (hmore _ he).2.1 subject rfl

theorem IsSilent.mayDo {act : Act} (h : IsSilent act) : MayDo s k past act := by
  cases act with
  | store st => cases st <;> first | exact h.elim | trivial
  | cache cmd =>
    cases cmd with
    | get key => trivial
    | _ =>
      exact ⟨fun id he => absurd he (h.1 id), fun subject he => absurd he (h.2.1 subject),
        fun state he => absurd he (h.2.2 state)⟩
  | _ => trivial

theorem WritesFor.isSilent {user : User} {act : Act} (h : WritesFor user act) : IsSilent act := by
  cases act with
  | store st => cases st <;> first | exact h.elim | trivial
  | cache cmd =>
    cases cmd with
    | set key value lifetime =>
      subst h
      refine ⟨fun id he => ?_, fun subject he => ?_, fun state he => ?_⟩
      · exact sessions_ne_requests _ _ (Option.some.inj he)
      · exact sessions_ne_bundles _ _ (Option.some.inj he)
      · exact sessions_ne_states _ _ (Option.some.inj he)
    | _ => exact h.elim
  | _ => trivial

/-! ## Acts on one key -/

theorem TendsRequest.mayDo {cmd : Cache.Command} (h : TendsRequest s k past id cmd) :
    MayDo s k past (.cache cmd) := by
  have hkey : cmd.key? = some (Requests.key id) := by
    rcases h with ⟨rfl, -⟩ | ⟨email, uuid, rfl, -⟩ <;> rfl
  have hall : (∀ id', cmd.key? = some (Requests.key id') → TendsRequest s k past id' cmd) ∧
      (∀ subject, cmd.key? = some (Bundles.key subject) → TendsBundle s k past subject cmd) ∧
      ∀ state, cmd.key? = some (States.key state) → IsOnState state k := by
    rw [hkey]
    refine ⟨fun id' he => ?_, fun subject he => ?_, fun state he => ?_⟩
    · rw [← requests_key_injective (Option.some.inj he)]
      exact h
    · exact absurd (Option.some.inj he) (requests_ne_bundles _ _)
    · exact absurd (Option.some.inj he) (requests_ne_states _ _)
  cases cmd with
  | get key => trivial
  | _ => exact hall

theorem TendsBundle.mayDo {cmd : Cache.Command} (h : TendsBundle s k past subject cmd) :
    MayDo s k past (.cache cmd) := by
  have hkey : cmd.key? = some (Bundles.key subject) := by
    rcases h with ⟨rfl, -⟩ | ⟨request, expected, value, rfl, -⟩ <;> rfl
  have hsame (other : Subject) (he : Bundles.key subject = Bundles.key other) :
      TendsBundle s k past other cmd := by
    rcases h with ⟨rfl, hk⟩ | ⟨request, expected, value, rfl, hk, hv, hext, hpast, receiver, hr,
      hrkey⟩
    · exact .inl ⟨by rw [he], hk⟩
    · refine .inr ⟨request, expected, value, by rw [he], hk, hv, hext, fun e hmem hstored => ?_,
        receiver, hr, hrkey.trans (bundles_key_injective he)⟩
      exact hpast e hmem (by rw [Stored, he]; exact hstored)
  have hall : (∀ id, cmd.key? = some (Requests.key id) → TendsRequest s k past id cmd) ∧
      (∀ other, cmd.key? = some (Bundles.key other) → TendsBundle s k past other cmd) ∧
      ∀ state, cmd.key? = some (States.key state) → IsOnState state k := by
    rw [hkey]
    refine ⟨fun id he => ?_, fun other he => hsame other (Option.some.inj he), fun state he => ?_⟩
    · exact absurd (Option.some.inj he).symm (requests_ne_bundles _ _)
    · exact absurd (Option.some.inj he).symm (states_ne_bundles _ _)
  cases cmd with
  | get key => trivial
  | _ => exact hall

/-- An act that rests on nothing, or is on one state. -/
def IsStateful (state : String) (act : Act) : Prop :=
  IsSilent act ∨ ∃ cmd, act = .cache cmd ∧ cmd.key? = some (States.key state)

theorem IsStateful.mayDo {state : String} {act : Act} (h : IsStateful state act)
    (hk : IsOnState state k) : MayDo s k past act := by
  rcases h with h | ⟨cmd, rfl, hkey⟩
  · exact h.mayDo
  · have hall : (∀ id, cmd.key? = some (Requests.key id) → TendsRequest s k past id cmd) ∧
        (∀ subject, cmd.key? = some (Bundles.key subject) → TendsBundle s k past subject cmd) ∧
        ∀ other, cmd.key? = some (States.key other) → IsOnState other k := by
      rw [hkey]
      refine ⟨fun id he => ?_, fun subject he => ?_, fun other he => ?_⟩
      · exact absurd (Option.some.inj he).symm (requests_ne_states _ _)
      · exact absurd (Option.some.inj he) (states_ne_bundles _ _)
      · rw [← states_key_injective (Option.some.inj he)]
        exact hk
    cases cmd with
    | get key => trivial
    | _ => exact hall

end

/-! ## Steps -/

section
variable {s : Setup} {k : Call} {α β : Type} {past : List Event} {P : List Event → α → Prop}
  {Q : List Event → β → Prop}

theorem silent_along {f : Flow α} (hf : f.Acts IsSilent) :
    f.Along Timely (MayDo s k) (fun later _ => SilentSince past later) past :=
  .of_acts (J := SilentSince past) hf (fun _ _ ha _ h => h.append ha) (fun _ _ ha _ => ha.mayDo)
    (fun _ _ h => h) (.refl past)

/-- A part of a call that rests on nothing comes first. -/
theorem silent_then {f : Flow α} {g : α → Flow β} (hf : f.Acts IsSilent)
    (hg : ∀ a later, SilentSince past later → Founding s k Q later (g a)) :
    Founding s k Q past (f >>= g) :=
  Flow.Leads.bind (P := fun later _ => SilentSince past later)
    ((silent_along hf).mono fun _ _ h _ _ => h) hg

/-- A cache command comes first. -/
theorem command_then {cmd : Cache.Command} {g : cmd.Answer → Flow β}
    (hc : MayDo s k past (.cache cmd))
    (hg : ∀ answer, Founding s k Q (past ++ [⟨.cache cmd, .ok answer⟩]) (g answer)) :
    Founding s k Q past (Flow.cache cmd >>= g) := by
  refine ⟨hc, fun answer _ => ?_⟩
  cases answer with
  | ok answer => exact hg answer
  | error e => exact Flow.leads_fail (P := Q) e

/-- An account is stored. -/
theorem creation_then {new : NewUser} {g : User → Flow β} (hnew : Founds s past new k)
    (hg : ∀ user, Founding s k Q (past ++ [⟨.store (.createUser new), .ok user⟩]) (g user)) :
    Founding s k Q past (Flow.store (.createUser new) >>= g) := by
  refine ⟨hnew, fun answer _ => ?_⟩
  cases answer with
  | ok user => exact hg user
  | error e => exact Flow.leads_fail (P := Q) e

/-- The email of a request is looked up first. -/
theorem provenEmail_then {id : String} {g : String → Flow β}
    (hg : ∀ value email, Requests.ofValue value = some email →
      Founding s k Q (past ++ [⟨.cache (.get (Requests.key id)), .ok value⟩]) (g email)) :
    Founding s k Q past (Google.provenEmail id >>= g) := by
  refine ⟨trivial, fun answer _ => ?_⟩
  cases answer with
  | error e => exact Flow.leads_fail (P := Q) e
  | ok value =>
    change Founding s k Q _ (Flow.require (Requests.ofValue value) .invalidRequestSession >>= g)
    exact Flow.require_leads fun email hemail => hg value email hemail

/-- A code is looked for first. -/
theorem check_then {subject : Subject} {code : String} {g : Unit → Flow β}
    (hg : ∀ value loaded, Bundles.ofValue value = .ok loaded →
      loaded.bundle.contains code = true →
      Founding s k Q (past ++ [⟨.cache (.get (Bundles.key subject)), .ok value⟩]) (g ())) :
    Founding s k Q past (check subject code >>= g) := by
  refine ⟨trivial, fun answer _ => ?_⟩
  cases answer with
  | error e => exact Flow.leads_fail (P := Q) e
  | ok value =>
    change Founding s k Q _ (Flow.ofExcept (Bundles.ofValue value) >>= (fun loaded =>
      Flow.ensure (loaded.bundle.contains code) .incorrectCode) >>= g)
    rw [Flow.bind_assoc]
    refine Flow.ofExcept_leads fun loaded hl => ?_
    cases hc : loaded.bundle.contains code with
    | true => exact hg value loaded hl hc
    | false => exact Flow.leads_fail (P := Q) _

/-- A request goes on only if it breaks no rule. -/
theorem valid_then {violations : List Violation} {g : Unit → Flow β}
    (hg : violations = [] → Founding s k Q past (g ())) :
    Founding s k Q past (ensureValid violations >>= g) := by
  cases violations with
  | nil => exact hg rfl
  | cons violation rest => exact Flow.leads_fail (P := Q) _

end

/-! ## Parts that rest on nothing -/

theorem look_silent (key : String) : (Flow.cache (.get key)).Acts IsSilent :=
  command_acts (show IsSilent (.cache (.get key)) from trivial)

theorem lookup_silent (st : Store.Statement) (h : st.IsLookup) : (Flow.store st).Acts IsSilent := by
  refine statement_acts ?_
  cases st <;> first | exact h.elim | trivial

theorem ensureFreeEmail_silent (email : String) : (ensureFreeEmail email).Acts IsSilent :=
  (lookup_silent (.userByEmail email) trivial).bind fun _ => Flow.acts_ensure _ _ _

theorem ensureFreePhone_silent (phone : String) : (ensureFreePhone phone).Acts IsSilent :=
  (lookup_silent (.userByPhone phone) trivial).bind fun _ => Flow.acts_ensure _ _ _

theorem now_silent : Flow.now.Acts IsSilent := ⟨trivial, fun _ => trivial⟩

theorem newUuid_silent : Flow.newUuid.Acts IsSilent := ⟨trivial, fun _ => trivial⟩

theorem check_silent (subject : Subject) (code : String) : (check subject code).Acts IsSilent :=
  ((look_silent _).bind fun _ => Flow.acts_ofExcept _ _).bind fun _ => Flow.acts_ensure _ _ _

theorem provenEmail_silent (requestId : String) : (Google.provenEmail requestId).Acts IsSilent :=
  ((look_silent _).bind fun _ => pure_acts _).bind fun _ => Flow.acts_require _ _ _

theorem create_silent (s : Setup) (user : User) (provider : AuthProvider) (ip : String) :
    (Session.create s user provider ip).Acts IsSilent :=
  (create_writesFor s user provider ip).mono fun _ h => h.isSilent

theorem update_silent (s : Setup) (user : User) (provider : AuthProvider) (ip : String) :
    (Session.update s user provider ip).Acts IsSilent :=
  (update_writesFor s user provider ip).mono fun _ h => h.isSilent

/-- What rests on nothing gives whatever it gives. -/
theorem founding_of_silent {s : Setup} {k : Call} {α : Type} {past : List Event} {f : Flow α}
    (hf : f.Acts IsSilent) : Founding s k (fun _ _ => True) past f :=
  (silent_along hf).mono fun _ _ _ _ _ => trivial

/-! ## Each call -/

section
variable (s : Setup) {past : List Event}

theorem signUp_founding (request : SignUpRequest) (ip : String) :
    Founding s (.signUp request ip) (fun _ _ => True) past (signUp s request ip) := by
  refine silent_then (ensureValid_acts _) fun _ past₁ _ => ?_
  refine silent_then (ensureFreeEmail_silent _) fun _ past₂ _ => ?_
  refine silent_then (ensureFreePhone_silent _) fun _ past₃ _ => ?_
  refine silent_then newUuid_silent fun id past₄ _ => ⟨trivial, fun salt _ => ?_⟩
  refine Flow.ofExcept_leads fun hash hhash => ?_
  refine creation_then ⟨rfl, rfl, salt, ?_, hhash⟩ fun user => ?_
  · exact List.mem_append_right _ List.mem_cons_self
  · exact founding_of_silent ((create_silent s user .email ip).bind fun _ => pure_acts _)

theorem byCode_founding {k : Call} (hk : ∀ request, k ≠ .sendCode request) (phone code : String) :
    Founding s k (fun _ _ => True) past (byCode phone code) := by
  refine silent_then (check_silent _ code) fun _ past₁ _ => ?_
  refine silent_then (lookup_silent (.userByPhone phone) trivial) fun found past₂ _ => ?_
  refine silent_then (Flow.acts_require _ _ _) fun user past₃ _ => ?_
  refine command_then (TendsBundle.mayDo (.inl ⟨rfl, hk⟩)) fun _ => ?_
  exact founding_of_silent (pure_acts user)

theorem signIn_founding (request : SignInRequest) (ip : String) :
    Founding s (.signIn request ip) (fun _ _ => True) past (signIn s request ip) := by
  have hfinish (provider : AuthProvider) (user : User) : (do
      Flow.ensure (!user.isDeleted) .inactiveUser
      let tokens ← Session.update s user provider ip
      return respond user tokens : Flow SignedIn).Acts IsSilent :=
    (Flow.acts_ensure _ _ _).bind fun _ => (update_silent s user provider ip).bind fun _ =>
      pure_acts _
  refine silent_then (ensureValid_acts _) fun _ past₁ _ => ?_
  cases request.provider with
  | email =>
    refine silent_then (required_acts _ _) fun email past₂ _ => ?_
    refine silent_then (required_acts _ _) fun password past₃ _ => ?_
    refine silent_then ?_ fun user past₄ _ => founding_of_silent (hfinish _ user)
    refine (lookup_silent (.userByEmail email) trivial).bind fun found => ?_
    refine (Flow.acts_require _ _ _).bind fun user => (Flow.acts_ensure _ _ _).bind fun _ => ?_
    exact (Flow.acts_ofExcept _ _).bind fun _ => pure_acts _
  | phone =>
    refine silent_then (required_acts _ _) fun phone past₂ _ => ?_
    refine silent_then (required_acts _ _) fun code past₃ _ => ?_
    exact (byCode_founding s (fun _ he => by cases he) _ code).bind fun user _ _ =>
      founding_of_silent (hfinish _ user)
  | google => exact Flow.leads_fail _

theorem refresh_silent (token ip : String) : (refresh s token ip).Acts IsSilent := by
  refine Flow.Acts.bind (Flow.Acts.bind ?_ fun snapshot => ?_) fun _ => pure_acts _
  · refine (statement_acts trivial).bind fun found => ?_
    refine (Flow.acts_require _ _ _).bind fun row => Flow.Acts.bind ?_ fun snapshot => ?_
    · exact now_silent.bind fun _ => Flow.acts_ofExcept _ _
    · exact (Flow.acts_ensure _ _ _).bind fun _ => pure_acts _
  · refine (lookup_silent (.userByIdCode _) trivial).bind fun found => ?_
    refine (Flow.acts_require _ _ _).bind fun user => (Flow.acts_ensure _ _ _).bind fun _ => ?_
    exact (update_silent s user user.provider ip).bind fun _ => pure_acts _

theorem logout_silent (token : String) : (logout token).Acts IsSilent := by
  refine (statement_acts trivial).bind fun found => (Flow.acts_require _ _ _).bind fun row => ?_
  refine now_silent.bind fun now => (statement_acts trivial).bind fun _ => ?_
  refine (lookup_silent (.userById _) trivial).bind fun owner => ?_
  cases owner with
  | none => trivial
  | some user =>
    refine command_acts ⟨fun id he => ?_, fun subject he => ?_, fun state he => ?_⟩
    · exact sessions_ne_requests _ _ (Option.some.inj he)
    · exact sessions_ne_bundles _ _ (Option.some.inj he)
    · exact sessions_ne_states _ _ (Option.some.inj he)

theorem redirect_founding (state : String) :
    Founding s (.redirect state) (fun _ _ => True) past (Google.redirectUrl s state) := by
  refine silent_then (Flow.acts_ensure _ _ _) fun _ past₁ _ => ⟨trivial, fun now _ => ?_⟩
  refine command_then (IsStateful.mayDo (.inr ⟨_, rfl, rfl⟩) rfl) fun claimed => ?_
  exact founding_of_silent ((Flow.acts_ensure _ _ _).bind fun _ => pure_acts _)

/-- The provider gives the profile, or the call has failed. -/
theorem profileOrRestore_founding (state : String) (claimedAt : Int) (code : String) {ip : String} :
    Founding s (.callback state code ip)
      (fun later (profile : UserProfile) => HasProven later profile.email) past
      (Google.profileOrRestore s state claimedAt code) := by
  have hfailed (e : Failure) (later : List Event) : Founding s (.callback state code ip)
      (fun later (profile : UserProfile) => HasProven later profile.email) later (do
        let _ ← States.restore s.stateLifetime state claimedAt
        .fail e) :=
    command_then (IsStateful.mayDo (.inr ⟨_, rfl, rfl⟩) rfl) fun _ => Flow.leads_fail e
  refine ⟨trivial, fun token _ => ?_⟩
  cases token with
  | error e => exact hfailed e _
  | ok token =>
    refine ⟨trivial, fun profile _ => ?_⟩
    cases profile with
    | error e => exact hfailed e _
    | ok profile =>
      exact Flow.leads_pure
        (P := fun later (profile : UserProfile) => HasProven later profile.email)
        ⟨token.accessToken, profile, List.mem_append_right _ List.mem_cons_self, rfl⟩

theorem callback_founding (state code ip : String) :
    Founding s (.callback state code ip) (fun _ _ => True) past
      (Google.callback s state code ip) := by
  refine silent_then (Flow.acts_ensure _ _ _) fun _ past₁ _ => ?_
  refine silent_then ((look_silent _).bind fun _ => pure_acts _) fun found past₂ _ => ?_
  refine silent_then (Flow.acts_require _ _ _) fun claimedAt past₃ _ => ?_
  refine silent_then now_silent fun now past₄ _ => ?_
  refine silent_then (Flow.acts_ensure _ _ _) fun _ past₅ _ => ?_
  refine command_then (IsStateful.mayDo (.inr ⟨_, rfl, rfl⟩) rfl) fun taken => ?_
  refine silent_then (Flow.acts_ensure _ _ _) fun _ past₆ _ => ?_
  refine (profileOrRestore_founding s state claimedAt code).bind fun profile past₇ hproven => ?_
  refine command_then (IsStateful.mayDo (.inr ⟨_, rfl, rfl⟩) rfl) fun _ => ?_
  have hproven₈ := hproven.mono (List.subset_append_left past₇
    [⟨.cache (.delete (States.key state)), .ok ()⟩])
  refine silent_then (lookup_silent (.userByEmail profile.email) trivial)
    fun found past₉ h₉ => ?_
  cases found with
  | some user =>
    exact founding_of_silent
      ((Flow.acts_ensure _ _ _).bind fun _ => update_silent s user .google ip)
  | none =>
    change Founding s (.callback state code ip) _ _
      (Google.createUser profile.email none >>= fun user => Session.create s user .google ip)
    rw [Google.createUser, Flow.bind_assoc]
    refine silent_then newUuid_silent fun id past₁₀ h₁₀ => ?_
    refine creation_then ⟨rfl, rfl, profile.email, rfl, ?_⟩ fun user => ?_
    · exact hproven₈.mono (h₉.trans h₁₀).subset
    · exact founding_of_silent (create_silent s user .google ip)

theorem hasPut_append {e : Event} {id : String} (h : HasPut (past ++ [e]) id) :
    HasPut past id ∨ putKey? e = some (Requests.key id) := by
  obtain ⟨x, hx, hkey⟩ := h
  rcases List.mem_append.1 hx with hx | hx
  · exact .inl ⟨x, hx, hkey⟩
  · exact .inr (List.mem_singleton.1 hx ▸ hkey)

/-- A newcomer's email is put under a request id, and that is the id in the answer. -/
theorem newcomer_concludes (token ip : String) {email : String} {name : Uuid → String}
    (hname : name = Uuid.text) (hproven : HasProven past email) (hnone : ∀ id, ¬ HasPut past id) :
    (do
      let id ← Flow.newUuid
      Google.newRequest s (name id) email
      return (⟨true, none, some (name id)⟩ : GmailAnswer) : Flow GmailAnswer).Along Timely
        (MayDo s (.device token ip)) (Concludes (.device token ip)) past := by
  have happend {past : List Event} {e : Event} (hpast : ∀ id, ¬ HasPut past id)
      (he : putKey? e = none) (id : String) : ¬ HasPut (past ++ [e]) id := fun h => by
    rcases hasPut_append h with h | h
    · exact hpast id h
    · rw [he] at h
      cases h
  refine ⟨trivial, fun uuid _ => ?_⟩
  have hnone₁ := happend (e := ⟨.uuid, uuid⟩) hnone rfl
  change Flow.Along _ _ _ _ (Flow.ensure (Uuid.isWritten (name uuid)) _ >>= (fun _ => _) >>= _)
  cases Uuid.isWritten (name uuid) with
  | false => exact fun id h => absurd h (hnone₁ id)
  | true =>
    refine ⟨TendsRequest.mayDo (.inr ⟨email, uuid, rfl, ⟨token, ip, rfl⟩,
      hproven.mono (List.subset_append_left _ _), List.mem_append_right _ List.mem_cons_self,
      by rw [hname]⟩), fun answer _ => ?_⟩
    rcases answer with e | _ | _
    · exact fun id h => absurd h (happend hnone₁ rfl id)
    · exact fun id h => absurd h (happend hnone₁ rfl id)
    · refine fun id h => ⟨_, rfl, ?_⟩
      rcases hasPut_append h with h | h
      · exact absurd h (hnone₁ id)
      · exact congrArg some (requests_key_injective (Option.some.inj h))

theorem fromDevice_concludes (googleToken ip : String) :
    (Google.fromDevice s googleToken ip).Along Timely (MayDo s (.device googleToken ip))
      (Concludes (.device googleToken ip)) [] := by
  have hnone (id : String) : ¬ HasPut [] id := fun ⟨_, he, _⟩ => absurd he List.not_mem_nil
  have hsilent {f : Flow GmailAnswer} {past : List Event} (hf : f.Acts IsSilent)
      (hpast : ∀ id, ¬ HasPut past id) : f.Along Timely (MayDo s (.device googleToken ip))
      (Concludes (.device googleToken ip)) past :=
    (silent_along hf).mono fun _ _ h id hput => absurd (h.hasPut hput) (hpast id)
  refine ⟨trivial, fun answer _ => ?_⟩
  have hext : SilentSince [] ([] ++ [⟨.profile googleToken, answer⟩]) :=
    (SilentSince.refl []).append trivial
  cases answer with
  | error e => exact fun id hput => absurd (hext.hasPut hput) (hnone id)
  | ok profile =>
    change Flow.Along _ _ _ _ (Flow.store (.userByEmail profile.email) >>= _)
    refine Flow.Along.bind ((silent_along (lookup_silent (.userByEmail profile.email) trivial)).mono
      fun past₁ found h₁ => ?_)
    have hnone₁ (id : String) : ¬ HasPut past₁ id := fun hput =>
      hnone id (hext.hasPut (h₁.hasPut hput))
    have hproven : HasProven past₁ profile.email :=
      ⟨googleToken, profile, h₁.subset (List.mem_singleton_self _), rfl⟩
    rcases found with e | _ | user
    · exact fun id hput => absurd hput (hnone₁ id)
    · obtain ⟨name, hname⟩ : ∃ name, name = Uuid.text := ⟨_, rfl⟩
      have hnew := newcomer_concludes s googleToken ip hname hproven hnone₁
      rw [hname] at hnew
      exact hnew
    · exact hsilent ((Flow.acts_ensure _ _ _).bind fun _ =>
        (update_silent s user .google ip).bind fun _ => pure_acts _) hnone₁

theorem complete_founding (request : CompleteRequest) (ip : String) :
    Founding s (.complete request ip) (fun later _ => (∃ email, HasLooked request later email) ∧
      ⟨.cache (.delete (Requests.key request.requestId)), .ok ()⟩ ∈ later) []
      (complete s request ip) := by
  refine valid_then fun hvalid => ?_
  refine provenEmail_then fun value email hemail => ?_
  refine check_then fun codes loaded hl hc => ?_
  have hlooked : HasLooked request
      [⟨.cache (.get (Requests.key request.requestId)), .ok value⟩,
        ⟨.cache (.get (Bundles.key (.phone (Phone.normalize request.phone)))), .ok codes⟩] email :=
    ⟨value, codes, loaded, [], rfl, hemail, hl, hc⟩
  refine silent_then (ensureFreeEmail_silent _) fun _ past₁ h₁ => ?_
  refine silent_then (ensureFreePhone_silent _) fun _ past₂ h₂ => ?_
  rw [Google.createUser, Flow.bind_assoc]
  refine silent_then newUuid_silent fun id past₃ h₃ => ?_
  have hlooked₃ := hlooked.extend ((h₁.trans h₂).trans h₃)
  refine creation_then ⟨rfl, rfl, hvalid, rfl, email, rfl, hlooked₃⟩ fun user => ?_
  refine command_then (TendsRequest.mayDo (.inl ⟨rfl, request, ip, rfl⟩)) fun _ => ?_
  refine command_then (TendsBundle.mayDo (.inl ⟨rfl, fun _ he => by cases he⟩)) fun _ => ?_
  refine (silent_along ((create_silent s user .google ip).bind fun _ => pure_acts _)).mono
    fun later _ hlater _ _ => ⟨⟨email, ?_⟩, hlater.subset ?_⟩
  · exact (((hlooked₃.append _).append _).append _).extend hlater
  · simp

/-- A code goes to whoever the request says. -/
theorem codeSubject_leads (request : SendCodeRequest) :
    Founding s (.sendCode request) (fun later subject => SilentSince past later ∧
      subjectOf? request = some subject) past (codeSubject request) := by
  unfold codeSubject
  split
  · next hp =>
    refine Flow.require_leads fun email he => ?_
    have hsubject : subjectOf? request = some (.email email) := by
      simp [subjectOf?, hp, Option.eq_some_of_filter_eq_some he]
    refine silent_then (lookup_silent (.userByEmail email) trivial) fun found past₁ h₁ => ?_
    refine silent_then (ensureInService_acts found) fun _ past₂ h₂ => ?_
    exact Flow.leads_pure ⟨h₁.trans h₂, hsubject⟩
  · next hp =>
    refine Flow.require_leads fun phone he => ?_
    have hsubject : subjectOf? request = some (.phone (Phone.normalize phone)) := by
      simp [subjectOf?, hp, Option.eq_some_of_filter_eq_some he]
    split
    · refine silent_then (provenEmail_silent _) fun _ past₁ h₁ => ?_
      refine silent_then (ensureFreePhone_silent _) fun _ past₂ h₂ => ?_
      exact Flow.leads_pure ⟨h₁.trans h₂, hsubject⟩
    · refine silent_then (lookup_silent (.userByPhone _) trivial) fun found past₁ h₁ => ?_
      refine silent_then (ensureInService_acts found) fun _ past₂ h₂ => ?_
      exact Flow.leads_pure ⟨h₁.trans h₂, hsubject⟩
  · exact Flow.leads_fail _

theorem sendCode_founding (request : SendCodeRequest) :
    Founding s (.sendCode request) (fun _ _ => True) [] (sendCode s request) := by
  refine valid_then fun hvalid => ?_
  refine (codeSubject_leads s request).bind fun subject past₁ ⟨h₁, hsubject⟩ => ?_
  have hnone : ∀ e ∈ past₁, ¬ Stored subject e := h₁.stored fun e he => absurd he List.not_mem_nil
  refine (issue_along (J := fun past => ∀ e ∈ past, ¬ Stored subject e) ⟨fun past e hpast he => ?_,
    fun _ => trivial, fun _ => trivial, fun _ => trivial, fun past expected value hpast hext => ?_,
    fun _ _ _ => trivial, fun _ _ _ => trivial⟩ hnone).mono fun _ _ _ _ _ => trivial
  · intro e' he'
    rcases List.mem_append.1 he' with he' | he'
    · exact hpast e' he'
    · exact List.mem_singleton.1 he' ▸ he
  · exact TendsBundle.mayDo (.inr ⟨request, expected, value, rfl, rfl, hvalid, hext, hpast, subject,
      hsubject, rfl⟩)

/-- Whatever a call is answered, each of its acts rests on what it has found. -/
theorem flow_founds (k : Call) :
    (k.flow s).Along Timely (MayDo s k) (Concludes k) [] := by
  have hany {k : Call} (hk : ∀ past result, Concludes k past result)
      (hf : Founding s k (fun _ _ => True) [] (k.flow s)) :
      (k.flow s).Along Timely (MayDo s k) (Concludes k) [] :=
    hf.mono fun past result _ => hk past result
  cases k with
  | signUp request ip => exact hany (fun _ _ => trivial) (signUp_founding s request ip)
  | signIn request ip => exact hany (fun _ _ => trivial) (signIn_founding s request ip)
  | refresh token ip =>
    exact hany (fun _ _ => trivial) (founding_of_silent (refresh_silent s token ip))
  | logout token => exact hany (fun _ _ => trivial) (founding_of_silent (logout_silent token))
  | redirect state => exact hany (fun _ _ => trivial) (redirect_founding s state)
  | callback state code ip => exact hany (fun _ _ => trivial) (callback_founding s state code ip)
  | device googleToken ip => exact fromDevice_concludes s googleToken ip
  | complete request ip =>
    refine (complete_founding s request ip).mono fun past result h => ?_
    cases result with
    | ok answer => exact h answer rfl
    | error e => trivial
  | sendCode request => exact hany (fun _ _ => trivial) (sendCode_founding s request)

end

end SignOn.Account
