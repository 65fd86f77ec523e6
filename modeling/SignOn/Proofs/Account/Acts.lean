import SignOn.Account.Access
import SignOn.Proofs.Keyspace
import SignOn.Proofs.Cache.Memory
import SignOn.Proofs.Session.Acts
/-!
Which acts the parts of the calls may do. A part keeps to its own corner: it looks at the clock,
draws, looks accounts up and uses the cache keys of requests and states, and beyond that it works on
sessions, or on one-time codes, or asks the provider. So what holds of such acts holds all along the
part, whatever it is answered.
-/

namespace SignOn

open SignOn.Keyspace

/-- A statement that only asks for an account. -/
def Store.Statement.IsLookup : Store.Statement → Prop
  | .userById _ => True
  | .userByIdCode _ => True
  | .userByEmail _ => True
  | .userByPhone _ => True
  | _ => False

/-- A condition that holds of looking at the clock, of drawing, of looking accounts up, and of what
is done to the keys of requests and states. -/
class Admits (A : Act → Prop) : Prop where
  clock : A .clock
  uuid : A .uuid
  salt : A .salt
  lookup : ∀ st : Store.Statement, st.IsLookup → A (.store st)
  request : ∀ cmd id, cmd.key? = some (Requests.key id) → A (.cache cmd)
  state : ∀ cmd state, cmd.key? = some (States.key state) → A (.cache cmd)

/-- A condition that also holds of asking the provider. -/
class AdmitsProvider (A : Act → Prop) : Prop extends Admits A where
  exchange : ∀ code, A (.exchange code)
  profile : ∀ token, A (.profile token)

/-- A condition that also holds of looking at the bundles of codes, and of voiding them. -/
class AdmitsChecks (A : Act → Prop) : Prop extends Admits A where
  look : ∀ subject, A (.cache (.get (Bundles.key subject)))
  void : ∀ subject, A (.cache (.delete (Bundles.key subject)))

/-- A condition that also holds of drawing and sending codes, and of whatever is done to their
bundles. -/
class AdmitsCodes (A : Act → Prop) : Prop extends AdmitsChecks A where
  code : A .code
  bundle : ∀ cmd subject, cmd.key? = some (Bundles.key subject) → A (.cache cmd)
  mail : ∀ address code, A (.mail address code)
  text : ∀ phone message, A (.text phone message)
  look subject := bundle _ subject rfl
  void subject := bundle _ subject rfl

/-- A condition that also holds of every statement, and of what is done to the keys of sessions. -/
class AdmitsSessions (A : Act → Prop) : Prop extends Admits A where
  store : ∀ st, A (.store st)
  session : ∀ cmd code, cmd.key? = some (Sessions.key code) → A (.cache cmd)

namespace Account

open SignOn.Verification

variable {A : Act → Prop} {α : Type} (s : Setup)

/-! ## Small steps -/

theorem pure_acts (a : α) : (pure a : Flow α).Acts A := trivial

theorem statement_acts {st : Store.Statement} (h : A (.store st)) : (Flow.store st).Acts A :=
  ⟨h, fun _ => Flow.acts_ofExcept _ _⟩

theorem command_acts {cmd : Cache.Command} (h : A (.cache cmd)) : (Flow.cache cmd).Acts A :=
  ⟨h, fun _ => Flow.acts_ofExcept _ _⟩

theorem ensureValid_acts (violations : List Violation) : (ensureValid violations).Acts A :=
  Flow.acts_ofExcept _ _

theorem required_acts (value : Option String) (field : String) : (required value field).Acts A :=
  Flow.acts_require _ _ _

theorem ensureInService_acts (user : Option User) : (ensureInService user).Acts A :=
  (Flow.acts_require _ _ _).bind fun _ => Flow.acts_ensure _ _ _

section
variable [Admits A]

theorem now_acts : Flow.now.Acts A := ⟨Admits.clock, fun _ => trivial⟩

theorem uuid_acts : Flow.newUuid.Acts A := ⟨Admits.uuid, fun _ => trivial⟩

theorem salt_acts : Flow.newSalt.Acts A := ⟨Admits.salt, fun _ => trivial⟩

theorem lookup_acts (st : Store.Statement) (h : st.IsLookup) : (Flow.store st).Acts A :=
  statement_acts (Admits.lookup st h)

/-! ## Requests and accounts -/

theorem ensureFreeEmail_acts (email : String) : (ensureFreeEmail email).Acts A :=
  (lookup_acts (.userByEmail email) trivial).bind fun _ => Flow.acts_ensure _ _ _

theorem ensureFreePhone_acts (phone : String) : (ensureFreePhone phone).Acts A :=
  (lookup_acts (.userByPhone phone) trivial).bind fun _ => Flow.acts_ensure _ _ _

theorem byPassword_acts (email password : String) : (byPassword s email password).Acts A := by
  refine (lookup_acts (.userByEmail email) trivial).bind fun found => ?_
  refine (Flow.acts_require _ _ _).bind fun user => (Flow.acts_ensure _ _ _).bind fun _ => ?_
  exact (Flow.acts_ofExcept _ _).bind fun _ => pure_acts _

theorem provenEmail_acts (requestId : String) : (Google.provenEmail requestId).Acts A := by
  refine Flow.Acts.bind ?_ fun _ => Flow.acts_require _ _ _
  exact (command_acts (Admits.request _ requestId rfl)).bind fun _ => pure_acts _

theorem dropRequest_acts (requestId : String) : (Google.dropRequest requestId).Acts A :=
  command_acts (Admits.request _ requestId rfl)

theorem newRequest_acts (requestId email : String) :
    (Google.newRequest s requestId email).Acts A := by
  refine (Flow.acts_ensure _ _ _).bind fun _ => Flow.Acts.bind ?_ fun _ => Flow.acts_ensure _ _ _
  exact command_acts (Admits.request _ requestId rfl)

theorem codeSubject_acts (request : SendCodeRequest) : (codeSubject request).Acts A := by
  unfold codeSubject
  split
  · refine (required_acts _ _).bind fun email =>
      (lookup_acts (.userByEmail email) trivial).bind fun found => ?_
    exact (ensureInService_acts found).bind fun _ => pure_acts _
  · refine (required_acts _ _).bind fun value => ?_
    split
    · exact (provenEmail_acts _).bind fun _ => (ensureFreePhone_acts _).bind fun _ => pure_acts _
    · refine (lookup_acts (.userByPhone (Phone.normalize value)) trivial).bind fun found => ?_
      exact (ensureInService_acts found).bind fun _ => pure_acts _
  · trivial

/-! ## States -/

theorem redirectUrl_acts (state : String) : (Google.redirectUrl s state).Acts A := by
  refine (Flow.acts_ensure _ _ _).bind fun _ => now_acts.bind fun now => ?_
  refine Flow.Acts.bind ?_ fun claimed => (Flow.acts_ensure _ claimed _).bind fun _ => pure_acts _
  exact command_acts (Admits.state _ state rfl)

theorem claimedAt_acts (state : String) : (States.claimedAt state).Acts A :=
  (command_acts (Admits.state _ state rfl)).bind fun _ => pure_acts _

theorem take_acts (state : String) (claimedAt : Int) :
    (States.take s.stateLifetime state claimedAt).Acts A :=
  command_acts (Admits.state _ state rfl)

theorem restore_acts (state : String) (claimedAt : Int) :
    (States.restore s.stateLifetime state claimedAt).Acts A :=
  command_acts (Admits.state _ state rfl)

theorem release_acts (state : String) : (States.release state).Acts A :=
  command_acts (Admits.state _ state rfl)

end

theorem profileOrRestore_acts [AdmitsProvider A] (state : String) (claimedAt : Int)
    (code : String) : (Google.profileOrRestore s state claimedAt code).Acts A := by
  have hrestore (e : Failure) : (do
      let _ ← States.restore s.stateLifetime state claimedAt
      .fail e : Flow UserProfile).Acts A :=
    (restore_acts s state claimedAt).bind fun _ => trivial
  refine ⟨AdmitsProvider.exchange code, fun token => ?_⟩
  cases token with
  | error e => exact hrestore e
  | ok token =>
    refine ⟨AdmitsProvider.profile token.accessToken, fun profile => ?_⟩
    cases profile with
    | error e => exact hrestore e
    | ok profile => trivial

/-! ## One-time codes -/

section
variable [AdmitsChecks A]

theorem load_acts (subject : Subject) : (Bundles.load subject).Acts A :=
  (command_acts (AdmitsChecks.look subject)).bind fun _ => Flow.acts_ofExcept _ _

theorem check_acts (subject : Subject) (code : String) : (check subject code).Acts A :=
  (load_acts subject).bind fun _ => Flow.acts_ensure _ _ _

theorem clear_acts (subject : Subject) : (clear subject).Acts A :=
  command_acts (AdmitsChecks.void subject)

theorem byCode_acts (phone code : String) : (byCode phone code).Acts A := by
  refine (check_acts _ code).bind fun _ => ?_
  refine (lookup_acts (.userByPhone phone) trivial).bind fun found => ?_
  refine (Flow.acts_require _ _ _).bind fun user => (clear_acts _).bind fun _ => pure_acts _

end

/-- However often the swap is lost. -/
theorem storeBundle_acts [AdmitsChecks A] (subject : Subject)
    (hbundle : ∀ cmd : Cache.Command, cmd.key? = some (Bundles.key subject) → A (.cache cmd))
    {next : Bundle → Flow Bundle} (hnext : ∀ bundle, (next bundle).Acts A) (attempts : Nat) :
    (Verification.store s subject next attempts).Acts A := by
  induction attempts with
  | zero => trivial
  | succ attempts ih =>
    refine (load_acts subject).bind fun loaded => (hnext _).bind fun updated => ?_
    refine (command_acts (hbundle _ rfl)).bind fun won => ?_
    cases won with
    | true => trivial
    | false => exact ih

theorem addCode_acts [Admits A] (code : String) (bundle : Bundle) :
    (addCode s code bundle).Acts A :=
  now_acts.bind fun _ => (Flow.acts_ensure _ _ _).bind fun _ => pure_acts _

section
variable [AdmitsCodes A]

theorem deliver_acts (subject : Subject) (code : String) : (deliver s subject code).Acts A := by
  cases subject with
  | email address => exact ⟨AdmitsCodes.mail _ _, fun _ => Flow.acts_ofExcept _ _⟩
  | phone number => exact ⟨AdmitsCodes.text _ _, fun _ => Flow.acts_ofExcept _ _⟩

theorem issue_acts (subject : Subject) : (issue s subject).Acts A := by
  unfold issue
  split
  · exact now_acts.bind fun _ => storeBundle_acts s subject (AdmitsCodes.bundle · subject)
      (fun _ => pure_acts _) _
  · refine Flow.Acts.bind ⟨AdmitsCodes.code, fun _ => trivial⟩ fun code => ?_
    exact (storeBundle_acts s subject (AdmitsCodes.bundle · subject) (addCode_acts s code) _).bind
      fun _ => deliver_acts s subject code

theorem sendCode_acts (request : SendCodeRequest) : (sendCode s request).Acts A :=
  (ensureValid_acts _).bind fun _ => (codeSubject_acts request).bind fun _ => issue_acts s _

end

/-! ## Sessions -/

/-- A refresh token is looked up, and checked against the clock. -/
theorem validateRefresh_acts [Admits A] {token : String} (h : A (.store (.sessionByToken token))) :
    (Session.validateRefresh s token).Acts A := by
  refine (statement_acts h).bind fun found => ?_
  refine (Flow.acts_require _ _ _).bind fun row => Flow.Acts.bind ?_ fun snapshot => ?_
  · exact now_acts.bind fun _ => Flow.acts_ofExcept _ _
  · exact (Flow.acts_ensure _ _ _).bind fun _ => pure_acts _

section
variable [AdmitsSessions A]

theorem opening_acts {f : Flow α} (hf : f.Acts Session.IsOpening) : f.Acts A := by
  refine hf.mono fun act h => ?_
  cases act with
  | clock => exact Admits.clock
  | uuid => exact Admits.uuid
  | store st => exact AdmitsSessions.store st
  | cache cmd =>
    cases cmd with
    | set key value lifetime =>
      obtain ⟨code, rfl⟩ := h
      exact AdmitsSessions.session _ code rfl
    | _ => exact h.elim
  | _ => exact h.elim

theorem create_acts (user : User) (provider : AuthProvider) (ip : String) :
    (Session.create s user provider ip).Acts A :=
  opening_acts (Session.create_acts s user provider ip)

theorem update_acts (user : User) (provider : AuthProvider) (ip : String) :
    (Session.update s user provider ip).Acts A :=
  opening_acts (Session.update_acts s user provider ip)

theorem createUser_acts (email : String) (phone : Option String) :
    (Google.createUser email phone).Acts A :=
  uuid_acts.bind fun _ => statement_acts (AdmitsSessions.store _)

theorem signUp_acts (request : SignUpRequest) (ip : String) : (signUp s request ip).Acts A := by
  refine (ensureValid_acts _).bind fun _ => (ensureFreeEmail_acts _).bind fun _ => ?_
  refine (ensureFreePhone_acts _).bind fun _ => uuid_acts.bind fun id => ?_
  refine salt_acts.bind fun salt => (Flow.acts_ofExcept _ _).bind fun hash => ?_
  refine (statement_acts (AdmitsSessions.store _)).bind fun user => ?_
  exact (create_acts s user .email ip).bind fun _ => pure_acts _

theorem refresh_acts (token ip : String) : (refresh s token ip).Acts A := by
  have hvalid := validateRefresh_acts (A := A) s (AdmitsSessions.store (.sessionByToken token))
  refine Flow.Acts.bind (hvalid.bind fun snapshot => ?_) fun _ => pure_acts _
  refine (lookup_acts (.userByIdCode _) trivial).bind fun found => ?_
  refine (Flow.acts_require _ _ _).bind fun user => (Flow.acts_ensure _ _ _).bind fun _ => ?_
  exact (update_acts s user user.provider ip).bind fun _ => pure_acts _

theorem logout_acts (token : String) : (logout token).Acts A := by
  refine (statement_acts (AdmitsSessions.store _)).bind fun found => ?_
  refine (Flow.acts_require _ _ _).bind fun row => now_acts.bind fun now => ?_
  refine (statement_acts (AdmitsSessions.store _)).bind fun _ => ?_
  refine (lookup_acts (.userById _) trivial).bind fun owner => ?_
  cases owner with
  | some user => exact command_acts (AdmitsSessions.session _ user.idCode rfl)
  | none => trivial

theorem signInWith_acts (email ip : String) : (Google.signInWith s email ip).Acts A :=
  opening_acts (Session.signInWith_acts s email ip)

theorem callback_acts [AdmitsProvider A] (state code ip : String) :
    (Google.callback s state code ip).Acts A := by
  refine (Flow.acts_ensure _ _ _).bind fun _ => (claimedAt_acts state).bind fun found => ?_
  refine (Flow.acts_require _ _ _).bind fun claimedAt => now_acts.bind fun now => ?_
  refine (Flow.acts_ensure _ _ _).bind fun _ => (take_acts s state claimedAt).bind fun taken => ?_
  refine (Flow.acts_ensure _ _ _).bind fun _ => ?_
  refine (profileOrRestore_acts s state claimedAt code).bind fun profile => ?_
  exact (release_acts state).bind fun _ => signInWith_acts s profile.email ip

/-- A newcomer is given a request, however its id is written. -/
theorem newcomer_acts (name : Uuid → String) (email : String) : (do
    let id ← Flow.newUuid
    Google.newRequest s (name id) email
    return (⟨true, none, some (name id)⟩ : GmailAnswer) : Flow GmailAnswer).Acts A :=
  uuid_acts.bind fun id => (newRequest_acts s (name id) email).bind fun _ => pure_acts _

theorem fromDevice_acts [AdmitsProvider A] (googleToken ip : String) :
    (Google.fromDevice s googleToken ip).Acts A := by
  refine Flow.Acts.bind ⟨AdmitsProvider.profile _, fun _ => Flow.acts_ofExcept _ _⟩
    fun profile => (lookup_acts (.userByEmail profile.email) trivial).bind fun found => ?_
  cases found with
  | some user =>
    refine (Flow.acts_ensure _ _ _).bind fun _ => ?_
    exact (update_acts s user .google ip).bind fun _ => pure_acts _
  | none =>
    generalize Uuid.text = name
    exact newcomer_acts s name profile.email

theorem signIn_acts [AdmitsChecks A] (request : SignInRequest) (ip : String) :
    (signIn s request ip).Acts A := by
  have hfinish (provider : AuthProvider) (user : User) : (do
      Flow.ensure (!user.isDeleted) .inactiveUser
      let tokens ← Session.update s user provider ip
      return respond user tokens : Flow SignedIn).Acts A :=
    (Flow.acts_ensure _ _ _).bind fun _ => (update_acts s user provider ip).bind fun _ =>
      pure_acts _
  refine (ensureValid_acts _).bind fun _ => ?_
  cases request.provider with
  | email =>
    refine (required_acts _ _).bind fun email => (required_acts _ _).bind fun password => ?_
    exact (byPassword_acts s email password).bind (hfinish _)
  | phone =>
    refine (required_acts _ _).bind fun phone => (required_acts _ _).bind fun code => ?_
    exact (byCode_acts _ code).bind (hfinish _)
  | google => trivial

theorem complete_acts [AdmitsChecks A] (request : CompleteRequest) (ip : String) :
    (complete s request ip).Acts A := by
  refine (ensureValid_acts _).bind fun _ => (provenEmail_acts _).bind fun email => ?_
  refine (check_acts _ _).bind fun _ => (ensureFreeEmail_acts email).bind fun _ => ?_
  refine (ensureFreePhone_acts _).bind fun _ => (createUser_acts email _).bind fun user => ?_
  refine (dropRequest_acts _).bind fun _ => (clear_acts _).bind fun _ => ?_
  exact (create_acts s user .google ip).bind fun _ => pure_acts _

end

end Account
end SignOn
