import SignOn.Proofs.Account.Acts
import SignOn.Proofs.Session.Rotation
/-!
What each call of the account service does to the book of sessions. A call hands out a pair, which
is new and belongs to a stored user, or it ends the session of the user whose token it is given, or
the book stays as it is: `flow_ensures`.
-/

namespace SignOn.Account

open SignOn.Keyspace SignOn.Session SignOn.Verification

/-! ## Calls -/

/-- A call of the account service. -/
inductive Call where
  | signUp (request : SignUpRequest) (ip : String)
  | signIn (request : SignInRequest) (ip : String)
  | refresh (token ip : String)
  | logout (token : String)
  | redirect (state : String)
  | callback (state code ip : String)
  | device (googleToken ip : String)
  | complete (request : CompleteRequest) (ip : String)
  | sendCode (request : SendCodeRequest)

namespace Call

/-- What a call gives. -/
@[reducible] def Value : Call → Type
  | .signUp .. => SignedIn
  | .signIn .. => SignedIn
  | .refresh .. => TokenPair
  | .logout _ => Unit
  | .redirect _ => String
  | .callback .. => TokenPair
  | .device .. => GmailAnswer
  | .complete .. => SignedIn
  | .sendCode _ => Unit

/-- The course of a call. -/
def flow (s : Setup) : (k : Call) → Flow k.Value
  | .signUp request ip => Account.signUp s request ip
  | .signIn request ip => Account.signIn s request ip
  | .refresh token ip => Account.refresh s token ip
  | .logout token => Account.logout token
  | .redirect state => Google.redirectUrl s state
  | .callback state code ip => Google.callback s state code ip
  | .device googleToken ip => Google.fromDevice s googleToken ip
  | .complete request ip => Account.complete s request ip
  | .sendCode request => Account.sendCode s request

/-- The pair that an answer hands out. -/
def pair? : (k : Call) → Except Failure k.Value → Option TokenPair
  | .signUp .., .ok answer => some answer.tokens
  | .signIn .., .ok answer => some answer.tokens
  | .refresh .., .ok pair => some pair
  | .callback .., .ok pair => some pair
  | .device .., .ok answer => answer.tokens
  | .complete .., .ok answer => some answer.tokens
  | _, _ => none

/-- The token with which a call has ended a session. -/
def ended? : (k : Call) → Except Failure k.Value → Option String
  | .logout token, .ok () => some token
  | _, _ => none

end Call

/-! ## Calm parts -/

theorem key_calm {key : String} (h : ∀ code, Sessions.key code ≠ key) {cmd : Cache.Command}
    (hc : cmd.key? = some key) : IsCalm (.cache cmd) := by
  intro code hsession
  rw [hc] at hsession
  exact h code (Option.some.inj hsession).symm

instance : AdmitsProvider IsCalm where
  clock := trivial
  uuid := trivial
  salt := trivial
  lookup st h := by cases st <;> trivial
  request _ id := key_calm fun code => sessions_ne_requests code id
  state _ state := key_calm fun code => sessions_ne_states code state
  exchange _ := trivial
  profile _ := trivial

instance : AdmitsCodes IsCalm where
  code := trivial
  bundle _ subject := key_calm fun code => sessions_ne_bundles code subject
  mail _ _ := trivial
  text _ _ := trivial

/-! ## Effects -/

/-- What a call has done to the book: nothing, or it has handed out a pair, or ended a session. -/
def Effect (s : Setup) (start : World) (rows : Int → Option Mint) (k : Call)
    (result : Except Failure k.Value) (w : World) : Prop :=
  (k.pair? result = none ∧ k.ended? result = none ∧ Stands s start rows rows w) ∨
    (∃ user pair, k.pair? result = some pair ∧ k.ended? result = none ∧
      Renewed s start rows user (.ok pair) w) ∨
    ∃ token, k.pair? result = none ∧ k.ended? result = some token ∧ Ended s start rows token w

variable {s : Setup} {start w : World} {rows : Int → Option Mint} {α : Type}

theorem Effect.failed (k : Call) {e : Failure} (h : Stands s start rows rows w) :
    Effect s start rows k (.error e) w := by
  refine .inl ⟨?_, ?_, h⟩
  · cases k <;> rfl
  · cases k <;> rfl

/-- A calm part of a call comes first. -/
theorem calm_then {k : Call} {f : Flow α} {g : α → Flow k.Value} (hf : f.Acts IsCalm)
    (h : Stands s start rows rows w) (hg : ∀ a w', Later w w' → Stands s start rows rows w' →
      (g a).Ensures (Passes s) (Effect s start rows k) w') :
    (f >>= g).Ensures (Passes s) (Effect s start rows k) w := by
  have hboth : f.Ensures (Passes s) (fun _ w' => Stands s w rows rows w' ∧
      Stands s start rows rows w') w := by
    refine .of_acts hf (fun _ _ hd hw => ⟨hw.1.passes hd, hw.2.passes hd⟩)
      (fun _ act ha hw => ⟨hw.1.calm act ha, hw.2.calm act ha⟩) ⟨⟨h.book, .refl w⟩, h⟩
  refine Flow.Ensures.bind (hboth.mono fun result w' hw => ?_)
  cases result with
  | ok a => exact hg a w' hw.1.later hw.2
  | error e => exact .failed k hw.2

/-- If a part of a call has given a user, it is one of the store. -/
structure Knows (s : Setup) (start : World) (rows : Int → Option Mint)
    (result : Except Failure User) (w : World) : Prop where
  stands : Stands s start rows rows w
  stored : ∀ user, result = .ok user → user ∈ w.store.users

/-- A lookup has been answered, and if with a user, with one of the store. -/
structure LooksUp (s : Setup) (start : World) (rows : Int → Option Mint)
    (result : Except Failure (Option User)) (w : World) : Prop where
  stands : Stands s start rows rows w
  answered : ∃ found, result = .ok found ∧ ∀ user, found = some user → user ∈ w.store.users

/-- A user of the store is looked up first. -/
theorem known_then {k : Call} {f : Flow User} {g : User → Flow k.Value}
    (hf : f.Ensures (Passes s) (Knows s start rows) w)
    (hg : ∀ user w', user ∈ w'.store.users → Stands s start rows rows w' →
      (g user).Ensures (Passes s) (Effect s start rows k) w') :
    (f >>= g).Ensures (Passes s) (Effect s start rows k) w := by
  refine Flow.Ensures.bind (hf.mono fun result w' hw => ?_)
  cases result with
  | ok user => exact hg user w' (hw.stored user rfl) hw.stands
  | error e => exact .failed k hw.stands

/-- A new pair is handed out in the answer. -/
theorem renewed_then {k : Call} {f : Flow TokenPair} {user : User} (answer : TokenPair → k.Value)
    (hf : f.Ensures (Passes s) (Renewed s start rows user) w)
    (hp : ∀ pair, k.pair? (.ok (answer pair)) = some pair)
    (he : ∀ pair, k.ended? (.ok (answer pair)) = none) :
    (f >>= fun pair => pure (answer pair)).Ensures (Passes s) (Effect s start rows k) w := by
  refine Flow.Ensures.bind (hf.mono ?_)
  rintro result w' ⟨m, rfl, hm⟩
  exact .inr (.inl ⟨user, m.pair s user, hp _, he _, m, rfl, hm⟩)

/-! ## Users -/

theorem userByEmail_ensures (h : Stands s start rows rows w) (email : String) :
    (Flow.store (.userByEmail email) : Flow (Option User)).Ensures (Passes s)
      (LooksUp s start rows) w := by
  intro w₁ hd
  exact ⟨h.passes hd, _, rfl, fun user hu => List.mem_of_find?_eq_some hu⟩

theorem userByPhone_ensures (h : Stands s start rows rows w) (phone : String) :
    (Flow.store (.userByPhone phone) : Flow (Option User)).Ensures (Passes s)
      (LooksUp s start rows) w := by
  intro w₁ hd
  exact ⟨h.passes hd, _, rfl, fun user hu => List.mem_of_find?_eq_some hu⟩

theorem createUser_ensures (h : Stands s start rows rows w) (new : NewUser)
    (hn : new.idCode ≠ "") :
    (Flow.store (.createUser new) : Flow User).Ensures (Passes s) (Knows s start rows) w := by
  intro w₁ hd
  have h₁ := (h.passes hd).calm (.store (.createUser new)) hn
  refine Flow.ensures_ofExcept ⟨h₁, fun user hu => ?_⟩
  have hanswer : (w₁.store.createUser new w₁.instant).1 = .ok user := hu
  show user ∈ (w₁.store.createUser new w₁.instant).2.users
  rcases Store.Memory.createUser_cases w₁.store new w₁.instant with he | ⟨he, -⟩
  · rw [he] at hanswer
    cases hanswer
  · rw [he] at hanswer ⊢
    cases hanswer
    exact List.mem_append_right _ (List.mem_singleton_self _)

theorem googleUser_ensures (h : Stands s start rows rows w) (email : String)
    (phone : Option String) :
    (Google.createUser email phone).Ensures (Passes s) (Knows s start rows) w := by
  intro w₁ hd
  have h₁ := (h.passes hd).calm .uuid trivial
  have hname := Uuid.text_ne_empty (w₁.outside.uuids w₁.drawn)
  exact createUser_ensures h₁
    ⟨(w₁.outside.uuids w₁.drawn).text, some email, phone, "", true, .google⟩ hname

/-- The user whom a lookup has found. -/
theorem require_ensures {found : Option User} {e : Failure} (h : Stands s start rows rows w)
    (hu : ∀ user, found = some user → user ∈ w.store.users) :
    (Flow.require found e).Ensures (Passes s) (Knows s start rows) w := by
  cases found with
  | none => exact ⟨h, fun user he => by cases he⟩
  | some user => exact ⟨h, fun user he => by cases he; exact hu user rfl⟩

/-- A user stays known while a calm part of a call goes on. -/
theorem stays_known {f : Flow α} {user : User} (hf : f.Acts IsCalm)
    (h : Stands s start rows rows w) (hu : user ∈ w.store.users) :
    (f >>= fun _ => pure user : Flow User).Ensures (Passes s) (Knows s start rows) w := by
  have hboth : f.Ensures (Passes s) (fun _ w' => Stands s start rows rows w' ∧
      user ∈ w'.store.users) w := by
    refine .of_acts hf (fun _ _ hd hw => ⟨hw.1.passes hd, ?_⟩)
      (fun w act ha hw => ⟨hw.1.calm act ha, (Later.perform w act).users user hw.2⟩) ⟨h, hu⟩
    exact (Later.of_passes hd).users user hw.2
  refine Flow.Ensures.bind (hboth.mono fun result w' hw => ?_)
  cases result with
  | ok a => exact ⟨hw.1, fun user he => by cases he; exact hw.2⟩
  | error e => exact ⟨hw.1, fun user he => by cases he⟩

theorem byPassword_ensures (h : Stands s start rows rows w) (email password : String) :
    (byPassword s email password).Ensures (Passes s) (Knows s start rows) w := by
  refine Flow.Ensures.bind ((userByEmail_ensures h email).mono ?_)
  rintro result w₁ ⟨h₁, found, rfl, hfound⟩
  refine Flow.Ensures.bind ((require_ensures h₁ hfound).mono ?_)
  rintro result w₂ ⟨h₂, hu⟩
  cases result with
  | error e => exact ⟨h₂, fun user he => by cases he⟩
  | ok user =>
    have hcalm : (do
        Flow.ensure user.hasPassword .mustUseGoogle
        Flow.ofExcept (s.suite.verifyPassword user.passwordHash password)).Acts IsCalm :=
      (Flow.acts_ensure _ _ _).bind fun _ => Flow.acts_ofExcept _ _
    have hknown := stays_known hcalm h₂ (hu user rfl)
    rw [Flow.bind_assoc] at hknown
    exact hknown

theorem byCode_ensures (h : Stands s start rows rows w) (phone code : String) :
    (byCode phone code).Ensures (Passes s) (Knows s start rows) w := by
  refine Flow.Ensures.bind ((calm_ensures (check_acts _ code) h).mono ?_)
  intro result w₁ h₁
  cases result with
  | error e => exact ⟨h₁, fun user he => by cases he⟩
  | ok _ =>
    refine Flow.Ensures.bind ((userByPhone_ensures h₁ phone).mono ?_)
    rintro result w₂ ⟨h₂, found, rfl, hfound⟩
    refine Flow.Ensures.bind ((require_ensures h₂ hfound).mono ?_)
    rintro result w₃ ⟨h₃, hu⟩
    cases result with
    | error e => exact ⟨h₃, fun user he => by cases he⟩
    | ok user => exact stays_known (clear_acts _) h₃ (hu user rfl)

/-! ## Each call -/

theorem signUp_ensures (hl : Lasting s) (h : Stands s start rows rows w) (request : SignUpRequest)
    (ip : String) :
    (signUp s request ip).Ensures (Passes s) (Effect s start rows (.signUp request ip)) w := by
  refine calm_then (ensureValid_acts _) h fun _ w₁ _ h₁ => ?_
  refine calm_then (ensureFreeEmail_acts _) h₁ fun _ w₂ _ h₂ => ?_
  refine calm_then (ensureFreePhone_acts _) h₂ fun _ w₃ _ h₃ => ?_
  refine calm_then uuid_acts h₃ fun id w₄ _ h₄ => ?_
  refine calm_then salt_acts h₄ fun salt w₅ _ h₅ => ?_
  refine calm_then (Flow.acts_ofExcept _ _) h₅ fun hash w₆ _ h₆ => ?_
  refine known_then (createUser_ensures h₆ _ (Uuid.text_ne_empty id)) fun user w₇ hu h₇ => ?_
  exact renewed_then _ (create_ensures hl hu h₇ .email ip) (fun _ => rfl) fun _ => rfl

theorem signIn_ensures (hl : Lasting s) (h : Stands s start rows rows w) (request : SignInRequest)
    (ip : String) :
    (signIn s request ip).Ensures (Passes s) (Effect s start rows (.signIn request ip)) w := by
  refine calm_then (ensureValid_acts _) h fun _ w₁ _ h₁ => ?_
  have hfinish (user : User) (w₂ : World) (hu : user ∈ w₂.store.users)
      (h₂ : Stands s start rows rows w₂) : Flow.Ensures (Passes s)
        (Effect s start rows (.signIn request ip)) (do
          Flow.ensure (!user.isDeleted) .inactiveUser
          let tokens ← Session.update s user request.provider ip
          return respond user tokens) w₂ := by
    refine calm_then (Flow.acts_ensure _ _ _) h₂ fun _ w₃ hlater h₃ => ?_
    have hupdate := update_ensures hl (hlater.users user hu) h₃ request.provider ip
    exact renewed_then (k := .signIn request ip) (respond user) hupdate (fun _ => rfl) fun _ => rfl
  cases hp : request.provider with
  | email =>
    rw [hp] at hfinish
    refine calm_then (required_acts _ _) h₁ fun email w₂ _ h₂ => ?_
    refine calm_then (required_acts _ _) h₂ fun password w₃ _ h₃ => ?_
    exact known_then (byPassword_ensures h₃ email password) hfinish
  | phone =>
    rw [hp] at hfinish
    refine calm_then (required_acts _ _) h₁ fun phone w₂ _ h₂ => ?_
    refine calm_then (required_acts _ _) h₂ fun code w₃ _ h₃ => ?_
    exact known_then (byCode_ensures h₃ (Phone.normalize phone) code) hfinish
  | google => exact .failed (.signIn request ip) h₁

theorem refresh_effect (hl : Lasting s) (h : Stands s start rows rows w) (token ip : String) :
    (refresh s token ip).Ensures (Passes s) (Effect s start rows (.refresh token ip)) w := by
  refine Flow.Ensures.bind ((refresh_ensures hl h token ip).mono ?_)
  rintro result w₁ (⟨e, rfl, h₁⟩ | ⟨user, pair, rfl, hrenewed⟩)
  · exact .failed (.refresh token ip) h₁
  · exact .inr (.inl ⟨user, pair, rfl, rfl, hrenewed⟩)

theorem logout_effect (h : Stands s start rows rows w) (token : String) :
    (logout token).Ensures (Passes s) (Effect s start rows (.logout token)) w := by
  refine (logout_ensures h token).mono ?_
  rintro result w₁ (⟨e, rfl, h₁⟩ | ⟨rfl, hended⟩)
  · exact .failed (.logout token) h₁
  · exact .inr (.inr ⟨token, rfl, rfl, hended⟩)

theorem signInWith_ensures (hl : Lasting s) (h : Stands s start rows rows w) (email : String)
    (state code ip : String) : (Google.signInWith s email ip).Ensures (Passes s)
      (Effect s start rows (.callback state code ip)) w := by
  have hrenewed {f : Flow TokenPair} {user : User} {w : World}
      (hf : f.Ensures (Passes s) (Renewed s start rows user) w) :
      f.Ensures (Passes s) (Effect s start rows (.callback state code ip)) w := by
    refine hf.mono ?_
    rintro result w' ⟨m, rfl, hm⟩
    exact .inr (.inl ⟨user, m.pair s user, rfl, rfl, m, rfl, hm⟩)
  refine Flow.Ensures.bind ((userByEmail_ensures h email).mono ?_)
  rintro result w₁ ⟨h₁, found, rfl, hfound⟩
  cases found with
  | some user =>
    refine calm_then (k := .callback state code ip) (Flow.acts_ensure _ _ _) h₁
      fun _ w₂ hlater h₂ => ?_
    exact hrenewed (update_ensures hl (hlater.users user (hfound user rfl)) h₂ .google ip)
  | none =>
    refine known_then (k := .callback state code ip) (googleUser_ensures h₁ email none)
      fun user w₂ hu h₂ => ?_
    exact hrenewed (create_ensures hl hu h₂ .google ip)

theorem callback_ensures (hl : Lasting s) (h : Stands s start rows rows w)
    (state code ip : String) : (Google.callback s state code ip).Ensures (Passes s)
      (Effect s start rows (.callback state code ip)) w := by
  refine calm_then (Flow.acts_ensure _ _ _) h fun _ w₁ _ h₁ => ?_
  refine calm_then (claimedAt_acts state) h₁ fun found w₂ _ h₂ => ?_
  refine calm_then (Flow.acts_require _ _ _) h₂ fun claimedAt w₃ _ h₃ => ?_
  refine calm_then now_acts h₃ fun now w₄ _ h₄ => ?_
  refine calm_then (Flow.acts_ensure _ _ _) h₄ fun _ w₅ _ h₅ => ?_
  refine calm_then (take_acts s state claimedAt) h₅ fun taken w₆ _ h₆ => ?_
  refine calm_then (Flow.acts_ensure _ _ _) h₆ fun _ w₇ _ h₇ => ?_
  refine calm_then (profileOrRestore_acts s state claimedAt code) h₇ fun profile w₈ _ h₈ => ?_
  refine calm_then (release_acts state) h₈ fun _ w₉ _ h₉ => ?_
  exact signInWith_ensures hl h₉ profile.email state code ip

/-- A newcomer is given a request, however its id is written, and no tokens. -/
theorem newcomer_ensures (h : Stands s start rows rows w) (name : Uuid → String)
    (email : String) :
    Flow.Ensures (Passes s) (fun (result : Except Failure GmailAnswer) w' =>
      Stands s start rows rows w' ∧ ∀ answer, result = .ok answer → answer.tokens = none) (do
        let id ← Flow.newUuid
        Google.newRequest s (name id) email
        return ⟨true, none, some (name id)⟩) w := by
  refine Flow.Ensures.bind ((calm_ensures uuid_acts h).mono ?_)
  intro result w₁ h₁
  cases result with
  | error e => exact ⟨h₁, fun answer he => by cases he⟩
  | ok id =>
    refine Flow.Ensures.bind ((calm_ensures (newRequest_acts s (name id) email) h₁).mono ?_)
    intro result w₂ h₂
    cases result with
    | error e => exact ⟨h₂, fun answer he => by cases he⟩
    | ok _ =>
      refine ⟨h₂, fun answer he => ?_⟩
      cases he
      rfl

theorem fromDevice_ensures (hl : Lasting s) (h : Stands s start rows rows w)
    (googleToken ip : String) : (Google.fromDevice s googleToken ip).Ensures (Passes s)
      (Effect s start rows (.device googleToken ip)) w := by
  have hprofile : (Flow.profile googleToken).Acts IsCalm :=
    ⟨trivial, fun _ => Flow.acts_ofExcept _ _⟩
  refine calm_then hprofile h fun profile w₁ _ h₁ => ?_
  refine Flow.Ensures.bind ((userByEmail_ensures h₁ profile.email).mono ?_)
  rintro result w₂ ⟨h₂, found, rfl, hfound⟩
  cases found with
  | some user =>
    refine calm_then (k := .device googleToken ip) (Flow.acts_ensure _ _ _) h₂
      fun _ w₃ hlater h₃ => ?_
    have hupdate := update_ensures hl (hlater.users user (hfound user rfl)) h₃ .google ip
    exact renewed_then (k := .device googleToken ip) (fun pair => ⟨false, some pair, none⟩) hupdate
      (fun _ => rfl) fun _ => rfl
  | none =>
    have hnone (result : Except Failure GmailAnswer)
        (hr : ∀ answer, result = .ok answer → answer.tokens = none) :
        (Call.device googleToken ip).pair? result = none := by
      cases result with
      | ok answer => exact hr answer rfl
      | error e => rfl
    generalize Uuid.text = name
    refine Flow.Ensures.mono (newcomer_ensures h₂ name profile.email) ?_
    rintro result w₃ ⟨h₃, hr⟩
    exact .inl ⟨hnone result hr, rfl, h₃⟩

theorem complete_ensures (hl : Lasting s) (h : Stands s start rows rows w)
    (request : CompleteRequest) (ip : String) :
    (complete s request ip).Ensures (Passes s) (Effect s start rows (.complete request ip)) w := by
  refine calm_then (ensureValid_acts _) h fun _ w₁ _ h₁ => ?_
  refine calm_then (provenEmail_acts _) h₁ fun email w₂ _ h₂ => ?_
  refine calm_then (check_acts _ _) h₂ fun _ w₃ _ h₃ => ?_
  refine calm_then (ensureFreeEmail_acts _) h₃ fun _ w₄ _ h₄ => ?_
  refine calm_then (ensureFreePhone_acts _) h₄ fun _ w₅ _ h₅ => ?_
  refine known_then (googleUser_ensures h₅ email (some (Phone.normalize request.phone)))
    fun user w₆ hu h₆ => ?_
  refine calm_then (dropRequest_acts _) h₆ fun _ w₇ hlater₇ h₇ => ?_
  refine calm_then (clear_acts _) h₇ fun _ w₈ hlater₈ h₈ => ?_
  have hu₈ := (hlater₇.trans hlater₈).users user hu
  have hcreate := create_ensures hl hu₈ h₈ .google ip
  exact renewed_then (k := .complete request ip) (respond user) hcreate (fun _ => rfl) fun _ => rfl

/-- A call that is calm leaves the book as it is. -/
theorem effect_of_calm {k : Call} {f : Flow k.Value} (hf : f.Acts IsCalm)
    (h : Stands s start rows rows w) (hp : ∀ result, k.pair? result = none)
    (he : ∀ result, k.ended? result = none) :
    f.Ensures (Passes s) (Effect s start rows k) w :=
  (calm_ensures hf h).mono fun result _ h' => .inl ⟨hp result, he result, h'⟩

/-- Whatever call runs alone in a world that is as the book has it: the world is again as the book
has it, which has a new pair for one user, or lacks the pair of one user, or is as it was. -/
theorem flow_ensures (hl : Lasting s) (h : Stands s start rows rows w) (k : Call) :
    (k.flow s).Ensures (Passes s) (Effect s start rows k) w := by
  cases k with
  | signUp request ip => exact signUp_ensures hl h request ip
  | signIn request ip => exact signIn_ensures hl h request ip
  | refresh token ip => exact refresh_effect hl h token ip
  | logout token => exact logout_effect h token
  | redirect state =>
    exact effect_of_calm (redirectUrl_acts s state) h (fun _ => rfl) fun _ => rfl
  | callback state code ip => exact callback_ensures hl h state code ip
  | device googleToken ip => exact fromDevice_ensures hl h googleToken ip
  | complete request ip => exact complete_ensures hl h request ip
  | sendCode request =>
    exact effect_of_calm (sendCode_acts s request) h (fun _ => rfl) fun _ => rfl

end SignOn.Account
