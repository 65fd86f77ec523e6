import SignOn.Proofs.Account.Reachable
import SignOn.Proofs.Sample
/-!
Whether the provider vouches for an email. A profile says so, but no call looks: every call has the
same outcome and leaves the same world, whatever the provider says about the emails of its profiles.
`trusts_marked` says so for every world.
-/

namespace SignOn

/-! ## Marks -/

/-- The profile, as if the provider had said this of its email. -/
def UserProfile.marked (verified : Bool) (p : UserProfile) : UserProfile :=
  { p with emailVerified := verified }

/-- The world, as if the provider said of every email what is given for the access token. -/
def World.marked (verified : String → Bool) (w : World) : World :=
  { w with outside := { w.outside with
      profile := fun token => (w.outside.profile token).map (.marked (verified token)) } }

/-- What an act is answered by such a provider. -/
def Act.marked (verified : String → Bool) : (act : Act) → act.Answer → act.Answer
  | .profile token, answer => Except.map (.marked (verified token)) answer
  | .clock, answer => answer
  | .uuid, answer => answer
  | .code, answer => answer
  | .salt, answer => answer
  | .cache _, answer => answer
  | .store _, answer => answer
  | .exchange _, answer => answer
  | .mail .., answer => answer
  | .text .., answer => answer

/-- An act does the same in both worlds, and only a profile is answered otherwise. -/
theorem World.perform_marked (verified : String → Bool) (w : World) (act : Act) :
    (w.marked verified).perform act
      = (act.marked verified (w.perform act).1, (w.perform act).2.marked verified) := by
  cases act with
  | cache cmd =>
    obtain ⟨outside, clock, store, cache, lost, calls, drawn, mails, texts, exchanged⟩ := w
    simp only [perform, performCache, marked]
    by_cases hf : outside.cacheFails calls = true
    · simp only [hf, if_true]
      rfl
    · simp only [hf]
      cases lost <;> cases cmd <;> rfl
  | exchange code =>
    simp only [perform, marked, Act.marked]
    split <;> rfl
  | mail address code =>
    simp only [perform, marked, Act.marked]
    split <;> rfl
  | text phone message =>
    simp only [perform, marked, Act.marked]
    split <;> rfl
  | _ => rfl

namespace Flow

variable {α β : Type}

/-- The call goes on in the same way, whatever the provider says about the emails of profiles. -/
def Blind : Flow α → Prop
  | .done _ => True
  | .fail _ => True
  | .step act next =>
    (∀ verified answer, next (act.marked verified answer) = next answer) ∧
      ∀ answer, (next answer).Blind

theorem Blind.run {f : Flow α} (hf : f.Blind) (verified : String → Bool) (w : World) :
    f.run (w.marked verified) = ((f.run w).1, (f.run w).2.marked verified) := by
  induction f generalizing w with
  | done value => rfl
  | fail failure => rfl
  | step act next ih =>
    have hstep : (Flow.step act next).run (w.marked verified)
        = (next (w.perform act).1).run ((w.perform act).2.marked verified) := by
      rw [Flow.run, World.perform_marked, hf.1]
    rw [hstep, ih _ (hf.2 _)]
    rfl

theorem Blind.bind {f : Flow α} {g : α → Flow β} (hf : f.Blind) (hg : ∀ a, (g a).Blind) :
    (f >>= g).Blind := by
  induction f with
  | done a => exact hg a
  | fail e => trivial
  | step act next ih =>
    exact ⟨fun verified answer => congrArg (· >>= g) (hf.1 verified answer),
      fun answer => ih answer (hf.2 answer)⟩

/-- An act that asks for no profile. -/
def AsksNoProfile : Act → Prop
  | .profile _ => False
  | _ => True

instance : AdmitsCodes AsksNoProfile where
  clock := trivial
  uuid := trivial
  salt := trivial
  lookup _ _ := trivial
  request _ _ _ := trivial
  state _ _ _ := trivial
  code := trivial
  bundle _ _ _ := trivial
  mail _ _ := trivial
  text _ _ := trivial

instance : AdmitsSessions AsksNoProfile where
  store _ := trivial
  session _ _ _ := trivial

/-- A call that asks for no profile is blind. -/
theorem Blind.of_acts {f : Flow α} (hf : f.Acts AsksNoProfile) : f.Blind := by
  induction f with
  | done a => trivial
  | fail e => trivial
  | step act next ih =>
    refine ⟨fun verified answer => ?_, fun answer => ih answer (hf.2 answer)⟩
    cases act with
    | profile token => exact hf.1.elim
    | _ => rfl

/-- A part that asks for no profile comes first. -/
theorem blind_then {f : Flow α} {g : α → Flow β} (hf : f.Acts AsksNoProfile)
    (hg : ∀ a, (g a).Blind) : (f >>= g).Blind := (Blind.of_acts hf).bind hg

/-- A call that uses no more of a profile than its email is blind. -/
theorem blind_profile {g : UserProfile → Flow β} (token : String) (hg : ∀ p, (g p).Blind)
    (hm : ∀ verified p, g (.marked verified p) = g p) : (Flow.profile token >>= g).Blind := by
  refine ⟨fun verified answer => ?_, fun answer => ?_⟩
  · cases answer with
    | ok p => exact hm (verified token) p
    | error e => rfl
  · cases answer with
    | ok p => exact hg p
    | error e => trivial

end Flow

namespace Account

open SignOn.Session SignOn.Keyspace

/-! ## Each call -/

section
variable (s : Setup) {α β : Type}

theorem profileOrRestore_blind {g : UserProfile → Flow β} (state : String) (claimedAt : Int)
    (code : String) (hg : ∀ p, (g p).Blind) (hm : ∀ verified p, g (.marked verified p) = g p) :
    (Google.profileOrRestore s state claimedAt code >>= g).Blind := by
  have hrestore (e : Failure) : ((do
      let _ ← States.restore s.stateLifetime state claimedAt
      .fail e : Flow UserProfile) >>= g).Blind := by
    have hacts : (do
        let _ ← States.restore s.stateLifetime state claimedAt
        .fail e : Flow UserProfile).Acts Flow.AsksNoProfile :=
      (restore_acts s state claimedAt).bind fun _ => trivial
    exact Flow.blind_then hacts hg
  refine ⟨fun _ _ => rfl, fun token => ?_⟩
  cases token with
  | error e => exact hrestore e
  | ok token =>
    refine ⟨fun verified answer => ?_, fun answer => ?_⟩
    · cases answer with
      | ok p => exact hm (verified token.accessToken) p
      | error e => rfl
    · cases answer with
      | ok p => exact hg p
      | error e => exact hrestore e

theorem callback_blind (state code ip : String) : (Google.callback s state code ip).Blind := by
  refine Flow.blind_then (Flow.acts_ensure _ _ _) fun _ => ?_
  refine Flow.blind_then (claimedAt_acts state) fun found => ?_
  refine Flow.blind_then (Flow.acts_require _ _ _) fun claimedAt => ?_
  refine Flow.blind_then now_acts fun now => ?_
  refine Flow.blind_then (Flow.acts_ensure _ _ _) fun _ => ?_
  refine Flow.blind_then (take_acts s state claimedAt) fun taken => ?_
  refine Flow.blind_then (Flow.acts_ensure _ _ _) fun _ => ?_
  refine profileOrRestore_blind s state claimedAt code (fun p => ?_) fun _ _ => rfl
  exact .of_acts ((release_acts state).bind fun _ => signInWith_acts s p.email ip)

theorem fromDevice_blind (googleToken ip : String) :
    (Google.fromDevice s googleToken ip).Blind := by
  refine Flow.blind_profile googleToken (fun p => ?_) fun verified p => ?_
  · refine Flow.blind_then (lookup_acts (.userByEmail p.email) trivial) fun found => ?_
    cases found with
    | some user =>
      refine .of_acts ((Flow.acts_ensure _ _ _).bind fun _ => ?_)
      exact (update_acts s user .google ip).bind fun _ => pure_acts _
    | none =>
      generalize Uuid.text = name
      exact .of_acts (newcomer_acts s name p.email)
  · refine congrArg (Flow.store (.userByEmail p.email) >>= ·) (funext fun found => ?_)
    cases found with
    | some user => rfl
    | none => rfl

theorem flow_blind (k : Call) : (k.flow s).Blind := by
  cases k with
  | signUp request ip => exact .of_acts (signUp_acts s request ip)
  | signIn request ip => exact .of_acts (signIn_acts s request ip)
  | refresh token ip => exact .of_acts (refresh_acts s token ip)
  | logout token => exact .of_acts (logout_acts token)
  | redirect state => exact .of_acts (redirectUrl_acts s state)
  | callback state code ip => exact callback_blind s state code ip
  | device googleToken ip => exact fromDevice_blind s googleToken ip
  | complete request ip => exact .of_acts (complete_acts s request ip)
  | sendCode request => exact .of_acts (sendCode_acts s request)

end

/-! ## Trust -/

/-- A call trusts an email: it hands out tokens, or an account with the email is new or has its
session changed, or the email waits under a request for its sign-up to be completed. -/
inductive Trusts (s : Setup) (k : Call) (w : World) (email : String) : Prop where
  | answers {pair : TokenPair} (h : k.pair? ((k.flow s).run w).1 = some pair)
  | opens {user : User} (hu : user ∈ ((k.flow s).run w).2.store.users)
      (he : user.email = some email) (hnew : user ∉ w.store.users)
  | renews {user : User} (hu : user ∈ ((k.flow s).run w).2.store.users)
      (he : user.email = some email)
      (hnew : ((k.flow s).run w).2.store.rowFor user.id ≠ w.store.rowFor user.id)
  | parks {requestId : String}
      (he : Requests.ofValue (((k.flow s).run w).2.cache.read? w.millis (Requests.key requestId))
        = some email)
      (hnew : Requests.ofValue (w.cache.read? w.millis (Requests.key requestId)) ≠ some email)

/-- Whatever the provider says about the emails of its profiles, every call has the same outcome and
leaves the same world, and it trusts the same emails. -/
theorem trusts_marked (s : Setup) (k : Call) (w : World) (verified : String → Bool) :
    (k.flow s).run (w.marked verified)
      = (((k.flow s).run w).1, ((k.flow s).run w).2.marked verified) ∧
    ∀ email, Trusts s k (w.marked verified) email ↔ Trusts s k w email := by
  have hrun := (flow_blind s k).run verified w
  have hresult : ((k.flow s).run (w.marked verified)).1 = ((k.flow s).run w).1 := by rw [hrun]
  have hstore : ((k.flow s).run (w.marked verified)).2.store = ((k.flow s).run w).2.store := by
    rw [hrun]
    rfl
  have hcache : ((k.flow s).run (w.marked verified)).2.cache = ((k.flow s).run w).2.cache := by
    rw [hrun]
    rfl
  refine ⟨hrun, fun email => ⟨fun h => ?_, fun h => ?_⟩⟩
  · cases h with
    | answers h => exact .answers (hresult ▸ h)
    | opens hu he hnew => exact .opens (hstore ▸ hu) he hnew
    | renews hu he hnew => exact .renews (hstore ▸ hu) he (hstore ▸ hnew)
    | parks he hnew => exact .parks (hcache ▸ he) hnew
  · cases h with
    | answers h => exact .answers (hresult.symm ▸ h)
    | opens hu he hnew => exact .opens (hstore.symm ▸ hu) he hnew
    | renews hu he hnew => exact .renews (hstore.symm ▸ hu) he (hstore.symm ▸ hnew)
    | parks he hnew => exact .parks (hcache.symm ▸ he) hnew

/-! ## A provider that does not vouch -/

/-- A profile with an email for which the provider does not vouch. -/
def unverified : UserProfile := { email := "ada@example.org", emailVerified := false }

/-- An empty world, where the provider knows nobody else. -/
def doubtful : World :=
  { Sample.world with outside := { Sample.outside with profile := fun _ => .ok unverified } }

/-- A newcomer has been sent to the provider. -/
def departed : World := ((Call.flow Sample.setup (.redirect (Sample.uuid 7).text)).run doubtful).2

/-- The newcomer comes back. -/
def arrival : Call := .callback (Sample.uuid 7).text "code" "::1"

/-- The newcomer has come back. -/
def arrived : World := ((arrival.flow Sample.setup).run departed).2

/-- An email for which the provider does not vouch is trusted all the same: the newcomer gets tokens
and an account, later tokens for this account, and on a device a request under which the email waits
for the sign-up to be completed. -/
theorem unverified_trusted : unverified.emailVerified = false ∧
    (∀ w, w = doubtful ∨ w = departed ∨ w = arrived →
      Reachable Sample.setup w ∧ ∀ token, w.outside.profile token = .ok unverified) ∧
    Trusts Sample.setup arrival departed unverified.email ∧
    (∃ user ∈ arrived.store.users, user.email = some unverified.email) ∧
    Trusts Sample.setup (.device "token" "::1") arrived unverified.email ∧
    Trusts Sample.setup (.device "token" "::1") doubtful unverified.email := by
  have hdoubtful : Reachable Sample.setup doubtful := .empty rfl rfl
  have hdeparted : Reachable Sample.setup departed := hdoubtful.call _
  refine ⟨rfl, ?_, ?_, ?_, ?_, ?_⟩
  · rintro w (rfl | rfl | rfl)
    · exact ⟨hdoubtful, fun _ => rfl⟩
    · exact ⟨hdeparted, fun _ => rfl⟩
    · exact ⟨hdeparted.call arrival, fun _ => rfl⟩
  · have hanswer : (arrival.pair? ((arrival.flow Sample.setup).run departed).1).isSome = true := by
      decide +kernel
    obtain ⟨pair, hpair⟩ := Option.isSome_iff_exists.1 hanswer
    exact .answers hpair
  · have hopened : arrived.store.users.any (·.email == some unverified.email) = true := by
      decide +kernel
    obtain ⟨user, hu, he⟩ := List.any_eq_true.1 hopened
    exact ⟨user, hu, by simpa using he⟩
  · have hanswer : ((Call.pair? (.device "token" "::1")
        (((Call.device "token" "::1").flow Sample.setup).run arrived).1)).isSome = true := by
      decide +kernel
    obtain ⟨pair, hpair⟩ := Option.isSome_iff_exists.1 hanswer
    exact .answers hpair
  · have hparked : Requests.ofValue
        ((((Call.device "token" "::1").flow Sample.setup).run doubtful).2.cache.read?
          doubtful.millis (Requests.key (Sample.uuid 0).text)) = some unverified.email := by
      decide +kernel
    have hnew : Requests.ofValue (doubtful.cache.read? doubtful.millis
        (Requests.key (Sample.uuid 0).text)) ≠ some unverified.email := by decide +kernel
    exact .parks hparked hnew

end Account
end SignOn
