import SignOn.Network
import SignOn.Proofs.Google.Claim
/-!
The window of a claim. A state that was claimed can be redeemed for so many seconds after the second
of the claim. Two clocks guard that window: the value of the entry tells when the state was claimed,
and the entry itself runs out. Each failed attempt writes the entry anew and so renews the second
clock, never the first one. So the window neither stretches nor shrinks, however often the provider
fails (`window_exact`).
-/

namespace SignOn.Google

open SignOn.Keyspace
open SignOn.Verification (Steady)

variable {s : Setup} {state code ip email : String} {w w' w₀ : World} {past : List Event}
  {claim : Option Int} {claimedAt expires : Int} {value : Bytes} {e : Failure}

/-! ## What the provider says -/

/-- The profile that an event gives. -/
def given? : Event → Option UserProfile
  | ⟨.profile _, .ok profile⟩ => some profile
  | _ => none

/-- The profile that the provider has given. -/
def givenIn (past : List Event) : Option UserProfile := past.findSome? given?

theorem givenIn_append_of_none {event : Event} (h : given? event = none) :
    givenIn (past ++ [event]) = givenIn past := by
  simp [givenIn, List.findSome?_append, h]

theorem givenIn_append {profile : UserProfile} (h : givenIn past = some profile)
    (more : List Event) : givenIn (past ++ more) = some profile := by
  rw [givenIn] at h
  rw [givenIn, List.findSome?_append, h]
  rfl

theorem givenIn_append_profile (h : givenIn past = none) (token : String) (profile : UserProfile) :
    givenIn (past ++ [⟨.profile token, .ok profile⟩]) = some profile := by
  rw [givenIn] at h
  rw [givenIn, List.findSome?_append, h]
  rfl

/-- The failure with which the provider answers in an event. -/
def reported? : Event → Option Failure
  | ⟨.exchange _, .error e⟩ => some e
  | ⟨.profile _, .error e⟩ => some e
  | _ => none

/-- The provider itself has answered with a failure. -/
def Reported (past : List Event) (e : Failure) : Prop := ∃ event ∈ past, reported? event = some e

theorem ask_error {servers : Http.Servers} {step : String} {r : Http.Outgoing}
    {shape : Json.Shape} (h : ask servers step r shape = .error e) :
    ∃ reason, e = .provider reason := by
  simp only [ask] at h
  split at h
  · exact ⟨_, (Except.error.inj h).symm⟩
  · split at h
    · split at h
      · cases h
      · exact ⟨_, (Except.error.inj h).symm⟩
    · exact ⟨_, (Except.error.inj h).symm⟩

theorem exchange_error {servers : Http.Servers} {g : GoogleSettings}
    (h : exchange servers g code = .error e) : ∃ reason, e = .provider reason := by
  cases ha : ask servers "google.exchange" (exchangeRequest g code) ProviderToken.shape with
  | error e' =>
    rw [exchange, ha] at h
    cases h
    exact ask_error ha
  | ok token =>
    rw [exchange, ha] at h
    cases h

theorem profile_error {servers : Http.Servers} {g : GoogleSettings} {token : String}
    (h : profile servers g token = .error e) : ∃ reason, e = .provider reason := by
  cases ha : ask servers "google.userinfo" (profileRequest g token) UserProfile.shape with
  | error e' =>
    rw [profile, ha] at h
    cases h
    exact ask_error ha
  | ok found =>
    rw [profile, ha] at h
    simp only [bind, Except.bind] at h
    split at h
    · exact ⟨_, (Except.error.inj h).symm⟩
    · cases h

/-- Google, asked through a network, never answers as if it refused a state. -/
theorem not_isRefusal_of_reported {o : Outside} {n : Network} {act : Act}
    (ho : w.outside = o.through n s.settings) (h : reported? (w.event act) = some e) :
    ¬ IsRefusal e := by
  have hreason : ∃ reason, e = .provider reason := by
    cases act with
    | exchange code =>
      simp only [World.event, World.perform] at h
      cases hx : w.outside.exchange code with
      | error e' =>
        rw [hx] at h
        cases h
        rw [ho] at hx
        exact exchange_error hx
      | ok token => simp [hx, reported?] at h
    | profile token =>
      simp only [World.event, World.perform] at h
      cases hx : w.outside.profile token with
      | error e' =>
        rw [hx] at h
        cases h
        rw [ho] at hx
        exact profile_error hx
      | ok found => simp [hx, reported?] at h
    | _ => cases h
  obtain ⟨reason, rfl⟩ := hreason
  rintro (h | h) <;> cases h

/-! ## Callbacks -/

/-- A world that no caller tells from an earlier one, but by its clock. -/
structure Untouched (w w' : World) : Prop where
  forward : w.millis ≤ w'.millis
  store : w'.store = w.store
  read : ∀ key later, w'.millis ≤ later → w'.cache.read? later key = w.cache.read? later key

theorem Untouched.refl (w : World) : Untouched w w := ⟨Int.le_refl _, rfl, fun _ _ _ => rfl⟩

theorem Untouched.trans (h : Untouched w₀ w) (h' : Untouched w w') : Untouched w₀ w' where
  forward := Int.le_trans h.forward h'.forward
  store := h'.store.trans h.store
  read key later hle := (h'.read key later hle).trans
    (h.read key later (Int.le_trans h'.forward hle))

theorem Ticks.untouched (h : Ticks w w') : Untouched w w' :=
  ⟨h.forward, h.store, fun _ _ _ => by rw [h.cache]⟩

/-- A command that drops a dead entry at most is not seen by anyone. -/
theorem Commanded.untouched {cmd : Cache.Command} (hw : Ready w) (h : Commanded cmd w w')
    (hc : ∃ key, w'.cache = w.cache.settle w.millis key) : Untouched w w' := by
  obtain ⟨key, hkey⟩ := hc
  have halike : w.cache.Alike w.millis (w.cache.settle w.millis key) :=
    (Cache.Memory.Alike.refl hw.keyed).settle key
  refine ⟨Int.le_of_eq h.millis.symm, h.store, fun other later hle => ?_⟩
  rw [hkey]
  exact halike.read other later (h.millis ▸ hle)

/-- Whether a claim can be redeemed at a second. -/
def Within (s : Setup) (claimedAt now : Int) : Prop :=
  claimedAt ≤ now ∧ now ≤ claimedAt + s.settings.oauth.awaitSeconds

theorem inWindow_iff {now : Int} : inWindow s claimedAt now = true ↔ Within s claimedAt now := by
  rw [inWindow, Bool.and_eq_true, decide_eq_true_eq, decide_eq_true_eq, Within]
  omega

/-- How a callback has asked the provider: in the window of the claim that stood. -/
structure Asked (s : Setup) (claim : Option Int) (past : List Event) : Prop where
  contact : past.any isContact = true
  within : ∃ claimedAt now, claim = some claimedAt ∧ readAt past = some now ∧
    Within s claimedAt now

theorem Asked.append (h : Asked s claim past) (more : List Event) :
    Asked s claim (past ++ more) := by
  obtain ⟨hcontact, claimedAt, now, hclaim, hread, hin⟩ := h
  refine ⟨?_, claimedAt, now, hclaim, readAt_append hread more, hin⟩
  rw [List.any_append, hcontact, Bool.true_or]

/-- How a callback may end that finds a claim, or none. -/
inductive Ends (s : Setup) (state : String) (w : World) (claim : Option Int) (past : List Event) :
    Except Failure TokenPair → World → Prop where
  /-- It refuses the state, since nobody claimed it or since the window is over. -/
  | refused {e : Failure} {w' : World} (he : IsRefusal e) (hc : past.any isContact = false)
      (hw : Untouched w w') (hlate : Uuid.isWritten state = true → ∀ claimedAt,
        claim = some claimedAt → claimedAt + s.settings.oauth.awaitSeconds ≤ w'.now) :
      Ends s state w claim past (.error e) w'
  /-- The provider fails, and the claim is put back. -/
  | failed {e : Failure} {w' : World} (ha : Asked s claim past) (hp : givenIn past = none)
      (hr : Reported past e) (hclaim : Claimed s state w' claim) :
      Ends s state w claim past (.error e) w'
  /-- The provider gives a profile, and the claim is spent. -/
  | redeemed {profile : UserProfile} {result : Except Failure TokenPair} {w' : World}
      (ha : Asked s claim past) (hp : givenIn past = some profile)
      (hs : SignsIn s w.store profile.email past result) (hclaim : Unread state w') :
      Ends s state w claim past result w'

/-- The claim is put back, unless the consumed entry has run out, and then the window is over. -/
theorem restore_traced (hdate : Calendar.firstSecond ≤ claimedAt) (hpast : claimedAt ≤ w.now)
    (hlives : Outlives s claimedAt expires) (h : Reads state States.consumed expires w) :
    (States.restore s.stateLifetime state claimedAt >>= fun _ =>
      (Flow.fail e : Flow UserProfile)).Traced Ticks
      (fun past' result w' => result = .error e ∧ w'.store = w.store ∧
        (∃ event, past' = past ++ [event] ∧ isContact event = false ∧ given? event = none) ∧
        Claimed s state w' (some claimedAt)) past w := by
  refine command_traced fun w₁ w₂ hd₁ hw₂ => ?_
  have hnow : claimedAt ≤ w₁.now := Int.le_trans hpast (World.now_mono hd₁.forward)
  have hread := h w₁.millis hd₁.forward
  rw [← hd₁.cache] at hread
  have hcache := hw₂.cache
  refine ⟨rfl, hw₂.store.trans hd₁.store, ⟨_, rfl, rfl, rfl⟩, ?_⟩
  simp only [Cache.Memory.perform, hread] at hcache
  by_cases hlive : w₁.millis < expires
  · rw [if_pos hlive, if_pos rfl] at hcache
    exact ⟨⟨hdate, hw₂.now ▸ hnow⟩, _, outlives_expiry hnow, reads_write hcache⟩
  · rw [if_neg hlive, if_neg (by simp)] at hcache
    have hsame := hd₁.untouched.trans (hw₂.untouched hd₁.ready ⟨_, hcache⟩)
    exact claimed_of_unread hdate (hw₂.now ▸ hnow) (hw₂.now ▸ hlives.le hlive)
      ((h.later hsame.forward (hsame.read _)).unread (hw₂.millis ▸ hlive))

/-- What asking the provider leaves: a profile, or a claim that is put back. -/
structure Answered (s : Setup) (state : String) (claimedAt : Int) (w₀ : World)
    (before past : List Event) (result : Except Failure UserProfile) (w : World) : Prop where
  before : ∃ more, past = before ++ more
  contact : past.any isContact = true
  store : w.store = w₀.store
  profile : ∀ profile, result = .ok profile → givenIn past = some profile
  failure : ∀ e, result = .error e →
    givenIn past = none ∧ Reported past e ∧ Claimed s state w (some claimedAt)

/-- The provider fails in an event, and the claim is put back. -/
theorem failed_traced {event : Event} (hdate : Calendar.firstSecond ≤ claimedAt)
    (hpast : claimedAt ≤ w.now) (hlives : Outlives s claimedAt expires)
    (h : Reads state States.consumed expires w) (hstore : w.store = w₀.store)
    {before more : List Event} (hp : past = before ++ more ++ [event])
    (hnone : givenIn past = none) (hcontact : isContact event = true)
    (hr : reported? event = some e) :
    (States.restore s.stateLifetime state claimedAt >>= fun _ =>
      (Flow.fail e : Flow UserProfile)).Traced Ticks
      (Answered s state claimedAt w₀ before) past w := by
  refine (restore_traced hdate hpast hlives h).mono fun past' result w' hend => ?_
  obtain ⟨rfl, hstore', ⟨last, rfl, hlast, hgiven⟩, hclaim⟩ := hend
  have hmem : event ∈ past := by simp [hp]
  refine ⟨⟨more ++ [event] ++ [last], by simp [hp]⟩, ?_, hstore'.trans hstore, ?_, ?_⟩
  · rw [List.any_append, List.any_eq_true.2 ⟨event, hmem, hcontact⟩, Bool.true_or]
  · intro profile he
    cases he
  · intro e' he
    cases he
    exact ⟨(givenIn_append_of_none hgiven).trans hnone, ⟨event, List.mem_append_left _ hmem, hr⟩,
      hclaim⟩

theorem profileOrRestore_traced (hdate : Calendar.firstSecond ≤ claimedAt)
    (hpast : claimedAt ≤ w.now) (hlives : Outlives s claimedAt expires)
    (h : Reads state States.consumed expires w) (hnone : givenIn past = none) :
    (profileOrRestore s state claimedAt code).Traced Ticks (Answered s state claimedAt w past)
      past w := by
  intro w₁ hd₁
  have h₁ : Reads state States.consumed expires w₁ :=
    h.later hd₁.forward fun _ _ => by rw [hd₁.cache]
  have hpast₁ : claimedAt ≤ w₁.now := Int.le_trans hpast (World.now_mono hd₁.forward)
  cases hx : w₁.outside.exchange code with
  | error e =>
    simp only [World.event, World.perform, hx]
    exact failed_traced hdate hpast₁ hlives h₁ hd₁.store (by rw [List.append_nil])
      ((givenIn_append_of_none rfl).trans hnone) rfl rfl
  | ok token =>
    simp only [World.event, World.perform, hx]
    intro w₂ hd₂
    have h₂ : Reads state States.consumed expires w₂ :=
      Reads.later h₁ hd₂.forward fun _ _ => by rw [hd₂.cache]
    have hpast₂ : claimedAt ≤ w₂.now := Int.le_trans hpast₁ (World.now_mono hd₂.forward)
    have hstore₂ : w₂.store = w.store := hd₂.store.trans hd₁.store
    cases hy : w₂.outside.profile token.accessToken with
    | error e =>
      simp only [World.event, World.perform, hy]
      exact failed_traced hdate hpast₂ hlives h₂ hstore₂ rfl
        ((givenIn_append_of_none rfl).trans ((givenIn_append_of_none rfl).trans hnone)) rfl rfl
    | ok profile =>
      simp only [World.event, World.perform, hy]
      refine ⟨⟨_, List.append_assoc _ _ _⟩, ?_, hstore₂, ?_, ?_⟩
      · simp [isContact]
      · rintro profile ⟨⟩
        exact givenIn_append_profile ((givenIn_append_of_none rfl).trans hnone) _ _
      · intro e he
        cases he

/-- A call that begins or rotates a session has nothing to do with states. -/
theorem Unread.act {act : Act} (h : Unread state w) (hw : Ready w) (ha : Session.IsOpening act) :
    Unread state (w.perform act).2 := by
  refine h.later (Int.le_of_eq (w.perform_millis act).symm) fun later hle => ?_
  rw [World.perform_millis] at hle
  cases act with
  | cache cmd =>
    cases cmd with
    | set key value lifetime =>
      obtain ⟨idCode, rfl⟩ := ha
      have hne : (Cache.Command.set (Sessions.key idCode) value lifetime).key?
          ≠ some (States.key state) :=
        fun he => sessions_ne_states idCode state (Option.some.inj he)
      rw [hw.steady.perform]
      exact Cache.Memory.read?_perform_of_key_ne hw.keyed hne hle
    | _ => exact ha.elim
  | _ => rw [World.perform_cache_eq _ (by intro cmd hc; cases hc)]

/-- Signing in leaves a freed state free. -/
theorem signIn_silent (hw : Ready w) (h : Unread state w) :
    (signInWith s email ip).Traced Ticks
      (fun past' _ w' => (∃ more, past' = past ++ more) ∧ Ready w' ∧ Unread state w') past w := by
  have hticks : ∀ w w', Ticks w w' → Ready w ∧ Unread state w → Ready w' ∧ Unread state w' :=
    fun w w' hd h => ⟨hd.ready, h.2.later hd.forward fun _ _ => by rw [hd.cache]⟩
  have hacts : ∀ w act, Session.IsOpening act → Ready w ∧ Unread state w →
      Ready (w.perform act).2 ∧ Unread state (w.perform act).2 :=
    fun w act ha h => ⟨h.1.act act, h.2.act h.1 ha⟩
  exact .of_acts (Session.signInWith_acts s email ip) hticks hacts ⟨hw, h⟩

/-- Behind a profile and a freed state, the user is signed in. -/
theorem signedIn_traced {profile : UserProfile} (hasked : Asked s claim past)
    (hgiven : givenIn past = some profile) (hstore : w.store = w₀.store) (hw : Ready w)
    (h : Unread state w) :
    (signInWith s profile.email ip).Traced Ticks (Ends s state w₀ claim) past w := by
  have hsigned : (signInWith s profile.email ip).Traced Ticks
      (fun past result _ => SignsIn s w.store profile.email past result) past w := signIn_traced
  have hsilent : (signInWith s profile.email ip).Traced Ticks (fun past' _ w' =>
      (∃ more, past' = past ++ more) ∧ Ready w' ∧ Unread state w') past w := signIn_silent hw h
  refine (hsigned.and hsilent).mono ?_
  rintro past' result w' ⟨hs, ⟨more, rfl⟩, -, hend⟩
  rw [hstore] at hs
  exact .redeemed (hasked.append more) (givenIn_append hgiven more) hs hend

/-- Behind a profile, the state is freed. -/
theorem release_traced {profile : UserProfile} (hasked : Asked s claim past)
    (hgiven : givenIn past = some profile) (hstore : w.store = w₀.store) :
    (States.release state >>= fun _ => signInWith s profile.email ip).Traced Ticks
      (Ends s state w₀ claim) past w := by
  refine command_traced fun w₁ w₂ hd₁ hw₂ => ?_
  have hunread : Unread state w₂ := by
    intro later hle
    rw [hw₂.cache, Cache.Memory.perform, Cache.Memory.read?_eq, Cache.Memory.find?_erase_self]
    rfl
  exact signedIn_traced (hasked.append _) (givenIn_append hgiven _)
    (hw₂.store.trans (hd₁.store.trans hstore)) hw₂.ready hunread

/-- Behind a take, a callback asks the provider. -/
theorem redeem_traced {now : Int} (hdate : Calendar.firstSecond ≤ claimedAt)
    (hpast : claimedAt ≤ w.now) (hlives : Outlives s claimedAt expires)
    (h : Reads state States.consumed expires w) (hstore : w.store = w₀.store)
    (hnone : givenIn past = none) (hread : readAt past = some now)
    (hin : Within s claimedAt now) :
    (profileOrRestore s state claimedAt code >>= fun profile => do
      States.release state
      signInWith s profile.email ip).Traced Ticks
      (Ends s state w₀ (some claimedAt)) past w := by
  refine Flow.Traced.bind ((profileOrRestore_traced hdate hpast hlives h hnone).mono ?_)
  intro past' result w' hend
  obtain ⟨more, rfl⟩ := hend.before
  have hasked : Asked s (some claimedAt) (past ++ more) :=
    ⟨hend.contact, claimedAt, now, rfl, readAt_append hread more, hin⟩
  cases result with
  | error e =>
    obtain ⟨hgiven, hreported, hclaim⟩ := hend.failure e rfl
    exact .failed hasked hgiven hreported hclaim
  | ok profile =>
    exact release_traced hasked (hend.profile profile rfl) (hend.store.trans hstore)

/-- A callback that found a claim takes it while the window is open. -/
theorem take_traced (hdate : Calendar.firstSecond ≤ claimedAt) (hpast : claimedAt ≤ w.now)
    (hlives : Outlives s claimedAt expires)
    (h : Reads state (States.claimValue claimedAt) expires w) (hw : Untouched w₀ w)
    (hc : past.any isContact = false) (hnone : givenIn past = none) {now : Int}
    (hread : readAt past = some now) (hin : Within s claimedAt now) :
    (States.take s.stateLifetime state claimedAt >>= fun taken => do
      Flow.ensure taken .stateNotFound
      let profile ← profileOrRestore s state claimedAt code
      States.release state
      signInWith s profile.email ip).Traced Ticks (Ends s state w₀ (some claimedAt)) past w := by
  refine command_traced fun w₁ w₂ hd₁ hw₂ => ?_
  have hcache := hw₂.cache
  have hnow : claimedAt ≤ w₁.now := Int.le_trans hpast (World.now_mono hd₁.forward)
  have hfound := h w₁.millis hd₁.forward
  rw [← hd₁.cache] at hfound
  by_cases hlive : w₁.millis < expires
  · rw [if_pos hlive] at hfound
    simp only [Cache.Memory.perform, hfound, if_true] at hcache ⊢
    exact redeem_traced hdate (hw₂.now ▸ hnow) (outlives_expiry hnow) (reads_write hcache)
      (hw₂.store.trans (hd₁.store.trans hw.store))
      ((givenIn_append_of_none rfl).trans hnone) (readAt_append hread _) hin
  · rw [if_neg hlive] at hfound
    simp only [Cache.Memory.perform, hfound, reduceCtorEq, if_false] at hcache ⊢
    have hsame := hw.trans (hd₁.untouched.trans (hw₂.untouched hd₁.ready ⟨_, hcache⟩))
    refine .refused (.inr rfl) (by simp [hc, isContact]) hsame fun _ t ht => ?_
    cases ht
    exact hw₂.now ▸ hlives.le hlive

/-- A callback refuses a state, or asks the provider in the window of the claim that stands; and
then either the claim is put back or it is spent. -/
theorem callback_traced (h : Claimed s state w claim) :
    (callback s state code ip).Traced Ticks (Ends s state w claim) [] w := by
  unfold callback
  cases hstate : Uuid.isWritten state with
  | false =>
    exact .refused (.inl rfl) rfl (Untouched.refl w) fun h => by rw [h] at hstate; cases hstate
  | true =>
    refine command_traced fun w₁ w₂ hd₁ hw₂ => ?_
    have hsame := hd₁.untouched.trans (hw₂.untouched hd₁.ready ⟨_, hw₂.cache⟩)
    have hclaim : Claimed s state w₂ claim := h.later hsame.forward (hsame.read _)
    change (Flow.require (States.ofValue (w₁.cache.read? w₁.millis (States.key state)))
      .stateNotFound >>= _).Traced _ _ _ _
    cases claim with
    | none =>
      rw [h.ticks hd₁ w₁.millis (Int.le_refl _)]
      exact .refused (.inr rfl) rfl hsame fun _ _ h => by cases h
    | some claimedAt =>
      obtain ⟨-, expires, hlives, hreads⟩ := h.ticks hd₁
      rw [hreads w₁.millis (Int.le_refl _)]
      by_cases hlive : w₁.millis < expires
      · obtain ⟨⟨hdate, hpast⟩, expires, hlives, hreads⟩ := hclaim
        have hfirst : -9223372036854775808 ≤ Calendar.firstSecond := by decide
        have hbounds := w₂.now_bounds
        have hread : States.ofValue (some (States.claimValue claimedAt)) = some claimedAt :=
          States.ofValue_claimValue (Int.le_trans hfirst hdate) (by omega)
        rw [if_pos hlive, hread]
        intro w₃ hd₃
        have hsame₃ := hsame.trans hd₃.untouched
        have hpast₃ : claimedAt ≤ w₃.now := Int.le_trans hpast (World.now_mono hd₃.forward)
        change (Flow.ensure (inWindow s claimedAt w₃.now) .stateNotFound >>= _).Traced _ _ _ _
        cases hin : inWindow s claimedAt w₃.now with
        | true =>
          have hreads₃ : Reads state (States.claimValue claimedAt) expires w₃ :=
            hreads.later hd₃.forward fun _ _ => by rw [hd₃.cache]
          exact take_traced hdate hpast₃ hlives hreads₃ hsame₃ rfl rfl rfl (inWindow_iff.1 hin)
        | false =>
          refine .refused (.inr rfl) rfl hsame₃ fun _ t h => ?_
          cases h
          have hout : ¬ Within s claimedAt w₃.now := fun h => by
            rw [inWindow_iff.2 h] at hin
            cases hin
          unfold Within at hout
          show claimedAt + s.settings.oauth.awaitSeconds ≤ w₃.now
          omega
      · rw [if_neg hlive]
        refine .refused (.inr rfl) rfl hsame fun _ t h => ?_
        cases h
        exact hw₂.now ▸ hlives.le hlive

theorem any_isProfile (past : List Event) : past.any isProfile = (givenIn past).isSome := by
  have hgiven (event : Event) : isProfile event = (given? event).isSome := by
    obtain ⟨act, answer⟩ := event
    cases act with
    | profile token => cases answer <;> rfl
    | _ => rfl
  induction past with
  | nil => rfl
  | cons event past ih =>
    rw [List.any_cons, hgiven, ih, givenIn, givenIn, List.findSome?_cons]
    cases given? event <;> rfl

/-- A claim stands until the provider gives a profile. -/
theorem Ends.claimed {result : Except Failure TokenPair} (h : Ends s state w claim past result w')
    (hclaim : Claimed s state w claim) :
    Claimed s state w' (if past.any isProfile then none else claim) := by
  cases h with
  | refused he hc hw hlate =>
    rw [any_eq_false_of_no_contact isProfile_eq_false hc]
    exact hclaim.later hw.forward (hw.read _)
  | failed ha hp hr hend =>
    rw [any_isProfile, hp]
    exact hend
  | redeemed ha hp hs hend =>
    rw [any_isProfile, hp]
    exact hend

/-! ## Histories -/

/-- Time passes between calls, and other calls may run; nobody else touches the state. -/
structure Elsewhere (state : String) (w w' : World) : Prop where
  forward : w.millis ≤ w'.millis
  ready : Ready w'
  read : ∀ later, w'.millis ≤ later →
    w'.cache.read? later (States.key state) = w.cache.read? later (States.key state)

/-- Redirects and callbacks on a state, one after another, the latest first. Whatever the provider
answers, and however long a call takes, is part of it. -/
inductive Visited (s : Setup) (state : String) (start : World) :
    List (Thread Visit.Value) → World → Prop where
  | start : Visited s state start [] start
  | wait {visits : List (Thread Visit.Value)} {w w' : World} (h : Visited s state start visits w)
      (hw : Elsewhere state w w') : Visited s state start visits w'
  | visit {visits : List (Thread Visit.Value)} {w w' : World} {events : List Event} (v : Visit)
      {result : Except Failure v.Value} (h : Visited s state start visits w)
      (hv : v.state = state) (ht : (v.flow s).Traces Ticks w events result w') :
      Visited s state start (⟨v, events, Flow.ofExcept result⟩ :: visits) w'

/-- The second at which the latest redirect that succeeded read the clock, if no callback has
redeemed that claim since. -/
def claimed? (state : String) : List (Thread Visit.Value) → Option Int
  | [] => none
  | t :: earlier =>
    if hasClaimed state t then readAt t.past
    else if hasRedeemed state t then none
    else claimed? state earlier

variable {start : World} {visits : List (Thread Visit.Value)} {events : List Event}
  {result : Except Failure TokenPair}

theorem Ready.traces {α : Type} {f : Flow α} {result : Except Failure α} (hw : Ready w)
    (h : f.Traces Ticks w events result w') : Ready w' :=
  h.keeps (fun _ _ hd _ => hd.ready) (fun _ act h => h.act act) hw

/-- After every history, callers find the state as its calls have left it. -/
theorem Visited.claimed (hr : Ready start) (hfree : Unread state start)
    (h : Visited s state start visits w) : Ready w ∧ Claimed s state w (claimed? state visits) := by
  induction h with
  | start => exact ⟨hr, hfree⟩
  | wait _ hw ih => exact ⟨hw.ready, ih.2.later hw.forward hw.read⟩
  | @visit visits w w' events v result _ hv ht ih =>
    refine ⟨ih.1.traces ht, ?_⟩
    subst hv
    cases v with
    | redirect state =>
      have hend : Redirected s state _ events result w' := (redirect_traced ih.2).of_traces ht
      cases result with
      | ok url =>
        have hlatest : claimed? state (⟨.redirect state, events, .done url⟩ :: visits)
            = readAt events := by simp [claimed?, hasClaimed]
        exact hlatest ▸ hend
      | error e =>
        have hsame : claimed? state (⟨.redirect state, events, .fail e⟩ :: visits)
            = claimed? state visits := by simp [claimed?, hasClaimed, hasRedeemed]
        exact hsame ▸ hend
    | callback state code ip =>
      have hend := Ends.claimed ((callback_traced ih.2).of_traces ht) ih.2
      have hnext : claimed? state
          (⟨.callback state code ip, events, Flow.ofExcept result⟩ :: visits)
          = if events.any isProfile then none else claimed? state visits := by
        simp [claimed?, hasClaimed, hasRedeemed]
      exact hnext ▸ hend

/-- What the window of a claim promises of a callback. -/
structure Guarded (s : Setup) (state : String) (claim : Option Int) (w : World)
    (events : List Event) (result : Except Failure TokenPair) (w' : World) : Prop where
  /-- The provider is asked in the window of the claim only. -/
  within : events.any isContact = true → ∃ claimedAt now, claim = some claimedAt ∧
    readAt events = some now ∧ Within s claimedAt now
  /-- The provider is asked, unless the window is over when the callback ends. -/
  asked : Uuid.isWritten state = true → ∀ claimedAt, claim = some claimedAt →
    events.any isContact = true ∨ claimedAt + s.settings.oauth.awaitSeconds ≤ w'.now
  /-- If the provider answers with the email of somebody who is welcome, there are tokens for the
  account of that email. -/
  tokens : ∀ profile, givenIn events = some profile → Welcomes w.store events profile.email →
    ∃ user, SignedInAs w.store events profile.email user ∧ Issues s user events result
  /-- A callback that refuses the state, other than by repeating what the provider said, leaves
  everything as it was. -/
  refused : ∀ e, result = .error e → IsRefusal e → ¬ Reported events e → Untouched w w'

theorem window_exact (hr : Ready start) (hfree : Unread state start)
    (h : Visited s state start visits w)
    (ht : (callback s state code ip).Traces Ticks w events result w') :
    Guarded s state (claimed? state visits) w events result w' := by
  have hclaim := (h.claimed hr hfree).2
  have hend : Ends s state w _ events result w' := (callback_traced hclaim).of_traces ht
  cases hend with
  | refused he hc hw hlate =>
    refine ⟨fun h => ?_, fun hs t ht => .inr (hlate hs t ht), fun profile hp => ?_, ?_⟩
    · rw [hc] at h
      cases h
    · have hnone := any_eq_false_of_no_contact isProfile_eq_false hc
      rw [any_isProfile, hp] at hnone
      cases hnone
    · intro _ _ _ _
      exact hw
  | failed ha hp hr hclaim =>
    refine ⟨fun _ => ha.within, fun _ _ _ => .inl ha.contact, fun profile h => ?_, ?_⟩
    · rw [hp] at h
      cases h
    · intro e he _ hn
      cases he
      exact absurd hr hn
  | @redeemed profile _ _ ha hp hs hclaim =>
    refine ⟨fun _ => ha.within, fun _ _ _ => .inl ha.contact, fun profile' h => ?_, ?_⟩
    · rw [hp] at h
      cases h
      exact hs.1
    · intro e he hre _
      exact absurd hre (hs.2 e he)

/-! ## A provider that is down for a while -/

/-- A call during which time stands still. -/
def visited (s : Setup) (v : Visit) (w : World) : Thread Visit.Value :=
  ⟨v, (v.flow s).log w, Flow.ofExcept ((v.flow s).run w).1⟩

theorem traces_still {α : Type} (f : Flow α) (hw : Ready w) :
    f.Traces Ticks w (f.log w) (f.run w).1 (f.run w).2 :=
  Flow.traces_run (I := Ready) (fun _ act h => h.act act)
    (fun w h => ⟨rfl, rfl, Int.le_refl w.millis, h⟩) f hw

theorem Visited.still (h : Visited s state start visits w) (hw : Ready w) {v : Visit}
    (hv : v.state = state) :
    Visited s state start (visited s v w :: visits) ((v.flow s).run w).2 :=
  h.visit v hv (traces_still (v.flow s) hw)

/-- A redirect, and a callback that meets a provider that is down. -/
def claiming : Visit := .redirect (Sample.uuid 7).text

def failing : Visit := .callback (Sample.uuid 7).text "one" "::1"

/-- Some time after the claim, the provider is down. -/
def outage : World :=
  { ((claiming.flow Sample.setup).run Sample.home).2 with
    clock := 1100250
    outside := { Sample.outside with
      exchange := fun _ => .error (.provider "google.exchange: status 503") } }

/-- In the last millisecond of the window, it works again. -/
def mended : World :=
  { ((failing.flow Sample.setup).run outage).2 with clock := 1299999, outside := Sample.outside }

/-- The calls up to then. -/
def attempts : List (Thread Visit.Value) :=
  [visited Sample.setup failing outage, visited Sample.setup claiming Sample.home]

/-- Between calls the clock moves on, and the provider may fail or recover. -/
theorem elsewhere_later (hw : Ready w) {clock : Int} {o : Outside}
    (hup : ∀ n, o.cacheFails n = false)
    (hforward : w.millis ≤ { w with clock := clock, outside := o }.millis) :
    Elsewhere state w { w with clock := clock, outside := o } :=
  ⟨hforward, ⟨⟨hup, hw.steady.wins⟩, hw.keyed⟩, fun _ _ => rfl⟩

theorem visited_mended :
    Ready mended ∧ Visited Sample.setup (Sample.uuid 7).text Sample.home attempts mended := by
  have hstart : Visited Sample.setup (Sample.uuid 7).text Sample.home [] Sample.home := .start
  have hhome : Ready Sample.home := ⟨⟨fun _ => rfl, rfl⟩, List.nodup_nil⟩
  have hclaimed := hhome.traces (traces_still (claiming.flow Sample.setup) hhome)
  have houtage : Elsewhere (Sample.uuid 7).text _ outage :=
    elsewhere_later hclaimed (fun _ => rfl) (by decide +kernel)
  have hfailed := houtage.ready.traces (traces_still (failing.flow Sample.setup) houtage.ready)
  have hmended : Elsewhere (Sample.uuid 7).text _ mended :=
    elsewhere_later hfailed (fun _ => rfl) (by decide +kernel)
  have hvisited := (hstart.still hhome (v := claiming) rfl).wait houtage
  exact ⟨hmended.ready, (hvisited.still houtage.ready (v := failing) rfl).wait hmended⟩

/-- The callback that is repeated asks the provider again, and the known user is signed in. -/
theorem window_exact_mended :
    Visited Sample.setup (Sample.uuid 7).text Sample.home attempts mended ∧
    claimed? (Sample.uuid 7).text attempts = some 1000 ∧
    (((callback Sample.setup (Sample.uuid 7).text "two" "::1").log mended).any isContact = true ∧
      Issues Sample.setup Sample.ada
        ((callback Sample.setup (Sample.uuid 7).text "two" "::1").log mended)
        ((callback Sample.setup (Sample.uuid 7).text "two" "::1").run mended).1) ∧
    Guarded Sample.setup (Sample.uuid 7).text (claimed? (Sample.uuid 7).text attempts) mended
      ((callback Sample.setup (Sample.uuid 7).text "two" "::1").log mended)
      ((callback Sample.setup (Sample.uuid 7).text "two" "::1").run mended).1
      ((callback Sample.setup (Sample.uuid 7).text "two" "::1").run mended).2 := by
  obtain ⟨hready, hvisited⟩ := visited_mended
  have hhome : Ready Sample.home := ⟨⟨fun _ => rfl, rfl⟩, List.nodup_nil⟩
  have hfree : Unread (Sample.uuid 7).text Sample.home := fun _ _ => rfl
  have hguarded := window_exact hhome hfree hvisited
    (traces_still (callback Sample.setup (Sample.uuid 7).text "two" "::1") hready)
  have hclaim : claimed? (Sample.uuid 7).text attempts = some 1000 := by decide +kernel
  have hcontact : ((callback Sample.setup (Sample.uuid 7).text "two" "::1").log mended).any
      isContact = true := by decide +kernel
  have hgiven : givenIn ((callback Sample.setup (Sample.uuid 7).text "two" "::1").log mended)
      = some { email := "ada@example.org" } := by decide +kernel
  have husers : mended.store.users = [Sample.ada] := by decide +kernel
  have hwelcome : Welcomes mended.store
      ((callback Sample.setup (Sample.uuid 7).text "two" "::1").log mended) "ada@example.org" := by
    constructor
    · intro user hu _
      rw [husers, List.mem_singleton] at hu
      rw [hu]
      rfl
    · intro hnobody
      exact absurd rfl (hnobody Sample.ada (by rw [husers]; exact List.mem_singleton_self _))
  obtain ⟨user, hu, hissues⟩ := hguarded.tokens _ hgiven hwelcome
  rcases hu with ⟨hmem, -⟩ | ⟨hnobody, -⟩
  · rw [husers, List.mem_singleton] at hmem
    exact ⟨hvisited, hclaim, ⟨hcontact, hmem ▸ hissues⟩, hguarded⟩
  · exact absurd rfl (hnobody Sample.ada (by rw [husers]; exact List.mem_singleton_self _))

end SignOn.Google
