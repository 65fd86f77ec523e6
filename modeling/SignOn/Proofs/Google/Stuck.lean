import SignOn.Proofs.Google.Window
/-!
Whether somebody can go on with a state. A state that is claimed can be redeemed until its window is
over, which counts from the second of the claim, and it can be claimed again once its entry has run
out, which counts from the moment at which the entry was last written. A callback to which the
provider fails writes the entry anew. So when the window is over before the entry runs out, the
state is stuck: callbacks are refused, and so are redirects (`stuck_exact`).
-/

namespace SignOn.Google

open SignOn.Keyspace

variable {s : Setup} {state code ip : String} {w w' start : World} {past : List Event}
  {value : Bytes} {expires madeAt : Int} {e : Failure}

/-! ## Claims and their entries -/

/-- A claim, and the entry that keeps it. -/
structure Claim where
  /-- The second of the claim. -/
  madeAt : Int
  /-- The millisecond at which the entry was last written. -/
  writtenAt : Int
  deriving DecidableEq, Repr

/-- How a claim is kept: as the entry that was written for it, or not at all. -/
def Stands (s : Setup) (state : String) (w : World) : Option Claim → Prop
  | none => Unread state w
  | some claim =>
    (Calendar.firstSecond ≤ claim.madeAt ∧ claim.madeAt * 1000 ≤ claim.writtenAt ∧
      claim.writtenAt ≤ w.millis) ∧
    Reads state (States.claimValue claim.madeAt)
      (Cache.Memory.expiry claim.writtenAt s.stateLifetime) w

variable {claim : Option Claim}

/-- What was written since the second of a claim was written in that second or later. -/
theorem le_now_of_written {writtenAt : Int} (hmade : madeAt * 1000 ≤ writtenAt)
    (hwritten : writtenAt ≤ w.millis) : madeAt ≤ w.now := by
  have hnow := w.now_le_millis.2
  omega

theorem Stands.later (h : Stands s state w claim) (hforward : w.millis ≤ w'.millis)
    (hread : ∀ later, w'.millis ≤ later → w'.cache.read? later (States.key state)
      = w.cache.read? later (States.key state)) : Stands s state w' claim := by
  cases claim with
  | none => exact Unread.later h hforward hread
  | some claim =>
    obtain ⟨⟨hfirst, hmade, hwritten⟩, hreads⟩ := h
    exact ⟨⟨hfirst, hmade, Int.le_trans hwritten hforward⟩, hreads.later hforward hread⟩

theorem Stands.untouched (h : Stands s state w claim) (hw : Untouched w w') :
    Stands s state w' claim := h.later hw.forward (hw.read _)

/-- A claim that is written now stands. -/
theorem stands_write (hfirst : Calendar.firstSecond ≤ madeAt) (hmade : madeAt ≤ w.now)
    (hmillis : w'.millis = w.millis)
    (hc : w'.cache = w.cache.write w.millis (States.key state) (States.claimValue madeAt)
      (some s.stateLifetime)) : Stands s state w' (some ⟨madeAt, w'.millis⟩) := by
  have hwritten : madeAt * 1000 ≤ w.millis :=
    Int.le_trans (Int.mul_le_mul_of_nonneg_right hmade (by decide)) w.now_le_millis.1
  rw [hmillis]
  exact ⟨⟨hfirst, hwritten, Int.le_of_eq hmillis.symm⟩, reads_write hc⟩

theorem ofValue_claimValue_of_le (hfirst : Calendar.firstSecond ≤ madeAt) (hmade : madeAt ≤ w.now) :
    States.ofValue (some (States.claimValue madeAt)) = some madeAt := by
  have hbound : -9223372036854775808 ≤ Calendar.firstSecond := by decide
  have hnow := w.now_bounds
  exact States.ofValue_claimValue (Int.le_trans hbound hfirst) (by omega)

/-! ## What calls leave -/

/-- The event that a claim was put back. -/
def isRestore (state : String) : Event → Bool
  | ⟨.cache (.swap key _ value _), .ok true⟩ =>
    key == States.key state && value != States.consumed
  | _ => false

/-- What a redirect leaves of a claim, if it ends now. -/
def redirected (claim : Option Claim) (past : List Event) (succeeds : Bool) (millis : Int) :
    Option Claim :=
  if succeeds then (readAt past).map (⟨·, millis⟩) else claim

/-- What a callback leaves of a claim, if it ends now: it spends the claim if the provider gives a
profile, and puts it back if the provider fails, unless the entry has run out meanwhile. -/
def calledBack (state : String) (claim : Option Claim) (past : List Event) (millis : Int) :
    Option Claim :=
  if past.any isProfile then none
  else if past.any isContact then
    if past.any (isRestore state) then claim.map ({ · with writtenAt := millis }) else none
  else claim

/-- A redirect that succeeds writes the entry of its claim as its last act. -/
theorem redirect_stands (h : Stands s state w claim) :
    (redirectUrl s state).Traced Ticks (fun past result w' =>
      Stands s state w' (redirected claim past result.isOk w'.millis)) [] w := by
  unfold redirectUrl
  cases Uuid.isWritten state with
  | false => exact h
  | true =>
    intro w₁ hd₁
    refine command_traced fun w₂ w₃ hd₂ hw₃ => ?_
    have hcache := hw₃.cache
    simp only [Cache.Memory.perform] at hcache ⊢
    cases hread : w₂.cache.read? w₂.millis (States.key state) with
    | some value =>
      rw [hread] at hcache
      have hsame : Untouched w₂ w₃ := ⟨Int.le_of_eq hw₃.millis.symm, hw₃.store, by simp [hcache]⟩
      exact h.untouched ((hd₁.untouched.trans hd₂.untouched).trans hsame)
    | none =>
      rw [hread] at hcache
      exact stands_write w₁.now_calendar.1 (World.now_mono hd₂.forward) hw₃.millis hcache

/-- What a failure of the provider leaves of a claim. -/
def Dropped (s : Setup) (state : String) (madeAt : Int) (event : Event) (w : World) : Prop :=
  Stands s state w (if isRestore state event then some ⟨madeAt, w.millis⟩ else none)

/-- The claim is put back, unless the consumed entry has run out. -/
theorem restore_stands (hfirst : Calendar.firstSecond ≤ madeAt) (hmade : madeAt ≤ w.now)
    (h : Reads state States.consumed expires w) :
    (States.restore s.stateLifetime state madeAt >>= fun _ =>
      (Flow.fail e : Flow UserProfile)).Traced Ticks
      (fun past' result w' => result = .error e ∧ ∃ event, past' = past ++ [event] ∧
        isContact event = false ∧ Dropped s state madeAt event w') past w := by
  refine command_traced fun w₁ w₂ hd₁ hw₂ => ?_
  have hread := h w₁.millis hd₁.forward
  rw [← hd₁.cache] at hread
  have hcache := hw₂.cache
  refine ⟨rfl, _, rfl, rfl, ?_⟩
  simp only [Cache.Memory.perform, hread] at hcache ⊢
  by_cases hlive : w₁.millis < expires
  · rw [if_pos hlive, if_pos rfl] at hcache
    have hput : isRestore state ⟨.cache (.swap (States.key state) (some States.consumed)
        (States.claimValue madeAt) s.stateLifetime), .ok true⟩ = true := by
      simp [isRestore, States.claimValue_ne_consumed]
    rw [if_pos hlive, if_pos rfl, Dropped, if_pos hput]
    exact stands_write hfirst (Int.le_trans hmade (World.now_mono hd₁.forward)) hw₂.millis hcache
  · rw [if_neg hlive, if_neg (by simp)] at hcache
    rw [if_neg hlive, if_neg (by simp)]
    have hsame := hd₁.untouched.trans (hw₂.untouched hd₁.ready ⟨_, hcache⟩)
    exact (h.later hsame.forward (hsame.read _)).unread (hw₂.millis ▸ hlive)

/-- Before the provider has answered, nothing was put back. -/
structure Early (state : String) (past : List Event) : Prop where
  profile : past.any isProfile = false
  restore : past.any (isRestore state) = false

theorem Early.append {event : Event} (h : Early state past) (hp : isProfile event = false)
    (hr : isRestore state event = false) : Early state (past ++ [event]) := by
  constructor
  · simp [h.profile, hp]
  · simp [h.restore, hr]

/-- What asking the provider leaves of a claim that was taken. -/
structure Consulted (s : Setup) (state : String) (madeAt : Int) (past : List Event)
    (result : Except Failure UserProfile) (w : World) : Prop where
  profile : ∀ profile, result = .ok profile → past.any isProfile = true
  failure : ∀ e, result = .error e → past.any isProfile = false ∧ past.any isContact = true ∧
    Stands s state w (if past.any (isRestore state) then some ⟨madeAt, w.millis⟩ else none)

/-- The provider has failed in the last event, and the claim is put back. -/
theorem failed_stands {event : Event} (hfirst : Calendar.firstSecond ≤ madeAt)
    (hmade : madeAt ≤ w.now) (h : Reads state States.consumed expires w)
    (hearly : Early state (past ++ [event])) (hcontact : isContact event = true) :
    (States.restore s.stateLifetime state madeAt >>= fun _ =>
      (Flow.fail e : Flow UserProfile)).Traced Ticks (Consulted s state madeAt)
      (past ++ [event]) w := by
  refine (restore_stands hfirst hmade h).mono ?_
  rintro past' result w' ⟨rfl, last, rfl, hlast, hdropped⟩
  refine ⟨fun _ he => (by cases he), fun _ _ => ⟨?_, ?_, ?_⟩⟩
  · rw [List.any_append, hearly.profile, List.any_cons, isProfile_eq_false hlast]
    rfl
  · simp [hcontact]
  · rw [List.any_append, hearly.restore, List.any_cons, List.any_nil, Bool.false_or, Bool.or_false]
    exact hdropped

theorem profileOrRestore_stands (hfirst : Calendar.firstSecond ≤ madeAt) (hmade : madeAt ≤ w.now)
    (h : Reads state States.consumed expires w) (hearly : Early state past) :
    (profileOrRestore s state madeAt code).Traced Ticks (Consulted s state madeAt) past w := by
  intro w₁ hd₁
  have h₁ : Reads state States.consumed expires w₁ :=
    h.later hd₁.forward fun _ _ => by rw [hd₁.cache]
  have hmade₁ : madeAt ≤ w₁.now := Int.le_trans hmade (World.now_mono hd₁.forward)
  cases hx : w₁.outside.exchange code with
  | error e =>
    simp only [World.event, World.perform, hx]
    exact failed_stands hfirst hmade₁ h₁ (hearly.append rfl rfl) rfl
  | ok token =>
    simp only [World.event, World.perform, hx]
    have hearly₁ : Early state (past ++ [⟨.exchange code, .ok token⟩]) := hearly.append rfl rfl
    intro w₂ hd₂
    have h₂ : Reads state States.consumed expires w₂ :=
      Reads.later h₁ hd₂.forward fun _ _ => by rw [hd₂.cache]
    cases hy : w₂.outside.profile token.accessToken with
    | error e =>
      simp only [World.event, World.perform, hy]
      exact failed_stands hfirst (Int.le_trans hmade₁ (World.now_mono hd₂.forward)) h₂
        (hearly₁.append rfl rfl) rfl
    | ok profile =>
      simp only [World.event, World.perform, hy]
      exact ⟨fun _ _ => by simp [isProfile], fun _ he => by cases he⟩

/-- A callback leaves a claim spent, put back, or as it was. -/
def Leaves (s : Setup) (state : String) (claim : Option Claim) (past : List Event)
    (w : World) : Prop := Stands s state w (calledBack state claim past w.millis)

theorem leaves_of_no_contact (h : Stands s state w claim) (hc : past.any isContact = false) :
    Leaves s state claim past w := by
  rw [Leaves, calledBack, any_eq_false_of_no_contact isProfile_eq_false hc, hc]
  exact h

/-- Behind a take, the claim is spent or put back. -/
theorem redeem_stands {written : Int} (hfirst : Calendar.firstSecond ≤ madeAt)
    (hmade : madeAt ≤ w.now) (h : Reads state States.consumed expires w)
    (hearly : Early state past) :
    (profileOrRestore s state madeAt code >>= fun profile => do
      States.release state
      signInWith s profile.email ip).Traced Ticks
      (fun past' _ w' => Leaves s state (some ⟨madeAt, written⟩) past' w') past w := by
  refine Flow.Traced.bind ((profileOrRestore_stands hfirst hmade h hearly).mono ?_)
  intro past' result w' hend
  cases result with
  | error e =>
    obtain ⟨hprofile, hcontact, hstands⟩ := hend.failure e rfl
    show Leaves s state _ past' w'
    rw [Leaves, calledBack, hprofile, hcontact]
    exact hstands
  | ok profile =>
    have hprofile := hend.profile profile rfl
    change (States.release state >>= fun _ => signInWith s profile.email ip).Traced _ _ _ _
    refine command_traced fun w₁ w₂ hd₁ hw₂ => ?_
    have hfree : Unread state w₂ := by
      intro later hle
      rw [hw₂.cache, Cache.Memory.perform, Cache.Memory.read?_eq, Cache.Memory.find?_erase_self]
      rfl
    refine (signIn_silent hw₂.ready hfree).mono ?_
    rintro past'' _ w'' ⟨⟨more, rfl⟩, -, hunread⟩
    rw [Leaves, calledBack, if_pos (by simp [hprofile])]
    exact hunread

/-- A callback that found a claim takes it, if the entry has not run out meanwhile. -/
theorem take_stands {written : Int} (h : Stands s state w (some ⟨madeAt, written⟩))
    (hearly : Early state past) (hc : past.any isContact = false) :
    (States.take s.stateLifetime state madeAt >>= fun taken => do
      Flow.ensure taken .stateNotFound
      let profile ← profileOrRestore s state madeAt code
      States.release state
      signInWith s profile.email ip).Traced Ticks
      (fun past' _ w' => Leaves s state (some ⟨madeAt, written⟩) past' w') past w := by
  refine command_traced fun w₁ w₂ hd₁ hw₂ => ?_
  obtain ⟨⟨hfirst, hmade, hwritten⟩, hreads⟩ := h.untouched hd₁.untouched
  have hcache := hw₂.cache
  have hfound := hreads w₁.millis (Int.le_refl _)
  by_cases hlive : w₁.millis < Cache.Memory.expiry written s.stateLifetime
  · rw [if_pos hlive] at hfound
    simp only [Cache.Memory.perform, hfound, if_true] at hcache ⊢
    have hnow : madeAt ≤ w₂.now := hw₂.now ▸ le_now_of_written hmade hwritten
    exact redeem_stands hfirst hnow (reads_write hcache) (hearly.append rfl (by simp [isRestore]))
  · rw [if_neg hlive] at hfound
    simp only [Cache.Memory.perform, hfound, reduceCtorEq, if_false] at hcache ⊢
    have hsame := hd₁.untouched.trans (hw₂.untouched hd₁.ready ⟨_, hcache⟩)
    exact leaves_of_no_contact (h.untouched hsame) (by simp [hc, isContact])

theorem callback_stands (h : Stands s state w claim) :
    (callback s state code ip).Traced Ticks (fun past _ w' => Leaves s state claim past w')
      [] w := by
  unfold callback
  cases Uuid.isWritten state with
  | false => exact leaves_of_no_contact h rfl
  | true =>
    refine command_traced fun w₁ w₂ hd₁ hw₂ => ?_
    have hsame := hd₁.untouched.trans (hw₂.untouched hd₁.ready ⟨_, hw₂.cache⟩)
    have hrefused : Leaves s state claim [⟨.cache (.get (States.key state)),
        .ok (w₁.cache.read? w₁.millis (States.key state))⟩] w₂ :=
      leaves_of_no_contact (h.untouched hsame) rfl
    change (Flow.require (States.ofValue (w₁.cache.read? w₁.millis (States.key state)))
      .stateNotFound >>= _).Traced _ _ _ _
    cases claim with
    | none =>
      rw [h.untouched hd₁.untouched w₁.millis (Int.le_refl _)]
      exact hrefused
    | some claim =>
      obtain ⟨madeAt, written⟩ := claim
      obtain ⟨⟨hfirst, hmade, hwritten⟩, hreads⟩ := h.untouched hd₁.untouched
      have hfound := hreads w₁.millis (Int.le_refl _)
      by_cases hlive : w₁.millis < Cache.Memory.expiry written s.stateLifetime
      · rw [hfound, if_pos hlive,
          ofValue_claimValue_of_le hfirst (le_now_of_written hmade hwritten)]
        intro w₃ hd₃
        have hsame₃ := hsame.trans hd₃.untouched
        change (Flow.ensure (inWindow s madeAt w₃.now) .stateNotFound >>= _).Traced _ _ _ _
        cases inWindow s madeAt w₃.now with
        | true => exact take_stands (h.untouched hsame₃) ⟨rfl, rfl⟩ rfl
        | false => exact leaves_of_no_contact (h.untouched hsame₃) rfl
      · rw [hfound, if_neg hlive] at hrefused ⊢
        exact hrefused

/-! ## Histories -/

/-- A call on a state that is over, and the millisecond at which it ended. -/
structure Attempt where
  visit : Thread Visit.Value
  ended : Int

/-- Redirects and callbacks on a state, one after another, the latest first. Whatever the provider
answers, and however long a call takes, is part of it. -/
inductive Attempted (s : Setup) (state : String) (start : World) : List Attempt → World → Prop where
  | start : Attempted s state start [] start
  | wait {attempts : List Attempt} {w w' : World} (h : Attempted s state start attempts w)
      (hw : Elsewhere state w w') : Attempted s state start attempts w'
  | attempt {attempts : List Attempt} {w w' : World} {events : List Event} (v : Visit)
      {result : Except Failure v.Value} (h : Attempted s state start attempts w)
      (hv : v.state = state) (ht : (v.flow s).Traces Ticks w events result w') :
      Attempted s state start (⟨⟨v, events, Flow.ofExcept result⟩, w'.millis⟩ :: attempts) w'

/-- The claim that stands after the attempts. -/
def claim? (state : String) : List Attempt → Option Claim
  | [] => none
  | a :: earlier =>
    match a.visit.call with
    | .redirect _ => redirected (claim? state earlier) a.visit.past a.visit.succeeded a.ended
    | .callback .. => calledBack state (claim? state earlier) a.visit.past a.ended

variable {attempts : List Attempt}

theorem succeeded_ofExcept (v : Visit) (events : List Event) (result : Except Failure v.Value) :
    (⟨v, events, Flow.ofExcept result⟩ : Thread Visit.Value).succeeded = result.isOk := by
  cases result <;> rfl

/-- After every history, the state is kept as its calls have left it. -/
theorem Attempted.stands (hr : Ready start) (hfree : Unread state start)
    (h : Attempted s state start attempts w) :
    Ready w ∧ Stands s state w (claim? state attempts) := by
  induction h with
  | start => exact ⟨hr, hfree⟩
  | wait _ hw ih => exact ⟨hw.ready, ih.2.later hw.forward hw.read⟩
  | @attempt attempts w w' events v result _ hv ht ih =>
    refine ⟨ih.1.traces ht, ?_⟩
    subst hv
    cases v with
    | redirect state =>
      have hend := (redirect_stands ih.2).of_traces ht
      rw [claim?, succeeded_ofExcept]
      exact hend
    | callback state code ip => exact (callback_stands ih.2).of_traces ht

/-! ## What callers find -/

/-- A callback that comes now asks the provider. -/
def Redeemable (s : Setup) (state : String) (w : World) : Prop :=
  ∀ code ip, ((callback s state code ip).log w).any isContact = true

/-- A redirect that comes now is answered with an address. -/
def Claimable (s : Setup) (state : String) (w : World) : Prop :=
  ∃ url, ((redirectUrl s state).run w).1 = .ok url

/-- The window of a claim is open, and its entry has not run out. -/
def Claim.IsOpen (s : Setup) (claim : Claim) (w : World) : Prop :=
  w.now ≤ claim.madeAt + s.settings.oauth.awaitSeconds ∧
    w.millis < claim.writtenAt + s.settings.oauth.awaitSeconds * 1000

/-- The window of a claim is over, but its entry has not run out. -/
def Claim.IsStuck (s : Setup) (claim : Claim) (w : World) : Prop :=
  claim.madeAt + s.settings.oauth.awaitSeconds < w.now ∧
    w.millis < claim.writtenAt + s.settings.oauth.awaitSeconds * 1000

theorem log_command {α : Type} {cmd : Cache.Command} {next : Except Failure cmd.Answer → Flow α}
    (hw : Ready w) : (Flow.step (.cache cmd) next).log w
      = ⟨.cache cmd, .ok (w.cache.perform w.millis cmd).1⟩ ::
        (next (.ok (w.cache.perform w.millis cmd).1)).log (w.perform (.cache cmd)).2 := by
  have hanswer := hw.steady.perform cmd
  rw [Flow.log, World.event, hanswer]

theorem commanded (hw : Ready w) (cmd : Cache.Command) :
    Commanded cmd w (w.perform (.cache cmd)).2 := by
  have hanswer := hw.steady.perform cmd
  exact ⟨by rw [hanswer], w.perform_millis _, by rw [hanswer], hw.act _⟩

/-- The entry of a claim that stands runs out when the claim has been kept for its time. -/
theorem Stands.live_iff {c : Claim} (hawait : 1 ≤ s.settings.oauth.awaitSeconds)
    (h : Stands s state w (some c)) :
    w.millis < Cache.Memory.expiry c.writtenAt s.stateLifetime ↔
      w.millis < c.writtenAt + s.settings.oauth.awaitSeconds * 1000 := by
  obtain ⟨⟨hfirst, hmade, hwritten⟩, -⟩ := h
  rw [millis_lt_stateExpiry_iff (by omega)]
  omega

/-- A claim stands whose window is open. -/
structure Opens (s : Setup) (state : String) (claimedAt : Int) (w : World) : Prop where
  written : Uuid.isWritten state = true
  value : States.ofValue (some (States.claimValue claimedAt)) = some claimedAt
  read : w.cache.read? w.millis (States.key state) = some (States.claimValue claimedAt)
  window : inWindow s claimedAt w.now = true

/-- Behind a claim that it has read, a callback asks the provider exactly if it takes the claim. -/
theorem contact_of_read {claimedAt : Int} (hw : Ready w) :
    ((do
      let now ← Flow.now
      Flow.ensure (inWindow s claimedAt now) .stateNotFound
      let taken ← States.take s.stateLifetime state claimedAt
      Flow.ensure taken .stateNotFound
      let profile ← profileOrRestore s state claimedAt code
      States.release state
      signInWith s profile.email ip : Flow TokenPair).log w).any isContact = true ↔
      inWindow s claimedAt w.now = true ∧
        w.cache.read? w.millis (States.key state) = some (States.claimValue claimedAt) := by
  change ((Flow.ensure (inWindow s claimedAt w.now) .stateNotFound >>= _).log w).any
    isContact = true ↔ _
  cases inWindow s claimedAt w.now with
  | false => simp [Flow.log]
  | true =>
    rw [Flow.ensure_true, Flow.done_bind]
    change ((Flow.step (.cache (.swap _ _ _ _)) _).log w).any isContact = true ↔ _
    rw [log_command hw]
    by_cases hread : w.cache.read? w.millis (States.key state)
      = some (States.claimValue claimedAt)
    · simp only [Cache.Memory.perform, hread, if_true]
      exact iff_of_true rfl ⟨trivial, trivial⟩
    · simp only [Cache.Memory.perform, hread, if_false]
      exact iff_of_false Bool.false_ne_true fun h => absurd h.2 id

/-- A look at a claim changes nothing. -/
theorem read_of_look (hw : Ready w) : (w.perform (.cache (.get (States.key state)))).2.cache.read?
    (w.perform (.cache (.get (States.key state)))).2.millis (States.key state)
      = w.cache.read? w.millis (States.key state) := by
  rw [World.perform_millis, (commanded hw _).cache]
  exact Cache.Memory.read?_settle

theorem redeemable_iff_opens (hw : Ready w) :
    Redeemable s state w ↔ ∃ claimedAt, Opens s state claimedAt w := by
  have hlog (code ip : String) : ((callback s state code ip).log w).any isContact = true ↔
      ∃ claimedAt, Opens s state claimedAt w := by
    unfold callback
    cases hwritten : Uuid.isWritten state with
    | false =>
      refine iff_of_false Bool.false_ne_true fun ⟨claimedAt, h⟩ => ?_
      rw [h.written] at hwritten
      cases hwritten
    | true =>
      have hget := commanded hw (.get (States.key state))
      change ((Flow.step (.cache (.get _)) _).log w).any isContact = true ↔ _
      rw [log_command hw]
      change (((Flow.require (States.ofValue (w.cache.read? w.millis (States.key state)))
        .stateNotFound >>= _).log _).any isContact) = true ↔ _
      cases hvalue : States.ofValue (w.cache.read? w.millis (States.key state)) with
      | none =>
        refine iff_of_false Bool.false_ne_true fun ⟨claimedAt, h⟩ => ?_
        rw [h.read, h.value] at hvalue
        cases hvalue
      | some claimedAt =>
        rw [Flow.require_some, Flow.done_bind]
        refine (contact_of_read hget.ready).trans ?_
        rw [read_of_look hw, hget.now]
        constructor
        · rintro ⟨hin, hread⟩
          exact ⟨claimedAt, hwritten, hread ▸ hvalue, hread, hin⟩
        · rintro ⟨madeAt, h⟩
          rw [h.read, h.value] at hvalue
          cases hvalue
          exact ⟨h.window, h.read⟩
  exact ⟨fun h => (hlog "" "").1 (h "" ""), fun h code ip => (hlog code ip).2 h⟩

/-- A callback asks the provider while the window is open and the entry has not run out. -/
theorem redeemable_iff (hawait : 1 ≤ s.settings.oauth.awaitSeconds)
    (hstate : Uuid.isWritten state = true) (hw : Ready w) (h : Stands s state w claim) :
    Redeemable s state w ↔ ∃ c, claim = some c ∧ c.IsOpen s w := by
  rw [redeemable_iff_opens hw]
  cases claim with
  | none =>
    refine iff_of_false (fun ⟨claimedAt, ho⟩ => ?_) (fun ⟨c, hc, _⟩ => by cases hc)
    have hread := ho.read
    rw [h w.millis (Int.le_refl _)] at hread
    cases hread
  | some c =>
    have hfound := h.2 w.millis (Int.le_refl _)
    have hlive := h.live_iff hawait
    obtain ⟨hfirst, hmade, hwritten⟩ := h.1
    have hvalue := ofValue_claimValue_of_le hfirst (le_now_of_written hmade hwritten)
    constructor
    · rintro ⟨claimedAt, ho⟩
      rw [ho.read] at hfound
      split at hfound
      · next hl =>
        rw [← Option.some.inj hfound, ho.value] at hvalue
        cases hvalue
        exact ⟨c, rfl, (inWindow_iff.1 ho.window).2, hlive.1 hl⟩
      · cases hfound
    · rintro ⟨_, ⟨⟩, hopen, hkept⟩
      exact ⟨c.madeAt, hstate, hvalue, hfound.trans (if_pos (hlive.2 hkept)),
        inWindow_iff.2 ⟨le_now_of_written hmade hwritten, hopen⟩⟩

/-- A redirect is answered with an address where nothing is found under the key of the state. -/
theorem claimable_iff_read (hstate : Uuid.isWritten state = true) (hw : Ready w) :
    Claimable s state w ↔ w.cache.read? w.millis (States.key state) = none := by
  have hanswer := hw.steady.perform (.setIfAbsent (States.key state) (States.claimValue w.now)
    s.stateLifetime)
  unfold Claimable redirectUrl
  rw [hstate]
  change (∃ url, ((Flow.ofExcept (w.perform (.cache (.setIfAbsent (States.key state)
    (States.claimValue w.now) s.stateLifetime))).1 >>= fun claimed =>
      Flow.ensure claimed .stateAlreadyClaimed >>= fun _ => pure (s.authorizationUrl state)).run
    _).1 = .ok url) ↔ _
  simp only [hanswer, Cache.Memory.perform]
  cases w.cache.read? w.millis (States.key state) with
  | none => exact ⟨fun _ => rfl, fun _ => ⟨_, rfl⟩⟩
  | some value =>
    constructor
    · rintro ⟨url, h⟩
      cases h
    · intro h
      cases h

/-- A redirect claims the state unless an entry is there. -/
theorem claimable_iff (hawait : 1 ≤ s.settings.oauth.awaitSeconds)
    (hstate : Uuid.isWritten state = true) (hw : Ready w) (h : Stands s state w claim) :
    Claimable s state w ↔ ∀ c, claim = some c →
      c.writtenAt + s.settings.oauth.awaitSeconds * 1000 ≤ w.millis := by
  rw [claimable_iff_read hstate hw]
  cases claim with
  | none => exact ⟨fun _ c h => (by cases h), fun _ => h w.millis (Int.le_refl _)⟩
  | some c =>
    have hlive := h.live_iff hawait
    rw [h.2 w.millis (Int.le_refl _)]
    by_cases hl : w.millis < Cache.Memory.expiry c.writtenAt s.stateLifetime
    · rw [if_pos hl]
      exact ⟨fun h => (by cases h), fun h => absurd (h c rfl) (Int.not_le.2 (hlive.1 hl))⟩
    · rw [if_neg hl]
      refine ⟨?_, fun _ => rfl⟩
      rintro - _ ⟨⟩
      exact Int.not_lt.1 (mt hlive.2 hl)

/-- What callers find after the attempts. -/
structure Settled (s : Setup) (state : String) (claim : Option Claim) (w : World) : Prop where
  /-- A callback asks the provider exactly while a claim is open. -/
  redeemable : Redeemable s state w ↔ ∃ c, claim = some c ∧ c.IsOpen s w
  /-- A redirect is answered with an address exactly where no entry is left. -/
  claimable : Claimable s state w ↔ ∀ c, claim = some c →
    c.writtenAt + s.settings.oauth.awaitSeconds * 1000 ≤ w.millis
  /-- Nobody can go on with the state exactly while its claim is stuck. -/
  stuck : ¬ (Redeemable s state w ∨ Claimable s state w) ↔
    ∃ c, claim = some c ∧ c.IsStuck s w

/-- After every history of redirects and callbacks, a state can be redeemed or claimed, unless its
window is over while the entry that was written last has not run out. -/
theorem stuck_exact (hawait : 1 ≤ s.settings.oauth.awaitSeconds)
    (hstate : Uuid.isWritten state = true) (hr : Ready start) (hfree : Unread state start)
    (h : Attempted s state start attempts w) : Settled s state (claim? state attempts) w := by
  obtain ⟨hw, hstands⟩ := h.stands hr hfree
  have hredeem := redeemable_iff hawait hstate hw hstands
  have hclaim := claimable_iff hawait hstate hw hstands
  refine ⟨hredeem, hclaim, ?_⟩
  rw [hredeem, hclaim, not_or]
  cases claim? state attempts with
  | none => simp
  | some c =>
    simp only [Option.some.injEq, exists_eq_left', forall_eq', Claim.IsOpen, Claim.IsStuck]
    omega

/-! ## An attempt that fails late -/

/-- A call during which time stands still. -/
def attempted (s : Setup) (v : Visit) (w : World) : Attempt :=
  ⟨visited s v w, ((v.flow s).run w).2.millis⟩

theorem Attempted.still (h : Attempted s state start attempts w) (hw : Ready w) {v : Visit}
    (hv : v.state = state) :
    Attempted s state start (attempted s v w :: attempts) ((v.flow s).run w).2 :=
  h.attempt v hv (traces_still (v.flow s) hw)

/-- The window is over, a while after the attempt that met a provider that was down. -/
def stalled : World :=
  { ((failing.flow Sample.setup).run outage).2 with clock := 1350500, outside := Sample.outside }

/-- The calls up to then. -/
def stalledAttempts : List Attempt :=
  [attempted Sample.setup failing outage, attempted Sample.setup claiming Sample.home]

theorem attempted_stalled :
    Attempted Sample.setup (Sample.uuid 7).text Sample.home stalledAttempts stalled := by
  have hstart : Attempted Sample.setup (Sample.uuid 7).text Sample.home [] Sample.home := .start
  have hhome : Ready Sample.home := ⟨⟨fun _ => rfl, rfl⟩, List.nodup_nil⟩
  have hclaimed := hhome.traces (traces_still (claiming.flow Sample.setup) hhome)
  have houtage : Elsewhere (Sample.uuid 7).text _ outage :=
    elsewhere_later hclaimed (fun _ => rfl) (by decide +kernel)
  have hfailed := houtage.ready.traces (traces_still (failing.flow Sample.setup) houtage.ready)
  have hstalled : Elsewhere (Sample.uuid 7).text _ stalled :=
    elsewhere_later hfailed (fun _ => rfl) (by decide +kernel)
  have hattempted := (hstart.still hhome (v := claiming) rfl).wait houtage
  exact (hattempted.still houtage.ready (v := failing) rfl).wait hstalled

/-- The claim of second 1000 was put back in millisecond 1100250. -/
theorem stuck_exact_stalled :
    claim? (Sample.uuid 7).text stalledAttempts = some ⟨1000, 1100250⟩ ∧
    Settled Sample.setup (Sample.uuid 7).text (claim? (Sample.uuid 7).text stalledAttempts)
      stalled := by
  have hhome : Ready Sample.home := ⟨⟨fun _ => rfl, rfl⟩, List.nodup_nil⟩
  exact ⟨by decide +kernel, stuck_exact (by decide) (by decide +kernel) hhome (fun _ _ => rfl)
    attempted_stalled⟩

/-- A state may get stuck: some time after an attempt that failed, neither callbacks nor redirects
go on with it. -/
theorem stuck_stalled :
    Attempted Sample.setup (Sample.uuid 7).text Sample.home stalledAttempts stalled ∧
    ¬ (Redeemable Sample.setup (Sample.uuid 7).text stalled ∨
      Claimable Sample.setup (Sample.uuid 7).text stalled) := by
  refine ⟨attempted_stalled, ?_⟩
  rintro (hredeem | ⟨url, hclaim⟩)
  · have hsilent : ((callback Sample.setup (Sample.uuid 7).text "two" "::1").log stalled).any
        isContact = false := by decide +kernel
    exact Bool.false_ne_true (hsilent.symm.trans (hredeem "two" "::1"))
  · have hrefused : ((redirectUrl Sample.setup (Sample.uuid 7).text).run stalled).1
        = .error .stateAlreadyClaimed := by rfl
    rw [hrefused] at hclaim
    cases hclaim

end SignOn.Google
