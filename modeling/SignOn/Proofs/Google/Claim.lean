import SignOn.Proofs.Flow.Readable
import SignOn.Proofs.Flow.Traced
import SignOn.Proofs.Google.Redemption
import SignOn.Proofs.Verification.Limits
/-!
How callers find a state while redirects and callbacks run one after another: claimed since a
second, for as long as the window of that claim at least, or not at all (`Claimed`). What a redirect
leaves of that (`redirect_traced`), and to whom the sign-in behind a profile hands out tokens
(`signIn_traced`).
-/

namespace SignOn.Google

open SignOn.Keyspace
open SignOn.Verification (Steady)

/-! ## Calls one after another -/

/-- The cache answers every command, and keeps each key once. -/
structure Ready (w : World) : Prop where
  steady : Steady w
  keyed : w.cache.Keyed

/-- Time passes during a call; what lies outside may change. -/
structure Ticks (w w' : World) : Prop where
  store : w'.store = w.store
  cache : w'.cache = w.cache
  forward : w.millis ≤ w'.millis
  ready : Ready w'

variable {s : Setup} {state code ip email : String} {w w' w₀ : World} {past : List Event}

theorem Ready.act (h : Ready w) (act : Act) : Ready (w.perform act).2 where
  steady := h.steady.act act
  keyed := w.perform_keyed h.keyed act

/-- What a cache command leaves of a world, and what it answers. -/
structure Commanded (cmd : Cache.Command) (w w' : World) : Prop where
  cache : w'.cache = (w.cache.perform w.millis cmd).2
  millis : w'.millis = w.millis
  store : w'.store = w.store
  ready : Ready w'

theorem Commanded.now {cmd : Cache.Command} (h : Commanded cmd w w') : w'.now = w.now := by
  rw [World.now, h.millis, World.now]

/-- A call that begins with a cache command goes on with what the cache answers. -/
theorem command_traced {α : Type} {cmd : Cache.Command}
    {next : Except Failure cmd.Answer → Flow α}
    {Q : List Event → Except Failure α → World → Prop}
    (h : ∀ w₁ w₂, Ticks w w₁ → Commanded cmd w₁ w₂ →
      (next (.ok (w₁.cache.perform w₁.millis cmd).1)).Traced Ticks Q
        (past ++ [⟨.cache cmd, .ok (w₁.cache.perform w₁.millis cmd).1⟩]) w₂) :
    (Flow.step (.cache cmd) next).Traced Ticks Q past w := by
  intro w₁ hd
  have hperform := hd.ready.steady.perform cmd
  have hcommanded : Commanded cmd w₁ (w₁.perform (.cache cmd)).2 :=
    ⟨by rw [hperform], w₁.perform_millis _, by rw [hperform], hd.ready.act _⟩
  have hnext := h w₁ _ hd hcommanded
  simp only [World.event, hperform] at hnext ⊢
  exact hnext

/-- A call that begins with a statement goes on with what the account store answers. -/
theorem statement_traced {α : Type} {D : World → World → Prop} {st : Store.Statement}
    {g : st.Answer → Flow α} {Q : List Event → Except Failure α → World → Prop}
    (h : ∀ w₁, D w w₁ → (Flow.ofExcept (w₁.store.perform w₁.instant st).1 >>= g).Traced D Q
      (past ++ [⟨.store st, (w₁.store.perform w₁.instant st).1⟩])
      { w₁ with store := (w₁.store.perform w₁.instant st).2 }) :
    (Flow.store st >>= g).Traced D Q past w := fun w₁ hd => h w₁ hd

/-! ## What is read of a state -/

/-- Nothing is read of a state from now on. -/
def Unread (state : String) (w : World) : Prop :=
  ∀ later, w.millis ≤ later → w.cache.read? later (States.key state) = none

/-- What is read of a state from now on: a value, until its entry ends. -/
def Reads (state : String) (value : Bytes) (expires : Int) (w : World) : Prop :=
  ∀ later, w.millis ≤ later →
    w.cache.read? later (States.key state) = if later < expires then some value else none

/-- An entry that lives as long as the window of a claim. -/
def Outlives (s : Setup) (claimedAt expires : Int) : Prop :=
  ∀ w : World, w.now < claimedAt + s.settings.oauth.awaitSeconds → w.millis < expires

/-- How callers find a state: claimed at a second, as long as the window of that claim at least, or
not at all. -/
def Claimed (s : Setup) (state : String) (w : World) : Option Int → Prop
  | none => Unread state w
  | some claimedAt =>
    (Calendar.firstSecond ≤ claimedAt ∧ claimedAt ≤ w.now) ∧
    ∃ expires, Outlives s claimedAt expires ∧ Reads state (States.claimValue claimedAt) expires w

variable {claim : Option Int} {claimedAt expires : Int} {value : Bytes}

theorem Unread.later (h : Unread state w) (hforward : w.millis ≤ w'.millis)
    (hread : ∀ later, w'.millis ≤ later → w'.cache.read? later (States.key state)
      = w.cache.read? later (States.key state)) : Unread state w' := fun later hle =>
  (hread later hle).trans (h later (Int.le_trans hforward hle))

/-- Behind the end of the entry nothing is read. -/
theorem Reads.unread (h : Reads state value expires w) (hdead : ¬ w.millis < expires) :
    Unread state w := fun later hle => by
  rw [h later hle, if_neg (by omega)]

theorem Reads.later (h : Reads state value expires w) (hforward : w.millis ≤ w'.millis)
    (hread : ∀ later, w'.millis ≤ later → w'.cache.read? later (States.key state)
      = w.cache.read? later (States.key state)) : Reads state value expires w' := fun later hle =>
  (hread later hle).trans (h later (Int.le_trans hforward hle))

theorem Claimed.later (h : Claimed s state w claim) (hforward : w.millis ≤ w'.millis)
    (hread : ∀ later, w'.millis ≤ later → w'.cache.read? later (States.key state)
      = w.cache.read? later (States.key state)) : Claimed s state w' claim := by
  cases claim with
  | none => exact Unread.later h hforward hread
  | some claimedAt =>
    obtain ⟨⟨hfirst, hpast⟩, expires, hlives, hreads⟩ := h
    exact ⟨⟨hfirst, Int.le_trans hpast (World.now_mono hforward)⟩, expires, hlives,
      hreads.later hforward hread⟩

theorem Claimed.ticks (h : Claimed s state w claim) (hd : Ticks w w') : Claimed s state w' claim :=
  h.later hd.forward fun later _ => by rw [hd.cache]

/-- What is written now is read until its entry ends. -/
theorem reads_write
    (hc : w'.cache = w.cache.write w.millis (States.key state) value (some s.stateLifetime)) :
    Reads state value (Cache.Memory.expiry w.millis s.stateLifetime) w' := fun later _ => by
  rw [hc]
  exact Cache.Memory.read?_write_self _ _ _

/-- An entry of a state lives for the seconds in which a claim can be redeemed, or for one. -/
theorem millis_lt_stateExpiry_iff {written : Int} (h : Calendar.firstSecond * 1000 ≤ written) :
    w.millis < Cache.Memory.expiry written s.stateLifetime ↔
      w.millis < written + max s.settings.oauth.awaitSeconds 1 * 1000 := by
  rw [World.millis_lt_expiry_iff w h, Setup.stateLifetime, Setup.atLeastOne,
    Cache.Lifetime.millis_ofSeconds]
  omega

/-- An entry that is written after the claim lives as long as its window. -/
theorem outlives_expiry (h : claimedAt ≤ w.now) :
    Outlives s claimedAt (Cache.Memory.expiry w.millis s.stateLifetime) := fun w' hw' => by
  have hwritten := w.now_le_millis
  have hnow' := w'.now_le_millis
  rw [millis_lt_stateExpiry_iff w.millis_calendar.1]
  omega

/-- Where a claim is no longer read, its window is over. -/
theorem Outlives.le (h : Outlives s claimedAt expires) (hdead : ¬ w.millis < expires) :
    claimedAt + s.settings.oauth.awaitSeconds ≤ w.now :=
  Int.not_lt.1 fun hlt => hdead (h w hlt)

/-- A claim that ran out while the provider was asked is one whose window is over. -/
theorem claimed_of_unread (hdate : Calendar.firstSecond ≤ claimedAt) (hpast : claimedAt ≤ w.now)
    (hlate : claimedAt + s.settings.oauth.awaitSeconds ≤ w.now) (h : Unread state w) :
    Claimed s state w (some claimedAt) := by
  refine ⟨⟨hdate, hpast⟩, w.millis, fun w' hw' => ?_, fun later hle => ?_⟩
  · have hnow := w.now_le_millis
    have hnow' := w'.now_le_millis
    omega
  · rw [h later hle, if_neg (by omega)]

/-! ## Redirects -/

/-- What the clock has shown. -/
def clock? : Event → Option Int
  | ⟨.clock, now⟩ => some now
  | _ => none

/-- What the clock showed when it was first read. -/
def readAt (past : List Event) : Option Int := past.findSome? clock?

theorem readAt_append {n : Int} (h : readAt past = some n) (more : List Event) :
    readAt (past ++ more) = some n := by
  rw [readAt] at h
  rw [readAt, List.findSome?_append, h]
  rfl

/-- What a redirect leaves of a claim. -/
def Redirected (s : Setup) (state : String) (claim : Option Int) (past : List Event)
    (result : Except Failure String) (w : World) : Prop :=
  Claimed s state w (if result.isOk then readAt past else claim)

/-- A redirect that succeeds has claimed the state at the second that it read. -/
theorem redirect_traced (h : Claimed s state w claim) :
    (redirectUrl s state).Traced Ticks (Redirected s state claim) [] w := by
  unfold redirectUrl
  cases Uuid.isWritten state with
  | false => exact h
  | true =>
    intro w₁ hd₁
    refine command_traced fun w₂ w₃ hd₂ hw₃ => ?_
    have hforward : w₁.now ≤ w₂.now := World.now_mono hd₂.forward
    have hcache := hw₃.cache
    simp only [Cache.Memory.perform] at hcache ⊢
    cases hread : w₂.cache.read? w₂.millis (States.key state) with
    | some value =>
      rw [hread] at hcache
      exact ((h.ticks hd₁).ticks hd₂).later (Int.le_of_eq hw₃.millis.symm) fun _ _ => by rw [hcache]
    | none =>
      rw [hread] at hcache
      exact ⟨⟨w₁.now_calendar.1, hw₃.now ▸ hforward⟩, _, outlives_expiry hforward,
        reads_write hcache⟩

/-! ## Signing in -/

/-- The failures with which a callback refuses a state. -/
def IsRefusal (e : Failure) : Prop := e = .invalidState ∨ e = .stateNotFound

/-- Whether the account with an email can be signed in, or opened: nobody has it who is out of
service, and if nobody has it at all, no drawn UUID is the code of another account. -/
def Welcomes (store : Store.Memory) (past : List Event) (email : String) : Prop :=
  (∀ user ∈ store.users, user.email = some email → user.isDeleted = false) ∧
  ((∀ user ∈ store.users, user.email ≠ some email) → ∀ id, (⟨.uuid, id⟩ : Event) ∈ past →
    ∀ user ∈ store.users, user.idCode ≠ id.text)

/-- The account that a sign-in with an email is for: one that has the email or, where nobody has it,
the one that the store opens for it under a drawn UUID. -/
def SignedInAs (store : Store.Memory) (past : List Event) (email : String) (user : User) : Prop :=
  (user ∈ store.users ∧ user.email = some email) ∨
    ((∀ other ∈ store.users, other.email ≠ some email) ∧
      ∃ id opened, (⟨.uuid, id⟩ : Event) ∈ past ∧
        user = store.accountFor ⟨id.text, some email, none, "", true, .google⟩ opened)

/-- What a pair is made of was read from the clock, or drawn. -/
structure Drawn (m : Session.Mint) (past : List Event) : Prop where
  startedAt : (⟨.clock, m.startedAt⟩ : Event) ∈ past
  key : (⟨.uuid, m.key⟩ : Event) ∈ past
  issuedAt : (⟨.clock, m.issuedAt⟩ : Event) ∈ past
  accessId : (⟨.uuid, m.accessId⟩ : Event) ∈ past
  refreshId : (⟨.uuid, m.refreshId⟩ : Event) ∈ past

/-- The answer is a pair for a user, made of what was read and drawn. -/
def Issues (s : Setup) (user : User) (past : List Event) (result : Except Failure TokenPair) :
    Prop := ∃ m, Drawn m past ∧ result = .ok (Session.Mint.pair m s user)

/-- Who is welcome gets tokens for the account of the email, and nobody is told that the state is
refused. -/
def SignsIn (s : Setup) (store : Store.Memory) (email : String) (past : List Event)
    (result : Except Failure TokenPair) : Prop :=
  (Welcomes store past email → ∃ user, SignedInAs store past email user ∧
    Issues s user past result) ∧
  ∀ e, result = .error e → ¬ IsRefusal e

theorem signsIn_of_issues {store : Store.Memory} {result : Except Failure TokenPair} {user : User}
    (hu : SignedInAs store past email user) (h : Issues s user past result) :
    SignsIn s store email past result := by
  refine ⟨fun _ => ⟨user, hu, h⟩, fun e he => ?_⟩
  obtain ⟨m, -, hpair⟩ := h
  rw [hpair] at he
  cases he

theorem Drawn.append {m : Session.Mint} (h : Drawn m past) (more : List Event) :
    Drawn m (past ++ more) :=
  ⟨List.mem_append_left _ h.startedAt, List.mem_append_left _ h.key,
    List.mem_append_left _ h.issuedAt, List.mem_append_left _ h.accessId,
    List.mem_append_left _ h.refreshId⟩

/-- A pair is made of two readings of the clock and three UUIDs. -/
theorem drawn_of_events (past : List Event) (startedAt issuedAt : Int)
    (key accessId refreshId : Uuid) :
    Drawn ⟨startedAt, key, issuedAt, accessId, refreshId⟩
      (past ++ [⟨.clock, startedAt⟩] ++ [⟨.uuid, key⟩] ++ [⟨.clock, issuedAt⟩]
        ++ [⟨.uuid, accessId⟩] ++ [⟨.uuid, refreshId⟩]) := by
  constructor <;> simp

/-- A call that hands out tokens for a user whatever happens. What happened before is kept. -/
abbrev Succeeds (s : Setup) (user : User) (D : World → World → Prop) (past : List Event)
    (f : Flow TokenPair) (w : World) : Prop :=
  f.Traced D (fun past' result _ =>
    (∃ more, past' = past ++ more) ∧ Issues s user past' result) past w

theorem Succeeds.isOk {D : World → World → Prop} {f : Flow TokenPair} {user : User}
    (h : Succeeds s user D past f w) :
    f.Traced D (fun _ result _ => ∃ pair, result = .ok pair) past w :=
  h.mono fun _ _ _ ⟨_, _, _, hpair⟩ => ⟨_, hpair⟩

section
variable {D : World → World → Prop} (hd : ∀ w w', D w w' → Ready w') {user : User}
include hd

theorem put_issues {before : List Event} {m : Session.Mint} (hm : Drawn m past)
    (hpast : ∃ more, past = before ++ more) (lifetime : Cache.Lifetime) (idCode key : String) :
    (do
      Sessions.put lifetime idCode key
      return m.pair s user : Flow TokenPair).Traced D (fun past' result _ =>
        (∃ more, past' = before ++ more) ∧ Issues s user past' result) past w := by
  obtain ⟨more, rfl⟩ := hpast
  intro w₁ hw₁
  rw [(hd w w₁ hw₁).steady.perform]
  exact ⟨⟨_, List.append_assoc _ _ _⟩, m, hm.append _, rfl⟩

theorem create_issues (provider : AuthProvider) :
    Succeeds s user D past (Session.create s user provider ip) w := by
  intro w₁ _ w₂ _ w₃ _ w₄ _ w₅ _ w₆ _
  exact put_issues hd ((drawn_of_events past w₁.now w₃.now _ _ _).append _)
    ⟨_, by simp only [List.append_assoc]; rfl⟩ _ _ _

theorem update_issues (provider : AuthProvider) :
    Succeeds s user D past (Session.update s user provider ip) w := by
  intro w₁ _ w₂ _ w₃ _ w₄ _ w₅ _
  have hm := drawn_of_events past w₁.now w₃.now (w₂.outside.uuids w₂.drawn)
    (w₄.outside.uuids w₄.drawn) (w₅.outside.uuids w₅.drawn)
  refine statement_traced fun w₆ _ => ?_
  simp only [Store.Memory.perform, Flow.ofExcept_ok, Flow.done_bind]
  cases (w₆.store.updateSession _).1 with
  | true => exact put_issues hd (hm.append _) ⟨_, by simp only [List.append_assoc]; rfl⟩ _ _ _
  | false =>
    refine statement_traced fun w₇ _ => ?_
    exact put_issues hd ((hm.append _).append _) ⟨_, by simp only [List.append_assoc]; rfl⟩ _ _ _

end

/-- A new account for an email that nobody has is in the way of another one only by its code. -/
theorem not_conflicts {store : Store.Memory} {id : Uuid}
    (hemail : ∀ user ∈ store.users, user.email ≠ some email)
    (hcode : ∀ user ∈ store.users, user.idCode ≠ id.text) :
    store.users.any (Store.conflicts ⟨id.text, some email, none, "", true, .google⟩) = false := by
  rw [List.any_eq_false]
  intro user hu
  simp [Store.conflicts, hemail user hu, hcode user hu]

/-- Behind a profile, tokens are handed out to whoever is welcome. -/
theorem signIn_traced : (signInWith s email ip).Traced Ticks
    (fun past result _ => SignsIn s w.store email past result) past w := by
  refine statement_traced fun w₁ hd₁ => ?_
  simp only [Store.Memory.perform, Flow.ofExcept_ok, Flow.done_bind, hd₁.store]
  cases hfound : w.store.users.find? (·.email == some email) with
  | some user =>
    have hfits := List.find?_some hfound
    have hemail : user.email = some email := eq_of_beq hfits
    have hmem : user ∈ w.store.users := List.mem_of_find?_eq_some hfound
    change (Flow.ensure (!user.isDeleted) .inactiveUser >>= fun _ =>
      Session.update s user .google ip).Traced _ _ _ _
    cases hdeleted : user.isDeleted with
    | false =>
      refine (update_issues (fun _ _ h => h.ready) .google).mono fun _ _ _ h => ?_
      exact signsIn_of_issues (.inl ⟨hmem, hemail⟩) h.2
    | true =>
      refine ⟨fun hw => ?_, ?_⟩
      · rw [hw.1 user hmem hemail] at hdeleted
        cases hdeleted
      · rintro e ⟨⟩ (h | h) <;> cases h
  | none =>
    have hnobody : ∀ user ∈ w.store.users, user.email ≠ some email := fun user hu he =>
      List.find?_eq_none.1 hfound user hu (beq_iff_eq.2 he)
    intro w₂ hd₂
    have hstore₂ : w₂.store = w.store := hd₂.store
    set id := w₂.outside.uuids w₂.drawn
    change (Flow.store (.createUser ⟨id.text, some email, none, "", true, .google⟩) >>= fun user =>
      Session.create s user .google ip).Traced _ _ _ _
    refine statement_traced fun w₃ hd₃ => ?_
    have hstore₃ : w₃.store = w.store := hd₃.store.trans hstore₂
    simp only [Store.Memory.perform, Store.Memory.createUser, hstore₃]
    by_cases hany : w.store.users.any
        (Store.conflicts ⟨id.text, some email, none, "", true, .google⟩) = true
    · simp only [hany, if_true]
      refine ⟨fun hw => ?_, ?_⟩
      · have hcode := hw.2 hnobody id (by simp [World.event, World.perform, id])
        rw [not_conflicts hnobody hcode] at hany
        cases hany
      · rintro e ⟨⟩ (h | h) <;> cases h
    · simp only [hany]
      refine (create_issues (fun _ _ h => h.ready) .google).mono fun _ _ _ h => ?_
      obtain ⟨⟨more, rfl⟩, hissues⟩ := h
      refine signsIn_of_issues (.inr ⟨hnobody, id, w₃.instant, ?_, rfl⟩) hissues
      exact List.mem_append_left more
        (List.mem_append_left _ (List.mem_append_right _ (List.mem_singleton_self _)))

end SignOn.Google
