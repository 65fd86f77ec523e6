import SignOn.Proofs.Account.WriteTargets
import SignOn.Proofs.Flow.Rely
import SignOn.Proofs.Google.Stuck
import SignOn.Proofs.Sample
/-!
First sign-ins of one user that run at the same time. Several callbacks hold states of their own,
the provider gives each of them the same email, and nobody has it yet. A callback looks for the
account first and stores one later, and others may act in between. Main statement, for every
interleaving (`all_succeed_iff`): one account comes of it, and all callbacks give tokens exactly if
only one of them looks before the account is stored. The others that do are refused
(`refused_of_crossedOrder`).
-/

namespace SignOn.Google

open SignOn.Account (WritesFor)
open SignOn.Keyspace

variable {s : Setup} {email state code ip : String} {start w w' : World} {past : List Event}
  {act : Act} {claimedAt : Int} {founded : Bool}

/-! ## One account -/

/-- The account that a callback stores for an email. -/
def newcomer (email : String) (id : Uuid) : NewUser :=
  ⟨id.text, some email, none, "", true, .google⟩

/-- A callback looks whether an email is registered. -/
def isLook : Event → Bool
  | ⟨.store (.userByEmail _), _⟩ => true
  | _ => false

/-- It is not. -/
def isMiss : Event → Bool
  | ⟨.store (.userByEmail _), .ok none⟩ => true
  | _ => false

/-- A callback tries to store an account. -/
def isCreation : Event → Bool
  | ⟨.store (.createUser _), _⟩ => true
  | _ => false

/-- It has. -/
def isFounding : Event → Bool
  | ⟨.store (.createUser _), .ok _⟩ => true
  | _ => false

/-- Nobody has an email, and no UUID that is still to be drawn is the code of an account. -/
structure EmailUnknown (email : String) (start : World) : Prop where
  unknown : ∀ user ∈ start.store.users, user.email ≠ some email
  fresh : ∀ n, start.drawn ≤ n → ∀ user ∈ start.store.users,
    user.idCode ≠ (start.outside.uuids n).text

/-- The accounts are those of the start, and one with the email once it is founded. -/
def AccountsAre (email : String) (start : World) (founded : Bool) (w : World) : Prop :=
  if founded then ∃ user, user.email = some email ∧ user.isDeleted = false ∧
    w.store.users = start.store.users ++ [user]
  else w.store.users = start.store.users

/-- What a callback asks the account store: about its email, and about sessions. -/
def AsksAbout (email : String) (start : World) : Act → Prop
  | .store (.userByEmail email') => email' = email
  | .store (.createUser new) =>
    ∃ n, start.drawn ≤ n ∧ new = newcomer email (start.outside.uuids n)
  | .store (.createSession _) => True
  | .store (.updateSession _) => True
  | .store _ => False
  | _ => True

theorem EmailUnknown.find? (hs : EmailUnknown email start) :
    start.store.users.find? (·.email == some email) = none :=
  List.find?_eq_none.2 fun user hu he => hs.unknown user hu (beq_iff_eq.1 he)

/-- Nobody is found as long as the account is not founded. -/
theorem find?_unfounded (hs : EmailUnknown email start) (h : AccountsAre email start false w) :
    w.store.users.find? (·.email == some email) = none := by
  rw [show w.store.users = start.store.users from h, hs.find?]

/-- The account is found once it is founded, and it is in service. -/
theorem find?_founded (hs : EmailUnknown email start) (h : AccountsAre email start true w) :
    ∃ user, w.store.users.find? (·.email == some email) = some user ∧ user.isDeleted = false := by
  obtain ⟨user, hemail, hpresent, husers⟩ := h
  refine ⟨user, ?_, hpresent⟩
  rw [husers, List.find?_append, hs.find?]
  simp [hemail]

/-- As long as the account is not founded, it can be. -/
theorem create_unfounded (hs : EmailUnknown email start) (h : AccountsAre email start false w)
    {n : Nat} (hn : start.drawn ≤ n) (now : Instant) : ∃ user, user.email = some email ∧
      user.isDeleted = false ∧ w.store.createUser (newcomer email (start.outside.uuids n)) now
        = (.ok user, { w.store with users := start.store.users ++ [user] }) := by
  have husers : w.store.users = start.store.users := h
  have hfree : w.store.users.any (Store.conflicts (newcomer email (start.outside.uuids n)))
      = false := not_conflicts (husers ▸ hs.unknown) (husers ▸ hs.fresh n hn)
  refine ⟨w.store.accountFor (newcomer email (start.outside.uuids n)) now, rfl, rfl, ?_⟩
  rw [Store.Memory.createUser, hfree, husers]
  rfl

/-- Nobody founds it twice. -/
theorem create_founded (h : AccountsAre email start true w) (id : Uuid) (now : Instant) :
    w.store.createUser (newcomer email id) now = (.error .userAlreadyExists, w.store) := by
  obtain ⟨user, hemail, -, husers⟩ := h
  have htaken : w.store.users.any (Store.conflicts (newcomer email id)) = true := by
    rw [husers, List.any_append, List.any_cons, Store.conflicts, hemail]
    simp [newcomer]
  rw [Store.Memory.createUser, htaken]
  rfl

/-- Accounts come by creations alone. The first one founds the account, and from then on whoever
looks finds it. -/
theorem AsksAbout.accountsAre (hs : EmailUnknown email start)
    (h : AccountsAre email start founded w) (ha : AsksAbout email start act) :
    AccountsAre email start (founded || isCreation (w.event act)) (w.perform act).2 ∧
      isMiss (w.event act) = (isLook (w.event act) && !founded) ∧
      isFounding (w.event act) = (isCreation (w.event act) && !founded) := by
  have hkept {w' : World} (hw : w'.store.users = w.store.users) :
      AccountsAre email start (founded || false) w' := by
    rw [Bool.or_false]
    unfold AccountsAre at h ⊢
    rw [hw]
    exact h
  cases act with
  | store st =>
    cases st with
    | userByEmail email' =>
      obtain rfl : email' = email := ha
      refine ⟨hkept rfl, ?_, rfl⟩
      simp only [World.event, World.perform, World.performStore, Store.Memory.perform]
      cases founded with
      | false => rw [find?_unfounded hs h]; rfl
      | true =>
        obtain ⟨user, hfound, -⟩ := find?_founded hs h
        rw [hfound]
        rfl
    | createUser new =>
      obtain ⟨n, hn, rfl⟩ := ha
      simp only [World.event, World.perform, World.performStore, Store.Memory.perform]
      cases founded with
      | false =>
        obtain ⟨user, hemail, hdeleted, hcreate⟩ := create_unfounded hs h hn w.instant
        rw [hcreate]
        exact ⟨⟨user, hemail, hdeleted, rfl⟩, rfl, rfl⟩
      | true =>
        rw [create_founded h]
        exact ⟨h, rfl, rfl⟩
    | createSession new => exact ⟨hkept (Store.Memory.users_createSession new), rfl, rfl⟩
    | updateSession update => exact ⟨hkept rfl, rfl, rfl⟩
    | _ => exact ha.elim
  | _ =>
    exact ⟨hkept (by rw [World.perform_store_eq _ (by intro st hst; cases hst)]), rfl, rfl⟩

/-! ## What a callback tolerates -/

/-- What holds of the world all along. -/
structure Kept (email : String) (start w : World) : Prop where
  ready : Ready w
  outside : w.outside = start.outside
  drawn : start.drawn ≤ w.drawn
  users : ∃ founded, AccountsAre email start founded w

/-- What a callback guarantees: it visits its own state, and asks about its email. -/
def Guarantee (email : String) (start : World) (state : String) (act : Act) : Prop :=
  IsVisiting state act ∧ AsksAbout email start act

/-- What a callback tolerates: its claim stays open until it takes it, nobody claims its state
again, and the account is not removed. -/
structure Interference (s : Setup) (email : String) (start : World) (state : String)
    (w w' : World) : Prop where
  kept : Kept email start w'
  opens : ∀ claimedAt, Opens s state claimedAt w → Opens s state claimedAt w'
  spent : w.cache.find? (States.key state) = none → w'.cache.find? (States.key state) = none
  founded : AccountsAre email start true w → AccountsAre email start true w'

/-- How a callback ends: the account is there, and its state is spent. It gives tokens, or it found
nobody and came too late to found the account. -/
structure CallbackEnd {α : Type} (email : String) (start : World) (state : String)
    (past : List Event) (result : Except Failure α) (w : World) : Prop where
  founded : AccountsAre email start true w
  spent : w.cache.find? (States.key state) = none
  answer : ((∃ value, result = .ok value) ∧ past.countP isMiss = past.countP isFounding) ∨
    (result = .error .userAlreadyExists ∧ past.countP isMiss = past.countP isFounding + 1)

theorem Kept.perform (hs : EmailUnknown email start) (h : Kept email start w)
    (ha : AsksAbout email start act) : Kept email start (w.perform act).2 := by
  obtain ⟨founded, haccounts⟩ := h.users
  exact ⟨h.ready.act act, (w.perform_outside act).trans h.outside,
    Nat.le_trans h.drawn (w.drawn_le_perform act), _, (ha.accountsAre hs haccounts).1⟩

/-- An act that leaves the entry of a state alone. -/
def LeavesEntry (state : String) : Act → Prop
  | .cache cmd => cmd.key? ≠ some (States.key state)
  | _ => True

theorem leavesEntry_of_isOpening (h : Session.IsOpening act) (state : String) :
    LeavesEntry state act := by
  cases act with
  | cache cmd =>
    cases cmd with
    | set key value lifetime =>
      obtain ⟨idCode, rfl⟩ := h
      exact fun he => sessions_ne_states idCode state (Option.some.inj he)
    | _ => exact h.elim
  | _ => trivial

theorem IsVisiting.leavesEntry {other : String} (h : IsVisiting other act) (hne : other ≠ state) :
    LeavesEntry state act := by
  have hkey : some (States.key other) ≠ some (States.key state) :=
    fun he => hne (states_key_injective (Option.some.inj he))
  cases h with
  | opening h => exact leavesEntry_of_isOpening h state
  | exchange code => trivial
  | profile token => trivial
  | _ => exact hkey

theorem LeavesEntry.find? (hw : Ready w) (ha : LeavesEntry state act) :
    (w.perform act).2.cache.find? (States.key state) = w.cache.find? (States.key state) ∨
      (w.perform act).2.cache.find? (States.key state)
        = Cache.Memory.alive w.millis (w.cache.find? (States.key state)) := by
  cases act with
  | cache cmd =>
    rw [(commanded hw cmd).cache]
    exact Cache.Memory.perform_of_key_ne hw.keyed w.millis ha
  | _ => exact .inl (by rw [World.perform_cache_eq _ (by intro cmd h; cases h)])

theorem LeavesEntry.read? (hw : Ready w) (ha : LeavesEntry state act) :
    (w.perform act).2.cache.read? w.millis (States.key state)
      = w.cache.read? w.millis (States.key state) := by
  rw [Cache.Memory.read?_eq, Cache.Memory.read?_eq]
  rcases ha.find? hw with h | h
  · rw [h]
  · rw [h, Cache.Memory.alive_alive (Int.le_refl _)]

theorem LeavesEntry.spent (hw : Ready w) (ha : LeavesEntry state act)
    (h : w.cache.find? (States.key state) = none) :
    (w.perform act).2.cache.find? (States.key state) = none := by
  rcases ha.find? hw with he | he <;> rw [he, h]
  rfl

/-- Calls on other states are tolerated. -/
theorem interference_of_guarantee (hs : EmailUnknown email start) {other : String}
    (hne : other ≠ state) (hw : Kept email start w) (ha : Guarantee email start other act) :
    Interference s email start state w (w.perform act).2 := by
  have hleaves := ha.1.leavesEntry hne
  refine ⟨hw.perform hs ha.2, fun claimedAt h => ?_, fun h => ?_, fun h => ?_⟩
  · obtain ⟨hwritten, hvalue, hread, hin⟩ := h
    refine ⟨hwritten, hvalue, ?_, ?_⟩
    · rw [World.perform_millis, hleaves.read? hw.ready, hread]
    · rw [World.perform_now, hin]
  · exact hleaves.spent hw.ready h
  · exact (ha.2.accountsAre hs h).1

/-! ## A callback among others -/

/-- The courses of a callback on a state. -/
abbrev ToleratesAlong (s : Setup) (email : String) (start : World) (state : String) {α : Type}
    (Q : List Event → Except Failure α → World → Prop) (past : List Event) (f : Flow α)
    (w : World) : Prop :=
  f.Tolerates (Interference s email start state) (Guarantee email start state) Q past w

/-- A callback goes on with what the account store answers. -/
theorem statement_tolerates {α : Type} {Q : List Event → Except Failure α → World → Prop}
    {st : Store.Statement} {g : st.Answer → Flow α} (hg : Guarantee email start state (.store st))
    (h : ∀ w₁, Interference s email start state w w₁ → ToleratesAlong s email start state Q
      (past ++ [w₁.event (.store st)])
      (Flow.ofExcept (w₁.perform (.store st)).1 >>= g) (w₁.perform (.store st)).2) :
    ToleratesAlong s email start state Q past (Flow.store st >>= g) w := fun w₁ hd => ⟨hg, h w₁ hd⟩

/-- A callback goes on with what the cache answers. -/
theorem command_tolerates {α : Type} {Q : List Event → Except Failure α → World → Prop}
    {cmd : Cache.Command} {next : Except Failure cmd.Answer → Flow α}
    (hv : IsVisiting state (.cache cmd))
    (h : ∀ w₁, Interference s email start state w w₁ → ToleratesAlong s email start state Q
      (past ++ [⟨.cache cmd, .ok (w₁.cache.perform w₁.millis cmd).1⟩])
      (next (.ok (w₁.cache.perform w₁.millis cmd).1)) (w₁.perform (.cache cmd)).2) :
    ToleratesAlong s email start state Q past (.step (.cache cmd) next) w := by
  intro w₁ h₁
  have hnext := h w₁ h₁
  refine ⟨⟨hv, trivial⟩, ?_⟩
  rw [World.event, h₁.kept.ready.steady.perform] at *
  exact hnext

theorem isOpening_of_writesFor {user : User} (h : WritesFor user act) : Session.IsOpening act := by
  cases act with
  | store st => trivial
  | cache cmd =>
    cases cmd with
    | set key value lifetime => exact ⟨_, h⟩
    | _ => exact h.elim
  | clock => trivial
  | uuid => trivial
  | _ => exact h.elim

theorem guarantee_of_writesFor {user : User} (h : WritesFor user act) :
    Guarantee email start state act := by
  refine ⟨.opening (isOpening_of_writesFor h), ?_⟩
  cases act with
  | store st => cases st <;> trivial
  | _ => trivial

theorem counts_of_writesFor {user : User} {e : Event} (h : WritesFor user e.act) :
    isMiss e = false ∧ isFounding e = false := by
  obtain ⟨act, answer⟩ := e
  cases act with
  | store st => cases st <;> first | exact ⟨rfl, rfl⟩ | exact h.elim
  | _ => exact ⟨rfl, rfl⟩

/-- A callback that works on the session of the account. -/
structure InSession (email : String) (start : World) (state : String) (past : List Event)
    (w : World) : Prop where
  kept : Kept email start w
  founded : AccountsAre email start true w
  spent : w.cache.find? (States.key state) = none
  paid : past.countP isMiss = past.countP isFounding

theorem InSession.perform (hs : EmailUnknown email start) {user : User}
    (h : InSession email start state past w) (ha : WritesFor user act) :
    InSession email start state (past ++ [w.event act]) (w.perform act).2 := by
  have hguarantee : Guarantee email start state act := guarantee_of_writesFor ha
  obtain ⟨hmiss, hfounding⟩ := counts_of_writesFor (e := w.event act) ha
  refine ⟨h.kept.perform hs hguarantee.2, (hguarantee.2.accountsAre hs h.founded).1, ?_, ?_⟩
  · exact (leavesEntry_of_isOpening (isOpening_of_writesFor ha) state).spent h.kept.ready h.spent
  · simp [List.countP_append, hmiss, hfounding, h.paid]

theorem session_tolerates (hs : EmailUnknown email start) {user : User} {f : Flow TokenPair}
    (hf : f.Acts (WritesFor user))
    (hok : f.Traced (Interference s email start state) (fun _ result _ => ∃ pair, result = .ok pair)
      past w)
    (h : InSession email start state past w) :
    ToleratesAlong s email start state (CallbackEnd email start state) past f w := by
  have hsession : ToleratesAlong s email start state
      (fun past _ w => InSession email start state past w)
      past f w := by
    refine .of_acts hf (fun _ => guarantee_of_writesFor) (fun past w w' hd h => ?_)
      (fun _ _ _ ha h => h.perform hs ha) h
    exact ⟨hd.kept, hd.founded h.founded, hd.spent h.spent, h.paid⟩
  refine (hsession.and_traced hok).mono fun past result w ⟨hend, hresult⟩ => ?_
  exact ⟨hend.founded, hend.spent, .inl ⟨hresult, hend.paid⟩⟩

/-- A callback that has found nobody founds the account, unless another has done so in between. -/
theorem found_tolerates (hs : EmailUnknown email start) {n : Nat} (hn : start.drawn ≤ n)
    (hspent : w.cache.find? (States.key state) = none)
    (hmissed : past.countP isMiss = past.countP isFounding + 1) :
    ToleratesAlong s email start state (CallbackEnd email start state) past
      (Flow.store (.createUser (newcomer email (start.outside.uuids n))) >>= fun user =>
        Session.create s user .google ip) w := by
  have hguarantee : Guarantee email start state
      (.store (.createUser (newcomer email (start.outside.uuids n)))) :=
    ⟨.opening trivial, n, hn, rfl⟩
  refine statement_tolerates hguarantee fun w₁ h₁ => ?_
  have hkept := h₁.kept.perform hs hguarantee.2
  have hfree := h₁.spent hspent
  obtain ⟨founded, haccounts⟩ := h₁.kept.users
  have hthere := (hguarantee.2.accountsAre hs haccounts).1
  cases founded with
  | false =>
    obtain ⟨user, -, -, hcreate⟩ := create_unfounded hs haccounts hn w₁.instant
    have hanswer : (w₁.perform (.store (.createUser
        (newcomer email (start.outside.uuids n))))).1 = .ok user := congrArg Prod.fst hcreate
    rw [World.event, hanswer]
    refine session_tolerates hs (Account.create_writesFor s user .google ip)
      (create_issues (fun _ _ h => h.kept.ready) .google).isOk ⟨hkept, hthere, hfree, ?_⟩
    simpa [List.countP_append, isMiss, isFounding] using hmissed
  | true =>
    -- Between the look and this act, another callback has founded the account.
    have hanswer : (w₁.perform (.store (.createUser
        (newcomer email (start.outside.uuids n))))).1 = .error .userAlreadyExists :=
      congrArg Prod.fst (create_founded haccounts _ w₁.instant)
    rw [World.event, hanswer]
    refine ⟨hthere, hfree, .inr ⟨rfl, ?_⟩⟩
    simpa [List.countP_append, isMiss, isFounding] using hmissed

/-- A callback that looks when the account is there signs it in. -/
theorem signIn_tolerates (hs : EmailUnknown email start)
    (hspent : w.cache.find? (States.key state) = none)
    (hpaid : past.countP isMiss = past.countP isFounding) :
    ToleratesAlong s email start state (CallbackEnd email start state) past
      (signInWith s email ip) w := by
  have hlook : Guarantee email start state (.store (.userByEmail email)) := ⟨.opening trivial, rfl⟩
  refine statement_tolerates hlook fun w₁ h₁ => ?_
  have hkept := h₁.kept.perform hs hlook.2
  have hfree : (w₁.perform (.store (.userByEmail email))).2.cache.find? (States.key state) = none :=
    h₁.spent hspent
  obtain ⟨founded, haccounts⟩ := h₁.kept.users
  cases founded with
  | false =>
    have hanswer : (w₁.perform (.store (.userByEmail email))).1 = .ok none :=
      congrArg Except.ok (find?_unfounded hs haccounts)
    rw [World.event, hanswer]
    intro w₂ h₂
    refine ⟨⟨.opening trivial, trivial⟩, ?_⟩
    have huuid : (w₂.perform .uuid).1 = start.outside.uuids w₂.drawn := by
      rw [← h₂.kept.outside]; rfl
    rw [World.event, huuid]
    refine found_tolerates hs h₂.kept.drawn (h₂.spent hfree) ?_
    rw [List.countP_append, List.countP_append, List.countP_append, List.countP_append, hpaid]
    rfl
  | true =>
    obtain ⟨user, hfound, hpresent⟩ := find?_founded hs haccounts
    have hanswer : (w₁.perform (.store (.userByEmail email))).1 = .ok (some user) :=
      congrArg Except.ok hfound
    have hthere := (hlook.2.accountsAre hs haccounts).1
    rw [World.event, hanswer]
    change ToleratesAlong s email start state _ _ (Flow.ensure (!user.isDeleted) .inactiveUser >>=
      fun _ => Session.update s user .google ip) _
    rw [hpresent]
    refine session_tolerates hs (Account.update_writesFor s user .google ip)
      (update_issues (fun _ _ h => h.kept.ready) .google).isOk ⟨hkept, hthere, hfree, ?_⟩
    rw [List.countP_append, List.countP_append, hpaid]
    rfl

/-- The email that the provider gives for a code. -/
def emailBehind (o : Outside) (code : String) : Except Failure String := do
  let token ← o.exchange code
  let profile ← o.profile token.accessToken
  return profile.email

theorem exists_of_emailBehind {o : Outside} (h : emailBehind o code = .ok email) :
    ∃ token profile, o.exchange code = .ok token ∧ o.profile token.accessToken = .ok profile ∧
      profile.email = email := by
  unfold emailBehind at h
  cases hx : o.exchange code with
  | error e => rw [hx] at h; cases h
  | ok token =>
    rw [hx] at h
    change (o.profile token.accessToken >>= _) = _ at h
    cases hp : o.profile token.accessToken with
    | error e => rw [hp] at h; cases h
    | ok profile => rw [hp] at h; exact ⟨token, profile, rfl, hp, Except.ok.inj h⟩

theorem Opens.look (hw : Ready w) (h : Opens s state claimedAt w) :
    Opens s state claimedAt (w.perform (.cache (.get (States.key state)))).2 :=
  ⟨h.written, h.value, (read_of_look hw).trans h.read, by rw [World.perform_now, h.window]⟩

/-- The provider gives the email, and the state is freed. -/
theorem redeem_tolerates (hs : EmailUnknown email start)
    (hgiven : emailBehind start.outside code = .ok email)
    (hpaid : past.countP isMiss = past.countP isFounding) :
    ToleratesAlong s email start state (CallbackEnd email start state) past (do
      let profile ← profileOrRestore s state claimedAt code
      States.release state
      signInWith s profile.email ip) w := by
  obtain ⟨token, profile, htoken, hprofile, rfl⟩ := exists_of_emailBehind hgiven
  intro w₁ h₁
  refine ⟨⟨.exchange code, trivial⟩, ?_⟩
  have hexchange : (w₁.perform (.exchange code)).1 = .ok token := by
    rw [← h₁.kept.outside] at htoken
    simp only [World.perform, htoken]
  rw [World.event, hexchange]
  intro w₂ h₂
  refine ⟨⟨.profile token.accessToken, trivial⟩, ?_⟩
  have hfetch : (w₂.perform (.profile token.accessToken)).1 = .ok profile := by
    rw [← h₂.kept.outside] at hprofile
    exact hprofile
  rw [World.event, hfetch]
  refine command_tolerates .release fun w₃ h₃ => ?_
  refine signIn_tolerates hs ?_ ?_
  · rw [(commanded h₃.kept.ready _).cache]
    exact Cache.Memory.find?_erase_self
  · simp only [List.countP_append, hpaid]
    rfl

theorem callback_tolerates (hs : EmailUnknown email start) (hopens : Opens s state claimedAt w)
    (hgiven : emailBehind start.outside code = .ok email) :
    ToleratesAlong s email start state (CallbackEnd email start state) []
      (callback s state code ip) w := by
  unfold callback
  rw [hopens.written]
  -- Nobody else takes the claim, so it is open at each of the three acts on it.
  refine command_tolerates .look fun w₁ h₁ => ?_
  have hopens₁ := h₁.opens claimedAt hopens
  rw [show w₁.cache.perform w₁.millis (.get (States.key state))
    = (w₁.cache.read? w₁.millis (States.key state), _) from rfl, hopens₁.read]
  change ToleratesAlong s email start state _ _ (Flow.require (States.ofValue
    (some (States.claimValue claimedAt))) .stateNotFound >>= _) _
  rw [hopens₁.value]
  intro w₂ h₂
  refine ⟨⟨.opening trivial, trivial⟩, ?_⟩
  have hopens₂ := h₂.opens claimedAt (hopens₁.look h₁.kept.ready)
  change ToleratesAlong s email start state _ _ (Flow.ensure (inWindow s claimedAt w₂.now)
    .stateNotFound >>= _) _
  rw [hopens₂.window]
  refine command_tolerates (.take claimedAt _) fun w₃ h₃ => ?_
  have hopens₃ := h₃.opens claimedAt hopens₂
  have htaken : (w₃.cache.perform w₃.millis (.swap (States.key state)
      (some (States.claimValue claimedAt)) States.consumed s.stateLifetime)).1 = true := by
    simp only [Cache.Memory.perform, hopens₃.read, if_true]
  rw [htaken]
  exact redeem_tolerates hs hgiven rfl

/-! ## Callbacks at the same time -/

/-- Time passes, but no state lapses that can still be redeemed. -/
structure Waits (s : Setup) (states : List String) (w w' : World) : Prop where
  same : w' = { w with clock := w'.clock }
  redeemable : ∀ state ∈ states, Redeemable s state w → Redeemable s state w'

/-- The states of calls. -/
def statesOf (sys : System Visit.Value) : List String := sys.threads.map (·.call.state)

/-- Callbacks that have not done anything yet: each holds a state of its own that can be redeemed,
and the provider gives each the same email, which nobody has. -/
structure Arrived (s : Setup) (email : String) (start : System Visit.Value) : Prop where
  ready : Ready start.world
  strangers : EmailUnknown email start.world
  nonempty : start.threads ≠ []
  apart : (statesOf start).Nodup
  calls : ∀ t ∈ start.threads, ∃ state code ip,
    t = Thread.start (Visit.flow s) (.callback state code ip) ∧
      Redeemable s state start.world ∧ emailBehind start.world.outside code = .ok email

theorem Waits.kept {states : List String} (h : Waits s states w w') (hw : Kept email start w) :
    Kept email start w' := by
  obtain ⟨⟨⟨hup, hwins⟩, hkeyed⟩, houtside, hdrawn, hfounded⟩ := hw
  rw [h.same]
  exact ⟨⟨⟨hup, hwins⟩, hkeyed⟩, houtside, hdrawn, hfounded⟩

/-- The claim that is open later is the one that was. -/
theorem Waits.opens {states : List String} (h : Waits s states w w') (hw : Ready w)
    (hw' : Ready w') (hstate : state ∈ states) (ho : Opens s state claimedAt w) :
    Opens s state claimedAt w' := by
  obtain ⟨madeAt, hopens⟩ := (redeemable_iff_opens hw').1
    (h.redeemable state hstate ((redeemable_iff_opens hw).2 ⟨claimedAt, ho⟩))
  obtain ⟨e, he, hvalue⟩ := find?_of_read? ho.read
  obtain ⟨e', he', hvalue'⟩ := find?_of_read? hopens.read
  -- The entry is the same one, and its value tells the second of the claim.
  have hcache : w'.cache = w.cache := by rw [h.same]
  rw [hcache, he] at he'
  cases he'
  have hsame := ho.value
  rw [← hvalue, hvalue', hopens.value, Option.some.injEq] at hsame
  exact hsame ▸ hopens

theorem Waits.interference {states : List String} (h : Waits s states w w')
    (hw : Kept email start w) (hstate : state ∈ states) :
    Interference s email start state w w' := by
  have hkept := h.kept hw
  refine ⟨hkept, fun claimedAt ho => h.opens hw.ready hkept.ready hstate ho, fun hn => ?_,
    fun hf => ?_⟩
  · rw [h.same]; exact hn
  · rw [h.same]; exact hf

variable {first now : System Visit.Value} {log : List (Nat × Event)}

/-- The callbacks get along. -/
theorem Arrived.agree (h : Arrived s email first) :
    System.Agree (V := Visit.Value) (Waits s (statesOf first)) (Kept email first.world)
      (fun v => Interference s email first.world v.state)
      (fun v => Guarantee email first.world v.state)
      (fun v => CallbackEnd email first.world v.state) (first.threads.map (·.call)) where
  refl _ w hw := ⟨hw, fun _ => id, id, id⟩
  trans _ a b c hab hbc := ⟨hbc.kept, fun claimedAt => hbc.opens claimedAt ∘ hab.opens claimedAt,
    hbc.spent ∘ hab.spent, hbc.founded ∘ hab.founded⟩
  stable _ past result w w' hd hq := ⟨hd.founded hq.founded, hd.spent hq.spent, hq.answer⟩
  act _ _ w act hw ha := hw.perform h.strangers ha.2
  others {i j k l} hne hk hl w act hw ha := by
    refine interference_of_guarantee h.strangers (fun he => hne ?_) hw ha
    have hstate {n : Nat} {v : Visit} (hn : (first.threads.map (·.call))[n]? = some v) :
        (statesOf first)[n]? = some v.state := by
      rw [List.getElem?_map] at hn
      rw [statesOf, List.getElem?_map]
      cases hf : first.threads[n]? with
      | none => rw [hf] at hn; cases hn
      | some t => rw [hf] at hn; cases hn; rfl
    obtain ⟨hlt, -⟩ := List.getElem?_eq_some_iff.1 (hstate hk)
    exact (List.getElem?_inj hlt h.apart).1 ((hstate hk).trans (he ▸ (hstate hl).symm))
  drift w w' hd hw := by
    refine ⟨hd.kept hw, fun k hk => hd.interference hw ?_⟩
    rw [statesOf]
    obtain ⟨t, ht, rfl⟩ := List.mem_map.1 hk
    exact List.mem_map_of_mem ht

theorem Arrived.tolerates (h : Arrived s email first)
    (hr : System.Reaches (Waits s (statesOf first)) first now) :
    Kept email first.world now.world ∧ ∀ t ∈ now.threads,
      t.Tolerates (fun v => Interference s email first.world v.state)
        (fun v => Guarantee email first.world v.state)
        (fun v => CallbackEnd email first.world v.state) now.world := by
  refine hr.tolerates h.agree ⟨h.ready, rfl, Nat.le_refl _, false, rfl⟩ fun t ht => ?_
  obtain ⟨state, code, ip, rfl, hredeem, hgiven⟩ := h.calls t ht
  obtain ⟨claimedAt, hopens⟩ := (redeemable_iff_opens h.ready).1 hredeem
  exact callback_tolerates h.strangers hopens hgiven

/-! ## Counting looks -/

/-- How many callbacks looked before any of them tried to store an account. -/
def earlyLooks (log : List (Nat × Event)) : Nat :=
  (log.takeWhile (!isCreation ·.2)).countP (isLook ·.2)

/-- Whether a callback has tried to store an account. -/
def created (log : List (Nat × Event)) : Bool := log.any (isCreation ·.2)

theorem isLook_of_isCreation {e : Event} (h : isCreation e = true) : isLook e = false := by
  obtain ⟨act, answer⟩ := e
  cases act with
  | store st => cases st <;> first | rfl | cases h
  | _ => cases h

theorem earlyLooks_append (log : List (Nat × Event)) (x : Nat × Event) :
    earlyLooks (log ++ [x]) = earlyLooks log + (isLook x.2 && !created log).toNat := by
  induction log with
  | nil =>
    cases hc : isCreation x.2 with
    | true => simp [earlyLooks, created, hc, isLook_of_isCreation hc]
    | false => cases hl : isLook x.2 <;> simp [earlyLooks, created, hc, hl]
  | cons y log ih =>
    cases hc : isCreation y.2 with
    | true => simp [earlyLooks, created, hc]
    | false =>
      simp only [earlyLooks, created, List.cons_append, List.takeWhile_cons, hc, Bool.not_false,
        if_true, List.countP_cons, List.any_cons, Bool.false_or] at ih ⊢
      omega

/-- What the log says of the accounts, and of the callbacks that found nobody or founded the
account. -/
structure Tallied (email : String) (first : World) (log : List (Nat × Event))
    (now : System Visit.Value) : Prop where
  users : AccountsAre email first (created log) now.world
  misses : total (fun t => (t.past.countP isMiss : Int)) now.threads = earlyLooks log
  foundings : total (fun t => (t.past.countP isFounding : Int)) now.threads = (created log).toInt

theorem Arrived.tallied (h : Arrived s email first)
    (hr : System.Runs (Waits s (statesOf first)) first log now) :
    Tallied email first.world log now := by
  induction hr with
  | refl =>
    have hnone : ∀ t ∈ first.threads, t.past = [] := fun t ht => by
      obtain ⟨state, code, ip, rfl, -⟩ := h.calls t ht
      rfl
    exact ⟨rfl, total_eq_zero fun t ht => by rw [hnone t ht]; rfl,
      total_eq_zero fun t ht => by rw [hnone t ht]; rfl⟩
  | @act log mid i k past act next hr hi ih =>
    obtain ⟨hkept, htolerates⟩ := h.tolerates hr.reaches
    have hguarantee := (htolerates _ (List.mem_of_getElem? hi) mid.world
      (h.agree.refl k mid.world hkept)).1
    obtain ⟨husers, hmiss, hfounding⟩ := hguarantee.2.accountsAre h.strangers ih.users
    have hcreated (e : Event) : created (log ++ [(i, e)]) = (created log || isCreation e) := by
      simp [created]
    refine ⟨hcreated _ ▸ husers, ?_, ?_⟩
    · rw [System.after, total_set _ hi, ih.misses, earlyLooks_append]
      simp only [List.countP_append, List.countP_singleton, hmiss]
      cases isLook (mid.world.event act) && !created log <;> simp
    · rw [System.after, total_set _ hi, ih.foundings, hcreated]
      simp only [List.countP_append, List.countP_singleton, hfounding]
      cases created log <;> cases isCreation (mid.world.event act) <;> simp
  | @drift log mid w hr hd ih =>
    refine ⟨?_, ih.misses, ih.foundings⟩
    rw [hd.same]
    exact ih.users

/-- What has come of callbacks for one email. -/
structure Received (email : String) (first now : System Visit.Value)
    (log : List (Nat × Event)) : Prop where
  /-- One account has the email, and no other account is new. -/
  account : ∃ user, user.email = some email ∧
    now.world.store.users = first.world.store.users ++ [user]
  /-- Each callback gave tokens, or was refused since somebody had signed up in between. -/
  answers : ∀ t ∈ now.threads, t.succeeded = true ∨
    t.outcome? = some (.error .userAlreadyExists)
  /-- No state can be redeemed again. -/
  spent : ∀ t ∈ now.threads, now.world.cache.find? (States.key t.call.state) = none
  /-- Of those that looked too early, one gave tokens. -/
  count : now.threads.countP Thread.succeeded + earlyLooks log = now.threads.length + 1

/-- What holds of a callback that has ended. -/
structure Ended (email : String) (first : World) (w : World) (t : Thread Visit.Value) : Prop where
  founded : AccountsAre email first true w
  spent : w.cache.find? (States.key t.call.state) = none
  answer : t.succeeded = true ∨ t.outcome? = some (.error .userAlreadyExists)
  counts : (t.past.countP isMiss : Int) = t.past.countP isFounding + (!t.succeeded).toInt

theorem CallbackEnd.ended {t : Thread Visit.Value} {result : Except Failure (Visit.Value t.call)}
    (h : CallbackEnd email start t.call.state t.past result w) (ht : t.outcome? = some result) :
    Ended email start w t := by
  obtain ⟨hfounded, hspent, ⟨⟨value, rfl⟩, hcount⟩ | ⟨rfl, hcount⟩⟩ := h
  · have hok : t.succeeded = true := by rw [Thread.succeeded, ht]
    refine ⟨hfounded, hspent, .inl hok, ?_⟩
    rw [hok, hcount]
    rfl
  · have hrefused : t.succeeded = false := by rw [Thread.succeeded, ht]
    refine ⟨hfounded, hspent, .inr ht, ?_⟩
    rw [hrefused, hcount]
    rfl

theorem Arrived.ended (h : Arrived s email first)
    (hr : System.Reaches (Waits s (statesOf first)) first now)
    (hover : ∀ t ∈ now.threads, t.outcome?.isSome = true) :
    ∀ t ∈ now.threads, Ended email first.world now.world t := fun t ht => by
  obtain ⟨result, hresult⟩ := Option.isSome_iff_exists.1 (hover t ht)
  exact (((h.tolerates hr).2 t ht).end hresult).ended hresult

theorem Arrived.received (h : Arrived s email first)
    (hr : System.Runs (Waits s (statesOf first)) first log now)
    (hover : ∀ t ∈ now.threads, t.outcome?.isSome = true) : Received email first now log := by
  have htally := h.tallied hr
  have hended := h.ended hr.reaches hover
  obtain ⟨t, ht⟩ : ∃ t, t ∈ now.threads := by
    refine List.exists_mem_of_ne_nil _ fun hnil => ?_
    have hcalls := System.Reaches.calls hr.reaches
    rw [hnil, List.map_nil, eq_comm, List.map_eq_nil_iff] at hcalls
    exact h.nonempty hcalls
  obtain ⟨user, hemail, -, husers⟩ := (hended t ht).founded
  have hcreated : created log = true := by
    cases hc : created log with
    | true => rfl
    | false =>
      have hsame : now.world.store.users = first.world.store.users := by
        simpa [hc, AccountsAre] using htally.users
      rw [hsame] at husers
      simp at husers
  refine ⟨⟨user, hemail, husers⟩, fun t ht => (hended t ht).answer,
    fun t ht => (hended t ht).spent, ?_⟩
  have hsums : total (fun t => (t.past.countP isMiss : Int)) now.threads
      = total (fun t => t.past.countP isFounding + (!t.succeeded).toInt) now.threads :=
    congrArg List.sum (List.map_congr_left fun t ht => (hended t ht).counts)
  rw [total_add, total_toInt, htally.misses, htally.foundings, hcreated] at hsums
  have hall := List.length_eq_countP_add_countP Thread.succeeded (l := now.threads)
  simp only [Bool.not_eq_true, Bool.decide_eq_false] at hall
  simp only [Bool.toInt_true] at hsums
  omega

/-- Callbacks that hold states of their own run at the same time, in every order of their acts, and
the provider gives each the same email, which nobody has yet. Once all have ended, one account has
the email, and all gave tokens exactly if one of them had stored the account before another one
looked for it. Each one more that looked before is refused, and its state is spent. -/
theorem all_succeed_iff (h : Arrived s email first)
    (hr : System.Runs (Waits s (statesOf first)) first log now)
    (hover : ∀ t ∈ now.threads, t.outcome?.isSome = true) :
    ((∀ t ∈ now.threads, t.succeeded = true) ↔ earlyLooks log = 1) ∧
      Received email first now log := by
  have hreceived := h.received hr hover
  refine ⟨?_, hreceived⟩
  rw [← List.countP_eq_length]
  have hcount := hreceived.count
  omega

/-! ## Two tabs -/

/-- A user signs in for the first time, in two tabs of a browser. -/
def tabs : System Visit.Value where
  world := ((redirectUrl Sample.setup (Sample.uuid 8).text).run
    ((redirectUrl Sample.setup (Sample.uuid 7).text).run Sample.world).2).2
  threads := [.callback (Sample.uuid 7).text "one" "192.0.2.1",
    .callback (Sample.uuid 8).text "two" "192.0.2.1"].map (Thread.start (Visit.flow Sample.setup))

theorem tabs_arrived : Arrived Sample.setup "ada@example.org" tabs := by
  have hkeyed : (tabs.world.cache.entries.map (·.1)).Nodup := by decide +kernel
  have hready : Ready tabs.world := ⟨⟨fun _ => rfl, rfl⟩, hkeyed⟩
  have hnobody : tabs.world.store.users = [] := rfl
  have hwritten : ∀ state ∈ statesOf tabs, Uuid.isWritten state = true := by decide +kernel
  have hread : ∀ state ∈ statesOf tabs, tabs.world.cache.read? tabs.world.millis
      (States.key state) = some (States.claimValue 1000) := by decide +kernel
  have hredeem : ∀ state ∈ statesOf tabs, Redeemable Sample.setup state tabs.world :=
    fun state h => (redeemable_iff_opens hready).2 ⟨1000, hwritten state h,
      States.ofValue_claimValue (by decide) (by decide), hread state h, by decide +kernel⟩
  refine ⟨hready, ⟨?_, ?_⟩, List.cons_ne_nil _ _, by decide +kernel, fun t ht => ?_⟩
  · rw [hnobody]; exact fun user hu => absurd hu List.not_mem_nil
  · rw [hnobody]; exact fun n _ user hu => absurd hu List.not_mem_nil
  · have hown := hredeem t.call.state (List.mem_map_of_mem ht)
    rcases List.mem_pair.1 ht with rfl | rfl
    · exact ⟨_, _, _, rfl, hown, rfl⟩
    · exact ⟨_, _, _, rfl, hown, rfl⟩

/-- The second tab looks for the account when the first one has stored it. -/
def turnOrder : List Nat :=
  List.replicate 6 0 ++ List.replicate 6 1 ++ List.replicate 3 0 ++ List.replicate 9 1 ++
    List.replicate 7 0

/-- Both tabs look for the account before either stores it. -/
def crossedOrder : List Nat :=
  List.replicate 7 0 ++ List.replicate 7 1 ++ List.replicate 9 0 ++ List.replicate 2 1

/-- Both tabs are signed in. -/
theorem all_succeed_of_turnOrder :
    earlyLooks (System.logOf turnOrder tabs) = 1 ∧
      ∀ t ∈ (tabs.schedule turnOrder).threads, t.succeeded = true := by
  have hearly : earlyLooks (System.logOf turnOrder tabs) = 1 := by decide +kernel
  exact ⟨hearly, (all_succeed_iff tabs_arrived (System.Runs.refl.schedule turnOrder)
    (by decide +kernel)).1.2 hearly⟩

/-- The second tab is refused, since the first one has signed up. -/
theorem refused_of_crossedOrder :
    Arrived Sample.setup "ada@example.org" tabs ∧
      System.Runs (Waits Sample.setup (statesOf tabs)) tabs (System.logOf crossedOrder tabs)
        (tabs.schedule crossedOrder) ∧
      (∀ t ∈ (tabs.schedule crossedOrder).threads, t.outcome?.isSome = true) ∧
      ∃ t ∈ (tabs.schedule crossedOrder).threads,
        t.outcome? = some (.error .userAlreadyExists) := by
  have hruns : System.Runs (Waits Sample.setup (statesOf tabs)) tabs
    (System.logOf crossedOrder tabs) (tabs.schedule crossedOrder) :=
    System.Runs.refl.schedule crossedOrder
  have hover : ∀ t ∈ (tabs.schedule crossedOrder).threads, t.outcome?.isSome = true := by
    decide +kernel
  have hfails : ∃ t ∈ (tabs.schedule crossedOrder).threads, t.succeeded = false := by
    decide +kernel
  obtain ⟨t, ht, hfailed⟩ := hfails
  have hanswer := (tabs_arrived.received hruns hover).answers t ht
  rw [hfailed] at hanswer
  exact ⟨tabs_arrived, hruns, hover, t, ht, hanswer.resolve_left Bool.false_ne_true⟩

end SignOn.Google
