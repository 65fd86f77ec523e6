import SignOn.Proofs.Account.Uniqueness
/-!
Accounts that are out of service. A call looks an account up before it does anything for it, and
goes on only if the account is in service; and an account that is out of service keeps its email and
its phone. So whoever is out stays out, whatever calls run at the same time and whatever fails:
`stays_out`.
-/

namespace SignOn.Account

open SignOn.Keyspace SignOn.Session

variable {s : Setup} {P : Int → Prop} {store : Store.Memory} {w w' : World} {former : User}

/-- Time passes between the acts of calls. -/
structure Elapses (w w' : World) : Prop extends Turns w w' where
  forward : w.millis ≤ w'.millis

/-! ## Out of service -/

/-- An account is stored, and is out of service. -/
def OutOfService (store : Store.Memory) (former : User) : Prop :=
  ∃ user ∈ store.users, user.registered = former.registered ∧ user.isDeleted = true

/-- An account that is out of service is stored with its number, code, email and phone. -/
theorem OutOfService.stored (h : OutOfService store former) :
    ∃ user ∈ store.users, user.isDeleted = true ∧
    user.id = former.id ∧ user.idCode = former.idCode ∧ user.email = former.email ∧
    user.phone = former.phone := by
  obtain ⟨user, hu, hregistered, hdeleted⟩ := h
  exact ⟨user, hu, hdeleted, User.eq_of_registered hregistered⟩

/-- No call puts an account back into service. -/
theorem OutOfService.act (h : OutOfService w.store former) (act : Act) : OutOfService
    (w.perform act).2.store former := by
  obtain ⟨user, hu, hgone⟩ := h
  refine ⟨user, ?_, hgone⟩
  rcases users_perform w act with he | ⟨-, new, he⟩
  · rw [he]; exact hu
  · rw [he]; exact List.mem_append_left _ hu

theorem OutOfService.turns (h : OutOfService w.store former) (ht : Turns w w') :
    OutOfService w'.store former := by
  obtain ⟨user, hu, hregistered, hdeleted⟩ := h
  rcases ht.store with he | ⟨id, moment, he⟩
  · rw [he]; exact ⟨user, hu, hregistered, hdeleted⟩
  · rw [he]
    rcases Store.mem_changeFirst (p := (·.id == id))
      (f := fun u : User => { u with deletedAt := some moment }) hu with hm | hm
    · exact ⟨user, hm, hregistered, hdeleted⟩
    · exact ⟨_, hm, hregistered, rfl⟩

theorem OutOfService.known (h : OutOfService store former) : store.Known former := by
  obtain ⟨user, hu, hregistered, -⟩ := h
  rw [Store.Memory.Known, ← hregistered]
  exact List.mem_map_of_mem hu

/-! ## What stays -/

/-- The call is a logout with the token in a row. -/
def LogsOut (row : Option SessionRow) (k : Call) : Prop :=
  ∃ own, row = some own ∧ k = .logout own.refreshToken

/-- A row is as it was, or, if `ended` holds, its session may have ended. -/
def RowStays (ended : Prop) (old new : Option SessionRow) : Prop :=
  new = old ∨ ended ∧ ∃ endedAt, new = old.map (Store.Memory.close endedAt)

/-- What can be read under a key from now on is what could be read, or, if `ended` holds, it may be
gone. -/
def KeyStays (ended : Prop) (key : String) (now : Int) (old new : Cache.Memory) : Prop :=
  (∀ later, now ≤ later → new.read? later key = old.read? later key) ∨
    ended ∧ ∀ later, now ≤ later → new.read? later key = none

theorem RowStays.trans {ended : Prop} {a b c : Option SessionRow} (h : RowStays ended a b)
    (h' : RowStays ended b c) : RowStays ended a c := by
  rcases h' with rfl | ⟨hended, endedAt, rfl⟩
  · exact h
  · refine .inr ⟨hended, endedAt, ?_⟩
    rcases h with rfl | ⟨-, before, rfl⟩
    · rfl
    · cases a <;> rfl

/-- A row that stays keeps its number. -/
theorem RowStays.id {ended : Prop} {old new : Option SessionRow} (h : RowStays ended old new) :
    new.map (·.id) = old.map (·.id) := by
  rcases h with rfl | ⟨-, endedAt, rfl⟩
  · rfl
  · cases old <;> rfl

theorem KeyStays.trans {ended : Prop} {key : String} {now now' : Int} {a b c : Cache.Memory}
    (h : KeyStays ended key now a b) (h' : KeyStays ended key now' b c) (hle : now ≤ now') :
    KeyStays ended key now' a c := by
  rcases h' with hsame | hgone
  · rcases h with hbefore | ⟨hended, hbefore⟩
    · exact .inl fun later hl => (hsame later hl).trans (hbefore later (Int.le_trans hle hl))
    · exact .inr ⟨hended, fun later hl =>
        (hsame later hl).trans (hbefore later (Int.le_trans hle hl))⟩
  · exact .inr hgone

/-- As long as a row stays, it is found by no token but the one that it had. -/
theorem RowStays.found {ended : Prop} {old : Option SessionRow}
    (h : RowStays ended old (store.rowFor former.id)) (hrows : store.Rows) {token : String}
    {row : SessionRow} (hfound : store.sessionByToken token = some row)
    (hrow : row.userId = former.id ∨ old.map (·.id) = some row.id) : old = some row := by
  obtain ⟨hmem, htoken, hne⟩ := Store.Memory.mem_of_sessionByToken hfound
  have huser : row.userId = former.id := by
    rcases hrow with huser | hid
    · exact huser
    · rw [← h.id] at hid
      obtain ⟨current, hcurrent, hsame⟩ := Option.map_eq_some_iff.1 hid
      obtain ⟨hm, hu⟩ := Store.Memory.mem_of_rowFor hcurrent
      rw [hrows.eq_of_id hmem hm hsame.symm, hu]
  have hcurrent : store.rowFor former.id = some row := by
    rw [← huser]
    exact hrows.rowFor_of_mem hmem
  rw [hcurrent] at h
  rcases h with he | ⟨-, endedAt, he⟩
  · exact he.symm
  · obtain ⟨own, -, rfl⟩ := Option.map_eq_some_iff.1 he.symm
    exact absurd htoken.symm hne

/-- What holds of an account that is out of service in one world in all later worlds. -/
structure KeptOut (s : Setup) (former : User) (ended : Prop) (w w' : World) : Prop where
  ledger : Ledger s (fun _ => True) w'.store
  keyed : w'.cache.Keyed
  outOfService : OutOfService w'.store former
  row : RowStays ended (w.store.rowFor former.id) (w'.store.rowFor former.id)
  key : KeyStays ended (Sessions.key former.idCode) w'.millis w.cache w'.cache

theorem Reachable.keyed (h : Reachable s w) : w.cache.Keyed := by
  obtain ⟨start, now, hstart, hreaches, rfl⟩ := h
  refine hreaches.world (W := (·.cache.Keyed)) ?_ (fun w act hw => w.perform_keyed hw act)
    (fun w w' ht hw => ht.cache ▸ hw)
  rw [hstart.cache]
  exact List.nodup_nil

theorem KeptOut.refl (hw : Reachable s w) (hu : former ∈ w.store.users)
    (hd : former.isDeleted = true) (ended : Prop) : KeptOut s former ended w w :=
  ⟨hw.ledger, hw.keyed, ⟨former, hu, rfl, hd⟩, .inl rfl, .inl fun _ _ => rfl⟩

/-! ## What calls hear -/

/-- The act of sending a code to the email or the phone of an account. -/
def WritesTo (former : User) : Act → Prop
  | .mail address _ => former.email = some address
  | .text number _ => former.phone = some number
  | _ => False

/-- What a call hears of an account that is out of service, whose row was `old`: whoever it sees in
service is somebody else, whoever has the email or the phone of the account is out of service, and
the row of the account is found as it was. -/
structure Avoids (old : Option SessionRow) (former : User) (e : Event) : Prop where
  others : ∀ user, shown? e = some user → user.isDeleted = false →
    user.id ≠ former.id ∧ user.idCode ≠ former.idCode
  byEmail : ∀ address found, former.email = some address →
    e = ⟨.store (.userByEmail address), .ok found⟩ →
      ∃ user, found = some user ∧ user.isDeleted = true
  byPhone : ∀ number found, former.phone = some number →
    e = ⟨.store (.userByPhone number), .ok found⟩ →
      ∃ user, found = some user ∧ user.isDeleted = true
  byToken : ∀ token row, e = ⟨.store (.sessionByToken token), .ok (some row)⟩ →
    row.userId = former.id ∨ old.map (·.id) = some row.id → old = some row

theorem KeptOut.avoids {start : World} {ended : Prop} {act : Act}
    (h : KeptOut s former ended start (w.perform act).2) :
    Avoids (start.store.rowFor former.id) former (w.event act) := by
  obtain ⟨stored, hs, hdeleted, hid, hcode, hemail, hphone⟩ := h.outOfService.stored
  have hu : (w.perform act).2.store.Unique := h.ledger.unique
  refine ⟨fun user hshown hservice => ?_, fun address found hformer he => ?_,
    fun number found hformer he => ?_, fun token row he hrow => ?_⟩
  · have hm : user ∈ (w.perform act).2.store.users := mem_of_shown hshown
    have hne : user ≠ stored := by
      rintro rfl
      rw [hdeleted] at hservice
      cases hservice
    exact ⟨fun hi => hne (hu.eq_of_id hm hs (hi.trans hid.symm)),
      fun hc => hne (hu.eq_of_idCode hm hs (hc.trans hcode.symm))⟩
  · obtain rfl : act = .store (.userByEmail address) := congrArg Event.act he
    have hfound : w.store.users.find? (·.email == some address) = found :=
      Except.ok.inj (eq_of_heq (Event.mk.inj he).2)
    have hsame : w.store.users.find? (·.email == some address) = some stored :=
      Store.Memory.find?_of_nodup_filterMap hu.emails hs (hemail.trans hformer)
    exact ⟨stored, hfound.symm.trans hsame, hdeleted⟩
  · obtain rfl : act = .store (.userByPhone number) := congrArg Event.act he
    have hfound : w.store.users.find? (·.phone == some number) = found :=
      Except.ok.inj (eq_of_heq (Event.mk.inj he).2)
    have hsame : w.store.users.find? (·.phone == some number) = some stored :=
      Store.Memory.find?_of_nodup_filterMap hu.phones hs (hphone.trans hformer)
    exact ⟨stored, hfound.symm.trans hsame, hdeleted⟩
  · obtain rfl : act = .store (.sessionByToken token) := congrArg Event.act he
    have hfound : w.store.sessionByToken token = some row :=
      Except.ok.inj (eq_of_heq (Event.mk.inj he).2)
    exact h.row.found h.ledger.rows hfound hrow

section
variable {k : Call} {past : List Event} {act : Act} {user : User} {row : SessionRow}
  {old : Option SessionRow}

theorem InService.others (h : InService past user) (havoids : ∀ e ∈ past, Avoids old former e) :
    user.id ≠ former.id ∧ user.idCode ≠ former.idCode := by
  obtain ⟨hservice, e, he, hshown⟩ := h
  exact (havoids e he).others user hshown hservice

/-- Who ends the session of an account that is out of service has the token in its row. -/
theorem MayEnd.logsOut (h : MayEnd k past row) (hconfirmed : ∀ e ∈ past, Confirmed s P store e)
    (havoids : ∀ e ∈ past, Avoids old former e)
    (hrow : row.userId = former.id ∨ old.map (·.id) = some row.id) : LogsOut old k := by
  obtain ⟨token, hk, hfound⟩ := h
  obtain ⟨rfl, -, -⟩ := (hconfirmed _ hfound).row token row rfl
  exact ⟨row, (havoids _ hfound).byToken _ row rfl hrow, hk⟩

/-- A call that avoids an account does not send a code to it. -/
theorem not_writesTo_of_avoids (havoids : ∀ e ∈ past, Avoids old former e)
    (ha : Permitted s k past act) : ¬ WritesTo former act := by
  intro hwrites
  cases act with
  | mail address code =>
    obtain ⟨user, hservice, he⟩ := ha
    obtain ⟨found, hfound, hdeleted⟩ := (havoids _ he).byEmail address _ hwrites rfl
    obtain rfl := Option.some.inj hfound
    rw [hservice] at hdeleted
    cases hdeleted
  | text number message =>
    obtain ⟨found, hservice, he⟩ := ha
    obtain ⟨user, hfound, hdeleted⟩ := (havoids _ he).byPhone number _ hwrites rfl
    rw [hservice user hfound] at hdeleted
    cases hdeleted
  | _ => exact hwrites.elim

theorem rowStays_act {ended : Prop} (hl : Ledger s P w.store)
    (hstays : RowStays ended old (w.store.rowFor former.id))
    (hconfirmed : ∀ e ∈ past, Confirmed s P w.store e) (havoids : ∀ e ∈ past, Avoids old former e)
    (ha : Permitted s k past act) : RowStays (LogsOut old k) (w.store.rowFor former.id)
      ((w.perform act).2.store.rowFor former.id) := by
  cases act with
  | store st =>
    cases st with
    | createUser new =>
      change RowStays _ _ ((w.store.createUser new w.instant).2.rowFor former.id)
      rcases Store.Memory.createUser_cases w.store new w.instant with he | ⟨he, -⟩
      · rw [he]; exact .inl rfl
      · rw [he]; exact .inl rfl
    | createSession new =>
      obtain ⟨user, m, hbacks, -, hid, -⟩ := ha
      have hne : user.id ≠ former.id := (hbacks.inService.others havoids).1
      exact .inl (Store.Memory.rowFor_createSession_ne hl.rows (hid ▸ hne.symm))
    | updateSession update =>
      obtain ⟨user, m, hbacks, -, hid, -⟩ := ha
      have hne : user.id ≠ former.id := (hbacks.inService.others havoids).1
      exact .inl (Store.Memory.rowFor_updateSession_ne (hid ▸ hne.symm))
    | endSession id endedAt =>
      obtain ⟨row, hends, rfl⟩ := ha
      have hid := hstays.id
      change RowStays _ _ ((w.store.endSession row.id endedAt).rowFor former.id)
      rw [Store.Memory.endSession_eq_map hl.rows,
        Store.Memory.rowFor_map ((Store.Memory.inPlace_close endedAt).ite _)]
      cases hcurrent : w.store.rowFor former.id with
      | none => exact .inl rfl
      | some current =>
        by_cases hsame : current.id = row.id
        · rw [hcurrent, Option.map_some, hsame] at hid
          exact .inr ⟨hends.logsOut hconfirmed havoids (.inr hid.symm), endedAt, by simp [hsame]⟩
        · exact .inl (by simp [hsame])
    | _ => exact .inl rfl
  | _ => rw [w.perform_store_eq (by intro st hst; cases hst)]; exact .inl rfl

theorem keyStays_act (hk : w.cache.Keyed) (hl : Ledger s P w.store) (hf : w.store.Known former)
    (hconfirmed : ∀ e ∈ past, Confirmed s P w.store e) (havoids : ∀ e ∈ past, Avoids old former e)
    (ha : Permitted s k past act) : KeyStays (LogsOut old k) (Sessions.key former.idCode) w.millis
      w.cache (w.perform act).2.cache := by
  cases act with
  | cache cmd =>
    obtain ⟨lost, calls, answer, cache, he, hcases⟩ := w.performCache_cases cmd
    rw [he]
    rcases hcases with ⟨e, -, rfl⟩ | ⟨-, -, rfl⟩ | ⟨-, rfl⟩
    · exact .inl fun _ _ => rfl
    · exact .inl fun _ _ => rfl
    by_cases hkey : cmd.key? = some (Sessions.key former.idCode)
    · rcases ha _ hkey with ⟨value, lifetime, user, -, hservice, hcode⟩ |
        ⟨row, user, rfl, hends, hfound, hcode⟩
      · exact absurd hcode (hservice.others havoids).2
      · have huser : user.id = row.userId := (hconfirmed _ hfound).number _ _ rfl
        have hknown : w.store.Known user := (hconfirmed _ hfound).user user rfl
        have hrow : row.userId = former.id := by
          rw [← huser, hl.unique.id_of_idCode hknown hf hcode]
        refine .inr ⟨hends.logsOut hconfirmed havoids (.inl hrow), fun later _ => ?_⟩
        simp [Cache.Memory.perform, Cache.Memory.read?]
    · exact .inl fun later hle => Cache.Memory.read?_perform_of_key_ne hk hkey hle
  | _ => rw [w.perform_cache_eq (by intro cmd hcmd; cases hcmd)]; exact .inl fun _ _ => rfl

end

/-! ## Runs -/

theorem KeptOut.act {ended : Prop} {k : Call} {past : List Event} {act : Act}
    (h : KeptOut s former ended w w') (hk : LogsOut (w.store.rowFor former.id) k → ended)
    (hconfirmed : ∀ e ∈ past, Confirmed s (fun _ => True) w'.store e)
    (havoids : ∀ e ∈ past, Avoids (w.store.rowFor former.id) former e)
    (ha : Permitted s k past act) : KeptOut s former ended w (w'.perform act).2 := by
  have hrow := rowStays_act h.ledger h.row hconfirmed havoids ha
  have hkey := keyStays_act h.keyed h.ledger h.outOfService.known hconfirmed havoids ha
  refine ⟨h.ledger.act hconfirmed ha, w'.perform_keyed h.keyed act, h.outOfService.act act, ?_, ?_⟩
  · exact h.row.trans (hrow.imp id fun hends => ⟨hk hends.1, hends.2⟩)
  · rw [w'.perform_millis]
    exact h.key.trans (hkey.imp id fun hends => ⟨hk hends.1, hends.2⟩) (Int.le_refl _)

theorem KeptOut.elapses {ended : Prop} {later : World} (h : KeptOut s former ended w w')
    (ht : Elapses w' later) : KeptOut s former ended w later := by
  have hrow : later.store.rowFor former.id = w'.store.rowFor former.id := by
    rw [Store.Memory.rowFor, ht.sessions]; rfl
  refine ⟨h.ledger.turns ht.toTurns, ht.cache ▸ h.keyed, h.outOfService.turns ht.toTurns,
    hrow ▸ h.row, ?_⟩
  rw [ht.cache]
  exact h.key.trans (.inl fun _ _ => rfl) ht.forward

/-- The email and the phone of an account that is out of service are nobody else's. -/
theorem KeptOut.sole {ended : Prop} {user : User} (h : KeptOut s former ended w w')
    (hm : user ∈ w'.store.users) (hsame : (former.email.isSome = true ∧ user.email = former.email) ∨
      (former.phone.isSome = true ∧ user.phone = former.phone)) : user.id = former.id := by
  obtain ⟨stored, hs, -, hid, -, hemail, hphone⟩ := h.outOfService.stored
  rcases hsame with ⟨hsome, he⟩ | ⟨hsome, he⟩
  · obtain ⟨email, hformer⟩ := Option.isSome_iff_exists.1 hsome
    rw [h.ledger.unique.eq_of_email hm hs (he.trans hformer) (hemail.trans hformer), hid]
  · obtain ⟨phone, hformer⟩ := Option.isSome_iff_exists.1 hsome
    rw [h.ledger.unique.eq_of_phone hm hs (he.trans hformer) (hphone.trans hformer), hid]

/-- A pair of which neither token is one of an account. -/
def NotFor (s : Setup) (user : User) (pair : TokenPair) : Prop :=
  ∀ m : Mint, Token.IsInt64 m.startedAt →
    pair.access ≠ (m.pair s user).access ∧ pair.refresh ≠ (m.pair s user).refresh

theorem notFor_of_ne {user : User} {m : Mint} (hne : user.idCode ≠ former.idCode)
    (hm : Token.IsInt64 m.startedAt) : NotFor s former (m.pair s user) := by
  intro other hother
  refine ⟨fun haccess => hne ?_, fun hrefresh => hne ?_⟩
  · exact Token.idCode_of_issue s.suite.sign s.settings.token .access (a := m.snapshot user)
      (b := other.snapshot former) hm hother haccess
  · exact Token.idCode_of_issue s.suite.sign s.settings.token .refresh (a := m.snapshot user)
      (b := other.snapshot former) hm hother hrefresh

/-- What holds of an account that was out of service in a world, when calls have run from there. -/
structure StaysOut (s : Setup) (former : User) (w : World) (now : System Call.Value) : Prop where
  /-- The pairs that are handed out were made for other accounts. -/
  others : ∀ t ∈ now.threads, ∀ result pair, t.outcome? = some result →
    t.call.pair? result = some pair → NotFor s former pair ∧
      ∃ user m, now.world.store.Known user ∧ user.id ≠ former.id ∧ pair = Mint.pair m s user
  /-- Only a logout with the token in the row of the account ends its session. -/
  row : RowStays (∃ t ∈ now.threads, LogsOut (w.store.rowFor former.id) t.call)
    (w.store.rowFor former.id) (now.world.store.rowFor former.id)
  /-- Only such a logout drops its session key. -/
  key : KeyStays (∃ t ∈ now.threads, LogsOut (w.store.rowFor former.id) t.call)
    (Sessions.key former.idCode) now.world.millis w.cache now.world.cache
  /-- Nobody else gets its email or its phone. -/
  sole : ∀ user ∈ now.world.store.users,
    (former.email.isSome = true ∧ user.email = former.email) ∨
      (former.phone.isSome = true ∧ user.phone = former.phone) → user.id = former.id
  /-- No code is sent to its email or its phone. -/
  silent : ∀ t ∈ now.threads, ∀ e ∈ t.past, ¬ WritesTo former e.act

section
variable {start now : System Call.Value}

/-- An account that is out of service is shut out, and the calls avoid it. -/
theorem keptOut_of_reaches (hw : Reachable s start.world) (hc : Fresh s start)
    (hu : former ∈ start.world.store.users) (hd : former.isDeleted = true)
    (hr : System.Reaches Elapses start now) :
    KeptOut s former (∃ t ∈ start.threads, LogsOut (start.world.store.rowFor former.id) t.call)
        start.world now.world ∧
      ∀ t ∈ now.threads, t.Follows Faithful (Permitted s) (Closes s) ∧
        ∀ e ∈ t.past, Confirmed s (fun _ => True) now.world.store e ∧
          Avoids (start.world.store.rowFor former.id) former e := by
  refine hr.courses (W := KeptOut s former _ start.world)
    (F := fun w e => Confirmed s (fun _ => True) w.store e ∧
      Avoids (start.world.store.rowFor former.id) former e) (.refl hw hu hd _)
    (fun t ht => ?_) ?_ ?_
  · obtain ⟨k, rfl⟩ := hc t ht
    exact ⟨flow_permitted s k, fun e he => absurd he List.not_mem_nil⟩
  · intro w k past act hcall hout hpast ha
    have hlogout (hk : LogsOut (start.world.store.rowFor former.id) k) :
        ∃ t ∈ start.threads, LogsOut (start.world.store.rowFor former.id) t.call := by
      obtain ⟨t, ht, rfl⟩ := hcall
      exact ⟨t, ht, hk⟩
    have hnext := hout.act hlogout (fun e he => (hpast e he).1) (fun e he => (hpast e he).2) ha
    exact ⟨hnext, faithful_event w act, ⟨hout.ledger.confirmed trivial act, hnext.avoids⟩,
      fun e he => ⟨he.1.mono fun _ hu => known_perform hu act, he.2⟩⟩
  · intro w w' ht hout
    exact ⟨hout.elapses ht, fun e he => ⟨he.1.mono fun _ hu => ht.toTurns.known hu, he.2⟩⟩

/-- Whoever is out of service stays out. -/
theorem stays_out (hw : Reachable s start.world) (hc : Fresh s start)
    (hu : former ∈ start.world.store.users) (hd : former.isDeleted = true)
    (hr : System.Reaches Elapses start now) : StaysOut s former start.world now := by
  obtain ⟨hout, hthreads⟩ := keptOut_of_reaches hw hc hu hd hr
  obtain ⟨-, hkeeps⟩ := keeps_of_reaches (fun _ _ ht => ⟨ht.toTurns, trivial⟩) hc hw.ledger
    trivial hr
  have hlogout := hr.exists_call (p := LogsOut (start.world.store.rowFor former.id))
  constructor
  case others =>
    intro t ht result pair hresult hpair
    obtain ⟨hcourse, hpast⟩ := hthreads t ht
    have hcloses : Closes s t.call t.past result := hcourse.end hresult
    obtain ⟨user, m, hbacks, rfl, -⟩ := hcloses.handed hpair
    obtain ⟨-, e, he, hshown⟩ := hbacks.inService
    obtain ⟨hid, hcode⟩ := hbacks.inService.others fun e he => (hpast e he).2
    have hstarted : Token.IsInt64 m.startedAt := ((hpast _ hbacks.started).1.clock _ rfl).1
    exact ⟨notFor_of_ne hcode hstarted, user, m, (hpast e he).1.user user hshown, hid, rfl⟩
  case row => exact hout.row.imp id fun hrow => ⟨hlogout hrow.1, hrow.2⟩
  case key => exact hout.key.imp id fun hkey => ⟨hlogout hkey.1, hkey.2⟩
  case sole =>
    intro user hm hsame
    exact hout.sole hm hsame
  case silent =>
    intro t ht e he
    obtain ⟨pre, post, hpast⟩ := List.append_of_mem he
    have hallowed : Permitted s t.call pre e.act := (hkeeps t ht).allowed pre e post hpast
    refine not_writesTo_of_avoids (fun x hx => ((hthreads t ht).2 x ?_).2) hallowed
    rw [hpast]
    exact List.mem_append_left _ hx

end

/-- A world in which an account is out of service. -/
def retired (w : World) (id moment : Int) : World :=
  { w with store := w.store.retireUser id ⟨moment, 0⟩ }

theorem turns_retired (w : World) (id moment : Int) : Turns w (retired w id moment) :=
  ⟨rfl, .inr ⟨id, ⟨moment, 0⟩, rfl⟩⟩

/-- A newcomer has signed in, and is taken out of service. The newcomer tries to get back in. -/
def comeback : System Call.Value where
  world := retired (newcomers.schedule bothFindFree).world 1 2000
  threads := [.redirect (Sample.uuid 9).text, .callback (Sample.uuid 9).text "three" "10.0.0.3",
    .device "token" "10.0.0.3", .sendCode ⟨.email, some "ada@example.org", none, none⟩,
    .logout ""].map (Thread.start (Call.flow Sample.setup))

/-- Behind the redirection, the calls act in turns. -/
def inTurns : List Nat := [0, 0] ++ (List.replicate 9 [1, 2, 3, 4]).flatten

theorem reachable_comeback : Reachable Sample.setup comeback.world := by
  have hreachable : Reachable Sample.setup (newcomers.schedule bothFindFree).world :=
    ⟨newcomers, _, opens_newcomers, System.reaches_schedule _ _ _, rfl⟩
  exact hreachable.turns (turns_retired _ 1 2000)

theorem stays_out_comeback : ∃ former ∈ comeback.world.store.users, former.isDeleted = true ∧
    StaysOut Sample.setup former comeback.world (comeback.schedule inTurns) ∧
      (comeback.schedule inTurns).threads.map (·.outcome?.isSome)
        = [true, true, true, true, true] ∧
      (comeback.schedule inTurns).threads.map (·.succeeded)
        = [true, false, false, false, false] := by
  have hout : comeback.world.store.users.any (·.isDeleted) = true := by decide +kernel
  have hfresh : Fresh Sample.setup comeback := fresh_of_calls rfl
  obtain ⟨former, hu, hd⟩ := List.any_eq_true.1 hout
  have hstays : StaysOut Sample.setup former comeback.world (comeback.schedule inTurns) :=
    stays_out reachable_comeback hfresh hu hd (System.reaches_schedule _ _ _)
  exact ⟨former, hu, hd, hstays, by decide +kernel, by decide +kernel⟩

end SignOn.Account
