import SignOn.Proofs.Account.WriteTargets
import SignOn.Proofs.Account.Exclusion
import SignOn.Proofs.Account.Rows
import SignOn.Proofs.Session.Validity
/-!
Accounts are isolated from one another. All accounts share one table of rows and one cache, but a
call writes only for the account that it is meant for, a row belongs to one account, and a token
tells whose it is. So a call that acts for one account leaves the record and the row of every other
one as they are, wherever it fails, and whatever tokens were ever issued to another one are judged
as if the call had not been made: `isolated`.
-/

namespace SignOn.Account

open SignOn.Keyspace SignOn.Session

variable {s : Setup} {P : Int → Prop} {store : Store.Memory} {w w' : World} {k : Call}
  {past later : List Event} {user other : User} {row : SessionRow} {token : String}

/-- Between the acts of calls, the clock does not go back. Whatever lies outside may change. -/
structure Idles (w w' : World) : Prop where
  cache : w'.cache = w.cache
  store : w'.store = w.store
  forward : w.millis ≤ w'.millis

theorem Idles.turns (h : Idles w w') : Turns w w' := ⟨h.cache, .inl h.store⟩

/-! ## Tokens of an account -/

/-- A token of a pair that was made for an account at some time. -/
def IssuedTo (s : Setup) (user : User) (token : String) : Prop :=
  ∃ m : Mint, Token.IsInt64 m.startedAt ∧
    (token = (m.pair s user).access ∨ token = (m.pair s user).refresh)

theorem IssuedTo.exists_issue (h : IssuedTo s user token) : ∃ (m : Mint) (kind : Token.Kind)
    (id : Uuid), Token.IsInt64 m.startedAt ∧ token
      = Token.issue s.suite.sign s.settings.token kind (m.snapshot user) m.issuedAt id := by
  obtain ⟨m, hm, htoken | htoken⟩ := h
  · exact ⟨m, .access, m.accessId, hm, htoken⟩
  · exact ⟨m, .refresh, m.refreshId, hm, htoken⟩

theorem IssuedTo.ne_empty (h : IssuedTo s user token) : token ≠ "" := by
  obtain ⟨m, kind, id, -, rfl⟩ := h.exists_issue
  exact Token.issue_ne_empty _ _ kind _ _ id

/-- A token tells whose it is. -/
theorem IssuedTo.idCode_eq (h : IssuedTo s user token) (h' : IssuedTo s other token) :
    user.idCode = other.idCode := by
  obtain ⟨m, kind, id, hm, htoken⟩ := h.exists_issue
  obtain ⟨m', kind', id', hm', htoken'⟩ := h'.exists_issue
  exact Token.idCode_of_kinds s.suite.sign s.settings.token kind kind' (a := m.snapshot user)
    (b := m'.snapshot other) hm hm' (htoken.symm.trans htoken')

/-- If a token is valid, it names the account to which it was issued. -/
theorem IssuedTo.idCode_of_validate (h : IssuedTo s user token) {kind : Token.Kind} {n : Int}
    {snapshot : Snapshot}
    (hv : Token.validate s.suite.sign s.settings.token kind n token = .ok snapshot) :
    snapshot.idCode = user.idCode := by
  obtain ⟨m, kind', id, hm, rfl⟩ := h.exists_issue
  have hm' : Token.IsInt64 (m.snapshot user).startedAt := hm
  exact Token.idCode_of_validate s.suite.sign s.settings.token kind kind' hm' hv

theorem IssuedTo.of_registered (h : IssuedTo s user token)
    (hsame : user.registered = other.registered) : IssuedTo s other token := by
  obtain ⟨m, hm, htoken⟩ := h
  have hpair : m.pair s user.registered = m.pair s other.registered := congrArg (m.pair s) hsame
  rw [show m.pair s user = m.pair s other from hpair] at htoken
  exact ⟨m, hm, htoken⟩

theorem Carries.issuedTo {m : Mint} (h : Carries s P user m row) :
    IssuedTo s user row.refreshToken := ⟨m, h.startedAt, .inr h.token⟩

/-- Accounts of one number were registered alike. -/
theorem registered_of_id (h : store.Unique) (ha : store.Known user) (hb : store.Known other)
    (hid : user.id = other.id) : user.registered = other.registered := by
  obtain ⟨a, hma, hea⟩ := List.mem_map.1 ha
  obtain ⟨b, hmb, heb⟩ := List.mem_map.1 hb
  have haid : a.id = user.id := (User.eq_of_registered hea).1
  have hbid : b.id = other.id := (User.eq_of_registered heb).1
  rw [← hea, ← heb, h.eq_of_id hma hmb (haid.trans (hid.trans hbid.symm))]

/-- A token is found in the row of the account to which it was issued, if anywhere. -/
theorem Ledger.sessionByToken_of_issuedTo (h : Ledger s P store) (hk : store.Known user)
    (ht : IssuedTo s user token) : store.sessionByToken token
      = (store.rowFor user.id).filter (·.refreshToken == token) := by
  cases hfound : store.sessionByToken token with
  | some row =>
    obtain ⟨hmem, rfl, hne⟩ := Store.Memory.mem_of_sessionByToken hfound
    have hrow := h.rows.rowFor_of_mem hmem
    obtain ⟨owner, m, ho, hid, hm⟩ := (h.belongs _ row hrow).carries hne
    have howner : owner.id = user.id := h.unique.id_of_idCode ho hk (hm.issuedTo.idCode_eq ht)
    rw [← howner, ← hid, hrow, Option.filter_some, if_pos (beq_self_eq_true _)]
  | none =>
    -- Had the row of the account the token, it would have been found.
    symm
    rw [Option.filter_eq_none_iff]
    intro row hrow htoken
    obtain ⟨found, hsome⟩ := Store.Memory.exists_sessionByToken
      (Store.Memory.mem_of_rowFor hrow).1 (by simpa using htoken) ht.ne_empty
    rw [hfound] at hsome
    cases hsome

/-! ## For whom a call acts -/

/-- A call acts for an account: it has created it, or it signs in with its email or its phone, or
with an email of its for which the provider vouches, or it has one of its tokens. -/
def ActsFor (s : Setup) (past : List Event) (user : User) : Call → Prop
  | .signUp .. => ∃ new made, Registers past new made ∧ made.id = user.id
  | .complete .. => ∃ new made, Registers past new made ∧ made.id = user.id
  | .signIn request _ => Names request user
  | .refresh token _ => IssuedTo s user token
  | .logout token => IssuedTo s user token
  | .callback .. => Vouched past user
  | .device .. => Vouched past user
  | .redirect _ => False
  | .sendCode _ => False

theorem ActsFor.mono (h : ActsFor s past user k) (hsub : past ⊆ later) :
    ActsFor s later user k := by
  cases k with
  | signUp request ip =>
    obtain ⟨new, made, hnew, hid⟩ := h
    exact ⟨new, made, hsub hnew, hid⟩
  | complete request ip =>
    obtain ⟨new, made, hnew, hid⟩ := h
    exact ⟨new, made, hsub hnew, hid⟩
  | callback state code ip => exact Vouched.mono h hsub
  | device token ip => exact Vouched.mono h hsub
  | _ => exact h

section
variable (hconfirmed : ∀ e ∈ past, Confirmed s P store e) (hu : store.Unique)
  (hk : store.Known user)
include hconfirmed hu hk

/-- A row that was found by a token is that of the account to which the token was issued. -/
theorem issuedTo_of_found
    (hfound : ⟨.store (.sessionByToken token), .ok (some row)⟩ ∈ past)
    (hid : row.userId = user.id) : IssuedTo s user token := by
  obtain ⟨rfl, hne, hbelongs⟩ := (hconfirmed _ hfound).row _ _ rfl
  obtain ⟨owner, m, ho, howner, hm⟩ := hbelongs.carries hne
  exact hm.issuedTo.of_registered (registered_of_id hu ho hk (howner.symm.trans hid))

/-- Who ends the session of an account acts for it. -/
theorem MayEnd.actsFor (h : MayEnd k past row) (hid : row.userId = user.id) :
    ActsFor s past user k := by
  obtain ⟨token, rfl, hfound⟩ := h
  exact issuedTo_of_found hconfirmed hu hk hfound hid

/-- Who writes the session of an account acts for it. -/
theorem Target.actsFor (h : Target s k past other) (hid : other.id = user.id) :
    ActsFor s past user k := by
  obtain ⟨⟨e, he, hshown⟩, hmeant⟩ := h
  have hknown : store.Known other := (hconfirmed e he).user other hshown
  have hsame := registered_of_id hu hknown hk hid
  obtain ⟨-, hcode, hemail, hphone⟩ := User.eq_of_registered hsame
  cases k with
  | signUp request ip =>
    obtain ⟨new, hnew⟩ := hmeant
    exact ⟨new, other, hnew, hid⟩
  | complete request ip =>
    obtain ⟨new, hnew⟩ := hmeant
    exact ⟨new, other, hnew, hid⟩
  | signIn request ip =>
    unfold ActsFor Names
    rw [← hemail, ← hphone]
    exact hmeant
  | refresh token ip =>
    obtain ⟨row, now, snapshot, hrow, hv, hfound⟩ := hmeant token ip rfl
    obtain ⟨rfl, hne, hbelongs⟩ := (hconfirmed _ hrow).row _ _ rfl
    obtain ⟨owner, m, ho, howner, hm⟩ := hbelongs.carries hne
    have hnamed : other.idCode = snapshot.idCode := (hconfirmed _ hfound).code _ _ rfl
    have hcodes : owner.idCode = other.idCode :=
      (hm.issuedTo.idCode_of_validate hv).symm.trans hnamed.symm
    refine issuedTo_of_found hconfirmed hu hk hrow (howner.trans ?_)
    rw [hu.id_of_idCode ho hknown hcodes, hid]
  | callback state code ip =>
    obtain ⟨token, profile, he, hprofile⟩ := hmeant
    exact ⟨token, profile, he, hemail ▸ hprofile⟩
  | device token ip =>
    obtain ⟨token, profile, he, hprofile⟩ := hmeant
    exact ⟨token, profile, he, hemail ▸ hprofile⟩
  | _ => exact hmeant.elim

end

/-! ## What a call leaves -/

/-- A row that a call has found by a token is that of an account, if it has the number of the row
that the account had. -/
def Sees (old : Option SessionRow) (user : User) (e : Event) : Prop :=
  ∀ token row, e = ⟨.store (.sessionByToken token), .ok (some row)⟩ →
    old.map (·.id) = some row.id → row.userId = user.id

/-- What holds of an account in a later world if no call has acted for it. -/
structure Spared (s : Setup) (user : User) (w w' : World) : Prop where
  ledger : Ledger s (fun _ => True) w'.store
  keyed : w'.cache.Keyed
  stored : user ∈ w'.store.users
  row : w'.store.rowFor user.id = w.store.rowFor user.id
  key : ∀ later, w'.millis ≤ later →
    w'.cache.read? later (Sessions.key user.idCode) = w.cache.read? later (Sessions.key user.idCode)

theorem Spared.refl (hw : Reachable s w) (hu : user ∈ w.store.users) : Spared s user w w :=
  ⟨hw.ledger, hw.keyed, hu, rfl, fun _ _ => rfl⟩

/-- What a call finds by a token is judged by the rows as they are then. -/
theorem Spared.sees (h : Spared s user w w') (act : Act) :
    Sees (w.store.rowFor user.id) user (w'.event act) := by
  intro token row he hid
  obtain rfl : act = .store (.sessionByToken token) := congrArg Event.act he
  have hfound : w'.store.sessionByToken token = some row :=
    Except.ok.inj (eq_of_heq (Event.mk.inj he).2)
  rw [← h.row] at hid
  obtain ⟨current, hcurrent, hsame⟩ := Option.map_eq_some_iff.1 hid
  obtain ⟨hmem, huser⟩ := Store.Memory.mem_of_rowFor hcurrent
  have hrow : row = current := h.ledger.rows.eq_of_id
    (Store.Memory.mem_of_sessionByToken hfound).1 hmem hsame.symm
  rw [hrow, huser]

/-- An account that is stored stays so, with its record. -/
theorem mem_users_perform (hm : user ∈ w.store.users) (act : Act) :
    user ∈ (w.perform act).2.store.users := by
  rcases users_perform w act with he | ⟨-, new, he⟩
  · rw [he]; exact hm
  · rw [he]; exact List.mem_append_left _ hm

section
variable {act : Act} (h : Spared s user w w') (hnot : ¬ ActsFor s past user k)
  (hconfirmed : ∀ e ∈ past, Confirmed s (fun _ => True) w'.store e) (hact : Permitted s k past act)
  (haim : WritesTarget s k past act)
include h hnot hconfirmed hact haim

/-- A call that does not act for an account leaves its row. -/
theorem Spared.rowFor_perform (hsees : ∀ e ∈ past, Sees (w.store.rowFor user.id) user e) :
    (w'.perform act).2.store.rowFor user.id = w'.store.rowFor user.id := by
  have hk := Store.Memory.known_of_mem h.stored
  have hu := h.ledger.unique
  have hwrites {userId : Int} (ht : ∃ other, Target s k past other ∧ userId = other.id) :
      user.id ≠ userId := by
    rintro rfl
    obtain ⟨other, ht, hid⟩ := ht
    exact hnot (ht.actsFor hconfirmed hu hk hid.symm)
  cases act with
  | store st =>
    cases st with
    | createUser new =>
      change (w'.store.createUser new w'.instant).2.rowFor user.id = _
      rcases Store.Memory.createUser_cases w'.store new w'.instant with he | ⟨he, -⟩
      · rw [he]
      · rw [he]; rfl
    | createSession new =>
      exact Store.Memory.rowFor_createSession_ne h.ledger.rows (hwrites haim)
    | updateSession update => exact Store.Memory.rowFor_updateSession_ne (hwrites haim)
    | endSession id endedAt =>
      obtain ⟨row, hends, rfl⟩ := hact
      change (w'.store.endSession row.id endedAt).rowFor user.id = _
      rw [Store.Memory.endSession_eq_map h.ledger.rows,
        Store.Memory.rowFor_map ((Store.Memory.inPlace_close endedAt).ite _)]
      cases hcurrent : w'.store.rowFor user.id with
      | none => rfl
      | some current =>
        -- The row of the account has kept its number since the logout found its own by the token.
        have hne : current.id ≠ row.id := by
          intro hsame
          refine hnot (hends.actsFor hconfirmed hu hk ?_)
          obtain ⟨token, -, hfound⟩ := hends
          refine hsees _ hfound token row rfl ?_
          rw [← h.row, hcurrent, Option.map_some, hsame]
        simp [hne]
    | _ => rfl
  | _ => rw [w'.perform_store_eq (by intro st hst; cases hst)]

/-- A call that does not act for an account leaves its session key. -/
theorem Spared.read?_perform {later : Int} (hle : w'.millis ≤ later) :
    (w'.perform act).2.cache.read? later (Sessions.key user.idCode)
      = w'.cache.read? later (Sessions.key user.idCode) := by
  have hk := Store.Memory.known_of_mem h.stored
  have hu := h.ledger.unique
  cases act with
  | cache cmd =>
    obtain ⟨lost, calls, answer, cache, he, hcases⟩ := w'.performCache_cases cmd
    rw [he]
    rcases hcases with ⟨e, -, rfl⟩ | ⟨-, -, rfl⟩ | ⟨-, rfl⟩
    · rfl
    · rfl
    by_cases hkey : cmd.key? = some (Sessions.key user.idCode)
    · rcases hact _ hkey with ⟨value, lifetime, _, rfl, -⟩ | ⟨row, owner, rfl, hends, hfound, hcode⟩
      · obtain ⟨other, ht, hcode⟩ := haim _ rfl
        obtain ⟨e, hmem, hshown⟩ := ht.seen
        have hknown := (hconfirmed e hmem).user other hshown
        exact absurd (ht.actsFor hconfirmed hu hk (hu.id_of_idCode hknown hk hcode)) hnot
      · have howner : owner.id = row.userId := (hconfirmed _ hfound).number _ _ rfl
        have hknown := (hconfirmed _ hfound).user owner rfl
        have hid : owner.id = user.id := hu.id_of_idCode hknown hk hcode
        exact absurd (hends.actsFor hconfirmed hu hk (howner.symm.trans hid)) hnot
    · exact Cache.Memory.read?_perform_of_key_ne h.keyed hkey hle
  | _ => rw [w'.perform_cache_eq (by intro cmd hcmd; cases hcmd)]

theorem Spared.perform (hsees : ∀ e ∈ past, Sees (w.store.rowFor user.id) user e) :
    Spared s user w (w'.perform act).2 where
  ledger := h.ledger.act hconfirmed hact
  keyed := w'.perform_keyed h.keyed act
  stored := mem_users_perform h.stored act
  row := (h.rowFor_perform hnot hconfirmed hact haim hsees).trans h.row
  key later hle := by
    rw [w'.perform_millis] at hle
    exact (h.read?_perform hnot hconfirmed hact haim hle).trans (h.key later hle)

end

theorem Spared.idles {later : World} (h : Spared s user w w') (hi : Idles w' later) :
    Spared s user w later := by
  refine ⟨h.ledger.turns hi.turns, hi.cache ▸ h.keyed, hi.store ▸ h.stored, hi.store ▸ h.row, ?_⟩
  rw [hi.cache]
  exact fun moment hm => h.key moment (Int.le_trans hi.forward hm)

/-! ## Runs -/

section
variable {start now : System Call.Value}

theorem mem_users_of_reaches (hr : System.Reaches Idles start now)
    (hm : user ∈ start.world.store.users) : user ∈ now.world.store.users :=
  hr.world (W := fun w => user ∈ w.store.users) hm (fun _ act hm => mem_users_perform hm act)
    fun _ _ hi hm => hi.store ▸ hm

/-- Calls keep to their aims. -/
theorem writesTarget_of_reaches (hc : Fresh s start) (hr : System.Reaches Idles start now) :
    ∀ t ∈ now.threads, t.Follows Truthful (WritesTarget s) fun _ _ _ => True := by
  refine (hr.follows (W := fun _ => True) trivial (fun t ht => ?_)
    (fun w _ _ act _ _ => ⟨trivial, truthful_event w act⟩) fun _ _ _ _ => trivial).2
  obtain ⟨k, rfl⟩ := hc t ht
  exact flow_writesTarget s k

theorem keeps_of_idling (hw : Reachable s start.world) (hc : Fresh s start)
    (hr : System.Reaches Idles start now) : Ledger s (fun _ => True) now.world.store ∧
      ∀ t ∈ now.threads, Keeps s (fun _ => True) now.world.store t :=
  keeps_of_reaches (fun _ _ hi => ⟨hi.turns, trivial⟩) hc hw.ledger trivial hr

/-- As long as no call acts for an account, it is spared. -/
theorem spared_of_reaches (hw : Reachable s start.world) (hc : Fresh s start)
    (hu : user ∈ start.world.store.users) (hr : System.Reaches Idles start now)
    (hnot : ∀ t ∈ now.threads, ¬ ActsFor s t.past user t.call) :
    Spared s user start.world now.world ∧
      ∀ t ∈ now.threads, ∀ e ∈ t.past, Sees (start.world.store.rowFor user.id) user e := by
  induction hr with
  | refl =>
    refine ⟨.refl hw hu, fun t ht e he => ?_⟩
    obtain ⟨k, rfl⟩ := hc t ht
    cases he
  | @tail mid _ hr hstep ih =>
    cases hstep with
    | @act _ i k past act next hi =>
      have hmem := List.mem_of_getElem? hi
      -- A call that acts for the account before the act does so after it.
      have hbefore : ∀ t ∈ mid.threads, ¬ ActsFor s t.past user t.call := by
        intro t ht hacts
        obtain ⟨t', ht', hcall, hpast⟩ := System.exists_after hi ht
        exact hnot t' ht' (hcall ▸ hacts.mono hpast)
      obtain ⟨hspared, hsees⟩ := ih hbefore
      obtain ⟨-, hkeeps⟩ := keeps_of_idling hw hc hr
      have hcourse := (hkeeps _ hmem).course
      have htargets := writesTarget_of_reaches hc hr _ hmem
      have hnext := hspared.perform (hbefore _ hmem) (hkeeps _ hmem).confirmed hcourse.1 htargets.1
        (hsees _ hmem)
      refine ⟨hnext, fun t ht e he => ?_⟩
      rcases List.mem_or_eq_of_mem_set ht with ht | rfl
      · exact hsees t ht e he
      · rcases List.mem_append.1 he with he | he
        · exact hsees _ hmem e he
        · rw [List.mem_singleton] at he
          exact he ▸ hspared.sees act
    | drift hi =>
      obtain ⟨hspared, hsees⟩ := ih hnot
      exact ⟨hspared.idles hi, hsees⟩

end

/-! ## Tokens that are shown later -/

/-- Worlds that answer alike to the tokens of an account, from the second world on. -/
structure Concur (s : Setup) (user : User) (w w' : World) : Prop where
  keyed : w.cache.Keyed
  keyed' : w'.cache.Keyed
  found : ∀ token, IssuedTo s user token →
    w'.store.sessionByToken token = w.store.sessionByToken token
  key : ∀ later, w'.millis ≤ later →
    w'.cache.read? later (Sessions.key user.idCode) = w.cache.read? later (Sessions.key user.idCode)

theorem Spared.concur (h : Spared s user w w') (hw : Reachable s w) (hu : user ∈ w.store.users) :
    Concur s user w w' where
  keyed := hw.keyed
  keyed' := h.keyed
  found token ht := by
    have hbefore := hw.ledger.sessionByToken_of_issuedTo (Store.Memory.known_of_mem hu) ht
    have hafter := h.ledger.sessionByToken_of_issuedTo (Store.Memory.known_of_mem h.stored) ht
    rw [hafter, hbefore, h.row]
  key := h.key

section
variable {l : Showing} (h : Concur s user w w') (hle : w'.millis ≤ l.millis)
include h hle

theorem Concur.answer (hup : ∀ n, l.outside.cacheFails n = false) (ht : IssuedTo s user l.token) :
    l.answer s w' = l.answer s w := by
  refine Showing.answer_congr hup (h.found l.token ht) fun snapshot hv => ?_
  rw [ht.idCode_of_validate hv]
  exact h.key _ hle

/-- Whatever token is shown, nothing changes. -/
theorem Concur.shown :
    Concur s user ((l.flow s).run (l.world w)).2 ((l.flow s).run (l.world w')).2 := by
  obtain ⟨hstore, hread⟩ := run_of_looks (w := l.world w) (l.flow_looks s) h.keyed
  obtain ⟨hstore', hread'⟩ := run_of_looks (w := l.world w') (l.flow_looks s) h.keyed'
  refine ⟨Flow.run_keyed (w := l.world w) h.keyed _, Flow.run_keyed (w := l.world w') h.keyed' _,
    fun token ht => ?_, fun later hlater => ?_⟩
  · rw [hstore, hstore']
    exact h.found token ht
  · rw [Flow.run_millis] at hlater
    rw [hread _ later hlater, hread' _ later hlater]
    exact h.key later (Int.le_trans hle hlater)

end

/-- Whatever tokens were shown before, those of the account are answered alike. -/
theorem Concur.answers (h : Concur s user w w') {before : List Showing} {l : Showing}
    (hl : Continues w'.millis (before ++ [l])) (ht : IssuedTo s user l.token) :
    l.answer s (Session.shown s before w') = l.answer s (Session.shown s before w) := by
  induction before generalizing w w' with
  | nil => exact h.answer hl.1 hl.2.1 ht
  | cons m before ih =>
    obtain ⟨hle, -, hrest⟩ := hl
    exact ih (h.shown hle) (by rw [Flow.run_millis]; exact hrest)

/-! ## Isolation -/

/-- An account is as it was: its record and its row are unchanged, and from now on, while the cache
is up, each token that was ever issued to it is answered as in the world before. -/
structure Unaffected (s : Setup) (user : User) (w w' : World) : Prop where
  record : w'.store.users.find? (·.id == user.id) = some user
  row : w'.store.rowFor user.id = w.store.rowFor user.id
  answers : ∀ before l, Continues w'.millis (before ++ [l]) → IssuedTo s user l.token →
    l.answer s (Session.shown s before w') = l.answer s (Session.shown s before w)

theorem Spared.unaffected (h : Spared s user w w') (hw : Reachable s w)
    (hu : user ∈ w.store.users) : Unaffected s user w w' where
  record := Store.find?_key_of_mem h.ledger.unique.ids h.stored
  row := h.row
  answers _ _ hl ht := (h.concur hw hu).answers hl ht

/-- Two events of a kind are one, if either is the first of that kind. -/
theorem eq_of_first {A : Event → Prop} {e e' : Event}
    (h : ∀ pre e post, past = pre ++ e :: post → A e → ∀ x ∈ pre, ¬ A x) (he : e ∈ past)
    (he' : e' ∈ past) (ha : A e) (ha' : A e') : e = e' := by
  obtain ⟨pre, post, rfl⟩ := List.append_of_mem he
  rcases List.mem_append.1 he' with he' | he'
  · exact absurd ha' (h pre e post rfl ha e' he')
  · rcases List.mem_cons.1 he' with rfl | he'
    · rfl
    · obtain ⟨pre', post', rfl⟩ := List.append_of_mem he'
      exact absurd ha (h (pre ++ e :: pre') e' post' (by simp) ha' e (by simp))

/-- What isolates accounts in a run of calls. -/
structure Isolated (s : Setup) (start now : System Call.Value) : Prop where
  /-- A call acts for one account at most. -/
  single : ∀ t ∈ now.threads, ∀ a ∈ now.world.store.users, ∀ b ∈ now.world.store.users,
    ActsFor s t.past a t.call → ActsFor s t.past b t.call → a = b
  /-- An account for which no call acts is unaffected. -/
  spared : ∀ user ∈ start.world.store.users,
    (∀ t ∈ now.threads, ¬ ActsFor s t.past user t.call) →
      Unaffected s user start.world now.world
  /-- If the calls act for one account, every other one is unaffected. -/
  others : ∀ a ∈ now.world.store.users, (∀ t ∈ now.threads, ActsFor s t.past a t.call) →
    ∀ b ∈ start.world.store.users, b ≠ a → Unaffected s b start.world now.world

section
variable {start now : System Call.Value} {a b : User}

theorem Vouched.unique (hu : store.Unique) (ha : a ∈ store.users) (hb : b ∈ store.users)
    (hfirst : ∀ pre e post, past = pre ++ e :: post → WritesTarget s k pre e.act)
    (h : Vouched past a) (h' : Vouched past b) : a = b := by
  obtain ⟨token, profile, he, hemail⟩ := h
  obtain ⟨token', profile', he', hemail'⟩ := h'
  have hsame : (⟨.profile token, .ok profile⟩ : Event) = ⟨.profile token', .ok profile'⟩ := by
    refine eq_of_first (A := fun e => ∃ token profile, e = ⟨.profile token, .ok profile⟩)
      (fun pre e post hpast => ?_) he he' ⟨_, _, rfl⟩ ⟨_, _, rfl⟩
    have htargets := hfirst pre e post hpast
    rintro ⟨token, profile, rfl⟩ x hx ⟨token', profile', rfl⟩
    exact htargets token' profile' hx
  cases hsame
  exact hu.eq_of_email ha hb hemail hemail'

theorem Registers.unique
    (hfirst : ∀ pre e post, past = pre ++ e :: post → Permitted s k pre e.act) {new new' : NewUser}
    (h : Registers past new a) (h' : Registers past new' b) : a = b := by
  have hsame : (⟨.store (.createUser new), .ok a⟩ : Event)
      = ⟨.store (.createUser new'), .ok b⟩ := by
    refine eq_of_first (A := fun e => isCreation e.act = true) (fun pre e post hpast hc x hx => ?_)
      h h' rfl rfl
    have huntried : Untried pre := (hfirst pre e post hpast).untried hc
    simp [huntried x hx]
  cases hsame
  rfl

/-- A call acts for one account at most. -/
theorem ActsFor.unique (hu : store.Unique) (ha : a ∈ store.users) (hb : b ∈ store.users)
    (hallowed : ∀ pre e post, past = pre ++ e :: post → Permitted s k pre e.act)
    (htargets : ∀ pre e post, past = pre ++ e :: post → WritesTarget s k pre e.act)
    (h : ActsFor s past a k) (h' : ActsFor s past b k) : a = b := by
  cases k with
  | signUp request ip =>
    obtain ⟨new, made, hnew, hid⟩ := h
    obtain ⟨new', made', hnew', hid'⟩ := h'
    obtain rfl := Registers.unique hallowed hnew hnew'
    exact hu.eq_of_id ha hb (hid.symm.trans hid')
  | complete request ip =>
    obtain ⟨new, made, hnew, hid⟩ := h
    obtain ⟨new', made', hnew', hid'⟩ := h'
    obtain rfl := Registers.unique hallowed hnew hnew'
    exact hu.eq_of_id ha hb (hid.symm.trans hid')
  | signIn request ip =>
    rcases h with ⟨hp, email, he, hemail⟩ | ⟨hp, phone, he, hphone⟩ <;>
      rcases h' with ⟨hp', email', he', hemail'⟩ | ⟨hp', phone', he', hphone'⟩
    · obtain rfl := Option.some.inj (he.symm.trans he')
      exact hu.eq_of_email ha hb hemail hemail'
    · rw [hp] at hp'; cases hp'
    · rw [hp] at hp'; cases hp'
    · obtain rfl := Option.some.inj (he.symm.trans he')
      exact hu.eq_of_phone ha hb hphone hphone'
  | refresh token ip => exact hu.eq_of_idCode ha hb (IssuedTo.idCode_eq h h')
  | logout token => exact hu.eq_of_idCode ha hb (IssuedTo.idCode_eq h h')
  | callback state code ip => exact Vouched.unique hu ha hb htargets h h'
  | device token ip => exact Vouched.unique hu ha hb htargets h h'
  | redirect state => exact h.elim
  | sendCode request => exact h.elim

/-- Whatever calls run and fail, an account for which none of them acts is isolated from them. -/
theorem isolated (hw : Reachable s start.world) (hc : Fresh s start)
    (hr : System.Reaches Idles start now) : Isolated s start now := by
  obtain ⟨hl, hkeeps⟩ := keeps_of_idling hw hc hr
  have htargets : ∀ t ∈ now.threads, t.Allowed (WritesTarget s) :=
    hr.allowed (fun mid hmid => writesTarget_of_reaches hc hmid) fun t ht => by
      obtain ⟨k, rfl⟩ := hc t ht
      exact Thread.allowed_start _ _ k
  have hsingle : ∀ t ∈ now.threads, ∀ a ∈ now.world.store.users, ∀ b ∈ now.world.store.users,
      ActsFor s t.past a t.call → ActsFor s t.past b t.call → a = b := by
    intro t ht a ha b hb h h'
    exact ActsFor.unique hl.unique ha hb (hkeeps t ht).allowed (htargets t ht) h h'
  have hspared : ∀ user ∈ start.world.store.users,
      (∀ t ∈ now.threads, ¬ ActsFor s t.past user t.call) →
        Unaffected s user start.world now.world := by
    intro user hu hnot
    exact (spared_of_reaches hw hc hu hr hnot).1.unaffected hw hu
  refine ⟨hsingle, hspared, fun a ha hall b hb hne => hspared b hb fun t ht hacts => hne ?_⟩
  exact hsingle t ht b (mem_users_of_reaches hr hb) a ha hacts (hall t ht)

end

/-- Two users come through Google, which knows whomever it is asked for. -/
def neighbours : System Call.Value where
  world := { Sample.world with outside := { Sample.outside with
    profile := fun token => .ok { email := token ++ "@example.org" } } }
  threads := [.redirect (Sample.uuid 7).text, .redirect (Sample.uuid 8).text,
    .callback (Sample.uuid 7).text "ada" "10.0.0.1",
    .callback (Sample.uuid 8).text "bob" "10.0.0.2"].map (Thread.start (Call.flow Sample.setup))

/-- A world at another time, with something else outside. -/
def resumed (w : World) (outside : Outside) (clock : Int) : World :=
  { w with outside := outside, clock := clock }

theorem turns_resumed (w : World) (outside : Outside) (clock : Int) :
    Turns w (resumed w outside clock) := ⟨rfl, .inl rfl⟩

/-- One of them signs in again while the cache is down. -/
def interrupted : System Call.Value where
  world := resumed (neighbours.schedule bothFindFree).world
    { neighbours.world.outside with cacheFails := fun _ => true } 2000250
  threads := [.device "ada" "10.0.0.3"].map (Thread.start (Call.flow Sample.setup))

theorem reachable_interrupted : Reachable Sample.setup interrupted.world := by
  have hreachable : Reachable Sample.setup (neighbours.schedule bothFindFree).world :=
    ⟨neighbours, _, ⟨rfl, rfl, fresh_of_calls rfl⟩, System.reaches_schedule _ _ _, rfl⟩
  exact hreachable.turns (turns_resumed _ _ _)

/-- The provider has vouched for an email. -/
def vouches (email : String) : Event → Bool
  | ⟨.profile _, .ok profile⟩ => profile.email == email
  | _ => false

theorem vouched_of_any {email : String} (h : past.any (vouches email) = true)
    (hu : user.email = some email) : Vouched past user := by
  obtain ⟨e, he, hvouches⟩ := List.any_eq_true.1 h
  unfold vouches at hvouches
  split at hvouches
  · next token profile => exact ⟨token, profile, he, by rw [hu, eq_of_beq hvouches]⟩
  · cases hvouches

/-- Ada's row is written before the cache fails. Nothing happens to Bob. -/
theorem isolated_interrupted :
    Isolated Sample.setup interrupted (interrupted.schedule (List.replicate 12 0)) ∧
      (interrupted.schedule (List.replicate 12 0)).threads.map
        (fun t => (t.outcome?.isSome, t.succeeded)) = [(true, false)] ∧
      ∃ ada ∈ interrupted.world.store.users, ∃ bob ∈ interrupted.world.store.users,
        ada.email = some "ada@example.org" ∧ bob.email = some "bob@example.org" ∧
          ((interrupted.schedule (List.replicate 12 0)).world.store.rowFor ada.id).bind
            (·.startedAt) = some 2000 ∧
          Unaffected Sample.setup bob interrupted.world
            (interrupted.schedule (List.replicate 12 0)).world := by
  have hstored : ∃ ada ∈ interrupted.world.store.users, ∃ bob ∈ interrupted.world.store.users,
      ada.email = some "ada@example.org" ∧ bob.email = some "bob@example.org" ∧
        ((interrupted.schedule (List.replicate 12 0)).world.store.rowFor ada.id).bind
          (·.startedAt) = some 2000 := by decide +kernel
  have hvouched : ∀ t ∈ (interrupted.schedule (List.replicate 12 0)).threads,
      t.past.any (vouches "ada@example.org") = true := by decide +kernel
  have hreaches : System.Reaches Idles interrupted (interrupted.schedule (List.replicate 12 0)) :=
    System.reaches_schedule _ _ _
  have hisolated := isolated reachable_interrupted (fresh_of_calls rfl) hreaches
  obtain ⟨ada, ha, bob, hb, hada, hbob, hrow⟩ := hstored
  have hacts : ∀ t ∈ (interrupted.schedule (List.replicate 12 0)).threads,
      ActsFor Sample.setup t.past ada t.call := by
    intro t ht
    have hcall : t.call ∈ interrupted.threads.map (·.call) :=
      hreaches.calls ▸ List.mem_map_of_mem ht
    rw [List.mem_singleton.1 hcall]
    exact vouched_of_any (hvouched t ht) hada
  have hne : bob ≠ ada := by
    rintro rfl
    rw [hada] at hbob
    exact absurd hbob (by decide)
  exact ⟨hisolated, by decide +kernel, ada, ha, bob, hb, hada, hbob, hrow,
    hisolated.others ada (mem_users_of_reaches hreaches ha) hacts bob hb hne⟩

end SignOn.Account
