import SignOn.Proofs.Account.Reachable
import SignOn.Proofs.Sample
/-!
Session rows and their tokens, whatever calls run at the same time, whatever fails, and however
accounts go out of service. A row has ended or holds a refresh token that was made for its own
account when the session began, so a token leads from its row to the account of the row:
`rows_kept`.
-/

namespace SignOn.Account

open SignOn.Session

variable {s : Setup} {P : Int → Prop} {store : Store.Memory} {w : World} {user owner : User}
  {row : SessionRow} {m : Mint} {token : String} {n : Int} {snapshot : Snapshot}

/-- Time passes: what the clock shows satisfies `P`. -/
def Ticks (P : Int → Prop) (w w' : World) : Prop := Turns w w' ∧ P w'.now

/-- Whatever the clock shows, a refresh token that is issued then can name the time of its end. -/
def Expires (s : Setup) (P : Int → Prop) : Prop :=
  ∀ n, P n → Token.IsExpiry (n + s.settings.token.refreshTtl)

/-! ## Tokens in rows -/

theorem Carries.ne_empty (h : Carries s P user m row) : row.refreshToken ≠ "" := by
  rw [h.token]
  exact m.refresh_ne_empty s user

/-- A row with a token carries one of its account. -/
theorem Belongs.carries (h : Belongs s P store row) (hne : row.refreshToken ≠ "") :
    ∃ user m, store.Known user ∧ row.userId = user.id ∧ Carries s P user m row := by
  obtain ⟨user, hu, howner, hended | ⟨m, hm⟩⟩ := h
  · exact absurd hended.token hne
  · exact ⟨user, m, hu, howner, hm⟩

theorem Carries.read? (hs : Expires s P) (h : Carries s P user m row) :
    Token.read? s.suite.sign (Token.secret s.settings.token .refresh) row.refreshToken
      = some ⟨(m.snapshot user).encode, m.issuedAt + s.settings.token.refreshTtl,
          m.refreshId.text⟩ := by
  rw [h.token]
  exact Token.read?_write _ _ (hs _ h.issuedAt)

theorem Carries.validate (hs : Expires s P) (h : Carries s P user m row) (n : Int) :
    Token.validate s.suite.sign s.settings.token .refresh n row.refreshToken
      = if n < m.issuedAt + s.settings.token.refreshTtl
        then .ok { m.snapshot user with userId := 0 } else .error .invalidToken := by
  rw [h.token]
  exact Token.validate_issue _ _ .refresh m.refreshId (hs _ h.issuedAt) h.startedAt n

/-- A token that is valid says whose row holds it, and since when. -/
theorem Carries.decodes (hs : Expires s P) (h : Carries s P user m row)
    (hv : Token.validate s.suite.sign s.settings.token .refresh n row.refreshToken = .ok snapshot) :
    snapshot.idCode = user.idCode ∧ row.startedAt = some snapshot.startedAt := by
  rw [h.validate hs] at hv
  split at hv
  · obtain rfl := Except.ok.inj hv
    exact ⟨rfl, h.started⟩
  · cases hv

/-- A token is held by one row. -/
theorem Ledger.eq_of_token (h : Ledger s P store) {a b : SessionRow} (ha : a ∈ store.sessions)
    (hb : b ∈ store.sessions) (ht : a.refreshToken = b.refreshToken) (hne : a.refreshToken ≠ "") :
    a = b := by
  obtain ⟨user, m, hu, hau, hm⟩ := (h.belongs _ a (h.rows.rowFor_of_mem ha)).carries hne
  obtain ⟨owner, m', ho, hbo, hm'⟩ := (h.belongs _ b (h.rows.rowFor_of_mem hb)).carries (ht ▸ hne)
  have hcode : user.idCode = owner.idCode := Token.idCode_of_issue s.suite.sign s.settings.token
    .refresh (a := m.snapshot user) (b := m'.snapshot owner) hm.startedAt hm'.startedAt
    (hm.token.symm.trans (ht.trans hm'.token))
  have hid : a.userId = b.userId := by rw [hau, hbo, h.unique.id_of_idCode hu ho hcode]
  exact List.inj_on_of_nodup_map h.rows.users ha hb hid

theorem Ledger.sessionByToken (h : Ledger s P store) (hr : row ∈ store.sessions)
    (hne : row.refreshToken ≠ "") : store.sessionByToken row.refreshToken = some row := by
  obtain ⟨found, hfound⟩ := Store.Memory.exists_sessionByToken hr rfl hne
  obtain ⟨hmem, htoken, -⟩ := Store.Memory.mem_of_sessionByToken hfound
  rw [hfound, h.eq_of_token hmem hr htoken (htoken ▸ hne)]

/-- The token in a row is refused when it has expired, and for no other reason. -/
theorem validateRefresh_run (hs : Expires s P) (h : Ledger s P w.store)
    (hr : row ∈ w.store.sessions) (hm : Carries s P user m row) :
    (Session.validateRefresh s row.refreshToken).run w
      = (if w.now < m.issuedAt + s.settings.token.refreshTtl
          then .ok { m.snapshot user with userId := row.userId } else .error .invalidToken, w) := by
  have hfound := h.sessionByToken hr hm.ne_empty
  have hlookup : (Flow.store (.sessionByToken row.refreshToken)).run w = (.ok (some row), w) := by
    rw [Flow.run_store, World.perform, World.performStore, Store.Memory.perform, hfound]
  have hvalid : (Session.validate s .refresh row.refreshToken).run w
      = (if w.now < m.issuedAt + s.settings.token.refreshTtl
          then .ok { m.snapshot user with userId := 0 } else .error .invalidToken, w) := by
    rw [← hm.validate hs w.now]
    exact Flow.run_ofExcept _
  rw [Session.validateRefresh, Flow.run_bind_of_ok hlookup, Flow.require_some, Flow.done_bind]
  by_cases hlive : w.now < m.issuedAt + s.settings.token.refreshTtl
  · rw [if_pos hlive] at hvalid ⊢
    have hstarted : (row.startedAt == some m.startedAt) = true := beq_iff_eq.2 hm.started
    rw [Flow.run_bind_of_ok hvalid]
    simp only [Mint.snapshot, Session.snapshotOf, hstarted, Flow.ensure_true, Flow.done_bind]
    rfl
  · rw [if_neg hlive] at hvalid ⊢
    exact Flow.run_bind_of_error hvalid

/-! ## The invariant -/

/-- What the refresh token in a row says: it is signed with the secret of refresh tokens, and the
session that it carries is one of the account of the row, and began when the row says. -/
structure Says (s : Setup) (store : Store.Memory) (row : SessionRow) (user : User)
    (claims : Token.Claims) (snapshot : Snapshot) : Prop where
  stored : user ∈ store.users
  owner : user.id = row.userId
  signed : row.refreshToken
    = Token.write s.suite.sign (Token.secret s.settings.token .refresh) claims
  carried : Snapshot.decode claims.payload = .ok snapshot
  code : snapshot.idCode = user.idCode
  started : row.startedAt = some snapshot.startedAt

/-- What becomes of the refresh token in a row when it is read: its claims are found, and it is
refused only when it has expired. -/
structure Reads (s : Setup) (store : Store.Memory) (row : SessionRow) (claims : Token.Claims)
    (snapshot : Snapshot) : Prop where
  read : Token.read? s.suite.sign (Token.secret s.settings.token .refresh) row.refreshToken
    = some claims
  validated : ∀ w : World, w.store = store → (Session.validateRefresh s row.refreshToken).run w
    = (if w.now < claims.expires then .ok { snapshot with userId := row.userId }
        else .error .invalidToken, w)

/-- What refreshes have done up to now. -/
structure Refreshes (s : Setup) (now : System Call.Value) : Prop where
  /-- If a token was valid, the session of the row that was found by it began when it says. -/
  starts : ∀ t ∈ now.threads, ∀ token row n snapshot,
    ⟨.store (.sessionByToken token), .ok (some row)⟩ ∈ t.past →
      Token.validate s.suite.sign s.settings.token .refresh n token = .ok snapshot →
        row.startedAt = some snapshot.startedAt
  /-- Whatever row a refresh has written is the row of the user whose row held its token. -/
  owns : ∀ t ∈ now.threads, ∀ token ip, t.call = .refresh token ip →
    ∀ e ∈ t.past, ∀ userId new, written? e = some (userId, new) →
      ∃ row, ⟨.store (.sessionByToken token), .ok (some row)⟩ ∈ t.past ∧
        row.refreshToken = token ∧ row.userId = userId
  /-- A refresh that hands out a pair has written it into a row. -/
  rotates : ∀ t ∈ now.threads, ∀ token ip, t.call = .refresh token ip →
    ∀ result pair, t.outcome? = some result → t.call.pair? result = some pair →
      ∃ row, ⟨.store (.sessionByToken token), .ok (some row)⟩ ∈ t.past ∧
        row.refreshToken = token ∧ ∃ e ∈ t.past, written? e = some (row.userId, pair.refresh)

/-- What holds of the session rows at all times. -/
structure RowsKept (s : Setup) (P : Int → Prop) (now : System Call.Value) : Prop where
  ids : (now.world.store.sessions.map (·.id)).Nodup
  users : (now.world.store.sessions.map (·.userId)).Nodup
  ended_iff : ∀ row ∈ now.world.store.sessions, row.endedAt.isSome = true ↔ row.refreshToken = ""
  silent : ∀ row ∈ now.world.store.sessions, row.refreshToken = "" → row.ip = ""
  apart : ∀ a ∈ now.world.store.sessions, ∀ b ∈ now.world.store.sessions,
    a.refreshToken = b.refreshToken → a.refreshToken ≠ "" → a = b
  decodes : ∀ row ∈ now.world.store.sessions, row.refreshToken ≠ "" → ∃ user claims snapshot,
    Says s now.world.store row user claims snapshot ∧
      (Expires s P → Reads s now.world.store row claims snapshot)
  refreshes : Expires s P → Refreshes s now

section
variable {now : System Call.Value} {t : Thread Call.Value}

theorem Carries.reads (hl : Ledger s P store) (hr : row ∈ store.sessions)
    (hm : Carries s P owner m row) (ho : store.Known owner) (hid : row.userId = owner.id) :
    ∃ user claims snapshot, Says s store row user claims snapshot ∧
      (Expires s P → Reads s store row claims snapshot) := by
  obtain ⟨user, hu, huid, hcode, -, -⟩ := ho.stored
  refine ⟨user, ⟨(m.snapshot owner).encode, m.issuedAt + s.settings.token.refreshTtl,
    m.refreshId.text⟩, { m.snapshot owner with userId := 0 },
    ⟨hu, huid.trans hid.symm, hm.token, Token.decode_encode hm.startedAt, hcode.symm, hm.started⟩,
    fun hs => ⟨hm.read? hs, fun w hw => ?_⟩⟩
  subst hw
  exact validateRefresh_run hs hl hr hm

/-- A row that a call has found by a token that is valid is the row of the account that the token
names. -/
theorem Keeps.found (h : Keeps s P store t) (hs : Expires s P)
    (hf : ⟨.store (.sessionByToken token), .ok (some row)⟩ ∈ t.past)
    (hv : Token.validate s.suite.sign s.settings.token .refresh n token = .ok snapshot) :
    row.refreshToken = token ∧ row.startedAt = some snapshot.startedAt ∧
      ∃ owner, store.Known owner ∧ row.userId = owner.id ∧ snapshot.idCode = owner.idCode := by
  obtain ⟨rfl, hne, hbelongs⟩ := (h.confirmed _ hf).row _ _ rfl
  obtain ⟨owner, m, ho, hid, hm⟩ := hbelongs.carries hne
  obtain ⟨hcode, hstarted⟩ := hm.decodes hs hv
  exact ⟨rfl, hstarted, owner, ho, hid, hcode⟩

/-- What a refresh writes goes into the row that held its token. -/
theorem Keeps.owns (h : Keeps s P store t) (hl : Ledger s P store) (hs : Expires s P) {ip : String}
    (hk : t.call = .refresh token ip) {e : Event} (he : e ∈ t.past) {userId : Int} {new : String}
    (hw : written? e = some (userId, new)) :
    ∃ row, ⟨.store (.sessionByToken token), .ok (some row)⟩ ∈ t.past ∧
      row.refreshToken = token ∧ row.userId = userId := by
  obtain ⟨pre, post, hpast⟩ := List.append_of_mem he
  have hmem {x : Event} (hx : x ∈ pre) : x ∈ t.past := hpast ▸ List.mem_append_left _ hx
  have hwrites : ∃ startedAt, Writes s t.call pre userId new startedAt := by
    have hallowed := h.allowed pre e post hpast
    unfold written? at hw
    split at hw
    · cases hw; exact ⟨_, hallowed⟩
    · cases hw; exact ⟨_, hallowed⟩
    · cases hw
  obtain ⟨startedAt, user, m, -, hown, rfl, -⟩ := hwrites
  obtain ⟨row, n, snapshot, hrow, hv, huser⟩ := hown token ip hk
  obtain ⟨htoken, -, owner, ho, hid, hcode⟩ := h.found hs (hmem hrow) hv
  have huserCode : user.idCode = snapshot.idCode := (h.confirmed _ (hmem huser)).code _ _ rfl
  have hknown : store.Known user := (h.confirmed _ (hmem huser)).user user rfl
  refine ⟨row, hmem hrow, htoken, ?_⟩
  rw [hid, hl.unique.id_of_idCode hknown ho (huserCode.trans hcode)]

theorem refreshes_of_keeps (hl : Ledger s P now.world.store)
    (h : ∀ t ∈ now.threads, Keeps s P now.world.store t) (hs : Expires s P) : Refreshes s now where
  starts t ht token row n snapshot hf hv := ((h t ht).found hs hf hv).2.1
  owns t ht token ip hk e he userId new hw := (h t ht).owns hl hs hk he hw
  rotates t ht token ip hk result pair hresult hpair := by
    have hcloses : Closes s t.call t.past result := (h t ht).course.end hresult
    obtain ⟨user, m, -, -, e, he, hw⟩ := hcloses.handed hpair
    obtain ⟨row, hrow, htoken, hid⟩ := (h t ht).owns hl hs hk he hw
    exact ⟨row, hrow, htoken, e, he, hid ▸ hw⟩

end

/-- However calls act and fail, the session rows are kept. -/
theorem rows_kept {start now : System Call.Value} (ho : Opens s start) (hp : P start.world.now)
    (hr : System.Reaches (Ticks P) start now) : RowsKept s P now := by
  obtain ⟨hl, hkeeps⟩ := keeps_of_reaches (fun _ _ hd => hd) ho.calls
    (ho.store ▸ ledger_empty s P) hp hr
  have hrow {row : SessionRow} (hm : row ∈ now.world.store.sessions) :
      Belongs s P now.world.store row := hl.belongs _ row (hl.rows.rowFor_of_mem hm)
  constructor
  case ids => exact hl.rows.ids
  case users => exact hl.rows.users
  case ended_iff =>
    intro row hm
    obtain ⟨user, -, -, hended | ⟨m, hc⟩⟩ := hrow hm
    · simp [hended.ended, hended.token]
    · simp [hc.active, hc.ne_empty]
  case silent =>
    intro row hm htoken
    obtain ⟨user, -, -, hended | ⟨m, hc⟩⟩ := hrow hm
    · exact hended.ip
    · exact absurd htoken hc.ne_empty
  case apart =>
    intro a ha b hb ht hne
    exact hl.eq_of_token ha hb ht hne
  case decodes =>
    intro row hm hne
    obtain ⟨user, m, hu, hid, hc⟩ := (hrow hm).carries hne
    exact hc.reads hl hm hu hid
  case refreshes => exact refreshes_of_keeps hl hkeeps

/-- A newcomer signs in through the browser and from a device. -/
def signIns : System Call.Value where
  world := Sample.world
  threads := [.redirect (Sample.uuid 7).text, .callback (Sample.uuid 7).text "code" "10.0.0.1",
    .device "token" "10.0.0.2"].map (Thread.start (Call.flow Sample.setup))

/-- The device comes last. -/
def deviceLast : List Nat := List.replicate 2 0 ++ List.replicate 16 1 ++ List.replicate 9 2

theorem rows_kept_signIns : RowsKept Sample.setup (· = 1000) (signIns.schedule deviceLast) ∧
    Expires Sample.setup (· = 1000) ∧
    ((signIns.schedule deviceLast).world.store.sessions.any fun row =>
      row.ip == "10.0.0.2" && row.endedAt.isNone) = true := by
  have hopens : Opens Sample.setup signIns := ⟨rfl, rfl, fresh_of_calls rfl⟩
  have hreaches : System.Reaches (Ticks (· = 1000)) signIns (signIns.schedule deviceLast) :=
    System.reaches_schedule _ _ _
  refine ⟨rows_kept hopens (by decide) hreaches, ?_, by decide +kernel⟩
  rintro n rfl
  exact ⟨by decide, by decide⟩

end SignOn.Account
