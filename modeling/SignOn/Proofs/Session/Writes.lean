import SignOn.Proofs.Flow.Concurrent
import SignOn.Proofs.Session.Mint
/-!
What the calls on the session of one user write. A call that succeeds writes the row of the user and
the cached key, once each and in this order: a call that opens a session writes the refresh token
and the key of one and the same pair, a call that closes it clears the row and deletes the key. A
call that fails writes neither. `flow_along` says this of every course.
-/

namespace SignOn.Session

open SignOn.Keyspace SignOn.Text

/-! ## Calls on a session -/

/-- A call on the session of a user. -/
inductive Op where
  | create (provider : AuthProvider) (ip : String)
  | update (provider : AuthProvider) (ip : String)
  | refresh (token ip : String)
  | logout (token : String)

namespace Op

/-- What a call on a session gives. -/
@[reducible] def Value : Op → Type
  | .create .. => TokenPair
  | .update .. => TokenPair
  | .refresh .. => User × TokenPair
  | .logout _ => Unit

/-- The course of a call on the session of a user. -/
def flow (s : Setup) (user : User) : (o : Op) → Flow o.Value
  | .create provider ip => Session.create s user provider ip
  | .update provider ip => Session.update s user provider ip
  | .refresh token ip => Session.refresh s token ip
  | .logout token => Session.logout token

/-- The refresh token that a call presents. -/
def token? : Op → Option String
  | .refresh token _ => some token
  | .logout token => some token
  | _ => none

def isLogout : Op → Bool
  | .logout _ => true
  | _ => false

/-- The pair that a call hands out. -/
def pair? : (o : Op) → o.Value → Option TokenPair
  | .create .., pair => some pair
  | .update .., pair => some pair
  | .refresh .., (_, pair) => some pair
  | .logout _, () => none

end Op

/-! ## Writes -/

/-- The event that a session row was written. -/
def isRowWrite : Event → Bool
  | ⟨.store (.createSession _), _⟩ => true
  | ⟨.store (.updateSession _), .ok found⟩ => found
  | ⟨.store (.endSession ..), _⟩ => true
  | _ => false

/-- The event that a session key was written or deleted. -/
def isKeyWrite : Event → Bool
  | ⟨.cache (.set ..), _⟩ => true
  | ⟨.cache (.delete _), _⟩ => true
  | _ => false

/-- What a call is about to do to a session. -/
inductive Intent where
  /-- The session gets a new pair. -/
  | opens (m : Mint)
  /-- The session ends. -/
  | closes

/-- The acts by which a call reaches its intent. -/
def Intent.Serves (s : Setup) (user : User) : Intent → Act → Prop
  | .opens m, .store (.createSession new) =>
    new.userId = user.id ∧ new.refreshToken = (m.pair s user).refresh ∧ new.startedAt = m.startedAt
  | .opens m, .store (.updateSession update) =>
    update.userId = user.id ∧ update.refreshToken = (m.pair s user).refresh ∧
      update.startedAt = m.startedAt
  | .opens m, .cache (.set key value lifetime) =>
    key = Sessions.key user.idCode ∧ value = utf8 m.key.text ∧ lifetime = some s.sessionLifetime
  | .closes, .store (.endSession ..) => True
  | .closes, .cache (.delete key) => key = Sessions.key user.idCode
  | _, _ => False

/-- Nothing has been written yet. -/
def Clean (past : List Event) : Prop := ∀ e ∈ past, isRowWrite e = false ∧ isKeyWrite e = false

/-- What a pair is made of was read and drawn. -/
structure Minted (s : Setup) (m : Mint) (past : List Event) : Prop where
  inRange : m.InRange s
  issued : ⟨.clock, m.issuedAt⟩ ∈ past
  key : ⟨.uuid, m.key⟩ ∈ past

/-- The intent of a call, as far as it is known. -/
def Knows (s : Setup) (past : List Event) : Intent → Prop
  | .opens m => Minted s m past
  | .closes => True

/-- The row was written, towards one intent. -/
structure Backed (s : Setup) (user : User) (intent : Intent) (past : List Event) : Prop where
  knows : Knows s past intent
  written : ∃ e ∈ past, isRowWrite e = true
  serves : ∀ e ∈ past, isRowWrite e = true → intent.Serves s user e.act

/-- Row and key were written, towards one intent. -/
structure Finished (s : Setup) (user : User) (intent : Intent) (past : List Event) : Prop
    extends Backed s user intent past where
  keyWritten : ∃ e ∈ past, isKeyWrite e = true
  keyServes : ∀ e ∈ past, isKeyWrite e = true → intent.Serves s user e.act

/-- The acts that a call on a session may do after some events. -/
def Allowed (s : Setup) (user : User) (o : Op) (past : List Event) : Act → Prop
  | .clock => True
  | .uuid => True
  | .store (.sessionByToken token) => o.token? = some token
  | .store (.userById _) => True
  | .store (.userByIdCode _) => True
  | .store (.createSession new) =>
    Clean past ∧
      ∃ m, Minted s m past ∧ Intent.Serves s user (.opens m) (.store (.createSession new))
  | .store (.updateSession update) =>
    Clean past ∧
      ∃ m, Minted s m past ∧ Intent.Serves s user (.opens m) (.store (.updateSession update))
  | .store (.endSession id _) =>
    Clean past ∧ ∃ token row, ⟨.store (.sessionByToken token), .ok (some row)⟩ ∈ past ∧ id = row.id
  | .cache (.set key value lifetime) =>
    ∃ intent, Backed s user intent past ∧ intent.Serves s user (.cache (.set key value lifetime))
  | .cache (.delete key) =>
    ∃ intent, Backed s user intent past ∧ intent.Serves s user (.cache (.delete key))
  | _ => False

/-- Before each act, no key was written yet. -/
def Course (s : Setup) (user : User) (o : Op) (past : List Event) (act : Act) : Prop :=
  (∀ e ∈ past, isKeyWrite e = false) ∧ Allowed s user o past act

/-- The outcome of a call that has reached its intent. -/
def Outcome (s : Setup) (user : User) (o : Op) (result : Except Failure o.Value) : Intent → Prop
  | .opens m =>
    o.isLogout = false ∧ ∃ value, result = .ok value ∧ o.pair? value = some (m.pair s user)
  | .closes => o.isLogout = true

/-- At its end, a call has failed and written nothing, or has reached its intent. -/
def CourseEnd (s : Setup) (user : User) (o : Op) (past : List Event)
    (result : Except Failure o.Value) : Prop :=
  (Clean past ∧ ∃ e, result = .error e) ∨
    ∃ intent, Finished s user intent past ∧ Outcome s user o result intent

/-- Events as they happen while only calls on the session of one user run: the cache works, the
clock is in order, a presented token is found in no other row than that of the user, and accounts
are found as they are. -/
def Observed (s : Setup) (user : User) : Event → Prop
  | ⟨.clock, now⟩ => Clocked s now
  | ⟨.cache _, answer⟩ => ∃ value, answer = .ok value
  | ⟨.store (.sessionByToken token), answer⟩ => ∃ found, answer = .ok found ∧
    ∀ row, found = some row → row.userId = user.id ∧
      ∃ m, Mint.InRange m s ∧ token = (m.pair s user).refresh
  | ⟨.store (.userById id), answer⟩ => id = user.id → answer = .ok (some user)
  | ⟨.store (.userByIdCode code), answer⟩ => code = user.idCode → answer = .ok (some user)
  | ⟨.store _, answer⟩ => ∃ value, answer = .ok value
  | _ => True

/-! ## Growing pasts -/

variable {s : Setup} {user : User} {past : List Event}

theorem clean_nil : Clean [] := by
  intro e h; cases h

theorem Clean.append (h : Clean past) {e : Event}
    (he : isRowWrite e = false ∧ isKeyWrite e = false) : Clean (past ++ [e]) := by
  intro x hx
  rcases List.mem_append.1 hx with hx | hx
  · exact h x hx
  · rw [List.mem_singleton] at hx; exact hx ▸ he

theorem Clean.keys (h : Clean past) : ∀ e ∈ past, isKeyWrite e = false := fun e he => (h e he).2

theorem Minted.append {m : Mint} (h : Minted s m past) (e : Event) : Minted s m (past ++ [e]) :=
  ⟨h.inRange, List.mem_append_left _ h.issued, List.mem_append_left _ h.key⟩

theorem Knows.append {intent : Intent} (h : Knows s past intent) (e : Event) :
    Knows s (past ++ [e]) intent := by
  cases intent with
  | opens m => exact Minted.append h e
  | closes => trivial

/-- The row is written. -/
theorem Backed.of_write {intent : Intent} {e : Event} (h : Clean past) (hk : Knows s past intent)
    (hw : isRowWrite e = true) (he : intent.Serves s user e.act) :
    Backed s user intent (past ++ [e]) := by
  refine ⟨hk.append e, ⟨e, by simp, hw⟩, fun x hx hrow => ?_⟩
  rcases List.mem_append.1 hx with hx | hx
  · rw [(h x hx).1] at hrow; cases hrow
  · rw [List.mem_singleton] at hx; exact hx ▸ he

/-- What is not a row does not matter to the row. -/
theorem Backed.append {intent : Intent} {e : Event} (h : Backed s user intent past)
    (he : isRowWrite e = false) : Backed s user intent (past ++ [e]) := by
  obtain ⟨x, hx, hxw⟩ := h.written
  refine ⟨h.knows.append e, ⟨x, List.mem_append_left _ hx, hxw⟩, fun y hy hrow => ?_⟩
  rcases List.mem_append.1 hy with hy | hy
  · exact h.serves y hy hrow
  · rw [List.mem_singleton] at hy; rw [hy, he] at hrow; cases hrow

/-- The key is written behind the row. -/
theorem Finished.of_write {intent : Intent} {e : Event} (h : Backed s user intent past)
    (hk : ∀ x ∈ past, isKeyWrite x = false) (hrow : isRowWrite e = false)
    (hw : isKeyWrite e = true) (he : intent.Serves s user e.act) :
    Finished s user intent (past ++ [e]) := by
  refine ⟨h.append hrow, ⟨e, by simp, hw⟩, fun x hx hkey => ?_⟩
  rcases List.mem_append.1 hx with hx | hx
  · rw [hk x hx] at hkey; cases hkey
  · rw [List.mem_singleton] at hx; exact hx ▸ he

theorem keys_append {e : Event} (h : ∀ x ∈ past, isKeyWrite x = false)
    (he : isKeyWrite e = false) : ∀ x ∈ past ++ [e], isKeyWrite x = false := by
  intro x hx
  rcases List.mem_append.1 hx with hx | hx
  · exact h x hx
  · rw [List.mem_singleton] at hx; exact hx ▸ he

/-! ## Courses -/

/-- The courses of a call on a session. -/
abbrev Keeps {α : Type} (s : Setup) (user : User) (o : Op)
    (Q : List Event → Except Failure α → Prop) (past : List Event) (f : Flow α) : Prop :=
  f.Along (Observed s user) (Course s user o) Q past

/-- A session has been opened with the pair that is handed out. -/
def Opened (s : Setup) (user : User) (past : List Event) (result : Except Failure TokenPair) :
    Prop :=
  ∃ m, Finished s user (.opens m) past ∧ result = .ok (m.pair s user)

/-- With the row written, the key of the pair is cached and the pair is handed out. -/
theorem put_keeps (o : Op) {m : Mint} (h : Backed s user (.opens m) past)
    (hk : ∀ x ∈ past, isKeyWrite x = false) :
    Keeps s user o (Opened s user) past (do
      Sessions.put s.sessionLifetime (m.snapshot user).idCode (m.snapshot user).sessionKey
      return m.pair s user) := by
  refine ⟨⟨hk, .opens m, h, rfl, rfl, rfl⟩, fun answer hr => ?_⟩
  obtain ⟨value, rfl⟩ := hr
  refine ⟨m, Finished.of_write h hk rfl rfl ⟨rfl, rfl, rfl⟩, rfl⟩

/-- What is read and drawn makes up a pair. -/
theorem mint_keeps {α : Type} (o : Op) {Q : List Event → Except Failure α → Prop}
    (next : Mint → Flow α) (h : Clean past)
    (hnext : ∀ past m, Clean past → Minted s m past → Keeps s user o Q past (next m)) :
    Keeps s user o Q past (do
      let startedAt ← Flow.now
      let key ← Flow.newUuid
      let issuedAt ← Flow.now
      let accessId ← Flow.newUuid
      let refreshId ← Flow.newUuid
      next ⟨startedAt, key, issuedAt, accessId, refreshId⟩) := by
  refine ⟨⟨h.keys, trivial⟩, fun startedAt hstarted => ?_⟩
  have h1 := h.append (e := ⟨.clock, startedAt⟩) ⟨rfl, rfl⟩
  refine ⟨⟨h1.keys, trivial⟩, fun key _ => ?_⟩
  have h2 := h1.append (e := ⟨.uuid, key⟩) ⟨rfl, rfl⟩
  refine ⟨⟨h2.keys, trivial⟩, fun issuedAt hissued => ?_⟩
  have h3 := h2.append (e := ⟨.clock, issuedAt⟩) ⟨rfl, rfl⟩
  refine ⟨⟨h3.keys, trivial⟩, fun accessId _ => ?_⟩
  have h4 := h3.append (e := ⟨.uuid, accessId⟩) ⟨rfl, rfl⟩
  refine ⟨⟨h4.keys, trivial⟩, fun refreshId _ => ?_⟩
  have h5 := h4.append (e := ⟨.uuid, refreshId⟩) ⟨rfl, rfl⟩
  refine hnext _ ⟨startedAt, key, issuedAt, accessId, refreshId⟩ h5
    ⟨⟨hstarted, hissued⟩, ?_, ?_⟩ <;> simp

theorem create_keeps (o : Op) (provider : AuthProvider) (ip : String) (h : Clean past) :
    Keeps s user o (Opened s user) past (create s user provider ip) := by
  refine mint_keeps o (fun m => do
    let _ ← Flow.store (.createSession (newRow (m.snapshot user) (m.pair s user) provider ip))
    Sessions.put s.sessionLifetime (m.snapshot user).idCode (m.snapshot user).sessionKey
    return m.pair s user) h fun past m hc hm => ?_
  refine ⟨⟨hc.keys, hc, m, hm, rfl, rfl, rfl⟩, fun answer hr => ?_⟩
  obtain ⟨row, rfl⟩ := hr
  exact put_keeps o (Backed.of_write hc hm rfl ⟨rfl, rfl, rfl⟩) (keys_append hc.keys rfl)

theorem update_keeps (o : Op) (provider : AuthProvider) (ip : String) (h : Clean past) :
    Keeps s user o (Opened s user) past (update s user provider ip) := by
  refine mint_keeps o (fun m => do
    let updated ← Flow.store
      (.updateSession ⟨(m.snapshot user).userId, ip, (m.pair s user).refresh, m.startedAt⟩)
    if !updated then
      let _ ← Flow.store (.createSession (newRow (m.snapshot user) (m.pair s user) provider ip))
    Sessions.put s.sessionLifetime (m.snapshot user).idCode (m.snapshot user).sessionKey
    return m.pair s user) h fun past m hc hm => ?_
  refine ⟨⟨hc.keys, hc, m, hm, rfl, rfl, rfl⟩, fun answer hr => ?_⟩
  obtain ⟨found, rfl⟩ := hr
  cases found with
  | true => exact put_keeps o (Backed.of_write hc hm rfl ⟨rfl, rfl, rfl⟩) (keys_append hc.keys rfl)
  | false =>
    have hc' := hc.append (e := ⟨.store (.updateSession ⟨(m.snapshot user).userId, ip,
      (m.pair s user).refresh, m.startedAt⟩), .ok false⟩) ⟨rfl, rfl⟩
    refine ⟨⟨hc'.keys, hc', m, hm.append _, rfl, rfl, rfl⟩, fun answer hr => ?_⟩
    obtain ⟨row, rfl⟩ := hr
    exact put_keeps o (Backed.of_write hc' (hm.append _) rfl ⟨rfl, rfl, rfl⟩)
      (keys_append hc'.keys rfl)

/-- A token has been judged, and nothing was written for it. -/
def Judged (user : User) (past : List Event) (result : Except Failure Snapshot) : Prop :=
  Clean past ∧ ∀ snapshot, result = .ok snapshot → snapshot.idCode = user.idCode

theorem idCode_of_validate (hl : Lasting s) {m : Mint} (hm : m.InRange s) {now : Int}
    {snapshot : Snapshot} (h : Token.validate s.suite.sign s.settings.token .refresh now
      (m.pair s user).refresh = .ok snapshot) : snapshot.idCode = user.idCode := by
  rw [Mint.validate_refresh hl hm] at h
  split at h
  · cases h; rfl
  · cases h

theorem validateRefresh_keeps (hl : Lasting s) (o : Op) {token : String}
    (ho : o.token? = some token) : Keeps s user o (Judged user) [] (validateRefresh s token) := by
  refine ⟨⟨clean_nil.keys, ho⟩, fun answer hr => ?_⟩
  obtain ⟨found, rfl, hfound⟩ := hr
  have h1 := clean_nil.append (e := ⟨.store (.sessionByToken token), .ok found⟩) ⟨rfl, rfl⟩
  cases found with
  | none => exact ⟨h1, fun snapshot hs => by cases hs⟩
  | some row =>
    obtain ⟨-, m, hm, rfl⟩ := hfound row rfl
    refine ⟨⟨h1.keys, trivial⟩, fun now _ => ?_⟩
    have h2 := h1.append (e := ⟨.clock, now⟩) ⟨rfl, rfl⟩
    show Keeps s user o (Judged user) _ (Flow.ofExcept (Token.validate s.suite.sign
      s.settings.token .refresh now (m.pair s user).refresh) >>= fun snapshot => do
        Flow.ensure (row.startedAt == some snapshot.startedAt) .invalidToken
        return { snapshot with userId := row.userId })
    cases hv : Token.validate s.suite.sign s.settings.token .refresh now
        (m.pair s user).refresh with
    | error e => exact ⟨h2, fun snapshot hs => by cases hs⟩
    | ok snapshot =>
      rw [Flow.ofExcept_ok, Flow.done_bind]
      cases row.startedAt == some snapshot.startedAt with
      | false => exact ⟨h2, fun snapshot hs => by cases hs⟩
      | true =>
        refine ⟨h2, fun judged hj => ?_⟩
        cases hj
        show snapshot.idCode = user.idCode
        exact idCode_of_validate hl hm hv

/-- A refresh goes on only with a token of the user. -/
theorem refresh_keeps (hl : Lasting s) (token ip : String) :
    Keeps s user (.refresh token ip) (CourseEnd s user (.refresh token ip)) []
      (refresh s token ip) := by
  refine Flow.Along.bind ((validateRefresh_keeps hl _ rfl).mono fun past result hj => ?_)
  obtain ⟨hc, hcode⟩ := hj
  cases result with
  | error e => exact .inl ⟨hc, e, rfl⟩
  | ok snapshot =>
    refine ⟨⟨hc.keys, trivial⟩, fun answer hr => ?_⟩
    have hans : answer = .ok (some user) := hr (hcode snapshot rfl)
    subst hans
    have hc' := hc.append (e := ⟨.store (.userByIdCode snapshot.idCode), .ok (some user)⟩)
      ⟨rfl, rfl⟩
    show Keeps s user (.refresh token ip) _ _ (Flow.ensure (!user.isDeleted) .inactiveUser
      >>= fun _ => update s user user.provider ip >>= fun pair => return (user, pair))
    cases user.isDeleted with
    | true => exact .inl ⟨hc', _, rfl⟩
    | false =>
      rw [Bool.not_false, Flow.ensure_true, Flow.done_bind]
      refine Flow.Along.bind ((update_keeps _ user.provider ip hc').mono fun past result h => ?_)
      obtain ⟨m, hm, rfl⟩ := h
      exact .inr ⟨.opens m, hm, rfl, (user, m.pair s user), rfl, rfl⟩

/-- A logout ends the session of the user and forgets its key. -/
theorem logout_keeps (token : String) :
    Keeps s user (.logout token) (CourseEnd s user (.logout token)) [] (logout token) := by
  refine ⟨⟨clean_nil.keys, rfl⟩, fun answer hr => ?_⟩
  obtain ⟨found, rfl, hfound⟩ := hr
  have h1 := clean_nil.append (e := ⟨.store (.sessionByToken token), .ok found⟩) ⟨rfl, rfl⟩
  cases found with
  | none => exact .inl ⟨h1, _, rfl⟩
  | some row =>
    obtain ⟨howner, -⟩ := hfound row rfl
    refine ⟨⟨h1.keys, trivial⟩, fun now _ => ?_⟩
    have h2 := h1.append (e := ⟨.clock, now⟩) ⟨rfl, rfl⟩
    refine ⟨⟨h2.keys, h2, token, row, by simp, rfl⟩, fun answer hr => ?_⟩
    obtain ⟨⟨⟩, rfl⟩ := hr
    have hback : Backed s user .closes _ := Backed.of_write
      (e := ⟨.store (.endSession row.id now), .ok ()⟩) h2 trivial rfl trivial
    have hkeys := keys_append (e := ⟨.store (.endSession row.id now), .ok ()⟩) h2.keys rfl
    refine ⟨⟨hkeys, trivial⟩, fun answer hr => ?_⟩
    have hans : answer = .ok (some user) := hr howner
    subst hans
    have hback' := hback.append (e := ⟨.store (.userById row.userId), .ok (some user)⟩) rfl
    have hkeys' := keys_append (e := ⟨.store (.userById row.userId), .ok (some user)⟩) hkeys rfl
    refine ⟨⟨hkeys', .closes, hback', rfl⟩, fun answer hr => ?_⟩
    obtain ⟨⟨⟩, rfl⟩ := hr
    exact .inr ⟨.closes, Finished.of_write hback' hkeys' rfl rfl rfl, rfl⟩

/-- Every call on the session of a user keeps to its course. -/
theorem flow_along (hl : Lasting s) (user : User) (o : Op) :
    Keeps s user o (CourseEnd s user o) [] (o.flow s user) := by
  cases o with
  | create provider ip =>
    refine (create_keeps _ provider ip clean_nil).mono fun past result h => ?_
    obtain ⟨m, hm, rfl⟩ := h
    exact .inr ⟨.opens m, hm, rfl, _, rfl, rfl⟩
  | update provider ip =>
    refine (update_keeps _ provider ip clean_nil).mono fun past result h => ?_
    obtain ⟨m, hm, rfl⟩ := h
    exact .inr ⟨.opens m, hm, rfl, _, rfl, rfl⟩
  | refresh token ip => exact refresh_keeps hl token ip
  | logout token => exact logout_keeps token

end SignOn.Session
