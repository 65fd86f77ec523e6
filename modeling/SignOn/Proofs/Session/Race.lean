import SignOn.Proofs.Sample
import SignOn.Proofs.Session.Effects
import SignOn.Proofs.Session.Validity
/-!
Calls on the session of one user that run at the same time. Each of them writes the row and the
cached key in two steps, so the last one to write the row need not be the last one to write the key.
`together_iff_inStep` says what comes of this once all calls have ended: row and key belong together
exactly if one call has written both last, or if the last thing that happened to either was the end
of the session. `parted_race` is a run that leaves the row with one pair and the cache with another.
-/

namespace SignOn.Session

open SignOn.Keyspace SignOn.Text

/-! ## Runs -/

/-- The token of a row is gone, or was made for the user. -/
def Normal (s : Setup) (user : User) (row : SessionRow) : Prop :=
  row.refreshToken = "" ∨ ∃ m, Mint.InRange m s ∧ row.refreshToken = (m.pair s user).refresh

/-- How calls on the session of a user start: the user is stored, has no session or a normal one,
and no other user holds a token of theirs or one that a call presents. -/
structure Started (s : Setup) (user : User) (start : System Op.Value) : Prop where
  calls : ∀ t ∈ start.threads, ∃ o, t = Thread.start (Op.flow s user) o
  rows : start.world.store.Rows
  byId : start.world.store.users.find? (·.id == user.id) = some user
  byIdCode : start.world.store.users.find? (·.idCode == user.idCode) = some user
  named : user.idCode ≠ ""
  own : ∀ row, start.world.store.rowFor user.id = some row → Normal s user row
  others : ∀ row ∈ start.world.store.sessions, row.userId ≠ user.id → row.refreshToken ≠ "" →
    (∀ m, Mint.InRange m s → row.refreshToken ≠ (m.pair s user).refresh) ∧
      ∀ t ∈ start.threads, t.call.token? ≠ some row.refreshToken
  up : ∀ n, start.world.outside.cacheFails n = false
  clocked : Clocked s start.world.now

/-- The cached key of the user, if one can be read. -/
def cached (user : User) (w : World) : Option Bytes :=
  w.cache.read? w.millis (Sessions.key user.idCode)

/-- A call has handed out a pair. -/
def Issued (now : System Op.Value) (pair : TokenPair) : Prop :=
  ∃ t ∈ now.threads, ∃ value, t.outcome? = some (.ok value) ∧ t.call.pair? value = some pair

/-- Row and cached key belong together: the session has ended and no key is cached, or the cached
key is the one in the token of the row, and one pair that was handed out is accepted. -/
def Together (s : Setup) (user : User) (now : System Op.Value) : Prop :=
  ∃ row, now.world.store.rowFor user.id = some row ∧
    ((row.endedAt.isSome ∧ cached user now.world = none) ∨
      ∃ snapshot, Token.validate s.suite.sign s.settings.token .refresh now.world.now
          row.refreshToken = .ok snapshot ∧
        cached user now.world = some (utf8 snapshot.sessionKey) ∧
        ∃ pair, Issued now pair ∧ pair.refresh = row.refreshToken ∧
          AcceptsRefresh s now.world pair.refresh ∧ AcceptsAccess s now.world pair.access)

/-- The event that a session was ended or its key forgotten. -/
def isEnding : Event → Bool
  | ⟨.store (.endSession ..), _⟩ => true
  | ⟨.cache (.delete _), _⟩ => true
  | _ => false

/-- One call has written row and key last, or both were last written by ending the session. -/
def inStep (log : List (Nat × Event)) : Bool :=
  match System.last? isRowWrite log, System.last? isKeyWrite log with
  | some row, some key => row.1 == key.1 || (isEnding row.2 && isEnding key.2)
  | _, _ => false

/-- What the clock showed to a call. -/
def readings (past : List Event) : List Int :=
  past.filterMap fun e => match e with
    | ⟨.clock, now⟩ => some now
    | _ => none

/-- Neither the cached key nor a token that was made on the way has expired. -/
structure Unexpired (s : Setup) (user : User) (now : System Op.Value) : Prop where
  key : ∀ e ∈ now.world.cache.find? (Sessions.key user.idCode), e.isLive now.world.millis = true
  tokens : ∀ t ∈ now.threads, ∀ issuedAt ∈ readings t.past,
    now.world.now < issuedAt + s.settings.token.accessTtl ∧
      now.world.now < issuedAt + s.settings.token.refreshTtl

/-- Every call has ended, and at least one has succeeded. -/
structure Over (now : System Op.Value) : Prop where
  ended : ∀ t ∈ now.threads, t.outcome?.isSome = true
  success : ∃ t ∈ now.threads, t.succeeded = true

variable {s : Setup} {user : User} {start now : System Op.Value} {log : List (Nat × Event)}

/-! ## Worlds -/

/-- What holds of the world all along. -/
structure Kept (s : Setup) (user : User) (start w : World) : Prop where
  beside : start.store.Beside user.id w.store
  own : ∀ row, w.store.rowFor user.id = some row → Normal s user row
  up : ∀ n, w.outside.cacheFails n = false
  clocked : Clocked s w.now

theorem Started.kept (h : Started s user start) : Kept s user start.world start.world :=
  ⟨.refl h.rows, h.own, h.up, h.clocked⟩

theorem Kept.steady {w w' : World} (h : Kept s user start.world w) (hd : Steady s w w') :
    Kept s user start.world w' := by
  obtain ⟨hstore, -, -, -, hup, hclocked⟩ := hd
  exact ⟨hstore ▸ h.beside, hstore ▸ h.own, hup, hclocked⟩

/-- A row is normal after it was written. -/
theorem normal_of_shows {w : World} {act : Act} {row : SessionRow} (ha : IsOwn s user w act)
    (h : RowShows act row) : Normal s user row := by
  cases act with
  | store st =>
    cases st with
    | createSession new =>
      obtain ⟨-, m, hm, hnew⟩ := ha
      exact .inr ⟨m, hm, h.1.trans hnew⟩
    | updateSession update =>
      obtain ⟨-, m, hm, hupdate⟩ := ha
      exact .inr ⟨m, hm, h.1.trans hupdate⟩
    | endSession id endedAt => exact .inl h.1
    | _ => exact h.elim
  | _ => exact h.elim

theorem Kept.perform {w : World} {act : Act} (h : Kept s user start.world w)
    (ha : IsOwn s user w act) : Kept s user start.world (w.perform act).2 := by
  have hb := beside_after h.beside.rows ha
  refine ⟨h.beside.trans hb, fun row hrow => ?_, fun n => ?_, ?_⟩
  · rcases row_after h.beside.rows ha with ⟨-, new, hnew, hshows, -⟩ | ⟨-, hsame⟩
    · rw [hnew] at hrow
      cases hrow
      exact normal_of_shows ha hshows
    · exact h.own row (hsame ▸ hrow)
  · rw [w.perform_outside]
    exact h.up n
  · rw [w.perform_now]
    exact h.clocked

/-- Rows of other users are as they were. -/
theorem Kept.mem_start {w : World} (h : Kept s user start.world w) {row : SessionRow}
    (hrow : row ∈ w.store.sessions) (hne : row.userId ≠ user.id) :
    row ∈ start.world.store.sessions := by
  have hr := h.beside.rows.rowFor_of_mem hrow
  rw [h.beside.others _ hne] at hr
  exact (Store.Memory.mem_of_rowFor hr).1

/-- What happens in such a world has been foreseen. -/
theorem Kept.observed {w : World} {act : Act} (hs : Started s user start)
    (h : Kept s user start.world w) (ha : IsOwn s user w act) :
    Observed s user (w.event act) := by
  cases act with
  | clock => exact h.clocked
  | uuid => trivial
  | cache cmd =>
    cases cmd with
    | set key value lifetime =>
      exact ⟨_, (w.perform_cache_up h.up (by intro _ _ _ _ h; cases h)).1⟩
    | delete key => exact ⟨_, (w.perform_cache_up h.up (by intro _ _ _ _ h; cases h)).1⟩
    | _ => exact ha.elim
  | store st =>
    cases st with
    | sessionByToken token =>
      refine ⟨_, rfl, fun row hfound => ?_⟩
      obtain ⟨hmem, htoken, hne⟩ := Store.Memory.mem_of_sessionByToken hfound
      have howner : row.userId = user.id := Decidable.byContradiction fun hother =>
        ha row hmem hother hne htoken
      refine ⟨howner, ?_⟩
      have hrow := h.beside.rows.rowFor_of_mem hmem
      rw [howner] at hrow
      rcases h.own row hrow with hempty | ⟨m, hm, hpair⟩
      · exact absurd (htoken.symm.trans hempty) hne
      · exact ⟨m, hm, htoken.symm.trans hpair⟩
    | userById id =>
      rintro rfl
      have hfind := hs.byId
      rw [← h.beside.users] at hfind
      exact congrArg Except.ok hfind
    | userByIdCode code =>
      rintro rfl
      have hfind := hs.byIdCode
      rw [← h.beside.users] at hfind
      exact congrArg Except.ok hfind
    | createUser new => exact ha.elim
    | userByEmail email => exact ha.elim
    | userByPhone phone => exact ha.elim
    | _ => exact ⟨_, rfl⟩
  | _ => exact ha.elim

/-! ## Runs, step by step -/

/-- What holds of a system all along: the calls keep to their courses, the row that one has found
is the row of the user, and row and key show what was written to them last. -/
structure Held (s : Setup) (user : User) (start : World) (log : List (Nat × Event))
    (now : System Op.Value) : Prop where
  kept : Kept s user start now.world
  follows : ∀ t ∈ now.threads, t.Follows (Observed s user) (Course s user) (CourseEnd s user)
  found : ∀ t ∈ now.threads, ∀ token row,
    ⟨.store (.sessionByToken token), .ok (some row)⟩ ∈ t.past →
    ∃ own, now.world.store.rowFor user.id = some own ∧ own.id = row.id
  row : ∀ x, System.last? isRowWrite log = some x →
    ∃ row, now.world.store.rowFor user.id = some row ∧ RowShows x.2.act row
  key : ∀ x, System.last? isKeyWrite log = some x →
    KeyShows x.2.act (now.world.cache.find? (Sessions.key user.idCode))

theorem Started.held (hl : Lasting s) (h : Started s user start) :
    Held s user start.world [] start := by
  refine ⟨h.kept, fun t ht => ?_, fun t ht token row hp => ?_, fun x hx => ?_, fun x hx => ?_⟩
  · obtain ⟨o, rfl⟩ := h.calls t ht
    exact flow_along hl user o
  · obtain ⟨o, rfl⟩ := h.calls t ht
    exact absurd hp List.not_mem_nil
  · cases hx
  · cases hx

/-- The acts of the calls are acts on the session of the user. -/
theorem Held.isOwn (hs : Started s user start) (h : Held s user start.world log now)
    (hcalls : now.threads.map (·.call) = start.threads.map (·.call)) {t : Thread Op.Value}
    (ht : t ∈ now.threads) {act : Act} (ha : Allowed s user t.call t.past act) :
    IsOwn s user now.world act := by
  cases act with
  | clock => trivial
  | uuid => trivial
  | cache cmd =>
    cases cmd with
    | set key value lifetime =>
      obtain ⟨intent, -, hserves⟩ := ha
      cases intent with
      | opens m => exact hserves.1
      | closes => exact hserves.elim
    | delete key =>
      obtain ⟨intent, -, hserves⟩ := ha
      cases intent with
      | opens m => exact hserves.elim
      | closes => exact hserves
    | _ => exact ha.elim
  | store st =>
    cases st with
    | sessionByToken token =>
      intro row hrow hother hne htoken
      have hmem := List.mem_map_of_mem (f := Thread.call) ht
      rw [hcalls] at hmem
      obtain ⟨t', ht', hcall⟩ := List.mem_map.1 hmem
      refine (hs.others row (h.kept.mem_start hrow hother) hother (htoken ▸ hne)).2 t' ht' ?_
      rw [hcall, htoken]
      exact ha
    | userById id => trivial
    | userByIdCode code => trivial
    | createSession new =>
      obtain ⟨-, m, hm, hu, htoken, -⟩ := ha
      exact ⟨hu, m, hm.inRange, htoken⟩
    | updateSession update =>
      obtain ⟨-, m, hm, hu, htoken, -⟩ := ha
      exact ⟨hu, m, hm.inRange, htoken⟩
    | endSession id endedAt =>
      obtain ⟨-, token, row, hp, rfl⟩ := ha
      exact h.found t ht token row hp
    | _ => exact ha.elim
  | _ => exact ha.elim

/-- A row that a call has found was found in the world as it is, or earlier. -/
theorem Held.found_event (h : Held s user start.world log now) {act : Act}
    (hr : Observed s user (now.world.event act)) {token : String} {row : SessionRow}
    (he : (⟨.store (.sessionByToken token), .ok (some row)⟩ : Event) = now.world.event act) :
    now.world.store.rowFor user.id = some row := by
  obtain rfl : Act.store (.sessionByToken token) = act := congrArg Event.act he
  rw [← he] at hr
  obtain ⟨found, hfound, howner⟩ := hr
  cases hfound
  have hanswer : now.world.store.sessionByToken token = some row := by
    injection he with _ hanswer
    exact (Except.ok.inj hanswer).symm
  have hmem := (Store.Memory.mem_of_sessionByToken hanswer).1
  have hrow := h.kept.beside.rows.rowFor_of_mem hmem
  rw [(howner row rfl).1] at hrow
  exact hrow

theorem Held.after (hs : Started s user start) (h : Held s user start.world log now)
    (hcalls : now.threads.map (·.call) = start.threads.map (·.call)) {i : Nat} {o : Op}
    {past : List Event} {act : Act} {next : act.Answer → Flow o.Value}
    (hi : now.threads[i]? = some ⟨o, past, .step act next⟩) :
    Held s user start.world (log ++ [(i, now.world.event act)]) (now.after i o past act next) := by
  have hmem := List.mem_of_getElem? hi
  obtain ⟨⟨hkeys, hallowed⟩, hnext⟩ := h.follows _ hmem
  have hown := h.isOwn hs hcalls hmem hallowed
  have hobserved := h.kept.observed hs hown
  have hrow := row_after h.kept.beside.rows hown
  have hkey := key_after h.kept.up hown
  refine ⟨h.kept.perform hown, fun t ht => ?_, fun t ht token row hp => ?_, fun x hx => ?_,
    fun x hx => ?_⟩
  · rcases List.mem_or_eq_of_mem_set ht with ht | rfl
    · exact h.follows t ht
    · exact hnext _ hobserved
  · -- A row that was found stays the user's: writing it keeps its number.
    have hbefore : ∃ own, now.world.store.rowFor user.id = some own ∧ own.id = row.id := by
      rcases List.mem_or_eq_of_mem_set ht with ht | rfl
      · exact h.found t ht token row hp
      · rcases List.mem_append.1 hp with hp | hp
        · exact h.found _ hmem token row hp
        · exact ⟨row, h.found_event hobserved (List.mem_singleton.1 hp), rfl⟩
    obtain ⟨own, hfound, hid⟩ := hbefore
    rcases hrow with ⟨-, new, hnew, -, hsame⟩ | ⟨-, hsame⟩
    · exact ⟨new, hnew, (hsame own hfound).trans hid⟩
    · exact ⟨own, hsame.trans hfound, hid⟩
  · rw [System.last?_append] at hx
    rcases hrow with ⟨hw, new, hnew, hshows, -⟩ | ⟨hw, hsame⟩
    · rw [hw] at hx
      cases hx
      exact ⟨new, hnew, hshows⟩
    · rw [hw] at hx
      obtain ⟨row, hold, hshows⟩ := h.row x hx
      exact ⟨row, hsame.trans hold, hshows⟩
  · rw [System.last?_append] at hx
    rcases hkey with ⟨hw, hshows⟩ | ⟨hw, hsame⟩
    · rw [hw] at hx
      cases hx
      exact hshows
    · rw [hw] at hx
      have hshows := h.key x hx
      rw [← hsame] at hshows
      exact hshows

theorem held_of_runs (hl : Lasting s) (hs : Started s user start)
    (h : System.Runs (Steady s) start log now) : Held s user start.world log now := by
  induction h with
  | refl => exact hs.held hl
  | act hr hi ih => exact ih.after hs hr.reaches.calls hi
  | drift _ hd ih =>
    obtain ⟨hkept, hfollows, hfound, hrow, hkey⟩ := ih
    refine ⟨hkept.steady hd, hfollows, ?_, ?_, ?_⟩
    · rw [hd.store]; exact hfound
    · rw [hd.store]; exact hrow
    · rw [hd.cache]; exact hkey

/-! ## Ends -/

/-- What the row says once a call has reached its intent. -/
def Intent.InRow (s : Setup) (user : User) : Intent → SessionRow → Prop
  | .opens m, row => row.refreshToken = (m.pair s user).refresh ∧
    row.startedAt = some m.startedAt ∧ row.endedAt = none
  | .closes, row => row.refreshToken = "" ∧ row.endedAt.isSome = true

/-- What stands under the key once a call has reached its intent. -/
def Intent.InCache : Intent → Option Cache.Entry → Prop
  | .opens m, entry => ∃ e, entry = some e ∧ e.value = utf8 m.key.text
  | .closes, entry => entry = none

theorem Intent.inRow_of_serves {intent : Intent} {act : Act} {row : SessionRow}
    (h : intent.Serves s user act) (hr : RowShows act row) : intent.InRow s user row := by
  cases act with
  | store st =>
    cases st with
    | createSession new =>
      cases intent with
      | opens m =>
        obtain ⟨-, htoken, hstart⟩ := h
        exact ⟨hr.1.trans htoken, hr.2.1.trans (congrArg some hstart), hr.2.2⟩
      | closes => exact h.elim
    | updateSession update =>
      cases intent with
      | opens m =>
        obtain ⟨-, htoken, hstart⟩ := h
        exact ⟨hr.1.trans htoken, hr.2.1.trans (congrArg some hstart), hr.2.2⟩
      | closes => exact h.elim
    | endSession id endedAt =>
      cases intent with
      | opens m => exact h.elim
      | closes => exact hr
    | _ => exact hr.elim
  | _ => exact hr.elim

theorem Intent.inCache_of_serves {intent : Intent} {act : Act} {entry : Option Cache.Entry}
    (h : intent.Serves s user act) (hk : KeyShows act entry) : intent.InCache entry := by
  cases act with
  | cache cmd =>
    cases cmd with
    | set key value lifetime =>
      cases intent with
      | opens m =>
        obtain ⟨e, he, hvalue⟩ := hk
        exact ⟨e, he, hvalue.trans h.2.1⟩
      | closes => exact h.elim
    | delete key =>
      cases intent with
      | opens m => exact h.elim
      | closes => exact hk
    | _ => exact hk.elim
  | _ => exact hk.elim

/-- Only a call that closes the session ends anything. -/
theorem Intent.isEnding_iff {intent : Intent} {e : Event} (h : intent.Serves s user e.act) :
    isEnding e = true ↔ intent = .closes := by
  obtain ⟨act, answer⟩ := e
  cases intent with
  | opens m =>
    refine ⟨fun he => ?_, fun he => by cases he⟩
    cases act with
    | store st => cases st <;> first | exact h.elim | cases he
    | cache cmd => cases cmd <;> first | exact h.elim | cases he
    | _ => cases he
  | closes =>
    refine ⟨fun _ => rfl, fun _ => ?_⟩
    cases act with
    | store st => cases st <;> first | rfl | exact h.elim
    | cache cmd => cases cmd <;> first | rfl | exact h.elim
    | _ => exact h.elim

/-- A call that has ended and reached its intent. -/
structure Reached (s : Setup) (user : User) (intent : Intent) (t : Thread Op.Value) : Prop where
  finished : Finished s user intent t.past
  outcome : ∃ result, t.outcome? = some result ∧ Outcome s user t.call result intent

/-- A call that has ended and written anything has reached its intent. -/
theorem Held.reached (h : Held s user start.world log now) {t : Thread Op.Value}
    (ht : t ∈ now.threads) (hdone : t.outcome?.isSome = true) {e : Event} (he : e ∈ t.past)
    (hw : isRowWrite e = true ∨ isKeyWrite e = true) : ∃ intent, Reached s user intent t := by
  obtain ⟨result, hresult⟩ := Option.isSome_iff_exists.1 hdone
  rcases (h.follows t ht).end hresult with ⟨hclean, -⟩ | ⟨intent, hfinished, houtcome⟩
  · obtain ⟨hrow, hkey⟩ := hclean e he
    rcases hw with hw | hw
    · rw [hrow] at hw; cases hw
    · rw [hkey] at hw; cases hw
  · exact ⟨intent, hfinished, result, hresult, houtcome⟩

theorem Held.row_shows (h : Held s user start.world log now) {x : Nat × Event}
    (hx : System.last? isRowWrite log = some x) {t : Thread Op.Value} {intent : Intent}
    (hr : Reached s user intent t) (he : x.2 ∈ t.past) :
    ∃ row, now.world.store.rowFor user.id = some row ∧ intent.InRow s user row := by
  obtain ⟨row, hrow, hshows⟩ := h.row x hx
  have hserves := hr.finished.serves x.2 he (System.mem_of_last? hx).2
  exact ⟨row, hrow, Intent.inRow_of_serves hserves hshows⟩

theorem Held.key_shows (h : Held s user start.world log now) {x : Nat × Event}
    (hx : System.last? isKeyWrite log = some x) {t : Thread Op.Value} {intent : Intent}
    (hr : Reached s user intent t) (he : x.2 ∈ t.past) :
    intent.InCache (now.world.cache.find? (Sessions.key user.idCode)) := by
  have hserves := hr.finished.keyServes x.2 he (System.mem_of_last? hx).2
  exact Intent.inCache_of_serves hserves (h.key x hx)

/-- A key that stands in the cache is read. -/
theorem Unexpired.cached_eq (hu : Unexpired s user now) {m : Mint}
    (h : (Intent.opens m).InCache (now.world.cache.find? (Sessions.key user.idCode))) :
    cached user now.world = some (utf8 m.key.text) := by
  obtain ⟨e, he, hvalue⟩ := h
  have hlive := hu.key e he
  rw [cached, Cache.Memory.read?_eq, he, Cache.Memory.alive_some, if_pos hlive, Option.map_some,
    hvalue]

theorem cached_eq_none
    (h : Intent.closes.InCache (now.world.cache.find? (Sessions.key user.idCode))) :
    cached user now.world = none := by
  have hnone : now.world.cache.find? (Sessions.key user.idCode) = none := h
  rw [cached, Cache.Memory.read?_eq, hnone]
  rfl

/-- No row of another user stands before the row of the user. -/
theorem Kept.sessionByToken {w : World} (hs : Started s user start)
    (h : Kept s user start.world w) {m : Mint} (hm : m.InRange s) {row : SessionRow}
    (hrow : w.store.rowFor user.id = some row) (ht : row.refreshToken = (m.pair s user).refresh) :
    w.store.sessionByToken (m.pair s user).refresh = some row := by
  have hne := m.refresh_ne_empty s user
  obtain ⟨found, hfound⟩ := Store.Memory.exists_sessionByToken
    (Store.Memory.mem_of_rowFor hrow).1 ht hne
  obtain ⟨hmem, htoken, -⟩ := Store.Memory.mem_of_sessionByToken hfound
  have howner : found.userId = user.id := Decidable.byContradiction fun hother =>
    (hs.others found (h.mem_start hmem hother) hother (htoken ▸ hne)).1 m hm htoken
  have hsame := h.beside.rows.rowFor_of_mem hmem
  rw [howner, hrow] at hsame
  rw [hfound, hsame]

theorem together_of_opens (hl : Lasting s) (hs : Started s user start)
    (h : Held s user start.world log now) (hu : Unexpired s user now) {t : Thread Op.Value}
    (ht : t ∈ now.threads) {m : Mint} (hr : Reached s user (.opens m) t) {row : SessionRow}
    (hrow : now.world.store.rowFor user.id = some row) (hin : (Intent.opens m).InRow s user row)
    (hkey : (Intent.opens m).InCache (now.world.cache.find? (Sessions.key user.idCode))) :
    Together s user now := by
  obtain ⟨htoken, hstart, -⟩ := hin
  obtain ⟨hm, hissued, -⟩ : Minted s m t.past := hr.finished.knows
  obtain ⟨result, hresult, -, value, rfl, hpair⟩ := hr.outcome
  have hreading : m.issuedAt ∈ readings t.past := List.mem_filterMap.2 ⟨_, hissued, rfl⟩
  obtain ⟨haccess, hrefresh⟩ := hu.tokens t ht m.issuedAt hreading
  have hcached := hu.cached_eq hkey
  have hvalid : Token.validate s.suite.sign s.settings.token .refresh now.world.now
      (m.pair s user).refresh = .ok { m.snapshot user with userId := 0 } := by
    rw [Mint.validate_refresh hl hm, if_pos hrefresh]
  refine ⟨row, hrow, .inr ⟨_, htoken ▸ hvalid, hcached, m.pair s user,
    ⟨t, ht, value, hresult, hpair⟩, htoken.symm, ?_, ?_⟩⟩
  · exact acceptsRefresh_iff.2 ⟨row, _, h.kept.sessionByToken hs hm hrow htoken, hvalid, hstart⟩
  · have hvalid : Token.validate s.suite.sign s.settings.token .access now.world.now
        (m.pair s user).access = .ok { m.snapshot user with userId := 0 } := by
      rw [Mint.validate_access hl hm, if_pos haccess]
    refine (acceptsAccess_iff h.kept.up).2 ⟨_, hvalid, hs.named, Uuid.text_ne_empty m.key, ?_⟩
    have hread : now.world.cache.read? now.world.millis (Sessions.key user.idCode)
        = some (utf8 m.key.text) := hcached
    show Sessions.ofValue (now.world.cache.read? now.world.millis (Sessions.key user.idCode))
      = some m.key.text
    rw [hread]
    exact ofUtf8?_utf8 m.key.text

/-- Row and key do not belong together if two calls with different aims have written them last. -/
theorem same_of_together (hl : Lasting s) (hu : Unexpired s user now) {a b : Intent}
    {row : SessionRow} (hrow : now.world.store.rowFor user.id = some row) (hin : a.InRow s user row)
    (hkey : b.InCache (now.world.cache.find? (Sessions.key user.idCode)))
    (ha : ∀ m, a = .opens m → m.InRange s) (ht : Together s user now) :
    (a = .closes ∧ b = .closes) ∨ ∃ m m', a = .opens m ∧ b = .opens m' ∧ m.key = m'.key := by
  obtain ⟨row', hrow', hcase⟩ := ht
  rw [hrow, Option.some.injEq] at hrow'
  subst hrow'
  cases a with
  | closes =>
    cases b with
    | closes => exact .inl ⟨rfl, rfl⟩
    | opens m' =>
      rcases hcase with ⟨-, hnone⟩ | ⟨snapshot, -, -, pair, -, hpair, haccepts, -⟩
      · rw [hu.cached_eq hkey] at hnone
        cases hnone
      · obtain ⟨found, -, hfound, -⟩ := acceptsRefresh_iff.1 haccepts
        have hne := (Store.Memory.mem_of_sessionByToken hfound).2.2
        exact absurd (hpair.trans hin.1) hne
  | opens m =>
    rcases hcase with ⟨hended, -⟩ | ⟨snapshot, hvalid, hcached, -⟩
    · rw [hin.2.2] at hended
      cases hended
    · cases b with
      | closes =>
        rw [cached_eq_none hkey] at hcached
        cases hcached
      | opens m' =>
        have hm := ha m rfl
        rw [hin.1, Mint.validate_refresh hl hm] at hvalid
        split at hvalid
        · cases hvalid
          rw [hu.cached_eq hkey, Option.some.injEq] at hcached
          have htext : m'.key.text = m.key.text := utf8_injective hcached
          exact .inr ⟨m, m', rfl, rfl, (Uuid.text_injective htext).symm⟩
        · cases hvalid

theorem together_of_closes {row : SessionRow}
    (hrow : now.world.store.rowFor user.id = some row) (hin : Intent.closes.InRow s user row)
    (hkey : Intent.closes.InCache (now.world.cache.find? (Sessions.key user.idCode))) :
    Together s user now := ⟨row, hrow, .inl ⟨hin.2, cached_eq_none hkey⟩⟩

/-- The calls that have written row and key last, at the end of a run. -/
theorem Held.writers (h : Held s user start.world log now) (ho : Over now)
    (hlog : ∀ i e, (i, e) ∈ log ↔ ∃ t, now.threads[i]? = some t ∧ e ∈ t.past) :
    ∃ x y t u, System.last? isRowWrite log = some x ∧ System.last? isKeyWrite log = some y ∧
      now.threads[x.1]? = some t ∧ x.2 ∈ t.past ∧ (∃ a, Reached s user a t) ∧
      now.threads[y.1]? = some u ∧ y.2 ∈ u.past ∧ ∃ b, Reached s user b u := by
  obtain ⟨t, ht, hsucceeded⟩ := ho.success
  obtain ⟨value, hvalue⟩ := Thread.exists_of_succeeded hsucceeded
  obtain ⟨n, hn⟩ := List.getElem?_of_mem ht
  rcases (h.follows t ht).end hvalue with ⟨-, e, he⟩ | ⟨intent, hfinished, -⟩
  · cases he
  · obtain ⟨e, he, hrow⟩ := hfinished.written
    obtain ⟨e', he', hkey⟩ := hfinished.keyWritten
    obtain ⟨x, hx⟩ := System.exists_last? ((hlog n e).2 ⟨t, hn, he⟩) hrow
    obtain ⟨y, hy⟩ := System.exists_last? ((hlog n e').2 ⟨t, hn, he'⟩) hkey
    obtain ⟨hxmem, hxrow⟩ := System.mem_of_last? hx
    obtain ⟨hymem, hykey⟩ := System.mem_of_last? hy
    obtain ⟨tx, htx, hxpast⟩ := (hlog x.1 x.2).1 hxmem
    obtain ⟨ty, hty, hypast⟩ := (hlog y.1 y.2).1 hymem
    have hmx := List.mem_of_getElem? htx
    have hmy := List.mem_of_getElem? hty
    exact ⟨x, y, tx, ty, hx, hy, htx, hxpast,
      h.reached hmx (ho.ended tx hmx) hxpast (.inl hxrow), hty, hypast,
      h.reached hmy (ho.ended ty hmy) hypast (.inr hykey)⟩

theorem together_of_inStep (hl : Lasting s) (hs : Started s user start)
    (h : System.Runs (Steady s) start log now) (ho : Over now) (hu : Unexpired s user now)
    (hin : inStep log = true) : Together s user now := by
  have hheld := held_of_runs hl hs h
  obtain ⟨x, y, t, u, hx, hy, ht, hxt, ⟨a, ha⟩, hyu, hyt, ⟨b, hb⟩⟩ :=
    hheld.writers ho fun _ _ => h.mem_log (System.past_nil_of_start hs.calls)
  obtain ⟨row, hrow, hinrow⟩ := hheld.row_shows hx ha hxt
  have hclosesx := Intent.isEnding_iff (ha.finished.serves x.2 hxt (System.mem_of_last? hx).2)
  have hclosesy := Intent.isEnding_iff (hb.finished.keyServes y.2 hyt (System.mem_of_last? hy).2)
  have hkey : a.InCache (now.world.cache.find? (Sessions.key user.idCode)) := by
    rw [inStep, hx, hy] at hin
    rcases Bool.or_eq_true_iff.1 hin with hsame | hends
    · rw [← beq_iff_eq.1 hsame, ht, Option.some.injEq] at hyu
      subst hyu
      exact hheld.key_shows hy ha hyt
    · obtain ⟨hex, hey⟩ := Bool.and_eq_true_iff.1 hends
      have hkeyb := hheld.key_shows hy hb hyt
      rw [hclosesy.1 hey] at hkeyb
      rw [hclosesx.1 hex]
      exact hkeyb
  cases a with
  | opens m =>
    exact together_of_opens hl hs hheld hu (List.mem_of_getElem? ht) ha hrow hinrow hkey
  | closes => exact together_of_closes hrow hinrow hkey

theorem inStep_of_together (hl : Lasting s) (hs : Started s user start)
    (h : System.Runs (Steady s) start log now) (hd : System.Distinct now.world) (ho : Over now)
    (hu : Unexpired s user now) (htogether : Together s user now) : inStep log = true := by
  have hheld := held_of_runs hl hs h
  have hpast := System.past_nil_of_start hs.calls
  have hfresh := h.fresh hpast (fun _ _ hd => ⟨hd.drawn, hd.uuids⟩) hd
  obtain ⟨x, y, t, u, hx, hy, ht, hxt, ⟨a, ha⟩, hyu, hyt, ⟨b, hb⟩⟩ :=
    hheld.writers ho fun _ _ => h.mem_log hpast
  obtain ⟨row, hrow, hinrow⟩ := hheld.row_shows hx ha hxt
  have hkey := hheld.key_shows hy hb hyt
  have hrange (m : Mint) (hm : a = .opens m) : m.InRange s := by
    have hknows := ha.finished.knows
    rw [hm] at hknows
    exact hknows.inRange
  have hclosesx := Intent.isEnding_iff (ha.finished.serves x.2 hxt (System.mem_of_last? hx).2)
  have hclosesy := Intent.isEnding_iff (hb.finished.keyServes y.2 hyt (System.mem_of_last? hy).2)
  rw [inStep, hx, hy, Bool.or_eq_true]
  rcases same_of_together hl hu hrow hinrow hkey hrange htogether with ⟨rfl, rfl⟩ | hopens
  · exact .inr (Bool.and_eq_true_iff.2 ⟨hclosesx.2 rfl, hclosesy.2 rfl⟩)
  · obtain ⟨m, m', rfl, rfl, hsame⟩ := hopens
    have hmx : Minted s m t.past := ha.finished.knows
    have hmy : Minted s m' u.past := hb.finished.knows
    refine .inl (beq_iff_eq.2 (Decidable.byContradiction fun hne => ?_))
    exact hfresh.apart x.1 y.1 m.key m'.key ⟨t, ht, hmx.key⟩ ⟨u, hyu, hmy.key⟩ hne hsame

/-- Calls on the session of a user run at the same time, in every order of their acts. Once all
have ended, row and cached key belong together exactly if they were last written in step. -/
theorem together_iff_inStep (hl : Lasting s) (hs : Started s user start)
    (h : System.Runs (Steady s) start log now) (hd : System.Distinct now.world) (ho : Over now)
    (hu : Unexpired s user now) : Together s user now ↔ inStep log = true :=
  ⟨inStep_of_together hl hs h hd ho hu, together_of_inStep hl hs h ho hu⟩

/-! ## Two logins -/

/-- Two logins of one user who had no session. -/
def twoLogins : System Op.Value where
  world := Sample.home
  threads := [.create .google "192.0.2.1", .create .google "192.0.2.2"].map
    (Thread.start (Op.flow Sample.setup Sample.ada))

theorem lasting_sample : Lasting Sample.setup := ⟨by decide, by decide⟩

theorem twoLogins_started : Started Sample.setup Sample.ada twoLogins := by
  refine ⟨fun t ht => ?_, ⟨List.nodup_nil, List.nodup_nil⟩, rfl, rfl, by decide, ?_, ?_,
    fun _ => rfl, ⟨by decide, by decide, by decide⟩⟩
  · obtain ⟨o, -, rfl⟩ := List.mem_map.1 ht
    exact ⟨o, rfl⟩
  · intro row hrow
    cases hrow
  · intro row hrow
    cases hrow

/-- Both logins write the row before either writes the key; the keys come in the same order. -/
def inStepOrder : List Nat := [0, 0, 0, 0, 0, 0, 1, 1, 1, 1, 1, 1, 0, 1]

/-- Both logins write the row before either writes the key; the keys come in the other order. -/
def partedOrder : List Nat := [0, 0, 0, 0, 0, 0, 1, 1, 1, 1, 1, 1, 1, 0]

theorem together_of_inStepOrder :
    inStep (System.logOf inStepOrder twoLogins) = true ∧
      Together Sample.setup Sample.ada (twoLogins.schedule inStepOrder) := by
  have hin : inStep (System.logOf inStepOrder twoLogins) = true := by decide +kernel
  refine ⟨hin, (together_iff_inStep lasting_sample twoLogins_started
    (System.Runs.refl.schedule inStepOrder) ?_ ?_ ?_).2 hin⟩
  · exact Sample.distinct rfl (by decide +kernel)
  · exact ⟨by decide +kernel, by decide +kernel⟩
  · exact ⟨by decide +kernel, by decide +kernel⟩

theorem parted_of_partedOrder :
    System.Runs (Steady Sample.setup) twoLogins (System.logOf partedOrder twoLogins)
        (twoLogins.schedule partedOrder) ∧
      Started Sample.setup Sample.ada twoLogins ∧ Over (twoLogins.schedule partedOrder) ∧
      Unexpired Sample.setup Sample.ada (twoLogins.schedule partedOrder) ∧
      ¬ Together Sample.setup Sample.ada (twoLogins.schedule partedOrder) := by
  have hruns : System.Runs (Steady Sample.setup) twoLogins (System.logOf partedOrder twoLogins)
    (twoLogins.schedule partedOrder) := System.Runs.refl.schedule partedOrder
  have hover : Over (twoLogins.schedule partedOrder) := ⟨by decide +kernel, by decide +kernel⟩
  have hunexpired : Unexpired Sample.setup Sample.ada (twoLogins.schedule partedOrder) :=
    ⟨by decide +kernel, by decide +kernel⟩
  refine ⟨hruns, twoLogins_started, hover, hunexpired, fun htogether => ?_⟩
  have hdistinct : System.Distinct (twoLogins.schedule partedOrder).world :=
    Sample.distinct rfl (by decide +kernel)
  have hin := inStep_of_together lasting_sample twoLogins_started hruns hdistinct hover hunexpired
    htogether
  exact absurd hin (by decide +kernel)

end SignOn.Session
