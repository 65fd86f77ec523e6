import SignOn.Proofs.Account.Preconditions
import SignOn.Proofs.Flow.Concurrent
/-!
The worlds to which the calls of the account service can lead, whatever calls run at the same time,
whatever fails, and however time passes: `Reachable`. A call does only what it may do
(`flow_permitted`), so in every such world accounts are unique and regular, and every session row
has ended or carries the refresh token of a pair that was made for its own account: `Ledger`.
-/

namespace SignOn.Account

open SignOn.Session SignOn.Verification

/-! ## Reachable worlds -/

/-- Between the acts of the calls, whatever lies outside changes, and accounts may be taken out of
service. -/
structure Turns (w w' : World) : Prop where
  cache : w'.cache = w.cache
  store : w'.store = w.store ∨ ∃ id moment, w'.store = w.store.retireUser id moment

/-- Calls that have not done anything yet, in a world where nothing is stored. -/
structure Opens (s : Setup) (start : System Call.Value) : Prop where
  store : start.world.store = {}
  cache : start.world.cache = {}
  calls : ∀ t ∈ start.threads, ∃ k, t = Thread.start (Call.flow s) k

/-- A world to which calls can lead, in any interleaving of their acts. -/
def Reachable (s : Setup) (w : World) : Prop :=
  ∃ start now, Opens s start ∧ System.Reaches Turns start now ∧ now.world = w

variable {s : Setup} {w w' : World}

theorem Reachable.empty (hs : w.store = {}) (hc : w.cache = {}) : Reachable s w :=
  ⟨⟨w, []⟩, ⟨w, []⟩, ⟨hs, hc, fun _ h => by cases h⟩, .refl, rfl⟩

theorem Reachable.turns (h : Reachable s w) (ht : Turns w w') : Reachable s w' := by
  obtain ⟨start, now, hstart, hreaches, rfl⟩ := h
  exact ⟨start, ⟨w', now.threads⟩, hstart, hreaches.tail (.drift ht), rfl⟩

/-- One more call may come, and run alone. -/
theorem Reachable.call (h : Reachable s w) (k : Call) : Reachable s ((k.flow s).run w).2 := by
  obtain ⟨start, now, hstart, hreaches, rfl⟩ := h
  have hlast : (now.threads ++ [Thread.start (Call.flow s) k])[now.threads.length]?
      = some ⟨k, [], k.flow s⟩ := by simp [Thread.start]
  obtain ⟨ts, hrun⟩ := System.reaches_run Turns
    (s := ⟨now.world, now.threads ++ [Thread.start (Call.flow s) k]⟩) hlast
  refine ⟨⟨start.world, start.threads ++ [Thread.start (Call.flow s) k]⟩, _,
    ⟨hstart.store, hstart.cache, fun t ht => ?_⟩, (hreaches.append _).trans hrun, rfl⟩
  rcases List.mem_append.1 ht with ht | ht
  · exact hstart.calls t ht
  · exact ⟨k, List.mem_singleton.1 ht⟩

/-! ## The ledger -/

/-- A stored account as one to be stored. -/
def asNew (user : User) : NewUser :=
  ⟨user.idCode, user.email, user.phone, user.passwordHash, user.activated, user.provider⟩

/-- A row whose session has ended. -/
structure IsEnded (row : SessionRow) : Prop where
  token : row.refreshToken = ""
  ip : row.ip = ""
  ended : row.endedAt.isSome = true

/-- A row that carries the refresh token of a pair. What the clock showed when the pair was issued
satisfies `P`. -/
structure Carries (s : Setup) (P : Int → Prop) (user : User) (m : Mint) (row : SessionRow) :
    Prop where
  token : row.refreshToken = (m.pair s user).refresh
  started : row.startedAt = some m.startedAt
  active : row.endedAt = none
  startedAt : Token.IsInt64 m.startedAt
  issuedAt : P m.issuedAt

/-- A row of a registered account, ended or with a token that was made for that account. -/
def Belongs (s : Setup) (P : Int → Prop) (store : Store.Memory) (row : SessionRow) : Prop :=
  ∃ user, store.Known user ∧ row.userId = user.id ∧
    (IsEnded row ∨ ∃ m, Carries s P user m row)

/-- What holds of the store at all times, if what the clock shows always satisfies `P`. -/
structure Ledger (s : Setup) (P : Int → Prop) (store : Store.Memory) : Prop where
  unique : store.Unique
  regular : ∀ user ∈ store.roster, IsRegular s (asNew user)
  rows : store.Rows
  belongs : ∀ id row, store.rowFor id = some row → Belongs s P store row

/-- What the clock and the store bear out of an event. -/
structure Confirmed (s : Setup) (P : Int → Prop) (store : Store.Memory) (e : Event) : Prop where
  clock : ∀ n, e = ⟨.clock, n⟩ → Token.IsInt64 n ∧ P n
  row : ∀ token row, e = ⟨.store (.sessionByToken token), .ok (some row)⟩ →
    row.refreshToken = token ∧ token ≠ "" ∧ Belongs s P store row
  user : ∀ user, shown? e = some user → store.Known user
  number : ∀ id user, e = ⟨.store (.userById id), .ok (some user)⟩ → user.id = id
  code : ∀ code user, e = ⟨.store (.userByIdCode code), .ok (some user)⟩ → user.idCode = code
  faithful : Faithful e

variable {P : Int → Prop} {store store' : Store.Memory}

theorem ledger_empty (s : Setup) (P : Int → Prop) : Ledger s P {} :=
  ⟨Store.Memory.unique_empty, fun _ h => absurd h List.not_mem_nil,
    ⟨List.nodup_nil, List.nodup_nil⟩, fun _ _ h => by cases h⟩

theorem Belongs.mono (hk : ∀ user, store.Known user → store'.Known user) {row : SessionRow}
    (h : Belongs s P store row) : Belongs s P store' row := by
  obtain ⟨user, hu, hrow⟩ := h
  exact ⟨user, hk user hu, hrow⟩

theorem Confirmed.mono (hk : ∀ user, store.Known user → store'.Known user) {e : Event}
    (h : Confirmed s P store e) : Confirmed s P store' e where
  clock := h.clock
  row token row he := by
    obtain ⟨htoken, hne, hrow⟩ := h.row token row he
    exact ⟨htoken, hne, hrow.mono hk⟩
  user user hu := hk user (h.user user hu)
  number := h.number
  code := h.code
  faithful := h.faithful

/-- What is registered stays registered while calls act. -/
theorem known_perform {user : User} (h : w.store.Known user) (act : Act) :
    (w.perform act).2.store.Known user := by
  cases act with
  | store st => exact h.perform st
  | _ => rw [w.perform_store_eq (by intro st hst; cases hst)]; exact h

/-- An account that an act shows is stored. -/
theorem mem_of_shown {act : Act} {user : User} (h : shown? (w.event act) = some user) :
    user ∈ (w.perform act).2.store.users := by
  cases act with
  | store st =>
    cases st with
    | createUser new =>
      show user ∈ (w.store.createUser new w.instant).2.users
      change shown? ⟨.store (.createUser new), (w.store.createUser new w.instant).1⟩
        = some user at h
      rcases Store.Memory.createUser_cases w.store new w.instant with he | ⟨he, -⟩
      · rw [he] at h
        cases h
      · rw [he] at h ⊢
        obtain rfl := Option.some.inj h
        exact List.mem_append_right _ (List.mem_singleton_self _)
    | userById id => exact List.mem_of_find?_eq_some h
    | userByIdCode idCode => exact List.mem_of_find?_eq_some h
    | userByEmail email => exact List.mem_of_find?_eq_some h
    | userByPhone phone => exact List.mem_of_find?_eq_some h
    | _ => cases h
  | _ => cases h

theorem faithful_event (w : World) (act : Act) : Faithful (w.event act) := by
  cases act with
  | store st =>
    cases st with
    | createUser new =>
      change Faithful ⟨.store (.createUser new), (w.store.createUser new w.instant).1⟩
      rcases Store.Memory.createUser_cases w.store new w.instant with he | ⟨he, -⟩
      · rw [he]
        trivial
      · rw [he]
        exact ⟨rfl, rfl, rfl⟩
    | _ => trivial
  | _ => trivial

/-- What happens is borne out. -/
theorem Ledger.confirmed (h : Ledger s P w.store) (hp : P w.now) (act : Act) :
    Confirmed s P (w.perform act).2.store (w.event act) where
  clock n he := by
    obtain rfl : act = .clock := congrArg Event.act he
    cases he
    exact ⟨w.now_bounds, hp⟩
  row token row he := by
    obtain rfl : act = .store (.sessionByToken token) := congrArg Event.act he
    have hanswer := eq_of_heq (Event.mk.inj he).2
    have hfound : w.store.sessionByToken token = some row := Except.ok.inj hanswer
    obtain ⟨hrow, htoken, hne⟩ := Store.Memory.mem_of_sessionByToken hfound
    exact ⟨htoken, hne, h.belongs _ row (h.rows.rowFor_of_mem hrow)⟩
  user user hu := Store.Memory.known_of_mem (mem_of_shown hu)
  number id user he := by
    obtain rfl : act = .store (.userById id) := congrArg Event.act he
    have hanswer := eq_of_heq (Event.mk.inj he).2
    have hfound : w.store.users.find? (·.id == id) = some user := Except.ok.inj hanswer
    simpa using List.find?_some hfound
  code code user he := by
    obtain rfl : act = .store (.userByIdCode code) := congrArg Event.act he
    have hanswer := eq_of_heq (Event.mk.inj he).2
    have hfound : w.store.users.find? (·.idCode == code) = some user := Except.ok.inj hanswer
    simpa using List.find?_some hfound
  faithful := faithful_event w act

/-! ## What one act leaves -/

section
variable {k : Call} {past : List Event}

/-- What a call may write into a row leaves a row of a registered account. -/
theorem Writes.carries {userId startedAt : Int} {token : String}
    (h : Writes s k past userId token startedAt) (hconfirmed : ∀ e ∈ past, Confirmed s P store e) :
    ∃ user m, store.Known user ∧ userId = user.id ∧ ∀ row : SessionRow,
      row.refreshToken = token → row.startedAt = some startedAt → row.endedAt = none →
        Carries s P user m row := by
  obtain ⟨user, m, ⟨⟨-, e, he, hshown⟩, hstarted, hissued⟩, -, hid, rfl, rfl⟩ := h
  refine ⟨user, m, (hconfirmed e he).user user hshown, hid, fun row htoken hstart hactive => ?_⟩
  exact ⟨htoken, hstart, hactive, ((hconfirmed _ hstarted).clock _ rfl).1,
    ((hconfirmed _ hissued).clock _ rfl).2⟩

theorem Ledger.createUser (h : Ledger s P store) {new : NewUser} (hnew : IsRegular s new)
    (now : Instant) : Ledger s P (store.createUser new now).2 := by
  have hknown (user : User) (hu : store.Known user) :
      (store.perform now (.createUser new)).2.Known user := hu.perform (.createUser new)
  rw [Store.Memory.perform] at hknown
  rcases Store.Memory.createUser_cases store new now with he | ⟨he, hfree⟩
  · rw [he]
    exact h
  · rw [he] at hknown ⊢
    refine ⟨h.unique.append hfree, fun user hu => ?_, ⟨h.rows.ids, h.rows.users⟩,
      fun id row hr => (h.belongs id row hr).mono hknown⟩
    rw [Store.Memory.roster, List.map_append] at hu
    rcases List.mem_append.1 hu with hu | hu
    · exact h.regular user hu
    · rw [List.map_singleton, List.mem_singleton] at hu
      exact hu ▸ hnew

theorem Ledger.createSession (h : Ledger s P store) {new : NewSession}
    (hw : Writes s k past new.userId new.refreshToken new.startedAt)
    (hconfirmed : ∀ e ∈ past, Confirmed s P store e) : Ledger s P (store.createSession new).2 := by
  have husers := Store.Memory.users_createSession (s := store) new
  have hroster : (store.createSession new).2.roster = store.roster := by
    rw [Store.Memory.roster, husers]; rfl
  have hknown (user : User) (hu : store.Known user) : (store.createSession new).2.Known user := by
    rw [Store.Memory.Known, hroster]; exact hu
  refine ⟨h.unique.of_roster hroster, hroster ▸ h.regular, h.rows.createSession new,
    fun id row hr => ?_⟩
  by_cases hid : id = new.userId
  · obtain ⟨user, m, hu, howner, hcarries⟩ := hw.carries hconfirmed
    obtain ⟨number, hrow, -⟩ := Store.Memory.rowFor_createSession_self h.rows new
    rw [hid, hrow, Option.some.injEq] at hr
    subst hr
    exact ⟨user, hknown user hu, howner, .inr ⟨m, hcarries _ rfl rfl rfl⟩⟩
  · rw [Store.Memory.rowFor_createSession_ne h.rows hid] at hr
    exact (h.belongs id row hr).mono hknown

theorem Ledger.updateSession (h : Ledger s P store) {update : SessionUpdate}
    (hw : Writes s k past update.userId update.refreshToken update.startedAt)
    (hconfirmed : ∀ e ∈ past, Confirmed s P store e) :
    Ledger s P (store.updateSession update).2 := by
  refine ⟨h.unique.of_roster rfl, h.regular, h.rows.updateSession update, fun id row hr => ?_⟩
  by_cases hid : id = update.userId
  · obtain ⟨user, m, hu, howner, hcarries⟩ := hw.carries hconfirmed
    rw [hid, Store.Memory.rowFor_updateSession_self] at hr
    obtain ⟨old, hold, rfl⟩ := Option.map_eq_some_iff.1 hr
    have holdUser : old.userId = user.id := (Store.Memory.mem_of_rowFor hold).2.trans howner
    exact ⟨user, hu, holdUser, .inr ⟨m, hcarries _ rfl rfl rfl⟩⟩
  · rw [Store.Memory.rowFor_updateSession_ne hid] at hr
    exact h.belongs id row hr

theorem Ledger.endSession (h : Ledger s P store) (id endedAt : Int) :
    Ledger s P (store.endSession id endedAt) := by
  have hroster : (store.endSession id endedAt).roster = store.roster := rfl
  refine ⟨h.unique.of_roster hroster, h.regular, h.rows.endSession id endedAt,
    fun userId row hr => ?_⟩
  rw [Store.Memory.endSession_eq_map h.rows,
    Store.Memory.rowFor_map ((Store.Memory.inPlace_close endedAt).ite _)] at hr
  obtain ⟨old, hold, rfl⟩ := Option.map_eq_some_iff.1 hr
  obtain ⟨user, hu, howner, hstate⟩ := h.belongs userId old hold
  split
  · exact ⟨user, hu, howner, .inl ⟨rfl, rfl, rfl⟩⟩
  · exact ⟨user, hu, howner, hstate⟩

/-- An act that a call may do leaves the ledger in order. -/
theorem Ledger.act (h : Ledger s P w.store) (hconfirmed : ∀ e ∈ past, Confirmed s P w.store e)
    {act : Act} (ha : Permitted s k past act) : Ledger s P (w.perform act).2.store := by
  cases act with
  | store st =>
    cases st with
    | createUser new => exact h.createUser ha.1 w.instant
    | createSession new => exact h.createSession ha hconfirmed
    | updateSession update => exact h.updateSession ha hconfirmed
    | endSession id endedAt => exact h.endSession id endedAt
    | _ => exact h
  | _ => rw [w.perform_store_eq (by intro st hst; cases hst)]; exact h

end

theorem Turns.roster (h : Turns w w') : w'.store.roster = w.store.roster := by
  rcases h.store with he | ⟨id, moment, he⟩
  · rw [he]
  · rw [he, Store.Memory.roster_retireUser]

theorem Turns.known (h : Turns w w') {user : User} (hu : w.store.Known user) :
    w'.store.Known user := by
  rw [Store.Memory.Known, h.roster]
  exact hu

theorem Turns.sessions (h : Turns w w') : w'.store.sessions = w.store.sessions := by
  rcases h.store with he | ⟨id, moment, he⟩
  · rw [he]
  · rw [he]; rfl

theorem Ledger.turns (h : Ledger s P w.store) (ht : Turns w w') : Ledger s P w'.store := by
  have hrowFor (id : Int) : w'.store.rowFor id = w.store.rowFor id := by
    rw [Store.Memory.rowFor, ht.sessions]; rfl
  refine ⟨h.unique.of_roster ht.roster, ht.roster ▸ h.regular, ?_, fun id row hr => ?_⟩
  · exact ⟨ht.sessions ▸ h.rows.ids, ht.sessions ▸ h.rows.users⟩
  · exact (h.belongs id row (hrowFor id ▸ hr)).mono fun user hu => ht.known hu

/-! ## Runs -/

/-- Calls that have not done anything yet. -/
def Fresh (s : Setup) (sys : System Call.Value) : Prop :=
  ∀ t ∈ sys.threads, ∃ k, t = Thread.start (Call.flow s) k

theorem fresh_of_calls {sys : System Call.Value} {ks : List Call}
    (h : sys.threads = ks.map (Thread.start (Call.flow s))) : Fresh s sys := by
  intro t ht
  rw [h] at ht
  obtain ⟨k, -, rfl⟩ := List.mem_map.1 ht
  exact ⟨k, rfl⟩

/-- How a call may end. -/
def Closes (s : Setup) (k : Call) (past : List Event) (result : Except Failure k.Value) : Prop :=
  ∀ answer, result = .ok answer → Ends s k past answer

theorem Call.pair?_error (k : Call) (e : Failure) : k.pair? (.error e) = none := by
  cases k <;> rfl

/-- The pair that a call hands out is one that it has made. -/
theorem Closes.handed {k : Call} {past : List Event} {result : Except Failure k.Value}
    {pair : TokenPair} (h : Closes s k past result) (hp : k.pair? result = some pair) :
    Handed s past pair := by
  cases result with
  | error e => rw [Call.pair?_error] at hp; cases hp
  | ok answer => exact (h answer rfl).handed pair hp

/-- A call that has done only what it may do, goes on so, and whose events are borne out. -/
structure Keeps (s : Setup) (P : Int → Prop) (store : Store.Memory) (t : Thread Call.Value) :
    Prop where
  course : t.Follows Faithful (Permitted s) (Closes s)
  allowed : t.Allowed (Permitted s)
  confirmed : ∀ e ∈ t.past, Confirmed s P store e

section
variable {drift : World → World → Prop} {start now : System Call.Value}
  (hd : ∀ w w', drift w w' → Turns w w' ∧ P w'.now) (hc : Fresh s start)
  (hl : Ledger s P start.world.store) (hp : P start.world.now)
include hd hc hl hp

/-- The ledger stays in order, and the events of calls are borne out. -/
theorem courses_of_reaches (hr : System.Reaches drift start now) :
    (Ledger s P now.world.store ∧ P now.world.now) ∧ ∀ t ∈ now.threads,
      t.Follows Faithful (Permitted s) (Closes s) ∧
        ∀ e ∈ t.past, Confirmed s P now.world.store e := by
  refine hr.courses (W := fun w => Ledger s P w.store ∧ P w.now)
    (F := fun w => Confirmed s P w.store) ⟨hl, hp⟩ (fun t ht => ?_) ?_ ?_
  · obtain ⟨k, rfl⟩ := hc t ht
    exact ⟨flow_permitted s k, fun e he => absurd he List.not_mem_nil⟩
  · intro w k past act _ hw hconfirmed ha
    exact ⟨⟨hw.1.act hconfirmed ha, w.perform_now act ▸ hw.2⟩, faithful_event w act,
      hw.1.confirmed hw.2 act, fun e he => he.mono fun _ hu => known_perform hu act⟩
  · intro w w' hdrift hw
    obtain ⟨hturns, hp'⟩ := hd w w' hdrift
    exact ⟨⟨hw.1.turns hturns, hp'⟩, fun e he => he.mono fun _ hu => hturns.known hu⟩

/-- The calls have done what they may do. -/
theorem keeps_of_reaches (hr : System.Reaches drift start now) :
    Ledger s P now.world.store ∧ ∀ t ∈ now.threads, Keeps s P now.world.store t := by
  obtain ⟨⟨hledger, -⟩, hthreads⟩ := courses_of_reaches hd hc hl hp hr
  have hallowed := hr.allowed
    (fun mid hmid t ht => ((courses_of_reaches hd hc hl hp hmid).2 t ht).1) fun t ht => by
      obtain ⟨k, rfl⟩ := hc t ht
      exact Thread.allowed_start _ _ k
  exact ⟨hledger, fun t ht => ⟨(hthreads t ht).1, hallowed t ht, (hthreads t ht).2⟩⟩

end

/-- In every world to which calls can lead, the ledger is in order. -/
theorem Reachable.ledger (h : Reachable s w) : Ledger s (fun _ => True) w.store := by
  obtain ⟨start, now, hstart, hreaches, rfl⟩ := h
  exact (keeps_of_reaches (fun _ _ ht => ⟨ht, trivial⟩) hstart.calls
    (hstart.store ▸ ledger_empty s _) trivial hreaches).1

theorem Ledger.rowsOwned (h : Ledger s P store) : store.RowsOwned := by
  refine ⟨h.rows, h.unique.ids, fun id row hr => ?_⟩
  obtain ⟨user, hu, howner, -⟩ := h.belongs id row hr
  obtain ⟨stored, hs, hid, -⟩ := hu.stored
  exact ⟨stored, hs, hid.trans (howner.symm.trans (Store.Memory.mem_of_rowFor hr).2)⟩

/-- In every world to which calls can lead, every session row belongs to an account. -/
theorem Reachable.rowsOwned (h : Reachable s w) : w.store.RowsOwned := h.ledger.rowsOwned

end SignOn.Account
