import Mathlib.Logic.Function.Basic
import SignOn.Proofs.Flow.World
import SignOn.Proofs.Keyspace
import SignOn.Proofs.Session.Mint
import SignOn.Proofs.Store.Accounts
/-!
The book of sessions: for every user, the pair of which the row holds the refresh token, and the
pair of which the cache holds the key. `Book` says that a world is as the book has it. Every act
moves the book in at most one place: writing a row or a key enters a pair or strikes it out, and all
other acts, like the passing of time, leave the book as it is.
-/

namespace SignOn.Session

open SignOn.Keyspace SignOn.Text

/-! ## Entries -/

/-- A row holds the refresh token of a pair, or of none. -/
def RowIs (s : Setup) (user : User) (row : Option SessionRow) : Option Mint → Prop
  | none => ∀ r, row = some r → r.refreshToken = ""
  | some m => ∃ r, row = some r ∧ r.refreshToken = (m.pair s user).refresh ∧
    r.startedAt = some m.startedAt

/-- When the access token of a pair expires, in milliseconds that the cache can name. -/
def lastMoment (s : Setup) (m : Mint) : Int :=
  min ((m.issuedAt + s.settings.token.accessTtl) * 1000) Cache.Memory.lastMilli

/-- Under a key of the cache stands the session key of a pair, at least as long as the access token
lives, or nothing. -/
def KeyIs (s : Setup) (now : Int) (entry : Option Cache.Entry) : Option Mint → Prop
  | none => entry = none
  | some m =>
    (∃ expires, entry = some ⟨utf8 m.key.text, some expires⟩ ∧ lastMoment s m ≤ expires) ∨
      (entry = none ∧ m.issuedAt + s.settings.token.accessTtl ≤ now)

/-- A world in which rows and cached keys are those of given pairs. -/
structure Book (s : Setup) (rows keys : Int → Option Mint) (w : World) : Prop where
  sound : w.store.Rows
  accounts : w.store.Accounts
  row : ∀ user ∈ w.store.users, RowIs s user (w.store.rowFor user.id) (rows user.id)
  key : ∀ user ∈ w.store.users,
    KeyIs s w.now (w.cache.find? (Sessions.key user.idCode)) (keys user.id)
  inRange : ∀ id m, rows id = some m → m.InRange s
  strangers : ∀ id, (∀ user ∈ w.store.users, user.id ≠ id) →
    w.store.rowFor id = none ∧ rows id = none ∧ keys id = none
  noStrangeKey : ∀ code, (∀ user ∈ w.store.users, user.idCode ≠ code) →
    w.cache.find? (Sessions.key code) = none
  keyed : w.cache.Keyed
  up : ∀ n, w.outside.cacheFails n = false
  clocked : Clocked s w.now

variable {s : Setup} {rows keys : Int → Option Mint} {w w' : World} {user : User} {m : Mint}

/-! ## Time -/

theorem KeyIs.later {now now' : Int} {entry : Option Cache.Entry} {status : Option Mint}
    (h : KeyIs s now entry status) (hn : now ≤ now') : KeyIs s now' entry status := by
  cases status with
  | none => exact h
  | some m =>
    rcases h with hlive | ⟨hnone, hdead⟩
    · exact .inl hlive
    · exact .inr ⟨hnone, by omega⟩

/-- A session key fades only when the access token has expired. -/
theorem KeyIs.fade {entry : Option Cache.Entry} {status : Option Mint}
    (h : KeyIs s w.now entry status) :
    KeyIs s w.now (Cache.Memory.alive w.millis entry) status := by
  cases status with
  | none => rw [show entry = none from h]; rfl
  | some m =>
    rcases h with ⟨expires, rfl, hle⟩ | ⟨rfl, hdead⟩
    · rw [Cache.Memory.alive_some]
      split
      · exact .inl ⟨expires, rfl, hle⟩
      · next hdead =>
        have hlast := w.millis_lt_lastMilli
        have hbegun := w.now_le_millis
        have hexpired : ¬ w.millis < expires := by simpa [Cache.Entry.isLive] using hdead
        refine .inr ⟨rfl, ?_⟩
        unfold lastMoment at hle
        omega
    · exact .inr ⟨rfl, hdead⟩

theorem Book.passes (h : Book s rows keys w) (hp : Passes s w w') : Book s rows keys w' := by
  obtain ⟨⟨hstore, hcache, -, -, hup, hclocked⟩, hforward⟩ := hp
  refine ⟨hstore ▸ h.sound, hstore ▸ h.accounts, ?_, ?_, h.inRange, ?_, ?_, hcache ▸ h.keyed, hup,
    hclocked⟩
  · rw [hstore]
    exact h.row
  · rw [hstore, hcache]
    exact fun user hu => (h.key user hu).later hforward
  · rw [hstore]
    exact h.strangers
  · rw [hstore, hcache]
    exact h.noStrangeKey

/-! ## Acts that leave the book alone -/

/-- An act that writes no session row and no session key. -/
def IsCalm : Act → Prop
  | .cache cmd => ∀ code, cmd.key? ≠ some (Sessions.key code)
  | .store (.createUser new) => new.idCode ≠ ""
  | .store (.createSession _) => False
  | .store (.updateSession _) => False
  | .store (.endSession ..) => False
  | _ => True

/-- A change of the cache that touches no session key. -/
theorem Book.of_cache {cache : Cache.Memory} {lost calls : Nat} (h : Book s rows keys w)
    (hk : cache.Keyed) (hc : ∀ code,
      cache.find? (Sessions.key code) = w.cache.find? (Sessions.key code) ∨
      cache.find? (Sessions.key code)
        = Cache.Memory.alive w.millis (w.cache.find? (Sessions.key code))) :
    Book s rows keys { w with cache := cache, lostSwaps := lost, cacheCalls := calls } := by
  refine ⟨h.sound, h.accounts, h.row, fun user hu => ?_, h.inRange, h.strangers,
    fun code hcode => ?_, hk, h.up, h.clocked⟩
  · have hkey := h.key user hu
    rcases hc user.idCode with hsame | hfaded
    · rw [← hsame] at hkey
      exact hkey
    · have hfade := hkey.fade
      rw [← hfaded] at hfade
      exact hfade
  · have hnone := h.noStrangeKey code hcode
    rcases hc code with hsame | hfaded
    · exact hsame.trans hnone
    · rw [hnone] at hfaded
      exact hfaded

theorem Book.command (h : Book s rows keys w) {cmd : Cache.Command}
    (hc : ∀ code, cmd.key? ≠ some (Sessions.key code)) :
    Book s rows keys (w.perform (.cache cmd)).2 := by
  obtain ⟨lost, calls, answer, cache, he, hcases⟩ := w.performCache_cases cmd
  rw [he]
  rcases hcases with ⟨e, -, rfl⟩ | ⟨-, -, rfl⟩ | ⟨-, rfl⟩
  · exact h.of_cache h.keyed fun code => .inl rfl
  · exact h.of_cache h.keyed fun code => .inl rfl
  · exact h.of_cache (h.keyed.perform _ _) fun code =>
      Cache.Memory.perform_of_key_ne h.keyed w.millis (hc code)

/-- A new user has no session. -/
theorem Book.createUser (h : Book s rows keys w) {new : NewUser} (hn : new.idCode ≠ "") :
    Book s rows keys (w.perform (.store (.createUser new))).2 := by
  show Book s rows keys { w with store := (w.store.createUser new w.instant).2 }
  rcases Store.Memory.createUser_cases w.store new w.instant with he | ⟨he, hfree⟩
  · rw [he]
    exact h
  · rw [he]
    have hid (user : User) (hu : user ∈ w.store.users) :
      user.id ≠ (w.store.accountFor new w.instant).id := Store.Memory.id_accountFor_ne hu
    -- Nobody had the new number, so neither the book nor the store knows anything under it.
    have hstranger := h.strangers (w.store.accountFor new w.instant).id hid
    refine ⟨⟨h.sound.ids, h.sound.users⟩, h.accounts.append hn hfree, fun user hu => ?_,
      fun user hu => ?_, h.inRange, fun id hall => ?_, fun code hall => ?_, h.keyed, h.up,
      h.clocked⟩
    · rcases List.mem_append.1 hu with hu | hu
      · exact h.row user hu
      · rw [List.mem_singleton.1 hu, hstranger.2.1]
        intro r hr
        have hnone : w.store.rowFor (w.store.accountFor new w.instant).id = some r := hr
        rw [hstranger.1] at hnone
        cases hnone
    · rcases List.mem_append.1 hu with hu | hu
      · exact h.key user hu
      · rw [List.mem_singleton.1 hu, hstranger.2.2]
        exact h.noStrangeKey new.idCode fun user hu =>
          (Store.conflicts_eq_false.1 (hfree user hu)).1
    · exact h.strangers id fun user hu => hall user (List.mem_append_left _ hu)
    · exact h.noStrangeKey code fun user hu => hall user (List.mem_append_left _ hu)

/-- A calm act leaves the book as it is. -/
theorem Book.calm (h : Book s rows keys w) {act : Act} (ha : IsCalm act) :
    Book s rows keys (w.perform act).2 := by
  have hsame (hs : (w.perform act).2.store = w.store) (hc : (w.perform act).2.cache = w.cache) :
      Book s rows keys (w.perform act).2 := by
    obtain ⟨hsound, haccounts, hrow, hkey, hrange, hstrangers, hstrange, hkeyed, hup, hclocked⟩ := h
    constructor
    all_goals (try rw [hs]); (try rw [hc]); (try rw [w.perform_now]); (try rw [w.perform_outside])
    all_goals assumption
  cases act with
  | cache cmd => exact h.command ha
  | store st =>
    cases st with
    | createUser new => exact h.createUser ha
    | createSession new => exact ha.elim
    | updateSession update => exact ha.elim
    | endSession id endedAt => exact ha.elim
    | _ => exact h
  | _ =>
    exact hsame (w.perform_store_eq (by intro st hst; cases hst))
      (w.perform_cache_eq (by intro cmd hcmd; cases hcmd))

/-! ## Writing rows -/

theorem Book.of_row {store : Store.Memory} {status : Option Mint} (h : Book s rows keys w)
    (hu : user ∈ w.store.users) (hb : w.store.Beside user.id store)
    (hrow : RowIs s user (store.rowFor user.id) status)
    (hrange : ∀ m, status = some m → m.InRange s) :
    Book s (Function.update rows user.id status) keys { w with store := store } := by
  have husers : store.users = w.store.users := hb.users
  refine ⟨hb.rows, ⟨?_, ?_, ?_⟩, ?_, ?_, fun id m hm => ?_, ?_, ?_, h.keyed, h.up, h.clocked⟩
  · rw [husers]
    exact h.accounts.ids
  · rw [husers]
    exact h.accounts.codes
  · rw [husers]
    exact h.accounts.named
  · rw [husers]
    intro other ho
    by_cases hid : other.id = user.id
    · obtain rfl := h.accounts.eq_of_id ho hu hid
      rw [Function.update_self]
      exact hrow
    · rw [Function.update_of_ne hid, hb.others other.id hid]
      exact h.row other ho
  · rw [husers]
    exact h.key
  · by_cases hid : id = user.id
    · rw [hid, Function.update_self] at hm
      exact hrange m hm
    · rw [Function.update_of_ne hid] at hm
      exact h.inRange id m hm
  · rw [husers]
    intro id hall
    have hid : id ≠ user.id := fun he => hall user hu he.symm
    rw [Function.update_of_ne hid, hb.others id hid]
    exact h.strangers id hall
  · rw [husers]
    exact h.noStrangeKey

/-- A session that begins enters a pair. -/
theorem Book.createSession (h : Book s rows keys w) (hu : user ∈ w.store.users)
    (hm : m.InRange s) {new : NewSession} (hid : new.userId = user.id)
    (ht : new.refreshToken = (m.pair s user).refresh) (hs : new.startedAt = m.startedAt) :
    Book s (Function.update rows user.id (some m)) keys
      (w.perform (.store (.createSession new))).2 := by
  obtain ⟨id, hrow, -⟩ := Store.Memory.rowFor_createSession_self h.sound new
  have hb := Store.Memory.Beside.createSession h.sound new
  rw [hid] at hrow hb
  refine h.of_row hu hb ⟨_, hrow, ht, congrArg some hs⟩ fun m' hm' => ?_
  cases hm'
  exact hm

/-- A rotation enters a pair, if there is a row. -/
theorem Book.updateSession (h : Book s rows keys w) (hu : user ∈ w.store.users)
    (hm : m.InRange s) {update : SessionUpdate} (hid : update.userId = user.id)
    (ht : update.refreshToken = (m.pair s user).refresh) (hs : update.startedAt = m.startedAt) :
    ∃ found, (w.perform (.store (.updateSession update))).1 = .ok found ∧
      Book s (if found then Function.update rows user.id (some m) else rows) keys
        (w.perform (.store (.updateSession update))).2 := by
  have hfound := Store.Memory.updateSession_found (s := w.store) update
  have hrow := Store.Memory.rowFor_updateSession_self (s := w.store) update
  have hb := Store.Memory.Beside.updateSession h.sound update
  rw [hid] at hfound hrow hb
  refine ⟨_, rfl, ?_⟩
  show Book s (if (w.store.updateSession update).1 then _ else _) keys
    { w with store := (w.store.updateSession update).2 }
  rw [hfound]
  cases ho : w.store.rowFor user.id with
  | some old =>
    rw [ho] at hrow
    refine h.of_row hu hb ⟨_, hrow, ht, congrArg some hs⟩ fun m' hm' => ?_
    cases hm'
    exact hm
  | none =>
    rw [ho] at hrow
    have hold := h.row user hu
    rw [ho] at hold
    have hsame : Book s (Function.update rows user.id (rows user.id)) keys
        { w with store := (w.store.updateSession update).2 } :=
      h.of_row hu hb (hrow ▸ hold) (h.inRange user.id)
    rw [Function.update_eq_self] at hsame
    exact hsame

/-- A session that ends is struck out. -/
theorem Book.endSession (h : Book s rows keys w) (hu : user ∈ w.store.users) {row : SessionRow}
    (hr : w.store.rowFor user.id = some row) (endedAt : Int) :
    Book s (Function.update rows user.id none) keys
      (w.perform (.store (.endSession row.id endedAt))).2 := by
  have hrow := Store.Memory.rowFor_endSession_self h.sound hr endedAt
  refine h.of_row hu (.endSession h.sound hr endedAt) (fun r hr' => ?_) fun m hm => by cases hm
  rw [hrow] at hr'
  cases hr'
  rfl

/-! ## Writing keys -/

theorem Book.of_key {status : Option Mint} (h : Book s rows keys w) (hu : user ∈ w.store.users)
    (hstore : w'.store = w.store) (hnow : w'.now = w.now) (hout : w'.outside = w.outside)
    (hk : w'.cache.Keyed)
    (hkey : KeyIs s w.now (w'.cache.find? (Sessions.key user.idCode)) status)
    (hothers : ∀ key, key ≠ Sessions.key user.idCode → w'.cache.find? key = w.cache.find? key ∨
      w'.cache.find? key = Cache.Memory.alive w.millis (w.cache.find? key)) :
    Book s rows (Function.update keys user.id status) w' := by
  obtain ⟨hsound, haccounts, hrow, hkeys, hrange, hstrangers, hstrange, -, hup, hclocked⟩ := h
  refine ⟨hstore ▸ hsound, hstore ▸ haccounts, hstore ▸ hrow, ?_, hrange, ?_, ?_, hk,
    hout ▸ hup, hnow ▸ hclocked⟩
  · rw [hstore, hnow]
    intro other ho
    by_cases hid : other.id = user.id
    · obtain rfl := haccounts.eq_of_id ho hu hid
      rw [Function.update_self]
      exact hkey
    · have hcode : Sessions.key other.idCode ≠ Sessions.key user.idCode := fun he =>
        hid (congrArg User.id (haccounts.eq_of_idCode ho hu (sessions_key_injective he)))
      rw [Function.update_of_ne hid]
      have hold := hkeys other ho
      rcases hothers _ hcode with hsame | hfaded
      · rw [hsame]
        exact hold
      · rw [hfaded]
        exact hold.fade
  · rw [hstore]
    intro id hall
    have hid : id ≠ user.id := fun he => hall user hu he.symm
    rw [Function.update_of_ne hid]
    exact hstrangers id hall
  · rw [hstore]
    intro code hall
    have hcode : Sessions.key code ≠ Sessions.key user.idCode := fun he =>
      hall user hu (sessions_key_injective he).symm
    have hnone := hstrange code hall
    rcases hothers _ hcode with hsame | hfaded
    · exact hsame.trans hnone
    · rw [hnone] at hfaded
      exact hfaded

/-- A key that is cached once its pair has been issued outlives the access token. -/
theorem lastMoment_le_expiry (hl : Lasting s) (hn : 0 ≤ w.now) (hm : m.issuedAt ≤ w.now) :
    lastMoment s m ≤ Cache.Memory.expiry w.millis s.sessionLifetime := by
  have hmillis : (s.sessionLifetime.millis : Int) = s.settings.token.accessTtl * 1000 := by
    have hpos := hl.access
    rw [Setup.sessionLifetime, Setup.atLeastOne, Cache.Lifetime.millis_ofSeconds]
    omega
  have hbegun := w.now_le_millis
  unfold lastMoment Cache.Memory.expiry
  rw [hmillis]
  rcases Int.le_total (s.settings.token.accessTtl * 1000) Cache.Memory.lastMilli with hle | hle
  · rw [Int.min_eq_left hle]
    omega
  · rw [Int.min_eq_right hle]
    omega

theorem Book.put_ok (h : Book s rows keys w) (key : String) (value : Bytes)
    (lifetime : Option Cache.Lifetime) :
    (w.perform (.cache (.set key value lifetime))).1 = .ok () :=
  (w.perform_cache_up h.up (by intro _ _ _ _ h; cases h)).1

theorem Book.remove_ok (h : Book s rows keys w) (key : String) :
    (w.perform (.cache (.delete key))).1 = .ok () :=
  (w.perform_cache_up h.up (by intro _ _ _ _ h; cases h)).1

/-- A key that is cached enters a pair. -/
theorem Book.put (h : Book s rows keys w) (hl : Lasting s) (hu : user ∈ w.store.users)
    (hm : m.issuedAt ≤ w.now) :
    Book s rows (Function.update keys user.id (some m))
      (w.perform (.cache (.set (Sessions.key user.idCode) (utf8 m.key.text)
        (some s.sessionLifetime)))).2 := by
  refine h.of_key hu (w.perform_store_eq (by intro st hst; cases hst)) (w.perform_now _)
    (w.perform_outside _) (w.perform_keyed h.keyed _)
      (.inl ⟨_, ?_, lastMoment_le_expiry hl h.clocked.nonneg hm⟩)
    fun key hne => .inr ?_
  · rw [(w.perform_cache_up h.up (by intro _ _ _ _ h; cases h)).2]
    exact Cache.Memory.find?_write_self _ _
  · rw [(w.perform_cache_up h.up (by intro _ _ _ _ h; cases h)).2]
    exact Cache.Memory.find?_write_ne h.keyed hne _ _

/-- A key that is forgotten is struck out. -/
theorem Book.remove (h : Book s rows keys w) (hu : user ∈ w.store.users) :
    Book s rows (Function.update keys user.id none)
      (w.perform (.cache (.delete (Sessions.key user.idCode)))).2 := by
  refine h.of_key hu (w.perform_store_eq (by intro st hst; cases hst)) (w.perform_now _)
    (w.perform_outside _) (w.perform_keyed h.keyed _) (?_ : _ = none) fun key hne => .inl ?_
  · rw [(w.perform_cache_up h.up (by intro _ _ _ _ h; cases h)).2]
    exact Cache.Memory.find?_erase_self
  · rw [(w.perform_cache_up h.up (by intro _ _ _ _ h; cases h)).2]
    exact Cache.Memory.find?_erase_ne hne

end SignOn.Session
