import SignOn.Proofs.Session.Writes
import SignOn.Proofs.Store.Rows
/-!
What the acts of calls on the session of one user do to a world. `row_after` and `key_after` say
what an act leaves in the row and under the key of the user; `beside_after` says that accounts and
the rows of other users stay as they are.
-/

namespace SignOn.Session

open SignOn.Keyspace SignOn.Text

variable {s : Setup} {user : User} {start w : World} {act : Act}

/-- An act on the session of a user, in a world. -/
def IsOwn (s : Setup) (user : User) (w : World) : Act → Prop
  | .clock => True
  | .uuid => True
  | .store (.sessionByToken token) =>
    ∀ row ∈ w.store.sessions, row.userId ≠ user.id → token ≠ "" → row.refreshToken ≠ token
  | .store (.userById _) => True
  | .store (.userByIdCode _) => True
  | .store (.createSession new) =>
    new.userId = user.id ∧ ∃ m, Mint.InRange m s ∧ new.refreshToken = (m.pair s user).refresh
  | .store (.updateSession update) =>
    update.userId = user.id ∧ ∃ m, Mint.InRange m s ∧ update.refreshToken = (m.pair s user).refresh
  | .store (.endSession id _) => ∃ row, w.store.rowFor user.id = some row ∧ row.id = id
  | .cache (.set key _ _) => key = Sessions.key user.idCode
  | .cache (.delete key) => key = Sessions.key user.idCode
  | _ => False

/-! ## The row -/

/-- What an act that writes a row has left in it. -/
def RowShows : Act → SessionRow → Prop
  | .store (.createSession new), row =>
    row.refreshToken = new.refreshToken ∧ row.startedAt = some new.startedAt ∧ row.endedAt = none
  | .store (.updateSession update), row =>
    row.refreshToken = update.refreshToken ∧ row.startedAt = some update.startedAt ∧
      row.endedAt = none
  | .store (.endSession ..), row => row.refreshToken = "" ∧ row.endedAt.isSome = true
  | _, _ => False

/-- An act writes the row of the user, which keeps its number, or leaves it. -/
theorem row_after (hr : w.store.Rows) (ha : IsOwn s user w act) :
    (isRowWrite (w.event act) = true ∧
      ∃ row, (w.perform act).2.store.rowFor user.id = some row ∧ RowShows act row ∧
        ∀ old, w.store.rowFor user.id = some old → row.id = old.id) ∨
    (isRowWrite (w.event act) = false ∧
      (w.perform act).2.store.rowFor user.id = w.store.rowFor user.id) := by
  cases act with
  | clock => exact .inr ⟨rfl, rfl⟩
  | uuid => exact .inr ⟨rfl, rfl⟩
  | cache cmd =>
    refine .inr ⟨rfl, ?_⟩
    rw [w.perform_store_eq (by intro st h; cases h)]
  | store st =>
    cases st with
    | sessionByToken token => exact .inr ⟨rfl, rfl⟩
    | userById id => exact .inr ⟨rfl, rfl⟩
    | userByIdCode code => exact .inr ⟨rfl, rfl⟩
    | createSession new =>
      obtain ⟨hu, -⟩ := ha
      obtain ⟨id, hrow, hid⟩ := Store.Memory.rowFor_createSession_self hr new
      rw [hu] at hrow hid
      exact .inl ⟨rfl, _, hrow, ⟨rfl, rfl, rfl⟩, hid⟩
    | updateSession update =>
      obtain ⟨hu, -⟩ := ha
      have hrow := Store.Memory.rowFor_updateSession_self (s := w.store) update
      have hfound := Store.Memory.updateSession_found (s := w.store) update
      have hevent : isRowWrite (w.event (.store (.updateSession update)))
          = (w.store.updateSession update).1 := rfl
      have hafter : (w.perform (.store (.updateSession update))).2.store
          = (w.store.updateSession update).2 := rfl
      rw [hu] at hrow hfound
      rw [hevent, hafter, hrow, hfound]
      cases w.store.rowFor user.id with
      | none => exact .inr ⟨rfl, rfl⟩
      | some old => exact .inl ⟨rfl, _, rfl, ⟨rfl, rfl, rfl⟩, fun a h => by cases h; rfl⟩
    | endSession id endedAt =>
      obtain ⟨row, hrow, rfl⟩ := ha
      have hclosed := Store.Memory.rowFor_endSession_self hr hrow endedAt
      refine .inl ⟨rfl, _, hclosed, ⟨rfl, rfl⟩, fun old h => ?_⟩
      rw [hrow] at h
      cases h
      rfl
    | _ => exact ha.elim
  | _ => exact ha.elim

theorem beside_after (hr : w.store.Rows) (ha : IsOwn s user w act) :
    w.store.Beside user.id (w.perform act).2.store := by
  cases act with
  | clock => exact .refl hr
  | uuid => exact .refl hr
  | cache cmd =>
    rw [w.perform_store_eq (by intro st h; cases h)]
    exact .refl hr
  | store st =>
    cases st with
    | createSession new =>
      obtain ⟨hu, -⟩ := ha
      exact hu ▸ .createSession hr new
    | updateSession update =>
      obtain ⟨hu, -⟩ := ha
      exact hu ▸ .updateSession hr update
    | endSession id endedAt =>
      obtain ⟨row, hrow, rfl⟩ := ha
      exact .endSession hr hrow endedAt
    | createUser new => exact ha.elim
    | _ => exact .refl hr
  | _ => exact ha.elim

/-! ## The key -/

/-- What an act that writes the key of a user has left under it. -/
def KeyShows : Act → Option Cache.Entry → Prop
  | .cache (.set _ value _), entry => ∃ e, entry = some e ∧ e.value = value
  | .cache (.delete _), entry => entry = none
  | _, _ => False

/-- An act writes the key of the user or leaves it. -/
theorem key_after (hup : ∀ n, w.outside.cacheFails n = false) (ha : IsOwn s user w act) :
    (isKeyWrite (w.event act) = true ∧
      KeyShows act ((w.perform act).2.cache.find? (Sessions.key user.idCode))) ∨
    (isKeyWrite (w.event act) = false ∧ (w.perform act).2.cache.find? (Sessions.key user.idCode)
      = w.cache.find? (Sessions.key user.idCode)) := by
  cases act with
  | clock => exact .inr ⟨rfl, rfl⟩
  | uuid => exact .inr ⟨rfl, rfl⟩
  | store st => exact .inr ⟨rfl, rfl⟩
  | cache cmd =>
    cases cmd with
    | set key value lifetime =>
      obtain rfl : key = Sessions.key user.idCode := ha
      refine .inl ⟨rfl, ⟨value, lifetime.map (Cache.Memory.expiry w.millis)⟩, ?_, rfl⟩
      rw [(w.perform_cache_up hup (by intro _ _ _ _ h; cases h)).2]
      exact Cache.Memory.find?_write_self value lifetime
    | delete key =>
      obtain rfl : key = Sessions.key user.idCode := ha
      refine .inl ⟨rfl, (?_ : _ = none)⟩
      rw [(w.perform_cache_up hup (by intro _ _ _ _ h; cases h)).2]
      exact Cache.Memory.find?_erase_self
    | _ => exact ha.elim
  | _ => exact ha.elim

end SignOn.Session
