import SignOn.Proofs.Flow.Readable
import SignOn.Proofs.Session.Mint
import SignOn.Proofs.Store.Rows
/-!
What is left when a session begins or is renewed, whether or not the cache fails. The row is written
first, and the session key is put into the cache afterwards. That is the only command, and it
decides whether anybody gets the pair: see `run_create` and `run_update`.
-/

namespace SignOn.Session

open SignOn.Keyspace SignOn.Text

variable {s : Setup} {w : World} {user : User}

/-! ## What is made -/

/-- What a call draws and reads that makes a pair now. -/
def Mint.next (w : World) : Mint where
  startedAt := w.now
  key := w.outside.uuids w.drawn
  issuedAt := w.now
  accessId := w.outside.uuids (w.drawn + 1)
  refreshId := w.outside.uuids (w.drawn + 2)

/-- The store once a session has begun. -/
def begun (s : Setup) (store : Store.Memory) (m : Mint) (user : User) (provider : AuthProvider)
    (ip : String) : Store.Memory :=
  (store.createSession (newRow (m.snapshot user) (m.pair s user) provider ip)).2

/-- What a renewal writes into the row of its user. -/
def rotation (s : Setup) (m : Mint) (user : User) (ip : String) : SessionUpdate :=
  ⟨user.id, ip, (m.pair s user).refresh, m.startedAt⟩

/-- The store once a session has been renewed. -/
def renewed (s : Setup) (store : Store.Memory) (m : Mint) (user : User) (provider : AuthProvider)
    (ip : String) : Store.Memory :=
  if (store.updateSession (rotation s m user ip)).1 then
    (store.updateSession (rotation s m user ip)).2
  else begun s (store.updateSession (rotation s m user ip)).2 m user provider ip

/-- The end of a call that has written the row of a pair: unless the cache fails, the session key
becomes the current one, and the pair is handed out. -/
def concluded (s : Setup) (user : User) (w : World) (store : Store.Memory) :
    Except Failure TokenPair × World :=
  let m := Mint.next w
  let asked : World := { w with
    drawn := w.drawn + 3
    store := store
    cacheCalls := w.cacheCalls + 1 }
  if w.outside.cacheFails w.cacheCalls then (.error (.cache "cache.down"), asked)
  else (.ok (m.pair s user), { asked with
    cache := w.cache.write w.millis (Sessions.key user.idCode) (utf8 m.key.text)
      (some s.sessionLifetime) })

/-! ## How it ends -/

/-- The session key is put unless the cache fails. -/
theorem run_put (s : Setup) (idCode key : String) (pair : TokenPair) (w : World) : (do
      Sessions.put s.sessionLifetime idCode key
      return pair : Flow TokenPair).run w
    = if w.outside.cacheFails w.cacheCalls
      then (.error (.cache "cache.down"), { w with cacheCalls := w.cacheCalls + 1 })
      else (.ok pair, { w with
        cacheCalls := w.cacheCalls + 1
        cache := w.cache.write w.millis (Sessions.key idCode) (utf8 key)
          (some s.sessionLifetime) }) := by
  have hput : (Sessions.put s.sessionLifetime idCode key).run w
      = if w.outside.cacheFails w.cacheCalls
        then (.error (.cache "cache.down"), { w with cacheCalls := w.cacheCalls + 1 })
        else (.ok (), { w with
          cacheCalls := w.cacheCalls + 1
          cache := w.cache.write w.millis (Sessions.key idCode) (utf8 key)
            (some s.sessionLifetime) }) :=
    Flow.run_command (fun _ _ _ _ h => by cases h) w
  split at hput
  · next hfails => rw [Flow.run_bind_of_error hput, if_pos hfails]
  · next hup => rw [Flow.run_bind_of_ok hput, if_neg hup]; rfl

theorem run_create (s : Setup) (user : User) (provider : AuthProvider) (ip : String) (w : World) :
    (create s user provider ip).run w
      = concluded s user w (begun s w.store (.next w) user provider ip) :=
  run_put s user.idCode (Mint.next w).key.text ((Mint.next w).pair s user)
    { w with drawn := w.drawn + 3, store := begun s w.store (.next w) user provider ip }

theorem run_update (s : Setup) (user : User) (provider : AuthProvider) (ip : String) (w : World) :
    (update s user provider ip).run w
      = concluded s user w (renewed s w.store (.next w) user provider ip) := by
  generalize hm : Mint.next w = m
  have hdrawn : (update s user provider ip).run w = (do
      let updated ← Flow.store (.updateSession (rotation s m user ip))
      if !updated then
        let _ ← Flow.store (.createSession (newRow (m.snapshot user) (m.pair s user) provider ip))
      Sessions.put s.sessionLifetime user.idCode m.key.text
      return m.pair s user : Flow TokenPair).run { w with drawn := w.drawn + 3 } := by
    rw [← hm]
    rfl
  have hput (store : Store.Memory) : (do
      Sessions.put s.sessionLifetime user.idCode m.key.text
      return m.pair s user : Flow TokenPair).run { w with drawn := w.drawn + 3, store := store }
        = concluded s user w store := by
    rw [← hm]
    exact run_put s _ _ _ _
  have hstored : (Flow.store (.updateSession (rotation s m user ip))).run
      { w with drawn := w.drawn + 3 }
        = (.ok (w.store.updateSession (rotation s m user ip)).1, { w with
            drawn := w.drawn + 3
            store := (w.store.updateSession (rotation s m user ip)).2 }) := Flow.run_store _ _
  rw [hdrawn, Flow.run_bind_of_ok hstored, renewed]
  -- Whether a row is found decides only what is stored before the key is put.
  cases (w.store.updateSession (rotation s m user ip)).1 with
  | true => exact hput _
  | false => exact hput _

/-! ## What is stored -/

/-- A user with a row keeps it. -/
theorem renewed_of_row {store : Store.Memory} {row : SessionRow}
    (hr : store.rowFor user.id = some row) (m : Mint) (provider : AuthProvider) (ip : String) :
    renewed s store m user provider ip = (store.updateSession (rotation s m user ip)).2 := by
  have hfound : (store.updateSession (rotation s m user ip)).1 = true := by
    rw [Store.Memory.updateSession_found]
    exact Option.isSome_iff_exists.2 ⟨row, hr⟩
  rw [renewed, if_pos hfound]

end SignOn.Session
