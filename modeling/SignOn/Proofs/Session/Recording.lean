import SignOn.Proofs.Session.Opening
/-!
What the row of a user says of the provider. A session that begins writes all of the row. One that
is renewed leaves in the row of its user the provider that it names. That is all by which the two
differ (`run_update_eq`), so they come to the same exactly where no other provider is named
(`run_update_eq_iff`).
-/

namespace SignOn.Store.Memory

variable {s : Memory} {userId : Int} {provider : AuthProvider}

/-- A row that names a provider. -/
def withProvider (provider : AuthProvider) (row : SessionRow) : SessionRow :=
  { row with provider := provider }

/-- The store in which the row of a user names a provider. -/
def naming (s : Memory) (userId : Int) (provider : AuthProvider) : Memory :=
  { s with sessions := s.sessions.map fun row =>
      if row.userId == userId then withProvider provider row else row }

/-- The provider that the row of a user names, or the given one where there is no row. -/
def named (s : Memory) (userId : Int) (provider : AuthProvider) : AuthProvider :=
  ((s.rowFor userId).map (·.provider)).getD provider

theorem inPlace_withProvider (provider : AuthProvider) : InPlace (withProvider provider) where
  id _ := rfl
  userId _ := rfl

theorem rowFor_naming_self :
    (s.naming userId provider).rowFor userId = (s.rowFor userId).map (withProvider provider) := by
  rw [naming, rowFor_map ((inPlace_withProvider provider).ite _), map_ite_rowFor_self]

theorem named_eq_iff : s.named userId provider = provider ↔
    ∀ row, s.rowFor userId = some row → row.provider = provider := by
  rw [named]
  cases s.rowFor userId <;> simp

/-- Nothing is to be done where the row of the user names the provider already. -/
theorem naming_eq_self_iff (h : s.Rows) : s.naming userId provider = s ↔
    ∀ row, s.rowFor userId = some row → row.provider = provider := by
  constructor
  · intro hsame row hrow
    have hname : (s.naming userId provider).rowFor userId
        = (s.rowFor userId).map (withProvider provider) := rowFor_naming_self
    rw [hsame, hrow, Option.map_some, Option.some.injEq] at hname
    exact congrArg SessionRow.provider hname
  · intro hall
    have hrows (row : SessionRow) (hr : row ∈ s.sessions) :
        (if row.userId == userId then withProvider provider row else row) = row := by
      split
      · next hu =>
        rw [← hall row (beq_iff_eq.1 hu ▸ h.rowFor_of_mem hr)]
        rfl
      · rfl
    rw [naming, List.map_congr_left hrows, List.map_id']

/-- A rotation changes nothing where the user has no row. -/
theorem updateSession_of_none {update : SessionUpdate} (h : s.rowFor update.userId = none) :
    s.updateSession update = (false, s) := by
  have hrows (row : SessionRow) (hr : row ∈ s.sessions) :
      (if row.userId == update.userId then rotate update row else row) = row :=
    if_neg (List.find?_eq_none.1 h row hr)
  refine Prod.ext ?_ ?_
  · rw [updateSession_found, h, Option.isSome_none]
  · rw [updateSession, List.map_congr_left hrows, List.map_id']

/-- The rotation that goes with a session that begins. -/
def rotationOf (new : NewSession) : SessionUpdate :=
  ⟨new.userId, new.ip, new.refreshToken, new.startedAt⟩

/-- Where there is a row, a rotation writes it as if the session began, but for the provider. -/
theorem updateSession_of_some (h : s.Rows) (new : NewSession) {old : SessionRow}
    (ho : s.rowFor new.userId = some old) : s.updateSession (rotationOf new)
      = (true, (s.createSession new).2.naming new.userId old.provider) := by
  have hrows (row : SessionRow) (hr : row ∈ s.sessions) :
      (if row.userId == new.userId then rotate (rotationOf new) row else row)
        = if (renew new row).userId == new.userId then withProvider old.provider (renew new row)
          else renew new row := by
    rw [(inPlace_renew new).userId]
    by_cases hu : row.userId = new.userId
    · -- the user has no other row
      have hrow : row = old := Option.some.inj ((hu ▸ h.rowFor_of_mem hr).symm.trans ho)
      subst hrow
      rw [renew, hu, if_pos (beq_self_eq_true _), if_pos (beq_self_eq_true _),
        if_pos (beq_self_eq_true _), rotate, withProvider, rowOf, ← hu]
      rfl
    · rw [renew, if_neg (by simpa using hu), if_neg (by simpa using hu),
        if_neg (by simpa using hu)]
  refine Prod.ext ?_ ?_
  · rw [updateSession_found, rotationOf, ho, Option.isSome_some]
  · rw [createSession_of_some h ho, naming, List.map_map]
    exact congrArg (Memory.mk s.users) (List.map_congr_left hrows)

end SignOn.Store.Memory

namespace SignOn.Session

variable {s : Setup} {w : World} {store : Store.Memory} {m : Mint} {user : User}
  {provider : AuthProvider} {ip : String}

/-- The row of the user after the session has begun. -/
theorem rowFor_begun (h : store.Rows) (s : Setup) (m : Mint) (user : User)
    (provider : AuthProvider) (ip : String) : ∃ id,
    (begun s store m user provider ip).rowFor user.id
      = some (Store.Memory.rowOf (newRow (m.snapshot user) (m.pair s user) provider ip) id) ∧
    ∀ old, store.rowFor user.id = some old → id = old.id :=
  Store.Memory.rowFor_createSession_self h (newRow (m.snapshot user) (m.pair s user) provider ip)

theorem rows_begun (h : store.Rows) : (begun s store m user provider ip).Rows :=
  h.createSession _

/-- A session that begins names its provider. -/
theorem begun_naming_eq_iff (h : store.Rows) {other : AuthProvider} :
    (begun s store m user provider ip).naming user.id other = begun s store m user provider ip ↔
      other = provider := by
  obtain ⟨id, hrow, -⟩ := rowFor_begun h s m user provider ip
  rw [Store.Memory.naming_eq_self_iff (rows_begun h), hrow]
  exact ⟨fun hall => (hall _ rfl).symm, fun he row hr => by cases hr; exact he.symm⟩

/-- A renewal is a beginning, but for the provider in a row that was there. -/
theorem renewed_eq (h : store.Rows) (m : Mint) (user : User) (provider : AuthProvider)
    (ip : String) : renewed s store m user provider ip
      = (begun s store m user provider ip).naming user.id (store.named user.id provider) := by
  cases hr : store.rowFor user.id with
  | none =>
    have hsame : store.updateSession (rotation s m user ip) = (false, store) :=
      Store.Memory.updateSession_of_none hr
    rw [renewed, hsame, if_neg Bool.false_ne_true, Store.Memory.named, hr, Option.map_none,
      Option.getD_none, (begun_naming_eq_iff h).2 rfl]
  | some old =>
    have hrotated : store.updateSession (rotation s m user ip)
        = (true, (begun s store m user provider ip).naming user.id old.provider) :=
      Store.Memory.updateSession_of_some h (newRow (m.snapshot user) (m.pair s user) provider ip) hr
    rw [renewed_of_row hr, hrotated, Store.Memory.named, hr, Option.map_some, Option.getD_some]

/-- What is stored by then decides nothing. -/
theorem concluded_eq (s : Setup) (user : User) (w : World) (store other : Store.Memory) :
    concluded s user w other
      = ((concluded s user w store).1, { (concluded s user w store).2 with store := other }) := by
  unfold concluded
  dsimp only
  split <;> rfl

theorem concluded_store (s : Setup) (user : User) (w : World) (store : Store.Memory) :
    (concluded s user w store).2.store = store :=
  congrArg (fun ending => ending.2.store) (concluded_eq s user w {} store)

/-- The two ways to give a user a session have the same outcome, and leave the same world, but for
the provider in a row that was there. -/
theorem run_update_eq (h : w.store.Rows) (user : User) (provider : AuthProvider) (ip : String) :
    (update s user provider ip).run w = (((create s user provider ip).run w).1,
      { ((create s user provider ip).run w).2 with
        store := ((create s user provider ip).run w).2.store.naming user.id
          (w.store.named user.id provider) }) := by
  rw [run_update, run_create, renewed_eq h, concluded_store]
  exact concluded_eq ..

/-- They come to the same exactly if the user has no row, or one that names the provider. -/
theorem run_update_eq_iff (h : w.store.Rows) (user : User) (provider : AuthProvider)
    (ip : String) : (update s user provider ip).run w = (create s user provider ip).run w ↔
      ∀ row, w.store.rowFor user.id = some row → row.provider = provider := by
  have hstore : ((create s user provider ip).run w).2.store
      = begun s w.store (.next w) user provider ip := by
    rw [run_create, concluded_store]
  rw [run_update_eq h, ← Store.Memory.named_eq_iff, ← begun_naming_eq_iff h, ← hstore]
  constructor
  · intro he
    exact congrArg (fun ending => ending.2.store) he
  · intro he
    rw [he]

end SignOn.Session
