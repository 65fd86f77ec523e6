import SignOn.Proofs.Account.Reachable
import SignOn.Proofs.Account.Validity
/-!
What a logout leaves behind. The row of the session is ended first, and the cached key removed
afterwards: if the cache fails in between, the logout is refused although the session has ended, it
cannot be repeated, and access tokens stay valid once the cache is back. `whole_iff` says that this
is the only way in which a logout is not all or nothing.
-/

namespace SignOn.Account

open SignOn.Session SignOn.Keyspace

variable {s : Setup} {w : World} {token : String} {row : SessionRow}

/-! ## How a logout ends -/

/-- The world in which a session has ended, once the cache has been asked to remove the key. -/
def ended (w : World) (row : SessionRow) (cache : Cache.Memory) : World :=
  { w with
    store := w.store.endSession row.id w.now
    cache := cache
    cacheCalls := w.cacheCalls + 1 }

/-- A key is removed unless the cache fails. -/
theorem remove_run (idCode : String) (w : World) : (Sessions.remove idCode).run w
    = if w.outside.cacheFails w.cacheCalls
      then (.error (.cache "cache.down"), { w with cacheCalls := w.cacheCalls + 1 })
      else (.ok (), { w with
        cacheCalls := w.cacheCalls + 1, cache := w.cache.erase (Sessions.key idCode) }) :=
  Flow.run_command (fun _ _ _ _ h => by cases h) w

/-- No row holds the token. -/
theorem logout_unknown (hr : w.store.sessionByToken token = none) :
    (logout token).run w = (.error .invalidToken, w) := by
  have hlookup : (Flow.store (.sessionByToken token)).run w = (.ok none, w) := by
    rw [Flow.run_store, ← hr]
    rfl
  unfold logout Session.logout
  rw [Flow.run_bind_of_ok hlookup]
  rfl

/-- A row that belongs to an account holds the token: the session ends, whether or not the key can
be removed. -/
theorem logout_known (h : w.store.RowsOwned) (hr : w.store.sessionByToken token = some row) :
    ∃ user ∈ w.store.users, user.id = row.userId ∧ (logout token).run w
      = if w.outside.cacheFails w.cacheCalls
        then (.error (.cache "cache.down"), ended w row w.cache)
        else (.ok (), ended w row (w.cache.erase (Sessions.key user.idCode))) := by
  obtain ⟨hmem, -, -⟩ := Store.Memory.mem_of_sessionByToken hr
  obtain ⟨user, hu, hid⟩ := h.owner row.userId row (h.rows.rowFor_of_mem hmem)
  have hfound : w.store.users.find? (·.id == row.userId) = some user := by
    rw [← hid]
    exact Store.find?_key_of_mem h.ids hu
  let w₁ : World := { w with store := w.store.endSession row.id w.now }
  have hlookup : (Flow.store (.sessionByToken token)).run w = (.ok (some row), w) := by
    rw [Flow.run_store, ← hr]
    rfl
  have hend : (Flow.store (.endSession row.id w.now)).run w = (.ok (), w₁) := Flow.run_store _ w
  have howner : (Flow.store (.userById row.userId)).run w₁ = (.ok (some user), w₁) := by
    rw [Flow.run_store, ← hfound]
    rfl
  refine ⟨user, hu, hid, Eq.trans ?_ (remove_run user.idCode w₁)⟩
  unfold logout Session.logout
  rw [Flow.run_bind_of_ok hlookup, Flow.require_some, Flow.done_bind,
    Flow.run_bind_of_ok (show Flow.now.run w = (.ok w.now, w) from rfl),
    Flow.run_bind_of_ok hend, Flow.run_bind_of_ok howner]

/-! ## All or nothing -/

/-- A logout that is refused leaves the session as it was, so that it can be repeated; and once it
has changed the row of a user, access tokens of the user are void, also when the cache is back. -/
structure IsWhole (s : Setup) (w : World) (token : String) : Prop where
  untouched : ∀ e row, ((logout token).run w).1 = .error e →
    w.store.sessionByToken token = some row →
    ((logout token).run w).2.store.sessionByToken token = some row
  silent : ∀ user ∈ w.store.users,
    ((logout token).run w).2.store.rowFor user.id ≠ w.store.rowFor user.id →
    ∀ later, later.cache = ((logout token).run w).2.cache → ∀ access snapshot,
      ((validateAccess s access).run later).1 = .ok snapshot → snapshot.idCode ≠ user.idCode

/-- An access token is valid only where a session key of its user is cached, whether or not the
cache fails. -/
theorem cached_of_validateAccess {access : String} {snapshot : Snapshot}
    (h : ((validateAccess s access).run w).1 = .ok snapshot) :
    w.cache.find? (Sessions.key snapshot.idCode) ≠ none := by
  simp only [validateAccess, Flow.run_bind_ok, validate_run, Flow.run_ensure_ok,
    Flow.run_ensure_world, Flow.run_pure, Bool.and_eq_true, beq_iff_eq, Sessions.current] at h
  obtain ⟨snapshot', -, -, -, found, ⟨value, hvalue, hfound⟩, -, ⟨-, hcurrent⟩, hsame⟩ := h
  obtain rfl := Except.ok.inj hsame
  rw [Flow.run_cache] at hvalue
  obtain ⟨rfl, -⟩ := w.perform_cache_ok hvalue (by intro _ _ _ _ hc; cases hc)
  intro hnone
  have hread : w.cache.read? w.millis (Sessions.key snapshot'.idCode) = none := by
    rw [Cache.Memory.read?_eq, hnone]
    rfl
  rw [← Except.ok.inj hfound] at hcurrent
  change Sessions.ofValue (w.cache.read? w.millis (Sessions.key snapshot'.idCode)) = _ at hcurrent
  rw [hread] at hcurrent
  cases hcurrent

/-- Ending the session of one row leaves the rows of all users but one. -/
theorem owner_of_ended {user : User} {cache : Cache.Memory} (h : w.store.Rows)
    (hr : w.store.sessionByToken token = some row)
    (hc : (ended w row cache).store.rowFor user.id ≠ w.store.rowFor user.id) :
    user.id = row.userId := by
  obtain ⟨hmem, -, -⟩ := Store.Memory.mem_of_sessionByToken hr
  exact Classical.byContradiction fun hne =>
    hc (Store.Memory.rowFor_endSession_ne h (h.rowFor_of_mem hmem) hne w.now)

/-- A logout is torn apart if a row holds the token and the cache fails. -/
theorem not_whole (h : w.store.RowsOwned) (hr : w.store.sessionByToken token = some row)
    (hfails : w.outside.cacheFails w.cacheCalls = true) : ¬ IsWhole s w token := by
  intro hwhole
  obtain ⟨user, -, -, hrun⟩ := logout_known h hr
  rw [hfails, if_pos rfl] at hrun
  have huntouched := hwhole.untouched (.cache "cache.down") row (by rw [hrun]) hr
  rw [hrun] at huntouched
  exact Store.Memory.sessionByToken_endSession_ne h.rows hr w.now huntouched

/-- Where no row holds the token, nothing changes. -/
theorem whole_of_unknown (hr : w.store.sessionByToken token = none) : IsWhole s w token := by
  have hrun := logout_unknown hr
  refine ⟨fun e row _ hrow => ?_, fun user _ hchanged => ?_⟩
  · rw [hr] at hrow
    cases hrow
  · rw [hrun] at hchanged
    exact absurd rfl hchanged

/-- Where the key can be removed, it is gone for good. -/
theorem whole_of_up (h : w.store.RowsOwned) (hr : w.store.sessionByToken token = some row)
    (hup : w.outside.cacheFails w.cacheCalls = false) : IsWhole s w token := by
  obtain ⟨owner, howner, hid, hrun⟩ := logout_known h hr
  rw [hup, if_neg Bool.false_ne_true] at hrun
  refine ⟨fun e row' herror => ?_, fun user hu hchanged later hlater access snapshot hvalid => ?_⟩
  · rw [hrun] at herror
    cases herror
  · rw [hrun] at hchanged hlater
    have hsame : user.id = owner.id := (owner_of_ended h.rows hr hchanged).trans hid.symm
    obtain rfl := List.inj_on_of_nodup_map h.ids hu howner hsame
    intro hcode
    refine cached_of_validateAccess hvalid ?_
    rw [hlater, hcode]
    exact Cache.Memory.find?_erase_self

/-- In every reachable world, the logout with a token is all or nothing exactly if no row holds the
token or the cache, which is asked once, does not fail. -/
theorem whole_iff (h : Reachable s w) (token : String) : IsWhole s w token ↔
    ∀ row, w.store.sessionByToken token = some row → w.outside.cacheFails w.cacheCalls = false := by
  constructor
  · intro hwhole row hr
    cases hfails : w.outside.cacheFails w.cacheCalls with
    | false => rfl
    | true => exact absurd hwhole (not_whole h.rowsOwned hr hfails)
  · intro hup
    cases hr : w.store.sessionByToken token with
    | none => exact whole_of_unknown hr
    | some row => exact whole_of_up h.rowsOwned hr (hup row hr)

/-! ## A cache that fails -/

theorem returned_reachable : Reachable Sample.setup returned.2 :=
  ((Reachable.empty rfl rfl).call (.redirect (Sample.uuid 7).text)).call
    (.callback (Sample.uuid 7).text "code" "::1")

/-- The newcomer has got a pair that was made then, and both of its tokens are accepted. -/
theorem returned_made : ∃ user ∈ returned.2.store.users, ∃ m,
    returned.1 = .ok (m.pair Sample.setup user) ∧
    Made Sample.setup Sample.world returned.2 m ∧
    AcceptsRefresh Sample.setup returned.2 (m.pair Sample.setup user).refresh ∧
    AcceptsAccess Sample.setup returned.2 (m.pair Sample.setup user).access := by
  have hlasting : Lasting Sample.setup := ⟨by decide, by decide⟩
  have hclocked : Clocked Sample.setup 1000 := ⟨by decide, by decide, by decide⟩
  have hopening : Opening Sample.setup Sample.world := ⟨rfl, rfl, fun _ => rfl, hclocked⟩
  have hsent : Works Sample.setup sent.2 :=
    ⟨fun _ => rfl, (show sent.2.now = 1000 by decide +kernel) ▸ hclocked⟩
  have hhistory : History Sample.setup Sample.world [leaving, returning] returned.2 :=
    (History.run .empty ⟨fun _ => rfl, hclocked⟩ _).run hsent _
  have hdistinct : System.Distinct returned.2 := Sample.distinct rfl (by decide +kernel)
  obtain ⟨book, ht⟩ := hhistory.bookMatches hlasting hopening hdistinct
  have hanswer : (Except.toOption returned.1).isSome = true := by decide +kernel
  obtain ⟨pair, hpair⟩ : ∃ pair, returned.1 = .ok pair := by
    cases h : returned.1 with
    | ok pair => exact ⟨pair, rfl⟩
    | error e =>
      rw [h] at hanswer
      cases hanswer
  have hmem : returning ∈ [leaving, returning] := by simp
  have hgiven : returning.pair? = some pair := by
    show Call.pair? (.callback _ _ _) returned.1 = some pair
    rw [hpair]
    rfl
  obtain ⟨user, hu, m, rfl, hmade, hbegan, -⟩ := ht.issued returning hmem pair hgiven
  have hissues : returning.Issues Sample.setup user m := ⟨hmade.inRange, hgiven⟩
  have hcurrent : Current Sample.setup user [leaving, returning] m :=
    ⟨[leaving], returning, [], rfl, hissues, by simp⟩
  have hnow : returned.2.now = 1000 := by decide +kernel
  have hsince : 1000 ≤ m.issuedAt := hbegan
  refine ⟨user, hu, m, hpair, hmade, ?_, ?_⟩
  · exact (ht.accepts_refresh_iff hlasting hu hmem hissues).2
      ⟨hcurrent, by have := hlasting.refresh; omega⟩
  · exact (ht.accepts_access_iff hlasting hu hmem hissues).2
      ⟨hcurrent, by have := hlasting.access; omega⟩

/-- The row holds the refresh token of the newcomer, and the access token is valid. -/
theorem returned_pair : ∃ pair row, returned.1 = .ok pair ∧
    returned.2.store.sessionByToken pair.refresh = some row ∧
    AcceptsAccess Sample.setup returned.2 pair.access := by
  obtain ⟨user, -, m, hpair, -, hrefresh, haccess⟩ := returned_made
  obtain ⟨row, -, hrow, -⟩ := acceptsRefresh_iff.1 hrefresh
  exact ⟨_, row, hpair, hrow, haccess⟩

theorem whole_iff_returned : Reachable Sample.setup returned.2 ∧ ∃ pair row,
    returned.1 = .ok pair ∧ returned.2.store.sessionByToken pair.refresh = some row ∧
    IsWhole Sample.setup returned.2 pair.refresh := by
  obtain ⟨pair, row, hpair, hrow, -⟩ := returned_pair
  refine ⟨returned_reachable, pair, row, hpair, hrow, ?_⟩
  exact (whole_iff returned_reachable pair.refresh).2 fun _ _ => rfl

/-- The newcomer has come back, and now the cache fails. -/
def downed : World :=
  { returned.2 with outside := { Sample.outside with cacheFails := fun _ => true } }

/-- The newcomer has tried to log out, and now the cache is back. -/
def recovered (token : String) : World :=
  { ((logout token).run downed).2 with outside := Sample.outside }

/-- The newcomer is refused the logout. The session has ended all the same: when the cache is back,
the logout cannot be repeated, and the access token is valid. -/
theorem not_whole_downed : Reachable Sample.setup downed ∧ ∃ pair,
    returned.1 = .ok pair ∧ ¬ IsWhole Sample.setup downed pair.refresh ∧
    ((logout pair.refresh).run downed).1 = .error (.cache "cache.down") ∧
    ((logout pair.refresh).run (recovered pair.refresh)).1 = .error .invalidToken ∧
    AcceptsAccess Sample.setup (recovered pair.refresh) pair.access := by
  have hreachable : Reachable Sample.setup downed :=
    returned_reachable.turns ⟨rfl, .inl rfl⟩
  obtain ⟨pair, row, hpair, hrow, haccess⟩ := returned_pair
  have hrow' : downed.store.sessionByToken pair.refresh = some row := hrow
  obtain ⟨user, -, -, hrun⟩ := logout_known hreachable.rowsOwned hrow'
  have hrefused : (logout pair.refresh).run downed
      = (.error (.cache "cache.down"), ended downed row downed.cache) := hrun
  have hleft : recovered pair.refresh
      = { ended downed row downed.cache with outside := Sample.outside } := by
    rw [recovered, hrefused]
  refine ⟨hreachable, pair, hpair, not_whole hreachable.rowsOwned hrow' rfl, by rw [hrefused],
    ?_, ?_⟩
  · obtain ⟨only, honly⟩ : ∃ only, returned.2.store.sessions = [only] :=
      List.length_eq_one_iff.1 (by decide +kernel)
    have hmem (other : SessionRow) (ho : other ∈ returned.2.store.sessions) : other = only := by
      rw [honly] at ho
      exact List.mem_singleton.1 ho
    have hgone : (recovered pair.refresh).store.sessionByToken pair.refresh = none := by
      rw [hleft]
      refine Store.Memory.sessionByToken_endSession hreachable.rowsOwned.rows
        (fun other ho _ => ?_) _
      rw [hmem other ho, hmem row (Store.Memory.mem_of_sessionByToken hrow).1]
    rw [logout_unknown hgone]
  · have hcache : (recovered pair.refresh).cache = returned.2.cache := by rw [hleft]; rfl
    have hmillis : (recovered pair.refresh).millis = returned.2.millis := by rw [hleft]; rfl
    have hnow : (recovered pair.refresh).now = returned.2.now := congrArg (· / 1000) hmillis
    rw [acceptsAccess_iff fun _ => rfl] at haccess ⊢
    rw [hmillis, hcache, hnow]
    exact haccess

end SignOn.Account
