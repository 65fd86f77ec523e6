import SignOn.Proofs.Account.Isolation
import SignOn.Proofs.Account.Logout
import SignOn.Proofs.Session.Opening
/-!
What becomes of a refresh token when a refresh fails. The new refresh token is written into the row
before the session key is put into the cache: if the cache fails then, the old token is void, and
nobody is told the new one. `safe_iff` says that a refresh can fail at the cost of the session in no
other way.
-/

namespace SignOn.Account

open SignOn.Session SignOn.Keyspace

variable {s : Setup} {w : World} {token ip : String} {row : SessionRow} {user : User}

/-! ## How a refresh ends -/

/-- The account of the row that holds a refresh token. -/
structure IsHolder (store : Store.Memory) (token : String) (row : SessionRow) (user : User) :
    Prop where
  found : store.sessionByToken token = some row
  stored : user ∈ store.users
  owner : row.userId = user.id

/-- The row is the one of the account. -/
theorem IsHolder.rowFor (h : Reachable s w) (hholder : IsHolder w.store token row user) :
    w.store.rowFor user.id = some row := by
  rw [← hholder.owner]
  exact h.ledger.rows.rowFor_of_mem (Store.Memory.mem_of_sessionByToken hholder.found).1

/-- Looking at a refresh token leaves the world as it is. -/
theorem validateRefresh_world (s : Setup) (w : World) (token : String) :
    ((validateRefresh s token).run w).2 = w := by
  have hlookup : (Flow.store (.sessionByToken token)).run w
      = (.ok (w.store.sessionByToken token), w) := Flow.run_store _ w
  rw [validateRefresh, Flow.run_bind_of_ok hlookup]
  cases w.store.sessionByToken token with
  | none => rfl
  | some row =>
    have hvalid := validate_run s .refresh token w
    rw [Flow.require_some, Flow.done_bind]
    cases hv : Token.validate s.suite.sign s.settings.token .refresh w.now token with
    | error e => rw [hv] at hvalid; rw [Flow.run_bind_of_error hvalid]
    | ok snapshot =>
      rw [hv] at hvalid
      rw [Flow.run_bind_of_ok hvalid]
      cases row.startedAt == some snapshot.startedAt <;> rfl

/-- A token that is accepted names the account of its row. -/
theorem exists_holder (h : Reachable s w) (ha : AcceptsRefresh s w token) :
    ∃ row user snapshot, IsHolder w.store token row user ∧ IssuedTo s user token ∧
      (validateRefresh s token).run w = (.ok snapshot, w) ∧ snapshot.idCode = user.idCode := by
  have hl := h.ledger
  obtain ⟨row, snapshot, hfound, hvalid, hstarted⟩ := acceptsRefresh_iff.1 ha
  obtain ⟨hmem, rfl, hne⟩ := Store.Memory.mem_of_sessionByToken hfound
  obtain ⟨owner, m, ho, hid, hm⟩ := (hl.belongs _ row (hl.rows.rowFor_of_mem hmem)).carries hne
  obtain ⟨user, hu, huid, hcode, -⟩ := ho.stored
  have hissued : IssuedTo s user row.refreshToken := hm.issuedTo.of_registered
    (registered_of_id hl.unique ho (Store.Memory.known_of_mem hu) huid.symm)
  have hnamed : snapshot.idCode = user.idCode := hissued.idCode_of_validate hvalid
  refine ⟨row, user, { snapshot with userId := row.userId }, ⟨hfound, hu, hid.trans huid.symm⟩,
    hissued, Prod.ext ?_ (validateRefresh_world s w _), hnamed⟩
  rw [validateRefresh_answer, hfound, hvalid, Option.elim_some, Except.bind, hstarted,
    if_pos (beq_self_eq_true _)]

/-- A refresh is refused to an account out of service, and otherwise the row is renewed. -/
theorem run_refresh (h : Reachable s w) (ha : AcceptsRefresh s w token) (ip : String) :
    ∃ row user, IsHolder w.store token row user ∧ IssuedTo s user token ∧
      (refresh s token ip).run w
        = if user.isDeleted then (.error .inactiveUser, w)
          else concluded s user w (w.store.updateSession (rotation s (.next w) user ip)).2 := by
  obtain ⟨row, user, snapshot, hholder, hissued, hvalid, hcode⟩ := exists_holder h ha
  refine ⟨row, user, hholder, hissued, ?_⟩
  have hlookup : (Flow.store (.userByIdCode snapshot.idCode)).run w = (.ok (some user), w) := by
    have hfound : w.store.users.find? (·.idCode == snapshot.idCode) = some user := by
      rw [hcode]
      exact Store.find?_key_of_mem h.ledger.unique.codes hholder.stored
    rw [Flow.run_store, ← hfound]
    rfl
  have hupdate := run_update s user user.provider ip w
  rw [renewed_of_row (hholder.rowFor h)] at hupdate
  rw [refresh, Session.refresh, Flow.bind_assoc, Flow.run_bind_of_ok hvalid, Flow.bind_assoc,
    Flow.run_bind_of_ok hlookup, Flow.require_some, Flow.done_bind]
  cases user.isDeleted with
  | true => rfl
  | false =>
    rw [Bool.not_false, Flow.ensure_true, Flow.done_bind, Flow.bind_assoc,
      if_neg Bool.false_ne_true, ← hupdate]
    cases hresult : (Session.update s user user.provider ip).run w with
    | mk result w' => cases result with
      | ok pair => rw [Flow.run_bind_of_ok hresult]; rfl
      | error e => rw [Flow.run_bind_of_error hresult]

/-! ## What a failure costs -/

/-- A refresh that fails leaves its token as good as it was. -/
def IsSafe (s : Setup) (w : World) (token ip : String) : Prop :=
  ∀ e, ((refresh s token ip).run w).1 = .error e →
    AcceptsRefresh s ((refresh s token ip).run w).2 token

theorem IsHolder.unique {row' : SessionRow} {user' : User} (hu : w.store.Unique)
    (h : IsHolder w.store token row user) (h' : IsHolder w.store token row' user') :
    user = user' := by
  have hrow : row = row' := Option.some.inj (h.found.symm.trans h'.found)
  exact hu.eq_of_id h.stored h'.stored (by rw [← h.owner, ← h'.owner, hrow])

section
variable {w' : World} (h : Reachable s w) (hholder : IsHolder w.store token row user)
  (ht : IssuedTo s user token) (h' : Reachable s w')
  (hstore : w'.store = (w.store.updateSession (rotation s (.next w) user ip)).2)
include h hholder ht h' hstore

/-- Once a row has been renewed, it is found by the new token. -/
theorem sessionByToken_renewed : w'.store.sessionByToken token
    = if ((Mint.next w).pair s user).refresh = token
      then some (Store.Memory.rotate (rotation s (.next w) user ip) row) else none := by
  have hrow' : w'.store.rowFor user.id
      = some (Store.Memory.rotate (rotation s (.next w) user ip) row) := by
    rw [hstore, ← Option.map_some, ← hholder.rowFor h]
    exact Store.Memory.rowFor_updateSession_self _
  have hknown : w'.store.Known user := by
    rw [hstore]
    exact Store.Memory.known_of_mem hholder.stored
  rw [h'.ledger.sessionByToken_of_issuedTo hknown ht, hrow', Option.filter_some]
  exact ite_congr (propext beq_iff_eq) (fun _ => rfl) fun _ => rfl

/-- At the same instant, the old token is accepted only if it is the new one as well. -/
theorem accepts_renewed_iff (ha : AcceptsRefresh s w token) (hnow : w'.now = w.now) :
    AcceptsRefresh s w' token ↔ ((Mint.next w).pair s user).refresh = token := by
  obtain ⟨-, snapshot, -, hvalid, -⟩ := acceptsRefresh_iff.1 ha
  rw [acceptsRefresh_iff, sessionByToken_renewed h hholder ht h' hstore, hnow]
  constructor
  · rintro ⟨found, -, hsome, -⟩
    split at hsome
    · next heq => exact heq
    · cases hsome
  · rintro rfl
    have hsnapshot : snapshot = { (Mint.next w).snapshot user with userId := 0 } :=
      Token.snapshot_of_validate s.suite.sign s.settings.token .refresh .refresh w.now_bounds hvalid
    refine ⟨_, snapshot, if_pos rfl, hvalid, ?_⟩
    rw [hsnapshot]
    rfl

end

/-- In every reachable world, a refresh with a token that is accepted is safe exactly if the account
is out of service, or the cache, which is asked once, does not fail, or chance makes the same token
again. -/
theorem safe_iff (h : Reachable s w) (ha : AcceptsRefresh s w token) (ip : String) :
    IsSafe s w token ip ↔ ∀ row user, IsHolder w.store token row user → user.isDeleted = false →
      w.outside.cacheFails w.cacheCalls = false ∨
        ((Mint.next w).pair s user).refresh = token := by
  obtain ⟨row, user, hholder, ht, hrun⟩ := run_refresh h ha ip
  have hreachable : Reachable s ((refresh s token ip).run w).2 := h.call (.refresh token ip)
  have hall {P : User → Prop} : (∀ row user, IsHolder w.store token row user → P user) ↔ P user :=
    ⟨fun hp => hp row user hholder,
      fun hp row' user' hholder' => hholder.unique h.ledger.unique hholder' ▸ hp⟩
  rw [hall]
  cases hservice : user.isDeleted with
  | true =>
    rw [hservice, if_pos rfl] at hrun
    simp only [IsSafe, hrun, ha, implies_true, Bool.true_eq_false, false_implies]
  | false =>
    rw [hservice, if_neg Bool.false_ne_true, concluded] at hrun
    cases hfails : w.outside.cacheFails w.cacheCalls with
    | false =>
      rw [hfails] at hrun
      simp [IsSafe, hrun]
    | true =>
      rw [hfails, if_pos rfl] at hrun
      rw [hrun] at hreachable
      have hiff := accepts_renewed_iff h hholder ht hreachable rfl ha rfl
      simp [IsSafe, hrun, hiff]

theorem safe_iff_returned : Reachable Sample.setup returned.2 ∧ ∃ pair, returned.1 = .ok pair ∧
    AcceptsRefresh Sample.setup returned.2 pair.refresh ∧
    IsSafe Sample.setup returned.2 pair.refresh "::1" := by
  obtain ⟨user, -, m, hpair, -, hrefresh, -⟩ := returned_made
  refine ⟨returned_reachable, _, hpair, hrefresh, ?_⟩
  exact (safe_iff returned_reachable hrefresh "::1").2 fun _ _ _ _ => .inl rfl

/-- Chance does not make the newcomer's refresh token again. -/
theorem next_refresh_ne {m : Mint} (h : Made Sample.setup Sample.world returned.2 m)
    (user other : User) : ((Mint.next downed).pair Sample.setup other).refresh
      ≠ (m.pair Sample.setup user).refresh := by
  have hlasting : Lasting Sample.setup := ⟨by decide, by decide⟩
  have hnow : downed.now = 1000 := by decide +kernel
  have hclocked : Clocked Sample.setup downed.now := by
    rw [hnow]
    exact ⟨by decide, by decide, by decide⟩
  have hrange : (Mint.next downed).InRange Sample.setup := ⟨hclocked, hclocked⟩
  have hdrawn : returned.2.drawn = 4 := by decide +kernel
  obtain ⟨n, -, hn, hid⟩ := h.refreshId
  intro he
  obtain ⟨-, -, -, -, hsame⟩ := Mint.refresh_injective hlasting hrange h.inRange he
  have hnumber : (returned.2.drawn + 2 : Nat) = n :=
    Sample.uuid_injective (by omega) (by omega) (hsame.trans hid)
  omega

/-- The cache fails while the newcomer's refresh token is exchanged. The refresh is refused, and
from then on the token is refused as well, also once the cache is back. -/
theorem not_safe_downed : Reachable Sample.setup downed ∧ ∃ pair, returned.1 = .ok pair ∧
    AcceptsRefresh Sample.setup downed pair.refresh ∧
    ((refresh Sample.setup pair.refresh "::1").run downed).1 = .error (.cache "cache.down") ∧
    ¬ IsSafe Sample.setup downed pair.refresh "::1" ∧
    ∀ later, later.store = ((refresh Sample.setup pair.refresh "::1").run downed).2.store →
      ((validateRefresh Sample.setup pair.refresh).run later).1 = .error .invalidToken := by
  have hreachable : Reachable Sample.setup downed := returned_reachable.turns ⟨rfl, .inl rfl⟩
  obtain ⟨owner, -, m, hpair, hmade, hrefresh, -⟩ := returned_made
  have haccepted : AcceptsRefresh Sample.setup downed (m.pair Sample.setup owner).refresh := by
    rw [acceptsRefresh_iff] at hrefresh ⊢
    exact hrefresh
  obtain ⟨row, user, hholder, ht, hrun⟩ := run_refresh hreachable haccepted "::1"
  have hservice : user.isDeleted = false := by
    have hall : (returned.2.store.users.all fun user => !user.isDeleted) = true := by
      decide +kernel
    simpa using List.all_eq_true.1 hall user hholder.stored
  rw [hservice, if_neg Bool.false_ne_true, concluded,
    if_pos (show downed.outside.cacheFails downed.cacheCalls = true from rfl)] at hrun
  have hafter : Reachable Sample.setup
      ((refresh Sample.setup (m.pair Sample.setup owner).refresh "::1").run downed).2 :=
    hreachable.call (.refresh _ "::1")
  have hgone := sessionByToken_renewed hreachable hholder ht hafter (by rw [hrun])
  rw [if_neg (next_refresh_ne hmade owner user)] at hgone
  refine ⟨hreachable, _, hpair, haccepted, by rw [hrun], fun hsafe => ?_, fun later hstore => ?_⟩
  · obtain ⟨row', -, hrow', -⟩ := acceptsRefresh_iff.1 (hsafe _ (by rw [hrun]))
    rw [hgone] at hrow'
    cases hrow'
  · rw [validateRefresh_answer, hstore, hgone]
    rfl

end SignOn.Account
