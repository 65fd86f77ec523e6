import SignOn.Proofs.Account.Logout
import SignOn.Proofs.Account.Password
import SignOn.Proofs.Flow.Failing
import SignOn.Proofs.Session.Opening
/-!
What is left behind when an account cannot be opened. The account is stored first, and the call goes
on to drop what it has used up and to begin a session: if the cache fails then, the call fails and
the account stays. `leavesNothing_iff` says which commands those are, for each of the calls that
open accounts.
-/

namespace SignOn.Flow

variable {α β : Type} {w : World} {f : Flow α} {g : α → Flow β} {n m : Nat}

/-! ## Calls that store something -/

/-- An act that leaves accounts and session rows as they are. -/
def KeepsStore (act : Act) : Prop := ∀ w : World, (w.perform act).2.store = w.store

theorem store_run_of_acts (hf : f.Acts KeepsStore) (w : World) : (f.run w).2.store = w.store := by
  induction f generalizing w with
  | done value => rfl
  | fail failure => rfl
  | step act next ih => exact (ih _ (hf.2 _) _).trans (hf.1 w)

/-- If the call fails, accounts and session rows are as before. -/
def LeavesNothing (f : Flow α) (w : World) : Prop :=
  ∀ e, (f.run w).1 = .error e → (f.run w).2.store = w.store

/-- Nothing fails behind what the call stores: if it succeeds, and stores something, where the cache
does not fail from its command `before` on, then none of the commands from there up to `total`
fails. -/
def Survives (before total : Nat) (f : Flow α) (w : World) : Prop :=
  ∀ a, (f.run (w.mended before)).1 = .ok a → (f.run (w.mended before)).2.store ≠ w.store →
    ∀ i, before ≤ i → i < total → w.outside.cacheFails (w.cacheCalls + i) = false

/-- A call that stores something behind its command `before`, and gives `total` commands. -/
def Commits (before total : Nat) (f : Flow α) : Prop :=
  ∀ w, f.LeavesNothing w ↔ f.Survives before total w

/-- A part that stores nothing comes first. -/
theorem Commits.after (before total : Nat) (hf : f.Acts KeepsStore) (hn : f.CommandCount n m)
    (hm : m ≤ n + before) (hg : ∀ a, (g a).Commits before total) :
    (f >>= g).Commits (n + before) (n + total) := by
  intro w
  cases hr : f.run w with
  | mk result w₁ =>
    have hstore : w₁.store = w.store := by
      rw [← store_run_of_acts hf w, hr]
    cases result with
    | error e =>
      have hmended := run_mended (w := w) hn hm
      rw [hr] at hmended
      constructor
      · intro _ a ha
        rw [run_bind_of_error hmended] at ha
        cases ha
      · intro _ e' _
        rw [run_bind_of_error hr, hstore]
    | ok a =>
      have hgiven : w₁.cacheCalls = w.cacheCalls + n := by
        have := hn.given w a (by rw [hr])
        rwa [hr] at this
      have houtside : w₁.outside = w.outside := by
        rw [← run_outside f (w := w), hr]
      have hmended := run_mended_of_ok (w := w) hn hm (a := a) (by rw [hr])
      rw [hr] at hmended
      have hiff := hg a w₁
      simp only [LeavesNothing, Survives, run_bind_of_ok hr, run_bind_of_ok hmended,
        ← hstore] at hiff ⊢
      rw [hiff]
      refine forall_congr' fun b => imp_congr_right fun _ => imp_congr_right fun _ => ?_
      rw [houtside, hgiven]
      refine ⟨fun h i hi hlt => ?_, fun h i hi hlt => ?_⟩
      · have := h (i - n) (by omega) (by omega)
        rwa [Nat.add_assoc, Nat.add_sub_cancel' (by omega)] at this
      · rw [Nat.add_assoc]
        exact h (n + i) (by omega) (by omega)

end SignOn.Flow

namespace SignOn.Account

open SignOn.Flow SignOn.Keyspace SignOn.Session SignOn.Verification

variable {s : Setup} {α : Type} {w : World}

/-! ## What is stored -/

theorem mended_up (w : World) (i : Nat) :
    (w.mended 0).outside.cacheFails (w.cacheCalls + i) = false := by
  simp only [World.mended, World.failing, Bool.and_eq_false_imp, decide_eq_true_eq]
  omega

/-- A new account stays, whatever fails behind it. -/
theorem creation_commits {total : Nat} (new : NewUser) {tail : User → Flow α}
    (ht : ∀ user, (tail user).Needs total) :
    (Flow.store (.createUser new) >>= tail).Commits 0 total := by
  intro w
  have hcreated (v : World) (hs : v.store = w.store) (hn : v.instant = w.instant) :
      (Flow.store (.createUser new)).run v = ((w.store.createUser new w.instant).1,
        { v with store := (w.store.createUser new w.instant).2 }) := by
    rw [← hs, ← hn]
    exact Flow.run_store _ v
  have hrun := hcreated w rfl rfl
  have hmended := hcreated (w.mended 0) rfl rfl
  rcases w.store.createUser_cases new w.instant with he | ⟨he, -⟩
  · -- An account stands in the way: nothing is stored.
    rw [he] at hrun hmended
    simp [LeavesNothing, Survives, run_bind_of_error hrun, run_bind_of_error hmended]
  · rw [he] at hrun hmended
    generalize huser : w.store.accountFor new w.instant = user at hrun hmended
    generalize hw₁ : ({ w with
      store := { w.store with users := w.store.users ++ [user] } } : World) = w₁ at hrun
    generalize hw₂ : ({ w.mended 0 with
      store := { w.store with users := w.store.users ++ [user] } } : World) = w₂ at hmended
    have hnew : user ∉ w.store.users := fun hu =>
      Store.Memory.id_accountFor_ne hu (congrArg User.id huser.symm)
    have hstays {v : World} (hu : user ∈ v.store.users) :
        ((tail user).run v).2.store ≠ w.store := fun hs =>
      hnew (hs ▸ mem_users_run hu (tail user))
    have hneeds : (∃ a, ((tail user).run w₁).1 = .ok a) ↔
        ∀ i < total, w.outside.cacheFails (w.cacheCalls + i) = false := by
      rw [← hw₁]
      exact (ht user).succeeds _
    simp only [LeavesNothing, Survives, run_bind_of_ok hrun, run_bind_of_ok hmended]
    constructor
    · intro hleaves _ _ _ i _ hi
      refine hneeds.1 ?_ i hi
      cases hresult : ((tail user).run w₁).1 with
      | ok a => exact ⟨a, rfl⟩
      | error e => exact absurd (hleaves e hresult) (hstays (by simp [← hw₁]))
    · intro hup e hresult
      obtain ⟨a, ha⟩ : ∃ a, ((tail user).run w₂).1 = .ok a := by
        rw [← hw₂]
        exact ((ht user).succeeds _).2 fun i _ => mended_up w i
      obtain ⟨b, hb⟩ := hneeds.2 fun i hi =>
        hup a ha (hstays (by simp [← hw₂])) i (Nat.zero_le i) hi
      rw [hb] at hresult
      cases hresult

/-- A row that is renewed stays renewed, whether or not the key of the session can be put. -/
theorem update_commits (user : User) (provider : AuthProvider) (ip : String) :
    (Session.update s user provider ip).Commits 0 1 := by
  intro w
  have hup : (w.mended 0).outside.cacheFails (w.mended 0).cacheCalls = false := mended_up w 0
  have hmended := Session.run_update s user provider ip (w.mended 0)
  have hrun := Session.run_update s user provider ip w
  rw [concluded, hup, if_neg Bool.false_ne_true] at hmended
  rw [concluded] at hrun
  simp only [LeavesNothing, Survives, hrun, hmended]
  cases hfails : w.outside.cacheFails w.cacheCalls with
  | true =>
    constructor
    · intro hleaves a _ hne
      exact absurd (hleaves _ rfl) hne
    · intro hsurvives e _
      refine Classical.byContradiction fun hne => ?_
      have hfirst := hsurvives _ rfl hne 0 (Nat.le_refl 0) Nat.zero_lt_one
      rw [Nat.add_zero, hfails] at hfirst
      cases hfirst
  | false =>
    constructor
    · intro _ a _ _ i _ hi
      obtain rfl : i = 0 := by omega
      exact hfails
    · intro _ e herror
      cases herror

theorem create_needs (user : User) (provider : AuthProvider) (ip : String) :
    (Session.create s user provider ip).Needs 1 := by
  refine needs_one (fun w pair hpair => ?_) fun w => ?_
  · rw [Session.run_create, concluded] at hpair ⊢
    split at hpair
    · cases hpair
    · next hup => rw [if_neg hup]
  · rw [Session.run_create, concluded]
    cases w.outside.cacheFails w.cacheCalls with
    | true => simp
    | false => simp

/-! ## Parts that store nothing -/

theorem keepsStore_of_ne {act : Act} (h : ∀ st, act ≠ .store st) : KeepsStore act :=
  fun w => w.perform_store_eq h

instance : AdmitsProvider KeepsStore where
  clock := keepsStore_of_ne fun _ h => by cases h
  uuid := keepsStore_of_ne fun _ h => by cases h
  salt := keepsStore_of_ne fun _ h => by cases h
  lookup st h := by
    intro w
    cases st with
    | userById id => rfl
    | userByIdCode idCode => rfl
    | userByEmail email => rfl
    | userByPhone phone => rfl
    | _ => exact h.elim
  request _ _ _ := keepsStore_of_ne fun _ h => by cases h
  state _ _ _ := keepsStore_of_ne fun _ h => by cases h
  exchange _ := keepsStore_of_ne fun _ h => by cases h
  profile _ := keepsStore_of_ne fun _ h => by cases h

instance : AdmitsChecks KeepsStore where
  look _ := keepsStore_of_ne fun _ h => by cases h
  void _ := keepsStore_of_ne fun _ h => by cases h

/-- An act that neither stores anything nor uses the cache. -/
def IsDry : Act → Prop
  | .cache _ => False
  | .store st => st.IsLookup
  | _ => True

theorem IsDry.keepsStore {act : Act} (h : IsDry act) : KeepsStore act := by
  cases act with
  | store st => exact Admits.lookup st h
  | _ => exact keepsStore_of_ne fun _ he => by cases he

theorem IsDry.ne_cache {act : Act} (h : IsDry act) (cmd : Cache.Command) :
    act ≠ .cache cmd := by
  rintro rfl
  exact h

section
variable {β : Type} {f : Flow α} {g : α → Flow β} {before total : Nat}

theorem dry_then (hf : f.Acts IsDry) (hg : ∀ a, (g a).Commits before total) :
    (f >>= g).Commits before total := by
  have hcounts : f.CommandCount 0 0 := counts_of_acts (hf.mono fun _ h => h.ne_cache)
  have hcommits := Commits.after before total (hf.mono fun _ h => h.keepsStore) hcounts
    (Nat.zero_le _) hg
  rwa [Nat.zero_add, Nat.zero_add] at hcommits

theorem freeEmail_then {email : String} {g : Unit → Flow β} (hg : (g ()).Commits before total) :
    (ensureFreeEmail email >>= g).Commits before total :=
  dry_then ((statement_acts trivial).bind fun _ => acts_ensure _ _ _) fun _ => hg

theorem freePhone_then {phone : String} {g : Unit → Flow β} (hg : (g ()).Commits before total) :
    (ensureFreePhone phone >>= g).Commits before total :=
  dry_then ((statement_acts trivial).bind fun _ => acts_ensure _ _ _) fun _ => hg

/-- One command is given, and its answer judged. -/
theorem counts_judged {cmd : Cache.Command} {judge : cmd.Answer → Flow β}
    (hj : ∀ answer, (judge answer).Acts IsDry) : (Flow.cache cmd >>= judge).CommandCount 1 1 :=
  (counts_command cmd).bind (fun answer => counts_of_acts ((hj answer).mono fun _ h => h.ne_cache))
    (Nat.le_refl 1)

end

theorem claimedAt_counts (state : String) : (States.claimedAt state).CommandCount 1 1 :=
  counts_judged fun _ => trivial

theorem provenEmail_counts (requestId : String) :
    (Google.provenEmail requestId).CommandCount 1 1 := by
  rw [Google.provenEmail, Requests.email, Flow.bind_assoc]
  exact counts_judged fun _ => acts_require _ _ _

theorem check_counts (subject : Subject) (code : String) :
    (check subject code).CommandCount 1 1 := by
  rw [check, Bundles.load, Flow.bind_assoc]
  exact counts_judged fun _ => (acts_ofExcept _ _).bind fun _ => acts_ensure _ _ _

/-- Asking the provider takes no command, unless the claim has to be put back. -/
theorem profileOrRestore_counts (s : Setup) (state : String) (claimedAt : Int) (code : String) :
    (Google.profileOrRestore s state claimedAt code).CommandCount 0 1 := by
  have hrestore (e : Failure) : (do
      let _ ← States.restore s.stateLifetime state claimedAt
      .fail e : Flow UserProfile).CommandCount 0 1 := by
    have hcounts : (do
        let _ ← States.restore s.stateLifetime state claimedAt
        .fail e : Flow UserProfile).CommandCount 1 1 := counts_judged fun _ => trivial
    refine hcounts.of_fails fun w a ha => ?_
    obtain ⟨_, _, hnone⟩ := run_bind_ok.1 ha
    cases hnone
  have hdone (profile : UserProfile) : (.done profile : Flow UserProfile).CommandCount 0 1 :=
    ⟨fun _ _ _ => rfl, fun _ => Nat.le_succ _⟩
  refine counts_step (fun _ h => by cases h) fun token => ?_
  cases token with
  | error e => exact hrestore e
  | ok token =>
    refine counts_step (fun _ h => by cases h) fun profile => ?_
    cases profile with
    | error e => exact hrestore e
    | ok profile => exact hdone profile

/-! ## The calls that open accounts -/

theorem signUp_commits (s : Setup) (request : SignUpRequest) (ip : String) :
    (signUp s request ip).Commits 0 1 := by
  refine dry_then (acts_ofExcept _ _) fun _ => freeEmail_then (freePhone_then ?_)
  refine dry_then ⟨trivial, fun _ => trivial⟩ fun id => ?_
  refine dry_then ⟨trivial, fun _ => trivial⟩ fun salt => ?_
  refine dry_then (acts_ofExcept _ _) fun hash => creation_commits _ fun user => ?_
  exact (create_needs user .email ip).bind fun _ => needs_pure _

theorem signInWith_commits (s : Setup) (email ip : String) :
    (Google.signInWith s email ip).Commits 0 1 := by
  refine dry_then (statement_acts trivial) fun found => ?_
  cases found with
  | some user => exact dry_then (acts_ensure _ _ _) fun _ => update_commits user .google ip
  | none =>
    dsimp only
    rw [Google.createUser, Flow.bind_assoc]
    refine dry_then ⟨trivial, fun _ => trivial⟩ fun id => creation_commits _ fun user => ?_
    exact create_needs user .google ip

theorem callback_commits (s : Setup) (state code ip : String) :
    (Google.callback s state code ip).Commits 3 4 := by
  refine dry_then (acts_ensure _ _ _) fun _ => ?_
  refine Commits.after 2 3 (claimedAt_acts state) (claimedAt_counts state)
    (by decide) fun found => ?_
  refine dry_then (acts_require _ _ _) fun claimedAt => ?_
  refine dry_then ⟨trivial, fun _ => trivial⟩ fun now => ?_
  refine dry_then (acts_ensure _ _ _) fun _ => ?_
  refine Commits.after 1 2 (take_acts s state claimedAt) (counts_command _)
    (by decide) fun taken => dry_then (acts_ensure _ _ _) fun _ => ?_
  refine Commits.after 1 2 (profileOrRestore_acts s state claimedAt code)
    (profileOrRestore_counts s state claimedAt code) (by decide) fun profile => ?_
  exact Commits.after 0 1 (release_acts state) (counts_command _) (by decide) fun _ =>
    signInWith_commits s profile.email ip

theorem complete_commits (s : Setup) (request : CompleteRequest) (ip : String) :
    (complete s request ip).Commits 2 5 := by
  refine dry_then (acts_ofExcept _ _) fun _ => ?_
  refine Commits.after 1 4 (provenEmail_acts _) (provenEmail_counts _)
    (by decide) fun email => ?_
  refine Commits.after 0 3 (check_acts _ _) (check_counts _ _)
    (by decide) fun _ => freeEmail_then (freePhone_then ?_)
  rw [Google.createUser, Flow.bind_assoc]
  refine dry_then ⟨trivial, fun _ => trivial⟩ fun id => creation_commits _ fun user => ?_
  refine (needs_command _).bind (n := 2) fun _ => (needs_command _).bind (n := 1) fun _ => ?_
  exact (create_needs user .google ip).bind fun _ => needs_pure _

/-- Behind how many commands a call that opens accounts stores them, and how many it gives in all.
-/
def Call.storing? : Call → Option (Nat × Nat)
  | .signUp .. => some (0, 1)
  | .callback .. => some (3, 4)
  | .complete .. => some (2, 5)
  | _ => none

/-- A call that opens accounts leaves nothing behind when it fails, exactly if it does not fail for
a command behind the storing: the key of the session has to be put, and before that a completion has
to drop the request and the codes. -/
theorem leavesNothing_iff (s : Setup) {k : Call} {before total : Nat}
    (hk : k.storing? = some (before, total)) (w : World) :
    (k.flow s).LeavesNothing w ↔ (k.flow s).Survives before total w := by
  cases k with
  | signUp request ip => cases hk; exact signUp_commits s request ip w
  | callback state code ip => cases hk; exact callback_commits s state code ip w
  | complete request ip => cases hk; exact complete_commits s request ip w
  | _ => cases hk

theorem leavesNothing_iff_sent :
    Call.storing? (.callback (Sample.uuid 7).text "code" "::1") = some (3, 4) ∧
      (Call.flow Sample.setup (.callback (Sample.uuid 7).text "code" "::1")).LeavesNothing sent.2 :=
  ⟨rfl, (leavesNothing_iff Sample.setup rfl sent.2).2 fun _ _ _ _ _ _ => rfl⟩

/-! ## A sign-up that cannot be repeated -/

/-- Nobody signs up with an email that an account holds. -/
theorem run_signUp_taken {request : SignUpRequest} {ip : String} {user : User}
    (hu : user ∈ w.store.users) (he : user.email = some request.email)
    (hvalid : request.violations s.emails = []) :
    (signUp s request ip).run w = (.error .userAlreadyExists, w) := by
  have hensured : ensureValid (request.violations s.emails) = .done () := by rw [hvalid]; rfl
  have hfound : (w.store.users.find? (·.email == some request.email)).isNone = false := by
    rw [Option.isNone_eq_false_iff, List.find?_isSome]
    exact ⟨user, hu, by simp [he]⟩
  have hemail : (ensureFreeEmail request.email).run w = (.error .userAlreadyExists, w) := by
    change (Flow.ensure (w.store.users.find? _).isNone _).run w = _
    rw [hfound]
    rfl
  rw [signUp, hensured, Flow.done_bind, run_bind_of_error hemail]

/-- Ada signs up while the cache fails. -/
def unlucky : World := { Sample.world with outside := { Sample.outside with
  salts := fun _ => List.replicate 16 7
  cacheFails := fun _ => true } }

/-- Ada's sign-up fails. Her account and its open session stay all the same, and from then on she is
refused since the account is there, also once the cache is back. -/
theorem leaves_account_unlucky : Reachable Sample.setup unlucky ∧ ∃ w',
    (signUp Sample.setup joining "::1").run unlucky = (.error (.cache "cache.down"), w') ∧
    unlucky.store.users = [] ∧ w'.store.users.length = 1 ∧
    (∃ row ∈ w'.store.sessions, row.isActive = true ∧ row.refreshToken ≠ "") ∧
    ¬ (signUp Sample.setup joining "::1").LeavesNothing unlucky ∧
    ((signUp Sample.setup joining "::1").run { w' with outside := Sample.outside }).1
      = .error .userAlreadyExists := by
  have hlength : 8 ≤ (List.replicate 16 7 : Bytes).length := by decide
  have hvalid : joining.violations Sample.setup.emails = [] := by decide +kernel
  obtain ⟨stored, hstored⟩ := Password.exists_hash hlength joining.password
  obtain ⟨user, hemail, -, hrun⟩ := run_signUp_first (w := unlucky) Sample.setup joining "::1" rfl
    hvalid hstored
  rw [run_bind_of_error (Session.run_create Sample.setup user .email "::1" _)] at hrun
  refine ⟨.empty rfl rfl, _, hrun, rfl, rfl,
    ⟨_, List.mem_singleton_self _, rfl, Mint.refresh_ne_empty _ _ _⟩, fun hleaves => ?_, ?_⟩
  · have hsame := hleaves _ (congrArg Prod.fst hrun)
    rw [hrun] at hsame
    cases congrArg Store.Memory.users hsame
  · rw [run_signUp_taken (List.mem_singleton_self user) hemail hvalid]

end SignOn.Account
