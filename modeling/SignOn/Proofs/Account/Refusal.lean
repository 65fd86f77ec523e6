import SignOn.Proofs.Account.Exclusion
import SignOn.Proofs.Account.FailedOpening
import SignOn.Proofs.Flow.Refused
/-!
What a refusal leaves behind. Most calls decide whether to refuse before they change anything. A
sign-in with a code voids the codes of its phone before it looks whether the account is in service.
`refusal_exact` says what is left in each case.
-/

namespace SignOn.Account

open SignOn.Flow SignOn.Keyspace SignOn.Session SignOn.Verification SignOn.World

variable {s : Setup} {w w' : World} {α : Type}

/-! ## Parts of the calls -/

theorem freeEmail_quiet (email : String) : (ensureFreeEmail email).Acts IsQuiet :=
  (statement_acts trivial).bind fun _ => acts_ensure _ _ _

theorem freePhone_quiet (phone : String) : (ensureFreePhone phone).Acts IsQuiet :=
  (statement_acts trivial).bind fun _ => acts_ensure _ _ _

theorem load_quiet (subject : Subject) : (Bundles.load subject).Acts IsQuiet :=
  (command_acts trivial).bind fun _ => acts_ofExcept _ _

theorem check_quiet (subject : Subject) (code : String) : (check subject code).Acts IsQuiet :=
  (load_quiet subject).bind fun _ => acts_ensure _ _ _

theorem provenEmail_quiet (requestId : String) : (Google.provenEmail requestId).Acts IsQuiet :=
  ((command_acts trivial).bind fun _ => pure_acts _).bind fun _ => acts_require _ _ _

theorem validateRefresh_quiet (s : Setup) (token : String) :
    (validateRefresh s token).Acts IsQuiet := by
  refine (validateRefresh_looks s token).mono fun act h => ?_
  cases act with
  | clock => trivial
  | store st => cases st <;> trivial
  | cache cmd => cases cmd <;> trivial
  | _ => exact h.elim

/-- Once the row of a session is written, only the cache can fail. -/
theorem kind_of_concluded {user : User} {store : Store.Memory} {e : Failure}
    (h : (concluded s user w store).1 = .error e) : e.kind = .internal := by
  rw [concluded] at h
  split at h
  · cases h; rfl
  · cases h

theorem create_firm (user : User) (provider : AuthProvider) (ip : String) :
    (Session.create s user provider ip).Firm := by
  intro w _ e he
  rw [Session.run_create] at he
  exact kind_of_concluded he

theorem update_firm (user : User) (provider : AuthProvider) (ip : String) :
    (Session.update s user provider ip).Firm := by
  intro w _ e he
  rw [Session.run_update] at he
  exact kind_of_concluded he

/-- A pair is handed out in an answer. -/
theorem answer_firm {f : Flow TokenPair} {answer : TokenPair → α} (hf : f.Firm) :
    (do let pair ← f; return answer pair : Flow α).Firm :=
  hf.bind fun _ => failsWith_pure _ _

/-! ## One-time codes -/

/-- A bundle that is not written leaves no trace, however often the swap is lost. -/
theorem storeBundle_clean (subject : Subject) {next : Bundle → Flow Bundle}
    (hnext : ∀ bundle, (next bundle).Acts IsQuiet) (attempts : Nat) :
    (Verification.store s subject next attempts).Clean := by
  induction attempts with
  | zero => exact fun w _ _ _ _ => .refl w
  | succ attempts ih =>
    refine quiet_then (load_quiet subject) fun loaded => quiet_then (hnext _) fun updated => ?_
    intro w hw e he href
    have hrun : (Bundles.replace s.bundleLifetime subject loaded updated).run w
        = w.perform (.cache (.swap (Bundles.key subject) loaded.raw updated.encode
            s.bundleLifetime)) := run_cache _ w
    rcases run_bind_cases (Bundles.replace s.bundleLifetime subject loaded updated) _ w with
      ⟨e', he', hfailed⟩ | ⟨won, hwon, hgoes⟩
    · rw [hfailed] at he
      cases he
      exact absurd (command_firm _ w hw _ he') href
    · rw [hgoes] at he ⊢
      cases won with
      | true => cases he
      | false =>
        rw [hrun] at hwon
        have hlost := undisturbed_of_lost hw.keyed hwon
        rw [← hrun] at hlost
        exact hlost.trans (ih _ (run_orderly hw _) e he href)

theorem addCode_quiet (code : String) (bundle : Bundle) : (addCode s code bundle).Acts IsQuiet :=
  ⟨trivial, fun _ => (acts_ensure _ _ _).bind fun _ => pure_acts _⟩

/-- A message that is not delivered is no refusal. -/
theorem deliver_firm (subject : Subject) (code : String) : (deliver s subject code).Firm := by
  intro w hw e he
  cases subject with
  | email address =>
    have hmail : ((deliver s (.email address) code).run w).1
        = (w.perform (.mail address code)).1 := congrArg Prod.fst (run_ofExcept _)
    rw [hmail] at he
    simp only [perform] at he
    split at he
    · cases he
    · next hfails => cases he; exact hw.senders.mail _ _ _ hfails
  | phone number =>
    have htext : ((deliver s (.phone number) code).run w).1
        = (w.perform (.text number (textOf s code))).1 := congrArg Prod.fst (run_ofExcept _)
    rw [htext] at he
    simp only [perform] at he
    split at he
    · cases he
    · next hfails => cases he; exact hw.senders.text _ _ _ hfails

theorem issue_clean (subject : Subject) : (issue s subject).Clean := by
  unfold issue
  split
  · exact quiet_then ⟨trivial, fun _ => trivial⟩ fun now =>
      storeBundle_clean subject (fun _ => pure_acts _) _
  · refine quiet_then ⟨trivial, fun _ => trivial⟩ fun code => ?_
    exact (storeBundle_clean subject (addCode_quiet code) _).then fun _ => deliver_firm subject code

/-! ## The calls -/

theorem sendCode_clean (request : SendCodeRequest) : (sendCode s request).Clean := by
  refine quiet_then (ensureValid_acts _) fun _ => quiet_then ?_ fun subject =>
    issue_clean subject
  unfold codeSubject
  split
  · refine (required_acts _ _).bind fun email => (statement_acts trivial).bind fun found => ?_
    exact (ensureInService_acts found).bind fun _ => pure_acts _
  · refine (required_acts _ _).bind fun value => ?_
    split
    · exact (provenEmail_quiet _).bind fun _ => (freePhone_quiet _).bind fun _ => pure_acts _
    · refine (statement_acts trivial).bind fun found => ?_
      exact (ensureInService_acts found).bind fun _ => pure_acts _
  · trivial

theorem signUp_clean (request : SignUpRequest) (ip : String) : (signUp s request ip).Clean := by
  refine quiet_then (ensureValid_acts _) fun _ => quiet_then (freeEmail_quiet _) fun _ => ?_
  refine quiet_then (freePhone_quiet _) fun _ => ?_
  refine quiet_then ⟨trivial, fun _ => trivial⟩ fun id => ?_
  refine quiet_then ⟨trivial, fun _ => trivial⟩ fun salt => ?_
  refine quiet_then (acts_ofExcept _ _) fun hash => ?_
  exact (creation_clean _).then fun user => answer_firm (create_firm user .email ip)

theorem refresh_clean (token ip : String) : (refresh s token ip).Clean := by
  rw [refresh, Session.refresh, Flow.bind_assoc]
  refine quiet_then (validateRefresh_quiet s token) fun snapshot => ?_
  rw [Flow.bind_assoc]
  refine quiet_then (statement_acts trivial) fun found => ?_
  rw [Flow.bind_assoc]
  refine quiet_then (acts_require _ _ _) fun user => ?_
  rw [Flow.bind_assoc]
  refine quiet_then (acts_ensure _ _ _) fun _ => Firm.clean ?_
  exact (answer_firm (update_firm user user.provider ip)).bind fun _ => failsWith_pure _ _

theorem logout_clean (token : String) : (logout token).Clean := by
  refine quiet_then (statement_acts trivial) fun found => ?_
  refine quiet_then (acts_require _ _ _) fun row => ?_
  refine quiet_then ⟨trivial, fun _ => trivial⟩ fun now => ?_
  refine Firm.clean (FailsWith.bind (statement_fails fun _ h => by cases h) fun _ => ?_)
  refine FailsWith.bind (statement_fails fun _ h => by cases h) fun owner => ?_
  cases owner with
  | some user => exact command_firm _
  | none => exact failsWith_pure _ _

theorem complete_clean (request : CompleteRequest) (ip : String) :
    (complete s request ip).Clean := by
  refine quiet_then (ensureValid_acts _) fun _ => quiet_then (provenEmail_quiet _) fun email => ?_
  refine quiet_then (check_quiet _ _) fun _ => quiet_then (freeEmail_quiet _) fun _ => ?_
  refine quiet_then (freePhone_quiet _) fun _ => ?_
  rw [Google.createUser, Flow.bind_assoc]
  refine quiet_then ⟨trivial, fun _ => trivial⟩ fun id => ?_
  refine (creation_clean _).then fun user => ?_
  refine (command_firm _).bind fun _ => (command_firm _).bind fun _ => ?_
  exact answer_firm (create_firm user .google ip)

/-! ## Signing in with a code -/

/-- The same world, in which a subject has no codes. -/
def withoutCodes (w : World) : Option Subject → World
  | none => w
  | some subject => { w with cache := w.cache.erase (Bundles.key subject) }

theorem undisturbed_withoutCodes (h : w.Undisturbed w') (subject : Option Subject) :
    (withoutCodes w subject).Undisturbed (withoutCodes w' subject) := by
  cases subject with
  | none => exact h
  | some subject =>
    refine ⟨h.millis, h.store, fun key later hle => ?_, h.mails, h.texts⟩
    simp only [withoutCodes, Cache.Memory.read?_eq]
    by_cases hk : key = Bundles.key subject
    · rw [hk, Cache.Memory.find?_erase_self, Cache.Memory.find?_erase_self]
    · have hread := h.read key later hle
      rw [Cache.Memory.read?_eq, Cache.Memory.read?_eq] at hread
      rw [Cache.Memory.find?_erase_ne hk, Cache.Memory.find?_erase_ne hk, hread]

/-- If the call is refused, it leaves no trace, except that an account out of service costs a
subject its codes. -/
def Costs (subject : Option Subject) (f : Flow α) : Prop :=
  ∀ w : World, w.Orderly → ∀ e, (f.run w).1 = .error e → e.IsRefusal →
    (withoutCodes w (if e = .inactiveUser then subject else none)).Undisturbed (f.run w).2

theorem costs_of_clean {f : Flow α} (hf : f.Clean) : Costs none f := by
  intro w hw e he href
  rw [ite_self]
  exact hf w hw e he href

/-- A part comes first that leaves no trace, and does not judge the account. -/
theorem Costs.behind {β : Type} {f : Flow β} {g : β → Flow α} {subject : Option Subject}
    (hf : f.Acts IsQuiet) (hfails : f.FailsWith (· ≠ .inactiveUser))
    (hg : ∀ a, Costs subject (g a)) : Costs subject (f >>= g) := by
  intro w hw e he href
  rcases run_bind_cases f g w with ⟨e', he', hrun⟩ | ⟨a, -, hrun⟩
  · rw [hrun] at he ⊢
    cases he
    rw [if_neg (hfails w hw _ he')]
    exact quiet_of_acts hf w hw
  · rw [hrun] at he ⊢
    exact (undisturbed_withoutCodes (quiet_of_acts hf w hw) _).trans
      (hg a _ (run_orderly hw f) e he href)

/-- Once the codes are void, only an account out of service is refused. -/
theorem clear_costs (subject : Subject) {f : Flow α} {condition : Bool} (hf : f.Firm) :
    Costs (some subject) (do
      clear subject
      Flow.ensure condition .inactiveUser
      f) := by
  intro w hw e he href
  have hclear : (clear subject).run w = _ := run_command (fun _ _ _ _ h => by cases h) w
  cases hfails : w.outside.cacheFails w.cacheCalls with
  | true =>
    rw [hfails, if_pos rfl] at hclear
    rw [run_bind_of_error hclear] at he
    cases he
    exact absurd rfl href
  | false =>
    rw [hfails, if_neg Bool.false_ne_true] at hclear
    rw [run_bind_of_ok hclear] at he ⊢
    cases condition with
    | true =>
      rw [ensure_true, done_bind] at he
      have horderly := run_orderly hw (clear subject)
      rw [hclear] at horderly
      exact absurd (hf _ horderly e he) href
    | false =>
      cases he
      exact ⟨rfl, rfl, fun _ _ _ => rfl, rfl, rfl⟩

theorem check_fails (subject : Subject) (code : String) :
    (check subject code).FailsWith (· ≠ .inactiveUser) := by
  refine FailsWith.bind (FailsWith.bind (command_fails _ (by decide)) fun value => ?_) fun loaded =>
    failsWith_ensure (by decide)
  intro w _ e he
  rw [run_ofExcept] at he
  cases value with
  | none => cases he
  | some bytes =>
    simp only [Bundles.ofValue] at he
    split at he
    · cases he
    · cases he
      decide

theorem ensureValid_fails (violations : List Violation) :
    (ensureValid violations).FailsWith (· ≠ .inactiveUser) := by
  intro w _ e he
  rw [ensureValid, run_ofExcept, Violation.refuse] at he
  split at he
  · cases he
  · cases he
    exact fun h => by cases h

/-- Whose codes a sign-in uses up. -/
def usedUp? (request : SignInRequest) : Option Subject :=
  match request.provider with
  | .phone => request.phone.map fun phone => .phone (Phone.normalize phone)
  | _ => none

theorem required_fails (value : Option String) (field : String) :
    (required value field).FailsWith (· ≠ .inactiveUser) :=
  failsWith_require fun h => by cases h

theorem byPassword_quiet (email password : String) :
    (byPassword s email password).Acts IsQuiet := by
  refine (statement_acts trivial).bind fun found => (acts_require _ _ _).bind fun user => ?_
  exact (acts_ensure _ _ _).bind fun _ => (acts_ofExcept _ _).bind fun _ => pure_acts _

/-- The codes are void before the account is judged. -/
theorem byCode_costs (phone code : String) {f : User → Flow α} (hf : ∀ user, (f user).Firm) :
    Costs (some (.phone phone)) (do
      let user ← byCode phone code
      Flow.ensure (!user.isDeleted) .inactiveUser
      f user) := by
  rw [byCode, Flow.bind_assoc]
  refine Costs.behind (check_quiet _ _) (check_fails _ _) fun _ => ?_
  rw [Flow.bind_assoc]
  have hlookup : (Flow.store (.userByPhone phone)).FailsWith (· ≠ .inactiveUser) :=
    statement_fails fun _ h => by cases h
  refine Costs.behind (statement_acts trivial) hlookup fun found => ?_
  rw [Flow.bind_assoc]
  refine Costs.behind (acts_require _ _ _) (failsWith_require (by decide)) fun user => ?_
  rw [Flow.bind_assoc]
  exact clear_costs _ (hf user)

theorem signIn_costs (request : SignInRequest) (ip : String) :
    Costs (usedUp? request) (signIn s request ip) := by
  have hfinish (provider : AuthProvider) (user : User) : (do
      let tokens ← Session.update s user provider ip
      return respond user tokens : Flow SignedIn).Firm :=
    answer_firm (update_firm user provider ip)
  refine Costs.behind (ensureValid_acts _) (ensureValid_fails _) fun _ => ?_
  rw [usedUp?]
  cases hp : request.provider with
  | email =>
    refine costs_of_clean (quiet_then (required_acts _ _) fun email => ?_)
    refine quiet_then (required_acts _ _) fun password => ?_
    refine quiet_then (byPassword_quiet email password) fun user => ?_
    exact quiet_then (acts_ensure _ _ _) fun _ => (hfinish _ user).clean
  | google => exact costs_of_clean fun w _ _ _ _ => .refl w
  | phone =>
    cases hphone : request.phone with
    | none => exact costs_of_clean fun w _ _ _ _ => .refl w
    | some phone =>
      dsimp only [Option.map_some]
      by_cases hne : phone = ""
      · subst hne
        exact fun w _ _ he _ => by cases he; exact .refl w
      · have hrequired : required (some phone) "phone_number" = .done phone := by
          rw [required, Option.filter_some, if_pos (bne_iff_ne.2 hne), require_some]
        rw [hrequired, done_bind]
        refine Costs.behind (required_acts _ _) (required_fails _ _) fun code => ?_
        exact byCode_costs (Phone.normalize phone) code (hfinish .phone)

/-! ## All calls that do not ask the provider -/

/-- Whether a call asks the provider. -/
def Call.asksProvider : Call → Bool
  | .callback .. => true
  | .device .. => true
  | _ => false

/-- Whose codes a call uses up though it fails. -/
def Call.costs? : Call → Failure → Option Subject
  | .signIn request _, e => if e = .inactiveUser then usedUp? request else none
  | _, _ => none

/-- A state that is claimed already stays as it is. -/
theorem redirectUrl_clean (state : String) : (Google.redirectUrl s state).Clean := by
  refine quiet_then (acts_ensure _ _ _) fun _ => ?_
  refine quiet_then ⟨trivial, fun _ => trivial⟩ fun now => ?_
  intro w hw e he href
  rcases run_bind_cases (States.claim s.stateLifetime state now) _ w with
    ⟨e', he', hfailed⟩ | ⟨claimed, hclaimed, hgoes⟩
  · rw [hfailed] at he
    cases he
    exact absurd (command_firm _ w hw _ he') href
  · rw [hgoes] at he ⊢
    cases claimed with
    | true => cases he
    | false =>
      rw [States.claim, run_cache] at hclaimed ⊢
      exact undisturbed_of_taken hclaimed

/-- The world after calls that come one by one. -/
def after (s : Setup) (ks : List Call) (w : World) : World :=
  ks.foldl (fun w k => ((k.flow s).run w).2) w

theorem Reachable.after (h : Reachable s w) (ks : List Call) : Reachable s (after s ks w) := by
  induction ks generalizing w with
  | nil => exact h
  | cons k ks ih => exact ih (h.call k)

/-- Ada proves her email, completes the sign-up with a phone, and asks for a code to sign in. -/
def enrolment : List Call := [
  .device "token" "192.0.2.1",
  .sendCode ⟨.phone, none, some "77082260629", some (Sample.uuid 0).text⟩,
  .complete ⟨(Sample.uuid 0).text, "77082260629", "100001"⟩ "192.0.2.1",
  .sendCode ⟨.phone, none, some "77082260629", none⟩]

/-- Then her account is taken out of service. -/
def dismissed : World := retired (after Sample.setup enrolment Sample.world) 1 2000

theorem dismissed_reachable : Reachable Sample.setup dismissed :=
  ((Reachable.empty rfl rfl).after enrolment).turns (turns_retired _ 1 2000)

theorem dismissed_senders : dismissed.outside.ReportsInside := by
  have houtside : dismissed.outside = Sample.outside := by
    simp only [dismissed, retired, after, enrolment, List.foldl, run_outside]
    rfl
  rw [houtside]
  exact ⟨fun _ _ _ h => (by cases h), fun _ _ _ h => (by cases h)⟩

/-- Ada wants to sign in with the code that was sent to her. -/
def lateSignIn : SignInRequest := ⟨.phone, none, none, some "87082260629", some "100006"⟩

theorem dismissed_refused :
    ((signIn Sample.setup lateSignIn "192.0.2.1").run dismissed).1 = .error .inactiveUser := by
  decide +kernel

/-- A call that is refused leaves accounts, session rows, messages and all that can be read in the
cache as they are, with one exception: a sign-in with a code, which is refused since the account is
out of service, has voided the codes of its phone, and done nothing else. -/
theorem refusal_exact (h : Reachable s w) (hsenders : w.outside.ReportsInside) {k : Call}
    (hk : k.asksProvider = false) {e : Failure} (he : ((k.flow s).run w).1 = .error e)
    (href : e.IsRefusal) : (withoutCodes w (k.costs? e)).Undisturbed ((k.flow s).run w).2 := by
  have hw : w.Orderly := ⟨h.keyed, hsenders⟩
  cases k with
  | signUp request ip => exact signUp_clean request ip w hw e he href
  | signIn request ip => exact signIn_costs request ip w hw e he href
  | refresh token ip => exact refresh_clean token ip w hw e he href
  | logout token => exact logout_clean token w hw e he href
  | redirect state => exact redirectUrl_clean state w hw e he href
  | callback state code ip => cases hk
  | device googleToken ip => cases hk
  | complete request ip => exact complete_clean request ip w hw e he href
  | sendCode request => exact sendCode_clean request w hw e he href

theorem refusal_exact_dismissed : Reachable Sample.setup dismissed ∧
    dismissed.outside.ReportsInside ∧ Call.asksProvider (.signIn lateSignIn "192.0.2.1") = false ∧
    ((signIn Sample.setup lateSignIn "192.0.2.1").run dismissed).1 = .error .inactiveUser ∧
    Failure.IsRefusal .inactiveUser ∧
    (withoutCodes dismissed (some (.phone "77082260629"))).Undisturbed
      ((signIn Sample.setup lateSignIn "192.0.2.1").run dismissed).2 := by
  have hrefusal : Failure.IsRefusal .inactiveUser := by decide
  have hcosts : Call.costs? (.signIn lateSignIn "192.0.2.1") .inactiveUser
      = some (.phone "77082260629") := by decide +kernel
  rw [← hcosts]
  refine ⟨dismissed_reachable, dismissed_senders, rfl, dismissed_refused, hrefusal, ?_⟩
  exact refusal_exact dismissed_reachable dismissed_senders rfl dismissed_refused hrefusal

/-- Ada is refused since her account is out of service, and the code that she has presented is good
no more. -/
theorem leaves_trace_dismissed : Reachable Sample.setup dismissed ∧
    ((signIn Sample.setup lateSignIn "192.0.2.1").run dismissed).1 = .error .inactiveUser ∧
    Failure.IsRefusal .inactiveUser ∧
    ¬ (signIn Sample.setup lateSignIn "192.0.2.1").LeavesNoTrace dismissed ∧
    ((check (.phone "77082260629") "100006").run dismissed).1 = .ok () ∧
    ((check (.phone "77082260629") "100006").run
      ((signIn Sample.setup lateSignIn "192.0.2.1").run dismissed).2).1
        = .error .incorrectCode := by
  have hrefusal : Failure.IsRefusal .inactiveUser := by decide
  refine ⟨dismissed_reachable, dismissed_refused, hrefusal, fun hleaves => ?_, by decide +kernel,
    by decide +kernel⟩
  have hread := (hleaves _ dismissed_refused hrefusal).read (Bundles.key (.phone "77082260629")) _
    (Int.le_refl _)
  have hbefore : (dismissed.cache.read? dismissed.millis
      (Bundles.key (.phone "77082260629"))).isSome = true := by decide +kernel
  have hafter : ((signIn Sample.setup lateSignIn "192.0.2.1").run dismissed).2.cache.read?
      dismissed.millis (Bundles.key (.phone "77082260629")) = none := by decide +kernel
  rw [← hread, hafter] at hbefore
  cases hbefore

end SignOn.Account
