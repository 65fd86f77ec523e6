import SignOn.Google.SignIn
import SignOn.Proofs.Keyspace.Views
import SignOn.Proofs.Sample
import SignOn.Proofs.Verification.Answers
/-!
What was written can be read, as long as it is to last for any time at all. Session keys and states
last for at least a second, whatever the settings say. Pending sign-ups and bundles last for as long
as the settings say, and that may be for no time: then the write succeeds, and nothing is there
behind it (`reads_back_exact`). Where no bundle is there, no limit is either
(`vanishes_fleeting`).
-/

namespace SignOn.Keyspace

open SignOn.Text SignOn.Verification

variable {s : Setup} {w : World} {subject : Subject}

/-! ## Lifetimes -/

theorem one_le_millis_atLeastOne (seconds : Int) : 1 ≤ (Setup.atLeastOne seconds).millis := by
  rw [Setup.atLeastOne, Cache.Lifetime.millis_ofSeconds]
  omega

theorem one_le_millis_sessionLifetime (s : Setup) : 1 ≤ s.sessionLifetime.millis :=
  one_le_millis_atLeastOne _

theorem one_le_millis_stateLifetime (s : Setup) : 1 ≤ s.stateLifetime.millis :=
  one_le_millis_atLeastOne _

theorem one_le_millis_ofSeconds {seconds : Nat} :
    1 ≤ (Cache.Lifetime.ofSeconds seconds).millis ↔ 1 ≤ seconds := by
  rw [Cache.Lifetime.millis_ofSeconds]
  omega

/-! ## Looks -/

theorem run_current (hw : Steady w) (idCode : String) : ((Sessions.current idCode).run w).1
    = .ok (Sessions.ofValue (w.cache.read? w.millis (Sessions.key idCode))) :=
  congrArg Prod.fst (Operation.run_flow hw (.currentSession idCode))

theorem run_claimedAt (hw : Steady w) (state : String) : ((States.claimedAt state).run w).1
    = .ok (States.ofValue (w.cache.read? w.millis (States.key state))) :=
  congrArg Prod.fst (Operation.run_flow hw (.claimTime state))

theorem run_email (hw : Steady w) (requestId : String) : ((Requests.email requestId).run w).1
    = .ok (Requests.ofValue (w.cache.read? w.millis (Requests.key requestId))) :=
  congrArg Prod.fst (Operation.run_flow hw (.requestEmail requestId))

/-- An email that is not empty is told from none. -/
theorem ofValue_eq_email_iff {email : String} (h : email ≠ "") {lasts : Prop} [Decidable lasts] :
    Requests.ofValue (if lasts then some (utf8 email) else none) = some email ↔ lasts := by
  have hread : Requests.ofValue (some (utf8 email)) = some email := by
    simp [Requests.ofValue, ofUtf8?_utf8, h]
  by_cases hl : lasts
  · rw [if_pos hl]
    exact iff_of_true hread hl
  · rw [if_neg hl]
    exact iff_of_false (fun he => by cases he) hl

/-! ## What a device is given -/

/-- A new request is one that was put. -/
theorem newRequest_put {requestId email : String}
    (h : ((Google.newRequest s requestId email).run w).1 = .ok ()) :
    ((Requests.put s.requestLifetime requestId email).run w).1 = .ok true ∧
      ((Google.newRequest s requestId email).run w).2
        = ((Requests.put s.requestLifetime requestId email).run w).2 := by
  obtain ⟨⟨⟩, hwritten, hrest⟩ := Flow.run_bind_ok.1 h
  obtain ⟨isNew, hput, hnew⟩ := Flow.run_bind_ok.1 hrest
  rw [Flow.run_ensure_world] at hput hnew
  obtain rfl : isNew = true := Flow.run_ensure_ok.1 hnew
  refine ⟨hput, ?_⟩
  rw [Google.newRequest, Flow.run_bind_world hwritten, Flow.run_ensure_world,
    Flow.run_bind_world hput,
    Flow.run_ensure_world]

/-- A device that is given a request id has shown an email, and the request is new. -/
theorem fromDevice_requests (hw : Steady w) {googleToken ip requestId : String}
    {answer : GmailAnswer} (h : ((Google.fromDevice s googleToken ip).run w).1 = .ok answer)
    (hid : answer.requestId = some requestId) :
    ∃ profile before, w.outside.profile googleToken = .ok profile ∧ Steady before ∧
      ((Google.newRequest s requestId profile.email).run before).1 = .ok () ∧
      ((Google.fromDevice s googleToken ip).run w).2
        = ((Google.newRequest s requestId profile.email).run before).2 := by
  obtain ⟨profile, hprofile, hrest⟩ := Flow.run_bind_ok.1 h
  obtain ⟨holder, hholder, hrest⟩ := Flow.run_bind_ok.1 hrest
  cases holder with
  | some user =>
    obtain ⟨-, -, hrest⟩ := Flow.run_bind_ok.1 hrest
    obtain ⟨pair, -, hanswer⟩ := Flow.run_bind_ok.1 hrest
    cases hanswer
    cases hid
  | none =>
    obtain ⟨id, huuid, hrest⟩ := Flow.run_bind_ok.1 hrest
    obtain ⟨⟨⟩, hnew, hanswer⟩ := Flow.run_bind_ok.1 hrest
    cases hanswer
    cases hid
    have hshown : ((Flow.profile googleToken).run w).1 = w.outside.profile googleToken :=
      congrArg Prod.fst (Flow.run_ofExcept _)
    refine ⟨profile, _, hshown.symm.trans hprofile, ((hw.run _).run _).run _, hnew, ?_⟩
    rw [Google.fromDevice, Flow.run_bind_world hprofile, Flow.run_bind_world hholder]
    dsimp only
    rw [Flow.run_bind_world huuid, Flow.run_bind_world hnew, Flow.run_pure]

theorem run_provenEmail_ok {requestId email : String} (hw : Steady w) :
    ((Google.provenEmail requestId).run w).1 = .ok email ↔
      Requests.ofValue (w.cache.read? w.millis (Requests.key requestId)) = some email := by
  rw [Google.provenEmail, Flow.run_bind_ok]
  simp only [run_email hw, Flow.run_require_ok, Except.ok.injEq, exists_eq_left']

/-! ## Reading back -/

/-- What is found right after a write through a view. -/
structure ReadsBack (s : Setup) (w : World) : Prop where
  /-- A session key is always there, -/
  session : ∀ idCode sessionKey, ((Sessions.current idCode).run
    ((Sessions.put s.sessionLifetime idCode sessionKey).run w).2).1 = .ok (some sessionKey)
  /-- and so is a claim, -/
  claimed : ∀ state claimedAt, -9223372036854775808 ≤ claimedAt → claimedAt ≤ 9223372036854775807 →
    ((States.claim s.stateLifetime state claimedAt).run w).1 = .ok true →
    ((States.claimedAt state).run ((States.claim s.stateLifetime state claimedAt).run w).2).1
      = .ok (some claimedAt)
  /-- the mark of a claim that was taken, -/
  taken : ∀ state claimedAt,
    ((States.take s.stateLifetime state claimedAt).run w).1 = .ok true →
    ((States.restore s.stateLifetime state claimedAt).run
      ((States.take s.stateLifetime state claimedAt).run w).2).1 = .ok true
  /-- and a claim that was put back. -/
  restored : ∀ state claimedAt, -9223372036854775808 ≤ claimedAt → claimedAt ≤ 9223372036854775807 →
    ((States.restore s.stateLifetime state claimedAt).run w).1 = .ok true →
    ((States.claimedAt state).run ((States.restore s.stateLifetime state claimedAt).run w).2).1
      = .ok (some claimedAt)
  /-- An email is there if the setting for pending sign-ups is not zero, -/
  request : ∀ requestId email, email ≠ "" →
    ((Requests.put s.requestLifetime requestId email).run w).1 = .ok true →
    (((Requests.email requestId).run
        ((Requests.put s.requestLifetime requestId email).run w).2).1 = .ok (some email) ↔
      1 ≤ s.settings.oauth.requestTtl)
  /-- also for a device that was given a request id. -/
  device : ∀ googleToken ip answer requestId profile, profile.email ≠ "" →
    ((Google.fromDevice s googleToken ip).run w).1 = .ok answer →
    answer.requestId = some requestId → w.outside.profile googleToken = .ok profile →
    (((Google.provenEmail requestId).run ((Google.fromDevice s googleToken ip).run w).2).1
        = .ok profile.email ↔ 1 ≤ s.settings.oauth.requestTtl)
  /-- A bundle is there if the setting for bundles is not zero, -/
  bundle : ∀ subject loaded bundle, -9223372036854775808 ≤ bundle.lastSentAt →
    bundle.lastSentAt ≤ 9223372036854775807 →
    ((Bundles.replace s.bundleLifetime subject loaded bundle).run w).1 = .ok true →
    (((Bundles.load subject).run
        ((Bundles.replace s.bundleLifetime subject loaded bundle).run w).2).1
          = .ok ⟨some bundle.encode, bundle⟩ ↔ 1 ≤ s.settings.verification.bundleTtl)
  /-- also for a subject that was given a code. -/
  accepted : ∀ subject, ((issue s subject).run w).1 = .ok () →
    (((check subject (dueCode s subject w)).run ((issue s subject).run w).2).1 = .ok () ↔
      1 ≤ s.settings.verification.bundleTtl)
  /-- It is given no other one then, unless the settings fix its code, or the clock stands at the
  epoch and there is room left. -/
  limited : ∀ subject, 0 < s.settings.verification.minInterval →
    ((issue s subject).run w).1 = .ok () →
    (((issue s subject).run ((issue s subject).run w).2).1 = .error .codesLimit ↔
      fixedCode? s subject = none ∧ 1 ≤ s.settings.verification.bundleTtl ∧
        (w.now ≠ 0 ∨ s.settings.verification.maxCodes
          ≤ ((held subject ((issue s subject).run w).2).getD []).length))

theorem reads_session (hw : Steady w) (idCode sessionKey : String) :
    ((Sessions.current idCode).run
      ((Sessions.put s.sessionLifetime idCode sessionKey).run w).2).1 = .ok (some sessionKey) := by
  have hanswer : ((Sessions.put s.sessionLifetime idCode sessionKey).run w).1 = .ok () :=
    congrArg Prod.fst (Operation.run_flow hw (.putSession s.sessionLifetime idCode sessionKey))
  have hread := Operation.read?_done (o := .putSession s.sessionLifetime idCode sessionKey) hw rfl
    hanswer trivial
  rw [if_pos (one_le_millis_sessionLifetime s)] at hread
  rw [run_current (hw.run _)]
  refine congrArg Except.ok ((congrArg Sessions.ofValue hread).trans ?_)
  exact ofUtf8?_utf8 sessionKey

theorem reads_claim (hw : Steady w) {o : Operation} {state : String} {claimedAt : Int}
    (hl : -9223372036854775808 ≤ claimedAt) (hh : claimedAt ≤ 9223372036854775807)
    (hplace : o.place = .state state)
    (hwrites : o.writes? = some (States.claimValue claimedAt, s.stateLifetime)) {answer : o.Value}
    (hanswer : (o.flow.run w).1 = .ok answer) (hdone : o.IsDone answer) :
    ((States.claimedAt state).run (o.flow.run w).2).1 = .ok (some claimedAt) := by
  have hread := Operation.read?_done hw hwrites hanswer hdone
  rw [if_pos (one_le_millis_stateLifetime s), hplace] at hread
  rw [run_claimedAt (hw.run _)]
  refine congrArg Except.ok ((congrArg States.ofValue hread).trans ?_)
  exact States.ofValue_claimValue hl hh

theorem reads_taken (hw : Steady w) {state : String} {claimedAt : Int}
    (h : ((States.take s.stateLifetime state claimedAt).run w).1 = .ok true) :
    ((States.restore s.stateLifetime state claimedAt).run
      ((States.take s.stateLifetime state claimedAt).run w).2).1 = .ok true := by
  have hread := Operation.read?_done (o := .takeState s.stateLifetime state claimedAt) hw rfl h rfl
  rw [if_pos (one_le_millis_stateLifetime s)] at hread
  have hrun := Operation.run_flow (hw.run (States.take s.stateLifetime state claimedAt))
    (.restoreState s.stateLifetime state claimedAt)
  refine (congrArg Prod.fst hrun).trans (congrArg Except.ok ?_)
  rw [Cache.Memory.perform_answer]
  exact decide_eq_true hread

theorem reads_request (hw : Steady w) {requestId email : String}
    (h : ((Requests.put s.requestLifetime requestId email).run w).1 = .ok true) :
    ((Requests.put s.requestLifetime requestId email).run w).2.cache.read?
        ((Requests.put s.requestLifetime requestId email).run w).2.millis (Requests.key requestId)
      = if 1 ≤ s.settings.oauth.requestTtl then some (utf8 email) else none := by
  have hread := Operation.read?_done (o := .putRequest s.requestLifetime requestId email) hw rfl h
    rfl
  simp only [Setup.requestLifetime, one_le_millis_ofSeconds] at hread
  exact hread

theorem reads_device (hw : Steady w) {googleToken ip requestId : String} {answer : GmailAnswer}
    {profile : UserProfile} (hemail : profile.email ≠ "")
    (h : ((Google.fromDevice s googleToken ip).run w).1 = .ok answer)
    (hid : answer.requestId = some requestId)
    (hprofile : w.outside.profile googleToken = .ok profile) :
    ((Google.provenEmail requestId).run ((Google.fromDevice s googleToken ip).run w).2).1
      = .ok profile.email ↔ 1 ≤ s.settings.oauth.requestTtl := by
  obtain ⟨shown, before, hshown, hbefore, hnew, hafter⟩ := fromDevice_requests hw h hid
  obtain rfl : shown = profile := Except.ok.inj (hshown.symm.trans hprofile)
  obtain ⟨hput, hsame⟩ := newRequest_put hnew
  rw [hafter, hsame, run_provenEmail_ok (hbefore.run _), reads_request hbefore hput]
  exact ofValue_eq_email_iff hemail

theorem reads_bundle (hw : Steady w) {loaded : Bundles.Loaded} {bundle : Bundle}
    (hl : -9223372036854775808 ≤ bundle.lastSentAt) (hh : bundle.lastSentAt ≤ 9223372036854775807)
    (h : ((Bundles.replace s.bundleLifetime subject loaded bundle).run w).1 = .ok true) :
    ((Bundles.load subject).run
        ((Bundles.replace s.bundleLifetime subject loaded bundle).run w).2).1
      = .ok ⟨some bundle.encode, bundle⟩ ↔ 1 ≤ s.settings.verification.bundleTtl := by
  have hread := Operation.read?_done (o := .replaceBundle s.bundleLifetime subject loaded bundle) hw
    rfl h rfl
  simp only [Setup.bundleLifetime, one_le_millis_ofSeconds] at hread
  have hload : ((Bundles.load subject).run
      ((Bundles.replace s.bundleLifetime subject loaded bundle).run w).2).1 = Bundles.ofValue
        (if 1 ≤ s.settings.verification.bundleTtl then some bundle.encode else none) :=
    (congrArg Prod.fst (run_load (hw.run _))).trans (congrArg Bundles.ofValue hread)
  rw [hload]
  by_cases hlasts : 1 ≤ s.settings.verification.bundleTtl
  · rw [if_pos hlasts, Bundles.ofValue, decode_encode hl hh]
    exact iff_of_true rfl hlasts
  · rw [if_neg hlasts]
    exact iff_of_false (fun he => by cases he) hlasts

theorem reads_code (hw : Steady w) (h : ((issue s subject).run w).1 = .ok ()) :
    ((check subject (dueCode s subject w)).run ((issue s subject).run w).2).1 = .ok () ↔
      1 ≤ s.settings.verification.bundleTtl := by
  obtain ⟨bundle, hissued⟩ := Issued.of_run hw h
  have hnow := w.now_bounds
  have hsent := hissued.sent
  rw [run_check_eq (hw.run _), hissued.read]
  by_cases hlasts : 1 ≤ s.settings.verification.bundleTtl
  · refine iff_of_true ?_ hlasts
    rw [if_pos hlasts, verdict, Bundles.ofValue, decode_encode (by omega) (by omega)]
    exact if_pos hissued.holds
  · rw [if_neg hlasts]
    exact iff_of_false (fun he => by cases he) hlasts

theorem reads_limit (hw : Steady w) (hr : SendersReport w)
    (hinterval : 0 < s.settings.verification.minInterval)
    (h : ((issue s subject).run w).1 = .ok ()) :
    ((issue s subject).run ((issue s subject).run w).2).1 = .error .codesLimit ↔
      fixedCode? s subject = none ∧ 1 ≤ s.settings.verification.bundleTtl ∧
        (w.now ≠ 0 ∨ s.settings.verification.maxCodes
          ≤ ((held subject ((issue s subject).run w).2).getD []).length) := by
  obtain ⟨bundle, hissued⟩ := Issued.of_run hw h
  have hnow := w.now_bounds
  have hsent := hissued.sent
  have hreport : SendersReport ((issue s subject).run w).2 := by
    constructor
    · rw [Flow.run_outside]; exact hr.mail
    · rw [Flow.run_outside]; exact hr.text
  rw [run_issue_limited_iff (hw.run _) hreport, AtLimit, held, hissued.read, Flow.run_now]
  refine and_congr_right fun hfree => ?_
  by_cases hlasts : 1 ≤ s.settings.verification.bundleTtl
  · have hdecode : Bundle.decode bundle.encode = .ok bundle :=
      decode_encode (by omega) (by omega)
    have hstands : Bundles.ofValue (some bundle.encode) = .ok ⟨some bundle.encode, bundle⟩ := by
      rw [Bundles.ofValue, hdecode]
    have hcodes : codesOf bundle.encode = some bundle.codes := by
      rw [codesOf, hdecode]
      rfl
    rw [if_pos hlasts]
    simp only [hstands, Option.bind_some, hcodes, Option.getD_some, true_and,
      Except.ok.injEq, exists_eq_left', hlasts, Takes, Bundle.isFull, Bundle.isFrequent, hsent,
      Int.sub_self, hinterval, decide_true, Bool.and_true, decide_eq_false_iff_not,
      bne_eq_false_iff_eq]
    omega
  · have hroom := hissued.room hfree
    simp only [hlasts, false_and, iff_false]
    rintro ⟨loaded, hloaded, hno⟩
    cases hloaded
    exact hno (Takes.empty hroom _)

/-- What can be read right after a write depends on two settings only. -/
theorem reads_back_exact (hw : Steady w) (hr : SendersReport w) : ReadsBack s w where
  session := reads_session hw
  claimed state claimedAt hl hh h :=
    reads_claim (o := .claimState s.stateLifetime state claimedAt) hw hl hh rfl rfl h rfl
  taken _ _ h := reads_taken hw h
  restored state claimedAt hl hh h :=
    reads_claim (o := .restoreState s.stateLifetime state claimedAt) hw hl hh rfl rfl h rfl
  request requestId email hemail h := by
    rw [run_email (hw.run _), reads_request hw h, Except.ok.injEq]
    exact ofValue_eq_email_iff hemail
  device _ _ _ _ _ hemail h hid hprofile := reads_device hw hemail h hid hprofile
  bundle _ _ _ hl hh h := reads_bundle hw hl hh h
  accepted _ h := reads_code hw h
  limited _ hinterval h := reads_limit hw hr hinterval h

/-- What can be read where everything is to last. -/
theorem reads_back_exact_sample :
    ((issue Sample.setup (.email "ada@example.org")).run Sample.world).1 = .ok () ∧
    ((Google.fromDevice Sample.setup "token" "192.0.2.1").run Sample.world).1
      = .ok ⟨true, none, some (Sample.uuid 0).text⟩ ∧
    ReadsBack Sample.setup Sample.world := by
  have hreport : SendersReport Sample.world :=
    ⟨fun _ _ h => (by cases h), fun _ _ h => (by cases h)⟩
  exact ⟨by decide +kernel, by decide +kernel, reads_back_exact ⟨fun _ => rfl, rfl⟩ hreport⟩

/-- Settings by which pending sign-ups and bundles are to last for no time. -/
def fleeting : Setup :=
  { Sample.setup with
    settings := { oauth := { requestTtl := 0 }, verification := { bundleTtl := 0 } } }

/-- The world after a code was issued. -/
def fleetingIssued : World := ((issue fleeting (.email "ada@example.org")).run Sample.world).2

/-- The world after a device was given a request id. -/
def fleetingGiven : World := ((Google.fromDevice fleeting "token" "192.0.2.1").run Sample.world).2

/-- A code is issued and not accepted, and another one is issued at once. A device is given a
request id that stands for no email. -/
theorem vanishes_fleeting :
    ((issue fleeting (.email "ada@example.org")).run Sample.world).1 = .ok () ∧
    ((check (.email "ada@example.org") (dueCode fleeting (.email "ada@example.org")
      Sample.world)).run fleetingIssued).1 = .error .incorrectCode ∧
    ((issue fleeting (.email "ada@example.org")).run fleetingIssued).1 = .ok () ∧
    ((Google.fromDevice fleeting "token" "192.0.2.1").run Sample.world).1
      = .ok ⟨true, none, some (Sample.uuid 0).text⟩ ∧
    ((Google.provenEmail (Sample.uuid 0).text).run fleetingGiven).1
      = .error .invalidRequestSession := by
  decide +kernel

end SignOn.Keyspace
