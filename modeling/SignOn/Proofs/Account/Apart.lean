import SignOn.Proofs.Account.Provenance
import SignOn.Proofs.Keyspace.Views
import SignOn.Proofs.Verification.Answers
/-!
What is kept apart in the one cache that everybody shares. The views have keys of their own, and so
have the texts that one view is asked for. The bundles of emails and phones are in one view, under
nothing but their texts; but no text is both an email and a phone as it is stored. So what is sent
to one subject is seen by no other one: not when a code is checked, and not when a limit is
(`kept_apart`).
-/

namespace SignOn

open SignOn.Keyspace SignOn.Verification

/-- A subject that requests can name: a text that passes for an email, or a phone as it is
stored. -/
def Verification.Subject.IsNamed (emails : Mail.AddressRule) : Subject → Prop
  | .email address => emails.accepts address = true
  | .phone number => ∃ phone, Phone.isValid phone = true ∧ number = Phone.normalize phone

/-- Named subjects are told apart by their texts: whatever passes for an email has an at sign. -/
theorem Verification.Subject.eq_of_key {emails : Mail.AddressRule} {a b : Subject}
    (ha : a.IsNamed emails) (hb : b.IsNamed emails) (h : a.key = b.key) : a = b := by
  have hphone {number : String} (hn : (Subject.phone number).IsNamed emails) :
      '@' ∉ number.toList := by
    obtain ⟨phone, hvalid, rfl⟩ := hn
    exact Phone.at_not_mem_normalize hvalid
  cases a with
  | email a =>
    cases b with
    | email b => exact congrArg _ h
    | phone b =>
      obtain rfl : a = b := h
      exact absurd (emails.at_mem a ha) (hphone hb)
  | phone a =>
    cases b with
    | email b =>
      obtain rfl : a = b := h
      exact absurd (emails.at_mem a hb) (hphone ha)
    | phone b => exact congrArg _ h

/-- The world with another cache. -/
def World.holding (w : World) (cache : Cache.Memory) : World := { w with cache := cache }

namespace Account

open SignOn.Google (Ready)

variable {s : Setup} {start w w' : World} {before records : List Record} {r : Record}
  {request : SendCodeRequest} {subject other : Subject}

/-! ## Sending codes -/

/-- Who is sent a code by a request that breaks no rule has a name. -/
theorem isNamed_of_violations {emails : Mail.AddressRule} (hv : request.violations emails = [])
    (hs : subjectOf? request = some subject) : subject.IsNamed emails := by
  cases subject with
  | email address => exact accepts_of_violations hv hs
  | phone number =>
    have hphone : ∃ phone, request.phone = some phone ∧ number = Phone.normalize phone := by
      unfold subjectOf? at hs
      split at hs
      · obtain ⟨email, -, he⟩ := Option.map_eq_some_iff.1 hs
        cases he
      · obtain ⟨phone, hp, he⟩ := Option.map_eq_some_iff.1 hs
        cases he
        exact ⟨phone, hp, rfl⟩
      · cases hs
    obtain ⟨phone, hp, rfl⟩ := hphone
    refine ⟨phone, ?_, rfl⟩
    by_contra hinvalid
    simp [SendCodeRequest.violations, hp, checkPresent, checkPhone, Rule.check, hinvalid] at hv

/-- A request for a code does nothing to the bundles of others. -/
theorem RecordAt.leavesKey_bundle (h : RecordAt s start before r w w')
    (hcall : r.call = .sendCode request)
    (hother : other.IsNamed s.emails) (hne : subjectOf? request ≠ some other) :
    LeavesKey (Bundles.key other) r.events := by
  intro e he
  by_contra heffect
  obtain ⟨cmd, hact, hkey, hget⟩ := exists_of_effect? heffect
  obtain ⟨pre, post, hsplit⟩ := List.append_of_mem he
  have hmay := h.acts pre e post hsplit
  rw [hact] at hmay
  rcases (hmay.of_cache hget).2.1 other hkey with
    ⟨-, hno⟩ | ⟨asked, expected, value, -, hasked, hv, -, -, receiver, hreceiver, htext⟩
  · exact hno request hcall
  · obtain rfl : request = asked := Call.sendCode.inj (hcall.symm.trans hasked)
    have hsame := Subject.eq_of_key (isNamed_of_violations hv hreceiver) hother htext
    exact hne (hsame ▸ hreceiver)

/-- A request for a code is served, while time passes. -/
def Sends (s : Setup) (request : SendCodeRequest) (w w' : World) : Prop :=
  ∃ events result, (sendCode s request).Traces Google.Ticks w events result w'

theorem sends_run (s : Setup) (request : SendCodeRequest) (hw : Ready w) :
    Sends s request w ((sendCode s request).run w).2 :=
  ⟨_, _, Google.traces_still (sendCode s request) hw⟩

theorem Sends.ready (h : Sends s request w w') (hw : Ready w) : Ready w' := by
  obtain ⟨events, result, htraces⟩ := h
  exact (Steps.of_traces htraces).ready hw

/-- What is read of a subject is as before, if the code was for another one. -/
theorem Sends.read (h : Sends s request w w') (hother : other.IsNamed s.emails)
    (hne : subjectOf? request ≠ some other) : w'.cache.read? w'.millis (Bundles.key other)
      = w.cache.read? w'.millis (Bundles.key other) := by
  obtain ⟨events, result, htraces⟩ := h
  have hrecorded := RecordAt.of_call (k := .sendCode request) (Chronicle.start (s := s)) htraces
  exact hrecorded.steps.read (hrecorded.leavesKey_bundle rfl hother hne) (Int.le_refl _)

theorem Sends.steady (h : Sends s request w w') (hw : Ready w) : Steady (w'.holding w.cache) :=
  ⟨(h.ready hw).steady.up, (h.ready hw).steady.wins⟩

theorem Sends.check (h : Sends s request w w') (hw : Ready w) (hother : other.IsNamed s.emails)
    (hne : subjectOf? request ≠ some other) (candidate : String) :
    ((check other candidate).run w').1 = ((check other candidate).run (w'.holding w.cache)).1 := by
  rw [run_check_eq (h.ready hw).steady, run_check_eq (h.steady hw), h.read hother hne]
  rfl

theorem Sends.limit (h : Sends s request w w') (hw : Ready w) (hr : SendersReport w')
    (hother : other.IsNamed s.emails) (hne : subjectOf? request ≠ some other) :
    ((issue s other).run w').1 = .error .codesLimit ↔
      ((issue s other).run (w'.holding w.cache)).1 = .error .codesLimit := by
  have hreport : SendersReport (w'.holding w.cache) := ⟨hr.mail, hr.text⟩
  rw [run_issue_limited_iff (h.ready hw).steady hr, run_issue_limited_iff (h.steady hw) hreport,
    h.read hother hne]
  rfl

/-! ## Proving a phone -/

theorem isValid_of_signIn {emails : Mail.AddressRule} {request : SignInRequest} {phone : String}
    (hv : request.violations emails = []) (hp : request.phone = some phone) :
    Phone.isValid phone = true := by
  by_contra hinvalid
  simp [SignInRequest.violations, hp, checkPresent, checkPhone, Rule.check, hinvalid] at hv

theorem isValid_of_complete {request : CompleteRequest} (hv : request.violations = []) :
    Phone.isValid request.phone = true := by
  by_contra hinvalid
  simp [CompleteRequest.violations, checkPhone, Rule.check, hinvalid] at hv

/-- A request that is not refused breaks no rule. -/
theorem of_ensureValid {α : Type} {violations : List Violation} {f : Unit → Flow α} {a : α}
    (h : ((ensureValid violations >>= f).run w).1 = .ok a) :
    violations = [] ∧ ((f ()).run w).1 = .ok a := by
  cases violations with
  | nil => exact ⟨rfl, h⟩
  | cons v rest => cases h

/-- Who signs in with a phone has shown a code of the phone. -/
theorem signIn_shows {request : SignInRequest} {ip : String} {answer : SignedIn}
    (hp : request.provider = .phone) (h : ((signIn s request ip).run w).1 = .ok answer) :
    ∃ phone code, request.phone = some phone ∧ request.code = some code ∧
      Phone.isValid phone = true ∧
      ((check (.phone (Phone.normalize phone)) code).run w).1 = .ok () := by
  obtain ⟨hv, hrest⟩ := of_ensureValid h
  rw [hp] at hrest
  obtain ⟨phone, hphone, hrest⟩ := Flow.run_bind_ok.1 hrest
  obtain ⟨code, hcode, hrest⟩ := Flow.run_bind_ok.1 hrest
  obtain ⟨user, huser, -⟩ := Flow.run_bind_ok.1 hrest
  obtain ⟨⟨⟩, hcheck, -⟩ := Flow.run_bind_ok.1 huser
  rw [required, Flow.run_require_ok] at hphone hcode
  simp only [required, Flow.run_require_world] at hcheck
  have hp := Option.eq_some_of_filter_eq_some hphone
  exact ⟨phone, code, hp, Option.eq_some_of_filter_eq_some hcode, isValid_of_signIn hv hp, hcheck⟩

/-- Looking for a pending request is not seen by those who check codes. -/
theorem check_provenEmail (hw : Ready w) (requestId candidate : String) :
    ((check subject candidate).run ((Google.provenEmail requestId).run w).2).1
      = ((check subject candidate).run w).1 := by
  have hacts : (Google.provenEmail requestId).Acts fun act =>
      ∀ cmd, act = .cache cmd → cmd.key? ≠ some (Bundles.key subject) := by
    refine Flow.Acts.bind ?_ fun _ => Flow.acts_require _ _ _
    refine (command_acts ?_).bind fun _ => pure_acts _
    rintro cmd ⟨⟩ he
    exact requests_ne_bundles requestId subject (Option.some.inj he)
  rw [run_check_eq (hw.steady.run _), run_check_eq hw.steady, Flow.run_millis]
  exact congrArg (verdict · candidate)
    (Flow.read?_run_of_acts hw.keyed hacts (Int.le_refl w.millis))

/-- Who completes a sign-up has shown a code of the phone. -/
theorem complete_shows (hw : Ready w) {request : CompleteRequest} {ip : String} {answer : SignedIn}
    (h : ((complete s request ip).run w).1 = .ok answer) : Phone.isValid request.phone = true ∧
      ((check (.phone (Phone.normalize request.phone)) request.code).run w).1 = .ok () := by
  obtain ⟨hv, hrest⟩ := of_ensureValid h
  obtain ⟨email, -, hrest⟩ := Flow.run_bind_ok.1 hrest
  obtain ⟨⟨⟩, hcheck, -⟩ := Flow.run_bind_ok.1 hrest
  rw [check_provenEmail hw] at hcheck
  exact ⟨isValid_of_complete hv, hcheck⟩

/-! ## Kept apart -/

/-- What does not meet in the cache of a world. -/
structure KeptApart (s : Setup) (w : World) : Prop where
  /-- What is done through a view is not seen through another one, nor through the same one by those
  who ask for another text. -/
  operations : ∀ o r : Operation, o.place ≠ r.place →
    (r.flow.run (o.flow.run w).2).1 = (r.flow.run w).1
  /-- Different subjects have different bundles. -/
  subjects : ∀ a b : Subject, a.IsNamed s.emails → b.IsNamed s.emails → a ≠ b →
    Bundles.key a ≠ Bundles.key b
  /-- Whatever is sent to others, a subject is asked for the same codes as if it had not been, -/
  checks : ∀ request w' other candidate, Sends s request w w' → other.IsNamed s.emails →
    subjectOf? request ≠ some other →
    ((check other candidate).run w').1 = ((check other candidate).run (w'.holding w.cache)).1
  /-- and is refused a further one at the same time. -/
  limits : ∀ request w' other, Sends s request w w' → SendersReport w' →
    other.IsNamed s.emails → subjectOf? request ≠ some other →
    (((issue s other).run w').1 = .error .codesLimit ↔
      ((issue s other).run (w'.holding w.cache)).1 = .error .codesLimit)
  /-- Who signs in with a phone after a code was sent to an email shows one that was good before, -/
  signIns : ∀ request w' signing ip answer, Sends s request w w' → request.provider = .email →
    signing.provider = .phone → ((signIn s signing ip).run w').1 = .ok answer →
    ∃ phone code, signing.phone = some phone ∧ signing.code = some code ∧
      ((check (.phone (Phone.normalize phone)) code).run (w'.holding w.cache)).1 = .ok ()
  /-- and so does who completes a sign-up with a phone. -/
  completions : ∀ request w' completing ip answer, Sends s request w w' →
    request.provider = .email → ((complete s completing ip).run w').1 = .ok answer →
    ((check (.phone (Phone.normalize completing.phone)) completing.code).run
      (w'.holding w.cache)).1 = .ok ()
  /-- However a world came to be, the codes that are good for a phone were sent to the phone. -/
  sources : ∀ start records phone code, Blank start → Chronicle s start records w →
    Phone.isValid phone = true → ((check (.phone (Phone.normalize phone)) code).run w).1 = .ok () →
    Live s (Phone.normalize phone) code w.millis records

theorem subjectOf?_ne_phone (h : request.provider = .email) (number : String) :
    subjectOf? request ≠ some (.phone number) := by
  unfold subjectOf?
  rw [h]
  intro he
  obtain ⟨email, -, hs⟩ := Option.map_eq_some_iff.1 he
  cases hs

/-- A code that is accepted stands in the bundle that is read. -/
theorem mem_held_of_check (hw : Ready w) {code : String}
    (h : ((check subject code).run w).1 = .ok ()) :
    code ∈ ((w.cache.read? w.millis (Bundles.key subject)).bind codesOf).getD [] := by
  rw [run_check_eq hw.steady, verdict] at h
  split at h
  · next loaded hl =>
    rw [codesOf_of_ofValue (ofValue_raw hl ▸ hl)]
    split at h
    · next hcontains => exact List.contains_iff_mem.1 hcontains
    · cases h
  · cases h

/-- Views, texts and subjects do not meet. -/
theorem kept_apart (hw : Ready w) : KeptApart s w where
  operations _ _ h := Operation.run_apart hw.steady hw.keyed h
  subjects _ _ ha hb hne h := hne (Subject.eq_of_key ha hb (bundles_key_injective h))
  checks _ _ _ candidate hs hother hne := hs.check hw hother hne candidate
  limits _ _ _ hs hr hother hne := hs.limit hw hr hother hne
  signIns request w' signing ip answer hs hemail hphone h := by
    obtain ⟨phone, code, hp, hc, hvalid, hcheck⟩ := signIn_shows hphone h
    have hnamed : (Subject.phone (Phone.normalize phone)).IsNamed s.emails := ⟨phone, hvalid, rfl⟩
    refine ⟨phone, code, hp, hc, ?_⟩
    rw [← hs.check hw hnamed (subjectOf?_ne_phone hemail _)]
    exact hcheck
  completions request w' completing ip answer hs hemail h := by
    obtain ⟨hvalid, hcheck⟩ := complete_shows (hs.ready hw) h
    have hnamed : (Subject.phone (Phone.normalize completing.phone)).IsNamed s.emails :=
      ⟨completing.phone, hvalid, rfl⟩
    rw [← hs.check hw hnamed (subjectOf?_ne_phone hemail _)]
    exact hcheck
  sources start records phone code hb h hvalid hcheck :=
    h.live hb (Phone.at_not_mem_normalize hvalid) (Int.le_refl _) (mem_held_of_check hw hcheck)

/-- Ada asks for a code by email. -/
def mailing : SendCodeRequest := ⟨.email, some "ada@example.org", none, none⟩

/-- The world in which the code was sent. -/
def mailed : World := ((sendCode Sample.setup mailing).run Sample.home).2

/-- The code is good for the email, and for no phone. -/
theorem kept_apart_mailed :
    Sends Sample.setup mailing Sample.home mailed ∧
    ((check (.email "ada@example.org") "100000").run mailed).1 = .ok () ∧
    ((check (.phone "77010000001") "100000").run mailed).1 = .error .incorrectCode ∧
    KeptApart Sample.setup Sample.home := by
  have hhome : Ready Sample.home := ⟨⟨fun _ => rfl, rfl⟩, List.nodup_nil⟩
  exact ⟨sends_run Sample.setup mailing hhome, by decide +kernel, by decide +kernel,
    kept_apart hhome⟩

end Account
end SignOn
