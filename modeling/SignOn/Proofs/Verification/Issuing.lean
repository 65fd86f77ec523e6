import SignOn.Proofs.Flow.Concurrent
import SignOn.Proofs.Flow.Refused
import SignOn.Proofs.Json.RoundTrip
import SignOn.Proofs.Sample
import SignOn.Verification.Throttle
/-!
One-time codes under concurrency. Any number of calls issue, check and void codes of one subject at
the same time, and the bundle may expire in between. A bundle is only written where the bytes that
the writer has read still stand, so a code is always added to the list that is there: the cap is
kept (`codes_within_cap`), no code is lost (`codes_step`), and a message goes out exactly for a code
that was stored (`issue_course`).
-/

namespace SignOn.Verification

open SignOn.Keyspace SignOn.Json

/-! ## Calls on a subject -/

/-- A call on the codes of a subject. -/
inductive Use where
  | issue
  | check (candidate : String)
  | clear

/-- Such calls give nothing but their success. -/
@[reducible] def Use.Value (_ : Use) : Type := Unit

/-- The course of a call on the codes of a subject. -/
def Use.flow (s : Setup) (subject : Subject) : (u : Use) → Flow u.Value
  | .issue => Verification.issue s subject
  | .check candidate => Verification.check subject candidate
  | .clear => Verification.clear subject

/-- No sender answers as if a limit of codes were reached. -/
structure SendersReport (w : World) : Prop where
  mail : ∀ address code, w.outside.deliverMail address code ≠ .error .codesLimit
  text : ∀ phone message, w.outside.deliverText phone message ≠ .error .codesLimit

/-- The senders of a network report failures of their own. -/
theorem sendersReport_through {w : World} {o : Outside} {n : Network} {s : Settings}
    (h : w.outside = o.through n s) : SendersReport w := by
  have hinside : w.outside.ReportsInside := h ▸ o.reportsInside_through n s
  constructor
  · exact fun address code he => absurd (hinside.mail _ _ _ he) (by decide)
  · exact fun phone message he => absurd (hinside.text _ _ _ he) (by decide)

/-- The cache is left alone; clock, accounts, chance and failures may change. -/
def Drifts (w w' : World) : Prop := w'.cache = w.cache ∧ SendersReport w'

/-! ## Bundles in the cache -/

/-- The codes that a value holds. -/
def codesOf (value : Bytes) : Option (List String) :=
  (Bundle.decode value).toOption.map (·.codes)

/-- The codes that a caller would find. -/
def held (subject : Subject) (w : World) : Option (List String) :=
  (w.cache.read? w.millis (Bundles.key subject)).bind codesOf

/-- The codes that are stored, expired or not. -/
def stored (subject : Subject) (w : World) : Option (List String) :=
  (w.cache.find? (Bundles.key subject)).bind fun e => codesOf e.value

/-- A bundle that names an instant of 64 bits is read back. -/
theorem decode_encode {b : Bundle} (hl : -9223372036854775808 ≤ b.lastSentAt)
    (hh : b.lastSentAt ≤ 9223372036854775807) : Bundle.decode b.encode = .ok b := by
  have hk : Bundle.shape.Keeps b.toCarrier := by
    have hb : b.lastSentAt.natAbs < doubleBound := lt_doubleBound (by omega)
    simp [Bundle.shape, Bundle.toCarrier, Shape.Keeps, Fields.Keeps, Fields.names, Shape.int64, hl,
      hh, hb]
  rw [Bundle.decode, Bundle.encode, Shape.decode_encode _ _ hk]
  rfl

/-- Whether a list of codes is no longer than allowed. -/
def Fits (s : Setup) (subject : Subject) (w : World) : Prop :=
  ∀ e, w.cache.find? (Bundles.key subject) = some e →
    ∃ b, Bundle.decode e.value = .ok b ∧ b.codes.length ≤ s.settings.verification.maxCodes

/-! ## Events -/

/-- The event that a bundle was replaced. -/
def isReplacement (subject : Subject) : Event → Bool
  | ⟨.cache (.swap key _ _ _), .ok true⟩ => key == Bundles.key subject
  | _ => false

/-- The act of handing a message to a sender. -/
def isMessage : Act → Bool
  | .mail .. => true
  | .text .. => true
  | _ => false

/-- The acts that hand a code over for a subject. A letter to an email is given the code; a text to
a phone names the service and ends in the code. -/
inductive Carries (s : Setup) (code : String) : Subject → Act → Prop where
  | mail (address : String) : Carries s code (.email address) (.mail address code)
  | text (number : String) : Carries s code (.phone number) (.text number
      ("Your verification code for " ++ s.settings.verification.appName ++ " - " ++ code))

/-- A code that a call has drawn. -/
def Drew (past : List Event) (code : String) : Prop :=
  ∃ n : Nat, ⟨.code, n⟩ ∈ past ∧ toString n = code

/-- Neither was a bundle replaced nor a message handed over. -/
def Silent (subject : Subject) (past : List Event) : Prop :=
  ∀ e ∈ past, isReplacement subject e = false ∧ isMessage e.act = false

/-- The event that a bundle was replaced by one whose last code is `code`. -/
def Stores (subject : Subject) (code : String) (e : Event) : Prop :=
  ∃ expected value lifetime, ∃ codes : List String,
    e = ⟨.cache (.swap (Bundles.key subject) expected value lifetime), .ok true⟩ ∧
      codesOf value = some (codes ++ [code])

theorem silent_nil (subject : Subject) : Silent subject [] := by
  intro e h; cases h

theorem Silent.append {subject : Subject} {past : List Event} (h : Silent subject past) {e : Event}
    (he : isReplacement subject e = false ∧ isMessage e.act = false) :
    Silent subject (past ++ [e]) := by
  intro x hx
  rcases List.mem_append.1 hx with hx | hx
  · exact h x hx
  · rw [List.mem_singleton] at hx; exact hx ▸ he

theorem Drew.append {past : List Event} {code : String} (h : Drew past code) (e : Event) :
    Drew (past ++ [e]) code := by
  obtain ⟨n, hn, hc⟩ := h
  exact ⟨n, List.mem_append_left _ hn, hc⟩

/-! ## The course of a call -/

/-- Events that worlds give rise to: the clock shows seconds of 64 bits, and senders fail in their
own ways. -/
def Plausible : Event → Prop
  | ⟨.clock, now⟩ => -9223372036854775808 ≤ now ∧ now ≤ 9223372036854775807
  | ⟨.mail _ _, answer⟩ => answer ≠ .error .codesLimit
  | ⟨.text _ _, answer⟩ => answer ≠ .error .codesLimit
  | _ => True

/-- What a call that adds a code may do to the cache: it looks, and it replaces what it has read by
the same bundle with its own code at the end, unless there are too many. -/
def Adds (s : Setup) (subject : Subject) (past : List Event) : Act → Prop
  | .cache (.get key) => key = Bundles.key subject
  | .cache (.swap key expected value _) => key = Bundles.key subject ∧
    ∃ bundle now code, Bundles.ofValue expected = .ok ⟨expected, bundle⟩ ∧
      bundle.isFull s.settings.verification.maxCodes = false ∧
      (-9223372036854775808 ≤ now ∧ now ≤ 9223372036854775807) ∧ Drew past code ∧
      value = (bundle.insert code now).encode
  | .cache _ => False
  | _ => True

/-- The events of a call that has stored its code, and nothing before. -/
def Won (subject : Subject) (code : String) (past : List Event) : Prop :=
  ∃ before e, past = before ++ [e] ∧ Silent subject before ∧ Drew before code ∧
    Stores subject code e

/-- The events of a call that has stored its code and handed it over, and nothing else. -/
def Delivered (s : Setup) (subject : Subject) (past : List Event) : Prop :=
  ∃ before e code, past = before ++ [e] ∧ Won subject code before ∧ Carries s code subject e.act

/-- A pause of a call that issues a code: nothing has happened yet, or the code is stored and is
handed over next. -/
def Pause (s : Setup) (subject : Subject) (past : List Event) (act : Act) : Prop :=
  (Silent subject past ∧ isMessage act = false ∧ Adds s subject past act) ∨
    ∃ code, Won subject code past ∧ Carries s code subject act

/-- The end of a call that issues a code: it failed and nothing has happened, or the code was stored
and handed over. -/
def End (s : Setup) (subject : Subject) (past : List Event) (result : Except Failure Unit) : Prop :=
  (Silent subject past ∧ result ≠ .ok ()) ∨
    (Delivered s subject past ∧ result ≠ .error .codesLimit)

/-- The courses of a call that issues a code. -/
abbrev Issues (s : Setup) (subject : Subject) (past : List Event) (f : Flow Unit) : Prop :=
  f.Along Plausible (Pause s subject) (End s subject) past

/-- Nothing has happened when a swap is lost. -/
theorem Silent.append_lost {subject : Subject} {past : List Event} (h : Silent subject past)
    {key : String} {expected : Option Bytes} {value : Bytes} {lifetime : Cache.Lifetime}
    {answer : Except Failure Bool} (hlost : answer ≠ .ok true) :
    Silent subject (past ++ [⟨.cache (.swap key expected value lifetime), answer⟩]) := by
  refine h.append ⟨?_, rfl⟩
  rcases answer with e | _ | _
  · rfl
  · rfl
  · exact absurd rfl hlost

theorem Silent.fails {s : Setup} {subject : Subject} {past : List Event} (h : Silent subject past)
    (e : Failure) : End s subject past (.error e) := .inl ⟨h, by intro h; cases h⟩

/-- With its code stored, a call hands it over and ends. -/
theorem deliver_issues {s : Setup} {subject : Subject} {past : List Event} {code : String}
    (h : Won subject code past) : Issues s subject past (deliver s subject code) := by
  cases subject with
  | email address =>
    refine ⟨.inr ⟨code, h, .mail address⟩, fun answer hr => ?_⟩
    have hd : Delivered s (.email address) (past ++ [⟨.mail address code, answer⟩]) :=
      ⟨past, _, code, rfl, h, .mail address⟩
    cases answer <;> exact .inr ⟨hd, hr⟩
  | phone number =>
    have hcarries : Carries s code (.phone number) (.text number (textOf s code)) := .text number
    refine ⟨.inr ⟨code, h, hcarries⟩, fun answer hr => ?_⟩
    have hd : Delivered s (.phone number) (past ++ [⟨.text number (textOf s code), answer⟩]) :=
      ⟨past, _, code, rfl, h, hcarries⟩
    cases answer <;> exact .inr ⟨hd, hr⟩

theorem ofValue_raw {value : Option Bytes} {loaded : Bundles.Loaded}
    (h : Bundles.ofValue value = .ok loaded) : loaded = ⟨value, loaded.bundle⟩ := by
  unfold Bundles.ofValue at h
  split at h
  · cases h; rfl
  · split at h <;> cases h
    rfl

/-- However often the swap is lost, the code is stored at most once, and handed over then. -/
theorem store_issues {s : Setup} {subject : Subject} {code : String} (attempts : Nat) :
    ∀ {past : List Event}, Silent subject past → Drew past code →
      Issues s subject past (do
        store s subject (addCode s code) attempts
        deliver s subject code) := by
  induction attempts with
  | zero => exact fun hs _ => hs.fails _
  | succ attempts ih =>
    intro past hs hd
    refine ⟨.inl ⟨hs, rfl, rfl⟩, fun raw _ => ?_⟩
    have hs1 := hs.append (e := ⟨.cache (.get (Bundles.key subject)), raw⟩) ⟨rfl, rfl⟩
    have hd1 := hd.append ⟨.cache (.get (Bundles.key subject)), raw⟩
    rcases raw with e | raw
    · exact hs1.fails e
    change Issues s subject _ ((Flow.ofExcept (Bundles.ofValue raw) >>= _) >>= _)
    cases hl : Bundles.ofValue raw with
    | error e => exact hs1.fails e
    | ok loaded =>
      refine ⟨.inl ⟨hs1, rfl, trivial⟩, fun now hnow => ?_⟩
      have hs2 := hs1.append (e := ⟨.clock, now⟩) ⟨rfl, rfl⟩
      have hd2 := hd1.append ⟨.clock, now⟩
      change Issues s subject _ (((Flow.ensure (!(loaded.bundle.isFull
        s.settings.verification.maxCodes || loaded.bundle.isFrequent now
        s.settings.verification.minInterval)) .codesLimit >>= _) >>= _) >>= _)
      cases hfull : loaded.bundle.isFull s.settings.verification.maxCodes with
      | true => exact hs2.fails _
      | false =>
        cases loaded.bundle.isFrequent now s.settings.verification.minInterval with
        | true => exact hs2.fails _
        | false =>
          have hraw : loaded.raw = raw := by rw [ofValue_raw hl]
          have hadds : Adds s subject _ (.cache (.swap (Bundles.key subject) loaded.raw
              (loaded.bundle.insert code now).encode s.bundleLifetime)) :=
            ⟨rfl, loaded.bundle, now, code, by rw [hraw, ← ofValue_raw hl]; exact hl, hfull, hnow,
              hd2, rfl⟩
          refine ⟨.inl ⟨hs2, rfl, hadds⟩, fun replaced _ => ?_⟩
          rcases replaced with e | _ | _
          · exact (hs2.append_lost (by intro h; cases h)).fails e
          · -- The swap is lost: the bundle is read again, and one attempt fewer is left.
            exact ih (hs2.append_lost (by intro h; cases h)) (hd2.append _)
          · refine deliver_issues ⟨_, _, rfl, hs2, hd2, loaded.raw, _, s.bundleLifetime,
              loaded.bundle.codes, rfl, ?_⟩
            rw [codesOf, decode_encode hnow.1 hnow.2]
            rfl

/-- A call that issues a code stores at most one, and hands over what it stored. -/
theorem issue_issues {s : Setup} {subject : Subject} (h : fixedCode? s subject = none) :
    Issues s subject [] (issue s subject) := by
  rw [issue, h]
  refine ⟨.inl ⟨silent_nil subject, rfl, trivial⟩, fun n _ => ?_⟩
  have hs := (silent_nil subject).append (e := ⟨.code, n⟩) ⟨rfl, rfl⟩
  exact store_issues swapAttempts hs ⟨n, List.mem_singleton_self _, rfl⟩

/-! ## Acts on the bundle -/

variable {s : Setup} {subject : Subject}

/-- What holds of a call on a subject before each act. -/
def Course (s : Setup) (subject : Subject) : Use → List Event → Act → Prop
  | .issue, past, act => Pause s subject past act
  | .check _, _, act => act = .cache (.get (Bundles.key subject))
  | .clear, _, act => act = .cache (.delete (Bundles.key subject))

/-- What holds of a call on a subject at its end. -/
def CourseEnd (s : Setup) (subject : Subject) :
    (u : Use) → List Event → Except Failure u.Value → Prop
  | .issue, past, result => End s subject past result
  | .check _, _, _ => True
  | .clear, _, _ => True

theorem flow_along (h : fixedCode? s subject = none) (u : Use) :
    (u.flow s subject).Along Plausible (Course s subject u) (CourseEnd s subject u) [] := by
  cases u with
  | issue => exact issue_issues h
  | check candidate =>
    refine ⟨rfl, fun raw _ => ?_⟩
    rcases raw with e | raw
    · trivial
    · change Flow.Along _ _ _ _ ((Flow.ofExcept (Bundles.ofValue raw)) >>= _)
      cases Bundles.ofValue raw with
      | error e => trivial
      | ok loaded =>
        change Flow.Along _ _ _ _ (Flow.ensure (loaded.bundle.contains candidate) .incorrectCode)
        cases loaded.bundle.contains candidate <;> trivial
  | clear =>
    refine ⟨rfl, fun answer _ => ?_⟩
    cases answer <;> trivial

theorem plausible_event {w : World} (h : SendersReport w) (act : Act) :
    Plausible (w.event act) := by
  cases act with
  | clock => exact w.now_bounds
  | mail address code =>
    intro he
    refine h.mail address code ?_
    simp only [World.perform] at he
    split at he
    · cases he
    · next e hd => rw [hd]; exact he
  | text phone message =>
    intro he
    refine h.text phone message ?_
    simp only [World.perform] at he
    split at he
    · cases he
    · next e hd => rw [hd]; exact he
  | _ => trivial

/-- What one act of a call does to the codes of a subject: a replacement puts the caller's code
behind the ones that stood there, voiding takes them away, and everything else leaves them. -/
def Changes (subject : Subject) (u : Use) (past : List Event) (act : Act)
    (w : World) : Prop :=
  (isReplacement subject (w.event act) = true ∧ u = .issue ∧
    ∃ code, Drew past code ∧
      stored subject (w.perform act).2 = some ((held subject w).getD [] ++ [code])) ∨
  (isReplacement subject (w.event act) = false ∧
    (held subject (w.perform act).2 = held subject w ∨
      (u = .clear ∧ held subject (w.perform act).2 = none)))

theorem codesOf_of_ofValue {value : Option Bytes} {bundle : Bundle}
    (h : Bundles.ofValue value = .ok ⟨value, bundle⟩) :
    (value.bind codesOf).getD [] = bundle.codes := by
  unfold Bundles.ofValue at h
  split at h
  · cases h; rfl
  · split at h
    · next bytes b hb =>
      cases h
      simp [codesOf, hb, Except.toOption]
    · cases h

theorem held_eq_of_read? {w w' : World} (hm : w'.millis = w.millis)
    (h : w'.cache.read? w.millis (Bundles.key subject) =
      w.cache.read? w.millis (Bundles.key subject)) : held subject w' = held subject w := by
  rw [held, held, hm, h]

theorem held_eq_of_cache {w w' : World} (hm : w'.millis = w.millis) (h : w'.cache = w.cache) :
    held subject w' = held subject w := held_eq_of_read? hm (by rw [h])

/-- Looking at a bundle changes nothing. -/
theorem changes_get (w : World) (u : Use) (past : List Event) :
    Changes subject u past (.cache (.get (Bundles.key subject))) w := by
  refine .inr ⟨rfl, .inl ?_⟩
  obtain ⟨lost, calls, answer, cache, he, hr⟩ :=
    w.performCache_cases (.get (Bundles.key subject))
  rw [he]
  rcases hr with ⟨-, -, rfl⟩ | ⟨-, -, rfl⟩ | ⟨-, rfl⟩
  · rfl
  · rfl
  · exact held_eq_of_read? rfl Cache.Memory.read?_settle

/-- Voiding a bundle takes it away, unless the cache fails. -/
theorem changes_delete (w : World) (past : List Event) :
    Changes subject .clear past (.cache (.delete (Bundles.key subject))) w := by
  obtain ⟨lost, calls, answer, cache, he, hr⟩ :=
    w.performCache_cases (.delete (Bundles.key subject))
  refine .inr ⟨rfl, ?_⟩
  rw [he]
  rcases hr with ⟨-, -, rfl⟩ | ⟨-, -, rfl⟩ | ⟨-, rfl⟩
  · exact .inl rfl
  · exact .inl rfl
  · refine .inr ⟨rfl, ?_⟩
    simp only [held, Cache.Memory.perform]
    rw [Cache.Memory.read?_eq, Cache.Memory.find?_erase_self]
    rfl

/-- What has nothing to do with the cache changes no bundle. -/
theorem changes_other (w : World) (u : Use) (past : List Event) {act : Act}
    (h : ∀ cmd, act ≠ .cache cmd) : Changes subject u past act w := by
  refine .inr ⟨?_, .inl (held_eq_of_cache (w.perform_millis act) (w.perform_cache_eq h))⟩
  cases act with
  | cache cmd => exact absurd rfl (h cmd)
  | _ => rfl

/-- A swap that wins puts the caller's code behind the ones that stood there. -/
theorem changes_swap (w : World) {past : List Event} {expected : Option Bytes} {value : Bytes}
    {lifetime : Cache.Lifetime}
    (h : Adds s subject past (.cache (.swap (Bundles.key subject) expected value lifetime))) :
    Changes subject .issue past
      (.cache (.swap (Bundles.key subject) expected value lifetime)) w := by
  obtain ⟨-, bundle, now, code, hv, -, hnow, hd, rfl⟩ := h
  obtain ⟨lost, calls, answer, cache, he, hr⟩ := w.performCache_cases
    (.swap (Bundles.key subject) expected (bundle.insert code now).encode lifetime)
  rw [Changes, World.event, he]
  rcases hr with ⟨e, rfl, rfl⟩ | ⟨-, ha, rfl⟩ | ⟨rfl, rfl⟩
  · exact .inr ⟨rfl, .inl rfl⟩
  · rw [eq_of_heq ha]
    exact .inr ⟨rfl, .inl rfl⟩
  · simp only [Cache.Memory.perform]
    by_cases hread : w.cache.read? w.millis (Bundles.key subject) = expected
    · simp only [if_pos hread]
      refine .inl ⟨beq_self_eq_true _, trivial, code, hd, ?_⟩
      have hcodes := codesOf_of_ofValue hv
      have hnew : codesOf (bundle.insert code now).encode = some (bundle.codes ++ [code]) := by
        rw [codesOf, decode_encode hnow.1 hnow.2]
        rfl
      rw [held, hread, hcodes, stored, Cache.Memory.find?_write_self]
      exact hnew
    · simp only [if_neg hread]
      exact .inr ⟨rfl, .inl (held_eq_of_read? rfl Cache.Memory.read?_settle)⟩

theorem Carries.ne_cache {code : String} {act : Act} (h : Carries s code subject act)
    (cmd : Cache.Command) : act ≠ .cache cmd := by
  cases h <;> exact fun he => by cases he

/-- What a call may do next changes the codes as it should. -/
theorem changes_of_course (w : World) {u : Use} {past : List Event} {act : Act}
    (h : Course s subject u past act) : Changes subject u past act w := by
  cases u with
  | issue =>
    rcases h with ⟨-, -, hadds⟩ | ⟨code, -, hcarries⟩
    · cases act with
      | cache cmd =>
        cases cmd with
        | get key => cases hadds; exact changes_get w _ _
        | swap key expected value lifetime => cases hadds.1; exact changes_swap w hadds
        | _ => exact hadds.elim
      | _ => exact changes_other w _ _ (by intro cmd hc; cases hc)
    · exact changes_other w _ _ hcarries.ne_cache
  | check candidate => cases h; exact changes_get w _ _
  | clear => cases h; exact changes_delete w _

/-! ## The cap -/

theorem fits_of_fades {w w' : World} (h : Fits s subject w)
    (hf : w'.cache.find? (Bundles.key subject) = w.cache.find? (Bundles.key subject) ∨
      w'.cache.find? (Bundles.key subject) = none) : Fits s subject w' := by
  intro e he
  rcases hf with hf | hf
  · exact h e (hf ▸ he)
  · rw [hf] at he; cases he

theorem fits_settle {w : World} (h : Fits s subject w) {w' : World}
    (hc : w'.cache = w.cache.settle w.millis (Bundles.key subject)) : Fits s subject w' := by
  refine fits_of_fades h ?_
  rw [hc, Cache.Memory.find?_settle_self]
  exact (Cache.Memory.alive_eq_none_or _ _).symm

theorem fits_get {w : World} (h : Fits s subject w) :
    Fits s subject (w.perform (.cache (.get (Bundles.key subject)))).2 := by
  obtain ⟨lost, calls, answer, cache, he, hr⟩ :=
    w.performCache_cases (.get (Bundles.key subject))
  rw [he]
  rcases hr with ⟨-, -, rfl⟩ | ⟨-, -, rfl⟩ | ⟨-, rfl⟩
  · exact h
  · exact h
  · exact fits_settle h rfl

theorem fits_delete {w : World} (h : Fits s subject w) :
    Fits s subject (w.perform (.cache (.delete (Bundles.key subject)))).2 := by
  obtain ⟨lost, calls, answer, cache, he, hr⟩ :=
    w.performCache_cases (.delete (Bundles.key subject))
  rw [he]
  rcases hr with ⟨-, -, rfl⟩ | ⟨-, -, rfl⟩ | ⟨-, rfl⟩
  · exact h
  · exact h
  · exact fits_of_fades h (.inr Cache.Memory.find?_erase_self)

/-- A bundle that is not full has room for the code that replaces it. -/
theorem fits_swap {w : World} (h : Fits s subject w) {past : List Event}
    {expected : Option Bytes} {value : Bytes} {lifetime : Cache.Lifetime}
    (ha : Adds s subject past (.cache (.swap (Bundles.key subject) expected value lifetime))) :
    Fits s subject
      (w.perform (.cache (.swap (Bundles.key subject) expected value lifetime))).2 := by
  obtain ⟨-, bundle, now, code, -, hfull, hnow, -, rfl⟩ := ha
  obtain ⟨lost, calls, answer, cache, he, hr⟩ := w.performCache_cases
    (.swap (Bundles.key subject) expected (bundle.insert code now).encode lifetime)
  rw [he]
  rcases hr with ⟨-, -, rfl⟩ | ⟨-, -, rfl⟩ | ⟨-, rfl⟩
  · exact h
  · exact h
  · simp only [Cache.Memory.perform]
    split
    · intro e hf
      rw [Cache.Memory.find?_write_self, Option.some.injEq] at hf
      rw [← hf]
      refine ⟨bundle.insert code now, decode_encode hnow.1 hnow.2, ?_⟩
      have hlt : ¬ s.settings.verification.maxCodes ≤ bundle.codes.length :=
        of_decide_eq_false hfull
      simp only [Bundle.insert, List.length_append, List.length_singleton]
      omega
    · exact fits_settle h rfl

theorem fits_other {w : World} (h : Fits s subject w) {act : Act}
    (ha : ∀ cmd, act ≠ .cache cmd) : Fits s subject (w.perform act).2 :=
  fits_of_fades h (.inl (by rw [w.perform_cache_eq ha]))

/-- No act of a call breaks the cap. -/
theorem fits_of_course {w : World} (hf : Fits s subject w) {u : Use} {past : List Event}
    {act : Act} (h : Course s subject u past act) : Fits s subject (w.perform act).2 := by
  cases u with
  | issue =>
    rcases h with ⟨-, -, hadds⟩ | ⟨code, -, hcarries⟩
    · cases act with
      | cache cmd =>
        cases cmd with
        | get key => cases hadds; exact fits_get hf
        | swap key expected value lifetime => cases hadds.1; exact fits_swap hf hadds
        | _ => exact hadds.elim
      | _ => exact fits_other hf (by intro cmd hc; cases hc)
    · exact fits_other hf hcarries.ne_cache
  | check candidate => cases h; exact fits_get hf
  | clear => cases h; exact fits_delete hf

/-! ## All calls together -/

variable {start now : System Use.Value}

/-- Calls that have not done anything yet. -/
def AtStart (s : Setup) (subject : Subject) (sys : System Use.Value) : Prop :=
  ∀ t ∈ sys.threads, ∃ u, t = Thread.start (Use.flow s subject) u

theorem sendersReport_perform (w : World) (act : Act) (h : SendersReport w) :
    SendersReport (w.perform act).2 := by
  constructor <;> rw [w.perform_outside]
  · exact h.mail
  · exact h.text

theorem follows_of_reaches (hfixed : fixedCode? s subject = none)
    (hs : AtStart s subject start) (hsend : SendersReport start.world)
    (h : System.Reaches Drifts start now) :
    ∀ t ∈ now.threads, t.Follows Plausible (Course s subject) (CourseEnd s subject) := by
  refine (h.follows hsend (fun t ht => ?_) (fun w _ _ act hw _ =>
    ⟨sendersReport_perform w act hw, plausible_event hw act⟩) (fun _ _ hd _ => hd.2)).2
  obtain ⟨u, rfl⟩ := hs t ht
  exact flow_along hfixed u

theorem fits_of_reaches (hfixed : fixedCode? s subject = none)
    (hs : AtStart s subject start) (hsend : SendersReport start.world)
    (hfits : Fits s subject start.world) (h : System.Reaches Drifts start now) :
    Fits s subject now.world := by
  induction h with
  | refl => exact hfits
  | tail hr hstep ih =>
    cases hstep with
    | act hi =>
      exact fits_of_course ih (follows_of_reaches hfixed hs hsend hr _ (List.mem_of_getElem? hi)).1
    | drift hd => exact fits_of_fades ih (.inl (by rw [hd.1]))

/-- What holds at every moment while calls use the codes of one subject. -/
structure CodesKept (s : Setup) (subject : Subject) (now : System Use.Value) : Prop where
  /-- The stored bundle is within the cap. -/
  cap : Fits s subject now.world
  /-- Whatever a call does next, it adds its own code to the codes that stand there, or voids them,
  or leaves them. -/
  steps : ∀ (i : Nat) (u : Use) past act (next : act.Answer → Flow Unit),
    now.threads[i]? = some ⟨u, past, .step act next⟩ → Changes subject u past act now.world
  /-- A call that issues a code hands over a message just when it has stored a code, once and with
  this code; it has done neither if it ends at a limit. -/
  issues : ∀ past (rest : Flow Unit), ⟨.issue, past, rest⟩ ∈ now.threads →
    rest.At (Pause s subject) (End s subject) past

/-- Calls issue, check and void codes of one subject at the same time, in every order of their acts,
while time passes and bundles expire: the cap is kept, no code is lost, and exactly the stored codes
are sent. -/
theorem codes_kept (hfixed : fixedCode? s subject = none) (hs : AtStart s subject start)
    (hsend : SendersReport start.world) (hfits : Fits s subject start.world)
    (h : System.Reaches Drifts start now) : CodesKept s subject now := by
  have hfollow := follows_of_reaches hfixed hs hsend h
  refine ⟨fits_of_reaches hfixed hs hsend hfits h, fun i u past act next hi => ?_,
    fun past rest ht => (hfollow _ ht).at⟩
  exact changes_of_course now.world (hfollow _ (List.mem_of_getElem? hi)).1

/-- Two calls that issue a code to one phone, and one that voids its codes. -/
def race : System Use.Value where
  world := Sample.world
  threads := [.issue, .issue, .clear].map
    (Thread.start (Use.flow Sample.setup (.phone "77010000001")))

/-- Both calls find no bundle before one of them stores its code, which it sends. -/
def raceOrder : List Nat := [0, 1, 0, 1, 0, 1, 0, 1, 0, 1, 1]

theorem codes_kept_race :
    stored (.phone "77010000001") (race.schedule raceOrder).world = some ["100000"] ∧
      (race.schedule raceOrder).world.texts
        = [("77010000001", "Your verification code for Auth - 100000")] ∧
      CodesKept Sample.setup (.phone "77010000001") (race.schedule raceOrder) := by
  have hstart : AtStart Sample.setup (.phone "77010000001") race := by
    intro t ht
    obtain ⟨u, -, rfl⟩ := List.mem_map.1 ht
    exact ⟨u, rfl⟩
  have hsend : SendersReport race.world := by
    constructor <;> intro _ _ h <;> cases h
  have hfits : Fits Sample.setup (.phone "77010000001") race.world := by
    intro e he
    cases he
  refine ⟨by decide +kernel, by decide +kernel, ?_⟩
  exact codes_kept rfl hstart hsend hfits (System.reaches_schedule Drifts raceOrder race)

end SignOn.Verification
