import SignOn.Proofs.Verification.UseHistory
/-!
Which codes are accepted. A candidate is accepted exactly if the bundle of its subject still stands
and it was issued since that bundle began; a look at a bundle is not seen by any later call; and a
subject with a fixed code can be given it without limit, and is sent nothing (`check_exact`).
-/

namespace SignOn.Verification

open SignOn.Keyspace

variable {s : Setup} {subject : Subject} {w w' : World} {issued : List (Int × String)}

/-! ## Calls that come later -/

/-- A call that comes later: what lies outside by then, what the clock shows, and the call. -/
structure Later where
  outside : Outside
  clock : Int
  subject : Subject
  use : Use

/-- The millisecond that the clock shows when a later call is made. -/
def Later.millis (l : Later) : Int := World.millis { outside := l.outside, clock := l.clock }

/-- The world in which a later call is made. -/
def Later.world (l : Later) (w : World) : World := { w with outside := l.outside, clock := l.clock }

/-- The clock does not go back, and the cache stays up. -/
def Follow (millis : Int) : List Later → Prop
  | [] => True
  | l :: rest =>
    millis ≤ l.millis ∧ (∀ n, l.outside.cacheFails n = false) ∧ Follow l.millis rest

/-- What later calls answer, one after another. -/
def answers (s : Setup) : List Later → World → List (Except Failure Unit)
  | [], _ => []
  | l :: rest, w =>
    ((l.use.flow s l.subject).run (l.world w)).1 ::
      answers s rest ((l.use.flow s l.subject).run (l.world w)).2

/-- In worlds that are alike, later calls answer the same. -/
theorem answers_alike {later : List Later} (h : w.Alike w') (hl : Follow w.millis later) :
    answers s later w' = answers s later w := by
  induction later generalizing w w' with
  | nil => rfl
  | cons l rest ih =>
    obtain ⟨hforward, hup, hrest⟩ := hl
    have halike : (l.world w).Alike (l.world w') :=
      ⟨by rw [Later.world, h.same]; rfl, hup, h.cache.later hforward⟩
    obtain ⟨hanswer, hworld⟩ := Flow.run_alike halike (l.use.flow s l.subject)
    have hlater : Follow ((l.use.flow s l.subject).run (l.world w)).2.millis rest := by
      rw [Flow.run_millis]; exact hrest
    rw [answers, answers, hanswer, ih hworld hlater]

/-! ## What a call answers -/

variable {among : Subject → Prop} {start : World} {entries : List Entry}

/-- An act hands no message over. -/
def IsSilent (act : Act) : Prop := isMessage act = false

/-- What is answered about the codes of a subject, after these calls. -/
structure Exact (s : Setup) (entries : List Entry) (subject : Subject) (w : World) : Prop where
  /-- A candidate is accepted if the bundle of the subject stands and it was issued since then, -/
  accepts : ∀ candidate, ((check subject candidate).run w).1 = .ok () ↔
    Good (bundleMillis s) w.millis (accepted subject entries) candidate
  /-- and found incorrect otherwise. -/
  refuses : ∀ candidate,
    ¬ Good (bundleMillis s) w.millis (accepted subject entries) candidate →
      ((check subject candidate).run w).1 = .error .incorrectCode
  /-- Where there is a fixed code, it is the only one to be accepted. -/
  fixed : ∀ code, fixedCode? s subject = some code → ∀ candidate,
    ((check subject candidate).run w).1 = .ok () ↔
      Stands (bundleMillis s) w.millis (accepted subject entries) ∧ candidate = code
  /-- Whatever is checked, all later calls answer as if it had not been. -/
  unseen : ∀ candidate later, Follow w.millis later →
    answers s later ((check subject candidate).run w).2 = answers s later w
  /-- A fixed code is given without limit, and no message is handed over. -/
  unlimited : ∀ code, fixedCode? s subject = some code →
    ((issue s subject).run w).1 = .ok () ∧ (issue s subject).Acts IsSilent

/-- A fixed code is stored, and no message is handed over. -/
theorem issue_silent {code : String} (hf : fixedCode? s subject = some code) :
    (issue s subject).Acts IsSilent := by
  have hget : IsSilent (.cache (.get (Bundles.key subject))) := rfl
  have hnext (now : Int) (bundle : Bundle) :
      (pure ⟨[code], now⟩ : Flow Bundle).Acts IsSilent := trivial
  rw [issue, hf]
  exact ⟨rfl, fun now => acts_store hget (fun _ _ _ => rfl) (hnext now) swapAttempts⟩

/-- A look at the codes leaves a world that no call tells from the one before. -/
theorem alike_check (hw : Steady w) (hk : w.cache.Keyed) (candidate : String) :
    w.Alike ((check subject candidate).run w).2 := by
  rw [run_check hw]
  exact ⟨rfl, hw.up, (Cache.Memory.Alike.refl hk).settle _⟩

/-- Where there is a fixed code, it is the one that is good while the bundle stands. -/
theorem Kept.good_iff_of_fixed (h : Kept s subject issued w) {code : String}
    (hf : fixedCode? s subject = some code) (candidate : String) :
    Good (bundleMillis s) w.millis issued candidate ↔
      Stands (bundleMillis s) w.millis issued ∧ candidate = code := by
  refine and_congr_right fun hstands => ?_
  rw [← h.mem_bundleCodes hstands, bundleCodes, hf, List.mem_singleton]

/-- However codes were issued, checked and voided, what is accepted is exact. -/
theorem check_exact (hs : Begins among start) (h : UseHistory s among start entries w)
    (hin : among subject) : Exact s entries subject w := by
  have hw := h.between hs
  have hkept := hw.kept subject hin
  obtain ⟨loaded, hl, -⟩ := hkept.reads.loads
  have haccepts (candidate : String) := hw.accepts_iff hin candidate
  refine ⟨haccepts, fun candidate hbad => ?_, fun code hf candidate => ?_,
    fun candidate later hlater => ?_, fun code hf => ⟨?_, issue_silent hf⟩⟩
  · rw [run_check_answer hw.steady hl, if_neg (mt (hkept.contains_iff hl candidate).1 hbad)]
  · rw [haccepts, hkept.good_iff_of_fixed hf]
  · exact answers_alike (alike_check hw.steady hw.keyed candidate) hlater
  · rw [run_issue_fixed hw.steady hl hf]

/-- A phone with a fixed code. -/
abbrev visitor : Subject := .phone "77000000000"

/-- Settings with one fixed code. -/
def frontDesk : Setup :=
  { Sample.setup with
    settings := { verification := { freePhones := [("77000000000", "111111")] } } }

/-- Who is given codes in the worked run. -/
def Attends (subject : Subject) : Prop := subject = ada ∨ subject = visitor

/-- What was issued in the worked run, latest first. -/
def deskEntries : List Entry :=
  [entry frontDesk ada .issue
      (sampleAt 1060250
        (issuedAt frontDesk 1000000 visitor (issuedAt frontDesk 1000000 ada Sample.world))),
    entry frontDesk visitor .issue (sampleAt 1000000 (issuedAt frontDesk 1000000 ada Sample.world)),
    entry frontDesk ada .issue (sampleAt 1000000 Sample.world)]

/-- The world at the end of the worked run. -/
def deskWorld : World :=
  sampleAt 1360249 (issuedAt frontDesk 1060250 ada
    (issuedAt frontDesk 1000000 visitor (issuedAt frontDesk 1000000 ada Sample.world)))

/-- Two codes go to one subject a minute apart, and a fixed one to another subject. A millisecond
before the end of the first bundle both of its codes are good; that of the fixed code is gone. -/
theorem check_exact_renewed :
    UseHistory frontDesk Attends Sample.world deskEntries deskWorld ∧
    (accepted ada deskEntries = [(1060250, "100001"), (1000000, "100000")] ∧
      Exact frontDesk deskEntries ada deskWorld) ∧
    (accepted visitor deskEntries = [(1000000, "111111")] ∧
      Exact frontDesk deskEntries visitor deskWorld) := by
  have hs : Begins Attends Sample.world := by
    refine ⟨?_, ⟨fun _ => rfl, rfl⟩, ⟨fun _ _ h => (by cases h), fun _ _ h => (by cases h)⟩, rfl⟩
    rintro a b (rfl | rfl) (rfl | rfl) h
    · rfl
    · exact absurd h (by decide)
    · exact absurd h (by decide)
    · rfl
  have hstart : UseHistory frontDesk Attends Sample.world [] Sample.world := .start
  have hfirst := hstart.issuedAt hs 1000000 (by decide) (.inl rfl)
  have hfixed := hfirst.issuedAt hs 1000000 (by decide +kernel) (.inr rfl)
  have hsecond := hfixed.issuedAt hs 1060250 (by decide +kernel) (.inl rfl)
  have hhistory : UseHistory frontDesk Attends Sample.world deskEntries deskWorld :=
    hsecond.until hs (by decide +kernel)
  exact ⟨hhistory, ⟨by decide +kernel, check_exact hs hhistory (.inl rfl)⟩, by decide +kernel,
    check_exact hs hhistory (.inr rfl)⟩

end SignOn.Verification
