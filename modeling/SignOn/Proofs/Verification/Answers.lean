import SignOn.Proofs.Verification.UseHistory
/-!
What calls on the codes of a subject answer follows from the one value that is read under its key:
whether a code is accepted (`run_check_eq`), and whether a further one is refused at a limit
(`run_issue_limited_iff`). A code that was issued stands in the value that is written then
(`Issued.of_run`).
-/

namespace SignOn.Verification

open SignOn.Keyspace

variable {s : Setup} {subject : Subject} {w w' : World}

/-- What a check makes of the value that it reads. -/
def verdict (value : Option Bytes) (candidate : String) : Except Failure Unit :=
  match Bundles.ofValue value with
  | .ok loaded => if loaded.bundle.contains candidate then .ok () else .error .incorrectCode
  | .error e => .error e

theorem run_check_eq (hw : Steady w) (candidate : String) : ((check subject candidate).run w).1
    = verdict (w.cache.read? w.millis (Bundles.key subject)) candidate := by
  have hload : (Bundles.load subject).run w = _ := run_load hw
  unfold verdict
  cases hl : Bundles.ofValue (w.cache.read? w.millis (Bundles.key subject)) with
  | ok loaded => exact run_check_answer hw hl candidate
  | error e =>
    rw [hl] at hload
    rw [check, Flow.run_bind_of_error hload]

/-- A value that is no bundle fails every issue. -/
theorem run_issue_unreadable (hw : Steady w) {e : Failure}
    (hl : Bundles.ofValue (w.cache.read? w.millis (Bundles.key subject)) = .error e) :
    ((issue s subject).run w).1 = .error e := by
  have hstore (w' : World) (hw' : Steady w') (hcache : w'.cache = w.cache)
      (hnow : w'.millis = w.millis) (next : Bundle → Flow Bundle) :
      (store s subject next swapAttempts).run w' = (.error e, looked subject w') := by
    refine Flow.run_bind_of_error ?_
    rw [run_load hw', hcache, hnow, hl]
  unfold issue
  split
  · simp only [Flow.now, Flow.step_bind, Flow.run, World.perform, Flow.done_bind]
    rw [hstore w hw rfl rfl]
  · simp only [Flow.newCode, Flow.step_bind, Flow.run, World.perform, Flow.done_bind]
    rw [Flow.run_bind_of_error (hstore _ (hw.drawn (w.drawn + 1)) rfl rfl _)]

/-- Whether a limit is reached for a subject, by the value under its key. -/
def AtLimit (s : Setup) (subject : Subject) (now : Int) (value : Option Bytes) : Prop :=
  fixedCode? s subject = none ∧
    ∃ loaded, Bundles.ofValue value = .ok loaded ∧ ¬ Takes s now loaded.bundle

/-- A code is refused exactly at a limit. -/
theorem run_issue_limited_iff (hw : Steady w) (hr : SendersReport w) :
    ((issue s subject).run w).1 = .error .codesLimit ↔
      AtLimit s subject w.now (w.cache.read? w.millis (Bundles.key subject)) := by
  unfold AtLimit
  cases hl : Bundles.ofValue (w.cache.read? w.millis (Bundles.key subject)) with
  | error e =>
    have hlimit : e ≠ .codesLimit := by
      rintro rfl
      unfold Bundles.ofValue at hl
      split at hl
      · cases hl
      · split at hl <;> cases hl
    rw [run_issue_unreadable hw hl]
    simpa using hlimit
  | ok loaded =>
    cases hf : fixedCode? s subject with
    | some code =>
      rw [run_issue_fixed hw hl hf]
      simp
    | none =>
      by_cases htakes : Takes s w.now loaded.bundle
      · rw [run_issue hf hw hl htakes]
        have hreport : SendersReport (rewritten s subject
            (loaded.bundle.insert (toString w.nextCode) w.now)
            (looked subject { w with drawn := w.drawn + 1 })) := ⟨hr.mail, hr.text⟩
        refine iff_of_false (deliver_answer hreport _) ?_
        rintro ⟨-, found, hfound, hno⟩
        cases hfound
        exact hno htakes
      · rw [run_issue_error hf hw hl htakes]
        exact iff_of_true rfl ⟨rfl, loaded, rfl, htakes⟩

/-- What an issue that has succeeded leaves: a bundle that was sent now and holds the code, if it is
to last at all. -/
structure Issued (s : Setup) (subject : Subject) (w : World) (bundle : Bundle) : Prop where
  sent : bundle.lastSentAt = w.now
  holds : bundle.contains (dueCode s subject w) = true
  room : fixedCode? s subject = none → 1 ≤ s.settings.verification.maxCodes
  read : ((issue s subject).run w).2.cache.read? ((issue s subject).run w).2.millis
      (Bundles.key subject)
    = if 1 ≤ s.settings.verification.bundleTtl then some bundle.encode else none

theorem read?_rewritten (s : Setup) (subject : Subject) (bundle : Bundle) (w : World) :
    (rewritten s subject bundle w).cache.read? w.millis (Bundles.key subject)
      = if 1 ≤ s.settings.verification.bundleTtl then some bundle.encode else none := by
  have hiff : w.millis < Cache.Memory.expiry w.millis s.bundleLifetime ↔
      1 ≤ s.settings.verification.bundleTtl := by
    rw [millis_lt_bundleExpiry_iff w.millis_calendar.1]
    omega
  refine (Cache.Memory.read?_write_self _ _ _).trans ?_
  simp only [hiff]

theorem Issued.of_run (hw : Steady w) (h : ((issue s subject).run w).1 = .ok ()) :
    ∃ bundle, Issued s subject w bundle := by
  cases hl : Bundles.ofValue (w.cache.read? w.millis (Bundles.key subject)) with
  | error e =>
    rw [run_issue_unreadable hw hl] at h
    cases h
  | ok loaded =>
    have hnow : ((issue s subject).run w).2.millis = w.millis := Flow.run_millis _
    cases hf : fixedCode? s subject with
    | some code =>
      refine ⟨⟨[code], w.now⟩, rfl, ?_, fun hn => ?_, ?_⟩
      · simp [Bundle.contains, dueCode, hf]
      · rw [hf] at hn
        cases hn
      · rw [hnow, run_issue_fixed hw hl hf]
        exact read?_rewritten s subject _ (looked subject w)
    | none =>
      by_cases htakes : Takes s w.now loaded.bundle
      · refine ⟨loaded.bundle.insert (toString w.nextCode) w.now, rfl, ?_, fun _ => ?_, ?_⟩
        · simp [Bundle.contains, Bundle.insert, dueCode, hf]
        · have hroom := htakes.1
          rw [Bundle.isFull, decide_eq_false_iff_not] at hroom
          omega
        · rw [hnow, run_issue hf hw hl htakes, run_deliver_cache]
          exact read?_rewritten s subject _ (looked subject { w with drawn := w.drawn + 1 })
      · rw [run_issue_error hf hw hl htakes] at h
        cases h

end SignOn.Verification
