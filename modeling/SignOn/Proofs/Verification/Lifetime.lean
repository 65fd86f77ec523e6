import Mathlib.Algebra.Order.Ring.Int
import Mathlib.Tactic.Linarith
import SignOn.Proofs.Verification.UseHistory
/-!
How long a code is good. A bundle has one lifetime for all of its codes, and every code that joins
the bundle renews it. So a code is good as long as no gap between it, the codes behind it and now is
as long as a lifetime (`lifetime_exact`): codes that follow may carry it beyond the lifetime that
it had when it was issued (`not_expires_carried`), but no further than the cap on codes allows.
-/

namespace SignOn.Verification

variable {s : Setup} {subject : Subject} {w start : World} {entries : List Entry}
  {among : Subject → Prop} {issued : List (Int × String)} {lifetime : Nat}

/-- Times, latest first, of which each is less than a lifetime after the next. -/
def Unbroken (lifetime : Nat) (times : List Int) : Prop :=
  times.IsChain fun later earlier : Int => later - earlier < (lifetime : Int)

instance (times : List Int) : Decidable (Unbroken lifetime times) :=
  inferInstanceAs (Decidable (times.IsChain _))

/-- A code that was not issued again is good as long as the codes behind it carry it. -/
theorem good_iff_unbroken {now time : Int} {candidate : String} {later : List (Int × String)}
    (hlater : candidate ∉ later.map (·.2)) :
    Good lifetime now (later ++ (time, candidate) :: issued) candidate ↔
      Unbroken lifetime (now :: later.map (·.1) ++ [time]) := by
  induction later generalizing now with
  | nil => simp [Unbroken, good_cons]
  | cons last rest ih =>
    obtain ⟨last, code⟩ := last
    rw [List.map_cons, List.mem_cons, not_or] at hlater
    rw [List.cons_append, good_cons, or_iff_right hlater.1, ih hlater.2]
    simp only [Unbroken, List.map_cons, List.cons_append, List.isChain_cons_cons]

/-- A good code was issued at most as many lifetimes ago as the bundle has codes. -/
theorem le_of_good {now : Int} {candidate : String} (hlife : 1 ≤ lifetime)
    (h : Good lifetime now issued candidate) : ∃ time, (time, candidate) ∈ issued ∧
      now ≤ time + ((bundled lifetime issued).length : Int) * (lifetime - 1) := by
  have hnonneg : (0 : Int) ≤ lifetime - 1 := by omega
  induction issued generalizing now with
  | nil => exact h.1.elim
  | cons last rest ih =>
    obtain ⟨last, code⟩ := last
    obtain ⟨hlast, hmem⟩ := good_cons.1 h
    rw [bundled_cons, List.length_cons, Nat.cast_add, Int.add_mul, Nat.cast_one, Int.one_mul]
    rcases hmem with rfl | hrest
    · have hmore : (0 : Int) ≤ ((if Stands lifetime last rest then bundled lifetime rest
          else []).length : Int) * (lifetime - 1) := Int.mul_nonneg (Int.natCast_nonneg _) hnonneg
      exact ⟨last, List.mem_cons_self, by linarith⟩
    · obtain ⟨time, hmem, hle⟩ := ih hrest
      rw [if_pos hrest.1]
      exact ⟨time, List.mem_cons_of_mem _ hmem, by linarith⟩

/-- In a bundle of one code, the last code is the only good one. -/
theorem eq_of_good {now last : Int} {code candidate : String}
    (hlength : (bundled lifetime ((last, code) :: issued)).length ≤ 1)
    (h : Good lifetime now ((last, code) :: issued) candidate) : candidate = code := by
  obtain ⟨-, hmem⟩ := h
  rw [bundled_cons] at hlength hmem
  have hrest : (if Stands lifetime last issued then bundled lifetime issued else []) = [] :=
    List.length_eq_zero_iff.1 (by rw [List.length_cons] at hlength; omega)
  rw [hrest, List.mem_singleton] at hmem
  exact hmem

/-- Nothing is good where bundles have no lifetime at all. -/
theorem Kept.lifetime_pos {candidate : String} (h : Kept s subject issued w)
    (hgood : Good (bundleMillis s) w.millis issued candidate) :
    1 ≤ bundleMillis s := by
  cases issued with
  | nil => exact hgood.1.elim
  | cons last rest =>
    have hpast := h.past last List.mem_cons_self
    have hstands := stands_cons.1 hgood.1
    omega

/-- No code is accepted a lifetime or more after it was issued, unless it was issued again. -/
def Expires (s : Setup) (entries : List Entry) (subject : Subject) (w : World) : Prop :=
  ∀ candidate time later earlier,
    accepted subject entries = later ++ (time, candidate) :: earlier →
    time + bundleMillis s ≤ w.millis →
    ((check subject candidate).run w).1 = .ok () → candidate ∈ later.map (·.2)

/-- How long the codes of a subject are good, after these calls. -/
structure Lasts (s : Setup) (entries : List Entry) (subject : Subject) (w : World) : Prop where
  /-- A code that was not issued again is accepted as long as no gap between it, the codes that were
  accepted behind it and now is a lifetime or more. -/
  carried : ∀ candidate time later earlier,
    accepted subject entries = later ++ (time, candidate) :: earlier →
    candidate ∉ later.map (·.2) →
      (((check subject candidate).run w).1 = .ok () ↔
        Unbroken (bundleMillis s) (w.millis :: later.map (·.1) ++ [time]))
  /-- So none is accepted any later than the codes of a full bundle can carry it. -/
  bounded : ∀ candidate, ((check subject candidate).run w).1 = .ok () →
    ∃ time, (time, candidate) ∈ accepted subject entries ∧
      w.millis ≤ time + (s.settings.verification.maxCodes : Int) * ((bundleMillis s : Int) - 1)
  /-- Where no code can follow, none outlives its lifetime. -/
  expires : s.settings.verification.maxCodes ≤ 1 → Expires s entries subject w

/-- However codes were issued, checked and voided, they last exactly as long as they are carried. -/
theorem lifetime_exact (hs : Begins among start) (h : UseHistory s among start entries w)
    (hin : among subject) (hfree : fixedCode? s subject = none) : Lasts s entries subject w := by
  have hw := h.between hs
  have hcap := (hw.kept subject hin).capped hfree
  have hcarried : ∀ candidate time later earlier,
      accepted subject entries = later ++ (time, candidate) :: earlier →
      candidate ∉ later.map (·.2) → (((check subject candidate).run w).1 = .ok () ↔
        Unbroken (bundleMillis s) (w.millis :: later.map (·.1) ++ [time])) := by
    intro candidate time later earlier hsplit hlater
    rw [hw.accepts_iff hin, hsplit, good_iff_unbroken hlater]
  refine ⟨hcarried, fun candidate haccepted => ?_, fun hmax => ?_⟩
  · have hgood := (hw.accepts_iff hin candidate).1 haccepted
    have hlife := (hw.kept subject hin).lifetime_pos hgood
    obtain ⟨time, hmem, hle⟩ := le_of_good hlife hgood
    have hcodes : ((bundled (bundleMillis s) (accepted subject entries)).length : Int)
        * ((bundleMillis s : Int) - 1)
          ≤ s.settings.verification.maxCodes * ((bundleMillis s : Int) - 1) :=
      Int.mul_le_mul_of_nonneg_right (Int.ofNat_le.2 hcap) (by omega)
    exact ⟨time, hmem, by linarith⟩
  · intro candidate time later earlier hsplit hlate haccepted
    have hgood := (hw.accepts_iff hin candidate).1 haccepted
    rw [hsplit] at hgood hcap
    cases later with
    | nil =>
      have hstands := stands_cons.1 hgood.1
      omega
    | cons last rest =>
      rw [eq_of_good (hcap.trans hmax) hgood]
      exact List.mem_cons_self

/-- Two codes go out, a minute and a quarter of a second apart. -/
def carriedEntries : List Entry :=
  [entry Sample.setup ada .issue
      (sampleAt 1060250 (issuedAt Sample.setup 1000000 ada Sample.world)),
    entry Sample.setup ada .issue (sampleAt 1000000 Sample.world)]

/-- The world five minutes after the first code. -/
def carriedWorld : World :=
  sampleAt 1300000
    (issuedAt Sample.setup 1060250 ada (issuedAt Sample.setup 1000000 ada Sample.world))

theorem begins_carried : Begins (· = ada) Sample.world where
  apart := by rintro a b rfl rfl -; rfl
  steady := ⟨fun _ => rfl, rfl⟩
  report := ⟨fun _ _ h => (by cases h), fun _ _ h => (by cases h)⟩
  empty := rfl

theorem useHistory_carried :
    UseHistory Sample.setup (· = ada) Sample.world carriedEntries carriedWorld := by
  have hstart : UseHistory Sample.setup (· = ada) Sample.world [] Sample.world := .start
  have hfirst := hstart.issuedAt begins_carried 1000000 (by decide) rfl
  have hsecond := hfirst.issuedAt begins_carried 1060250 (by decide +kernel) rfl
  exact hsecond.until begins_carried (by decide +kernel)

/-- The second code carries the first one beyond its five minutes. -/
theorem lifetime_exact_carried :
    UseHistory Sample.setup (· = ada) Sample.world carriedEntries carriedWorld ∧
    fixedCode? Sample.setup ada = none ∧
    accepted ada carriedEntries = [(1060250, "100001"), (1000000, "100000")] ∧
    Lasts Sample.setup carriedEntries ada carriedWorld :=
  ⟨useHistory_carried, rfl, by decide +kernel,
    lifetime_exact begins_carried useHistory_carried rfl rfl⟩

/-- A code may be accepted although it was issued a whole lifetime ago, and not again. -/
theorem not_expires_carried :
    UseHistory Sample.setup (· = ada) Sample.world carriedEntries carriedWorld ∧
      ¬ Expires Sample.setup carriedEntries ada carriedWorld := by
  refine ⟨useHistory_carried, fun h => ?_⟩
  have hissued : accepted ada carriedEntries = [(1060250, "100001")] ++ [(1000000, "100000")] := by
    decide +kernel
  have haccepted : ((check ada "100000").run carriedWorld).1 = .ok () := by decide +kernel
  have hlate : (1000000 : Int) + bundleMillis Sample.setup ≤ carriedWorld.millis := by
    decide +kernel
  exact absurd (h _ _ _ _ hissued hlate haccepted) (by decide)

end SignOn.Verification
