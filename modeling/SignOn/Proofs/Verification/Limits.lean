import SignOn.Proofs.Session.Book
import SignOn.Proofs.Verification.Issuing
/-!
The limit on one-time codes over whole runs. No clock is stored with a bundle other than the second
of its last code; its lifetime is renewed by every write, and it is gone when nobody has written for
that long. Seen from outside this is a rule about the times at which codes were accepted
(`Allows`), and the rule bounds how many codes go out in any stretch of time (`countP_window_le`).

Times are milliseconds. A bundle lives to the millisecond, while the interval between two codes is
counted in whole seconds.
-/

namespace SignOn.Verification

open SignOn.Keyspace

/-! ## Times -/

/-- How many codes the bundle holds after codes were accepted at these times, latest first. A code
begins a new bundle when the lifetime of a bundle has passed since the code before. -/
def inBundle (lifetime : Int) : List Int → Nat
  | [] => 0
  | [_] => 1
  | time :: last :: rest =>
    if lifetime ≤ time - last then 1 else inBundle lifetime (last :: rest) + 1

/-- Whether a code is accepted now, after codes were accepted at these times, latest first. -/
def Allows (v : VerificationSettings) (now : Int) : List Int → Prop
  | [] => True
  | last :: rest => v.bundleTtl * 1000 ≤ now - last ∨
    (inBundle (v.bundleTtl * 1000) (last :: rest) < v.maxCodes ∧
      v.minInterval ≤ now / 1000 - last / 1000)

/-- Times in order, latest first, each of which was allowed after those before it. -/
def Regular (v : VerificationSettings) : List Int → Prop
  | [] => True
  | time :: rest => Allows v time rest ∧ (∀ t ∈ rest, t ≤ time) ∧ Regular v rest

variable {v : VerificationSettings} {times : List Int}

/-- A bundle never holds more codes than it may. -/
theorem inBundle_le (hcodes : 1 ≤ v.maxCodes) (h : Regular v times) :
    inBundle (v.bundleTtl * 1000) times ≤ v.maxCodes := by
  cases times with
  | nil => exact Nat.zero_le _
  | cons time rest =>
    cases rest with
    | nil => exact hcodes
    | cons last rest =>
      rw [inBundle]
      split
      · exact hcodes
      · next hgap =>
        rcases h.1 with hnew | ⟨hroom, -⟩
        · exact absurd hnew hgap
        · exact hroom

/-- What was accepted less than a lifetime before the last code is in the bundle of that code. -/
theorem countP_le_inBundle {lifetime : Int} {time first : Int} {rest : List Int}
    (hr : Regular v (time :: rest)) (h : time < first + lifetime) :
    (time :: rest).countP (fun t => first ≤ t) ≤ inBundle lifetime (time :: rest) := by
  induction rest generalizing time with
  | nil => exact List.countP_le_length
  | cons last rest ih =>
    have hlast : last ≤ time := hr.2.1 last List.mem_cons_self
    have hhead : (if decide (first ≤ time) = true then 1 else 0) ≤ 1 := by split <;> omega
    rw [List.countP_cons, inBundle]
    by_cases hgap : lifetime ≤ time - last
    · have hnone : (last :: rest).countP (fun t => first ≤ t) = 0 := by
        rw [List.countP_eq_zero]
        intro t ht
        have hle : t ≤ last := by
          rcases List.mem_cons.1 ht with rfl | ht
          · exact Int.le_refl _
          · exact hr.2.2.2.1 t ht
        simp only [decide_eq_true_eq]
        omega
      rw [hnone, if_pos hgap]
      omega
    · have hrest := ih hr.2.2 (by omega)
      rw [if_neg hgap]
      omega

/-- In any half-open stretch of one lifetime, no more codes are accepted than a bundle may hold. -/
theorem countP_window_le (hcodes : 1 ≤ v.maxCodes) (h : Regular v times) (first : Int) :
    times.countP (fun t => first ≤ t ∧ t < first + v.bundleTtl * 1000) ≤ v.maxCodes := by
  induction times with
  | nil => exact Nat.zero_le _
  | cons time rest ih =>
    by_cases hin : time < first + v.bundleTtl * 1000
    · calc (time :: rest).countP (fun t => first ≤ t ∧ t < first + v.bundleTtl * 1000)
          ≤ (time :: rest).countP (fun t => first ≤ t) :=
            List.countP_mono_left fun t _ ht => by
              simp only [decide_eq_true_eq] at ht ⊢
              exact ht.1
        _ ≤ inBundle (v.bundleTtl * 1000) (time :: rest) := countP_le_inBundle h hin
        _ ≤ v.maxCodes := inBundle_le hcodes h
    · rw [List.countP_cons_of_neg (by simp [hin])]
      exact ih h.2.2

/-- Any two codes are apart by the least interval, or by the lifetime of a bundle. -/
theorem Regular.pairwise (h : Regular v times) :
    times.Pairwise fun later earlier =>
      min v.minInterval v.bundleTtl ≤ later / 1000 - earlier / 1000 := by
  induction times with
  | nil => exact .nil
  | cons time rest ih =>
    refine List.pairwise_cons.2 ⟨fun t ht => ?_, ih h.2.2⟩
    cases rest with
    | nil => cases ht
    | cons last rest =>
      have hgap : min v.minInterval v.bundleTtl ≤ time / 1000 - last / 1000 := by
        rcases h.1 with hnew | ⟨-, hinterval⟩ <;> omega
      rcases List.mem_cons.1 ht with rfl | ht
      · exact hgap
      · have hle : t ≤ last := h.2.2.2.1 t ht
        omega

/-! ## One call -/

variable {s : Setup} {subject : Subject} {bundle : Bundle} {w w' : World}

/-- The cache answers every command. -/
structure Steady (w : World) : Prop where
  up : ∀ n, w.outside.cacheFails n = false
  wins : w.lostSwaps = 0

/-- Whether the code that is drawn next gets stored if it is issued now. -/
def Accepts (s : Setup) (subject : Subject) (w : World) : Prop :=
  held subject ((issue s subject).run w).2
    = some ((held subject w).getD [] ++ [toString w.nextCode])

instance : Decidable (Accepts s subject w) := inferInstanceAs (Decidable (_ = _))

/-- The world after the bundle of a subject was read. -/
def looked (subject : Subject) (w : World) : World :=
  { w with
    cache := w.cache.settle w.millis (Bundles.key subject)
    cacheCalls := w.cacheCalls + 1 }

/-- The world after a bundle was written. -/
def rewritten (s : Setup) (subject : Subject) (bundle : Bundle) (w : World) : World :=
  { w with
    cache := w.cache.write w.millis (Bundles.key subject) bundle.encode (some s.bundleLifetime)
    cacheCalls := w.cacheCalls + 1 }

/-- Whether a bundle takes one more code now. -/
def Takes (s : Setup) (now : Int) (bundle : Bundle) : Prop :=
  bundle.isFull s.settings.verification.maxCodes = false ∧
    bundle.isFrequent now s.settings.verification.minInterval = false

theorem Steady.looked (h : Steady w) : Steady (looked subject w) := ⟨h.up, h.wins⟩

theorem Steady.perform (h : Steady w) (cmd : Cache.Command) : w.perform (.cache cmd)
    = (.ok (w.cache.perform w.millis cmd).1,
      { w with cache := (w.cache.perform w.millis cmd).2, cacheCalls := w.cacheCalls + 1 }) := by
  simp only [World.perform, World.performCache, h.up, h.wins]
  rfl

theorem Steady.act (h : Steady w) (act : Act) : Steady (w.perform act).2 := by
  refine ⟨fun n => by rw [World.perform_outside]; exact h.up n, ?_⟩
  cases act with
  | cache cmd => rw [h.perform]; exact h.wins
  | exchange code => simp only [World.perform]; split <;> exact h.wins
  | mail address code => simp only [World.perform]; split <;> exact h.wins
  | text phone message => simp only [World.perform]; split <;> exact h.wins
  | _ => exact h.wins

theorem Steady.run {α : Type} (h : Steady w) (f : Flow α) : Steady (f.run w).2 := by
  induction f generalizing w with
  | done value => exact h
  | fail failure => exact h
  | step act next ih => exact ih _ (h.act act)

theorem run_load (hw : Steady w) : (Bundles.load subject).run w
    = (Bundles.ofValue (w.cache.read? w.millis (Bundles.key subject)), looked subject w) := by
  rw [Bundles.load, Flow.run_bind_of_ok ((Flow.run_cache _ _).trans (hw.perform _)),
    Flow.run_ofExcept]
  rfl

/-- Where the loaded bundle still stands, another one takes its place. -/
theorem run_replace (hw : Steady w) {loaded : Bundles.Loaded}
    (hraw : w.cache.read? w.millis (Bundles.key subject) = loaded.raw) :
    (Bundles.replace s.bundleLifetime subject loaded bundle).run w
      = (.ok true, rewritten s subject bundle w) := by
  rw [Bundles.replace, Flow.run_cache, hw.perform, Cache.Memory.perform, if_pos hraw]
  rfl

theorem run_addCode (h : Takes s w.now bundle) (code : String) :
    (addCode s code bundle).run w = (.ok (bundle.insert code w.now), w) := by
  simp only [addCode, Flow.now, Flow.step_bind, Flow.run, World.perform, Flow.done_bind, h.1, h.2]
  rfl

theorem run_addCode_error (h : ¬ Takes s w.now bundle) (code : String) :
    (addCode s code bundle).run w = (.error .codesLimit, w) := by
  have hb : (bundle.isFull s.settings.verification.maxCodes ||
      bundle.isFrequent w.now s.settings.verification.minInterval) = true := by
    simpa [Takes, Classical.or_iff_not_imp_left] using h
  simp only [addCode, Flow.now, Flow.step_bind, Flow.run, World.perform, Flow.done_bind, hb]
  rfl

section Store

variable {loaded : Bundles.Loaded} (hw : Steady w)
  (hl : Bundles.ofValue (w.cache.read? w.millis (Bundles.key subject)) = .ok loaded)

include hw hl

/-- A bundle that takes the code is written with it, in the first attempt. -/
theorem run_store (h : Takes s w.now loaded.bundle) (code : String) (attempts : Nat) :
    (store s subject (addCode s code) (attempts + 1)).run w
      = (.ok (), rewritten s subject (loaded.bundle.insert code w.now) (looked subject w)) := by
  have hload : (Bundles.load subject).run w = (.ok loaded, looked subject w) := by
    rw [run_load hw, hl]
  have hraw : (looked subject w).cache.read? (looked subject w).millis (Bundles.key subject)
      = loaded.raw := by
    rw [ofValue_raw hl]
    exact Cache.Memory.read?_settle
  have hadd := run_addCode (w := looked subject w) h code
  rw [store, Flow.run_bind_of_ok hload, Flow.run_bind_of_ok hadd,
    Flow.run_bind_of_ok (run_replace hw.looked hraw)]
  rfl

/-- A bundle that does not take the code stays. -/
theorem run_store_error (h : ¬ Takes s w.now loaded.bundle) (code : String) (attempts : Nat) :
    (store s subject (addCode s code) (attempts + 1)).run w
      = (.error .codesLimit, looked subject w) := by
  have hload : (Bundles.load subject).run w = (.ok loaded, looked subject w) := by
    rw [run_load hw, hl]
  rw [store, Flow.run_bind_of_ok hload]
  exact Flow.run_bind_of_error (run_addCode_error (w := looked subject w) h code)

end Store

theorem run_deliver_cache (code : String) :
    ((deliver s subject code).run w).2.cache = w.cache := by
  cases subject <;> simp only [deliver, Flow.mail, Flow.text, Flow.run, Flow.run_ofExcept] <;>
    exact w.perform_cache_eq (by intro cmd h; cases h)

theorem Steady.drawn (h : Steady w) (n : Nat) : Steady { w with drawn := n } := ⟨h.up, h.wins⟩

section Issue

variable {loaded : Bundles.Loaded} (hfree : fixedCode? s subject = none) (hw : Steady w)
  (hl : Bundles.ofValue (w.cache.read? w.millis (Bundles.key subject)) = .ok loaded)

include hfree hw hl

/-- A code that the bundle takes is stored before it is delivered. -/
theorem run_issue (h : Takes s w.now loaded.bundle) : (issue s subject).run w
    = (deliver s subject (toString w.nextCode)).run
      (rewritten s subject (loaded.bundle.insert (toString w.nextCode) w.now)
        (looked subject { w with drawn := w.drawn + 1 })) := by
  have hstore := run_store (hw.drawn (w.drawn + 1)) hl h (toString w.nextCode) 2
  simp only [issue, hfree, Flow.newCode, Flow.step_bind, Flow.run, World.perform, Flow.done_bind]
  exact Flow.run_bind_of_ok hstore

theorem run_issue_error (h : ¬ Takes s w.now loaded.bundle) : (issue s subject).run w
    = (.error .codesLimit, looked subject { w with drawn := w.drawn + 1 }) := by
  have hstore := run_store_error (hw.drawn (w.drawn + 1)) hl h (toString w.nextCode) 2
  simp only [issue, hfree, Flow.newCode, Flow.step_bind, Flow.run, World.perform, Flow.done_bind]
  exact Flow.run_bind_of_error hstore

end Issue

/-! ## Bundles over time -/

/-- How many milliseconds a bundle is to last behind its last code. -/
def bundleMillis (s : Setup) : Nat := s.settings.verification.bundleTtl * 1000

/-- What callers find from now on, after codes were accepted at these times, latest first: the
bundle of the last code, until its lifetime is over. -/
def Keeps (s : Setup) (subject : Subject) (w : World) : List Int → Prop
  | [] => ∀ t, w.millis ≤ t → w.cache.read? t (Bundles.key subject) = none
  | last :: rest => 0 < last / 1000 ∧ last ≤ w.millis ∧ ∃ codes : List String,
    codes.length = inBundle (s.settings.verification.bundleTtl * 1000) (last :: rest) ∧
      ∀ t, w.millis ≤ t → w.cache.read? t (Bundles.key subject) =
        if t < Cache.Memory.expiry last s.bundleLifetime then
          some (Bundle.encode ⟨codes, last / 1000⟩) else none

/-- What a caller finds now, after codes were accepted at these times. -/
structure Finds (s : Setup) (subject : Subject) (w : World) (times : List Int)
    (loaded : Bundles.Loaded) : Prop where
  loads : Bundles.ofValue (w.cache.read? w.millis (Bundles.key subject)) = .ok loaded
  takes_iff : Takes s w.now loaded.bundle ↔ Allows s.settings.verification w.millis times
  length : loaded.bundle.codes.length + 1
    = inBundle (s.settings.verification.bundleTtl * 1000) (w.millis :: times)

/-- The lifetime of a bundle is over when that much time has passed since its last code. -/
theorem millis_lt_bundleExpiry_iff {last : Int} (h : Calendar.firstSecond * 1000 ≤ last) :
    w.millis < Cache.Memory.expiry last s.bundleLifetime ↔
      w.millis - last < s.settings.verification.bundleTtl * 1000 := by
  rw [w.millis_lt_expiry_iff h, Setup.bundleLifetime, Cache.Lifetime.millis_ofSeconds]
  omega

/-- Times past the epoch have a date. -/
theorem firstSecond_le_of_pos {last : Int} (h : 0 < last / 1000) :
    Calendar.firstSecond * 1000 ≤ last := by
  have hfirst : Calendar.firstSecond = -8334601228800 := rfl
  omega

theorem Takes.empty (hcodes : 1 ≤ s.settings.verification.maxCodes) (now : Int) :
    Takes s now {} := by
  refine ⟨?_, rfl⟩
  simp only [Bundle.isFull, List.length_nil, decide_eq_false_iff_not]
  omega

/-- The rule on times is what a bundle that is still there decides. -/
theorem takes_iff {codes : List String} {last : Int} {rest : List Int} (hlast : 0 < last / 1000)
    (hlength : codes.length = inBundle (s.settings.verification.bundleTtl * 1000) (last :: rest))
    (hlive : w.millis - last < s.settings.verification.bundleTtl * 1000) :
    Takes s w.now ⟨codes, last / 1000⟩ ↔
      Allows s.settings.verification w.millis (last :: rest) := by
  have hne : last / 1000 ≠ 0 := by omega
  change Takes s (w.millis / 1000) ⟨codes, last / 1000⟩ ↔ _
  simp only [Takes, Allows, Bundle.isFull, Bundle.isFrequent, hlength, decide_eq_false_iff_not,
    Bool.and_eq_false_iff, bne_eq_false_iff_eq, hne, false_or]
  omega

theorem Keeps.finds (hcodes : 1 ≤ s.settings.verification.maxCodes)
    (h : Keeps s subject w times) : ∃ loaded, Finds s subject w times loaded := by
  cases times with
  | nil =>
    refine ⟨{}, ?_, ?_, rfl⟩
    · rw [h _ (Int.le_refl _)]; rfl
    · exact iff_of_true (.empty hcodes _) trivial
  | cons last rest =>
    obtain ⟨hpos, hle, codes, hlength, hread⟩ := h
    have hread := hread _ (Int.le_refl _)
    have hexpiry := millis_lt_bundleExpiry_iff (s := s) (w := w) (firstSecond_le_of_pos hpos)
    by_cases hlive : w.millis - last < s.settings.verification.bundleTtl * 1000
    · have hdecode : Bundle.decode (Bundle.encode ⟨codes, last / 1000⟩)
          = .ok ⟨codes, last / 1000⟩ := by
        have hnow := w.now_bounds
        have hpast : last / 1000 ≤ w.now := Int.ediv_le_ediv (by decide) hle
        apply decode_encode <;> dsimp only <;> omega
      rw [if_pos (hexpiry.2 hlive)] at hread
      refine ⟨⟨some (Bundle.encode ⟨codes, last / 1000⟩), ⟨codes, last / 1000⟩⟩, ?_,
        takes_iff hpos hlength hlive, ?_⟩
      · rw [hread, Bundles.ofValue, hdecode]
      · rw [inBundle, if_neg (by omega), ← hlength]
    · rw [if_neg (mt hexpiry.1 hlive)] at hread
      refine ⟨{}, ?_, ?_, ?_⟩
      · rw [hread]; rfl
      · exact iff_of_true (.empty hcodes _) (.inl (by omega))
      · rw [inBundle, if_pos (by omega)]; rfl

theorem Keeps.later (h : Keeps s subject w times) (hle : w.millis ≤ w'.millis)
    (hread : ∀ t, w'.millis ≤ t →
      w'.cache.read? t (Bundles.key subject) = w.cache.read? t (Bundles.key subject)) :
    Keeps s subject w' times := by
  cases times with
  | nil =>
    intro t ht
    rw [hread t ht]
    exact h t (Int.le_trans hle ht)
  | cons last rest =>
    obtain ⟨hpos, hpast, codes, hlength, hkeep⟩ := h
    refine ⟨hpos, Int.le_trans hpast hle, codes, hlength, fun t ht => ?_⟩
    rw [hread t ht]
    exact hkeep t (Int.le_trans hle ht)

/-- Looking at a bundle is not seen. -/
theorem Keeps.looked (h : Keeps s subject w times) : Keeps s subject (looked subject w) times :=
  h.later (Int.le_refl _) fun _ ht => Cache.Memory.read?_settle_of_le ht

/-- A code that is written becomes the last one of its bundle. -/
theorem Keeps.rewritten {codes : List String} (hpos : 0 < w.now)
    (hlength : codes.length
      = inBundle (s.settings.verification.bundleTtl * 1000) (w.millis :: times)) :
    Keeps s subject (rewritten s subject ⟨codes, w.now⟩ w) (w.millis :: times) :=
  ⟨hpos, Int.le_refl _, codes, hlength, fun t _ => Cache.Memory.read?_write_self _ _ t⟩

theorem held_rewritten (httl : 1 ≤ s.settings.verification.bundleTtl) (hpos : 0 < w.now)
    (codes : List String) : held subject (rewritten s subject ⟨codes, w.now⟩ w) = some codes := by
  have hnow := w.now_bounds
  have hlive : w.millis < Cache.Memory.expiry w.millis s.bundleLifetime :=
    (millis_lt_bundleExpiry_iff (firstSecond_le_of_pos hpos)).2 (by omega)
  have hread : (rewritten s subject ⟨codes, w.now⟩ w).cache.read? w.millis (Bundles.key subject)
      = some (Bundle.encode ⟨codes, w.now⟩) :=
    (Cache.Memory.read?_write_self _ _ _).trans (if_pos hlive)
  have hdecode : Bundle.decode (Bundle.encode ⟨codes, w.now⟩) = .ok ⟨codes, w.now⟩ :=
    decode_encode hnow.1 hnow.2
  change ((rewritten s subject ⟨codes, w.now⟩ w).cache.read? w.millis _).bind codesOf = _
  rw [hread, Option.bind_some, codesOf, hdecode]
  rfl

/-- The service in use for subjects that are not free: bundles hold at least one code, for at least
one second. -/
structure Limits (s : Setup) (subject : Subject) : Prop where
  free : fixedCode? s subject = none
  codes : 1 ≤ s.settings.verification.maxCodes
  lifetime : 1 ≤ s.settings.verification.bundleTtl

/-- A code that is allowed is stored. -/
theorem accepts_of_allows (hs : Limits s subject) (hw : Steady w) (hpos : 0 < w.now)
    (h : Keeps s subject w times) (ha : Allows s.settings.verification w.millis times) :
    Accepts s subject w ∧ Keeps s subject ((issue s subject).run w).2 (w.millis :: times) ∧
      (held subject ((issue s subject).run w).2).map List.length
        = some (inBundle (s.settings.verification.bundleTtl * 1000) (w.millis :: times)) := by
  obtain ⟨loaded, hl, htakes, hlength⟩ := h.finds hs.codes
  set codes := loaded.bundle.codes ++ [toString w.nextCode]
  set stored := rewritten s subject ⟨codes, w.now⟩ (looked subject { w with drawn := w.drawn + 1 })
  have hsize : codes.length
      = inBundle (s.settings.verification.bundleTtl * 1000) (w.millis :: times) := by
    rw [List.length_append, ← hlength]; rfl
  have hrun := run_issue hs.free hw hl (htakes.2 ha)
  have hmillis : ((issue s subject).run w).2.millis = w.millis := Flow.run_millis _
  have hcache : ((issue s subject).run w).2.cache = stored.cache := by
    rw [hrun, run_deliver_cache]; rfl
  have hheld : held subject ((issue s subject).run w).2 = some codes := calc
    held subject ((issue s subject).run w).2
        = held subject stored := held_eq_of_cache hmillis hcache
    _ = some codes := held_rewritten (w := looked subject _) hs.lifetime hpos codes
  have hkeeps : Keeps s subject stored (w.millis :: times) :=
    .rewritten (w := looked subject _) hpos hsize
  refine ⟨?_, hkeeps.later (Int.le_of_eq hmillis.symm) (fun t _ => by rw [hcache]), ?_⟩
  · rw [Accepts, hheld, held, codesOf_of_ofValue (by rw [← ofValue_raw hl]; exact hl)]
  · rw [hheld, Option.map_some, hsize]

/-- A code that is not allowed is refused, and nothing is stored. -/
theorem refused_of_not_allows (hs : Limits s subject) (hw : Steady w)
    (h : Keeps s subject w times) (ha : ¬ Allows s.settings.verification w.millis times) :
    ¬ Accepts s subject w ∧ ((issue s subject).run w).1 = .error .codesLimit ∧
      Keeps s subject ((issue s subject).run w).2 times := by
  obtain ⟨loaded, hl, htakes, -⟩ := h.finds hs.codes
  have hrun := run_issue_error hs.free hw hl (fun ht => ha (htakes.1 ht))
  have hsame : held subject ((issue s subject).run w).2 = held subject w := by
    rw [hrun]
    exact held_eq_of_read? rfl Cache.Memory.read?_settle
  refine ⟨fun haccepts => ?_, by rw [hrun], ?_⟩
  · rw [Accepts, hsame] at haccepts
    have hlength := congrArg (fun codes => (codes.getD []).length) haccepts
    simp at hlength
  · rw [hrun]
    exact h.looked (w := { w with drawn := w.drawn + 1 })

/-! ## Calls one after another -/

/-- A subject to whom no code was issued, in a world whose clock is past the epoch. -/
structure Blank (subject : Subject) (w : World) : Prop where
  steady : Steady w
  now_pos : 0 < w.now
  empty : ∀ t, w.millis ≤ t → w.cache.read? t (Bundles.key subject) = none

/-- Time passes. Whatever else happens, callers find the same under the key of the subject. -/
structure Waits (subject : Subject) (w w' : World) : Prop where
  steady : Steady w'
  later : w.millis ≤ w'.millis
  same : ∀ t, w'.millis ≤ t →
    w'.cache.read? t (Bundles.key subject) = w.cache.read? t (Bundles.key subject)

/-- Codes are issued to a subject and checked, one call after another. The times are those at which
a code was accepted, latest first. -/
inductive Timeline (s : Setup) (subject : Subject) (start : World) : List Int → World → Prop where
  | start : Timeline s subject start [] start
  | wait {times : List Int} {w w' : World} (h : Timeline s subject start times w)
      (hw : Waits subject w w') : Timeline s subject start times w'
  | check {times : List Int} {w : World} (h : Timeline s subject start times w)
      (candidate : String) : Timeline s subject start times ((check subject candidate).run w).2
  | accepted {times : List Int} {w : World} (h : Timeline s subject start times w)
      (ha : Accepts s subject w) :
      Timeline s subject start (w.millis :: times) ((issue s subject).run w).2
  | refused {times : List Int} {w : World} (h : Timeline s subject start times w)
      (ha : ¬ Accepts s subject w) : Timeline s subject start times ((issue s subject).run w).2

variable {start : World}

theorem run_check (hw : Steady w) (candidate : String) :
    ((check subject candidate).run w).2 = looked subject w := by
  have hload : (Bundles.load subject).run w = _ := run_load hw
  cases hl : Bundles.ofValue (w.cache.read? w.millis (Bundles.key subject)) with
  | ok loaded =>
    rw [hl] at hload
    rw [check, Flow.run_bind_of_ok hload, Flow.run_ensure_world]
  | error e =>
    rw [hl] at hload
    rw [check, Flow.run_bind_of_error hload]

/-- What holds between two calls. -/
structure Meets (s : Setup) (subject : Subject) (times : List Int) (w : World) : Prop where
  steady : Steady w
  now_pos : 0 < w.now
  keeps : Keeps s subject w times
  regular : Regular s.settings.verification times
  past : ∀ t ∈ times, t ≤ w.millis

theorem accepts_iff (hs : Limits s subject) (h : Meets s subject times w) :
    Accepts s subject w ↔ Allows s.settings.verification w.millis times := by
  by_cases ha : Allows s.settings.verification w.millis times
  · exact iff_of_true (accepts_of_allows hs h.steady h.now_pos h.keeps ha).1 ha
  · exact iff_of_false (refused_of_not_allows hs h.steady h.keeps ha).1 ha

theorem Meets.run {f : Flow Unit} (h : Meets s subject times w)
    (hkeeps : Keeps s subject (f.run w).2 times) : Meets s subject times (f.run w).2 where
  steady := h.steady.run f
  now_pos := by rw [Flow.run_now]; exact h.now_pos
  keeps := hkeeps
  regular := h.regular
  past := by rw [Flow.run_millis]; exact h.past

/-- Calls keep to the rule. -/
theorem Timeline.meets (hs : Limits s subject) (hstart : Blank subject start)
    (h : Timeline s subject start times w) : Meets s subject times w := by
  induction h with
  | start => exact ⟨hstart.steady, hstart.now_pos, hstart.empty, trivial, by simp⟩
  | wait h hw ih =>
    exact ⟨hw.steady, Int.lt_of_lt_of_le ih.now_pos (World.now_mono hw.later),
      ih.keeps.later hw.later hw.same,
      ih.regular, fun t ht => Int.le_trans (ih.past t ht) hw.later⟩
  | check h candidate ih =>
    refine ih.run ?_
    rw [run_check ih.steady]
    exact ih.keeps.looked
  | @accepted times w h ha ih =>
    have hallows := (accepts_iff hs ih).1 ha
    obtain ⟨-, hkeeps, -⟩ := accepts_of_allows hs ih.steady ih.now_pos ih.keeps hallows
    refine ⟨ih.steady.run _, ?_, hkeeps, ⟨hallows, ih.past, ih.regular⟩, ?_⟩
    · rw [Flow.run_now]; exact ih.now_pos
    · rw [Flow.run_millis]
      intro t ht
      rcases List.mem_cons.1 ht with rfl | ht
      · exact Int.le_refl _
      · exact ih.past t ht
  | refused h ha ih =>
    have hallows := mt (accepts_iff hs ih).2 ha
    exact ih.run (refused_of_not_allows hs ih.steady ih.keeps hallows).2.2

/-- The limit on the codes of a subject, after codes were accepted at these times. -/
structure Limited (s : Setup) (subject : Subject) (times : List Int) (w : World) : Prop where
  /-- A code is stored exactly where the rule on times allows it, -/
  accepts_iff : Accepts s subject w ↔ Allows s.settings.verification w.millis times
  /-- and refused everywhere else. -/
  refuses : ¬ Accepts s subject w → ((issue s subject).run w).1 = .error .codesLimit
  /-- The bundle that holds it has begun when the rule says so. -/
  holds : Accepts s subject w →
    (held subject ((issue s subject).run w).2).map List.length
      = some (inBundle (s.settings.verification.bundleTtl * 1000) (w.millis :: times))
  /-- No stretch of one lifetime has seen more codes than a bundle may hold. -/
  window : ∀ first : Int,
    times.countP (fun t => first ≤ t ∧ t < first + s.settings.verification.bundleTtl * 1000)
      ≤ s.settings.verification.maxCodes
  /-- Codes were accepted at some distance from each other. -/
  apart : times.Pairwise fun later earlier =>
    min s.settings.verification.minInterval s.settings.verification.bundleTtl
      ≤ later / 1000 - earlier / 1000

/-- However codes are issued and checked, the limit is exact. -/
theorem limit_exact (hs : Limits s subject) (hstart : Blank subject start)
    (h : Timeline s subject start times w) : Limited s subject times w := by
  have hmeets := h.meets hs hstart
  refine ⟨accepts_iff hs hmeets, fun ha => ?_, fun ha => ?_, ?_, hmeets.regular.pairwise⟩
  · have hallows := mt (accepts_iff hs hmeets).2 ha
    exact (refused_of_not_allows hs hmeets.steady hmeets.keeps hallows).2.1
  · have hallows := (accepts_iff hs hmeets).1 ha
    exact (accepts_of_allows hs hmeets.steady hmeets.now_pos hmeets.keeps hallows).2.2
  · exact fun first => countP_window_le hs.codes hmeets.regular first

/-- Who asks for codes in the worked run. -/
abbrev ada : Subject := .email "ada@example.org"

/-- The world at a time. -/
def sampleAt (clock : Int) (w : World) : World := { w with clock := clock }

/-- The world after a code was issued at a time. -/
def sampleAfter (clock : Int) (w : World) : World :=
  ((issue Sample.setup ada).run (sampleAt clock w)).2

/-- The world after three codes were asked for, the last one within the lifetime of the bundle. -/
def sampleLate : World :=
  sampleAfter 1359999 (sampleAfter 1060000 (sampleAfter 1000750 Sample.world))

/-- Two codes go out, one minute apart in whole seconds. A third one within the lifetime of the
bundle is refused, and the next one is due when that lifetime has passed since the second. -/
theorem limit_exact_renewed :
    Timeline Sample.setup ada Sample.world [1060000, 1000750] (sampleAt 1360000 sampleLate) ∧
    Limited Sample.setup ada [1060000, 1000750] (sampleAt 1360000 sampleLate) := by
  have hs : Limits Sample.setup ada := ⟨rfl, by decide, by decide⟩
  have hsteady : Steady Sample.world := ⟨fun _ => rfl, rfl⟩
  have hstart : Blank ada Sample.world :=
    ⟨hsteady, by decide, fun _ _ => rfl⟩
  have hwait {w : World} (clock : Int) (hw : Steady w)
      (hle : w.millis ≤ (sampleAt clock w).millis) : Waits ada w (sampleAt clock w) :=
    ⟨⟨hw.up, hw.wins⟩, hle, fun _ _ => rfl⟩
  have hafter {w : World} (clock : Int) (hw : Steady w) : Steady (sampleAfter clock w) :=
    Steady.run (w := sampleAt clock w) ⟨hw.up, hw.wins⟩ _
  have hfirst : Timeline Sample.setup ada Sample.world [1000750]
      (sampleAfter 1000750 Sample.world) :=
    (Timeline.start.wait (hwait 1000750 hsteady (by decide))).accepted (by decide +kernel)
  have hsecond : Timeline Sample.setup ada Sample.world [1060000, 1000750]
      (sampleAfter 1060000 (sampleAfter 1000750 Sample.world)) :=
    (hfirst.wait (hwait 1060000 (hafter 1000750 hsteady) (by decide +kernel))).accepted
      (by decide +kernel)
  have hlate := hafter 1060000 (hafter 1000750 hsteady)
  have hthird : Timeline Sample.setup ada Sample.world [1060000, 1000750] sampleLate :=
    (hsecond.wait (hwait 1359999 hlate (by decide +kernel))).refused (by decide +kernel)
  have hdue := hthird.wait (hwait 1360000 (hafter 1359999 hlate) (by decide +kernel))
  exact ⟨hdue, limit_exact hs hstart hdue⟩

end SignOn.Verification
