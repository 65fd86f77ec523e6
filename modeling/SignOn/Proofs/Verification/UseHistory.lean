import SignOn.Proofs.Flow.Readable
import SignOn.Proofs.Verification.Limits
/-!
What the cache knows of the past. Codes are issued to any number of subjects, checked and voided,
one call after another; an entry is kept of every call. Which bundle stands under the key of a
subject, and for how long, follows from the entries alone (`UseHistory.reads`): the codes that were
accepted since they were last voided, back to the first one that was a lifetime or more behind the
next.
-/

namespace SignOn.Verification

open SignOn.Keyspace

/-! ## Entries -/

/-- A call on the codes of a subject, as it is remembered: the millisecond at which it was made,
which code an issue had to give, and what the call answered. -/
structure Entry where
  subject : Subject
  use : Use
  time : Int
  code : String
  answer : Except Failure Unit

/-- The code that a subject is given if one is issued now. -/
def dueCode (s : Setup) (subject : Subject) (w : World) : String :=
  (fixedCode? s subject).getD (toString w.nextCode)

/-- What is remembered of a call that is made now. -/
def entry (s : Setup) (subject : Subject) (use : Use) (w : World) : Entry :=
  ⟨subject, use, w.millis, dueCode s subject w, ((use.flow s subject).run w).1⟩

/-- The codes of a subject that were accepted since they were last voided, with their times. Of the
entries, as of the codes, the latest comes first. -/
def accepted (subject : Subject) : List Entry → List (Int × String)
  | [] => []
  | e :: rest =>
    if e.subject = subject then
      match e.use with
      | .issue =>
        if e.answer = .error .codesLimit then accepted subject rest
        else (e.time, e.code) :: accepted subject rest
      | .check _ => accepted subject rest
      | .clear => []
    else accepted subject rest

/-- The codes of the bundle that the last code belongs to. A code begins a new bundle when the
milliseconds of a lifetime have passed since the code before. -/
def bundled (lifetime : Nat) : List (Int × String) → List String
  | [] => []
  | [(_, code)] => [code]
  | (time, code) :: (last, earlier) :: rest =>
    if lifetime ≤ time - last then [code]
    else code :: bundled lifetime ((last, earlier) :: rest)

/-- The last code is not so long ago that its bundle is gone. -/
def Stands (lifetime : Nat) (now : Int) : List (Int × String) → Prop
  | [] => False
  | (last, _) :: _ => now - last < lifetime

/-- The codes that are good now. -/
def Good (lifetime : Nat) (now : Int) (issued : List (Int × String)) (candidate : String) : Prop :=
  Stands lifetime now issued ∧ candidate ∈ bundled lifetime issued

variable {lifetime : Nat} {issued : List (Int × String)}

instance (lifetime : Nat) (now : Int) :
    (issued : List (Int × String)) → Decidable (Stands lifetime now issued)
  | [] => inferInstanceAs (Decidable False)
  | (last, _) :: _ => inferInstanceAs (Decidable (now - last < lifetime))

instance (now : Int) (candidate : String) : Decidable (Good lifetime now issued candidate) :=
  inferInstanceAs (Decidable (_ ∧ _))

@[simp] theorem stands_cons {now last : Int} {code : String} :
    Stands lifetime now ((last, code) :: issued) ↔ now - last < lifetime := Iff.rfl

/-- A code joins the codes that are good when it is issued. -/
theorem bundled_cons (now : Int) (code : String) : bundled lifetime ((now, code) :: issued)
    = code :: if Stands lifetime now issued then bundled lifetime issued else [] := by
  cases issued with
  | nil => rfl
  | cons last rest =>
    obtain ⟨last, earlier⟩ := last
    by_cases h : now - last < lifetime
    · rw [bundled, if_neg (by omega), if_pos (stands_cons.2 h)]
    · rw [bundled, if_pos (by omega), if_neg (mt stands_cons.1 h)]

theorem mem_of_mem_bundled {code : String} (h : code ∈ bundled lifetime issued) :
    ∃ time, (time, code) ∈ issued := by
  induction issued with
  | nil => cases h
  | cons last rest ih =>
    obtain ⟨last, latest⟩ := last
    rw [bundled_cons, List.mem_cons] at h
    rcases h with rfl | h
    · exact ⟨last, List.mem_cons_self⟩
    · split at h
      · obtain ⟨time, hmem⟩ := ih h
        exact ⟨time, List.mem_cons_of_mem _ hmem⟩
      · cases h

/-- The last code is good for a lifetime, and so are those that were good when it was issued. -/
theorem good_cons {now last : Int} {code candidate : String} :
    Good lifetime now ((last, code) :: issued) candidate ↔
      now - last < lifetime ∧ (candidate = code ∨ Good lifetime last issued candidate) := by
  rw [Good, stands_cons, bundled_cons, List.mem_cons, Good]
  by_cases h : Stands lifetime last issued <;> simp [h]

/-! ## Calls one after another -/

variable {s : Setup} {subject other : Subject} {w w' : World}

/-- Time passes, and the cache stays up. Whatever else happens, callers find the same codes. -/
structure TimePasses (among : Subject → Prop) (w w' : World) : Prop where
  steady : Steady w'
  report : SendersReport w'
  keyed : w'.cache.Keyed
  later : w.millis ≤ w'.millis
  same : ∀ subject, among subject → ∀ t, w'.millis ≤ t →
    w'.cache.read? t (Bundles.key subject) = w.cache.read? t (Bundles.key subject)

/-- Codes are issued to subjects, checked and voided, one call after another. -/
inductive UseHistory (s : Setup) (among : Subject → Prop) (start : World) :
    List Entry → World → Prop where
  | start : UseHistory s among start [] start
  | wait {entries : List Entry} {w w' : World} (h : UseHistory s among start entries w)
      (hw : TimePasses among w w') : UseHistory s among start entries w'
  | call {entries : List Entry} {w : World} (h : UseHistory s among start entries w)
      {subject : Subject} (hin : among subject) (use : Use) :
      UseHistory s among start (entry s subject use w :: entries) ((use.flow s subject).run w).2

/-- Subjects with texts of their own, and a cache that is up and empty. -/
structure Begins (among : Subject → Prop) (start : World) : Prop where
  apart : ∀ a b, among a → among b → a.key = b.key → a = b
  steady : Steady start
  report : SendersReport start
  empty : start.cache = {}

/-! ## Acts -/

/-- An act leaves all keys alone but the one of the subject. -/
def KeepsTo (subject : Subject) (act : Act) : Prop :=
  ∀ cmd, act = .cache cmd → cmd.key? = some (Bundles.key subject)

theorem keepsTo_of_ne {act : Act} (h : ∀ cmd, act ≠ .cache cmd) : KeepsTo subject act :=
  fun cmd he => absurd he (h cmd)

/-- Storing a bundle takes a look and a swap, and what the next bundle takes. -/
theorem acts_store {A : Act → Prop} (hget : A (.cache (.get (Bundles.key subject))))
    (hswap : ∀ expected value lifetime,
      A (.cache (.swap (Bundles.key subject) expected value lifetime)))
    {next : Bundle → Flow Bundle} (hnext : ∀ bundle, (next bundle).Acts A) (attempts : Nat) :
    (store s subject next attempts).Acts A := by
  induction attempts with
  | zero => trivial
  | succ attempts ih =>
    have hload : (Bundles.load subject).Acts A := by
      refine ⟨hget, fun raw => ?_⟩
      cases raw with
      | ok raw => exact Flow.acts_ofExcept _ _
      | error e => trivial
    refine hload.bind fun loaded => (hnext _).bind fun updated =>
      ⟨hswap _ _ _, fun replaced => ?_⟩
    rcases replaced with e | _ | _
    · trivial
    · exact ih
    · trivial

theorem store_keepsTo {next : Bundle → Flow Bundle}
    (hnext : ∀ bundle, (next bundle).Acts (KeepsTo subject)) (attempts : Nat) :
    (store s subject next attempts).Acts (KeepsTo subject) :=
  acts_store (by rintro cmd ⟨⟩; rfl) (by rintro expected value lifetime cmd ⟨⟩; rfl) hnext attempts

theorem addCode_keepsTo (code : String) (bundle : Bundle) :
    (addCode s code bundle).Acts (KeepsTo subject) :=
  ⟨keepsTo_of_ne (by intro cmd h; cases h), fun _ => (Flow.acts_ensure _ _ _).bind fun _ => trivial⟩

/-- A call on the codes of a subject leaves those of all others alone. -/
theorem flow_keepsTo (use : Use) : (use.flow s subject).Acts (KeepsTo subject) := by
  cases use with
  | issue =>
    simp only [Use.flow, issue]
    split
    · refine ⟨keepsTo_of_ne (by intro cmd h; cases h), fun now => store_keepsTo ?_ _⟩
      exact fun bundle => trivial
    · refine ⟨keepsTo_of_ne (by intro cmd h; cases h), fun n => ?_⟩
      refine (store_keepsTo (addCode_keepsTo (toString n)) _).bind fun _ => ?_
      cases subject <;>
        exact ⟨keepsTo_of_ne (by intro cmd h; cases h), fun _ => Flow.acts_ofExcept _ _⟩
  | check candidate =>
    refine ⟨by rintro cmd ⟨⟩; rfl, fun answer => ?_⟩
    cases answer with
    | ok raw => exact (Flow.acts_ofExcept _ _).bind fun _ => Flow.acts_ensure _ _ _
    | error e => trivial
  | clear => exact ⟨by rintro cmd ⟨⟩; rfl, fun _ => Flow.acts_ofExcept _ _⟩

/-- Calls on one subject do not change what is read of another one. -/
theorem read?_flow {among : Subject → Prop} {start : World} (hs : Begins among start)
    (hin : among subject) (hother : among other) (hne : other ≠ subject) (hw : w.cache.Keyed)
    (use : Use) {later : Int} (hle : w.millis ≤ later) :
    ((use.flow s subject).run w).2.cache.read? later (Bundles.key other)
      = w.cache.read? later (Bundles.key other) := by
  have hkey : Bundles.key other ≠ Bundles.key subject := fun h =>
    hne (hs.apart _ _ hother hin (Keyspace.append_injective h))
  refine Flow.read?_run_of_acts hw ((flow_keepsTo use).mono fun act hact cmd he => ?_) hle
  rw [hact cmd he]
  exact fun h => hkey (Option.some.inj h).symm

/-! ## Bundles -/

/-- The codes that stand in the bundle of a subject, oldest first. A subject with a fixed code has
no other one. -/
def bundleCodes (s : Setup) (subject : Subject) (issued : List (Int × String)) : List String :=
  match fixedCode? s subject with
  | some code => [code]
  | none => (bundled (bundleMillis s) issued).reverse

/-- What callers find from now on, after these codes were accepted: the bundle of the last one,
until its lifetime is over. -/
def BundleReads (s : Setup) (subject : Subject) (w : World) : List (Int × String) → Prop
  | [] => ∀ t, w.millis ≤ t → w.cache.read? t (Bundles.key subject) = none
  | (last, code) :: rest =>
    (Calendar.firstSecond * 1000 ≤ last ∧ last < (Calendar.lastSecond + 1) * 1000) ∧
    ∀ t, w.millis ≤ t → w.cache.read? t (Bundles.key subject) =
      if t < Cache.Memory.expiry last s.bundleLifetime then
        some (Bundle.encode ⟨bundleCodes s subject ((last, code) :: rest), last / 1000⟩) else none

/-- What a look finds is settled by the codes that were accepted. -/
theorem BundleReads.loads (h : BundleReads s subject w issued) : ∃ loaded,
    Bundles.ofValue (w.cache.read? w.millis (Bundles.key subject)) = .ok loaded ∧
      loaded.bundle.codes
        = if Stands (bundleMillis s) w.millis issued then bundleCodes s subject issued
          else [] := by
  cases issued with
  | nil => exact ⟨{}, by rw [h _ (Int.le_refl _)]; rfl, rfl⟩
  | cons last rest =>
    obtain ⟨last, code⟩ := last
    obtain ⟨hdate, hread⟩ := h
    have hread := hread _ (Int.le_refl _)
    have hlive : w.millis < Cache.Memory.expiry last s.bundleLifetime ↔
        w.millis - last < bundleMillis s := by
      rw [millis_lt_bundleExpiry_iff hdate.1, bundleMillis]
      omega
    by_cases hstands : w.millis - last < bundleMillis s
    · set bundle : Bundle := ⟨bundleCodes s subject ((last, code) :: rest), last / 1000⟩
      have hdecode : Bundle.decode bundle.encode = .ok bundle := by
        have hfirst : Calendar.firstSecond = -8334601228800 := rfl
        have hlast : Calendar.lastSecond = 8210266876799 := rfl
        apply decode_encode <;> dsimp only [bundle] <;> omega
      rw [if_pos (hlive.2 hstands)] at hread
      refine ⟨⟨some bundle.encode, bundle⟩, ?_, (if_pos (stands_cons.2 hstands)).symm⟩
      rw [hread, Bundles.ofValue, hdecode]
    · rw [if_neg (mt hlive.1 hstands)] at hread
      exact ⟨{}, by rw [hread]; rfl, (if_neg (mt stands_cons.1 hstands)).symm⟩

theorem BundleReads.later (h : BundleReads s subject w issued) (hforward : w.millis ≤ w'.millis)
    (hread : ∀ t, w'.millis ≤ t →
      w'.cache.read? t (Bundles.key subject) = w.cache.read? t (Bundles.key subject)) :
    BundleReads s subject w' issued := by
  cases issued with
  | nil => exact fun t ht => (hread t ht).trans (h t (Int.le_trans hforward ht))
  | cons last rest => exact ⟨h.1, fun t ht => (hread t ht).trans (h.2 t (Int.le_trans hforward ht))⟩

/-- A bundle that is written now. -/
theorem BundleReads.rewritten {code : String} (issued : List (Int × String)) :
    BundleReads s subject
      (rewritten s subject ⟨bundleCodes s subject ((w.millis, code) :: issued), w.now⟩ w)
      ((w.millis, code) :: issued) :=
  ⟨w.millis_calendar, fun t _ => Cache.Memory.read?_write_self _ _ t⟩

/-- What holds of a subject between two calls. -/
structure Kept (s : Setup) (subject : Subject) (issued : List (Int × String)) (w : World) :
    Prop where
  reads : BundleReads s subject w issued
  /-- A bundle holds only so many codes, unless there is a fixed one, -/
  capped : fixedCode? s subject = none →
    (bundled (bundleMillis s) issued).length ≤ s.settings.verification.maxCodes
  /-- which is then the only one that was accepted. -/
  fixed : ∀ code, fixedCode? s subject = some code → ∀ p ∈ issued, p.2 = code
  past : ∀ p ∈ issued, p.1 ≤ w.millis

theorem Kept.later (h : Kept s subject issued w) (hforward : w.millis ≤ w'.millis)
    (hread : ∀ t, w'.millis ≤ t →
      w'.cache.read? t (Bundles.key subject) = w.cache.read? t (Bundles.key subject)) :
    Kept s subject issued w' :=
  ⟨h.reads.later hforward hread, h.capped, h.fixed,
    fun p hp => Int.le_trans (h.past p hp) hforward⟩

/-- A code that stands in the bundle now. -/
theorem Kept.add {code : String} (h : Kept s subject issued w)
    (hcache : w'.cache = (rewritten s subject
      ⟨bundleCodes s subject ((w.millis, code) :: issued), w.now⟩ w).cache)
    (hmillis : w'.millis = w.millis)
    (hcap : fixedCode? s subject = none → (bundled (bundleMillis s)
      ((w.millis, code) :: issued)).length ≤ s.settings.verification.maxCodes)
    (hfixed : ∀ f, fixedCode? s subject = some f → code = f) :
    Kept s subject ((w.millis, code) :: issued) w' where
  reads := (BundleReads.rewritten issued).later (Int.le_of_eq hmillis.symm)
    fun t _ => by rw [hcache]
  capped := hcap
  fixed f hf p hp := by
    rcases List.mem_cons.1 hp with rfl | hp
    · exact hfixed f hf
    · exact h.fixed f hf p hp
  past p hp := by
    rw [hmillis]
    rcases List.mem_cons.1 hp with rfl | hp
    · exact Int.le_refl _
    · exact h.past p hp

/-! ## One call -/

/-- Where the next bundle is known, it is written in the first attempt. -/
theorem run_store_next (hw : Steady w) {loaded : Bundles.Loaded}
    (hl : Bundles.ofValue (w.cache.read? w.millis (Bundles.key subject)) = .ok loaded)
    (bundle : Bundle) (attempts : Nat) :
    (store s subject (fun _ => return bundle) (attempts + 1)).run w
      = (.ok (), rewritten s subject bundle (looked subject w)) := by
  have hload : (Bundles.load subject).run w = (.ok loaded, looked subject w) := by
    rw [run_load hw, hl]
  have hraw : (looked subject w).cache.read? (looked subject w).millis (Bundles.key subject)
      = loaded.raw := by
    rw [ofValue_raw hl]
    exact Cache.Memory.read?_settle
  rw [store, Flow.run_bind_of_ok hload]
  exact (Flow.run_bind_of_ok (run_replace hw.looked hraw)).trans rfl

/-- A fixed code is always stored, and no message goes out. -/
theorem run_issue_fixed (hw : Steady w) {loaded : Bundles.Loaded}
    (hl : Bundles.ofValue (w.cache.read? w.millis (Bundles.key subject)) = .ok loaded)
    {code : String} (hf : fixedCode? s subject = some code) : (issue s subject).run w
      = (.ok (), rewritten s subject ⟨[code], w.now⟩ (looked subject w)) := by
  simp only [issue, hf, Flow.now, Flow.step_bind, Flow.run, World.perform, Flow.done_bind]
  exact run_store_next hw hl _ 2

/-- No sender answers as if there were too many codes. -/
theorem deliver_answer (hr : SendersReport w) (code : String) :
    ((deliver s subject code).run w).1 ≠ .error .codesLimit := by
  cases subject with
  | email address =>
    intro h
    refine hr.mail address code ?_
    simp only [deliver, Flow.mail, Flow.run, World.perform, Flow.run_ofExcept] at h
    split at h
    · cases h
    · next e he => rw [he]; exact h
  | phone number =>
    intro h
    refine hr.text number (textOf s code) ?_
    simp only [deliver, Flow.text, Flow.run, World.perform, Flow.run_ofExcept] at h
    split at h
    · cases h
    · next e he => rw [he]; exact h

/-- The codes that were found, and the new one behind them. -/
theorem bundleCodes_cons (hf : fixedCode? s subject = none) (now : Int) (code : String) :
    bundleCodes s subject ((now, code) :: issued)
      = (if Stands (bundleMillis s) now issued then bundleCodes s subject issued else [])
        ++ [code] := by
  simp only [bundleCodes, hf, bundled_cons, List.reverse_cons]
  split <;> rfl

theorem length_bundleCodes (hf : fixedCode? s subject = none) :
    (bundleCodes s subject issued).length
      = (bundled (bundleMillis s) issued).length := by
  simp only [bundleCodes, hf, List.length_reverse]

/-- A code is remembered exactly if it was not refused. -/
theorem kept_issue (hw : Steady w) (hr : SendersReport w) (h : Kept s subject issued w) :
    Kept s subject (if ((issue s subject).run w).1 = .error .codesLimit then issued
      else (w.millis, dueCode s subject w) :: issued) ((issue s subject).run w).2 := by
  obtain ⟨loaded, hl, hcodes⟩ := h.reads.loads
  have hlooked (drawn : Nat) : Kept s subject issued (looked subject { w with drawn := drawn }) :=
    h.later (Int.le_refl _) fun _ ht => Cache.Memory.read?_settle_of_le ht
  cases hf : fixedCode? s subject with
  | some code =>
    have hdue : dueCode s subject w = code := by rw [dueCode, hf]; rfl
    rw [run_issue_fixed hw hl hf, if_neg (by intro he; cases he), hdue]
    refine (hlooked w.drawn).add ?_ rfl (fun hn => ?_) (fun f he => ?_)
    · rw [bundleCodes, hf]; rfl
    · rw [hf] at hn; cases hn
    · rw [hf] at he; exact Option.some.inj he
  | none =>
    have hdue : dueCode s subject w = toString w.nextCode := by rw [dueCode, hf]; rfl
    by_cases htakes : Takes s w.now loaded.bundle
    · have hbundle : loaded.bundle.codes ++ [toString w.nextCode]
          = bundleCodes s subject ((w.millis, toString w.nextCode) :: issued) := by
        rw [bundleCodes_cons hf, hcodes]
      have hcap : (bundled (bundleMillis s)
          ((w.millis, toString w.nextCode) :: issued)).length
            ≤ s.settings.verification.maxCodes := by
        have hroom := htakes.1
        rw [Bundle.isFull, decide_eq_false_iff_not] at hroom
        rw [← length_bundleCodes hf, ← hbundle, List.length_append, List.length_singleton]
        omega
      set stored := rewritten s subject (loaded.bundle.insert (toString w.nextCode) w.now)
        (looked subject { w with drawn := w.drawn + 1 })
      have hanswer : ((deliver s subject (toString w.nextCode)).run stored).1
          ≠ .error .codesLimit := deliver_answer (w := stored) ⟨hr.mail, hr.text⟩ _
      rw [run_issue hf hw hl htakes, hdue, if_neg hanswer]
      refine (hlooked (w.drawn + 1)).add ?_ (Flow.run_millis _) (fun _ => hcap)
        (fun f he => ?_)
      · rw [run_deliver_cache, Bundle.insert, hbundle]; rfl
      · rw [hf] at he; cases he
    · rw [run_issue_error hf hw hl htakes, if_pos rfl]
      exact hlooked _

/-! ## The whole story -/

/-- What holds between two calls. -/
structure Between (s : Setup) (among : Subject → Prop) (entries : List Entry) (w : World) :
    Prop where
  steady : Steady w
  report : SendersReport w
  keyed : w.cache.Keyed
  kept : ∀ subject, among subject → Kept s subject (accepted subject entries) w

variable {among : Subject → Prop} {start : World} {entries : List Entry}

theorem accepted_issue : accepted subject (entry s subject .issue w :: entries)
    = if ((issue s subject).run w).1 = .error .codesLimit then accepted subject entries
      else (w.millis, dueCode s subject w) :: accepted subject entries := by
  simp only [accepted, entry, if_true]
  rfl

theorem accepted_ne (h : subject ≠ other) (use : Use) :
    accepted other (entry s subject use w :: entries) = accepted other entries := if_neg h

/-- What a call leaves of the codes of its own subject. -/
theorem kept_flow (hw : Steady w) (hr : SendersReport w)
    (h : Kept s subject (accepted subject entries) w) (use : Use) :
    Kept s subject (accepted subject (entry s subject use w :: entries))
      ((use.flow s subject).run w).2 := by
  cases use with
  | issue =>
    rw [accepted_issue]
    exact kept_issue hw hr h
  | check candidate =>
    simp only [accepted, entry, if_true, Use.flow, run_check hw]
    exact h.later (Int.le_refl _) fun _ ht => Cache.Memory.read?_settle_of_le ht
  | clear =>
    have hrun : ((Use.clear.flow s subject).run w).2 = _ :=
      congrArg Prod.snd ((Flow.run_cache _ _).trans (hw.perform (.delete (Bundles.key subject))))
    simp only [accepted, entry, if_true, hrun]
    refine ⟨fun t _ => ?_, fun _ => Nat.zero_le _, by simp, by simp⟩
    rw [Cache.Memory.read?_eq, Cache.Memory.perform, Cache.Memory.find?_erase_self]
    rfl

/-- Calls keep to what their entries say. -/
theorem UseHistory.between (hs : Begins among start) (h : UseHistory s among start entries w) :
    Between s among entries w := by
  induction h with
  | start =>
    have hkeyed : start.cache.Keyed := by rw [hs.empty]; exact List.nodup_nil
    refine ⟨hs.steady, hs.report, hkeyed, fun subject _ => ⟨fun t _ => ?_, fun _ => Nat.zero_le _,
      by simp [accepted], by simp [accepted]⟩⟩
    rw [hs.empty]; rfl
  | wait h hw ih =>
    exact ⟨hw.steady, hw.report, hw.keyed, fun subject hin =>
      (ih.kept subject hin).later hw.later (hw.same subject hin)⟩
  | @call entries w h subject hin use ih =>
    have hreport : SendersReport ((use.flow s subject).run w).2 := by
      constructor
      · rw [Flow.run_outside]; exact ih.report.mail
      · rw [Flow.run_outside]; exact ih.report.text
    refine ⟨ih.steady.run _, hreport, Flow.run_keyed ih.keyed _, fun other hother => ?_⟩
    by_cases hne : subject = other
    · subst hne
      exact kept_flow ih.steady ih.report (ih.kept subject hin) use
    · rw [accepted_ne hne]
      refine (ih.kept other hother).later (Int.le_of_eq (Flow.run_millis _).symm) fun t ht => ?_
      rw [Flow.run_millis] at ht
      exact read?_flow hs hin hother (Ne.symm hne) ih.keyed use ht

/-- It is always possible to wait for some time. -/
theorem UseHistory.until (hs : Begins among start) (h : UseHistory s among start entries w)
    {clock : Int} (hle : w.millis ≤ World.millis { w with clock := clock }) :
    UseHistory s among start entries { w with clock := clock } :=
  have hw := h.between hs
  h.wait ⟨⟨hw.steady.up, hw.steady.wins⟩, ⟨hw.report.mail, hw.report.text⟩, hw.keyed, hle,
    fun _ _ _ _ => rfl⟩

/-- What stands in the bundle is what was accepted since it began. -/
theorem Kept.mem_bundleCodes (h : Kept s subject issued w)
    (hstands : Stands (bundleMillis s) w.millis issued) (candidate : String) :
    candidate ∈ bundleCodes s subject issued ↔
      candidate ∈ bundled (bundleMillis s) issued := by
  cases hf : fixedCode? s subject with
  | none => rw [bundleCodes, hf, List.mem_reverse]
  | some code =>
    rw [bundleCodes, hf, List.mem_singleton]
    constructor
    · rintro rfl
      cases issued with
      | nil => exact hstands.elim
      | cons last rest =>
        obtain ⟨last, code⟩ := last
        rw [bundled_cons, ← h.fixed _ hf _ List.mem_cons_self]
        exact List.mem_cons_self
    · intro hmem
      obtain ⟨time, hmem⟩ := mem_of_mem_bundled hmem
      exact h.fixed code hf _ hmem

/-- A look at the codes finds those that are good. -/
theorem Kept.contains_iff (h : Kept s subject issued w) {loaded : Bundles.Loaded}
    (hl : Bundles.ofValue (w.cache.read? w.millis (Bundles.key subject)) = .ok loaded)
    (candidate : String) : loaded.bundle.contains candidate = true ↔
      Good (bundleMillis s) w.millis issued candidate := by
  obtain ⟨found, hfound, hcodes⟩ := h.reads.loads
  obtain rfl : found = loaded := Except.ok.inj (hfound.symm.trans hl)
  rw [Bundle.contains, List.contains_iff_mem, hcodes, Good]
  by_cases hstands : Stands (bundleMillis s) w.millis issued
  · rw [if_pos hstands, and_iff_right hstands, h.mem_bundleCodes hstands]
  · simp [hstands]

theorem run_check_answer (hw : Steady w) {loaded : Bundles.Loaded}
    (hl : Bundles.ofValue (w.cache.read? w.millis (Bundles.key subject)) = .ok loaded)
    (candidate : String) : ((check subject candidate).run w).1
      = if loaded.bundle.contains candidate then .ok () else .error .incorrectCode := by
  have hload : (Bundles.load subject).run w = (.ok loaded, looked subject w) := by
    rw [run_load hw, hl]
  rw [check, Flow.run_bind_of_ok hload]
  cases loaded.bundle.contains candidate <;> rfl

/-- After any calls, a candidate is accepted exactly if it is good. -/
theorem Between.accepts_iff (h : Between s among entries w) (hin : among subject)
    (candidate : String) : ((check subject candidate).run w).1 = .ok () ↔
      Good (bundleMillis s) w.millis (accepted subject entries) candidate := by
  obtain ⟨loaded, hl, -⟩ := (h.kept subject hin).reads.loads
  rw [run_check_answer h.steady hl, ← (h.kept subject hin).contains_iff hl]
  cases loaded.bundle.contains candidate <;> simp

/-- The world after a code was issued at a time. -/
def issuedAt (s : Setup) (clock : Int) (subject : Subject) (w : World) : World :=
  ((Use.issue.flow s subject).run (sampleAt clock w)).2

theorem UseHistory.issuedAt (hs : Begins among start) (h : UseHistory s among start entries w)
    (clock : Int) (hle : w.millis ≤ (sampleAt clock w).millis) (hin : among subject) :
    UseHistory s among start (entry s subject .issue (sampleAt clock w) :: entries)
      (issuedAt s clock subject w) := (h.until hs hle).call hin .issue

end SignOn.Verification
