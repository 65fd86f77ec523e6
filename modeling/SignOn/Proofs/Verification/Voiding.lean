import SignOn.Proofs.Verification.Issuing
/-!
When a code is gone. Once the codes of a phone are voided, the cache lacks each of them until it is
stored again, whatever is done in between: a bundle that replaces another one holds the codes that
stood there and one of its own (`lacks_perform`). So a look at the bundle does not find the code
(`lacking_of_look`).
-/

namespace SignOn.Verification

open SignOn.Keyspace

/-! ## Events -/

/-- What a look at the codes of a phone has shown. -/
def seen? (phone : String) : Event → Option (Option Bytes)
  | ⟨.cache (.get key), .ok value⟩ =>
    if key = Bundles.key (.phone phone) then some value else none
  | _ => none

/-- The event that the codes of a phone were voided. -/
def isVoiding (phone : String) : Event → Bool
  | ⟨.cache (.delete key), .ok ()⟩ => key == Bundles.key (.phone phone)
  | _ => false

/-- The event that a bundle was stored whose last code is `code`. -/
def isStoring (phone code : String) : Event → Bool
  | ⟨.cache (.swap key _ value _), .ok true⟩ =>
    key == Bundles.key (.phone phone) && (codesOf value).bind List.getLast? == some code
  | _ => false

theorem seen?_eq_some_iff {phone : String} {e : Event} {value : Option Bytes} :
    seen? phone e = some value ↔ e = ⟨.cache (.get (Bundles.key (.phone phone))), .ok value⟩ := by
  constructor
  · intro h
    unfold seen? at h
    split at h
    · split at h
      · next hkey => cases h; rw [hkey]
      · cases h
    · cases h
  · rintro rfl
    exact if_pos rfl

theorem isVoiding_iff {phone : String} {e : Event} :
    isVoiding phone e = true ↔ e = ⟨.cache (.delete (Bundles.key (.phone phone))), .ok ()⟩ := by
  constructor
  · intro h
    unfold isVoiding at h
    split at h
    · rw [eq_of_beq h]
    · cases h
  · rintro rfl
    exact beq_self_eq_true _

/-- Events that worlds give rise to: the clock shows seconds of 64 bits. -/
def Timely : Event → Prop
  | ⟨.clock, now⟩ => -9223372036854775808 ≤ now ∧ now ≤ 9223372036854775807
  | _ => True

theorem timely_event (w : World) (act : Act) : Timely (w.event act) := by
  cases act with
  | clock => exact w.now_bounds
  | _ => trivial

/-! ## Acts -/

/-- A value with the codes of an earlier one, or some of them, and one code behind them. -/
def Extends (earlier : Option Bytes) (value : Bytes) : Prop :=
  ∃ (base : List String) (code : String), codesOf value = some (base ++ [code]) ∧
    ∀ c ∈ base, c ∈ (earlier.bind codesOf).getD []

/-- What calls do to the codes of a phone: they look, they void, and they put one code behind the
ones that they expect. -/
def Handles (phone : String) : Act → Prop
  | .cache (.set key _ _) => key ≠ Bundles.key (.phone phone)
  | .cache (.setIfAbsent key _ _) => key ≠ Bundles.key (.phone phone)
  | .cache (.swap key expected value _) =>
    key = Bundles.key (.phone phone) → Extends expected value
  | _ => True

variable {phone code : String}

theorem handles_of_key_ne {cmd : Cache.Command}
    (h : cmd.key? ≠ some (Bundles.key (.phone phone))) : Handles phone (.cache cmd) := by
  cases cmd with
  | set key value lifetime => exact fun he => h (congrArg some he)
  | setIfAbsent key value lifetime => exact fun he => h (congrArg some he)
  | swap key expected value lifetime => exact fun he => absurd (congrArg some he) h
  | _ => trivial

/-- A course of calls on codes, whatever they give. -/
abbrev Handling {α : Type} (phone : String) (past : List Event) (f : Flow α) : Prop :=
  f.Along Timely (fun _ => Handles phone) (fun _ _ => True) past

theorem handling_then {α β : Type} {f : Flow β} {g : β → Flow α} (hf : f.Acts (Handles phone))
    (hg : ∀ b past, Handling phone past (g b)) (past : List Event) :
    Handling phone past (f >>= g) := by
  refine Flow.Along.bind (.of_acts hf (J := fun _ => True) (fun _ _ _ _ _ => trivial)
    (fun _ _ ha _ => ha) (fun past result _ => ?_) trivial)
  cases result with
  | ok b => exact hg b past
  | error e => trivial

/-- A bundle that may replace an earlier one. -/
def IsNext (earlier b : Bundle) : Prop :=
  (-9223372036854775808 ≤ b.lastSentAt ∧ b.lastSentAt ≤ 9223372036854775807) ∧
    ∃ (base : List String) (code : String), b.codes = base ++ [code] ∧
      ∀ c ∈ base, c ∈ earlier.codes

theorem extends_of_isNext {value : Option Bytes} {loaded : Bundles.Loaded} {b : Bundle}
    (hl : Bundles.ofValue value = .ok loaded) (h : IsNext loaded.bundle b) :
    Extends loaded.raw b.encode := by
  obtain ⟨hsent, base, code, hcodes, hbase⟩ := h
  have hraw : loaded.raw = value := by rw [ofValue_raw hl]
  have hheld : (value.bind codesOf).getD [] = loaded.bundle.codes :=
    codesOf_of_ofValue (ofValue_raw hl ▸ hl)
  refine ⟨base, code, ?_, fun c hc => ?_⟩
  · rw [codesOf, decode_encode hsent.1 hsent.2]
    exact congrArg some hcodes
  · rw [hraw, hheld]
    exact hbase c hc

/-- The event that a bundle of a subject was stored. -/
def Stored (subject : Subject) (e : Event) : Prop :=
  ∃ expected value lifetime,
    e = ⟨.cache (.swap (Bundles.key subject) expected value lifetime), .ok true⟩

/-- A course on which a code may be issued to a subject, as long as a condition holds that ends only
when a bundle is stored. -/
structure Permits (s : Setup) (subject : Subject) (I : List Event → Act → Prop)
    (J : List Event → Prop) : Prop where
  kept : ∀ past e, J past → ¬ Stored subject e → J (past ++ [e])
  clock : ∀ past, I past .clock
  code : ∀ past, I past .code
  look : ∀ past, I past (.cache (.get (Bundles.key subject)))
  swap : ∀ past expected value, J past → Extends expected value →
    I past (.cache (.swap (Bundles.key subject) expected value s.bundleLifetime))
  mail : ∀ past address code, I past (.mail address code)
  text : ∀ past number message, I past (.text number message)

section
variable {s : Setup} {subject : Subject} {I : List Event → Act → Prop} {J : List Event → Prop}
  {past : List Event}

/-- However often the swap is lost. -/
theorem store_along (h : Permits s subject I J) {next : Bundle → Flow Bundle}
    (hnext : ∀ bundle past, J past →
      Flow.Leads Timely I (fun later b => J later ∧ IsNext bundle b) past (next bundle))
    (attempts : Nat) (hpast : J past) :
    (store s subject next attempts).Along Timely I (fun _ _ => True) past := by
  induction attempts generalizing past with
  | zero => trivial
  | succ attempts ih =>
    refine ⟨h.look past, fun raw _ => ?_⟩
    have hlooked : J (past ++ [⟨.cache (.get (Bundles.key subject)), raw⟩]) :=
      h.kept _ _ hpast fun ⟨_, _, _, he⟩ => by cases he
    rcases raw with e | raw
    · trivial
    change Flow.Along Timely I _ _ (Flow.ofExcept (Bundles.ofValue raw) >>= _)
    cases hl : Bundles.ofValue raw with
    | error e => trivial
    | ok loaded =>
      change Flow.Along Timely I _ _ (next loaded.bundle >>= _)
      refine Flow.Along.bind ((hnext loaded.bundle _ hlooked).mono fun later result hresult => ?_)
      cases result with
      | error e => trivial
      | ok b =>
        obtain ⟨hlater, hb⟩ := hresult b rfl
        refine ⟨h.swap _ _ _ hlater (extends_of_isNext hl hb), fun won _ => ?_⟩
        rcases won with e | _ | _
        · trivial
        · exact ih (h.kept _ _ hlater fun ⟨_, _, _, he⟩ => by cases he)
        · trivial

theorem addCode_leads (h : Permits s subject I J) (code : String) (bundle : Bundle)
    (hpast : J past) :
    Flow.Leads Timely I (fun later b => J later ∧ IsNext bundle b) past
      (addCode s code bundle) := by
  refine ⟨h.clock past, fun now hnow => ?_⟩
  have hlater : J (past ++ [⟨.clock, now⟩]) := h.kept _ _ hpast fun ⟨_, _, _, he⟩ => by cases he
  change Flow.Leads _ _ _ _ (Flow.ensure (!(bundle.isFull s.settings.verification.maxCodes ||
    bundle.isFrequent now s.settings.verification.minInterval)) .codesLimit >>= _)
  cases bundle.isFull s.settings.verification.maxCodes ||
      bundle.isFrequent now s.settings.verification.minInterval with
  | true => exact Flow.leads_fail _
  | false => exact Flow.leads_pure ⟨hlater, hnow, bundle.codes, code, rfl, fun c hc => hc⟩

/-- A call that issues a code puts it behind the ones that stand there, or in their place. -/
theorem issue_along (h : Permits s subject I J) (hpast : J past) :
    (issue s subject).Along Timely I (fun _ _ => True) past := by
  have hplain {past : List Event} {e : Event} (hp : J past) (he : ∀ cmd, e.act ≠ .cache cmd) :
      J (past ++ [e]) := h.kept _ _ hp fun ⟨_, _, _, hswap⟩ => he _ (congrArg Event.act hswap)
  unfold issue
  split
  · next code _ =>
    refine ⟨h.clock past, fun now hnow => store_along h (fun bundle later hlater => ?_) _
      (hplain hpast fun _ he => by cases he)⟩
    exact Flow.leads_pure ⟨hlater, hnow, [], code, rfl, fun c hc => absurd hc List.not_mem_nil⟩
  · refine ⟨h.code past, fun n _ => ?_⟩
    change Flow.Along Timely I _ _ (store s subject (addCode s (toString n)) swapAttempts >>= _)
    refine Flow.Along.bind ((store_along h (fun bundle _ => addCode_leads h _ bundle) _
      (hplain hpast fun _ he => by cases he)).mono fun later result _ => ?_)
    cases result with
    | error e => trivial
    | ok _ =>
      cases subject with
      | email address => exact ⟨h.mail _ _ _, fun answer _ => by cases answer <;> trivial⟩
      | phone number => exact ⟨h.text _ _ _, fun answer _ => by cases answer <;> trivial⟩

end

theorem issue_handling (s : Setup) (subject : Subject) (past : List Event) :
    Handling phone past (issue s subject) :=
  issue_along (J := fun _ => True) ⟨fun _ _ _ _ => trivial, fun _ => trivial, fun _ => trivial,
    fun _ => trivial, fun _ _ _ _ hext _ => hext, fun _ _ _ => trivial, fun _ _ _ => trivial⟩
    trivial

/-! ## Caches without the code -/

/-- A value without the code: a look at it finds that the code is wrong. -/
def Lacking (code : String) (value : Option Bytes) : Prop :=
  ∃ loaded, Bundles.ofValue value = .ok loaded ∧ loaded.bundle.contains code = false

/-- Whatever is stored under the key of the phone, dead or alive, lacks the code. -/
def Lacks (phone code : String) (c : Cache.Memory) : Prop :=
  ∀ e, c.find? (Bundles.key (.phone phone)) = some e →
    ∃ codes, codesOf e.value = some codes ∧ code ∉ codes

theorem lacking_of_codesOf {value : Bytes} {codes : List String} (h : codesOf value = some codes)
    (hc : code ∉ codes) : Lacking code (some value) := by
  unfold codesOf at h
  cases hd : Bundle.decode value with
  | error e => rw [hd] at h; cases h
  | ok b =>
    rw [hd] at h
    cases h
    refine ⟨⟨some value, b⟩, by rw [Bundles.ofValue, hd], ?_⟩
    exact Bool.eq_false_iff.2 fun hcontains => hc (List.contains_iff_mem.1 hcontains)

/-- No entry lacks every code. -/
theorem lacking_none (code : String) : Lacking code none := ⟨{}, rfl, rfl⟩

variable {c c' : Cache.Memory} {now : Int}

theorem Lacks.read (h : Lacks phone code c) (now : Int) :
    Lacking code (c.read? now (Bundles.key (.phone phone))) := by
  rw [Cache.Memory.read?_eq]
  cases hf : c.find? (Bundles.key (.phone phone)) with
  | none => exact lacking_none code
  | some e =>
    obtain ⟨codes, hcodes, hc⟩ := h e hf
    rcases Cache.Memory.alive_eq_none_or now (some e) with he | he <;> rw [he]
    · exact lacking_none code
    · exact lacking_of_codesOf hcodes hc

/-- Entries that fade do not bring the code back. -/
theorem Lacks.fade (h : Lacks phone code c) (hf : c'.find? (Bundles.key (.phone phone)) =
      c.find? (Bundles.key (.phone phone)) ∨ c'.find? (Bundles.key (.phone phone)) =
      Cache.Memory.alive now (c.find? (Bundles.key (.phone phone)))) : Lacks phone code c' := by
  have hfaded : c'.find? (Bundles.key (.phone phone)) = none ∨
      c'.find? (Bundles.key (.phone phone)) = c.find? (Bundles.key (.phone phone)) := by
    rcases hf with hf | hf
    · exact .inr hf
    · rw [hf]
      exact Cache.Memory.alive_eq_none_or now _
  intro e he
  rcases hfaded with hf | hf
  · rw [hf] at he; cases he
  · exact h e (hf ▸ he)

theorem Lacks.settle (h : Lacks phone code c) (now : Int) :
    Lacks phone code (c.settle now (Bundles.key (.phone phone))) :=
  h.fade (.inr Cache.Memory.find?_settle_self)

/-- A bundle that extends one without the code lacks it too, unless its own code is this one. -/
theorem not_mem_of_extends {value : Bytes} (h : Lacks phone code c)
    (hext : Extends (c.read? now (Bundles.key (.phone phone))) value)
    (hlast : (codesOf value).bind List.getLast? ≠ some code) :
    ∃ codes, codesOf value = some codes ∧ code ∉ codes := by
  obtain ⟨base, last, hcodes, hbase⟩ := hext
  refine ⟨base ++ [last], hcodes, fun hmem => ?_⟩
  rcases List.mem_append.1 hmem with hmem | hmem
  · obtain ⟨loaded, hl, hlacks⟩ := h.read now
    have hheld := hbase code hmem
    rw [codesOf_of_ofValue (ofValue_raw hl ▸ hl)] at hheld
    rw [Bundle.contains, List.contains_iff_mem.2 hheld] at hlacks
    cases hlacks
  · rw [List.mem_singleton] at hmem
    refine hlast ?_
    rw [hcodes, hmem, Option.bind_some, List.getLast?_concat]

/-- What a command that is answered does to a cache without the code. -/
theorem Lacks.command (h : Lacks phone code c) (hk : c.Keyed) {cmd : Cache.Command}
    (ha : Handles phone (.cache cmd))
    (hs : isStoring phone code ⟨.cache cmd, .ok (c.perform now cmd).1⟩ = false) :
    Lacks phone code (c.perform now cmd).2 := by
  by_cases hkey : cmd.key? = some (Bundles.key (.phone phone))
  · cases cmd with
    | get key => cases hkey; exact h.settle now
    | set key value lifetime => exact absurd (Option.some.inj hkey) ha
    | delete key =>
      cases hkey
      intro e he
      rw [Cache.Memory.perform, Cache.Memory.find?_erase_self] at he
      cases he
    | setIfAbsent key value lifetime => exact absurd (Option.some.inj hkey) ha
    | swap key expected value lifetime =>
      cases hkey
      rw [Cache.Memory.perform] at hs ⊢
      split at hs
      · next hread =>
        rw [if_pos hread]
        intro e he
        rw [Cache.Memory.find?_write_self, Option.some.injEq] at he
        subst he
        refine not_mem_of_extends h (hread ▸ ha rfl) fun hlast => ?_
        simp [isStoring, hlast] at hs
      · next hread =>
        rw [if_neg hread]
        exact h.settle now
    | ping => cases hkey
  · exact h.fade (Cache.Memory.perform_of_key_ne hk now hkey)

variable {w : World}

/-- No act of a call brings the code back, unless it stores it. -/
theorem lacks_perform (h : Lacks phone code w.cache) (hk : w.cache.Keyed) {act : Act}
    (ha : Handles phone act) (hs : isStoring phone code (w.event act) = false) :
    Lacks phone code (w.perform act).2.cache := by
  cases act with
  | cache cmd =>
    obtain ⟨lost, calls, answer, cache, he, hr⟩ := w.performCache_cases cmd
    rw [World.event, he] at hs
    rw [he]
    rcases hr with ⟨e, -, rfl⟩ | ⟨-, -, rfl⟩ | ⟨rfl, rfl⟩
    · exact h
    · exact h
    · exact h.command hk ha hs
  | _ => rw [World.perform_cache_eq _ (by intro cmd hc; cases hc)]; exact h

/-- Voiding takes every code away. -/
theorem lacks_of_voiding {act : Act} (h : isVoiding phone (w.event act) = true) :
    Lacks phone code (w.perform act).2.cache := by
  obtain ⟨-, hcache⟩ := World.perform_of_event (isVoiding_iff.1 h)
    (by intro key expected value lifetime hc; cases hc)
  intro e he
  rw [hcache, Cache.Memory.perform, Cache.Memory.find?_erase_self] at he
  cases he

/-- A look at a cache without the code does not find it. -/
theorem lacking_of_look (h : Lacks phone code w.cache) {act : Act} {value : Option Bytes}
    (hs : seen? phone (w.event act) = some value) : Lacking code value := by
  obtain ⟨hread, -⟩ := World.perform_of_event (seen?_eq_some_iff.1 hs)
    (by intro key expected value lifetime hc; cases hc)
  rw [hread]
  exact h.read w.millis

end SignOn.Verification
