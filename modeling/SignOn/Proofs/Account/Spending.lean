import Mathlib.Data.List.TakeWhile
import SignOn.Proofs.Account.Calls
import SignOn.Proofs.Sample
import SignOn.Proofs.Verification.Voiding
/-!
How often a one-time code is good for. A call that presents a code of a phone looks at the codes
first and voids them later, and other calls may act in between. Main statement, for every
interleaving of calls (`once_iff_parted`): each time that a code is stored, at most one call
succeeds with it, exactly if between the looks of any two calls that succeed the codes are voided
or the code is stored again. A call that looks when the codes are void is refused. Calls that all
look before one of them voids the codes succeed together (`twice_of_crossedOrder`).
-/

namespace SignOn.Account

open SignOn.Keyspace SignOn.Verification

/-! ## Calls that present a code -/

/-- Whether a call presents a code of a phone. -/
def Call.presents (phone code : String) : Call → Bool
  | .signIn request _ => request.provider == .phone &&
    request.phone.map Phone.normalize == some phone && request.code == some code
  | .complete request _ => Phone.normalize request.phone == phone && request.code == code
  | _ => false

/-- What a call has seen of the codes of a phone. -/
def glimpses (phone : String) (past : List Event) : List (Option Bytes) :=
  past.filterMap (seen? phone)

theorem glimpses_append (phone : String) (past : List Event) (e : Event) :
    glimpses phone (past ++ [e]) = glimpses phone past ++ (seen? phone e).toList := by
  rw [glimpses, List.filterMap_append]
  cases h : seen? phone e with
  | none => rw [List.filterMap_cons_none h]; rfl
  | some value => rw [List.filterMap_cons_some h]; rfl

/-- A call does not succeed unless it has looked, and it is refused if it has not seen the code. -/
def LooksFirst {α : Type} (phone code : String) (past : List Event) (result : Except Failure α) :
    Prop :=
  (glimpses phone past = [] → ∃ e, result = .error e) ∧
    ∀ value ∈ glimpses phone past, Lacking code value → result = .error .incorrectCode

/-- An act that leaves the codes of a phone alone, or voids them. -/
def IsAside (phone : String) : Act → Prop
  | .cache cmd => cmd.key? = some (Bundles.key (.phone phone)) →
    cmd = .delete (Bundles.key (.phone phone))
  | _ => True

variable {phone code : String}

theorem isAside_of_key {key : String} (h : key ≠ Bundles.key (.phone phone)) {cmd : Cache.Command}
    (hc : cmd.key? = some key) : IsAside phone (.cache cmd) :=
  fun hbundle => absurd (Option.some.inj (hc.symm.trans hbundle)) h

instance : AdmitsSessions (IsAside phone) where
  clock := trivial
  uuid := trivial
  salt := trivial
  lookup _ _ := trivial
  request _ id := isAside_of_key (requests_ne_bundles id _)
  state _ state := isAside_of_key (states_ne_bundles state _)
  store _ := trivial
  session _ code := isAside_of_key (sessions_ne_bundles code _)

theorem handles_of_isAside {act : Act} (h : IsAside phone act) : Handles phone act := by
  cases act with
  | cache cmd =>
    by_cases hkey : cmd.key? = some (Bundles.key (.phone phone))
    · rw [h hkey]; trivial
    · exact handles_of_key_ne hkey
  | _ => trivial

theorem seen_eq_none {e : Event} (h : IsAside phone e.act) : seen? phone e = none := by
  refine Option.eq_none_iff_forall_ne_some.2 fun value hs => ?_
  rw [seen?_eq_some_iff.1 hs] at h
  cases h rfl

theorem handles_key {key : String} (h : key ≠ Bundles.key (.phone phone)) {cmd : Cache.Command}
    (hc : cmd.key? = some key) : Handles phone (.cache cmd) :=
  handles_of_isAside (isAside_of_key h hc)

instance : AdmitsProvider (Handles phone) where
  clock := trivial
  uuid := trivial
  salt := trivial
  lookup _ _ := trivial
  request _ id := handles_key (requests_ne_bundles id _)
  state _ state := handles_key (states_ne_bundles state _)
  exchange _ := trivial
  profile _ := trivial

instance : AdmitsSessions (Handles phone) where
  store _ := trivial
  session _ code := handles_key (sessions_ne_bundles code _)

instance : AdmitsChecks (Handles phone) where
  look _ := trivial
  void _ := trivial

/-! ## Courses -/

/-- The courses of a call that presents a code. -/
abbrev LooksFirstAlong {α : Type} (phone code : String) (past : List Event) (f : Flow α) : Prop :=
  f.Along Timely (fun _ => Handles phone) (LooksFirst phone code) past

variable {α β : Type} {past : List Event}

theorem looksFirst_error (h : glimpses phone past = []) (e : Failure) :
    LooksFirst (α := α) phone code past (.error e) := by
  refine ⟨fun _ => ⟨e, rfl⟩, fun value hv => ?_⟩
  rw [h] at hv
  cases hv

/-- What has to do with other things comes before the look. -/
theorem looksFirst_then {f : Flow β} {g : β → Flow α} (hf : f.Acts (IsAside phone))
    (hg : ∀ b past, glimpses phone past = [] → LooksFirstAlong phone code past (g b))
    (h : glimpses phone past = []) : LooksFirstAlong phone code past (f >>= g) := by
  refine Flow.Along.bind (.of_acts hf (J := (glimpses phone · = [])) ?_ ?_ ?_ h)
  · intro past e ha _ hpast
    rw [glimpses_append, seen_eq_none ha, hpast]
    rfl
  · exact fun _ _ ha _ => handles_of_isAside ha
  · intro past result hpast
    cases result with
    | ok b => exact hg b past hpast
    | error e => exact looksFirst_error hpast e

/-- Behind a look that has found the code, anything may come. -/
theorem looksFirst_of_found {f : Flow α} (hf : f.Acts (IsAside phone)) {value : Option Bytes}
    (h : glimpses phone past = [value]) (hfound : ¬ Lacking code value) :
    LooksFirstAlong phone code past f := by
  refine .of_acts hf (J := (glimpses phone · = [value])) ?_ ?_ ?_ h
  · intro past e ha _ hpast
    rw [glimpses_append, seen_eq_none ha, hpast]
    rfl
  · exact fun _ _ ha _ => handles_of_isAside ha
  · intro past result hpast
    refine ⟨fun hnil => ?_, fun value' hv hlacking => ?_⟩
    · rw [hpast] at hnil
      cases hnil
    · rw [hpast, List.mem_singleton] at hv
      exact absurd (hv ▸ hlacking) hfound

/-- The look decides: a call that does not find the code is refused. -/
theorem looksFirst_check {g : Unit → Flow α} (hg : (g ()).Acts (IsAside phone))
    (h : glimpses phone past = []) :
    LooksFirstAlong phone code past (check (.phone phone) code >>= g) := by
  refine ⟨trivial, fun answer _ => ?_⟩
  rcases answer with e | value
  · refine looksFirst_error ?_ e
    rw [glimpses_append, h]
    rfl
  · have hseen : glimpses phone (past ++ [⟨.cache (.get (Bundles.key (.phone phone))), .ok value⟩])
        = [value] := by
      rw [glimpses_append, h]
      simp only [seen?, if_true, Option.toList_some, List.nil_append]
    have hlooks {e : Failure} (he : Lacking code value → e = .incorrectCode) :
        LooksFirst (α := α) phone code (past ++ [⟨.cache (.get (Bundles.key (.phone phone))),
          .ok value⟩]) (.error e) := by
      refine ⟨fun _ => ⟨e, rfl⟩, fun value' hv hlacking => ?_⟩
      rw [hseen, List.mem_singleton] at hv
      exact congrArg Except.error (he (hv ▸ hlacking))
    change LooksFirstAlong phone code _ ((Flow.ofExcept (Bundles.ofValue value) >>= _) >>= g)
    cases hl : Bundles.ofValue value with
    | error e =>
      refine hlooks fun ⟨loaded, hloaded, _⟩ => ?_
      rw [hl] at hloaded
      cases hloaded
    | ok loaded =>
      change LooksFirstAlong phone code _
        (Flow.ensure (loaded.bundle.contains code) .incorrectCode >>= g)
      cases hc : loaded.bundle.contains code with
      | false => exact hlooks fun _ => rfl
      | true =>
        refine looksFirst_of_found hg hseen fun ⟨loaded', hloaded, hlacks⟩ => ?_
        rw [hl] at hloaded
        cases hloaded
        rw [hc] at hlacks
        cases hlacks

variable (s : Setup)

theorem clear_aside (phone : String) : (clear (.phone phone)).Acts (IsAside phone) :=
  command_acts fun _ => rfl

/-- A value that is given may be empty. -/
theorem looksFirst_required {value field : String} {g : String → Flow α}
    (hg : LooksFirstAlong phone code past (g value)) (h : glimpses phone past = []) :
    LooksFirstAlong phone code past (required (some value) field >>= g) := by
  unfold required
  cases hv : (some value).filter (· != "") with
  | none => exact looksFirst_error h _
  | some found => cases (Option.filter_eq_some_iff.1 hv).1; exact hg

theorem signIn_looksFirst {request : SignInRequest} {ip : String}
    (h : (Call.signIn request ip).presents phone code = true) :
    LooksFirstAlong phone code [] (signIn s request ip) := by
  simp only [Call.presents, Bool.and_eq_true, beq_iff_eq] at h
  obtain ⟨⟨hprovider, hphone⟩, hcode⟩ := h
  obtain ⟨number, hnumber, rfl⟩ := Option.map_eq_some_iff.1 hphone
  unfold signIn
  refine looksFirst_then (ensureValid_acts _) (fun _ past hpast => ?_) rfl
  simp only [hprovider, hnumber, hcode]
  refine looksFirst_required (looksFirst_required ?_ hpast) hpast
  rw [byCode, Flow.bind_assoc]
  refine looksFirst_check ?_ hpast
  refine Flow.Acts.bind ?_ fun user => ?_
  · refine (lookup_acts (.userByPhone _) trivial).bind fun found => ?_
    refine (Flow.acts_require _ _ _).bind fun user => ?_
    exact (clear_aside _).bind fun _ => pure_acts _
  · refine (Flow.acts_ensure _ _ _).bind fun _ => ?_
    exact (update_acts s user .phone ip).bind fun _ => pure_acts _

theorem complete_looksFirst {request : CompleteRequest} {ip : String}
    (h : (Call.complete request ip).presents phone code = true) :
    LooksFirstAlong phone code [] (complete s request ip) := by
  simp only [Call.presents, Bool.and_eq_true, beq_iff_eq] at h
  obtain ⟨rfl, rfl⟩ := h
  refine looksFirst_then (ensureValid_acts _) (fun _ past hpast => ?_) rfl
  refine looksFirst_then (provenEmail_acts _) (fun email past hpast => ?_) hpast
  refine looksFirst_check ?_ hpast
  refine (ensureFreeEmail_acts email).bind fun _ => (ensureFreePhone_acts _).bind fun _ => ?_
  refine (createUser_acts email _).bind fun user => (dropRequest_acts _).bind fun _ => ?_
  refine (clear_aside _).bind fun _ => ?_
  exact (create_acts s user .google ip).bind fun _ => pure_acts _

theorem sendCode_handling (request : SendCodeRequest) (past : List Event) :
    Handling phone past (sendCode s request) :=
  handling_then (ensureValid_acts _) (fun _ => handling_then (codeSubject_acts request)
    fun subject => issue_handling s subject) past

/-- The course of a call on a phone, whether or not it presents a code. -/
def Course (phone code : String) (k : Call) (past : List Event) (result : Except Failure k.Value) :
    Prop := k.presents phone code = true → LooksFirst phone code past result

theorem course_of_acts {k : Call} {f : Flow k.Value} (hf : f.Acts (Handles phone))
    (hk : k.presents phone code = false) :
    f.Along Timely (fun _ => Handles phone) (Course phone code k) [] := by
  refine .of_acts hf (J := fun _ => True) (fun _ _ _ _ _ => trivial) (fun _ _ ha _ => ha) ?_ trivial
  intro past result _ hp
  rw [hk] at hp
  cases hp

/-- Every call handles the codes of a phone as it should, and heeds them if it presents one. -/
theorem flow_course (phone code : String) (k : Call) :
    (k.flow s).Along Timely (fun _ => Handles phone) (Course phone code k) [] := by
  cases hp : k.presents phone code with
  | true =>
    cases k with
    | signIn request ip => exact (signIn_looksFirst s hp).mono fun _ _ h _ => h
    | complete request ip => exact (complete_looksFirst s hp).mono fun _ _ h _ => h
    | _ => cases hp
  | false =>
    cases k with
    | signUp request ip => exact course_of_acts (signUp_acts s request ip) hp
    | signIn request ip => exact course_of_acts (signIn_acts s request ip) hp
    | refresh token ip => exact course_of_acts (refresh_acts s token ip) hp
    | logout token => exact course_of_acts (logout_acts token) hp
    | redirect state => exact course_of_acts (redirectUrl_acts s state) hp
    | callback state code ip => exact course_of_acts (callback_acts s state code ip) hp
    | device googleToken ip => exact course_of_acts (fromDevice_acts s googleToken ip) hp
    | complete request ip => exact course_of_acts (complete_acts s request ip) hp
    | sendCode request =>
      exact (sendCode_handling s request []).mono fun _ _ _ h => absurd h (by rw [hp]; simp)

/-! ## Runs -/

/-- The cache is left alone; clock, accounts, chance and failures may change. -/
def Quiet (w w' : World) : Prop := w'.cache = w.cache

/-- Calls that have not done anything yet, on a cache where no key occurs twice. -/
structure Began (s : Setup) (sys : System Call.Value) : Prop where
  calls : ∀ t ∈ sys.threads, ∃ k, t = Thread.start (Call.flow s) k
  keyed : sys.world.cache.Keyed

/-- The event that the codes of a phone were voided, or the code stored. -/
def isChange (phone code : String) (e : Event) : Bool := isVoiding phone e || isStoring phone code e

/-- Whether the codes of a phone were voided and the code has not been stored since. -/
def isSpent (phone code : String) (log : List (Nat × Event)) : Bool :=
  (System.last? (isChange phone code) log).any (isVoiding phone ·.2)

theorem isSpent_append (phone code : String) (log : List (Nat × Event)) (i : Nat) (e : Event) :
    isSpent phone code (log ++ [(i, e)]) =
      (isVoiding phone e || (!isStoring phone code e && isSpent phone code log)) := by
  rw [isSpent, isSpent, System.last?_append, isChange]
  cases hv : isVoiding phone e <;> cases hs : isStoring phone code e <;> simp [hv]

variable {s : Setup} {start now : System Call.Value} {log : List (Nat × Event)}

theorem Began.along (hs : Began s start) (phone code : String)
    (h : System.Reaches Quiet start now) : now.world.cache.Keyed ∧ ∀ t ∈ now.threads,
      t.Follows Timely (fun _ _ => Handles phone) (Course phone code) := by
  refine h.follows (W := (·.cache.Keyed)) hs.keyed (fun t ht => ?_)
    (fun w _ _ act hw _ => ⟨w.perform_keyed hw act, timely_event w act⟩)
    (fun w w' hd hw => hd ▸ hw)
  obtain ⟨k, rfl⟩ := hs.calls t ht
  exact flow_course s phone code k

/-- While a code is spent, the cache lacks it. -/
theorem lacks_of_spent (hs : Began s start) (h : System.Runs Quiet start log now)
    (hspent : isSpent phone code log = true) : Lacks phone code now.world.cache := by
  induction h with
  | refl => cases hspent
  | @act log mid i k past act next hr hi ih =>
    obtain ⟨hkeyed, hfollow⟩ := hs.along phone code hr.reaches
    have hact := (hfollow _ (List.mem_of_getElem? hi)).1
    rw [isSpent_append] at hspent
    cases hv : isVoiding phone (mid.world.event act) with
    | true => exact lacks_of_voiding hv
    | false =>
      rw [hv, Bool.false_or, Bool.and_eq_true, Bool.not_eq_true'] at hspent
      exact lacks_perform (ih hspent.2) hkeyed hact hspent.1
  | @drift log mid w hr hd ih =>
    show Lacks phone code w.cache
    rw [hd]
    exact ih hspent

/-! ## Looks -/

/-- Whether an event of a log is a look of a call at the codes of a phone. -/
def isLook (phone : String) (i : Nat) (x : Nat × Event) : Bool :=
  x.1 == i && (seen? phone x.2).isSome

/-- What has happened before a call looked at the codes of a phone. -/
def untilLook (phone : String) (log : List (Nat × Event)) (i : Nat) : List (Nat × Event) :=
  log.takeWhile (!isLook phone i ·)

theorem look_of_any {i : Nat} (h : log.any (isLook phone i) = true) :
    ∃ e rest, log = untilLook phone log i ++ (i, e) :: rest ∧
      ∃ value, seen? phone e = some value := by
  obtain ⟨x, hx, hlook⟩ := List.any_eq_true.1 h
  have hne : log.dropWhile (!isLook phone i ·) ≠ [] := fun hnil => by
    have hall := List.dropWhile_eq_nil_iff.1 hnil x hx
    rw [hlook] at hall
    cases hall
  have hsplit : log = untilLook phone log i ++ log.dropWhile (!isLook phone i ·) :=
    List.takeWhile_append_dropWhile.symm
  obtain ⟨⟨j, e⟩, rest, hd⟩ := List.exists_cons_of_ne_nil hne
  have hhead : isLook phone i (j, e) = true := by
    have hnot := List.head_dropWhile_not (!isLook phone i ·) hne
    simp only [hd, List.head_cons, Bool.not_eq_false'] at hnot
    exact hnot
  obtain ⟨hj, hseen⟩ := Bool.and_eq_true_iff.1 hhead
  obtain rfl : j = i := eq_of_beq hj
  exact ⟨e, rest, hd ▸ hsplit, Option.isSome_iff_exists.1 hseen⟩

theorem Began.mem_log (hs : Began s start) (h : System.Runs Quiet start log now) {i : Nat}
    {e : Event} : (i, e) ∈ log ↔ ∃ t, now.threads[i]? = some t ∧ e ∈ t.past :=
  h.mem_log (System.past_nil_of_start hs.calls)

/-- A call that presents a code and looks when it is spent is refused. -/
theorem refused_of_spent (hs : Began s start) (h : System.Runs Quiet start log now) {i : Nat}
    {t : Thread Call.Value} (hi : now.threads[i]? = some t)
    (hp : t.call.presents phone code = true) (hlook : log.any (isLook phone i) = true)
    (hspent : isSpent phone code (untilLook phone log i) = true)
    {result : Except Failure (Call.Value t.call)} (hr : t.outcome? = some result) :
    result = .error .incorrectCode := by
  obtain ⟨e, rest, hlog, value, hseen⟩ := look_of_any hlook
  obtain ⟨mid, hmid, he⟩ := h.before hlog
  have hlacking : Lacking code value :=
    lacking_of_look (lacks_of_spent hs hmid hspent) (he ▸ hseen)
  have hmem : (i, e) ∈ log := by
    rw [hlog]
    exact List.mem_append_right _ List.mem_cons_self
  obtain ⟨t', hi', hpast⟩ := (hs.mem_log h).1 hmem
  obtain rfl : t' = t := Option.some.inj (hi'.symm.trans hi)
  have hcourse := ((hs.along phone code h.reaches).2 t' (List.mem_of_getElem? hi)).end hr hp
  exact hcourse.2 value (List.mem_filterMap.2 ⟨e, hpast, hseen⟩) hlacking

/-! ## Uses of a code -/

/-- Which of the codes that were stored a call relies on: how often the code had been stored when
the call looked. -/
def relied (phone code : String) (log : List (Nat × Event)) (i : Nat) : Nat :=
  (untilLook phone log i).countP (isStoring phone code ·.2)

/-- What has happened between the looks of two calls. -/
def betweenLooks (phone : String) (log : List (Nat × Event)) (i j : Nat) : List (Nat × Event) :=
  (untilLook phone log j).drop (untilLook phone log i).length ++
    (untilLook phone log i).drop (untilLook phone log j).length

/-- The calls that have succeeded with a code. -/
def spenders (phone code : String) (sys : System Call.Value) : List Nat :=
  (List.range sys.threads.length).filter fun i =>
    sys.threads[i]?.any fun t => t.call.presents phone code && t.succeeded

/-- Each time that the code is stored, at most one call succeeds with it. -/
def Once (phone code : String) (log : List (Nat × Event)) (sys : System Call.Value) : Prop :=
  ((spenders phone code sys).map (relied phone code log)).Nodup

/-- Between the looks of any two calls that succeed, the codes are voided or the code is stored
again. -/
def Parted (phone code : String) (log : List (Nat × Event)) (sys : System Call.Value) : Prop :=
  (spenders phone code sys).Pairwise fun i j =>
    (betweenLooks phone log i j).any (isChange phone code ·.2) = true

instance (phone code : String) (log : List (Nat × Event)) (sys : System Call.Value) :
    Decidable (Once phone code log sys) := inferInstanceAs (Decidable (List.Nodup _))

instance (phone code : String) (log : List (Nat × Event)) (sys : System Call.Value) :
    Decidable (Parted phone code log sys) := inferInstanceAs (Decidable (List.Pairwise _ _))

theorem exists_of_mem_spenders {sys : System Call.Value} {i : Nat}
    (h : i ∈ spenders phone code sys) :
    ∃ t, sys.threads[i]? = some t ∧ t.call.presents phone code = true ∧
      t.succeeded = true := by
  obtain ⟨t, ht, hboth⟩ := (Option.any_eq_true _ _).1 (List.mem_filter.1 h).2
  exact ⟨t, ht, Bool.and_eq_true_iff.1 hboth⟩

/-- No call succeeds that looks when the code is spent. -/
theorem not_spent_of_mem_spenders (hs : Began s start) (h : System.Runs Quiet start log now)
    {i : Nat} (hi : i ∈ spenders phone code now) :
    isSpent phone code (untilLook phone log i) = false := by
  obtain ⟨t, ht, hp, hok⟩ := exists_of_mem_spenders hi
  obtain ⟨value, hvalue⟩ := Thread.exists_of_succeeded hok
  have hcourse := ((hs.along phone code h.reaches).2 t (List.mem_of_getElem? ht)).end hvalue hp
  have hlook : log.any (isLook phone i) = true := by
    have hne : glimpses phone t.past ≠ [] := fun hnil => by
      obtain ⟨e, he⟩ := hcourse.1 hnil
      cases he
    obtain ⟨value, hmem⟩ := List.exists_mem_of_ne_nil _ hne
    obtain ⟨e, he, hseen⟩ := List.mem_filterMap.1 hmem
    refine List.any_eq_true.2 ⟨(i, e), (hs.mem_log h).2 ⟨t, ht, he⟩, ?_⟩
    simp [isLook, hseen]
  refine Bool.eq_false_iff.2 fun hspent => ?_
  cases refused_of_spent hs h ht hp hlook hspent hvalue

/-- Where the codes were voided and the code was not stored again, it is spent. -/
theorem isSpent_of_change {before after : List (Nat × Event)}
    (hc : after.any (isChange phone code ·.2) = true)
    (hs : after.countP (isStoring phone code ·.2) = 0) :
    isSpent phone code (before ++ after) = true := by
  obtain ⟨x, hx, hkind⟩ := List.any_eq_true.1 hc
  obtain ⟨y, hy⟩ := System.exists_last? (p := isChange phone code) hx hkind
  obtain ⟨hmem, hlast⟩ := System.mem_of_last? hy
  have hlog : System.last? (isChange phone code) (before ++ after) = some y := by
    rw [System.last?] at hy ⊢
    rw [List.reverse_append, List.find?_append, hy]
    rfl
  have hnot := List.countP_eq_zero.1 hs y hmem
  rw [isSpent, hlog, Option.any_some]
  exact (Bool.or_eq_true_iff.1 hlast).resolve_right hnot

/-- Unless a code is spent, it was stored again exactly if there was any change. -/
theorem countP_ne_iff {before after : List (Nat × Event)}
    (h : isSpent phone code (before ++ after) = false) :
    before.countP (isStoring phone code ·.2) ≠ (before ++ after).countP (isStoring phone code ·.2) ↔
      after.any (isChange phone code ·.2) = true := by
  rw [List.countP_append]
  constructor
  · intro hne
    have hpos : 0 < after.countP (isStoring phone code ·.2) := by omega
    obtain ⟨x, hx, hstoring⟩ := List.countP_pos_iff.1 hpos
    exact List.any_eq_true.2 ⟨x, hx, Bool.or_eq_true_iff.2 (.inr hstoring)⟩
  · intro hc heq
    rw [isSpent_of_change hc (by omega)] at h
    cases h

theorem prefix_untilLook (phone : String) (log : List (Nat × Event)) (i : Nat) :
    untilLook phone log i <+: log := List.takeWhile_prefix _

theorem relied_ne_iff (hs : Began s start) (h : System.Runs Quiet start log now) {i j : Nat}
    (hi : i ∈ spenders phone code now) (hj : j ∈ spenders phone code now) :
    relied phone code log i ≠ relied phone code log j ↔
      (betweenLooks phone log i j).any (isChange phone code ·.2) = true := by
  have hnoti := not_spent_of_mem_spenders hs h hi
  have hnotj := not_spent_of_mem_spenders hs h hj
  unfold relied betweenLooks
  rcases List.prefix_or_prefix_of_prefix (prefix_untilLook phone log i)
    (prefix_untilLook phone log j) with ⟨rest, hrest⟩ | ⟨rest, hrest⟩
  · rw [← hrest] at hnotj ⊢
    rw [List.drop_left, List.drop_of_length_le (by simp), List.append_nil]
    exact countP_ne_iff hnotj
  · rw [← hrest] at hnoti ⊢
    rw [List.drop_left, List.drop_of_length_le (by simp), List.nil_append, ne_comm]
    exact countP_ne_iff hnoti

/-- Calls present codes of a phone, and issue and void them, at the same time and in every order of
their acts, while time passes and codes expire: each time that a code is stored, at most one call
succeeds with it, exactly if between the looks of any two such calls the codes are voided or the
code is stored again. Whoever looks after the codes were voided, with the code not stored since, is
refused. -/
theorem once_iff_parted (hs : Began s start) (h : System.Runs Quiet start log now)
    (phone code : String) : (Once phone code log now ↔ Parted phone code log now) ∧
      ∀ (i : Nat) (t : Thread Call.Value), now.threads[i]? = some t →
        t.call.presents phone code = true → t.outcome?.isSome = true →
        log.any (isLook phone i) = true → isSpent phone code (untilLook phone log i) = true →
        t.outcome? = some (.error .incorrectCode) := by
  refine ⟨?_, fun i t hi hp hdone hlook hspent => ?_⟩
  · rw [Once, List.Nodup, List.pairwise_map]
    exact List.Pairwise.iff_of_mem fun hi hj => relied_ne_iff hs h hi hj
  · obtain ⟨result, hresult⟩ := Option.isSome_iff_exists.1 hdone
    rw [hresult, refused_of_spent hs h hi hp hlook hspent hresult]

/-! ## Two logins -/

/-- A code is sent to a phone, and presented by two logins. -/
def logins : System Call.Value where
  world := { Sample.world with
    store := { users := [{ Sample.ada with phone := some "77082260629" }] } }
  threads := [.sendCode ⟨.phone, none, some "77082260629", none⟩,
    .signIn ⟨.phone, none, none, some "77082260629", some "100000"⟩ "192.0.2.1",
    .signIn ⟨.phone, none, none, some "87082260629", some "100000"⟩ "192.0.2.2"].map
      (Thread.start (Call.flow Sample.setup))

theorem logins_began : Began Sample.setup logins := by
  refine ⟨fun t ht => ?_, List.nodup_nil⟩
  obtain ⟨k, -, rfl⟩ := List.mem_map.1 ht
  exact ⟨k, rfl⟩

/-- The second login looks after the first one has voided the codes. -/
def turnOrder : List Nat := List.replicate 6 0 ++ List.replicate 11 1 ++ [2]

/-- Both logins look before either voids the codes. -/
def crossedOrder : List Nat :=
  List.replicate 6 0 ++ [1, 2] ++ List.replicate 10 1 ++ List.replicate 9 2

/-- The first login succeeds with the code, and the second one is refused. -/
theorem once_of_turnOrder :
    Once "77082260629" "100000" (System.logOf turnOrder logins) (logins.schedule turnOrder) ∧
      ∃ t, (logins.schedule turnOrder).threads[2]? = some t ∧
        t.outcome? = some (.error .incorrectCode) := by
  obtain ⟨honce, hrefused⟩ := once_iff_parted logins_began
    (System.Runs.refl.schedule turnOrder) "77082260629" "100000"
  refine ⟨honce.2 (by decide +kernel), _, List.getElem?_eq_getElem (by decide +kernel), ?_⟩
  exact hrefused 2 _ (List.getElem?_eq_getElem _) (by decide +kernel) (by decide +kernel)
    (by decide +kernel) (by decide +kernel)

/-- The code is stored once, and both logins succeed with it. -/
theorem twice_of_crossedOrder :
    Began Sample.setup logins ∧
      System.Runs Quiet logins (System.logOf crossedOrder logins)
        (logins.schedule crossedOrder) ∧
      (System.logOf crossedOrder logins).countP
        (isStoring "77082260629" "100000" ·.2) = 1 ∧
      spenders "77082260629" "100000" (logins.schedule crossedOrder) = [1, 2] ∧
      ¬ Once "77082260629" "100000" (System.logOf crossedOrder logins)
        (logins.schedule crossedOrder) :=
  ⟨logins_began, System.Runs.refl.schedule crossedOrder, by decide +kernel, by decide +kernel,
    by decide +kernel⟩

end SignOn.Account
