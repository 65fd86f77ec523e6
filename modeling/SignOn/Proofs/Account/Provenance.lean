import SignOn.Proofs.Account.Chronicle
import SignOn.Proofs.Verification.Subjects
/-!
Where the accounts come from that carry a proven email. Such an account is opened by a callback, in
the window of a claim that was not redeemed before, or by the completion of a request that a device
was given for a profile, with a code that was sent to the phone of the account. Each of these proofs
is kept in the cache under a key of its own, expires there, and is spent by its use. So they are
found by looking for the call that wrote what the completion or the callback has read
(`google_proven`).
-/

namespace SignOn.Account

open SignOn.Keyspace SignOn.Verification
open SignOn.Google (Ready Visit Visited Elsewhere Within claimed? readAt)

/-! ## What records say -/

namespace Record

/-- The UUIDs that were drawn during a call. -/
def drawn (r : Record) : List Uuid := r.events.filterMap fun
  | ⟨.uuid, id⟩ => some id
  | _ => none

/-- The request id that a device was given. -/
def requestId? : Record → Option String
  | ⟨.device .., _, .ok answer, _, _⟩ => answer.requestId
  | _ => none

/-- The request that was completed. -/
def completed? : Record → Option String
  | ⟨.complete request _, _, .ok _, _, _⟩ => some request.requestId
  | _ => none

/-- A code was asked for by a phone. -/
def SentTo (phone : String) (r : Record) : Prop :=
  ∃ request, r.call = .sendCode request ∧ subjectOf? request = some (.phone phone)

/-- The call on a state, if it is one. -/
def visit? (state : String) : Record → Option (Thread Visit.Value)
  | ⟨.redirect other, events, result, _, _⟩ =>
    if other = state then some ⟨.redirect other, events, Flow.ofExcept result⟩ else none
  | ⟨.callback other code ip, events, result, _, _⟩ =>
    if other = state then some ⟨.callback other code ip, events, Flow.ofExcept result⟩ else none
  | _ => none

end Record

/-- The calls on a state. -/
def visits (state : String) (records : List Record) : List (Thread Visit.Value) :=
  records.filterMap (Record.visit? state)

/-- After some calls, the latest first, a code stands in the live bundle of a phone: it was issued
to the phone, and since then the bundle was never voided, and never left alone for as long as it
lives. -/
inductive Live (s : Setup) (phone code : String) : Int → List Record → Prop where
  /-- The latest call has issued the code. -/
  | issued {now : Int} {r : Record} {earlier : List Record} (hr : r.SentTo phone)
      (hcode : r.events.any (isStoring phone code) = true)
      (hlive : now < r.ended + bundleMillis s) :
      Live s phone code now (r :: earlier)
  /-- The latest call has issued a code to the phone when this one stood in its bundle. -/
  | kept {now : Int} {r : Record} {earlier : List Record} (hr : r.SentTo phone)
      (hstored : ∃ e ∈ r.events, Stored (.phone phone) e)
      (hlive : now < r.ended + bundleMillis s)
      (hearlier : Live s phone code r.began earlier) : Live s phone code now (r :: earlier)
  /-- The latest call has left the bundle alone. -/
  | aside {now : Int} {r : Record} {earlier : List Record}
      (hspare : LeavesKey (Bundles.key (.phone phone)) r.events)
      (hearlier : Live s phone code now earlier) : Live s phone code now (r :: earlier)

/-- How an account with a proven email was opened by a call, after the calls before it. -/
inductive Proven (s : Setup) (user : User) (before : List Record) (e : Record) : Prop where
  /-- By a callback, in the window of a claim that was not redeemed before, with the email of the
  profile. -/
  | callback {state code ip email : String} {claimedAt now : Int}
      (hcall : e.call = .callback state code ip)
      (hclaim : claimed? state (visits state before) = some claimedAt)
      (hnow : readAt e.events = some now) (hwindow : Within s claimedAt now)
      (hprofile : HasProven e.events email) (hemail : user.email = some email)
  /-- By the completion of a request that a device was given lately for the email of its profile,
  and that nobody has completed before, with a code that stood in the live bundle of the phone. -/
  | completion {request : CompleteRequest} {ip email : String} {between earlier : List Record}
      {device : Record} (hcall : e.call = .complete request ip)
      (hbefore : before = between ++ device :: earlier)
      (hgiven : device.requestId? = some request.requestId)
      (hlately : e.began < device.ended + s.settings.oauth.requestTtl * 1000)
      (hunused : ∀ r ∈ before, r.completed? ≠ some request.requestId)
      (hprofile : HasProven device.events email) (hemail : user.email = some email)
      (hphone : user.phone = some (Phone.normalize request.phone))
      (hcode : Live s (Phone.normalize request.phone) request.code e.began before)

/-- A world in which nothing has happened yet, and whose cache works. -/
structure Blank (start : World) : Prop where
  store : start.store = {}
  cache : start.cache = {}
  ready : Ready start

variable {s : Setup} {start w w' w₁ w₂ later : World} {records before earlier : List Record}
  {r e : Record} {user : User} {k : Call} {pre post events : List Event} {x : Event}
  {phone code id state email : String}

/-! ## What a call may write under a key -/

/-- A command other than a look is bound by the keys it is on. -/
theorem MayDo.of_cache {cmd : Cache.Command} (h : MayDo s k pre (.cache cmd))
    (hget : ∀ key, cmd ≠ .get key) :
    (∀ id, cmd.key? = some (Requests.key id) → TendsRequest s k pre id cmd) ∧
    (∀ subject, cmd.key? = some (Bundles.key subject) → TendsBundle s k pre subject cmd) ∧
    ∀ state, cmd.key? = some (States.key state) → IsOnState state k := by
  cases cmd with
  | get key => exact absurd rfl (hget key)
  | _ => exact h

/-- Only calls on a state do anything to its key. -/
theorem RecordAt.leavesKey_state (h : RecordAt s start before r w w')
    (hr : ¬ IsOnState state r.call) : LeavesKey (States.key state) r.events := by
  intro e he
  by_contra heffect
  obtain ⟨cmd, hact, hkey, hget⟩ := exists_of_effect? heffect
  obtain ⟨pre, post, hsplit⟩ := List.append_of_mem he
  have hmay := h.acts pre e post hsplit
  rw [hact] at hmay
  exact hr ((hmay.of_cache hget).2.2 state hkey)

/-- A call that has written an email under a request id is that of a device, which was given the id.
-/
theorem RecordAt.given (h : RecordAt s start before r w w') (hsplit : r.events = pre ++ x :: post)
    {written : Bytes × Option Cache.Lifetime}
    (hx : effect? (Requests.key id) x = some (some written)) :
    r.requestId? = some id ∧ ∃ email uuid, written = (Text.utf8 email, some s.requestLifetime) ∧
      HasProven r.events email ∧ uuid ∈ r.drawn ∧ id = uuid.text := by
  obtain ⟨cmd, hact, hkey, hget⟩ := exists_of_effect? (by rw [hx]; intro h; cases h)
  have hmay := h.acts pre x post hsplit
  have hmem : x ∈ r.events := by simp [hsplit]
  have hsub : pre ⊆ r.events := hsplit ▸ List.subset_append_left _ _
  rw [hact] at hmay
  obtain ⟨act, answer⟩ := x
  obtain rfl : act = .cache cmd := hact
  rcases (hmay.of_cache hget).1 id hkey with
    ⟨rfl, -⟩ | ⟨email, uuid, rfl, ⟨token, ip, hdevice⟩, hproven, hdrawn, hid⟩
  · rcases answer with e | _
    · cases hx
    · simp [effect?] at hx
  · rcases answer with e | _ | _
    · cases hx
    · cases hx
    · have hput : HasPut r.events id := ⟨_, hmem, rfl⟩
      have hend := h.ending
      simp only [effect?, if_true, Option.some.injEq] at hx
      refine ⟨?_, email, uuid, hx.symm, hproven.mono hsub, ?_, hid⟩
      · obtain ⟨call, events, result, began, ended⟩ := r
        obtain rfl : call = .device token ip := hdevice
        obtain ⟨answer, rfl, hanswer⟩ := hend id hput
        exact hanswer
      · exact List.mem_filterMap.2 ⟨_, hsub hdrawn, rfl⟩

/-- The email of a request to send a code passes for one. -/
theorem accepts_of_violations {emails : Mail.AddressRule} {request : SendCodeRequest}
    {address : String} (hv : request.violations emails = [])
    (hs : subjectOf? request = some (.email address)) : emails.accepts address = true := by
  have hemail : request.email = some address := by
    unfold subjectOf? at hs
    split at hs
    · obtain ⟨email, he, hsubject⟩ := Option.map_eq_some_iff.1 hs
      cases hsubject
      exact he
    · obtain ⟨number, -, hsubject⟩ := Option.map_eq_some_iff.1 hs
      cases hsubject
    · cases hs
  by_contra hinvalid
  simp [SendCodeRequest.violations, hemail, checkPresent, checkEmail, Rule.check, hinvalid] at hv

/-- What a call has stored under the key of a phone was meant for the phone, and it was put behind
the codes that were found there. -/
theorem RecordAt.stocked (h : RecordAt s start before r w w') (hphone : '@' ∉ phone.toList)
    (hsplit : r.events = pre ++ x :: post) {written : Bytes × Option Cache.Lifetime}
    (hx : effect? (Bundles.key (.phone phone)) x = some (some written)) :
    r.SentTo phone ∧ LeavesKey (Bundles.key (.phone phone)) pre ∧ ∃ expected value,
      x = ⟨.cache (.swap (Bundles.key (.phone phone)) expected value s.bundleLifetime), .ok true⟩ ∧
      written = (value, some s.bundleLifetime) ∧ Extends expected value := by
  -- Whatever the call does to the key, it is bound by what it was sent for.
  have hbound {pre post : List Event} {y : Event} (hsplit : r.events = pre ++ y :: post)
      (hy : effect? (Bundles.key (.phone phone)) y ≠ none) : ∃ cmd, y.act = .cache cmd ∧
        TendsBundle s r.call pre (.phone phone) cmd := by
    obtain ⟨cmd, hact, hkey, hget⟩ := exists_of_effect? hy
    have hmay := h.acts pre y post hsplit
    rw [hact] at hmay
    exact ⟨cmd, hact, (hmay.of_cache hget).2.1 _ hkey⟩
  obtain ⟨cmd, hact, htends⟩ := hbound hsplit (by rw [hx]; intro he; cases he)
  obtain ⟨act, answer⟩ := x
  obtain rfl : act = .cache cmd := hact
  rcases htends with
    ⟨rfl, -⟩ | ⟨request, expected, value, rfl, hcall, hv, hext, hpre, receiver, hsubject, hkey⟩
  · rcases answer with e | _
    · cases hx
    · simp [effect?] at hx
  · have hsent : r.SentTo phone := by
      refine ⟨request, hcall, ?_⟩
      cases receiver with
      | email address =>
        obtain rfl : address = phone := hkey
        exact absurd (s.emails.at_mem _ (accepts_of_violations hv hsubject)) hphone
      | phone number =>
        obtain rfl : number = phone := hkey
        exact hsubject
    rcases answer with e | _ | _
    · cases hx
    · cases hx
    · simp only [effect?, if_true, Option.some.injEq] at hx
      refine ⟨hsent, fun y hy => ?_, expected, value, rfl, hx.symm, hext⟩
      by_contra heffect
      obtain ⟨before, between, rfl⟩ := List.append_of_mem hy
      rw [List.append_assoc, List.cons_append] at hsplit
      obtain ⟨cmd, hact, htends⟩ := hbound hsplit heffect
      obtain ⟨act, answer⟩ := y
      obtain rfl : act = .cache cmd := hact
      rcases htends with ⟨-, hno⟩ | ⟨_, _, _, rfl, -⟩
      · exact hno request hcall
      · rcases answer with e | _ | _
        · exact heffect rfl
        · exact heffect rfl
        · exact hpre _ hy ⟨_, _, _, rfl⟩

theorem read_of_swapped (hw : Ready w) {act : Act} {key : String} {expected : Option Bytes}
    {value : Bytes} {lifetime : Cache.Lifetime}
    (h : w.event act = ⟨.cache (.swap key expected value lifetime), .ok true⟩) :
    w.cache.read? w.millis key = expected := by
  obtain rfl : act = .cache (.swap key expected value lifetime) := congrArg Event.act h
  have hanswer : (w.perform (.cache (.swap key expected value lifetime))).1 = .ok true :=
    eq_of_heq (Event.mk.inj h).2
  rw [hw.steady.perform] at hanswer
  have htrue := Except.ok.inj hanswer
  rw [Cache.Memory.perform] at htrue
  split at htrue
  · next hread => exact hread
  · cases htrue

/-- What is read of a value has not outlived it. -/
theorem lt_of_readLater {value found : Bytes} {seconds : Nat} (h : readLater w.millis later.millis
    (value, some (Cache.Lifetime.ofSeconds seconds)) = some found) :
    later.millis < w.millis + seconds * 1000 := by
  rw [readLater] at h
  split at h
  · next hlive =>
    rw [later.millis_lt_expiry_iff w.millis_calendar.1, Cache.Lifetime.millis_ofSeconds] at hlive
    omega
  · cases h

/-! ## Codes -/

theorem Live.mono {now now' : Int} (h : Live s phone code now records) (hle : now' ≤ now) :
    Live s phone code now' records := by
  induction h with
  | issued hr hcode hlive => exact .issued hr hcode (by omega)
  | kept hr hstored hlive hearlier _ => exact .kept hr hstored (by omega) hearlier
  | aside hspare _ ih => exact .aside hspare (ih hle)

/-- A code that is found by a phone stands in its live bundle. -/
theorem Chronicle.live (hb : Blank start) (h : Chronicle s start records w)
    (hphone : '@' ∉ phone.toList) (hle : w.millis ≤ later.millis)
    (hcode : code ∈ ((w.cache.read? later.millis (Bundles.key (.phone phone))).bind codesOf).getD
      []) : Live s phone code later.millis records := by
  induction h generalizing later with
  | start =>
    rw [hb.cache] at hcode
    cases hcode
  | wait _ hd ih => exact ih (Int.le_trans hd.forward hle) (hd.cache ▸ hcode)
  | @call records w w' events k result h ht ih =>
    have hrecorded := RecordAt.of_call h ht
    have hready := h.ready hb.ready
    cases hread : w'.cache.read? later.millis (Bundles.key (.phone phone)) with
    | none =>
      rw [hread] at hcode
      cases hcode
    | some found =>
      rcases hrecorded.steps.source hle hread with ⟨hspare, hbefore⟩ |
        ⟨pre, x, post, w₁, w₂, written, rfl, hamid, hx, hlater⟩
      · exact .aside hspare (ih (Int.le_trans hrecorded.steps.forward hle)
          (by rw [hbefore, ← hread]; exact hcode))
      · -- The code is the one that was put there, or it stood there when the call began.
        obtain ⟨hsent, hspare, expected, value, rfl, rfl, base, last, hcodes, hbase⟩ :=
          hrecorded.stocked hphone rfl hx
        have hstored : (⟨.cache (.swap (Bundles.key (.phone phone)) expected value
            s.bundleLifetime), .ok true⟩ : Event) ∈ pre ++ ⟨.cache (.swap (Bundles.key
            (.phone phone)) expected value s.bundleLifetime), .ok true⟩ :: post := by simp
        have hlive : later.millis < w'.millis + bundleMillis s := by
          have hlt := lt_of_readLater hlater
          have huntil := hamid.until
          rw [bundleMillis]
          omega
        obtain rfl : value = found := readLater_eq_some hlater
        rw [hread, Option.bind_some, hcodes] at hcode
        rcases List.mem_append.1 hcode with hold | hnew
        · have hready₂ := hamid.drift.ready
          have hexpected := read_of_swapped hready₂ hamid.event.symm
          have hfound : w.cache.read? w₂.millis (Bundles.key (.phone phone)) = expected := by
            rw [← hamid.before.read hspare hamid.drift.forward,
              ← hamid.drift.cache, hexpected]
          have hearlier := ih hamid.since (by rw [hfound]; exact hbase code hold)
          exact .kept hsent ⟨_, hstored, _, _, _, rfl⟩ hlive (hearlier.mono hamid.since)
        · rw [List.mem_singleton] at hnew
          refine .issued hsent (List.any_eq_true.2 ⟨_, hstored, ?_⟩) hlive
          simp [isStoring, hcodes, hnew]

/-! ## Requests -/

/-- A device was given a request id for the email of its profile, before now, and the calls since
then have left the request alone. The id was drawn for it. -/
structure Given (s : Setup) (id email : String) (now : Int) (between : List Record)
    (device : Record) (uuid : Uuid) : Prop where
  spared : ∀ x ∈ between, LeavesKey (Requests.key id) x.events
  given : device.requestId? = some id
  lately : now < device.ended + s.settings.oauth.requestTtl * 1000
  profile : HasProven device.events email
  drawn : uuid ∈ device.drawn
  named : id = uuid.text

/-- A request that a completion finds was given to a device. -/
theorem RecordAt.given_of_looked (hb : Blank start) (h : RecordAt s start before e w w')
    {request : CompleteRequest} (hlooked : HasLooked request e.events email) :
    ∃ between device earlier uuid, before = between ++ device :: earlier ∧
      Given s request.requestId email e.began between device uuid := by
  obtain ⟨value, codes, loaded, rest, hevents, hvalue, -⟩ := hlooked
  have hsteps := h.steps
  rw [hevents] at hsteps
  have hfirst : Steps w ([] ++ ⟨.cache (.get (Requests.key request.requestId)), .ok value⟩ ::
      _ :: rest) w' := hsteps
  obtain ⟨later, hle, hread⟩ := hfirst.looked fun _ he => absurd he List.not_mem_nil
  cases value with
  | none => cases hvalue
  | some value =>
    obtain ⟨between, device, earlier, pre, x, rfl, hspared, ⟨post, hsplit⟩, wx, written, huntil,
      hx, hlater⟩ := h.earlier.source hb.cache hle hread
    obtain ⟨w₁, w₂, hdevice⟩ := h.earlier.recordAt
    obtain ⟨hgiven, email', uuid, rfl, hprofile, hdrawn, hnamed⟩ := hdevice.given hsplit hx
    obtain rfl : Text.utf8 email' = value := readLater_eq_some hlater
    have hemail : email' = email := by
      simp only [Requests.ofValue, Option.bind_some, Text.ofUtf8?_utf8] at hvalue
      exact Option.some.inj (Option.eq_some_of_filter_eq_some hvalue)
    have hlt := lt_of_readLater hlater
    have hbegan := h.began
    exact ⟨between, device, earlier, uuid, rfl, hspared, hgiven, by omega, hemail ▸ hprofile,
      hdrawn, hnamed⟩

/-- A completion that has succeeded has found its request, and has dropped it. -/
theorem RecordAt.completed (h : RecordAt s start before r w w') (hr : r.completed? = some id) :
    (∃ request email, request.requestId = id ∧ HasLooked request r.events email) ∧
      ⟨.cache (.delete (Requests.key id)), .ok ()⟩ ∈ r.events := by
  have hend := h.ending
  obtain ⟨call, events, result, began, ended⟩ := r
  cases call with
  | complete request ip =>
    cases result with
    | ok answer =>
      obtain rfl : request.requestId = id := Option.some.inj hr
      obtain ⟨⟨email, hlooked⟩, hdropped⟩ := hend
      exact ⟨⟨request, email, rfl, hlooked⟩, hdropped⟩
    | error e => cases hr
  | _ => cases hr

theorem requestId?_of_completed? (hr : r.completed? = some id) : r.requestId? = none := by
  obtain ⟨call, events, result, began, ended⟩ := r
  cases call with
  | complete request ip => rfl
  | _ => cases hr

/-- Nobody has completed a request that is still there: its id was drawn once, so the request was
not there before its device came. -/
theorem Given.unused (hb : Blank start) {between : List Record} {device : Record} {uuid : Uuid}
    {now : Int} (hg : Given s id email now between device uuid)
    (h : Chronicle s start (between ++ device :: earlier) w)
    (hd : ((between ++ device :: earlier).flatMap Record.drawn).Nodup) :
    ∀ r ∈ between ++ device :: earlier, r.completed? ≠ some id := by
  intro r hr hcompleted
  rcases List.mem_append.1 hr with hr | hr
  · obtain ⟨after, before, rfl⟩ := List.append_of_mem hr
    rw [List.append_assoc, List.cons_append] at h
    obtain ⟨w₁, w₂, hrecorded⟩ := h.recordAt
    have hspared := hg.spared r hr _ (hrecorded.completed hcompleted).2
    simp [effect?] at hspared
  · rcases List.mem_cons.1 hr with rfl | hr
    · have hnone := requestId?_of_completed? hcompleted
      rw [hg.given] at hnone
      cases hnone
    · obtain ⟨after, before, rfl⟩ := List.append_of_mem hr
      rw [← List.cons_append, ← List.append_assoc] at h
      obtain ⟨w₁, w₂, hrecorded⟩ := h.recordAt
      obtain ⟨⟨request, email', rfl, hlooked⟩, -⟩ := hrecorded.completed hcompleted
      obtain ⟨between', device', earlier', uuid', rfl, hg'⟩ := hrecorded.given_of_looked hb hlooked
      have hsame : uuid' = uuid := Uuid.text_injective (hg'.named.symm.trans hg.named)
      have hagain : uuid ∈ (after ++ r :: (between' ++ device' :: earlier')).flatMap
          Record.drawn := List.mem_flatMap.2 ⟨device', by simp, hsame ▸ hg'.drawn⟩
      rw [List.flatMap_append, List.flatMap_cons] at hd
      have hapart := (List.nodup_append.1 (List.nodup_append.1 hd).2.1).2.2
      exact hapart uuid hg.drawn uuid hagain rfl

/-! ## Callbacks -/

theorem Chronicle.visited (hr : Ready start) (h : Chronicle s start records w) (state : String) :
    Visited s state start (visits state records) w := by
  induction h with
  | start => exact .start
  | wait _ hd ih => exact ih.wait ⟨hd.forward, hd.ready, fun later _ => by rw [hd.cache]⟩
  | @call records w w' events k result h ht ih =>
    have hrecorded := RecordAt.of_call h ht
    by_cases hk : IsOnState state k
    · cases k with
      | redirect other =>
        obtain rfl : other = state := hk
        have hvisit := ih.visit (.redirect other) rfl ht
        simpa [visits, Record.visit?] using hvisit
      | callback other code ip =>
        obtain rfl : other = state := hk
        have hvisit := ih.visit (.callback other code ip) rfl ht
        simpa [visits, Record.visit?] using hvisit
      | _ => exact hk.elim
    · have hnone : Record.visit? state ⟨k, events, result, w.millis, w'.millis⟩ = none := by
        cases k with
        | redirect other => exact if_neg hk
        | callback other code ip => exact if_neg hk
        | _ => rfl
      rw [visits, List.filterMap_cons_none hnone]
      exact ih.wait ⟨hrecorded.steps.forward, hrecorded.steps.ready (h.ready hr),
        fun later hle => hrecorded.steps.read (hrecorded.leavesKey_state hk) hle⟩

/-- A callback that has been given a profile is in the window of a claim. -/
theorem RecordAt.inWindow {code ip : String} (hb : Blank start) (h : RecordAt s start before e w w')
    (hcall : e.call = .callback state code ip) (hproven : HasProven e.events email) :
    ∃ claimedAt now, claimed? state (visits state before) = some claimedAt ∧
      readAt e.events = some now ∧ Within s claimedAt now := by
  obtain ⟨call, events, result, began, ended⟩ := e
  obtain rfl : call = .callback state code ip := hcall
  obtain ⟨token, profile, hprofile, -⟩ := hproven
  have hfree : Google.Unread state start := fun _ _ => by rw [hb.cache]; rfl
  have hclaim := ((h.earlier.visited hb.ready state).claimed hb.ready hfree).2
  have hcontact : events.any Google.isContact = true := List.any_eq_true.2 ⟨_, hprofile, rfl⟩
  have hend : Google.Ends s state w _ events result w' :=
    (Google.callback_traced hclaim).of_traces h.traces
  cases hend with
  | refused _ hc _ _ =>
    rw [hc] at hcontact
    cases hcontact
  | failed hasked _ _ _ => exact hasked.within
  | redeemed hasked _ _ _ => exact hasked.within

/-! ## Completions -/

/-- A completion that has found its code has found it in the live bundle of its phone. -/
theorem RecordAt.live (hb : Blank start) (h : RecordAt s start before e w w')
    {request : CompleteRequest} (hv : request.violations = [])
    (hlooked : HasLooked request e.events email) :
    Live s (Phone.normalize request.phone) request.code e.began before := by
  obtain ⟨value, codes, loaded, rest, hevents, -, hloaded, hcontains⟩ := hlooked
  have hsteps := h.steps
  rw [hevents] at hsteps
  have hsecond : Steps w ([⟨.cache (.get (Requests.key request.requestId)), .ok value⟩] ++
      ⟨.cache (.get (Bundles.key (.phone (Phone.normalize request.phone)))), .ok codes⟩ ::
        rest) w' := hsteps
  obtain ⟨later, hle, hread⟩ := hsecond.looked fun _ he => List.mem_singleton.1 he ▸ rfl
  have hphone : Phone.isValid request.phone = true := by
    by_contra hinvalid
    simp [CompleteRequest.violations, checkPhone, Rule.check, hinvalid] at hv
  have hheld : (codes.bind codesOf).getD [] = loaded.bundle.codes :=
    codesOf_of_ofValue (ofValue_raw hloaded ▸ hloaded)
  have hcode : request.code ∈ ((w.cache.read? later.millis (Bundles.key (.phone
      (Phone.normalize request.phone)))).bind codesOf).getD [] := by
    rw [hread, hheld]
    exact List.contains_iff_mem.1 hcontains
  rw [h.began]
  exact (h.earlier.live hb (Phone.at_not_mem_normalize hphone) hle hcode).mono hle

/-- Every account with a proven email was opened by a call that proves it. -/
theorem google_proven (hb : Blank start) (h : Chronicle s start records w)
    (hd : (records.flatMap Record.drawn).Nodup) (hu : user ∈ w.store.users)
    (hg : user.provider = .google) : ∃ after e before, records = after ++ e :: before ∧
      Registers e.events (asNew user) user ∧ Proven s user before e := by
  obtain ⟨e, he, hreg⟩ := h.registered hb.store hu
  obtain ⟨after, before, rfl⟩ := List.append_of_mem he
  obtain ⟨w₁, w₂, hrecorded⟩ := h.recordAt
  refine ⟨after, e, before, rfl, hreg, ?_⟩
  obtain ⟨pre, post, hsplit⟩ := List.append_of_mem hreg
  have hsub : pre ⊆ e.events := hsplit ▸ List.subset_append_left _ _
  have hfounds : Founds s pre (asNew user) e.call := hrecorded.acts pre _ post hsplit
  cases hcall : e.call with
  | signUp request ip =>
    rw [hcall] at hfounds
    have hprovider : user.provider = .email := hfounds.1
    rw [hg] at hprovider
    cases hprovider
  | callback state code ip =>
    rw [hcall] at hfounds
    obtain ⟨-, -, email, hemail, hproven⟩ := hfounds
    have hprofile := hproven.mono hsub
    obtain ⟨claimedAt, now, hclaim, hnow, hwindow⟩ := hrecorded.inWindow hb hcall hprofile
    exact .callback hcall hclaim hnow hwindow hprofile hemail
  | complete request ip =>
    rw [hcall] at hfounds
    obtain ⟨-, -, hv, hphone, email, hemail, hlooked⟩ := hfounds
    have hlooked : HasLooked request e.events email := hsplit ▸ hlooked.append _
    have hcode := hrecorded.live hb hv hlooked
    obtain ⟨between, device, earlier, uuid, rfl, hgiven⟩ := hrecorded.given_of_looked hb hlooked
    have hdrawn : ((between ++ device :: earlier).flatMap Record.drawn).Nodup := by
      rw [List.flatMap_append, List.flatMap_cons] at hd
      exact (List.nodup_append.1 (List.nodup_append.1 hd).2.1).2.1
    exact .completion hcall rfl hgiven.given hgiven.lately
      (hgiven.unused hb hrecorded.earlier hdrawn) hgiven.profile hemail hphone hcode
  | _ =>
    rw [hcall] at hfounds
    exact hfounds.elim

/-! ## Two newcomers -/

/-- The record of a call during which time stands still. -/
def recorded (s : Setup) (k : Call) (w : World) : Record :=
  ⟨k, (k.flow s).log w, ((k.flow s).run w).1, w.millis, ((k.flow s).run w).2.millis⟩

/-- What calls leave that follow one another while time stands still. -/
def follow (s : Setup) : List Call → List Record × World → List Record × World
  | [], told => told
  | k :: calls, (records, w) => follow s calls (recorded s k w :: records, ((k.flow s).run w).2)

theorem Chronicle.follow (hr : Ready start) {calls : List Call} (h : Chronicle s start records w) :
    Chronicle s start (follow s calls (records, w)).1 (follow s calls (records, w)).2 := by
  induction calls generalizing records w with
  | nil => exact h
  | cons k calls ih => exact ih (h.call k (Google.traces_still (k.flow s) (h.ready hr)))

/-- Google knows whomever it is asked for. -/
def lobby : World :=
  { Sample.world with outside :=
    { Sample.outside with profile := fun token => .ok { email := token } } }

/-- Ada comes with a browser, and Bob with a device. -/
def arrivals : List Call :=
  [.redirect (Sample.uuid 7).text,
    .callback (Sample.uuid 7).text "ada@example.org" "::1",
    .device "bob@example.org" "::1",
    .sendCode ⟨.phone, none, some "+77010000001", some (Sample.uuid 4).text⟩,
    .complete ⟨(Sample.uuid 4).text, "+77010000001", "100005"⟩ "::1"]

/-- Both get an account, and both have proven their email. -/
theorem google_proven_arrivals :
    (follow Sample.setup arrivals ([], lobby)).2.store.users.map
        (fun user => (user.email, user.phone, user.provider)) =
      [(some "ada@example.org", none, .google),
        (some "bob@example.org", some "77010000001", .google)] ∧
    ∀ user ∈ (follow Sample.setup arrivals ([], lobby)).2.store.users,
      ∃ after e before, (follow Sample.setup arrivals ([], lobby)).1 = after ++ e :: before ∧
        Registers e.events (asNew user) user ∧ Proven Sample.setup user before e := by
  have hblank : Blank lobby := ⟨rfl, rfl, ⟨fun _ => rfl, rfl⟩, List.nodup_nil⟩
  have htold : Chronicle Sample.setup lobby (follow Sample.setup arrivals ([], lobby)).1
      (follow Sample.setup arrivals ([], lobby)).2 := Chronicle.start.follow hblank.ready
  have hdrawn : (((follow Sample.setup arrivals ([], lobby)).1.flatMap
      Record.drawn).map Uuid.text).Nodup := by decide +kernel
  have hgoogle : ∀ user ∈ (follow Sample.setup arrivals ([], lobby)).2.store.users,
      user.provider = .google := by decide +kernel
  exact ⟨by decide +kernel, fun user hu =>
    google_proven hblank htold hdrawn.of_map hu (hgoogle user hu)⟩

end SignOn.Account
