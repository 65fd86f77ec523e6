import SignOn.Proofs.Flow.Concurrent
import SignOn.Proofs.Keyspace
import SignOn.Proofs.Sample
import SignOn.Proofs.Session.Acts
/-!
How often a state is redeemed, whatever runs at the same time. Calls are charged for what their
events do to the claims on a state: a claim that is granted or put back is worth one, a claim that
is taken costs one. The claim that stands in the cache never exceeds the sum over all calls. A
callback that traded its code has one to its debit; it gets that one back only if the profile
behind the token is not to be had, for then it puts the claim back as if the code had been refused.

Main statement (`exchanges_covered`): codes are traded no more often than the state was claimed and
profiles failed. Without the failed profiles this is false (`exchanges_exceed_claims_retried`).
-/

namespace SignOn.Google

open SignOn.Keyspace SignOn.Text

/-! ## Calls on states -/

/-- A call on a state. -/
inductive Visit where
  | redirect (state : String)
  | callback (state code ip : String)

/-- What a call on a state gives. -/
@[reducible] def Visit.Value : Visit → Type
  | .redirect _ => String
  | .callback .. => TokenPair

/-- The course of a call on a state. -/
def Visit.flow (s : Setup) : (v : Visit) → Flow v.Value
  | .redirect state => redirectUrl s state
  | .callback state code ip => Google.callback s state code ip

/-- The cache is left alone; clock, accounts, provider, chance and failures may change. -/
def KeepsCache (w w' : World) : Prop := w'.cache = w.cache

/-- The event that a call consumed a state. -/
def isTake (state : String) : Event → Bool
  | ⟨.cache (.swap key _ value _), .ok true⟩ => key == States.key state && value == States.consumed
  | _ => false

/-- The event that the provider was asked. -/
def isContact : Event → Bool
  | ⟨.exchange _, _⟩ => true
  | ⟨.profile _, _⟩ => true
  | _ => false

/-- The event that the provider gave a profile. -/
def isProfile : Event → Bool
  | ⟨.profile _, .ok _⟩ => true
  | _ => false

/-- The event that a code was traded for a token. -/
def isExchanged : Event → Bool
  | ⟨.exchange _, .ok _⟩ => true
  | _ => false

/-- The event that the provider answered to a code, with a token or with a refusal. -/
def isExchangeAnswer : Event → Bool
  | ⟨.exchange _, _⟩ => true
  | _ => false

/-- The event that the provider gave no profile. -/
def isProfileFailure : Event → Bool
  | ⟨.profile _, .error _⟩ => true
  | _ => false

/-- A call consumed the state, and its code is still to be traded. -/
def awaits (state : String) (past : List Event) : Bool :=
  past.any (isTake state) && !past.any isExchangeAnswer

/-- A call traded its code, and was given no profile for the token. -/
def lostProfile (past : List Event) : Bool := past.any isExchanged && past.any isProfileFailure

/-- Whether a call is a redirect that was answered with an address: its claim succeeded. -/
def hasClaimed (state : String) (t : Thread Visit.Value) : Bool :=
  match t with
  | ⟨.redirect state', _, .done _⟩ => state' == state
  | _ => false

/-- Whether a call is a callback to which the provider gave a profile. -/
def hasRedeemed (state : String) (t : Thread Visit.Value) : Bool :=
  match t.call with
  | .callback state' _ _ => state' == state && t.past.any isProfile
  | _ => false

/-- Whether a call is a callback whose exchange succeeded. -/
def hasExchanged (state : String) (t : Thread Visit.Value) : Bool :=
  match t.call with
  | .callback state' _ _ => state' == state && t.past.any isExchanged
  | _ => false

/-- Whether a call is a callback that consumed the state and waits for its code to be traded. -/
def isExchanging (state : String) (t : Thread Visit.Value) : Bool :=
  match t.call with
  | .callback state' _ _ => state' == state && awaits state t.past
  | _ => false

/-- Whether a call is a callback whose exchange succeeded, but not the fetch of the profile. -/
def hasLostProfile (state : String) (t : Thread Visit.Value) : Bool :=
  match t.call with
  | .callback state' _ _ => state' == state && lostProfile t.past
  | _ => false

/-! ## What events are worth -/

/-- What an event does to the claims on a state. -/
def worth (state : String) : Event → Int
  | ⟨.cache (.setIfAbsent key _ _), .ok true⟩ => if key = States.key state then 1 else 0
  | ⟨.cache (.swap key _ value _), .ok true⟩ =>
    if key = States.key state then (if value = States.consumed then -1 else 1) else 0
  | _ => 0

/-- What the events of a call are worth together. -/
def balance (state : String) (past : List Event) : Int := (past.map (worth state)).sum

/-- The claims on a state that stand in a cache, dead or alive. -/
def standing (state : String) (c : Cache.Memory) : Int :=
  match c.find? (States.key state) with
  | some e => if e.value = States.consumed then 0 else 1
  | none => 0

@[simp] theorem balance_nil (state : String) : balance state [] = 0 := rfl

@[simp] theorem balance_cons (state : String) (e : Event) (past : List Event) :
    balance state (e :: past) = worth state e + balance state past := by
  simp [balance]

@[simp] theorem balance_append (state : String) (past more : List Event) :
    balance state (past ++ more) = balance state past + balance state more := by
  simp [balance]

theorem standing_nonneg (state : String) (c : Cache.Memory) : 0 ≤ standing state c := by
  unfold standing
  split
  · split <;> decide
  · decide

theorem standing_le_one (state : String) (c : Cache.Memory) : standing state c ≤ 1 := by
  unfold standing
  split
  · split <;> decide
  · decide

/-- A claim that fades is one claim less. -/
theorem standing_le_of_fades {state : String} {c c' : Cache.Memory} {now : Int}
    (h : c'.find? (States.key state) = c.find? (States.key state) ∨
      c'.find? (States.key state) = Cache.Memory.alive now (c.find? (States.key state))) :
    standing state c' ≤ standing state c := by
  have hc := standing_nonneg state c
  unfold standing at hc ⊢
  rcases h with h | h
  · exact Int.le_of_eq (by rw [h])
  · rcases Cache.Memory.alive_eq_none_or now (c.find? (States.key state)) with ha | ha
    · rw [h, ha]; exact hc
    · exact Int.le_of_eq (by rw [h, ha])

theorem standing_settle_le (state : String) (c : Cache.Memory) (now : Int) :
    standing state (c.settle now (States.key state)) ≤ standing state c :=
  standing_le_of_fades (.inr Cache.Memory.find?_settle_self)

/-! ## Acts on the cache -/

/-- An act that the calls on states may do: it consumes a state only in place of a claim, and never
overwrites it unconditionally. -/
def IsTame (state : String) : Act → Prop
  | .cache (.set key _ _) => key ≠ States.key state
  | .cache (.swap _ expected value _) =>
    value = States.consumed → ∃ v, expected = some v ∧ v ≠ States.consumed
  | _ => True

theorem find?_of_read? {c : Cache.Memory} {now : Int} {key : String} {value : Bytes}
    (h : c.read? now key = some value) : ∃ e, c.find? key = some e ∧ e.value = value := by
  unfold Cache.Memory.read? at h
  split at h
  · next e he =>
    split at h
    · exact ⟨e, he, Option.some.inj h⟩
    · cases h
  · cases h

theorem standing_write (state : String) (c : Cache.Memory) (now : Int) (value : Bytes)
    (lifetime : Option Cache.Lifetime) :
    standing state (c.write now (States.key state) value lifetime)
      = if value = States.consumed then 0 else 1 := by
  rw [standing, Cache.Memory.find?_write_self]

theorem worth_of_key_ne {state : String} {cmd : Cache.Command}
    (hk : cmd.key? ≠ some (States.key state)) (answer : Except Failure cmd.Answer) :
    worth state ⟨.cache cmd, answer⟩ = 0 := by
  cases cmd with
  | setIfAbsent key value lifetime =>
    have hne : key ≠ States.key state := fun he => hk (congrArg some he)
    rcases answer with e | _ | _ <;> simp [worth, hne]
  | swap key expected value lifetime =>
    have hne : key ≠ States.key state := fun he => hk (congrArg some he)
    rcases answer with e | _ | _ <;> simp [worth, hne]
  | _ => rfl

/-- A swap that wins puts a claim in place of a claim, or takes one away. -/
theorem standing_swap_le {state : String} (c : Cache.Memory) (now : Int) {expected : Option Bytes}
    {value : Bytes} (lifetime : Cache.Lifetime)
    (ht : IsTame state (.cache (.swap (States.key state) expected value lifetime))) :
    standing state (c.perform now (.swap (States.key state) expected value lifetime)).2
      ≤ standing state c + worth state ⟨.cache (.swap (States.key state) expected value lifetime),
        .ok (c.perform now (.swap (States.key state) expected value lifetime)).1⟩ := by
  have h0 := standing_nonneg state c
  have h1 := standing_le_one state
    (c.perform now (.swap (States.key state) expected value lifetime)).2
  simp only [Cache.Memory.perform] at h1 ⊢
  by_cases hr : c.read? now (States.key state) = expected
  · rw [if_pos hr] at h1
    simp only [if_pos hr, worth, if_true, standing_write]
    by_cases hv : value = States.consumed
    · obtain ⟨v, rfl, hne⟩ := ht hv
      obtain ⟨e, he, rfl⟩ := find?_of_read? hr
      rw [if_pos hv, if_pos hv, standing, he]
      simp [hne]
    · rw [if_neg hv, if_neg hv]
      omega
  · have hf := standing_settle_le state c now
    simpa [if_neg hr, worth] using hf

/-- A tame command adds no more claims than it is worth. -/
theorem standing_perform_le {state : String} {c : Cache.Memory} (hc : c.Keyed) (now : Int)
    {cmd : Cache.Command} (ht : IsTame state (.cache cmd)) :
    standing state (c.perform now cmd).2
      ≤ standing state c + worth state ⟨.cache cmd, .ok (c.perform now cmd).1⟩ := by
  by_cases hk : cmd.key? = some (States.key state)
  · have h0 := standing_nonneg state c
    have h1 := standing_le_one state (c.perform now cmd).2
    cases cmd with
    | get key =>
      cases hk
      have hf := standing_settle_le state c now
      simpa [worth, Cache.Memory.perform] using hf
    | set key value lifetime => cases hk; exact absurd rfl ht
    | delete key =>
      cases hk
      simp only [Cache.Memory.perform, worth, Int.add_zero]
      rw [standing, Cache.Memory.find?_erase_self]
      exact h0
    | setIfAbsent key value lifetime =>
      cases hk
      simp only [Cache.Memory.perform] at h1 ⊢
      split
      · exact Int.le_add_of_nonneg_right (Int.le_refl 0)
      · next hn =>
        simp only [hn] at h1
        simp only [worth, if_true]
        omega
    | swap key expected value lifetime =>
      cases hk
      exact standing_swap_le c now lifetime ht
    | ping => cases hk
  · -- A command elsewhere leaves the claim alone, unless the cache drops it as dead.
    have hf := standing_le_of_fades (Cache.Memory.perform_of_key_ne hc now hk)
    rw [worth_of_key_ne hk]
    omega

/-- No act adds more claims than it is worth. -/
theorem standing_act_le {state : String} {w : World} (hc : w.cache.Keyed) {act : Act}
    (ht : IsTame state act) :
    standing state (w.perform act).2.cache
      ≤ standing state w.cache + worth state (w.event act) := by
  cases act with
  | cache cmd =>
    obtain ⟨lost, calls, answer, cache, he, hr⟩ := w.performCache_cases cmd
    rw [World.event, he]
    rcases hr with ⟨e, rfl, rfl⟩ | ⟨⟨key, expected, value, lifetime, rfl⟩, ha, rfl⟩ | ⟨rfl, rfl⟩
    · cases cmd <;> simp [worth]
    · rw [eq_of_heq ha]; simp [worth]
    · exact standing_perform_le hc _ ht
  | _ =>
    rw [w.perform_cache_eq (by intro cmd h; cases h)]
    exact Int.le_add_of_nonneg_right (Int.le_refl 0)

/-! ## The course of a call -/

/-- An event that is worth nothing and has nothing to do with the provider. -/
def IsQuiet (state : String) (e : Event) : Prop :=
  worth state e = 0 ∧ isTake state e = false ∧ isContact e = false

theorem isQuiet_of_isOpening {state : String} {e : Event} (h : Session.IsOpening e.act) :
    IsQuiet state e := by
  obtain ⟨act, answer⟩ := e
  cases act with
  | cache cmd =>
    cases cmd with
    | set key value lifetime => exact ⟨rfl, rfl, rfl⟩
    | _ => exact h.elim
  | clock => exact ⟨rfl, rfl, rfl⟩
  | uuid => exact ⟨rfl, rfl, rfl⟩
  | store st => exact ⟨rfl, rfl, rfl⟩
  | _ => exact h.elim

/-- What the answers of the provider leave a callback to pay for: the token it was given, unless
the profile behind it was lost. -/
def debt (past : List Event) : Int :=
  (past.any isExchanged).toInt - (lostProfile past).toInt

/-- Every contact with the provider comes after the state was consumed. -/
def ContactsAfterTake (state : String) (past : List Event) : Prop :=
  ∀ before e after, past = before ++ e :: after → isContact e = true →
    before.any (isTake state) = true

theorem contactsAfterTake_nil (state : String) : ContactsAfterTake state [] := by
  intro before e after h
  exact absurd h (by simp)

theorem ContactsAfterTake.append {state : String} {past : List Event}
    (h : ContactsAfterTake state past) {e : Event}
    (he : isContact e = true → past.any (isTake state) = true) :
    ContactsAfterTake state (past ++ [e]) := by
  intro before x after hp hx
  rcases List.eq_nil_or_concat after with rfl | ⟨init, last, rfl⟩
  · obtain ⟨rfl, hl⟩ := List.append_inj' hp rfl
    cases hl
    exact he hx
  · rw [List.concat_eq_append, ← List.cons_append, ← List.append_assoc] at hp
    exact h _ x init (List.append_inj' hp rfl).1 hx

/-- What follows once the state is consumed comes after that. -/
theorem ContactsAfterTake.append_all {state : String} {past : List Event}
    (h : ContactsAfterTake state past) (ht : past.any (isTake state) = true) (more : List Event) :
    ContactsAfterTake state (past ++ more) := by
  induction more generalizing past with
  | nil => rw [List.append_nil]; exact h
  | cons e more ih =>
    rw [List.append_cons]
    exact ih (h.append fun _ => ht) (by rw [List.any_append, ht, Bool.true_or])

/-- What holds of a callback all along. -/
structure Accounts (state : String) (past : List Event) : Prop where
  /-- The claim that it took covers its debt, or the one that it will have. -/
  covered : balance state past + debt past + (awaits state past).toInt ≤ 0
  /-- A profile comes behind a token, and is not lost. -/
  profiles : (past.any isProfile).toInt ≤ debt past
  contacts : ContactsAfterTake state past

theorem accounts_nil (state : String) : Accounts state [] where
  covered := Int.le_refl 0
  profiles := Int.le_refl 0
  contacts := contactsAfterTake_nil state

theorem isProfile_eq_false {e : Event} (h : isContact e = false) : isProfile e = false := by
  obtain ⟨act, answer⟩ := e
  cases act <;> first | rfl | cases h

theorem not_answered {e : Event} (h : isContact e = false) :
    isExchanged e = false ∧ isExchangeAnswer e = false ∧ isProfileFailure e = false := by
  obtain ⟨act, answer⟩ := e
  cases act <;> first | exact ⟨rfl, rfl, rfl⟩ | cases h

/-- Where nobody asks the provider, nothing comes of it. -/
theorem any_eq_false_of_no_contact {past : List Event} {p : Event → Bool}
    (hp : ∀ {e}, isContact e = false → p e = false) (h : past.any isContact = false) :
    past.any p = false := by
  rw [List.any_eq_false] at h ⊢
  intro e he
  rw [hp (Bool.eq_false_iff.2 (h e he))]
  exact Bool.false_ne_true

/-- What does not ask the provider leaves the debt as it is. -/
theorem debt_append {past : List Event} {e : Event} (h : isContact e = false) :
    debt (past ++ [e]) = debt past := by
  obtain ⟨hexchanged, -, hfailure⟩ := not_answered h
  simp [debt, lostProfile, hexchanged, hfailure]

theorem Accounts.append {state : String} {past : List Event} (h : Accounts state past) {e : Event}
    (he : IsQuiet state e) : Accounts state (past ++ [e]) := by
  obtain ⟨hw, ht, hc⟩ := he
  refine ⟨?_, ?_, h.contacts.append fun h => by rw [hc] at h; cases h⟩
  · have hawaits : awaits state (past ++ [e]) = awaits state past := by
      simp [awaits, ht, (not_answered hc).2.1]
    simpa [debt_append hc, hawaits, hw] using h.covered
  · simpa [debt_append hc, isProfile_eq_false hc] using h.profiles

/-- A callback that consumed the state and has not asked the provider yet. -/
structure Taken (state : String) (past : List Event) : Prop where
  paid : balance state past ≤ -1
  taken : past.any (isTake state) = true
  unasked : past.any isContact = false
  contacts : ContactsAfterTake state past

/-- Whoever paid for the state has its accounts kept, if what the provider answered to it costs no
more than the claim that it took. -/
theorem Taken.accounts {state : String} {past : List Event} (h : Taken state past)
    (asked : List Event)
    (hcost : balance state asked + debt asked + (!asked.any isExchangeAnswer).toInt ≤ 1)
    (hprofiles : (asked.any isProfile).toInt ≤ debt asked) : Accounts state (past ++ asked) := by
  have hexchanged := any_eq_false_of_no_contact (fun h => (not_answered h).1) h.unasked
  have hanswer := any_eq_false_of_no_contact (fun h => (not_answered h).2.1) h.unasked
  have hfailure := any_eq_false_of_no_contact (fun h => (not_answered h).2.2) h.unasked
  have hprofile := any_eq_false_of_no_contact isProfile_eq_false h.unasked
  have hdebt : debt (past ++ asked) = debt asked := by
    simp only [debt, lostProfile, List.any_append, hexchanged, hfailure, Bool.false_or]
  have hawaits : awaits state (past ++ asked) = !asked.any isExchangeAnswer := by
    simp only [awaits, List.any_append, h.taken, hanswer, Bool.true_or, Bool.true_and,
      Bool.false_or]
  refine ⟨?_, ?_, h.contacts.append_all h.taken asked⟩
  · have hpaid := h.paid
    rw [balance_append, hdebt, hawaits]
    omega
  · rw [List.any_append, hprofile, Bool.false_or, hdebt]
    exact hprofiles

/-- Any event. -/
def Any (_ : Event) : Prop := True

/-- The courses of a callback on which its accounts are kept. -/
abbrev Keeps {α : Type} (state : String) (past : List Event) (f : Flow α) : Prop :=
  f.Along Any (fun past _ => Accounts state past) (fun past _ => Accounts state past) past

theorem keeps_of_isOpening {α : Type} {state : String} {past : List Event} {f : Flow α}
    (hf : f.Acts Session.IsOpening) (h : Accounts state past) : Keeps state past f :=
  Flow.Along.of_acts hf (fun _ _ ha _ hp => hp.append (isQuiet_of_isOpening ha))
    (fun _ _ _ h => h) (fun _ _ h => h) h

/-- A claim that is put back is paid back by whoever owes nothing to the provider. -/
theorem restore_keeps {α β : Type} {state : String} {past : List Event} (s : Setup)
    (claimedAt : Int) (failure : Failure) (g : α → Flow β) (h : Taken state past)
    (asked : List Event) (hanswered : asked.any isExchangeAnswer = true)
    (hworth : balance state asked = 0) (hdebt : debt asked = 0)
    (hprofile : asked.any isProfile = false) :
    Keeps state (past ++ asked) ((do
      let _ ← States.restore s.stateLifetime state claimedAt
      (Flow.fail failure : Flow α)) >>= g) := by
  refine ⟨h.accounts asked (by simp [hanswered, hworth, hdebt]) (by simp [hdebt, hprofile]),
    fun answer _ => ?_⟩
  have hne := States.claimValue_ne_consumed claimedAt
  have h1 : Accounts state (past ++ asked ++ [⟨.cache (.swap (States.key state)
      (some States.consumed) (States.claimValue claimedAt) s.stateLifetime), answer⟩]) := by
    rw [List.append_assoc]
    refine h.accounts _ ?_ (by rw [debt_append rfl]; simp [hprofile, isProfile, hdebt])
    rw [debt_append rfl]
    rcases answer with e | _ | _ <;> simp [hanswered, hworth, hdebt, worth, hne]
  cases answer <;> exact h1

/-- Behind the take, a callback asks the provider, and puts the claim back if it is refused. -/
theorem redeem_keeps {state : String} {past : List Event} (s : Setup) (claimedAt : Int)
    (code ip : String) (h : Taken state past) :
    Keeps state past (do
      let profile ← profileOrRestore s state claimedAt code
      States.release state
      signInWith s profile.email ip) := by
  have h0 : Accounts state past := by
    simpa using h.accounts [] (Int.le_refl 1) (Int.le_refl 0)
  refine ⟨h0, fun token _ => ?_⟩
  cases token with
  | error e => exact restore_keeps s claimedAt e _ h [⟨.exchange code, .error e⟩] rfl rfl rfl rfl
  | ok token =>
    have h1 := h.accounts [⟨.exchange code, .ok token⟩] (Int.le_refl 1) Int.one_nonneg
    refine ⟨h1, fun profile _ => ?_⟩
    rw [List.append_assoc]
    cases profile with
    | error e =>
      exact restore_keeps s claimedAt e _ h
        [⟨.exchange code, .ok token⟩, ⟨.profile token.accessToken, .error e⟩] rfl rfl rfl rfl
    | ok profile =>
      have h2 := h.accounts
        [⟨.exchange code, .ok token⟩, ⟨.profile token.accessToken, .ok profile⟩]
        (Int.le_refl 1) (Int.le_refl 1)
      refine ⟨h2, fun released _ => ?_⟩
      have h3 := h2.append (e := ⟨.cache (.delete (States.key state)), released⟩) ⟨rfl, rfl, rfl⟩
      cases released with
      | error e => exact h3
      | ok _ => exact keeps_of_isOpening (Session.signInWith_acts s profile.email ip) h3

/-- A callback keeps its accounts all along. -/
theorem callback_keeps (s : Setup) (state code ip : String) :
    Keeps state [] (Google.callback s state code ip) := by
  have h0 := accounts_nil state
  unfold Google.callback
  cases Uuid.isWritten state with
  | false => exact h0
  | true =>
    refine ⟨h0, fun raw _ => ?_⟩
    have h1 := h0.append (e := ⟨.cache (.get (States.key state)), raw⟩) ⟨rfl, rfl, rfl⟩
    cases raw with
    | error e => exact h1
    | ok raw =>
      change Keeps state _ (Flow.require (States.ofValue raw) .stateNotFound >>= _)
      cases States.ofValue raw with
      | none => exact h1
      | some claimedAt =>
        refine ⟨h1, fun now _ => ?_⟩
        have h2 := h1.append (e := ⟨.clock, now⟩) ⟨rfl, rfl, rfl⟩
        change Keeps state _ (Flow.ensure (inWindow s claimedAt now) .stateNotFound >>= _)
        cases inWindow s claimedAt now with
        | false => exact h2
        | true =>
          refine ⟨h2, fun taken _ => ?_⟩
          rcases taken with e | taken
          · exact h2.append ⟨rfl, rfl, rfl⟩
          · cases taken with
            | false => exact h2.append ⟨rfl, rfl, rfl⟩
            | true =>
              refine redeem_keeps s claimedAt code ip ⟨?_, ?_, ?_, h2.contacts.append ?_⟩
              · simp [balance, worth]
              · simp [isTake]
              · simp [isContact]
              · intro h; cases h

/-- A redirect is worth a claim only if it is answered with an address. -/
theorem redirect_keeps (s : Setup) (state : String) :
    (redirectUrl s state).Along Any (fun past _ => balance state past ≤ 0)
      (fun past result => balance state past ≤ result.toBool.toInt) [] := by
  unfold redirectUrl
  cases Uuid.isWritten state with
  | false => exact Int.le_refl 0
  | true =>
    refine ⟨Int.le_refl 0, fun now _ => ⟨Int.le_refl 0, fun claimed _ => ?_⟩⟩
    rcases claimed with e | claimed
    · exact Int.le_refl 0
    · cases claimed with
      | false => exact Int.le_refl 0
      | true =>
        change balance state _ ≤ 1
        simp [balance, worth]

/-! ## Which acts calls do -/

/-- The state that a call is about. -/
def Visit.state : Visit → String
  | .redirect state => state
  | .callback state _ _ => state

/-- An act of a call on a state. -/
inductive IsVisiting (state : String) : Act → Prop where
  | opening {act : Act} (h : Session.IsOpening act) : IsVisiting state act
  | look : IsVisiting state (.cache (.get (States.key state)))
  | claim (claimedAt : Int) (lifetime : Cache.Lifetime) : IsVisiting state
      (.cache (.setIfAbsent (States.key state) (States.claimValue claimedAt) lifetime))
  | take (claimedAt : Int) (lifetime : Cache.Lifetime) : IsVisiting state
      (.cache (.swap (States.key state) (some (States.claimValue claimedAt)) States.consumed
        lifetime))
  | restore (claimedAt : Int) (lifetime : Cache.Lifetime) : IsVisiting state
      (.cache (.swap (States.key state) (some States.consumed) (States.claimValue claimedAt)
        lifetime))
  | release : IsVisiting state (.cache (.delete (States.key state)))
  | exchange (code : String) : IsVisiting state (.exchange code)
  | profile (token : String) : IsVisiting state (.profile token)

theorem profileOrRestore_acts (s : Setup) (state : String) (claimedAt : Int) (code : String) :
    (profileOrRestore s state claimedAt code).Acts (IsVisiting state) := by
  have hrestore (e : Failure) : (do
      let _ ← States.restore s.stateLifetime state claimedAt
      (Flow.fail e : Flow UserProfile)).Acts (IsVisiting state) :=
    ⟨.restore _ _, fun answer => by cases answer <;> trivial⟩
  refine ⟨.exchange _, fun token => ?_⟩
  cases token with
  | error e => exact hrestore e
  | ok token =>
    refine ⟨.profile _, fun profile => ?_⟩
    cases profile with
    | error e => exact hrestore e
    | ok profile => trivial

theorem flow_acts (s : Setup) (v : Visit) : (v.flow s).Acts (IsVisiting v.state) := by
  cases v with
  | redirect state =>
    refine (Flow.acts_ensure _ _ _).bind fun _ => ?_
    refine ⟨.opening trivial, fun now => ⟨.claim _ _, fun claimed => ?_⟩⟩
    exact (Flow.acts_ofExcept _ _).bind fun _ => (Flow.acts_ensure _ _ _).bind fun _ => trivial
  | callback state code ip =>
    refine (Flow.acts_ensure _ _ _).bind fun _ => ?_
    refine ⟨.look, fun raw => Flow.Acts.bind ?_ fun found => ?_⟩
    · exact (Flow.acts_ofExcept _ _).bind fun _ => trivial
    refine (Flow.acts_require _ _ _).bind fun claimedAt => ?_
    refine ⟨.opening trivial, fun now => (Flow.acts_ensure _ _ _).bind fun _ => ?_⟩
    refine ⟨.take _ _, fun taken => (Flow.acts_ofExcept _ _).bind fun _ => ?_⟩
    refine (Flow.acts_ensure _ _ _).bind fun _ => ?_
    refine (profileOrRestore_acts s state claimedAt code).bind fun profile => ?_
    refine ⟨.release, fun released => (Flow.acts_ofExcept _ _).bind fun _ => ?_⟩
    exact (Session.signInWith_acts s profile.email ip).mono fun _ h => .opening h

theorem IsVisiting.isTame {other : String} {act : Act} (h : IsVisiting other act)
    (state : String) : IsTame state act := by
  cases h with
  | opening h =>
    cases act with
    | cache cmd =>
      cases cmd with
      | set key value lifetime =>
        obtain ⟨idCode, rfl⟩ := h
        exact sessions_ne_states idCode state
      | _ => exact h.elim
    | _ => trivial
  | take claimedAt lifetime =>
    exact fun _ => ⟨_, rfl, States.claimValue_ne_consumed claimedAt⟩
  | restore claimedAt lifetime =>
    exact fun h => absurd h (States.claimValue_ne_consumed claimedAt)
  | _ => trivial

/-- Calls on other states are worth nothing to this one. -/
theorem IsVisiting.worth_eq_zero {state other : String} (hne : other ≠ state) {e : Event}
    (h : IsVisiting other e.act) : worth state e = 0 := by
  have hk : States.key other ≠ States.key state := fun he => hne (states_key_injective he)
  obtain ⟨act, answer⟩ := e
  cases h with
  | opening h => exact (isQuiet_of_isOpening (e := ⟨act, answer⟩) h).1
  | claim claimedAt lifetime => rcases answer with e | _ | _ <;> simp [worth, hk]
  | take claimedAt lifetime => rcases answer with e | _ | _ <;> simp [worth, hk]
  | restore claimedAt lifetime => rcases answer with e | _ | _ <;> simp [worth, hk]
  | _ => rfl

/-! ## All calls together -/

variable {s : Setup} {state : String} {start now : System Visit.Value}

/-- Calls that have not done anything yet. -/
def AtStart (s : Setup) (sys : System Visit.Value) : Prop :=
  ∀ t ∈ sys.threads, ∃ v, t = Thread.start (Visit.flow s) v

/-- No claim on a state stands in a cache. -/
def IsUnclaimed (state : String) (c : Cache.Memory) : Prop :=
  ∀ e, c.find? (States.key state) = some e → e.value = States.consumed

theorem acts_of_reaches (h : System.Reaches KeepsCache start now) (hs : AtStart s start) :
    ∀ t ∈ now.threads, t.rest.Acts fun act => ∃ state, IsVisiting state act := by
  refine h.acts fun t ht => ?_
  obtain ⟨v, rfl⟩ := hs t ht
  exact (flow_acts s v).mono fun act ha => ⟨v.state, ha⟩

theorem keyed_of_reaches (h : System.Reaches KeepsCache start now)
    (hkeyed : start.world.cache.Keyed) : now.world.cache.Keyed :=
  h.world (W := fun w => w.cache.Keyed) hkeyed (fun w act hw => w.perform_keyed hw act)
    fun w w' hd hw => by rw [hd]; exact hw

/-- The claims that stand are covered by what the events of all calls are worth. -/
theorem standing_le_total (h : System.Reaches KeepsCache start now) (hs : AtStart s start)
    (hkeyed : start.world.cache.Keyed) (hfree : IsUnclaimed state start.world.cache) :
    standing state now.world.cache ≤ total (fun t => balance state t.past) now.threads := by
  induction h with
  | refl =>
    have hzero : total (fun t => balance state t.past) start.threads = 0 := by
      refine total_eq_zero fun t ht => ?_
      obtain ⟨v, rfl⟩ := hs t ht
      rfl
    rw [hzero, standing]
    split
    · next e he => exact Int.le_of_eq (if_pos (hfree e he))
    · exact Int.le_refl 0
  | @tail sys _ hr hstep ih =>
    cases hstep with
    | @act _ i k past act next hi =>
      obtain ⟨other, hv⟩ := (acts_of_reaches hr hs _ (List.mem_of_getElem? hi)).1
      have hstand := standing_act_le (keyed_of_reaches hr hkeyed) (hv.isTame state)
      have ht := total_set (fun t => balance state t.past) hi
        ⟨k, past ++ [sys.world.event act], next (sys.world.perform act).1⟩
      simp only [balance_append, balance_cons, balance_nil, Int.add_zero] at ht
      simp only [System.after, ht]
      omega
    | drift hd =>
      simp only [KeepsCache] at hd
      rw [hd]
      exact ih

/-- What holds of a call on its own state, while it runs and at its end. -/
def Course : Visit → List Event → Act → Prop
  | .redirect state, past, _ => balance state past ≤ 0
  | .callback state _ _, past, _ => Accounts state past

def CourseEnd : (v : Visit) → List Event → Except Failure v.Value → Prop
  | .redirect state, past, result => balance state past ≤ result.toBool.toInt
  | .callback state _ _, past, _ => Accounts state past

theorem follows_course (h : System.Reaches KeepsCache start now) (hs : AtStart s start) :
    ∀ t ∈ now.threads, t.Follows Any Course CourseEnd := by
  refine (h.follows (W := fun _ => True) trivial (fun t ht => ?_)
    (fun _ _ _ _ _ _ => ⟨trivial, trivial⟩) (fun _ _ _ _ => trivial)).2
  obtain ⟨v, rfl⟩ := hs t ht
  cases v with
  | redirect state => exact redirect_keeps s state
  | callback state code ip => exact callback_keeps s state code ip

/-- The events of calls on other states are worth nothing. -/
theorem balance_eq_zero (h : System.Reaches KeepsCache start now) (hs : AtStart s start)
    {t : Thread Visit.Value} (ht : t ∈ now.threads) (hne : t.call.state ≠ state) :
    balance state t.past = 0 := by
  have hf := h.follows (W := fun _ => True) (R := Any)
    (I := fun v past _ => v.state ≠ state → balance state past = 0)
    (Q := fun v past _ => v.state ≠ state → balance state past = 0) trivial (fun t ht => by
      obtain ⟨v, rfl⟩ := hs t ht
      refine Flow.Along.of_acts (J := fun past => v.state ≠ state → balance state past = 0)
        (flow_acts s v) (fun past e ha _ hp hv => ?_) (fun _ _ _ hp => hp) (fun _ _ hp => hp)
        (fun _ => rfl)
      rw [balance_append, hp hv, balance_cons, ha.worth_eq_zero hv]
      rfl) (fun _ _ _ _ _ _ => ⟨trivial, trivial⟩) (fun _ _ _ _ => trivial)
  have hf := hf.2 t ht
  obtain ⟨v, past, rest⟩ := t
  cases rest with
  | done value => exact hf hne
  | fail failure => exact hf hne
  | step act next => exact hf.1 hne

/-- A callback keeps its accounts, wherever it is. -/
theorem accounts_of_reaches (h : System.Reaches KeepsCache start now) (hs : AtStart s start)
    {state code ip : String} {past : List Event} {rest : Flow TokenPair}
    (ht : ⟨.callback state code ip, past, rest⟩ ∈ now.threads) : Accounts state past := by
  have hf := follows_course h hs _ ht
  cases rest with
  | done value => exact hf
  | fail failure => exact hf
  | step act next => exact hf.1

/-- What a call owes is covered by what its events are worth. -/
theorem balance_le (state : String) (h : System.Reaches KeepsCache start now)
    (hs : AtStart s start) : ∀ t ∈ now.threads, balance state t.past
      ≤ (hasClaimed state t).toInt + (hasLostProfile state t).toInt
        - ((hasExchanged state t).toInt + (isExchanging state t).toInt) := by
  intro t ht
  by_cases hne : t.call.state = state
  · obtain ⟨v, past, rest⟩ := t
    cases v with
    | redirect state' =>
      obtain rfl : state' = state := hne
      have hf := follows_course h hs _ ht
      cases rest with
      | done value =>
        have hf : balance state' past ≤ 1 := hf
        simpa [hasClaimed, hasLostProfile, hasExchanged, isExchanging] using hf
      | fail failure => exact hf
      | step act next => exact hf.1
    | callback state' code ip =>
      obtain rfl : state' = state := hne
      have ha := (accounts_of_reaches h hs ht).covered
      simp only [debt] at ha
      simp only [hasClaimed, hasLostProfile, hasExchanged, isExchanging, beq_self_eq_true,
        Bool.true_and, Bool.toInt_false]
      omega
  · have hz := balance_eq_zero h hs ht hne
    have hb : (t.call.state == state) = false := beq_eq_false_iff_ne.2 hne
    obtain ⟨v, past, rest⟩ := t
    rw [hz]
    cases v with
    | redirect state' =>
      simp only [Visit.state] at hb
      cases rest <;> simp [hasClaimed, hasLostProfile, hasExchanged, isExchanging, hb]
    | callback state' code ip =>
      simp only [Visit.state] at hb
      simp [hasClaimed, hasLostProfile, hasExchanged, isExchanging, hb]

theorem exchanged_le_claimed (hs : AtStart s start) (hkeyed : start.world.cache.Keyed)
    (hfree : IsUnclaimed state start.world.cache) (h : System.Reaches KeepsCache start now) :
    now.threads.countP (hasExchanged state) + now.threads.countP (isExchanging state)
      ≤ now.threads.countP (hasClaimed state) + now.threads.countP (hasLostProfile state) := by
  have hstand := standing_le_total h hs hkeyed hfree
  have hnonneg := standing_nonneg state now.world.cache
  have hle := total_le_total (balance_le state h hs)
  rw [total_sub, total_add, total_add, total_toInt, total_toInt, total_toInt, total_toInt] at hle
  omega

/-- A callback that was given a profile traded its code, and lost no profile. -/
theorem redeemed_add_lost_le (state : String) (h : System.Reaches KeepsCache start now)
    (hs : AtStart s start) :
    now.threads.countP (hasRedeemed state) + now.threads.countP (hasLostProfile state)
      ≤ now.threads.countP (hasExchanged state) := by
  have hle : total (fun t => (hasRedeemed state t).toInt + (hasLostProfile state t).toInt)
      now.threads ≤ total (fun t => (hasExchanged state t).toInt) now.threads := by
    refine total_le_total fun t ht => ?_
    obtain ⟨v, past, rest⟩ := t
    cases v with
    | redirect state' => exact Int.le_refl 0
    | callback state' code ip =>
      have ha := (accounts_of_reaches h hs ht).profiles
      simp only [hasRedeemed, hasLostProfile, hasExchanged]
      cases state' == state with
      | false => exact Int.le_refl 0
      | true =>
        simp only [debt] at ha
        simp only [Bool.true_and]
        omega
  rw [total_add, total_toInt, total_toInt, total_toInt] at hle
  omega

/-- At every moment of every interleaving, the callbacks whose exchange succeeded and those that
consumed the state and wait for their code to be traded are together no more than the redirects
that were answered with an address and the callbacks that lost the profile behind their token; the
callbacks that were given a profile are no more than those redirects alone; and a callback has asked
the provider only after it consumed its state. -/
theorem exchanges_covered (hs : AtStart s start) (hkeyed : start.world.cache.Keyed)
    (hfree : IsUnclaimed state start.world.cache) (h : System.Reaches KeepsCache start now) :
    now.threads.countP (hasExchanged state) + now.threads.countP (isExchanging state)
      ≤ now.threads.countP (hasClaimed state) + now.threads.countP (hasLostProfile state) ∧
    now.threads.countP (hasRedeemed state) ≤ now.threads.countP (hasClaimed state) ∧
    ∀ state code ip past rest, ⟨.callback state code ip, past, rest⟩ ∈ now.threads →
      ContactsAfterTake state past := by
  have hexchanged := exchanged_le_claimed hs hkeyed hfree h
  have hredeemed := redeemed_add_lost_le state h hs
  exact ⟨hexchanged, by omega, fun _ _ _ _ _ ht => (accounts_of_reaches h hs ht).contacts⟩

/-- A redirect and two callbacks on one state. The provider trades both codes, but it has no profile
behind the first token. -/
def retry : System Visit.Value where
  world := { Sample.world with outside := { Sample.outside with
    profile := fun token =>
      if token = "one" then .error (.provider "down") else .ok { email := "ada@example.org" } } }
  threads := [.redirect (Sample.uuid 7).text, .callback (Sample.uuid 7).text "one" "::1",
    .callback (Sample.uuid 7).text "two" "::1"].map (Thread.start (Visit.flow Sample.setup))

/-- Both callbacks find the claim before the first one consumes it; the second one goes on when the
first one has put the claim back. -/
def retryOrder : List Nat := [0, 0, 1, 2, 1, 2, 1, 1, 1, 1, 2, 2, 2]

theorem retry_atStart : AtStart Sample.setup retry := by
  intro t ht
  obtain ⟨v, -, rfl⟩ := List.mem_map.1 ht
  exact ⟨v, rfl⟩

theorem retry_isUnclaimed : IsUnclaimed (Sample.uuid 7).text retry.world.cache := by
  intro e he
  cases he

/-- Two codes are traded for one claim, and the second callback is given a profile. -/
theorem exchanges_covered_retried :
    ((retry.schedule retryOrder).threads.countP (hasRedeemed (Sample.uuid 7).text) = 1 ∧
      (retry.schedule retryOrder).threads.countP (hasLostProfile (Sample.uuid 7).text) = 1) ∧
    (retry.schedule retryOrder).threads.countP (hasExchanged (Sample.uuid 7).text) +
        (retry.schedule retryOrder).threads.countP (isExchanging (Sample.uuid 7).text)
      ≤ (retry.schedule retryOrder).threads.countP (hasClaimed (Sample.uuid 7).text) +
        (retry.schedule retryOrder).threads.countP (hasLostProfile (Sample.uuid 7).text) ∧
    (retry.schedule retryOrder).threads.countP (hasRedeemed (Sample.uuid 7).text)
      ≤ (retry.schedule retryOrder).threads.countP (hasClaimed (Sample.uuid 7).text) ∧
    ∀ state code ip past rest,
      ⟨.callback state code ip, past, rest⟩ ∈ (retry.schedule retryOrder).threads →
      ContactsAfterTake state past := by
  refine ⟨by decide +kernel, ?_⟩
  exact exchanges_covered retry_atStart List.nodup_nil retry_isUnclaimed
    (System.reaches_schedule KeepsCache retryOrder retry)

/-- The redirects alone do not cover the exchanges: one claim, and two codes that are traded. -/
theorem exchanges_exceed_claims_retried :
    (AtStart Sample.setup retry ∧ retry.world.cache.Keyed ∧
      IsUnclaimed (Sample.uuid 7).text retry.world.cache) ∧
    System.Reaches KeepsCache retry (retry.schedule retryOrder) ∧
    ¬ (retry.schedule retryOrder).threads.countP (hasExchanged (Sample.uuid 7).text) +
        (retry.schedule retryOrder).threads.countP (isExchanging (Sample.uuid 7).text)
      ≤ (retry.schedule retryOrder).threads.countP (hasClaimed (Sample.uuid 7).text) :=
  ⟨⟨retry_atStart, List.nodup_nil, retry_isUnclaimed⟩,
    System.reaches_schedule KeepsCache retryOrder retry, by decide +kernel⟩

end SignOn.Google
