import SignOn.Proofs.Account.Calls
/-!
Histories: calls of the account service one after another, with time between and within them.
`BookMatches` says how the book of sessions follows from a history: the pair of a user is the last
one that was issued to them, unless they have logged out since.
-/

namespace SignOn.Account

open SignOn.Session

/-! ## Entries -/

/-- A call that has come to its end, with what the clock showed before and after it. -/
structure Entry where
  call : Call
  result : Except Failure call.Value
  began : Int
  ended : Int

namespace Entry

/-- The pair that the call has handed out. -/
def pair? (e : Entry) : Option TokenPair := e.call.pair? e.result

/-- The token with which the call has ended a session. -/
def ended? (e : Entry) : Option String := e.call.ended? e.result

/-- The call has issued a pair to a user. -/
def Issues (s : Setup) (user : User) (m : Mint) (e : Entry) : Prop :=
  m.InRange s ∧ e.pair? = some (m.pair s user)

/-- The call has logged a user out with the refresh token of a pair. -/
def LogsOut (s : Setup) (user : User) (m : Mint) (e : Entry) : Prop :=
  m.InRange s ∧ e.ended? = some (m.pair s user).refresh

/-- The call has issued a pair to a user, or logged the user out. -/
def Concerns (s : Setup) (user : User) (e : Entry) : Prop :=
  ∃ m, e.Issues s user m ∨ e.LogsOut s user m

end Entry

/-- The pair is the last one that was issued to a user, who has not logged out since. -/
def Current (s : Setup) (user : User) (entries : List Entry) (m : Mint) : Prop :=
  ∃ before e after, entries = before ++ e :: after ∧ e.Issues s user m ∧
    ∀ later ∈ after, ¬ later.Concerns s user

/-- The histories that lead from a start to a world. -/
inductive History (s : Setup) (start : World) : List Entry → World → Prop where
  | empty : History s start [] start
  | wait {entries : List Entry} {w w' : World} (h : History s start entries w)
      (hp : Passes s w w') : History s start entries w'
  | call {entries : List Entry} {w w' : World} {k : Call} {result : Except Failure k.Value}
      (h : History s start entries w) (hy : (k.flow s).Yields (Passes s) w result w') :
      History s start (entries ++ [⟨k, result, w.now, w'.now⟩]) w'

variable {s : Setup} {start w w' : World} {entries : List Entry} {e : Entry} {user : User}
  {m : Mint} {book : Int → Option Mint}

/-- The clock and the cache are in order. -/
def Works (s : Setup) (w : World) : Prop :=
  (∀ n, w.outside.cacheFails n = false) ∧ Clocked s w.now

theorem Works.perform (h : Works s w) (act : Act) : Works s (w.perform act).2 := by
  rw [Works, w.perform_now, w.perform_outside]
  exact h

/-- A call may run without any time passing. -/
theorem History.run (h : History s start entries w) (hw : Works s w) (k : Call) :
    History s start (entries ++ [⟨k, ((k.flow s).run w).1, w.now, ((k.flow s).run w).2.now⟩])
      ((k.flow s).run w).2 := by
  have hstill (w : World) (hw : Works s w) : Passes s w w :=
    ⟨⟨rfl, rfl, rfl, rfl, hw.1, hw.2⟩, Int.le_refl _⟩
  exact h.call (Flow.yields_run (fun _ act hw => hw.perform act) hstill (k.flow s) hw)

theorem not_current_nil : ¬ Current s user [] m := by
  rintro ⟨before, e, after, he, -⟩
  cases before <;> cases he

theorem Current.issued (h : Current s user entries m) : ∃ e ∈ entries, e.Issues s user m := by
  obtain ⟨before, e, after, rfl, hissues, -⟩ := h
  exact ⟨e, by simp, hissues⟩

/-- One more call makes its own pair the current one, or leaves the current pair if it does not
concern the user. -/
theorem current_append : Current s user (entries ++ [e]) m ↔
    e.Issues s user m ∨ (Current s user entries m ∧ ¬ e.Concerns s user) := by
  constructor
  · rintro ⟨before, x, after, he, hissues, hafter⟩
    rcases List.eq_nil_or_concat after with rfl | ⟨after, y, rfl⟩
    · obtain ⟨-, hx⟩ := List.append_inj' he rfl
      cases hx
      exact .inl hissues
    · rw [List.concat_eq_append] at he hafter
      rw [← List.cons_append, ← List.append_assoc] at he
      obtain ⟨rfl, hy⟩ := List.append_inj' he rfl
      cases hy
      exact .inr ⟨⟨before, x, after, rfl, hissues, fun later hl => hafter later (by simp [hl])⟩,
        hafter e (by simp)⟩
  · rintro (hissues | ⟨⟨before, x, after, rfl, hissues, hafter⟩, hno⟩)
    · exact ⟨entries, e, [], rfl, hissues, by simp⟩
    · refine ⟨before, x, after ++ [e], by simp, hissues, fun later hl => ?_⟩
      rcases List.mem_append.1 hl with hl | hl
      · exact hafter later hl
      · rw [List.mem_singleton.1 hl]
        exact hno

/-- A call that issues a pair to one user does not concern the others. -/
theorem Entry.Issues.only (hl : Lasting s) (hi : e.Issues s user m) (he : e.ended? = none)
    {other : User} (hne : user.idCode ≠ other.idCode) : ¬ e.Concerns s other := by
  rintro ⟨m', ⟨hrange, hpair⟩ | ⟨-, hout⟩⟩
  · have hsame := Option.some.inj (hi.2.symm.trans hpair)
    exact hne (Mint.pair_injective hl hi.1 hrange hsame).1
  · rw [he] at hout
    cases hout

theorem Entry.LogsOut.only (hl : Lasting s) (ho : e.LogsOut s user m) (hp : e.pair? = none)
    {other : User} (hne : user.idCode ≠ other.idCode) : ¬ e.Concerns s other := by
  rintro ⟨m', ⟨-, hpair⟩ | ⟨hrange, htoken⟩⟩
  · rw [hp] at hpair
    cases hpair
  · have hsame := Option.some.inj (ho.2.symm.trans htoken)
    exact hne (Mint.refresh_injective hl ho.1 hrange hsame).1

/-! ## The book of a history -/

/-- What a history says about the book of the world it has led to. -/
structure BookMatches (s : Setup) (start : World) (entries : List Entry) (book : Int → Option Mint)
    (w : World) : Prop where
  stands : Stands s start book book w
  issued : ∀ e ∈ entries, ∀ pair, e.pair? = some pair → ∃ user ∈ w.store.users,
    ∃ m : Mint, pair = m.pair s user ∧ Made s start w m ∧ e.began ≤ m.issuedAt ∧
      m.issuedAt ≤ e.ended
  ended : ∀ e ∈ entries, ∀ token, e.ended? = some token → ∃ user ∈ w.store.users,
    ∃ m : Mint, m.InRange s ∧ token = (m.pair s user).refresh
  current : ∀ user ∈ w.store.users, ∀ m, book user.id = some m ↔ Current s user entries m
  apart : ∀ e ∈ entries, ∀ e' ∈ entries, ∀ user m user' m', e.Issues s user m →
    e'.Issues s user' m' → m.key = m'.key ∨ m.refreshId = m'.refreshId → m = m'

/-- A pair that a history issues was made since the start, for a user of the store. -/
theorem BookMatches.made (hl : Lasting s) (h : BookMatches s start entries book w)
    (he : e ∈ entries) (hi : e.Issues s user m) :
    Made s start w m ∧ e.began ≤ m.issuedAt ∧ m.issuedAt ≤ e.ended ∧
      ∃ owner ∈ w.store.users, owner.idCode = user.idCode := by
  obtain ⟨hrange, hp⟩ := hi
  obtain ⟨owner, ho, m', hpair, hmade, hbegan, hended⟩ := h.issued e he _ hp
  obtain ⟨hcode, rfl⟩ := Mint.pair_injective hl hrange hmade.inRange hpair
  exact ⟨hmade, hbegan, hended, owner, ho, hcode.symm⟩

/-- Users who have come since have no session. -/
theorem BookMatches.current_later (hl : Lasting s) (h : BookMatches s start entries book w)
    (hw : Later w w') (ha : w'.store.Accounts) (hu : user ∈ w'.store.users) (m : Mint) :
    book user.id = some m ↔ Current s user entries m := by
  by_cases hold : user ∈ w.store.users
  · exact h.current user hold m
  · -- A newcomer has a new number, of which the book knows nothing, and a new code, which is in
    -- none of the pairs that were handed out.
    have hstranger : book user.id = none := by
      refine (h.stands.book.strangers user.id fun other ho hid => hold ?_).2.1
      rwa [← ha.eq_of_id (hw.users other ho) hu hid]
    constructor
    · intro hm
      rw [hstranger] at hm
      cases hm
    · intro hcurrent
      obtain ⟨e, he, hi⟩ := hcurrent.issued
      obtain ⟨-, -, -, owner, ho, hcode⟩ := h.made hl he hi
      have hsame := ha.eq_of_idCode (hw.users owner ho) hu hcode
      rw [hsame] at ho
      exact absurd ho hold

/-! ## One more call -/

/-- A call lengthens the history, if what it does to the book is what it does to the user whom it
concerns. -/
theorem BookMatches.append {book' : Int → Option Mint} (hl : Lasting s)
    (h : BookMatches s start entries book w) (hw : Later w w') (hd : System.Distinct w')
    (hs : Stands s start book' book' w')
    (hissued : ∀ pair, e.pair? = some pair → ∃ user ∈ w'.store.users, ∃ m : Mint,
      pair = m.pair s user ∧ Made s w w' m ∧ e.began ≤ m.issuedAt ∧ m.issuedAt ≤ e.ended)
    (hended : ∀ token, e.ended? = some token → ∃ user ∈ w'.store.users, ∃ m : Mint,
      m.InRange s ∧ token = (m.pair s user).refresh)
    (hbook : ∀ user ∈ w'.store.users, ∀ m, book' user.id = some m ↔
      e.Issues s user m ∨ (book user.id = some m ∧ ¬ e.Concerns s user)) :
    BookMatches s start (entries ++ [e]) book' w' := by
  have hfresh {user : User} {m : Mint} (hi : e.Issues s user m) : Made s w w' m := by
    obtain ⟨owner, -, m', hpair, hmade, -⟩ := hissued _ hi.2
    obtain ⟨-, rfl⟩ := Mint.pair_injective hl hi.1 hmade.inRange hpair
    exact hmade
  refine ⟨hs, fun x hx pair hp => ?_, fun x hx token ht => ?_, fun user hu m => ?_, ?_⟩
  · rcases List.mem_append.1 hx with hx | hx
    · obtain ⟨user, hu, m, hpair, hmade, hclock⟩ := h.issued x hx pair hp
      exact ⟨user, hw.users user hu, m, hpair, hmade.later hw, hclock⟩
    · rw [List.mem_singleton.1 hx] at hp ⊢
      obtain ⟨user, hu, m, hpair, hmade, hclock⟩ := hissued pair hp
      exact ⟨user, hu, m, hpair, hmade.since h.stands.later, hclock⟩
  · rcases List.mem_append.1 hx with hx | hx
    · obtain ⟨user, hu, hm⟩ := h.ended x hx token ht
      exact ⟨user, hw.users user hu, hm⟩
    · rw [List.mem_singleton.1 hx] at ht
      exact hended token ht
  · rw [current_append, ← h.current_later hl hw hs.book.accounts hu]
    exact hbook user hu m
  · -- The new pair was drawn after the old ones, which are apart from each other already.
    intro x hx y hy user m user' m' hm hm' hsame
    rcases List.mem_append.1 hx with hx | hx
    · rcases List.mem_append.1 hy with hy | hy
      · exact h.apart x hx y hy user m user' m' hm hm' hsame
      · rw [List.mem_singleton.1 hy] at hm'
        have hold := (h.made hl hx hm).1
        refine absurd ?_ ((hfresh hm').apart hold h.stands.later hw hd)
        exact hsame.imp Eq.symm Eq.symm
    · rw [List.mem_singleton.1 hx] at hm
      rcases List.mem_append.1 hy with hy | hy
      · have hold := (h.made hl hy hm').1
        exact absurd hsame ((hfresh hm).apart hold h.stands.later hw hd)
      · rw [List.mem_singleton.1 hy] at hm'
        have hpair : m.pair s user = m'.pair s user' := Option.some.inj (hm.2.symm.trans hm'.2)
        exact (Mint.pair_injective hl hm.1 hm'.1 hpair).2

/-- A call that hands out no pair and ends no session leaves the book alone. -/
theorem BookMatches.quiet (hl : Lasting s) (h : BookMatches s start entries book w)
    (hw : Later w w') (hd : System.Distinct w') (hb : Book s book book w') (hp : e.pair? = none)
    (he : e.ended? = none) : BookMatches s start (entries ++ [e]) book w' := by
  refine h.append hl hw hd ⟨hb, h.stands.later.trans hw⟩ (fun pair h => ?_) (fun token h => ?_)
    fun user _ m => ?_
  · rw [hp] at h
    cases h
  · rw [he] at h
    cases h
  · simp [Entry.Concerns, Entry.Issues, Entry.LogsOut, hp, he]

/-- A call that hands out a new pair enters it for its user. -/
theorem BookMatches.issue (hl : Lasting s) (h : BookMatches s start entries book w)
    (hw : Later w w') (hd : System.Distinct w') (hu : user ∈ w'.store.users) (hm : Made s w w' m)
    (hb : Book s (Function.update book user.id (some m)) (Function.update book user.id (some m)) w')
    (hp : e.pair? = some (m.pair s user)) (he : e.ended? = none) (hbegan : e.began = w.now)
    (hended : e.ended = w'.now) :
    BookMatches s start (entries ++ [e]) (Function.update book user.id (some m)) w' := by
  have hissues : e.Issues s user m := ⟨hm.inRange, hp⟩
  refine h.append hl hw hd ⟨hb, h.stands.later.trans hw⟩ (fun pair h => ?_) (fun token h => ?_)
    fun other ho m' => ?_
  · rw [hp] at h
    obtain rfl := Option.some.inj h
    exact ⟨user, hu, m, rfl, hm, hbegan ▸ hm.notBefore, hended ▸ hm.notAfter⟩
  · rw [he] at h
    cases h
  · by_cases hid : other.id = user.id
    · obtain rfl := hb.accounts.eq_of_id ho hu hid
      rw [Function.update_self]
      constructor
      · intro hm'
        cases hm'
        exact .inl hissues
      · rintro (hissues' | ⟨-, hno⟩)
        · have hpair := Option.some.inj (hp.symm.trans hissues'.2)
          rw [(Mint.pair_injective hl hm.inRange hissues'.1 hpair).2]
        · exact absurd ⟨m, .inl hissues⟩ hno
    · have hnot : ¬ e.Concerns s other := by
        refine hissues.only hl he fun hcode => hid ?_
        rw [hb.accounts.eq_of_idCode hu ho hcode]
      rw [Function.update_of_ne hid]
      constructor
      · intro hm'
        exact .inr ⟨hm', hnot⟩
      · rintro (hi | ⟨hm', -⟩)
        · exact absurd ⟨m', .inl hi⟩ hnot
        · exact hm'

/-- A call that ends a session strikes out the pair of its user. -/
theorem BookMatches.logOut (hl : Lasting s) (h : BookMatches s start entries book w)
    (hw : Later w w') (hd : System.Distinct w') (hu : user ∈ w'.store.users) (hm : m.InRange s)
    (hb : Book s (Function.update book user.id none) (Function.update book user.id none) w')
    (hp : e.pair? = none) (he : e.ended? = some (m.pair s user).refresh) :
    BookMatches s start (entries ++ [e]) (Function.update book user.id none) w' := by
  have hout : e.LogsOut s user m := ⟨hm, he⟩
  refine h.append hl hw hd ⟨hb, h.stands.later.trans hw⟩ (fun pair h => ?_) (fun token h => ?_)
    fun other ho m' => ?_
  · rw [hp] at h
    cases h
  · rw [he] at h
    obtain rfl := Option.some.inj h
    exact ⟨user, hu, m, hm, rfl⟩
  · have hnone : ¬ e.Issues s other m' := by
      rintro ⟨-, hpair⟩
      rw [hp] at hpair
      cases hpair
    by_cases hid : other.id = user.id
    · obtain rfl := hb.accounts.eq_of_id ho hu hid
      rw [Function.update_self]
      constructor
      · intro hm'
        cases hm'
      · rintro (hi | ⟨-, hno⟩)
        · exact absurd hi hnone
        · exact absurd ⟨m, .inr hout⟩ hno
    · rw [Function.update_of_ne hid]
      constructor
      · intro hm'
        refine .inr ⟨hm', hout.only hl hp fun hcode => hid ?_⟩
        rw [hb.accounts.eq_of_idCode hu ho hcode]
      · rintro (hi | ⟨hm', -⟩)
        · exact absurd hi hnone
        · exact hm'

/-! ## Every history -/

/-- A world in which nothing has happened. -/
structure Opening (s : Setup) (start : World) : Prop where
  store : start.store = {}
  cache : start.cache = {}
  up : ∀ n, start.outside.cacheFails n = false
  clocked : Clocked s start.now

theorem Opening.blank (h : Opening s start) :
    Book s (fun _ => none) (fun _ => none) start where
  sound := by
    rw [h.store]
    exact ⟨List.nodup_nil, List.nodup_nil⟩
  accounts := by
    rw [h.store]
    exact ⟨List.nodup_nil, List.nodup_nil, fun user hu => by cases hu⟩
  row user hu := by
    rw [h.store] at hu
    cases hu
  key user hu := by
    rw [h.store] at hu
    cases hu
  inRange id m hm := by cases hm
  strangers id _ := by
    rw [h.store]
    exact ⟨rfl, rfl, rfl⟩
  noStrangeKey code _ := by
    rw [h.cache]
    rfl
  keyed := by
    rw [h.cache]
    exact List.nodup_nil
  up := h.up
  clocked := h.clocked

theorem Opening.bookMatches (h : Opening s start) : BookMatches s start []
    (fun _ => none) start where
  stands := ⟨h.blank, .refl start⟩
  issued e he := by cases he
  ended e he := by cases he
  current user _ m := by simp [not_current_nil]
  apart e he := by cases he

theorem BookMatches.passes (h : BookMatches s start entries book w) (hp : Passes s w w') :
    BookMatches s start entries book w' := by
  have hw : Later w w' := .of_passes hp
  refine ⟨h.stands.passes hp, fun e he pair hpair => ?_, fun e he token ht => ?_, ?_, h.apart⟩
  · obtain ⟨user, hu, m, hm, hmade, hclock⟩ := h.issued e he pair hpair
    exact ⟨user, hw.users user hu, m, hm, hmade.later hw, hclock⟩
  · obtain ⟨user, hu, hm⟩ := h.ended e he token ht
    exact ⟨user, hw.users user hu, hm⟩
  · rw [hp.store]
    exact h.current

/-- Whatever calls there were, the book of the world follows from them. -/
theorem History.bookMatches (hl : Lasting s) (ho : Opening s start) (h : History s start entries w)
    (hd : System.Distinct w) : ∃ book, BookMatches s start entries book w := by
  induction h with
  | empty => exact ⟨fun _ => none, ho.bookMatches⟩
  | wait h hp ih =>
    obtain ⟨book, ht⟩ := ih ((Later.of_passes hp).distinct hd)
    exact ⟨book, ht.passes hp⟩
  | @call entries w w' k result h hy ih =>
    -- The call begins with the book of the history before it, and leaves that of the longer one.
    have hw : Later w w' := .of_yields hy
    obtain ⟨book, ht⟩ := ih (hw.distinct hd)
    have hnow : Stands s w book book w := ⟨ht.stands.book, .refl w⟩
    rcases (flow_ensures hl hnow k).of_yields hy with
      ⟨hp, he, hs⟩ | ⟨user, pair, hp, he, m, hpair, hu, hm, hs⟩ |
        ⟨token, hp, he, user, m, hu, hbook, rfl, hs⟩
    · exact ⟨book, ht.quiet hl hw hd hs.book hp he⟩
    · obtain rfl := Except.ok.inj hpair
      exact ⟨_, ht.issue hl hw hd hu hm hs.book hp he rfl rfl⟩
    · have hrange := ht.stands.book.inRange user.id m hbook
      exact ⟨_, ht.logOut hl hw hd hu hrange hs.book hp he⟩

end SignOn.Account
