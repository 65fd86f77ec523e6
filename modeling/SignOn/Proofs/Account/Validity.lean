import SignOn.Proofs.Account.History
import SignOn.Proofs.Sample
import SignOn.Proofs.Session.Acceptance
/-!
When the tokens of a history are accepted: those of the last pair of a user, until they expire or
the user logs out.
-/

namespace SignOn.Account

open SignOn.Session

variable {s : Setup} {start w : World} {entries : List Entry} {e : Entry} {user : User} {m : Mint}
  {book : Int → Option Mint}

theorem BookMatches.accepts_refresh_iff (hl : Lasting s) (h : BookMatches s start entries book w)
    (hu : user ∈ w.store.users) (he : e ∈ entries) (hi : e.Issues s user m) :
    AcceptsRefresh s w (m.pair s user).refresh ↔
      Current s user entries m ∧ w.now < m.issuedAt + s.settings.token.refreshTtl := by
  have hbook := h.stands.book
  constructor
  · intro ha
    obtain ⟨hnow, m', hm', hid⟩ := hbook.of_acceptsRefresh hl hu hi.1 ha
    have hcurrent := (h.current user hu m').1 hm'
    obtain ⟨e', he', hi'⟩ := hcurrent.issued
    rw [← h.apart e he e' he' user m user m' hi hi' (.inr hid)] at hcurrent
    exact ⟨hcurrent, hnow⟩
  · rintro ⟨hcurrent, hnow⟩
    exact hbook.accepts_refresh hl hu ((h.current user hu m).2 hcurrent) hnow

theorem BookMatches.accepts_access_iff (hl : Lasting s) (h : BookMatches s start entries book w)
    (hu : user ∈ w.store.users) (he : e ∈ entries) (hi : e.Issues s user m) :
    AcceptsAccess s w (m.pair s user).access ↔
      Current s user entries m ∧ w.now < m.issuedAt + s.settings.token.accessTtl := by
  have hbook := h.stands.book
  constructor
  · intro ha
    obtain ⟨hnow, m', hm', hkey⟩ := hbook.of_acceptsAccess hl hu hi.1 ha
    have hcurrent := (h.current user hu m').1 hm'
    obtain ⟨e', he', hi'⟩ := hcurrent.issued
    rw [← h.apart e he e' he' user m user m' hi hi' (.inl hkey)] at hcurrent
    exact ⟨hcurrent, hnow⟩
  · rintro ⟨hcurrent, hnow⟩
    exact hbook.accepts_access hl hu ((h.current user hu m).2 hcurrent) hi.1 hnow

/-- After every history, every pair that was handed out was issued to a user of the store while the
call ran, every logout was one of a user of the store, and the tokens of a pair are accepted exactly
if it is the last one that was issued to its user, the user has not logged out since, and the token
has not expired. -/
theorem accepted_iff_current (hl : Lasting s) (ho : Opening s start)
    (h : History s start entries w) (hd : System.Distinct w) :
    (∀ e ∈ entries, ∀ pair, e.pair? = some pair → ∃ user ∈ w.store.users, ∃ m,
      e.Issues s user m ∧ pair = m.pair s user ∧ e.began ≤ m.issuedAt ∧ m.issuedAt ≤ e.ended) ∧
    (∀ e ∈ entries, ∀ token, e.ended? = some token → ∃ user ∈ w.store.users, ∃ m,
      e.LogsOut s user m ∧ token = (m.pair s user).refresh) ∧
    ∀ user ∈ w.store.users, ∀ e ∈ entries, ∀ m, e.Issues s user m →
      (AcceptsRefresh s w (m.pair s user).refresh ↔
        Current s user entries m ∧ w.now < m.issuedAt + s.settings.token.refreshTtl) ∧
      (AcceptsAccess s w (m.pair s user).access ↔
        Current s user entries m ∧ w.now < m.issuedAt + s.settings.token.accessTtl) := by
  obtain ⟨book, ht⟩ := h.bookMatches hl ho hd
  refine ⟨fun e he pair hp => ?_, fun e he token hout => ?_, fun user hu e he m hi => ?_⟩
  · obtain ⟨user, hu, m, rfl, hmade, hbegan, hended⟩ := ht.issued e he pair hp
    exact ⟨user, hu, m, ⟨hmade.inRange, hp⟩, rfl, hbegan, hended⟩
  · obtain ⟨user, hu, m, hrange, rfl⟩ := ht.ended e he token hout
    exact ⟨user, hu, m, ⟨hrange, hout⟩, rfl⟩
  · exact ⟨ht.accepts_refresh_iff hl hu he hi, ht.accepts_access_iff hl hu he hi⟩

/-- A newcomer is sent to the provider. -/
def sent : Except Failure String × World :=
  (Call.flow Sample.setup (.redirect (Sample.uuid 7).text)).run Sample.world

/-- The newcomer comes back. -/
def returned : Except Failure TokenPair × World :=
  (Call.flow Sample.setup (.callback (Sample.uuid 7).text "code" "::1")).run sent.2

def leaving : Entry :=
  ⟨.redirect (Sample.uuid 7).text, sent.1, Sample.world.now, sent.2.now⟩

def returning : Entry :=
  ⟨.callback (Sample.uuid 7).text "code" "::1", returned.1, sent.2.now, returned.2.now⟩

theorem accepted_iff_current_returned :
    History Sample.setup Sample.world [leaving, returning] returned.2 ∧
      ∃ pair, returned.1 = .ok pair ∧ AcceptsRefresh Sample.setup returned.2 pair.refresh ∧
        AcceptsAccess Sample.setup returned.2 pair.access := by
  have hlasting : Lasting Sample.setup := ⟨by decide, by decide⟩
  have hclocked : Clocked Sample.setup 1000 := ⟨by decide, by decide, by decide⟩
  have hsent : sent.2.now = 1000 := by decide +kernel
  have hreturned : returned.2.now = 1000 := by decide +kernel
  have hanswer : (Except.toOption returned.1).isSome = true := by decide +kernel
  have hopening : Opening Sample.setup Sample.world := ⟨rfl, rfl, fun _ => rfl, hclocked⟩
  have hempty : History Sample.setup Sample.world [] Sample.world := .empty
  have hhistory : History Sample.setup Sample.world [leaving, returning] returned.2 :=
    (hempty.run ⟨fun _ => rfl, hclocked⟩ (.redirect (Sample.uuid 7).text)).run
      ⟨fun _ => rfl, hsent ▸ hclocked⟩ (.callback (Sample.uuid 7).text "code" "::1")
  have hdistinct : System.Distinct returned.2 := Sample.distinct rfl (by decide +kernel)
  obtain ⟨pair, hpair⟩ : ∃ pair, returned.1 = .ok pair := by
    cases h : returned.1 with
    | ok pair => exact ⟨pair, rfl⟩
    | error e =>
      rw [h] at hanswer
      cases hanswer
  obtain ⟨hissued, -, hpairs⟩ := accepted_iff_current hlasting hopening hhistory hdistinct
  have hmem : returning ∈ [leaving, returning] := by simp
  have hgiven : returning.pair? = some pair := by
    show Call.pair? (.callback _ _ _) returned.1 = some pair
    rw [hpair]
    rfl
  obtain ⟨user, hu, m, hi, hm, hbegan, -⟩ := hissued returning hmem pair hgiven
  obtain ⟨hrefresh, haccess⟩ := hpairs user hu returning hmem m hi
  have hcurrent : Current Sample.setup user [leaving, returning] m :=
    ⟨[leaving], returning, [], rfl, hi, by simp⟩
  have hsince : sent.2.now ≤ m.issuedAt := hbegan
  have hrefreshTtl := hlasting.refresh
  have haccessTtl := hlasting.access
  refine ⟨hhistory, pair, hpair, ?_, ?_⟩
  · rw [hm]
    exact hrefresh.2 ⟨hcurrent, by omega⟩
  · rw [hm]
    exact haccess.2 ⟨hcurrent, by omega⟩

end SignOn.Account
