import SignOn.Proofs.Session.Rotation
import SignOn.Proofs.Session.Validity
/-!
Which tokens are accepted in a world that is as the book has it: those of the pair in the book,
until they expire. What is accepted tells the name of its refresh token or its session key; that
these belong to one pair only, the book does not know.
-/

namespace SignOn.Session

open SignOn.Keyspace SignOn.Text

variable {s : Setup} {rows keys : Int → Option Mint} {w : World} {user : User} {m : Mint}

theorem Book.accepts_refresh (h : Book s rows keys w) (hl : Lasting s)
    (hu : user ∈ w.store.users) (hm : rows user.id = some m)
    (hnow : w.now < m.issuedAt + s.settings.token.refreshTtl) :
    AcceptsRefresh s w (m.pair s user).refresh := by
  have hrange := h.inRange user.id m hm
  have hrow := h.row user hu
  rw [hm] at hrow
  obtain ⟨r, hr, ht, -⟩ := hrow
  obtain ⟨row, hfound⟩ := Store.Memory.exists_sessionByToken (Store.Memory.mem_of_rowFor hr).1 ht
    (Mint.refresh_ne_empty m s user)
  -- Another row with this token would still show the start of the session that the token carries.
  obtain ⟨owner, m', -, -, -, hm', htoken, hstarted⟩ := h.owner hfound
  obtain ⟨-, hstart, -⟩ := Mint.refresh_injective hl hrange (h.inRange owner.id m' hm') htoken
  rw [acceptsRefresh_iff]
  refine ⟨row, { m.snapshot user with userId := 0 }, hfound, ?_, ?_⟩
  · rw [Mint.validate_refresh hl hrange, if_pos hnow]
  · rw [hstarted, ← hstart]
    rfl

theorem Book.of_acceptsRefresh (h : Book s rows keys w) (hl : Lasting s)
    (hu : user ∈ w.store.users) (hrange : m.InRange s)
    (ha : AcceptsRefresh s w (m.pair s user).refresh) :
    w.now < m.issuedAt + s.settings.token.refreshTtl ∧
      ∃ m', rows user.id = some m' ∧ m.refreshId = m'.refreshId := by
  obtain ⟨row, snapshot, hfound, hvalid, -⟩ := acceptsRefresh_iff.1 ha
  rw [Mint.validate_refresh hl hrange] at hvalid
  split at hvalid
  · next hnow =>
    obtain ⟨owner, m', ho, -, -, hm', htoken, -⟩ := h.owner hfound
    obtain ⟨hcode, -, -, -, hid⟩ :=
      Mint.refresh_injective hl hrange (h.inRange owner.id m' hm') htoken
    rw [← h.accounts.eq_of_idCode hu ho hcode] at hm'
    exact ⟨hnow, m', hm', hid⟩
  · cases hvalid

theorem Book.accepts_access (h : Book s rows keys w) (hl : Lasting s)
    (hu : user ∈ w.store.users) (hm : keys user.id = some m) (hrange : m.InRange s)
    (hnow : w.now < m.issuedAt + s.settings.token.accessTtl) :
    AcceptsAccess s w (m.pair s user).access := by
  have hkey := h.key user hu
  rw [hm] at hkey
  rw [acceptsAccess_iff h.up]
  refine ⟨{ m.snapshot user with userId := 0 }, ?_, h.accounts.named user hu,
    Uuid.text_ne_empty m.key, ?_⟩
  · rw [Mint.validate_access hl hrange, if_pos hnow]
  · show Sessions.ofValue (w.cache.read? w.millis (Sessions.key user.idCode)) = some m.key.text
    rcases hkey with ⟨expires, hentry, hle⟩ | ⟨-, hdead⟩
    · have hlive : w.millis < expires := by
        have hlast := w.millis_lt_lastMilli
        have hbegun := w.now_le_millis
        unfold lastMoment at hle
        omega
      rw [Cache.Memory.read?_eq, hentry, Cache.Memory.alive_some,
        if_pos (by simpa [Cache.Entry.isLive] using hlive)]
      exact ofUtf8?_utf8 m.key.text
    · omega

theorem Book.of_acceptsAccess (h : Book s rows keys w) (hl : Lasting s)
    (hu : user ∈ w.store.users) (hrange : m.InRange s)
    (ha : AcceptsAccess s w (m.pair s user).access) :
    w.now < m.issuedAt + s.settings.token.accessTtl ∧
      ∃ m', keys user.id = some m' ∧ m.key = m'.key := by
  obtain ⟨snapshot, hvalid, -, -, hcurrent⟩ := (acceptsAccess_iff h.up).1 ha
  rw [Mint.validate_access hl hrange] at hvalid
  split at hvalid
  · next hnow =>
    obtain rfl := Except.ok.inj hvalid
    refine ⟨hnow, ?_⟩
    have hvalue : ((Cache.Memory.alive w.millis (w.cache.find? (Sessions.key user.idCode))).map
        (·.value)).bind ofUtf8? = some m.key.text := by
      rw [← Cache.Memory.read?_eq]
      exact hcurrent
    have hkey := h.key user hu
    cases hm : keys user.id with
    | none =>
      rw [hm] at hkey
      rw [show w.cache.find? (Sessions.key user.idCode) = none from hkey] at hvalue
      cases hvalue
    | some m' =>
      rw [hm] at hkey
      rcases hkey with ⟨expires, hentry, -⟩ | ⟨hnone, -⟩
      · rw [hentry, Cache.Memory.alive_some] at hvalue
        split at hvalue
        · have hread := ofUtf8?_utf8 m'.key.text
          exact ⟨m', rfl, Uuid.text_injective (Option.some.inj (hvalue.symm.trans hread))⟩
        · cases hvalue
      · rw [hnone] at hvalue
        cases hvalue
  · cases hvalid

end SignOn.Session
