import SignOn.Flow.World
import SignOn.Proofs.Token.RoundTrip
import SignOn.Session.Lifecycle
/-!
What goes into a pair of tokens: when the session began, its key, when the pair was issued, and the
names of both tokens. A pair says for whom and of what it was made, as long as the clock and the
lifetimes stay within 64 bits.
-/

namespace SignOn.Session

/-- What a call draws and reads to make a pair of tokens. -/
structure Mint where
  startedAt : Int
  key : Uuid
  issuedAt : Int
  accessId : Uuid
  refreshId : Uuid

/-- A clock that shows a second after the epoch at which tokens can be issued. -/
structure Clocked (s : Setup) (now : Int) : Prop where
  nonneg : 0 ≤ now
  access : now + s.settings.token.accessTtl ≤ 9223372036854775807
  refresh : now + s.settings.token.refreshTtl ≤ 9223372036854775807

/-- The clock and the outer world move on, while the service stays as it is. -/
structure Steady (s : Setup) (w w' : World) : Prop where
  store : w'.store = w.store
  cache : w'.cache = w.cache
  drawn : w'.drawn = w.drawn
  uuids : w'.outside.uuids = w.outside.uuids
  up : ∀ n, w'.outside.cacheFails n = false
  clocked : Clocked s w'.now

/-- Time passes: the clock does not go back. -/
structure Passes (s : Setup) (w w' : World) : Prop extends Steady s w w' where
  forward : w.now ≤ w'.now

/-- Lifetimes of tokens that are not empty. -/
structure Lasting (s : Setup) : Prop where
  access : 1 ≤ s.settings.token.accessTtl
  refresh : 1 ≤ s.settings.token.refreshTtl

namespace Mint

variable {s : Setup} {user : User} {m : Mint}

/-- The session as the pair carries it. -/
def snapshot (m : Mint) (user : User) : Snapshot := snapshotOf user m.startedAt m.key

/-- The pair for a user. -/
def pair (m : Mint) (s : Setup) (user : User) : TokenPair :=
  Token.issuePair s.suite.sign s.settings.token (m.snapshot user) m.issuedAt m.accessId m.refreshId

/-- A pair that was made while the clock was in order. -/
structure InRange (m : Mint) (s : Setup) : Prop where
  started : Clocked s m.startedAt
  issued : Clocked s m.issuedAt

theorem isExpiry_startedAt (hl : Lasting s) (h : m.InRange s) : Token.IsExpiry m.startedAt := by
  have h0 := h.started.nonneg
  have h1 := h.started.access
  have h2 := hl.access
  constructor <;> omega

theorem isExpiry_access (hl : Lasting s) (h : m.InRange s) :
    Token.IsExpiry (m.issuedAt + s.settings.token.accessTtl) := by
  have h0 := h.issued.nonneg
  have h2 := hl.access
  exact ⟨by omega, h.issued.access⟩

theorem isExpiry_refresh (hl : Lasting s) (h : m.InRange s) :
    Token.IsExpiry (m.issuedAt + s.settings.token.refreshTtl) := by
  have h0 := h.issued.nonneg
  have h2 := hl.refresh
  exact ⟨by omega, h.issued.refresh⟩

/-- What an access token says, until it expires. -/
theorem validate_access (hl : Lasting s) (h : m.InRange s) (now : Int) :
    Token.validate s.suite.sign s.settings.token .access now (m.pair s user).access
      = if now < m.issuedAt + s.settings.token.accessTtl
        then .ok { m.snapshot user with userId := 0 } else .error .invalidToken :=
  Token.validate_issue _ _ .access m.accessId (isExpiry_access hl h)
    (isExpiry_startedAt hl h).isInt64 now

/-- What a refresh token says, until it expires. -/
theorem validate_refresh (hl : Lasting s) (h : m.InRange s) (now : Int) :
    Token.validate s.suite.sign s.settings.token .refresh now (m.pair s user).refresh
      = if now < m.issuedAt + s.settings.token.refreshTtl
        then .ok { m.snapshot user with userId := 0 } else .error .invalidToken :=
  Token.validate_issue _ _ .refresh m.refreshId (isExpiry_refresh hl h)
    (isExpiry_startedAt hl h).isInt64 now

section
variable (hl : Lasting s) {other : Mint} {owner : User} (h : m.InRange s) (ho : other.InRange s)
include hl h ho

/-- A refresh token tells whose it is and of what it was made. -/
theorem refresh_injective (he : (m.pair s user).refresh = (other.pair s owner).refresh) :
    user.idCode = owner.idCode ∧ m.startedAt = other.startedAt ∧ m.key = other.key ∧
      m.issuedAt = other.issuedAt ∧ m.refreshId = other.refreshId := by
  obtain ⟨hsnapshot, hissued, hid⟩ := Token.issue_injective s.suite.sign s.settings.token .refresh
    (a := m.snapshot user) (b := other.snapshot owner) (isExpiry_refresh hl h)
    (isExpiry_refresh hl ho) (isExpiry_startedAt hl h) (isExpiry_startedAt hl ho) he
  exact ⟨congrArg Snapshot.idCode hsnapshot, congrArg Snapshot.startedAt hsnapshot,
    Uuid.text_injective (congrArg Snapshot.sessionKey hsnapshot), hissued, hid⟩

theorem pair_injective (he : m.pair s user = other.pair s owner) :
    user.idCode = owner.idCode ∧ m = other := by
  have ha : (m.pair s user).access = (other.pair s owner).access := congrArg TokenPair.access he
  have hr : (m.pair s user).refresh = (other.pair s owner).refresh :=
    congrArg TokenPair.refresh he
  obtain ⟨-, -, haccess⟩ := Token.issue_injective s.suite.sign s.settings.token .access
    (a := m.snapshot user) (b := other.snapshot owner) (isExpiry_access hl h)
    (isExpiry_access hl ho) (isExpiry_startedAt hl h) (isExpiry_startedAt hl ho) ha
  obtain ⟨hcode, hstarted, hkey, hissued, hrefresh⟩ := refresh_injective hl h ho hr
  obtain ⟨startedAt, key, issuedAt, accessId, refreshId⟩ := m
  obtain ⟨startedAt', key', issuedAt', accessId', refreshId'⟩ := other
  simp only at hstarted hkey hissued haccess hrefresh
  rw [hstarted, hkey, hissued, haccess, hrefresh]
  exact ⟨hcode, rfl⟩

end

theorem refresh_ne_empty (m : Mint) (s : Setup) (user : User) : (m.pair s user).refresh ≠ "" :=
  Token.issue_ne_empty _ _ .refresh _ _ _

end Mint
end SignOn.Session
