import SignOn.Keyspace.Sessions
import SignOn.Setup
import SignOn.Token.Pair
/-!
The life of a session. A user has at most one session row. Every login and every refresh overwrites
it with a new start, a new refresh token and a new session key: the old refresh token is void since
the row no longer holds it, and the old access token since its session key is no longer the cached
one.
-/

namespace SignOn.Session

open SignOn.Keyspace

/-- The snapshot of a session of a user. -/
def snapshotOf (user : User) (startedAt : Int) (key : Uuid) : Snapshot where
  userId := user.id
  idCode := user.idCode
  email := user.email
  activated := user.activated
  startedAt := startedAt
  sessionKey := key.text

/-- A snapshot of a session that begins now. -/
def newSnapshot (user : User) : Flow Snapshot := do
  let startedAt ← Flow.now
  let key ← Flow.newUuid
  return snapshotOf user startedAt key

/-- A pair of tokens for a snapshot. -/
def issuePair (s : Setup) (snapshot : Snapshot) : Flow TokenPair := do
  let now ← Flow.now
  let accessId ← Flow.newUuid
  let refreshId ← Flow.newUuid
  return Token.issuePair s.suite.sign s.settings.token snapshot now accessId refreshId

/-- The row to be written for a session. -/
def newRow (snapshot : Snapshot) (pair : TokenPair) (provider : AuthProvider) (ip : String) :
    NewSession :=
  ⟨snapshot.userId, ip, pair.refresh, provider, snapshot.startedAt⟩

/-- Begins a session. -/
def create (s : Setup) (user : User) (provider : AuthProvider) (ip : String) : Flow TokenPair := do
  let snapshot ← newSnapshot user
  let pair ← issuePair s snapshot
  let _ ← Flow.store (.createSession (newRow snapshot pair provider ip))
  Sessions.put s.sessionLifetime snapshot.idCode snapshot.sessionKey
  return pair

/-- Gives the session of a user a new pair of tokens. A user without a row gets one. -/
def update (s : Setup) (user : User) (provider : AuthProvider) (ip : String) : Flow TokenPair := do
  let snapshot ← newSnapshot user
  let pair ← issuePair s snapshot
  let updated ← Flow.store
    (.updateSession ⟨snapshot.userId, ip, pair.refresh, snapshot.startedAt⟩)
  if !updated then
    let _ ← Flow.store (.createSession (newRow snapshot pair provider ip))
  Sessions.put s.sessionLifetime snapshot.idCode snapshot.sessionKey
  return pair

/-- The snapshot in a token of a kind, judged by the clock. -/
def validate (s : Setup) (kind : Token.Kind) (token : String) : Flow Snapshot := do
  let now ← Flow.now
  Flow.ofExcept (Token.validate s.suite.sign s.settings.token kind now token)

/-- The snapshot in a refresh token that may be exchanged: a session row holds it, and the session
began when the token says. -/
def validateRefresh (s : Setup) (token : String) : Flow Snapshot := do
  let row ← Flow.require (← Flow.store (.sessionByToken token)) .invalidToken
  let snapshot ← validate s .refresh token
  Flow.ensure (row.startedAt == some snapshot.startedAt) .invalidToken
  return { snapshot with userId := row.userId }

/-- The snapshot in an access token whose session is the current one of its user. -/
def validateAccess (s : Setup) (token : String) : Flow Snapshot := do
  let snapshot ← validate s .access token
  Flow.ensure (snapshot.idCode != "") .invalidToken
  let current ← Sessions.current snapshot.idCode
  Flow.ensure (snapshot.sessionKey != "" && current == some snapshot.sessionKey) .sessionExpired
  return snapshot

/-- Ends the session whose row holds a refresh token, and forgets its key, so that access tokens are
void at once. -/
def logout (token : String) : Flow Unit := do
  let row ← Flow.require (← Flow.store (.sessionByToken token)) .invalidToken
  Flow.store (.endSession row.id (← Flow.now))
  match ← Flow.store (.userById row.userId) with
  | some user => Sessions.remove user.idCode
  | none => return ()

/-- Exchanges a refresh token for a new pair. -/
def refresh (s : Setup) (token ip : String) : Flow (User × TokenPair) := do
  let snapshot ← validateRefresh s token
  let user ← Flow.require (← Flow.store (.userByIdCode snapshot.idCode)) .userNotFound
  Flow.ensure (!user.isDeleted) .inactiveUser
  let pair ← update s user user.provider ip
  return (user, pair)

end SignOn.Session
