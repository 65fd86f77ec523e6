import SignOn.Account.User
import SignOn.Json.Read
import SignOn.Json.Print
/-!
Sessions. A user has at most one session row; it names the refresh token that may still be
exchanged. Both tokens of a pair carry a snapshot of the session, which says whose it is and when
it began.
-/

namespace SignOn

open SignOn.Json

/-- One login context. An ended row keeps its place with the address and the refresh token cleared.
-/
structure SessionRow where
  id : Int
  userId : Int
  ip : String
  refreshToken : String
  provider : AuthProvider
  startedAt : Option Int
  endedAt : Option Int
  deriving DecidableEq, Repr

/-- Whether the session has not ended. -/
def SessionRow.isActive (r : SessionRow) : Bool := r.endedAt.isNone

/-- A session row to be written for a user. -/
structure NewSession where
  userId : Int
  ip : String
  refreshToken : String
  provider : AuthProvider
  startedAt : Int
  deriving DecidableEq, Repr

/-- What a rotation writes into the row of a user. -/
structure SessionUpdate where
  userId : Int
  ip : String
  refreshToken : String
  startedAt : Int
  deriving DecidableEq, Repr

/-- The session as both tokens carry it. -/
structure Snapshot where
  /-- The store's number of the user. It never travels inside a token. -/
  userId : Int
  idCode : String
  email : Option String
  activated : Bool
  startedAt : Int
  /-- Random per login or rotation: two sessions that begin in the same second differ here. -/
  sessionKey : String
  deriving DecidableEq, Repr

namespace Snapshot

/-- The written form. -/
def shape : Shape := .record
  (.cons "user_id" .text .required false
  (.cons "email" (.optional .text) .empty false
  (.cons "activated" .flag .required false
  (.cons "session_started_at" .int64 .required false
  (.cons "session_key" .text .empty false .nil)))))

/-- The snapshot that a read value describes. The user's number is not part of it. -/
def ofCarrier : shape.Carrier → Snapshot
  | (idCode, email, activated, startedAt, sessionKey, ()) =>
    ⟨0, idCode, email, activated, startedAt, sessionKey⟩

/-- The value to be written for a snapshot. -/
def toCarrier (s : Snapshot) : shape.Carrier :=
  (s.idCode, s.email, s.activated, s.startedAt, s.sessionKey, ())

/-- The JSON text of a snapshot. -/
def encode (s : Snapshot) : String := shape.encodeText s.toCarrier

/-- The snapshot that a JSON text describes. -/
def decode (text : String) : Except Fault Snapshot := (shape.decodeText text).map ofCarrier

theorem ofCarrier_toCarrier (s : Snapshot) : ofCarrier s.toCarrier = { s with userId := 0 } := rfl

end Snapshot

/-- The two tokens of a session. -/
structure TokenPair where
  access : String
  refresh : String
  /-- When the pair was issued. It is not written. -/
  issuedAt : Option Int
  deriving DecidableEq, Repr

namespace TokenPair

/-- The fields of the written form. -/
def fields : Fields :=
  .cons "access_token" .text .required false (.cons "refresh_token" .text .required false .nil)

/-- The written form. -/
def shape : Shape := .record fields

/-- The pair that a read value describes. -/
def ofCarrier : shape.Carrier → TokenPair
  | (access, refresh, ()) => ⟨access, refresh, none⟩

/-- The value to be written for a pair. -/
def toCarrier (p : TokenPair) : shape.Carrier := (p.access, p.refresh, ())

/-- The JSON object of a pair. -/
def print (p : TokenPair) : List Char := shape.print p.toCarrier

end TokenPair

/-- The answer to a sign-in: who signed in, and the tokens of the session. -/
structure SignedIn where
  user : PublicUser
  tokens : TokenPair
  deriving DecidableEq, Repr

/-- The JSON object of a sign-in. -/
def SignedIn.print (s : SignedIn) : List Char :=
  '{' :: commaSeparated
    [printText "user" ++ ':' :: s.user.print, printText "tokens" ++ ':' :: s.tokens.print] ++ ['}']

end SignOn
