import SignOn.Flow.Basic
/-!
The current sessions: for the code of a user, the key of the session whose access token is fresh.
-/

namespace SignOn.Keyspace.Sessions

open SignOn.Text

/-- Where the session key of a user is kept. -/
def key (idCode : String) : String := "ses." ++ idCode

/-- The text that a value spells, if it is one. -/
def ofValue (value : Option Bytes) : Option String := value.bind ofUtf8?

/-- The key of the current session. -/
def current (idCode : String) : Flow (Option String) := do
  return ofValue (← Flow.cache (.get (key idCode)))

/-- Makes a session the current one. -/
def put (lifetime : Cache.Lifetime) (idCode sessionKey : String) : Flow Unit :=
  Flow.cache (.set (key idCode) (utf8 sessionKey) (some lifetime))

/-- Leaves a user without a current session. -/
def remove (idCode : String) : Flow Unit := Flow.cache (.delete (key idCode))

end SignOn.Keyspace.Sessions
