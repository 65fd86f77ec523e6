import SignOn.Flow.Basic
/-!
Pending sign-ups: for a request id, the email that the identity provider has proven.
-/

namespace SignOn.Keyspace.Requests

open SignOn.Text

/-- Where the email of a request is kept. -/
def key (requestId : String) : String := "request_session." ++ requestId

/-- The email that a value spells. An empty one counts as none. -/
def ofValue (value : Option Bytes) : Option String :=
  (value.bind ofUtf8?).filter (· != "")

/-- Keeps the email of a new request, and tells whether the request is new. -/
def put (lifetime : Cache.Lifetime) (requestId email : String) : Flow Bool :=
  Flow.cache (.setIfAbsent (key requestId) (utf8 email) lifetime)

/-- The email of a request. -/
def email (requestId : String) : Flow (Option String) := do
  return ofValue (← Flow.cache (.get (key requestId)))

/-- Drops a request. -/
def remove (requestId : String) : Flow Unit := Flow.cache (.delete (key requestId))

end SignOn.Keyspace.Requests
