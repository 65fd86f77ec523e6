import SignOn.Flow.Basic
import SignOn.Text.Blank
import SignOn.Text.Number
/-!
The states of sign-ins through the provider. A state is free, claimed since a second of the epoch,
or consumed by the callback that holds it. Writes are conditional, so that of several callers one
wins.
-/

namespace SignOn.Keyspace.States

open SignOn.Text

/-- Where a state is kept. -/
def key (state : String) : String := "oauth2:" ++ state

/-- The value of a consumed state. -/
def consumed : Bytes := utf8 "consumed"

/-- The value of a state that was claimed at a second. -/
def claimValue (claimedAt : Int) : Bytes := utf8 (String.ofList (decimal claimedAt))

/-- The second at which a value says that its state was claimed. -/
def ofValue (value : Option Bytes) : Option Int := do
  let bytes ← value
  if bytes = consumed then none
  else int64? (trim (← ofUtf8? bytes).toList)

/-- Claims a free state. -/
def claim (lifetime : Cache.Lifetime) (state : String) (claimedAt : Int) : Flow Bool :=
  Flow.cache (.setIfAbsent (key state) (claimValue claimedAt) lifetime)

/-- The second at which a state was claimed; nothing if it is free or consumed. -/
def claimedAt (state : String) : Flow (Option Int) := do
  return ofValue (← Flow.cache (.get (key state)))

/-- Consumes a state that was claimed at a second. -/
def take (lifetime : Cache.Lifetime) (state : String) (claimedAt : Int) : Flow Bool :=
  Flow.cache (.swap (key state) (some (claimValue claimedAt)) consumed lifetime)

/-- Makes a consumed state a claimed one again. -/
def restore (lifetime : Cache.Lifetime) (state : String) (claimedAt : Int) : Flow Bool :=
  Flow.cache (.swap (key state) (some consumed) (claimValue claimedAt) lifetime)

/-- Frees a state. -/
def release (state : String) : Flow Unit := Flow.cache (.delete (key state))

end SignOn.Keyspace.States
