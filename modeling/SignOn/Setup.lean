import SignOn.Cache.Command
import SignOn.Crypto.Suite
import SignOn.Failure
import SignOn.Mail.Address
import SignOn.Settings
/-!
What is fixed when the service starts: the settings, the cryptographic functions, how the identity
provider is addressed, and how requests are judged. Lifetimes of cached values follow from the
settings; where a setting may be zero or negative, the value lives for one second.
-/

namespace SignOn

/-- What is fixed when the service starts. -/
structure Setup where
  settings : Settings
  suite : Crypto.Suite
  /-- Where a browser is sent to sign in, with a state. -/
  authorizationUrl : String → String
  /-- Which texts pass for email addresses in requests. -/
  emails : Mail.AddressRule := .standard
  /-- How a client is told which fields break their rules. -/
  report : List Violation → String := Violation.report

namespace Setup

/-- A lifetime of so many seconds, but at least one. -/
def atLeastOne (seconds : Int) : Cache.Lifetime := Cache.Lifetime.ofSeconds (max seconds 1).toNat

/-- How long a session key is cached: as long as an access token lives. -/
def sessionLifetime (s : Setup) : Cache.Lifetime := atLeastOne s.settings.token.accessTtl

/-- How long the state of a sign-in is kept. -/
def stateLifetime (s : Setup) : Cache.Lifetime := atLeastOne s.settings.oauth.awaitSeconds

/-- How long a pending sign-up is kept. -/
def requestLifetime (s : Setup) : Cache.Lifetime :=
  Cache.Lifetime.ofSeconds s.settings.oauth.requestTtl

/-- How long a bundle of one-time codes is kept after its last code. -/
def bundleLifetime (s : Setup) : Cache.Lifetime :=
  Cache.Lifetime.ofSeconds s.settings.verification.bundleTtl

end Setup
end SignOn
