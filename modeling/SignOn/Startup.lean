import SignOn.Cache.Location
import SignOn.Text.Blank
/-!
Starting up. The account store is connected first, then the services are put together. They need the
store, the cache and, outside debugging, the secrets with which tokens are signed.
-/

namespace SignOn.Startup

open SignOn.Text

/-- A stage of starting up. -/
inductive Stage where
  | store
  | services
  deriving DecidableEq, Repr

/-- The name of a stage in reports. -/
def Stage.name : Stage → String
  | .store => "Postgres (sqlx)"
  | .services => "Auth services"

/-- What is found when the service starts. -/
structure Surroundings where
  /-- The name under which the service runs, such as `debug` or `release`. -/
  profile : String
  /-- Whether there is an account store. -/
  hasStore : Bool
  /-- Whether a cache server can be reached. -/
  isUp : Cache.Location → Bool

/-- Whether the service runs to be debugged. -/
def Surroundings.isDebug (s : Surroundings) : Bool := sameAscii s.profile.toList "debug".toList

/-- Whether a stage can be completed. -/
def completes (around : Surroundings) (s : Settings) : Stage → Bool
  | .store => around.hasStore
  | .services =>
    (s.missingSecrets.isEmpty || around.isDebug) && around.hasStore &&
    (Cache.connectFor around.isUp s.cache).isOk

/-- The stages that cannot be completed, in order. -/
def failed (around : Surroundings) (s : Settings) : List Stage :=
  [.store, .services].filter fun stage => !completes around s stage

end SignOn.Startup
