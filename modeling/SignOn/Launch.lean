import SignOn.Http.Cors
import SignOn.Http.Endpoint
import SignOn.Http.ErrorPage
import SignOn.Settings.DotEnv
import SignOn.Settings.Load
/-!
What is known of the service before it runs: its settings, from the environment and the files beside
it, and then the routes and error pages that these settings open.
-/

namespace SignOn.Launch

open SignOn.Http

/-- Why the service cannot be launched. -/
inductive Obstacle where
  | settings (failure : Failure)
  | policy (fault : Cors.Unusable)
  deriving DecidableEq, Repr

/-- What operators are told. -/
def Obstacle.message : Obstacle → String
  | .settings failure => "failed to load configuration: " ++ failure.message Violation.report
  | .policy fault => fault.message

/-- The settings that an environment describes, together with the files beside the service. A
variable of the environment file holds only where the environment has none of its name. -/
def settings (dotEnv file : Option String) (environment : List (String × String)) :
    Except Failure Settings :=
  Settings.load file (dotEnv.elim environment (DotEnv.load environment))

/-- What a service with some settings answers. -/
structure Mounts where
  /-- Methods with their paths. -/
  routes : List String
  /-- Statuses that have pages of their own, with the path below which they are shown. -/
  pages : List String
  deriving DecidableEq, Repr

/-- What the settings open, if they make a policy for other origins. -/
def mounts (s : Settings) : Except Cors.Unusable Mounts := do
  let _ ← Cors.Policy.ofSettings s.cors
  let base := Endpoint.baseOf s.api
  return {
    routes := (Endpoint.all s.api).map (·.written base)
    pages := ErrorPage.ownStatuses.map fun n => toString n ++ " " ++ Endpoint.writtenPath base }

/-- The routes that an environment file opens. -/
def routesOf (dotEnv : String) : Except Obstacle (List String) := do
  let s ← (settings (some dotEnv) none []).mapError .settings
  return (← (mounts s).mapError .policy).routes

end SignOn.Launch
