import SignOn.Http.Message
import SignOn.Settings
/-!
The endpoints of the service, and where each of them is found: a method, and a path of fixed
segments and parameters. Most endpoints lie below the configured base path.
-/

namespace SignOn.Http

/-- What can be asked of the service. -/
inductive Endpoint where
  | signUp
  | signIn
  | refresh
  | logout
  | verify
  | sendCode
  | googleRedirect
  | googleCallback
  | gmail
  | gmailComplete
  | user
  | health
  | metrics
  /-- The description of the interface for programs. -/
  | description
  /-- A file of the description for people; the empty name stands for the directory. -/
  | guide (file : String)
  deriving DecidableEq, Repr

/-- A segment of a path. -/
inductive Step where
  | fixed (segment : String)
  | parameter (name : String)
  deriving DecidableEq, Repr

namespace Step

/-- The written form of a segment. -/
def text : Step → String
  | .fixed segment => segment
  | .parameter name => "<" ++ name ++ ">"

/-- The values of the parameters, if the segments fit the steps. -/
def fit? : List Step → List String → Option (List String)
  | [], [] => some []
  | .fixed s :: steps, t :: segments => if s == t then fit? steps segments else none
  | .parameter _ :: steps, t :: segments => (fit? steps segments).map (t :: ·)
  | _, _ => none

end Step

namespace Endpoint

/-- The files of the description for people. -/
def guideFiles : List String :=
  ["", "index.css", "index.html", "oauth2-redirect.html", "swagger-initializer.js",
    "swagger-ui-bundle.js", "swagger-ui-config.json", "swagger-ui-standalone-preset.js",
    "swagger-ui.css"]

/-- The endpoints that are always there. -/
def services : List Endpoint :=
  [.signUp, .signIn, .refresh, .logout, .verify, .sendCode, .googleRedirect, .googleCallback,
    .gmail, .gmailComplete, .user, .health, .metrics]

/-- The endpoints of a service with some settings. -/
def all (s : ApiSettings) : List Endpoint :=
  services ++ if s.enableSwagger then .description :: guideFiles.map .guide else []

/-- The method of an endpoint. -/
def method : Endpoint → Method
  | .signUp | .signIn | .refresh | .logout | .sendCode | .gmail | .gmailComplete => .post
  | .verify | .googleRedirect | .googleCallback | .user | .health | .metrics | .description
  | .guide _ => .get

/-- The path of an endpoint below the base path. -/
def steps : Endpoint → List Step
  | .signUp => [.fixed "auth", .fixed "sign-up"]
  | .signIn => [.fixed "auth", .fixed "sign-in"]
  | .refresh => [.fixed "auth", .fixed "refresh"]
  | .logout => [.fixed "auth", .fixed "logout"]
  | .verify => [.fixed "auth", .fixed "verify"]
  | .sendCode => [.fixed "auth", .fixed "verification-code"]
  | .googleRedirect => [.fixed "oauth", .fixed "google", .fixed "redirect"]
  | .googleCallback => [.fixed "oauth", .fixed "google", .fixed "callback"]
  | .gmail => [.fixed "oauth", .fixed "gmail"]
  | .gmailComplete => [.fixed "oauth", .fixed "gmail", .fixed "complete"]
  | .user => [.fixed "users", .parameter "id_code"]
  | .health => [.fixed "health"]
  | .metrics => [.fixed "metrics"]
  | .description => [.fixed "openapi.json"]
  | .guide "" => [.fixed "docs"]
  | .guide file => [.fixed "docs", .fixed file]

/-- The parameters that an endpoint takes from the query. -/
def queryNames : Endpoint → List String
  | .googleRedirect => ["state"]
  | .googleCallback => ["state", "code", "error_reason"]
  | _ => []

/-- The segments of the base path. -/
def baseOf (s : ApiSettings) : List String :=
  Target.segmentsOf (normalizeBasePath s.basePath).toList

/-- The whole path of an endpoint. The counters lie beside the base path, not below it. -/
def path (base : List String) (e : Endpoint) : List Step :=
  if e = .metrics then e.steps else base.map .fixed ++ e.steps

/-- The written form of a path. -/
def writtenPath (segments : List String) : String := "/" ++ "/".intercalate segments

/-- The written form of an endpoint. -/
def written (base : List String) (e : Endpoint) : String :=
  let query := match e.queryNames with
    | [] => ""
    | names => "?" ++ "&".intercalate (names.map fun n => "<" ++ n ++ ">")
  e.method.name ++ " " ++ writtenPath ((e.path base).map Step.text) ++ query

/-- The endpoint for a method and a path, with the values of its parameters. -/
def find? (s : ApiSettings) (method : Method) (segments : List String) :
    Option (Endpoint × List String) :=
  (all s).findSome? fun e =>
    if e.method = method then (Step.fit? (e.path (baseOf s)) segments).map (e, ·) else none

end Endpoint
end SignOn.Http
