import SignOn.Account.Access
import SignOn.Http.Call
import SignOn.Http.Counter
import SignOn.Http.Reference
/-!
What the endpoints do: each makes one service call and shapes its outcome into a response. Whatever
issues a pair of tokens also sets the refresh cookie.
-/

namespace SignOn.Http

open SignOn.Json SignOn.Text

/-- What comes of a request. -/
inductive Result where
  | answered (response : Response)
  /-- An error page is shown in place of an answer; a refused bearer token gives it a reason. -/
  | failed (status : Nat) (reason : Option Failure)
  deriving DecidableEq, Repr

namespace Response

/-- A JSON answer. -/
def json (status : Nat) (text : List Char) : Response := ofBody status (.json text)

/-- The JSON object with a message and perhaps the kind of an error. -/
def messageText (message : String) (kind : Option Failure.Kind) : List Char :=
  '{' :: commaSeparated ((printText "message" ++ ':' :: printText message) ::
    kind.toList.map fun k => printText "kind" ++ ':' :: printText k.name) ++ ['}']

/-- The answer to a call that fails. -/
def ofFailure (s : Setup) (e : Failure) : Response :=
  json e.status (messageText (e.message s.report) (some e.kind))

/-- An answer without content. -/
def noContent : Response := { status := 204 }

/-- Sets the refresh cookie, which lives as long as a refresh token. -/
def withRefreshToken (s : Setup) (pair : TokenPair) (r : Response) : Response :=
  { r with cookies :=
      r.cookies ++ [.set Call.refreshCookie pair.refresh (max s.settings.token.refreshTtl 0)] }

end Response

/-- Shapes the outcome of a call. -/
def answering {α : Type} (s : Setup) (flow : Flow α) (respond : α → Response) : Flow Response := do
  match ← flow.attempt with
  | .ok a => return respond a
  | .error e => return .ofFailure s e

namespace Call

/-- The refresh token that a cookie has to bring. -/
def required (cookie : Option String) : Flow String := Flow.require cookie .invalidToken

/-- The answer to a sign-in. -/
def signedIn (s : Setup) (r : SignedIn) : Response :=
  (Response.json 200 r.print).withRefreshToken s r.tokens

/-- The session of a bearer token, or why there is none. -/
def session (s : Setup) (bearer : Option String) : Flow (Except Failure Snapshot) :=
  match bearer with
  | some token => (Session.validateAccess s token).attempt
  | none => return .error .unauthorized

/-- What is counted for a bearer token. -/
def verdictCounter : Except Failure Snapshot → Counter
  | .ok _ => .acceptedBearers
  | .error _ => .rejectedBearers

/-- Redeems a state, unless the provider declined. -/
def redeem (s : Setup) (state : String) (code reason : Option String) (ip : String) :
    Flow TokenPair := do
  match reason.filter (· != "") with
  | some reason => .fail (.badRequest ("provider declined: " ++ reason))
  | none =>
    let code ← Flow.require (code.filter (· != "")) (.badRequest "code is required")
    Google.callback s state code ip

/-- Where a browser goes with its tokens. -/
def callbackUrl (base state token : String) : String :=
  withFields base [("state", state), ("token", token)]

/-- Sends a browser on with its tokens. -/
def redirected (s : Setup) (state : String) (pair : TokenPair) : Response :=
  let url := callbackUrl s.settings.oauth.google.clientCallbackUri state pair.access
  (({ status := 307 } : Response).withHeader "location" url).withRefreshToken s pair

/-- Whether a response leads to a place that can be written in a header. -/
def isRedirectable (r : Response) : Bool :=
  (r.headers.find? (·.name == "location")).all fun h => Reference.isValid h.value

/-- The answer about the state of the service. -/
def healthText (status cache : String) : List Char :=
  '{' :: commaSeparated [printText "status" ++ ':' :: printText status,
    printText "cache" ++ ':' :: printText cache] ++ ['}']

/-- The type of a file of the description for people. -/
def guideType (file : String) : String :=
  if file.endsWith ".css" then "text/css; charset=utf-8"
  else if file.endsWith ".js" then "text/javascript"
  else if file.endsWith ".json" then Body.jsonType
  else Body.pageType

/-- The description of the interface: the path and method of every endpoint. -/
def descriptionText : List Char :=
  let shown := Endpoint.services.filter (· != .metrics)
  let paths := shown.map fun e =>
    printText (Endpoint.writtenPath (e.steps.map Step.text)) ++ ":\x7b".toList ++
      printText (e.method.name.map Char.toLower) ++ ":\x7b\x7d\x7d".toList
  '{' :: printText "openapi" ++ ':' :: printText "3.0.0" ++ ',' :: printText "paths" ++ ':' ::
    '{' :: commaSeparated paths ++ ['}', '}']

/-- A file of the description for people; the directory leads on to its first page. -/
def guideAnswer (s : Setup) (file : String) : Response :=
  if file = "" then
    let place := Endpoint.writtenPath (Endpoint.baseOf s.settings.api ++ ["docs", "index.html"])
    ({ status := 303 } : Response).withHeader "location" place
  else .ofBody 200 (.text (guideType file) "The interface is described in openapi.json.")

/-- Signs in from a device. -/
def fromDevice (s : Setup) (request : GmailRequest) (ip : String) : Flow GmailAnswer := do
  Account.ensureValid request.violations
  Google.fromDevice s request.googleToken ip

/-- The answer to a device. -/
def deviceAnswer (s : Setup) (answer : GmailAnswer) : Response :=
  match answer.tokens with
  | some pair => (Response.json 200 answer.print).withRefreshToken s pair
  | none => .json 200 answer.print

/-- The result of a response: one that cannot be sent is replaced by an error page. -/
def resultOf (r : Response) : Result :=
  if isRedirectable r then .answered r else .failed 500 none

/-- Counts a call that is then answered. -/
def counting (counted : List Counter) (flow : Flow Response) : Flow (Result × List Counter) := do
  return (resultOf (← flow), counted)

/-- Runs a call: its result, and what it counts. -/
def run (s : Setup) (tally : Tally) : Call → Flow (Result × List Counter)
  | .signUp request ip =>
    counting [.signUp] (answering s (Account.signUp s request ip) (signedIn s))
  | .signIn request ip =>
    counting [.signIn] (answering s (Account.signIn s request ip) (signedIn s))
  | .refresh cookie ip =>
    counting [.refresh] (answering s (do Account.refresh s (← required cookie) ip) fun pair =>
      (Response.json 200 pair.print).withRefreshToken s pair)
  | .logout cookie =>
    counting [.logout] (answering s (do Account.logout (← required cookie)) fun () =>
      { Response.noContent with cookies := [.remove refreshCookie] })
  | .verify bearer => do
    let verdict ← session s bearer
    counting [verdictCounter verdict, .verify] (answering s (.ofExcept verdict) fun snapshot =>
      .json 200 snapshot.encode.toList)
  | .sendCode request =>
    counting [.sendCode] (answering s (Account.sendCode s request) fun () => .noContent)
  | .googleRedirect state =>
    counting [.googleRedirect] (answering s (Google.redirectUrl s state) fun url =>
      .json 200 ('{' :: printText "redirect_url" ++ ':' :: printText url ++ ['}']))
  | .googleCallback state code reason ip =>
    counting [.googleCallback] (answering s (redeem s state code reason ip) (redirected s state))
  | .gmail request ip =>
    counting [.gmail] (answering s (fromDevice s request ip) (deviceAnswer s))
  | .gmailComplete request ip =>
    counting [] (answering s (Account.complete s request ip) (signedIn s))
  | .user bearer idCode => do
    match ← session s bearer with
    | .ok _ => counting [.acceptedBearers] (answering s (Account.byIdCode idCode) fun user =>
        .json 200 user.print)
    | .error e => return (.failed e.status (some e), [.rejectedBearers])
  | .health => counting [] do
    match ← (Flow.cache .ping).attempt with
    | .ok () => return .json 200 (healthText "ok" "ok")
    | .error _ => return .json 503 (healthText "degraded" "unreachable")
  | .metrics => return (.answered (.ofBody 200 (.text Body.plainType tally.text)), [])
  | .description =>
    return (.answered (.ofBody 200 (.text Body.jsonType (String.ofList descriptionText))), [])
  | .guide file => return (.answered (guideAnswer s file), [])

end Call
end SignOn.Http
