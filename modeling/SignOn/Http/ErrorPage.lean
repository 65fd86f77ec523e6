import SignOn.Http.Result
/-!
Error pages: what is shown in place of an answer. Below the base path the common errors are told in
JSON; every other error page is a text for people, or JSON for a client that prefers it.
-/

namespace SignOn.Http

open SignOn.Json SignOn.Text

/-! ## What a client prefers -/

/-- A range of media types that a client takes, with its weight in thousandths. -/
structure MediaRange where
  type : String
  subtype : String
  weight : Option Nat
  deriving DecidableEq, Repr

namespace MediaRange

/-- A character of a name. -/
def isToken (c : Char) : Bool :=
  Percent.isAlphanumeric c || "!#$%&'*+-.^_\x60|~".toList.contains c

/-- A weight between zero and one, with up to three decimals. -/
def weight? (cs : List Char) : Option Nat :=
  let (whole, decimals) := (splitAtFirst? (· == '.') cs).getD (cs, [])
  match natural? whole, natural? ((decimals ++ ['0', '0', '0']).take 3) with
  | some n, some d =>
    if n * 1000 + d ≤ 1000 && decimals.length ≤ 3 then some (n * 1000 + d) else none
  | _, _ => none

/-- The range that a piece of an `Accept` header names. -/
def ofPiece? (piece : List Char) : Option MediaRange := do
  let parts := (pieces (· == ';') piece).map trim
  let (type, subtype) ← splitAtFirst? (· == '/') (parts.headD [])
  let weights := parts.tail.filterMap fun part => match part with
    | 'q' :: '=' :: w => weight? w
    | _ => none
  if type.isEmpty || subtype.isEmpty || !(type ++ subtype).all isToken then none
  else some ⟨String.ofList (type.map lowerAscii), String.ofList (subtype.map lowerAscii),
    weights.head?⟩

/-- How many parts of a range are named. -/
def specificity (r : MediaRange) : Nat :=
  (if r.type == "*" then 0 else 1) + if r.subtype == "*" then 0 else 1

/-- The better one of two ranges: without a weight, of a greater one, or more specific. -/
def better (a b : MediaRange) : MediaRange :=
  if b.weight.isNone && a.weight.isSome then b
  else if a.weight.getD 1000 < b.weight.getD 0 then b
  else if a.specificity < b.specificity then b
  else a

/-- The range that a client likes best. -/
def preferred? (accept : String) : Option MediaRange := do
  let ranges ← (pieces (· == ',') accept.toList).mapM ofPiece?
  match ranges with
  | [] => none
  | r :: rest => some (rest.foldl better r)

end MediaRange

/-- Whether a client likes JSON best. -/
def Request.prefersJson (r : Request) : Bool :=
  ((r.header? "Accept").bind MediaRange.preferred?).any fun range =>
    range.type == "application" && range.subtype == "json"

/-! ## Pages -/

namespace ErrorPage

/-- What is said under the base path, for the common errors. A refused bearer token is told why. -/
def ownText? (s : Setup) (status : Nat) (reason : Option Failure) : Option (List Char) :=
  match status, reason with
  | 401, some e => some (Response.messageText (e.message s.report) (some e.kind))
  | 400, _ => some (Response.messageText "Bad request" none)
  | 401, none => some (Response.messageText "Unauthorized" none)
  | 404, _ => some (Response.messageText "Not found" none)
  | 422, _ => some (Response.messageText "Malformed request body" none)
  | 500, _ => some (Response.messageText "Internal server error" none)
  | _, _ => none

/-- The name of a status, and what it means. -/
def meaning : Nat → String × String
  | 400 => ("Bad Request",
    "The request could not be understood by the server due to malformed syntax.")
  | 401 => ("Unauthorized", "The request requires user authentication.")
  | 403 => ("Forbidden", "The server refused to authorize the request.")
  | 404 => ("Not Found", "The requested resource could not be found.")
  | 413 => ("Payload Too Large",
    "The request is larger than the server is willing or able to process.")
  | 422 => ("Unprocessable Entity",
    "The request was well-formed but was unable to be followed due to semantic errors.")
  | 500 => ("Internal Server Error",
    "The server encountered an internal error while processing this request.")
  | 503 => ("Service Unavailable", "The server is currently unavailable.")
  | _ => ("Unknown Error", "An unknown error has occurred.")

/-- A page about a status for any client. -/
def plainBody (status : Nat) (prefersJson : Bool) : Body :=
  let (name, description) := meaning status
  if prefersJson then
    let code := printText "code" ++ ':' :: decimal status
    let texts := [printText "reason" ++ ':' :: printText name,
      printText "description" ++ ':' :: printText description]
    .json ('{' :: printText "error" ++ ':' :: '{' :: commaSeparated (code :: texts) ++ ['}', '}'])
  else
    .text Body.pageType ("<!DOCTYPE html>\n" ++
      "<title>" ++ toString status ++ " " ++ name ++ "</title>\n" ++
      "<h1>" ++ toString status ++ ": " ++ name ++ "</h1>\n<p>" ++ description ++ "</p>\n")

/-- The statuses that have JSON pages below the base path. -/
def ownStatuses : List Nat := [400, 401, 404, 422, 500]

/-- The page about a status, for a request to some path. -/
def respond (s : Setup) (status : Nat) (reason : Option Failure) (segments : List String)
    (prefersJson : Bool) : Response :=
  match ownText? s status reason with
  | some text =>
    if (Endpoint.baseOf s.settings.api).isPrefixOf segments then .json status text
    else .ofBody status (plainBody status prefersJson)
  | none => .ofBody status (plainBody status prefersJson)

/-- The path of the page about a status, to which requests of refused origins are led. -/
def pathOf (status : Nat) : Target := ⟨"/cors/".toList ++ Nat.toDigits 10 status, []⟩

/-- The status of the page that lies at a path. -/
def statusAt? (segments : List String) : Option Nat :=
  match segments with
  | ["cors", code] =>
    match natural? (match code.toList with
      | '+' :: cs => cs
      | cs => cs) with
    | some n => some (if 100 ≤ n && n < 600 then n else 500)
    | none => some 500
  | _ => none

end ErrorPage
end SignOn.Http
