import SignOn.Http.Message
import SignOn.Net.Url
import SignOn.Settings
/-!
Requests from pages of other origins. A request that names its origin must come from an allowed
one; a browser asks first, with `OPTIONS`, whether it may send a request with some method and
headers. Requests that name no origin are not concerned.
-/

namespace SignOn.Http.Cors

open SignOn.Text SignOn.Net

/-! ## Policies -/

/-- Why settings make no policy. -/
inductive Unusable where
  | anyOriginWithCredentials
  | badOrigin (fault : UrlFault)
  | opaqueOrigins (origins : List String)
  deriving DecidableEq, Repr

/-- What operators are told. -/
def Unusable.message : Unusable → String
  | .anyOriginWithCredentials =>
    "Invalid CORS configuration: Cannot use wildcard origins (*) with credentials enabled. " ++
    "Either set specific origins or disable credentials."
  | .badOrigin fault => "Failed to create CORS fairing: BadOrigin(" ++ fault.name ++ ")"
  | .opaqueOrigins origins =>
    "Failed to create CORS fairing: OpaqueAllowedOrigin([" ++
    ", ".intercalate (origins.map fun o => "\"" ++ o ++ "\"") ++ "])"

/-- The origins that settings allow, as they are written. -/
inductive Allowed where
  | all
  | only (origins : List String)
  deriving DecidableEq, Repr

/-- What settings allow. A lone star allows every origin, but not together with credentials. -/
def allowed (s : CorsSettings) : Except Unusable Allowed :=
  if s.allowedOrigins == ["*"] then
    if s.allowCredentials then .error .anyOriginWithCredentials else .ok .all
  else .ok (.only s.allowedOrigins)

/-- Which requests are let through. -/
structure Policy where
  /-- The allowed origins; nothing stands for all of them. -/
  origins : Option (List Origin)
  credentials : Bool
  deriving DecidableEq, Repr

/-- The origin that a setting names, or its text if it is opaque. -/
def originOf (text : String) : Except Unusable (Origin ⊕ String) :=
  match Url.parse? text with
  | .error fault => .error (.badOrigin fault)
  | .ok url => .ok (match url.origin? with
    | some origin => .inl origin
    | none => .inr text)

/-- The policy for what settings allow. -/
def Allowed.policy (a : Allowed) (credentials : Bool) : Except Unusable Policy :=
  match a with
  | .all => .ok ⟨none, credentials⟩
  | .only texts => do
    let origins ← texts.mapM originOf
    match origins.filterMap Sum.getRight? with
    | [] => return ⟨some (origins.filterMap Sum.getLeft?), credentials⟩
    | opaqueOnes => throw (.opaqueOrigins opaqueOnes)

/-- The policy that settings describe. -/
def Policy.ofSettings (s : CorsSettings) : Except Unusable Policy := do
  (← allowed s).policy s.allowCredentials

/-! ## Callers -/

/-- The page that sends a request. -/
inductive Caller where
  /-- A page that hides where it comes from. -/
  | hidden
  | known (origin : Origin)
  /-- A page of an origin that can be compared to none. -/
  | odd (text : String)
  deriving DecidableEq, Repr

namespace Caller

/-- The caller that an `Origin` header names. -/
def ofHeader? (value : String) : Option Caller :=
  if sameAscii value.toList "null".toList then some .hidden
  else match Url.parse? value with
    | .ok url => some (match url.origin? with
      | some origin => .known origin
      | none => .odd value)
    | .error _ => none

/-- How a response names a caller. -/
def text : Caller → String
  | .hidden => "null"
  | .known origin => origin.text
  | .odd text => text

end Caller

/-- Whether a policy lets a caller through. -/
def Policy.allows (p : Policy) (caller : Caller) : Bool :=
  match p.origins, caller with
  | none, _ => true
  | some origins, .known origin => origins.contains origin
  | some _, _ => false

/-! ## Judging requests -/

/-- The methods that pages may use. -/
def methods : List Method := [.get, .head, .options, .post]

/-- The headers that pages may set. -/
def settable : List String := ["Content-Type", "Authorization", "Accept"]

/-- Names between commas, each only once in whatever case. -/
def names (value : String) : List String :=
  let all := (pieces (· == ',') value.toList).map fun name => String.ofList (trim name)
  all.foldl (fun kept name =>
    if kept.any (fun k => sameAscii k.toList name.toList) then kept else kept ++ [name]) []

/-- What becomes of a request. -/
inductive Verdict where
  /-- The request names no origin. -/
  | unconcerned
  /-- The named origin is none. -/
  | unreadable
  | refused (status : Nat)
  | passed (caller : Caller)
  /-- The question of a browser, with the headers it wants to set, is answered. -/
  | answered (caller : Caller) (headers : Option (List String))
  deriving DecidableEq, Repr

/-- Judges the question of a browser. -/
def judgeQuestion (p : Policy) (r : Request) (caller : Caller) : Verdict :=
  let method := r.header? "Access-Control-Request-Method"
  let headers := (r.header? "Access-Control-Request-Headers").map names
  let settableOnly := headers.all fun hs =>
    hs.all fun h => settable.any fun s => sameAscii h.toList s.toList
  match method, method.bind Method.ofName? with
  | some _, none => .refused 400
  | none, _ => .refused (if p.allows caller then 400 else 403)
  | some _, some m =>
    if p.allows caller && methods.contains m && settableOnly then .answered caller headers
    else .refused 403

/-- Judges a request. -/
def judge (p : Policy) (r : Request) : Verdict :=
  match r.header? "Origin" with
  | none => .unconcerned
  | some value => match Caller.ofHeader? value with
    | none => .unreadable
    | some caller =>
      if r.method == .options then judgeQuestion p r caller
      else if p.allows caller then .passed caller
      else .refused 403

/-! ## Responses -/

/-- Items after commas. -/
def listed (items : List String) : String := ", ".intercalate (items.mergeSort (· ≤ ·))

/-- A response that its caller may read. -/
def expose (p : Policy) (caller : Caller) (r : Response) : Response :=
  let r := r.withHeader "access-control-allow-origin" caller.text
  let r := if p.origins.isNone then r.withHeader "vary" "Origin" else r
  if p.credentials then r.withHeader "access-control-allow-credentials" "true" else r

/-- A response after the verdict on its request. The answer to a browser's question has no body,
and an origin that is none ends in an error. -/
def finish (p : Policy) (verdict : Verdict) (r : Response) : Response :=
  match verdict with
  | .unconcerned | .refused _ => r
  | .unreadable => { r with status := 500 }
  | .passed caller => expose p caller r
  | .answered caller headers =>
    let r := (expose p caller r).withHeader "access-control-allow-methods"
      (listed (methods.map Method.name))
    let r := match headers with
      | some hs => r.withHeader "access-control-allow-headers" (listed hs)
      | none => r
    { r with status := 204, body := .none }

end SignOn.Http.Cors
