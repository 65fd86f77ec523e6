import SignOn.Account.Request
import SignOn.Http.Bearer
import SignOn.Http.Endpoint
/-!
A request that has been understood: the endpoint with its parameters. A request whose parameters
cannot be read is refused with a status before anything happens.
-/

namespace SignOn.Http

open SignOn.Text

/-- A request that has been understood. -/
inductive Call where
  | signUp (request : SignUpRequest) (ip : String)
  | signIn (request : SignInRequest) (ip : String)
  | refresh (cookie : Option String) (ip : String)
  | logout (cookie : Option String)
  | verify (bearer : Option String)
  | sendCode (request : SendCodeRequest)
  | googleRedirect (state : String)
  | googleCallback (state : String) (code reason : Option String) (ip : String)
  | gmail (request : GmailRequest) (ip : String)
  | gmailComplete (request : CompleteRequest) (ip : String)
  | user (bearer : Option String) (idCode : String)
  | health
  | metrics
  | description
  | guide (file : String)
  deriving DecidableEq, Repr

namespace Call

/-- The cookie that holds the refresh token. -/
def refreshCookie : String := "refresh_token"

/-- The most bytes that a JSON body may have. -/
def largestBody : Nat := 1048576

/-- The status for a body that cannot be read. -/
def statusOf : Json.Fault → Nat
  | .mismatch => 422
  | .early | .malformed => 400

/-- The value that the body spells. -/
def readBody (r : Request) (shape : Json.Shape) : Except Nat shape.Carrier :=
  if largestBody < byteLength r.body.toList then .error 413
  else (shape.decodeText r.body).mapError statusOf

/-- The refresh token among the cookies. An empty one counts as none. -/
def refreshToken? (r : Request) : Option String :=
  (r.cookies.lookup refreshCookie).filter (· != "")

/-- The bearer token among the headers. -/
def bearer? (r : Request) : Option String := (r.header? "Authorization").bind bearerToken?

/-- Understands a request to an endpoint. -/
def ofRequest (e : Endpoint) (values : List String) (r : Request) (t : Target) : Except Nat Call :=
  let ip := r.clientAddress
  let field? := Query.first? t.fields
  match e with
  | .signUp => do return .signUp (.ofCarrier (← readBody r SignUpRequest.shape)) ip
  | .signIn => do return .signIn (.ofCarrier (← readBody r SignInRequest.shape)) ip
  | .refresh => .ok (.refresh (refreshToken? r) ip)
  | .logout => .ok (.logout (refreshToken? r))
  | .verify => .ok (.verify (bearer? r))
  | .sendCode => do return .sendCode (.ofCarrier (← readBody r SendCodeRequest.shape))
  | .googleRedirect => match field? "state" with
    | some state => .ok (.googleRedirect state)
    | none => .error 422
  | .googleCallback => match field? "state" with
    | some state => .ok (.googleCallback state (field? "code") (field? "error_reason") ip)
    | none => .error 422
  | .gmail => do return .gmail (.ofCarrier (← readBody r GmailRequest.shape)) ip
  | .gmailComplete => do return .gmailComplete (.ofCarrier (← readBody r CompleteRequest.shape)) ip
  | .user => .ok (.user (bearer? r) (values.headD ""))
  | .health => .ok .health
  | .metrics => .ok .metrics
  | .description => .ok .description
  | .guide file => .ok (.guide file)

end Call
end SignOn.Http
