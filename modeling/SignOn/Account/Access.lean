import SignOn.Account.Request
import SignOn.Google.SignIn
import SignOn.Verification.Throttle
/-!
The calls of the account service: signing up, signing in, sending codes, and completing a sign-up
that began with Google.
-/

namespace SignOn.Account

open SignOn.Verification

/-- A field that the chosen provider needs. An empty value counts as none. -/
def required (value : Option String) (field : String) : Flow String :=
  Flow.require (value.filter (· != "")) (.badRequest (field ++ " is required"))

/-- The answer to a sign-in. -/
def respond (user : User) (tokens : TokenPair) : SignedIn := ⟨PublicUser.ofUser user, tokens⟩

/-- Refuses an email that an account holds. -/
def ensureFreeEmail (email : String) : Flow Unit := do
  let holder ← Flow.store (.userByEmail email)
  Flow.ensure holder.isNone .userAlreadyExists

/-- Refuses a phone that an account holds. -/
def ensureFreePhone (phone : String) : Flow Unit := do
  let holder ← Flow.store (.userByPhone phone)
  Flow.ensure holder.isNone .userAlreadyExists

/-- Refuses a request that breaks its rules. -/
def ensureValid (violations : List Violation) : Flow Unit :=
  Flow.ofExcept (Violation.refuse violations)

/-- Opens an account with a password, and signs it in. -/
def signUp (s : Setup) (request : SignUpRequest) (ip : String) : Flow SignedIn := do
  ensureValid (request.violations s.emails)
  let phone := Phone.normalize request.phone
  ensureFreeEmail request.email
  ensureFreePhone phone
  let id ← Flow.newUuid
  let passwordHash ← Flow.ofExcept (s.suite.hashPassword (← Flow.newSalt) request.password)
  let user ← Flow.store
    (.createUser ⟨id.text, some request.email, some phone, passwordHash, false, .email⟩)
  let tokens ← Session.create s user .email ip
  return respond user tokens

/-- The account with an email, if the password is its own. -/
def byPassword (s : Setup) (email password : String) : Flow User := do
  let user ← Flow.require (← Flow.store (.userByEmail email)) .userNotFound
  Flow.ensure user.hasPassword .mustUseGoogle
  Flow.ofExcept (s.suite.verifyPassword user.passwordHash password)
  return user

/-- The account with a phone, if the code was issued to it. The codes of the phone are void then. -/
def byCode (phone code : String) : Flow User := do
  check (.phone phone) code
  let user ← Flow.require (← Flow.store (.userByPhone phone)) .userNotFound
  clear (.phone phone)
  return user

/-- Signs in. -/
def signIn (s : Setup) (request : SignInRequest) (ip : String) : Flow SignedIn := do
  ensureValid (request.violations s.emails)
  let user ← match request.provider with
    | .email => do
      let email ← required request.email "email"
      let password ← required request.password "password"
      byPassword s email password
    | .phone => do
      let phone ← required request.phone "phone_number"
      let code ← required request.code "code"
      byCode (Phone.normalize phone) code
    | .google => .fail .mustUseGoogle
  Flow.ensure (!user.isDeleted) .inactiveUser
  let tokens ← Session.update s user request.provider ip
  return respond user tokens

/-- Exchanges a refresh token. -/
def refresh (s : Setup) (token ip : String) : Flow TokenPair := do
  let (_, pair) ← Session.refresh s token ip
  return pair

/-- Signs out. -/
def logout (token : String) : Flow Unit := Session.logout token

/-- Refuses an account that is missing or out of service. -/
def ensureInService (user : Option User) : Flow Unit := do
  let user ← Flow.require user .userNotFound
  Flow.ensure (!user.isDeleted) .inactiveUser

/-- Who gets the code that a request asks for. An email or a phone must belong to an account; with a
request id, the phone must be free. -/
def codeSubject (request : SendCodeRequest) : Flow Subject :=
  match request.provider with
  | .email => do
    let email ← required request.email "email"
    ensureInService (← Flow.store (.userByEmail email))
    return .email email
  | .phone => do
    let phone := Phone.normalize (← required request.phone "phone_number")
    match request.requestId with
    | some requestId =>
      let _ ← Google.provenEmail requestId
      ensureFreePhone phone
    | none => ensureInService (← Flow.store (.userByPhone phone))
    return .phone phone
  | .google => .fail .invalidProvider

/-- Sends a one-time code. -/
def sendCode (s : Setup) (request : SendCodeRequest) : Flow Unit := do
  ensureValid (request.violations s.emails)
  issue s (← codeSubject request)

/-- Completes a sign-up that began with Google: the request id proves the email, the code the
phone. -/
def complete (s : Setup) (request : CompleteRequest) (ip : String) : Flow SignedIn := do
  ensureValid request.violations
  let email ← Google.provenEmail request.requestId
  let phone := Phone.normalize request.phone
  check (.phone phone) request.code
  ensureFreeEmail email
  ensureFreePhone phone
  let user ← Google.createUser email (some phone)
  Google.dropRequest request.requestId
  clear (.phone phone)
  let tokens ← Session.create s user .google ip
  return respond user tokens

/-- The public view of an account. -/
def byIdCode (idCode : String) : Flow PublicUser := do
  let user ← Flow.require (← Flow.store (.userByIdCode idCode)) .userNotFound
  return PublicUser.ofUser user

end SignOn.Account
