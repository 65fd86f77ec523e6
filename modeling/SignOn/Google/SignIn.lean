import SignOn.Keyspace.Requests
import SignOn.Keyspace.States
import SignOn.Session.Lifecycle
/-!
Signing in through Google. A browser claims a state before it is sent to Google, and redeems it when
it comes back. A device brings a Google token itself; if the email is unknown, it is kept under a
request id until a phone completes the sign-up.
-/

namespace SignOn.Google

open SignOn.Keyspace

/-- Claims a state, and tells where to send the browser. -/
def redirectUrl (s : Setup) (state : String) : Flow String := do
  Flow.ensure (Uuid.isWritten state) .invalidState
  let claimed ← States.claim s.stateLifetime state (← Flow.now)
  Flow.ensure claimed .stateAlreadyClaimed
  return s.authorizationUrl state

/-- The profile of the user to whom a code belongs. -/
def profileOf (code : String) : Flow UserProfile := do
  let token ← Flow.exchange code
  Flow.profile token.accessToken

/-- The profile of the user to whom a code belongs. After a failure the claim is put back, so that
the callback can be repeated. -/
def profileOrRestore (s : Setup) (state : String) (claimedAt : Int) (code : String) :
    Flow UserProfile := do
  match ← (profileOf code).attempt with
  | .ok profile => return profile
  | .error failure =>
    let _ ← States.restore s.stateLifetime state claimedAt
    .fail failure

/-- Stores an account for an email that Google has proven. -/
def createUser (email : String) (phone : Option String) : Flow User := do
  let id ← Flow.newUuid
  Flow.store (.createUser ⟨id.text, some email, phone, "", true, .google⟩)

/-- Signs in the account with a proven email, or opens one. -/
def signInWith (s : Setup) (email ip : String) : Flow TokenPair := do
  match ← Flow.store (.userByEmail email) with
  | some user =>
    Flow.ensure (!user.isDeleted) .inactiveUser
    Session.update s user .google ip
  | none =>
    let user ← createUser email none
    Session.create s user .google ip

/-- Whether a claim can be redeemed now. -/
def inWindow (s : Setup) (claimedAt now : Int) : Bool :=
  claimedAt ≤ now && now - claimedAt ≤ s.settings.oauth.awaitSeconds

/-- Redeems a state that was claimed: signs in the user to whom the code belongs. -/
def callback (s : Setup) (state code ip : String) : Flow TokenPair := do
  Flow.ensure (Uuid.isWritten state) .invalidState
  let claimedAt ← Flow.require (← States.claimedAt state) .stateNotFound
  let now ← Flow.now
  Flow.ensure (inWindow s claimedAt now) .stateNotFound
  let taken ← States.take s.stateLifetime state claimedAt
  Flow.ensure taken .stateNotFound
  let profile ← profileOrRestore s state claimedAt code
  States.release state
  signInWith s profile.email ip

/-! ## Devices -/

/-- Keeps a proven email under a new request id. -/
def newRequest (s : Setup) (requestId email : String) : Flow Unit := do
  Flow.ensure (Uuid.isWritten requestId) (.badRequest "request id must be a UUID")
  let isNew ← Requests.put s.requestLifetime requestId email
  Flow.ensure isNew .stateAlreadyClaimed

/-- The email that was proven for a request id. -/
def provenEmail (requestId : String) : Flow String := do
  Flow.require (← Requests.email requestId) .invalidRequestSession

/-- Forgets a request id. -/
def dropRequest (requestId : String) : Flow Unit := Requests.remove requestId

/-- Signs in with a Google token: a known email gets tokens, an unknown one a request id. -/
def fromDevice (s : Setup) (googleToken ip : String) : Flow GmailAnswer := do
  let profile ← Flow.profile googleToken
  match ← Flow.store (.userByEmail profile.email) with
  | some user =>
    Flow.ensure (!user.isDeleted) .inactiveUser
    let pair ← Session.update s user .google ip
    return ⟨false, some pair, none⟩
  | none =>
    let id ← Flow.newUuid
    newRequest s id.text profile.email
    return ⟨true, none, some id.text⟩

end SignOn.Google
