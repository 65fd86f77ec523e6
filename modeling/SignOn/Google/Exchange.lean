import SignOn.Failure
import SignOn.Google.Profile
import SignOn.Http.Outgoing
import SignOn.Settings
/-!
How Google is addressed: the page to which a browser is sent, the request that trades a code for a
token, and the one that fetches the profile behind a token.
-/

namespace SignOn.Google

open SignOn.Http

/-- The fields of the query with which a browser is sent to Google. -/
def authorizationFields (g : GoogleSettings) (state : String) : List Field := [
  ("client_id", g.clientId), ("redirect_uri", g.serverCallbackUri), ("response_type", "code"),
  ("scope", " ".intercalate g.scopes), ("state", state)]

/-- The page to which a browser is sent. -/
def authorizationUrl (g : GoogleSettings) (state : String) : String :=
  String.ofList (g.authUrl.toList ++ '?' :: Query.write (authorizationFields g state))

/-- Trades a code. -/
def exchangeRequest (g : GoogleSettings) (code : String) : Outgoing where
  method := .post
  url := g.tokenUrl
  form := some [("code", code), ("client_id", g.clientId), ("client_secret", g.clientSecret),
    ("redirect_uri", g.serverCallbackUri), ("grant_type", "authorization_code")]

/-- Fetches a profile. -/
def profileRequest (g : GoogleSettings) (accessToken : String) : Outgoing where
  method := .get
  url := g.userinfoUrl
  bearer := some accessToken

/-- Sends a request, and reads what a successful reply holds. -/
def ask (servers : Servers) (step : String) (r : Outgoing) (shape : Json.Shape) :
    Except Failure shape.Carrier :=
  let failed {α : Type} (reason : String) : Except Failure α :=
    .error (.provider (step ++ ": " ++ reason))
  match servers.ask r with
  | .error silence => failed silence.message
  | .ok reply =>
    if Status.isSuccess reply.status then
      match reply.read shape with
      | .ok value => .ok value
      | .error silence => failed silence.message
    else failed ("status " ++ Status.text reply.status)

/-- The token for a code. -/
def exchange (servers : Servers) (g : GoogleSettings) (code : String) :
    Except Failure ProviderToken := do
  return ProviderToken.ofCarrier
    (← ask servers "google.exchange" (exchangeRequest g code) ProviderToken.shape)

/-- The profile behind a token. One without an email is of no use. -/
def profile (servers : Servers) (g : GoogleSettings) (accessToken : String) :
    Except Failure UserProfile := do
  let profile := UserProfile.ofCarrier
    (← ask servers "google.userinfo" (profileRequest g accessToken) UserProfile.shape)
  if profile.email.isEmpty then throw (.provider "google.userinfo: profile has no email")
  return profile

end SignOn.Google
