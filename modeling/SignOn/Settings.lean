import SignOn.Http.Path
/-!
The settings of the service, section by section, with the values that hold when nothing is
configured.
-/

namespace SignOn

/-- The account store. -/
structure DatabaseSettings where
  url : String := "postgres://localhost/auth_db"
  maxConnections : Nat := 16
  minConnections : Nat := 4
  /-- Seconds. -/
  connectionTimeout : Nat := 5
  /-- Seconds. -/
  acquireTimeout : Nat := 5
  deriving DecidableEq, Repr

/-- Where cached values are kept. -/
inductive CacheBackend where
  | redis
  | memory
  deriving DecidableEq, Repr

/-- The written name of a backend. -/
def CacheBackend.name : CacheBackend → String
  | .redis => "redis"
  | .memory => "memory"

/-- The cache. -/
structure CacheSettings where
  backend : CacheBackend := .redis
  url : String := "redis://127.0.0.1:6379/0"
  deriving DecidableEq, Repr

/-- The log. -/
structure LogSettings where
  level : String := "info"
  jsonFormat : Bool := false
  deriving DecidableEq, Repr

/-- The interface. -/
structure ApiSettings where
  basePath : String := Http.defaultBasePath
  /-- Whether the interface describes itself. -/
  enableSwagger : Bool := true
  deriving DecidableEq, Repr

/-- Requests from pages of other origins. -/
structure CorsSettings where
  allowedOrigins : List String := ["http://localhost:3000"]
  allowCredentials : Bool := true
  deriving DecidableEq, Repr

/-- Secrets and lifetimes of tokens. -/
structure TokenSettings where
  accessSecret : String := ""
  refreshSecret : String := ""
  /-- Seconds. -/
  accessTtl : Int := 1800
  /-- Seconds. -/
  refreshTtl : Int := 2592000
  deriving DecidableEq, Repr

/-- The registration with Google. -/
structure GoogleSettings where
  clientId : String := ""
  clientSecret : String := ""
  serverCallbackUri : String := "http://localhost:8000/api/oauth/google/callback"
  clientCallbackUri : String := "http://localhost:3000/auth/callback"
  authUrl : String := "https://accounts.google.com/o/oauth2/auth"
  tokenUrl : String := "https://oauth2.googleapis.com/token"
  userinfoUrl : String := "https://www.googleapis.com/oauth2/v3/userinfo"
  scopes : List String :=
    ["https://www.googleapis.com/auth/userinfo.profile",
      "https://www.googleapis.com/auth/userinfo.email"]
  deriving DecidableEq, Repr

/-- Signing in through Google. -/
structure OauthSettings where
  google : GoogleSettings := {}
  /-- How long, in seconds, a claimed state can be redeemed. -/
  awaitSeconds : Int := 300
  /-- How long, in seconds, a sign-up may wait for its phone. -/
  requestTtl : Nat := 900
  deriving DecidableEq, Repr

/-- One-time codes. -/
structure VerificationSettings where
  /-- The name of the product in messages. -/
  appName : String := "Auth"
  /-- Seconds. -/
  bundleTtl : Nat := 300
  /-- How many codes a bundle may hold. -/
  maxCodes : Nat := 2
  /-- Seconds between two codes. -/
  minInterval : Int := 60
  /-- Phones that have a fixed code, and are never sent one. -/
  freePhones : List (String × String) := []
  deriving DecidableEq, Repr

/-- The mail server. -/
structure EmailSettings where
  host : String := "localhost"
  port : Nat := 587
  username : String := ""
  password : String := ""
  fromAddress : String := "noreply@localhost"
  fromName : String := "Auth"
  enabled : Bool := false
  deriving DecidableEq, Repr

/-- The text-message gateway. -/
structure SmsSettings where
  login : String := ""
  password : String := ""
  host : String := "smsc.kz"
  reserveHost : String := "www2.smsc.kz"
  timeoutSeconds : Nat := 10
  enabled : Bool := false
  deriving DecidableEq, Repr

/-- All settings. -/
structure Settings where
  database : DatabaseSettings := {}
  cache : CacheSettings := {}
  logging : LogSettings := {}
  api : ApiSettings := {}
  cors : CorsSettings := {}
  token : TokenSettings := {}
  oauth : OauthSettings := {}
  verification : VerificationSettings := {}
  email : EmailSettings := {}
  sms : SmsSettings := {}
  deriving DecidableEq, Repr

/-- The fixed code of a phone, if it has one. -/
def VerificationSettings.fixedCode? (s : VerificationSettings) (phone : String) : Option String :=
  s.freePhones.lookup phone

/-- The secrets without which the service must not sign anything. -/
def Settings.missingSecrets (s : Settings) : List String :=
  (if Text.trimmed s.token.accessSecret = "" then ["token.access_secret"] else []) ++
  (if Text.trimmed s.token.refreshSecret = "" then ["token.refresh_secret"] else [])

end SignOn
