import SignOn.Json.Value
import SignOn.Settings
/-!
Settings as a tree: how they are written, and how they are read from what a file or a variable says.
Every setting must be there and of its type; members that are no setting are ignored. A section may
also be a list of its settings in order.
-/

namespace SignOn

open SignOn.Json

/-! ## Single settings -/

namespace Setting

/-- The value of a setting in a section: by name, or by place. -/
def at? (v : Value) (place : Nat) (name : String) : Option Value :=
  match v with
  | .list items => items[place]?
  | v => v.get? name

/-- A setting of some type. -/
def read? {α : Type} (type : Value → Option α) (v : Value) (place : Nat) (name : String) :
    Option α :=
  (at? v place name).bind type

/-- A text. -/
def text? : Value → Nat → String → Option String := read? Value.text?

/-- `true` or `false`. -/
def flag? : Value → Nat → String → Option Bool := read? fun v => match v with
  | .bool b => some b
  | _ => none

/-- An integer between two bounds. -/
def between? (low high : Int) : Value → Nat → String → Option Int := read? fun v => match v with
  | .integer n => if low ≤ n && n ≤ high then some n else none
  | _ => none

/-- An integer of 64 bits. -/
def integer? : Value → Nat → String → Option Int :=
  between? (-9223372036854775808) 9223372036854775807

/-- A natural number of so many bits. -/
def natural? (bits : Nat) (v : Value) (place : Nat) (name : String) : Option Nat :=
  (between? 0 (Nat.pow 2 bits - 1 : Nat) v place name).map Int.toNat

/-- A list of texts. -/
def texts? : Value → Nat → String → Option (List String) := read? fun v => do
  (← v.items?).mapM Value.text?

/-- Texts under names. -/
def namedTexts? : Value → Nat → String → Option (List (String × String)) := read? fun v => do
  (← v.members?).mapM fun (name, value) => value.text?.map (name, ·)

/-- A backend, by name or by number. -/
def backend? : Value → Nat → String → Option CacheBackend := read? fun v => match v with
  | .text "redis" | .integer 0 | .object [("redis", .null)] => some .redis
  | .text "memory" | .integer 1 | .object [("memory", .null)] => some .memory
  | _ => none

/-- A list of texts as a value. -/
def ofTexts (texts : List String) : Value := .list (texts.map .text)

/-- A natural number as a value. -/
def ofNat (n : Nat) : Value := .integer n

end Setting

open Setting

/-! ## Sections -/

namespace DatabaseSettings

/-- The section as a tree. -/
def toValue (s : DatabaseSettings) : Value := .object
  [("url", .text s.url), ("max_connections", ofNat s.maxConnections),
    ("min_connections", ofNat s.minConnections), ("connection_timeout", ofNat s.connectionTimeout),
    ("acquire_timeout", ofNat s.acquireTimeout)]

/-- The section that a tree describes. -/
def ofValue? (v : Value) : Option DatabaseSettings := do
  return {
    url := ← text? v 0 "url"
    maxConnections := ← natural? 32 v 1 "max_connections"
    minConnections := ← natural? 32 v 2 "min_connections"
    connectionTimeout := ← natural? 64 v 3 "connection_timeout"
    acquireTimeout := ← natural? 64 v 4 "acquire_timeout" }

end DatabaseSettings

namespace CacheSettings

/-- The section as a tree. -/
def toValue (s : CacheSettings) : Value := .object
  [("backend", .text s.backend.name), ("url", .text s.url)]

/-- The section that a tree describes. -/
def ofValue? (v : Value) : Option CacheSettings := do
  return { backend := ← backend? v 0 "backend", url := ← text? v 1 "url" }

end CacheSettings

namespace LogSettings

/-- The section as a tree. -/
def toValue (s : LogSettings) : Value := .object
  [("level", .text s.level), ("json_format", .bool s.jsonFormat)]

/-- The section that a tree describes. -/
def ofValue? (v : Value) : Option LogSettings := do
  return { level := ← text? v 0 "level", jsonFormat := ← flag? v 1 "json_format" }

end LogSettings

namespace ApiSettings

/-- The section as a tree. -/
def toValue (s : ApiSettings) : Value := .object
  [("base_path", .text s.basePath), ("enable_swagger", .bool s.enableSwagger)]

/-- The section that a tree describes. -/
def ofValue? (v : Value) : Option ApiSettings := do
  return { basePath := ← text? v 0 "base_path", enableSwagger := ← flag? v 1 "enable_swagger" }

end ApiSettings

namespace CorsSettings

/-- The section as a tree. -/
def toValue (s : CorsSettings) : Value := .object
  [("allowed_origins", ofTexts s.allowedOrigins), ("allow_credentials", .bool s.allowCredentials)]

/-- The section that a tree describes. -/
def ofValue? (v : Value) : Option CorsSettings := do
  return {
    allowedOrigins := ← texts? v 0 "allowed_origins"
    allowCredentials := ← flag? v 1 "allow_credentials" }

end CorsSettings

namespace TokenSettings

/-- The section as a tree. -/
def toValue (s : TokenSettings) : Value := .object
  [("access_secret", .text s.accessSecret), ("refresh_secret", .text s.refreshSecret),
    ("access_ttl_seconds", .integer s.accessTtl), ("refresh_ttl_seconds", .integer s.refreshTtl)]

/-- The section that a tree describes. -/
def ofValue? (v : Value) : Option TokenSettings := do
  return {
    accessSecret := ← text? v 0 "access_secret"
    refreshSecret := ← text? v 1 "refresh_secret"
    accessTtl := ← integer? v 2 "access_ttl_seconds"
    refreshTtl := ← integer? v 3 "refresh_ttl_seconds" }

end TokenSettings

namespace GoogleSettings

/-- The section as a tree. -/
def toValue (s : GoogleSettings) : Value := .object
  [("client_id", .text s.clientId), ("client_secret", .text s.clientSecret),
    ("server_callback_uri", .text s.serverCallbackUri),
    ("client_callback_uri", .text s.clientCallbackUri), ("auth_url", .text s.authUrl),
    ("token_url", .text s.tokenUrl), ("userinfo_url", .text s.userinfoUrl),
    ("scopes", ofTexts s.scopes)]

/-- The section that a tree describes. -/
def ofValue? (v : Value) : Option GoogleSettings := do
  return {
    clientId := ← text? v 0 "client_id"
    clientSecret := ← text? v 1 "client_secret"
    serverCallbackUri := ← text? v 2 "server_callback_uri"
    clientCallbackUri := ← text? v 3 "client_callback_uri"
    authUrl := ← text? v 4 "auth_url"
    tokenUrl := ← text? v 5 "token_url"
    userinfoUrl := ← text? v 6 "userinfo_url"
    scopes := ← texts? v 7 "scopes" }

end GoogleSettings

namespace OauthSettings

/-- The section as a tree. -/
def toValue (s : OauthSettings) : Value := .object
  [("google", s.google.toValue), ("await_seconds", .integer s.awaitSeconds),
    ("request_session_ttl_seconds", ofNat s.requestTtl)]

/-- The section that a tree describes. -/
def ofValue? (v : Value) : Option OauthSettings := do
  return {
    google := ← read? GoogleSettings.ofValue? v 0 "google"
    awaitSeconds := ← integer? v 1 "await_seconds"
    requestTtl := ← natural? 64 v 2 "request_session_ttl_seconds" }

end OauthSettings

namespace VerificationSettings

/-- The section as a tree. -/
def toValue (s : VerificationSettings) : Value := .object
  [("app_name", .text s.appName), ("bundle_ttl_seconds", ofNat s.bundleTtl),
    ("max_codes", ofNat s.maxCodes), ("min_interval_seconds", .integer s.minInterval),
    ("free_phones", .object (s.freePhones.map fun (phone, code) => (phone, .text code)))]

/-- The section that a tree describes. -/
def ofValue? (v : Value) : Option VerificationSettings := do
  return {
    appName := ← text? v 0 "app_name"
    bundleTtl := ← natural? 64 v 1 "bundle_ttl_seconds"
    maxCodes := ← natural? 64 v 2 "max_codes"
    minInterval := ← integer? v 3 "min_interval_seconds"
    freePhones := ← namedTexts? v 4 "free_phones" }

end VerificationSettings

namespace EmailSettings

/-- The section as a tree. -/
def toValue (s : EmailSettings) : Value := .object
  [("smtp_host", .text s.host), ("smtp_port", ofNat s.port), ("smtp_username", .text s.username),
    ("smtp_password", .text s.password), ("from_address", .text s.fromAddress),
    ("from_name", .text s.fromName), ("enabled", .bool s.enabled)]

/-- The section that a tree describes. -/
def ofValue? (v : Value) : Option EmailSettings := do
  return {
    host := ← text? v 0 "smtp_host"
    port := ← natural? 16 v 1 "smtp_port"
    username := ← text? v 2 "smtp_username"
    password := ← text? v 3 "smtp_password"
    fromAddress := ← text? v 4 "from_address"
    fromName := ← text? v 5 "from_name"
    enabled := ← flag? v 6 "enabled" }

end EmailSettings

namespace SmsSettings

/-- The section as a tree. -/
def toValue (s : SmsSettings) : Value := .object
  [("login", .text s.login), ("password", .text s.password), ("host", .text s.host),
    ("reserve_host", .text s.reserveHost), ("timeout_seconds", ofNat s.timeoutSeconds),
    ("enabled", .bool s.enabled)]

/-- The section that a tree describes. -/
def ofValue? (v : Value) : Option SmsSettings := do
  return {
    login := ← text? v 0 "login"
    password := ← text? v 1 "password"
    host := ← text? v 2 "host"
    reserveHost := ← text? v 3 "reserve_host"
    timeoutSeconds := ← natural? 64 v 4 "timeout_seconds"
    enabled := ← flag? v 5 "enabled" }

end SmsSettings

/-! ## All settings -/

namespace Settings

/-- The settings as a tree. -/
def toValue (s : Settings) : Value := .object
  [("database", s.database.toValue), ("cache", s.cache.toValue), ("logging", s.logging.toValue),
    ("api", s.api.toValue), ("cors", s.cors.toValue), ("token", s.token.toValue),
    ("oauth", s.oauth.toValue), ("verification", s.verification.toValue),
    ("email", s.email.toValue), ("sms", s.sms.toValue)]

/-- The settings that a tree describes. -/
def ofValue? (v : Value) : Option Settings := do
  return {
    database := ← read? DatabaseSettings.ofValue? v 0 "database"
    cache := ← read? CacheSettings.ofValue? v 1 "cache"
    logging := ← read? LogSettings.ofValue? v 2 "logging"
    api := ← read? ApiSettings.ofValue? v 3 "api"
    cors := ← read? CorsSettings.ofValue? v 4 "cors"
    token := ← read? TokenSettings.ofValue? v 5 "token"
    oauth := ← read? OauthSettings.ofValue? v 6 "oauth"
    verification := ← read? VerificationSettings.ofValue? v 7 "verification"
    email := ← read? EmailSettings.ofValue? v 8 "email"
    sms := ← read? SmsSettings.ofValue? v 9 "sms" }

end Settings
end SignOn
