import SignOn.Account.Session
/-!
What the identity provider sends: the token of a code exchange, and the profile of a user. And what
a device is answered that signs in with a Google token: tokens for a known email, else a request id
with which the sign-up goes on.
-/

namespace SignOn

open SignOn.Json

/-- The token that the provider gives for a code. -/
structure ProviderToken where
  accessToken : String
  tokenType : Option String
  expiresIn : Option Int
  deriving DecidableEq, Repr

namespace ProviderToken

/-- The written form. -/
def shape : Shape := .record
  (.cons "access_token" .text .required false
  (.cons "token_type" (.optional .text) .empty false
  (.cons "expires_in" (.optional .int64) .empty false .nil)))

/-- The token that a read value describes. -/
def ofCarrier : shape.Carrier → ProviderToken
  | (accessToken, tokenType, expiresIn, ()) => ⟨accessToken, tokenType, expiresIn⟩

/-- The value to be written for a token. -/
def toCarrier (t : ProviderToken) : shape.Carrier := (t.accessToken, t.tokenType, t.expiresIn, ())

end ProviderToken

/-- The profile that the provider holds of a user. -/
structure UserProfile where
  sub : String := ""
  name : String := ""
  givenName : String := ""
  familyName : String := ""
  picture : String := ""
  email : String
  /-- Whether the provider vouches for the email. -/
  emailVerified : Bool := false
  locale : String := ""
  deriving DecidableEq, Repr

namespace UserProfile

/-- The written form. -/
def shape : Shape := .record
  (.cons "sub" .text .empty false
  (.cons "name" .text .empty false
  (.cons "given_name" .text .empty false
  (.cons "family_name" .text .empty false
  (.cons "picture" .text .empty false
  (.cons "email" .text .required false
  (.cons "email_verified" .flag .empty false
  (.cons "locale" .text .empty false .nil))))))))

/-- The profile that a read value describes. -/
def ofCarrier : shape.Carrier → UserProfile
  | (sub, name, givenName, familyName, picture, email, emailVerified, locale, ()) =>
    ⟨sub, name, givenName, familyName, picture, email, emailVerified, locale⟩

/-- The value to be written for a profile. -/
def toCarrier (p : UserProfile) : shape.Carrier :=
  (p.sub, p.name, p.givenName, p.familyName, p.picture, p.email, p.emailVerified, p.locale, ())

end UserProfile

/-- The answer to a sign-in from a device. -/
structure GmailAnswer where
  newUser : Bool
  tokens : Option TokenPair
  requestId : Option String
  deriving DecidableEq, Repr

namespace GmailAnswer

/-- The written form. -/
def shape : Shape := .record
  (.cons "new_user" .flag .required false
  (.cons "data" (.record
    (.cons "tokens" (.optional TokenPair.shape) .required true
    (.cons "request_id" (.optional .text) .required true .nil))) .required false .nil))

/-- The answer that a read value describes. -/
def ofCarrier : shape.Carrier → GmailAnswer
  | (newUser, (tokens, requestId, ()), ()) =>
    ⟨newUser, Option.map TokenPair.ofCarrier tokens, requestId⟩

/-- The value to be written for an answer. -/
def toCarrier (a : GmailAnswer) : shape.Carrier :=
  (a.newUser, (a.tokens.map TokenPair.toCarrier, a.requestId, ()), ())

/-- The JSON object of an answer. -/
def print (a : GmailAnswer) : List Char := shape.print a.toCarrier

end GmailAnswer
end SignOn
