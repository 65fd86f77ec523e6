import SignOn.Json.Read
import SignOn.Json.Print
/-!
What a token says, and the two JSON records in which it says so: the claims (the carried text, when
the token expires, a name of its own) and the header in front of them.

Reading is open to members that other issuers add, but not to every one: claims that name an
audience or that have a malformed subject or start are refused.
-/

namespace SignOn.Token

open SignOn.Json

/-- The claims of a token. -/
structure Claims where
  /-- The text that the token carries. -/
  payload : String
  /-- The second of the epoch from which on the token is void. -/
  expires : Int
  /-- A random name, by which two tokens of equal content differ. -/
  id : String
  deriving DecidableEq, Repr

/-- A member of which only the outline matters. -/
def outline : Shape := .optional (.any 126)

namespace Claims

/-- The written form: the three claims, and those that are only looked at. -/
def shape : Shape := .record
  (.cons "iss" .text .required false
  (.cons "exp" (.whole 0 9223372036854775807) .required false
  (.cons "jti" .text .required false
  (.cons "aud" outline .required true
  (.cons "sub" outline .required true
  (.cons "nbf" outline .required true .nil))))))

/-- The value to be written for claims. -/
def toCarrier (c : Claims) : shape.Carrier := (c.payload, c.expires, c.id, none, none, none, ())

/-- The bytes of claims. -/
def encode (c : Claims) : Bytes := shape.encode c.toCarrier

/-- Whether a value names an audience: a text, or a list of texts. -/
def namesAudience : Value → Bool
  | .text _ => true
  | .list vs => vs.all fun v => v.text?.isSome
  | _ => false

/-- Whether a value is neither an array nor an object. -/
def isScalar : Value → Bool
  | .list _ | .object _ => false
  | _ => true

/-- Whether a value is a scalar, an empty array or an empty object. -/
def isFlat : Value → Bool
  | .list vs => vs.isEmpty
  | .object ms => ms.isEmpty
  | _ => true

/-- The claims that a read value describes, unless it has members that no token here may have. -/
def ofCarrier? : shape.Carrier → Option Claims
  | (payload, expires, id, aud, sub, nbf, ()) =>
    if Option.any namesAudience aud || !Option.all isScalar sub || !Option.all isFlat nbf then none
    else some ⟨payload, expires, id⟩

/-- The claims that bytes describe. They must be an object. -/
def decode? (bs : Bytes) : Option Claims :=
  if (skipSpace bs).head? == some openBrace then (shape.decode bs).toOption.bind ofCarrier?
  else none

end Claims

/-! ## Headers -/

namespace Header

/-- The one algorithm in use. -/
def algorithm : String := "HS256"

/-- The written form. -/
def shape : Shape := .record
  (.cons "typ" (.optional .text) .required true
  (.cons "alg" (.choice [algorithm]) .required false
  (.cons "cty" (.optional .text) .required true
  (.cons "jku" (.optional .text) .required true
  (.cons "jwk" outline .required true
  (.cons "kid" (.optional .text) .required true
  (.cons "x5u" (.optional .text) .required true
  (.cons "x5c" (.optional (.list .text)) .required true
  (.cons "x5t" (.optional .text) .required true
  (.cons "x5t#S256" (.optional .text) .required true .nil))))))))))

/-- The header of every token that is issued here. -/
def issued : shape.Carrier :=
  (some "JWT", (0 : Fin 1), none, none, none, none, none, none, none, none, ())

/-- The bytes of that header. -/
def encoded : Bytes := shape.encode issued

/-- Whether a header fits tokens of ours. A key inside the header does not. -/
def isOurs : shape.Carrier → Bool
  | (_, _, _, _, jwk, _) => Option.isNone jwk

/-- Whether bytes are a header that fits tokens of ours. -/
def accepts (bs : Bytes) : Bool :=
  match shape.decode bs with
  | .ok header => isOurs header
  | .error _ => false

end Header
end SignOn.Token
