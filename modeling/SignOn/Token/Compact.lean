import SignOn.Crypto.Base64
import SignOn.Text.Blank
import SignOn.Token.Claims
/-!
Tokens as text: header, claims and signature, each in base 64, with points in between. The signature
is over the first two parts as they are written.
-/

namespace SignOn.Token

open SignOn.Text SignOn.Crypto

/-- Bytes as a part of a token. -/
def part (bs : Bytes) : List Char := Base64.encode Base64.urlSafe bs

/-- The bytes of a part. -/
def ofPart? (cs : List Char) : Option Bytes := Base64.decode Base64.urlSafe cs

/-- The text that is signed. -/
def message (claims : Claims) : List Char := part Header.encoded ++ '.' :: part claims.encode

/-- The signature of a text, as a part. -/
def signature (sign : Bytes → Bytes → Bytes) (key : Bytes) (message : List Char) : List Char :=
  part (sign key (utf8 (String.ofList message)))

/-- The token for claims. -/
def write (sign : Bytes → Bytes → Bytes) (key : Bytes) (claims : Claims) : String :=
  String.ofList (message claims ++ '.' :: signature sign key (message claims))

/-- A token taken apart. -/
structure Parts where
  header : List Char
  claims : List Char
  signature : List Char

/-- The parts of a text: the last point comes before the signature, the one before it before the
claims. -/
def Parts.ofText? (text : String) : Option Parts := do
  let (front, signature) ← splitAtLast? (· == '.') text.toList
  let (header, claims) ← splitAtLast? (· == '.') front
  return ⟨header, claims, signature⟩

/-- The signed part of a token. -/
def Parts.message (p : Parts) : List Char := p.header ++ '.' :: p.claims

/-- The claims of a token that was signed with the key. -/
def read? (sign : Bytes → Bytes → Bytes) (key : Bytes) (text : String) : Option Claims := do
  let parts ← Parts.ofText? text
  let header ← ofPart? parts.header
  if Header.accepts header && parts.signature == Token.signature sign key parts.message then
    Claims.decode? (← ofPart? parts.claims)
  else none

end SignOn.Token
