import SignOn.Text.Blank
import SignOn.Text.Utf8
/-!
UUIDs. A text names one in four ways: 32 hexadecimal digits, the hyphenated form, the hyphenated
form in braces, and the hyphenated form after `urn:uuid:`. Generated ones are random (version 4) and
written hyphenated in lower case.
-/

namespace SignOn

open SignOn.Text

/-- 128 bits that name something. -/
structure Uuid where
  /-- The sixteen bytes, first byte first. -/
  bytes : Fin 16 → UInt8

namespace Uuid

/-- The hyphenated form: hyphens after the 8th, 12th, 16th and 20th digit, digits elsewhere. -/
def isHyphenated (cs : List Char) : Bool :=
  match pieces (· == '-') cs with
  | [a, b, c, d, e] =>
    [a, b, c, d, e].all (·.all isHexDigit) && a.length == 8 && b.length == 4 && c.length == 4 &&
      d.length == 4 && e.length == 12
  | _ => false

/-- 32 digits without hyphens. -/
def isSimple (cs : List Char) : Bool := cs.length == 32 && cs.all isHexDigit

/-- The hyphenated form between braces. -/
def isBraced : List Char → Bool
  | '{' :: cs => match cs.reverse with
    | '}' :: inner => isHyphenated inner.reverse
    | _ => false
  | _ => false

/-- The hyphenated form after `urn:uuid:`. -/
def isUrn (cs : List Char) : Bool :=
  let scheme := "urn:uuid:".toList
  scheme.isPrefixOf cs && isHyphenated (cs.drop scheme.length)

/-- Whether the text names a UUID. -/
def isWritten (s : String) : Bool :=
  let cs := s.toList
  isSimple cs || isHyphenated cs || isBraced cs || isUrn cs

/-- Two lower-case digits for the byte. -/
def byteDigits (b : UInt8) : List Char := [hexDigit (b.toNat / 16), hexDigit (b.toNat % 16)]

/-- The bytes from `start` on, `count` of them, as digits. -/
def digits (u : Uuid) (start count : Nat) : List Char :=
  (List.range' start count).flatMap fun i => byteDigits (u.bytes (Fin.ofNat 16 i))

/-- The hyphenated form in lower case. -/
def text (u : Uuid) : String :=
  String.ofList (u.digits 0 4 ++ '-' :: u.digits 4 2 ++ '-' :: u.digits 6 2 ++
    '-' :: u.digits 8 2 ++
    '-' :: u.digits 10 6)

/-- The random UUID with these bits: version 4 and the variant are set, the rest is kept. -/
def ofRandom (bits : Fin 16 → UInt8) : Uuid where
  bytes i :=
    if i = 6 then (bits i &&& 0x0F) ||| 0x40
    else if i = 8 then (bits i &&& 0x3F) ||| 0x80
    else bits i

end Uuid
end SignOn
