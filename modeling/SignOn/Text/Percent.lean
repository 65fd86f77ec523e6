import SignOn.Text.Blank
import SignOn.Text.Utf8
/-!
Percent encoding: a byte that may not stand for itself is written as `%` and two hexadecimal digits.
`decode` gives back the bytes of whatever `encode` has written, as long as `%` itself is escaped.
-/

namespace SignOn.Text.Percent

/-- A letter or digit of ASCII. -/
def isAlphanumeric (c : Char) : Bool :=
  ('a' ≤ c && c ≤ 'z') || ('A' ≤ c && c ≤ 'Z') || ('0' ≤ c && c ≤ '9')

/-- The characters that mean nothing special anywhere in a URL. -/
def isUnreserved (c : Char) : Bool :=
  isAlphanumeric c || c == '-' || c == '_' || c == '.' || c == '~'

/-- A byte as `%` and two digits. -/
def escape (b : UInt8) : List Char :=
  ['%', hexDigitUpper (b.toNat / 16), hexDigitUpper (b.toNat % 16)]

/-- A byte, as itself if it is an ASCII character to be kept. -/
def encodeByte (keep : Char → Bool) (b : UInt8) : List Char :=
  if b < 0x80 && keep (Char.ofNat b.toNat) then [Char.ofNat b.toNat] else escape b

/-- Escapes every byte of a text that is no character to be kept. -/
def encode (keep : Char → Bool) (s : String) : List Char := (utf8 s).flatMap (encodeByte keep)

/-- A text as a value inside a URL. -/
def encodeValue (s : String) : List Char := encode isUnreserved s

/-- The bytes of a text with escapes. A `%` without two digits stands for itself. -/
def decode : List Char → Bytes
  | [] => []
  | [c] => utf8 (String.ofList [c])
  | [c, d] => utf8 (String.ofList [c, d])
  | c :: d :: e :: rest =>
    match c == '%', hexValue? d, hexValue? e with
    | true, some h, some l => UInt8.ofNat (16 * h + l) :: decode rest
    | _, _, _ => utf8 (String.ofList [c]) ++ decode (d :: e :: rest)

/-- The text behind a text with escapes. -/
def decodeText (cs : List Char) : String := ofUtf8Lossy (decode cs)

end SignOn.Text.Percent
