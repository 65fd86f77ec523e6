import SignOn.Text.Utf8
/-!
Base 64 without padding: four characters for three bytes, two or three for what is left. Decoding is
strict: the bits that no byte needs must be zero.
-/

namespace SignOn.Crypto.Base64

/-- The two characters that stand for 62 and 63, in which alphabets differ. -/
structure Alphabet where
  sign62 : Char
  sign63 : Char

/-- The alphabet for texts that travel in addresses. -/
def urlSafe : Alphabet := ⟨'-', '_'⟩

/-- The common alphabet. -/
def standard : Alphabet := ⟨'+', '/'⟩

/-- The character of a value below 64. -/
def digit (al : Alphabet) (n : Nat) : Char :=
  if n < 26 then Char.ofNat (65 + n)
  else if n < 52 then Char.ofNat (71 + n)
  else if n < 62 then Char.ofNat (n - 4)
  else if n = 62 then al.sign62 else al.sign63

/-- The value of a character. -/
def value? (al : Alphabet) (c : Char) : Option Nat :=
  if 'A' ≤ c && c ≤ 'Z' then some (c.toNat - 65)
  else if 'a' ≤ c && c ≤ 'z' then some (c.toNat - 71)
  else if '0' ≤ c && c ≤ '9' then some (c.toNat + 4)
  else if c == al.sign62 then some 62
  else if c == al.sign63 then some 63
  else none

/-- Bytes as characters. -/
def encode (al : Alphabet) : Bytes → List Char
  | [] => []
  | [a] => [digit al (a.toNat / 4), digit al (a.toNat % 4 * 16)]
  | [a, b] =>
    [digit al (a.toNat / 4), digit al (a.toNat % 4 * 16 + b.toNat / 16),
      digit al (b.toNat % 16 * 4)]
  | a :: b :: c :: rest =>
    digit al (a.toNat / 4) :: digit al (a.toNat % 4 * 16 + b.toNat / 16) ::
      digit al (b.toNat % 16 * 4 + c.toNat / 64) :: digit al (c.toNat % 64) :: encode al rest

/-- The bytes that values below 64 stand for. -/
def ofValues : List Nat → Option Bytes
  | [] => some []
  | [_] => none
  | [w, x] => if x % 16 = 0 then some [UInt8.ofNat (w * 4 + x / 16)] else none
  | [w, x, y] =>
    if y % 4 = 0 then some [UInt8.ofNat (w * 4 + x / 16), UInt8.ofNat (x % 16 * 16 + y / 4)]
    else none
  | w :: x :: y :: z :: rest =>
    (ofValues rest).map fun bs =>
      UInt8.ofNat (w * 4 + x / 16) :: UInt8.ofNat (x % 16 * 16 + y / 4) ::
        UInt8.ofNat (y % 4 * 64 + z) :: bs

/-- The bytes that characters stand for. -/
def decode (al : Alphabet) (cs : List Char) : Option Bytes := (cs.mapM (value? al)).bind ofValues

end SignOn.Crypto.Base64
