/-!
Texts as bytes. Everything that leaves or enters the service as bytes (cache values, token parts,
request bodies) is a list of bytes; a text is written as UTF-8 and read back only if the bytes are
UTF-8.
-/

namespace SignOn

/-- A sequence of bytes. -/
abbrev Bytes := List UInt8

namespace Text

/-- The UTF-8 form of a text. -/
def utf8 (s : String) : Bytes := s.toUTF8.data.toList

/-- The text that the bytes spell, if they are UTF-8. -/
def ofUtf8? (bs : Bytes) : Option String := String.fromUTF8? ⟨bs.toArray⟩

theorem ofUtf8?_utf8 (s : String) : ofUtf8? (utf8 s) = some s := by
  simp only [ofUtf8?, utf8, Array.toArray_toList, String.fromUTF8?, String.toUTF8_eq_toByteArray,
    dif_pos s.isValidUTF8]
  rfl

/-! ## Reading what is not quite UTF-8 -/

/-- A byte that continues a character. -/
def isContinuation (b : UInt8) : Bool := 0x80 ≤ b && b ≤ 0xBF

/-- How many bytes follow the first one of a character, and which the next one may be. -/
def followers (b : UInt8) : Nat × UInt8 × UInt8 :=
  if 0xC2 ≤ b && b ≤ 0xDF then (1, 0x80, 0xBF)
  else if b == 0xE0 then (2, 0xA0, 0xBF)
  else if b == 0xED then (2, 0x80, 0x9F)
  else if 0xE1 ≤ b && b ≤ 0xEF then (2, 0x80, 0xBF)
  else if b == 0xF0 then (3, 0x90, 0xBF)
  else if b == 0xF4 then (3, 0x80, 0x8F)
  else if 0xF1 ≤ b && b ≤ 0xF3 then (3, 0x80, 0xBF)
  else (0, 0, 0)

/-- How many of the bytes after `b` belong to the same, perhaps unfinished, character. -/
def run (b : UInt8) (rest : Bytes) : Nat :=
  match followers b, rest with
  | (count, low, high), next :: more =>
    if count == 0 || next < low || high < next then 0
    else 1 + (min (count - 1) (more.takeWhile isContinuation).length)
  | _, [] => 0

/-- The character that stands for bytes which spell none. -/
def replacement : Char := '\uFFFD'

/-- The text that bytes spell, where every stretch that spells nothing is one replacement. -/
def mend : Bytes → List Char
  | [] => []
  | b :: rest =>
    let n := run b rest
    let spelled := (ofUtf8? (b :: rest.take n)).bind (·.toList.head?)
    spelled.getD replacement :: mend (rest.drop n)
termination_by bs => bs.length
decreasing_by simp only [List.length_drop, List.length_cons]; omega

/-- The text that bytes spell, as far as they do. -/
def ofUtf8Lossy (bs : Bytes) : String := (ofUtf8? bs).getD (String.ofList (mend bs))

theorem ofUtf8Lossy_utf8 (s : String) : ofUtf8Lossy (utf8 s) = s := by
  simp [ofUtf8Lossy, ofUtf8?_utf8]

/-! ## Digits -/

/-- The number of bytes in the UTF-8 form. -/
def byteLength (cs : List Char) : Nat := cs.foldr (fun c n => c.utf8Size + n) 0

/-- The lower-case hexadecimal digit of a value below sixteen. -/
def hexDigit (n : Nat) : Char := if n < 10 then Char.ofNat (48 + n) else Char.ofNat (87 + n)

/-- The upper-case hexadecimal digit of a value below sixteen. -/
def hexDigitUpper (n : Nat) : Char := if n < 10 then Char.ofNat (48 + n) else Char.ofNat (55 + n)

/-- Two lower-case hexadecimal digits for each byte. -/
def hex (bs : Bytes) : String :=
  String.ofList (bs.flatMap fun b => [hexDigit (b.toNat / 16), hexDigit (b.toNat % 16)])

end Text
end SignOn
