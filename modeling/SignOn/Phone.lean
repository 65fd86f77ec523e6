import SignOn.Text.DecimalDigit
import SignOn.Text.Utf8
/-!
Phone numbers: which spellings a request may use, and the form under which a number is stored.

A spelling is an optional country part (`8` or `+7`), an optional area part (three digits, each
parenthesis optional) and a tail of seven to ten digits, dashes and blanks. Both parts may be
followed by one dash or blank. Since all of them overlap, `accepts` tries every way to cut the text.
-/

namespace SignOn.Phone

open SignOn.Text

/-- A dash or a blank, which may stand between the parts of a number. -/
def isSeparator (c : Char) : Bool := c == '-' || c == ' '

/-- What remains after an optional character: the text itself, and its tail if the head fits. -/
def afterOptional (p : Char → Bool) : List Char → List (List Char)
  | [] => [[]]
  | c :: cs => if p c then [cs, c :: cs] else [c :: cs]

/-- What remains after exactly three digits. -/
def afterThreeDigits : List Char → List (List Char)
  | a :: b :: c :: cs =>
    if isDecimalDigit a && isDecimalDigit b && isDecimalDigit c then [cs] else []
  | _ => []

/-- What remains after the country code `8` or `+7`. -/
def afterCountryCode : List Char → List (List Char)
  | '8' :: cs => [cs]
  | '+' :: '7' :: cs => [cs]
  | _ => []

/-- What may remain once the optional country part is taken. -/
def afterCountry (cs : List Char) : List (List Char) :=
  (afterCountryCode cs).flatMap (afterOptional isSeparator) ++ [cs]

/-- What may remain once the optional area part is taken. -/
def afterArea (cs : List Char) : List (List Char) :=
  ((((afterOptional (· == '(') cs).flatMap afterThreeDigits).flatMap
    (afterOptional (· == ')'))).flatMap (afterOptional isSeparator)) ++ [cs]

/-- A character of the tail. -/
def isTailChar (c : Char) : Bool := isDecimalDigit c || isSeparator c

/-- The tail: seven to ten characters, each of them a digit or a separator. -/
def isTail (cs : List Char) : Bool := 7 ≤ cs.length && cs.length ≤ 10 && cs.all isTailChar

/-- Whether the text is a spelling of a phone number. -/
def accepts (cs : List Char) : Bool := (afterCountry cs).any fun rest => (afterArea rest).any isTail

/-- `accepts` on a string. -/
def isValid (s : String) : Bool := accepts s.toList

/-- The stored form of a number: a leading plus goes; `87…` of eleven bytes becomes `77…`; `7…` of
ten bytes gets the country code in front. Any other text stays as it is. -/
def normalForm (cs : List Char) : List Char :=
  if byteLength cs ≤ 1 then cs
  else match cs with
    | '+' :: rest => rest
    | '7' :: rest => if byteLength cs = 10 then '7' :: '7' :: rest else cs
    | '8' :: '7' :: rest => if byteLength cs = 11 then '7' :: '7' :: rest else cs
    | _ => cs

/-- `normalForm` on a string. -/
def normalize (s : String) : String := String.ofList (normalForm s.toList)

end SignOn.Phone
