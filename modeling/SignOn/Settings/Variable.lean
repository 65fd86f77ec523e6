import SignOn.Settings.Layer
import SignOn.Text.Blank
import SignOn.Text.Number
/-!
Settings from environment variables. A variable names a setting by its path, with two underscores
between the names; its text is read as `true`, `false`, a number, a quoted text, a list in brackets
or a table in braces, and as itself if it is none of these.
-/

namespace SignOn.Variable

open SignOn.Text SignOn.Json

/-! ## Values -/

/-- A blank of ASCII. -/
def isSpace (c : Char) : Bool :=
  c == ' ' || c == '\t' || c == '\n' || c == '\r' || c.toNat == 0x0C

/-- Drops blanks from the front. -/
def skipSpace (cs : List Char) : List Char := cs.dropWhile isSpace

/-- A character that ends a bare value. -/
def isSeparator (c : Char) : Bool := ",\x7b\x7d[]".toList.contains c

/-- A character of a bare name. -/
def isNameChar (c : Char) : Bool :=
  ('a' ≤ c && c ≤ 'z') || ('A' ≤ c && c ≤ 'Z') || ('0' ≤ c && c ≤ '9') || c == '_' || c == '-'

/-- The character that some hexadecimal digits stand for. -/
def scalar? (digits : List Char) : Option Char :=
  let n := digits.foldl (fun n d => 16 * n + (hexValue? d).getD 0) 0
  if digits.all isHexDigit && n.isValidChar then some (Char.ofNat n) else none

/-- The text after a quote: up to the next quote, with escapes undone. -/
def quoted : List Char → Option (List Char × List Char)
  | [] => none
  | '"' :: rest => some ([], rest)
  | '\\' :: 'u' :: a :: b :: c :: d :: rest => do
    let ch ← scalar? [a, b, c, d]
    let (text, rest) ← quoted rest
    return (ch :: text, rest)
  | '\\' :: 'U' :: a :: b :: c :: d :: e :: f :: g :: h :: rest => do
    let ch ← scalar? [a, b, c, d, e, f, g, h]
    let (text, rest) ← quoted rest
    return (ch :: text, rest)
  | '\\' :: c :: rest => do
    let ch ← match c with
      | 'b' => some '\x08'
      | 't' => some '\t'
      | 'n' => some '\n'
      | 'f' => some '\x0c'
      | 'r' => some '\r'
      | '"' => some '"'
      | '\\' => some '\\'
      | _ => none
    let (text, rest) ← quoted rest
    return (ch :: text, rest)
  | c :: rest => do
    let (text, rest) ← quoted rest
    return (c :: text, rest)

/-- Whether a text with a point is a number. -/
def isFraction (cs : List Char) : Bool :=
  let unsigned := match cs with
    | '-' :: cs | '+' :: cs => cs
    | cs => cs
  let (mantissa, exponent) := match splitAtFirst? (fun c => c == 'e' || c == 'E') unsigned with
    | some (mantissa, exponent) => (mantissa, some exponent)
    | none => (unsigned, none)
  let digits := mantissa.filter (· != '.')
  !digits.isEmpty && digits.all Char.isDigit && mantissa.count '.' == 1 &&
  match exponent with
  | none => true
  | some ('-' :: e) | some ('+' :: e) => !e.isEmpty && e.all Char.isDigit
  | some e => !e.isEmpty && e.all Char.isDigit

/-- The integer that a bare value spells, if it has at most 64 bits. -/
def integer? (cs : List Char) : Option Int :=
  let natural := (natural? (match cs with
    | '+' :: cs => cs
    | cs => cs)).filter (· < 0x10000000000000000)
  match natural with
  | some n => some n
  | none => int64? cs

/-- A bare value. No setting takes a number with a fraction, so it is read as nothing. -/
def bare (cs : List Char) : Value :=
  if cs.contains '.' && isFraction cs then .null
  else match integer? cs with
    | some n => .integer n
    | none => .text (String.ofList cs)

/-- The name in front of an equals sign. -/
def name? (cs : List Char) : Option (String × List Char) := do
  let (name, rest) ← match skipSpace cs with
    | '"' :: rest => quoted rest
    | cs =>
      let name := cs.takeWhile isNameChar
      if name.isEmpty then none else some (name, cs.drop name.length)
  match skipSpace rest with
  | '=' :: rest => some (String.ofList name, rest)
  | _ => none

mutual

/-- Reads a value. -/
def readValue : Nat → List Char → Option (Value × List Char)
  | 0, _ => none
  | fuel + 1, cs => do
    let (value, rest) ← match skipSpace cs with
      | 't' :: 'r' :: 'u' :: 'e' :: rest => some (.bool true, rest)
      | 'f' :: 'a' :: 'l' :: 's' :: 'e' :: rest => some (.bool false, rest)
      | '[' :: rest => (readItems fuel rest).map fun (items, rest) => (.list items, rest)
      | '\x7b' :: rest => (readMembers fuel rest).map fun (members, rest) => (.object members, rest)
      | '"' :: rest => (quoted rest).map fun (text, rest) => (.text (String.ofList text), rest)
      | '\'' :: c :: '\'' :: rest => some (.text (String.ofList [c]), rest)
      | '\'' :: _ => none
      | cs => some (bare (trim (cs.takeWhile (!isSeparator ·))), cs.dropWhile (!isSeparator ·))
    return (value, skipSpace rest)

/-- Reads the rest of a list. -/
def readItems : Nat → List Char → Option (List Value × List Char)
  | 0, _ => none
  | _ + 1, ']' :: rest => some ([], rest)
  | fuel + 1, cs => do
    let (item, rest) ← readValue fuel cs
    match rest with
    | ',' :: rest => do
      let (items, rest) ← readItems fuel rest
      return (item :: items, rest)
    | ']' :: rest => return ([item], rest)
    | _ => none

/-- Reads the rest of a table. -/
def readMembers : Nat → List Char → Option (List (String × Value) × List Char)
  | 0, _ => none
  | _ + 1, '\x7d' :: rest => some ([], rest)
  | fuel + 1, cs => do
    let (name, rest) ← name? cs
    let (value, rest) ← readValue fuel rest
    match rest with
    | ',' :: rest => do
      let (members, rest) ← readMembers fuel rest
      return ((name, value) :: members.filter (·.1 != name), rest)
    | '\x7d' :: rest => return ([(name, value)], rest)
    | _ => none

end

/-- The value that the text of a variable stands for. -/
def value (text : String) : Value :=
  match readValue (2 * text.length + 2) text.toList with
  | some (value, []) => value
  | _ => .text text

/-! ## Names -/

/-- A variable: a name and a text. -/
abbrev Binding := String × String

/-- What the names of settings begin with. -/
def sign : String := "AUTH_"

/-- Two underscores become a point. -/
def pointed : List Char → List Char
  | '_' :: '_' :: rest => '.' :: pointed rest
  | c :: rest => c :: pointed rest
  | [] => []

/-- The path of the setting that a variable names. -/
def path? (name : String) : Option (List String) :=
  let cs := trim name.toList
  let start := cs.take sign.length
  if sameAscii start sign.toList then
    let path := pieces (· == '.') (pointed (cs.drop sign.length))
    if path.any List.isEmpty then none
    else some (path.map fun part => String.ofList (part.map lowerAscii))
  else none

/-- The layer of a variable that names a setting. -/
def layer? (binding : Binding) : Option Value :=
  (path? binding.1).map fun path => Layer.nest path (value binding.2)

/-- The layer of a variable with a name of its own, for one setting. -/
def namedLayer? (name : String) (path : List String) (binding : Binding) : Option Value :=
  if sameAscii binding.1.toList name.toList then some (Layer.nest path (value binding.2)) else none

/-- The layers of all variables. -/
def layers (environment : List Binding) : List Value :=
  environment.filterMap layer? ++
  environment.filterMap (namedLayer? "DATABASE_URL" ["database", "url"]) ++
  environment.filterMap (namedLayer? "REDIS_URL" ["cache", "url"])

end SignOn.Variable
