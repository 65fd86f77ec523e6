import SignOn.Json.Value
import SignOn.Text.Blank
import SignOn.Text.Number
/-!
Settings files: TOML. A document is a list of lines, each of which opens a table or gives a value
to a key of the open table. No table is opened twice and no key gets two values, whatever path
leads there. Dates and numbers with a fraction must be well formed, but no setting takes them, so
they are read as nothing.
-/

namespace SignOn.Toml

open SignOn.Text SignOn.Json

/-! ## Blanks and lines -/

/-- Spaces and tabs. -/
def isSpace (c : Char) : Bool := c == ' ' || c == '\t'

/-- Drops spaces and tabs from the front. -/
def skipSpace (cs : List Char) : List Char := cs.dropWhile isSpace

/-- A character that may stand in a comment. -/
def isCommentChar (c : Char) : Bool := c == '\t' || (0x20 ≤ c.toNat && c.toNat != 0x7F)

/-- Drops a comment. -/
def skipComment : List Char → List Char
  | '#' :: rest => rest.dropWhile isCommentChar
  | cs => cs

/-- Drops the end of a line. -/
def newline? : List Char → Option (List Char)
  | '\n' :: rest => some rest
  | '\r' :: '\n' :: rest => some rest
  | _ => none

/-- What follows a finished line: blanks and a comment may stand in between. -/
def endOfLine? (cs : List Char) : Option (List Char) :=
  match skipComment (skipSpace cs) with
  | [] => some []
  | cs => newline? cs

/-- Drops blanks, comments and ends of lines. -/
def skipLines : Nat → List Char → List Char
  | 0, cs => cs
  | fuel + 1, cs =>
    let cs := skipComment (skipSpace cs)
    match newline? cs with
    | some rest => skipLines fuel rest
    | none => cs

/-! ## Texts -/

/-- The character that some hexadecimal digits stand for. -/
def scalar? (digits : List Char) : Option Char :=
  let n := digits.foldl (fun n d => 16 * n + (hexValue? d).getD 0) 0
  if digits.all isHexDigit && n.isValidChar then some (Char.ofNat n) else none

/-- The character behind an escape, and what follows. -/
def escaped? : List Char → Option (Char × List Char)
  | 'b' :: rest => some ('\x08', rest)
  | 't' :: rest => some ('\t', rest)
  | 'n' :: rest => some ('\n', rest)
  | 'f' :: rest => some ('\x0c', rest)
  | 'r' :: rest => some ('\r', rest)
  | '"' :: rest => some ('"', rest)
  | '\\' :: rest => some ('\\', rest)
  | 'u' :: a :: b :: c :: d :: rest => (scalar? [a, b, c, d]).map (·, rest)
  | 'U' :: a :: b :: c :: d :: e :: f :: g :: h :: rest =>
    (scalar? [a, b, c, d, e, f, g, h]).map (·, rest)
  | _ => none

/-- The rest of a text on one line, in double quotes. -/
def basicText : Nat → List Char → Option (List Char × List Char)
  | 0, _ => none
  | _ + 1, '"' :: rest => some ([], rest)
  | fuel + 1, '\\' :: rest => do
    let (c, rest) ← escaped? rest
    let (text, rest) ← basicText fuel rest
    return (c :: text, rest)
  | fuel + 1, c :: rest =>
    if isCommentChar c then (basicText fuel rest).map fun (text, rest) => (c :: text, rest)
    else none
  | _ + 1, [] => none

/-- The rest of a text on one line, in single quotes. -/
def literalText : List Char → Option (List Char × List Char)
  | '\'' :: rest => some ([], rest)
  | c :: rest =>
    if isCommentChar c then (literalText rest).map fun (text, rest) => (c :: text, rest) else none
  | [] => none

/-- The end of a text of several lines: three quotes, and up to two more that belong to the text. -/
def closing? (quote : Char) (cs : List Char) : Option (List Char × List Char) :=
  let count := (cs.takeWhile (· == quote)).length
  if 3 ≤ count then
    let inside := min (count - 3) 2
    some (List.replicate inside quote, cs.drop (inside + 3))
  else none

/-- What follows a backslash at the end of a line: blanks and empty lines are dropped. -/
def continuation? (cs : List Char) : Option (List Char) :=
  (newline? (skipSpace cs)).map fun rest =>
    rest.dropWhile fun c => isSpace c || c == '\n' || c == '\r'

/-- The rest of a text of several lines. Only between double quotes a backslash begins an escape. -/
def longText (quote : Char) : Nat → List Char → Option (List Char × List Char)
  | 0, _ => none
  | fuel + 1, cs =>
    match closing? quote cs with
    | some (text, rest) => some (text, rest)
    | none => match newline? cs, cs with
      | some rest, _ => (longText quote fuel rest).map fun (text, rest) => ('\n' :: text, rest)
      | none, '\\' :: rest =>
        if quote == '"' then
          match continuation? rest with
          | some rest => longText quote fuel rest
          | none => do
            let (c, rest) ← escaped? rest
            let (text, rest) ← longText quote fuel rest
            return (c :: text, rest)
        else (longText quote fuel rest).map fun (text, rest) => ('\\' :: text, rest)
      | none, c :: rest =>
        if isCommentChar c then
          (longText quote fuel rest).map fun (text, rest) => (c :: text, rest)
        else none
      | none, [] => none

/-- A line end right behind the opening quotes is no part of a text. -/
def skipFirstNewline (cs : List Char) : List Char := (newline? cs).getD cs

/-- A text in any quotes. -/
def text? (cs : List Char) : Option (String × List Char) :=
  let fuel := cs.length + 1
  let found := match cs with
    | '"' :: '"' :: '"' :: rest => longText '"' fuel (skipFirstNewline rest)
    | '\'' :: '\'' :: '\'' :: rest => longText '\'' fuel (skipFirstNewline rest)
    | '"' :: rest => basicText fuel rest
    | '\'' :: rest => literalText rest
    | _ => none
  found.map fun (text, rest) => (String.ofList text, rest)

/-! ## Numbers and dates -/

/-- A decimal digit. -/
def isDigit (c : Char) : Bool := '0' ≤ c && c ≤ '9'

/-- Digits, where single underscores may stand between two of them. -/
def digits? (isDigit : Char → Bool) (cs : List Char) : Option (List Char) :=
  let groups := pieces (· == '_') cs
  if groups.all (fun g => !g.isEmpty && g.all isDigit) then some groups.flatten else none

/-- The number that digits of a base spell. -/
def number (base : Nat) (ds : List Char) : Nat :=
  ds.foldl (fun n d => base * n + (hexValue? d).getD 0) 0

/-- Splits off a sign. -/
def splitSign : List Char → Bool × List Char
  | '-' :: cs => (true, cs)
  | '+' :: cs => (false, cs)
  | cs => (false, cs)

/-- A natural number in base ten, without zeros in front. -/
def decimal? (cs : List Char) : Option Nat := do
  let ds ← digits? isDigit cs
  if 1 < ds.length && ds.head? == some '0' then none else some (number 10 ds)

/-- An integer. -/
def integer? (cs : List Char) : Option Int :=
  let based (base : Nat) (ok : Char → Bool) (ds : List Char) : Option Int :=
    (digits? ok ds).bind fun ds => inInt64? (number base ds)
  match cs with
  | '0' :: 'x' :: ds => based 16 isHexDigit ds
  | '0' :: 'o' :: ds => based 8 (fun c => '0' ≤ c && c ≤ '7') ds
  | '0' :: 'b' :: ds => based 2 (fun c => c == '0' || c == '1') ds
  | cs =>
    let (negative, ds) := splitSign cs
    (decimal? ds).bind fun n => inInt64? (if negative then -(n : Int) else n)

/-- Whether a text is a number with a fraction or an exponent. -/
def isFraction (cs : List Char) : Bool :=
  let (_, unsigned) := splitSign cs
  let (mantissa, exponent) := match splitAtFirst? (fun c => c == 'e' || c == 'E') unsigned with
    | some (mantissa, exponent) => (mantissa, some exponent)
    | none => (unsigned, none)
  let (whole, fraction) := match splitAtFirst? (· == '.') mantissa with
    | some (whole, fraction) => (whole, some fraction)
    | none => (mantissa, none)
  String.ofList unsigned == "inf" || String.ofList unsigned == "nan" ||
  ((decimal? whole).isSome && fraction.all (fun f => (digits? isDigit f).isSome) &&
    exponent.all (fun e => (digits? isDigit (splitSign e).2).isSome) &&
    (fraction.isSome || exponent.isSome))

/-- Two digits between two bounds. -/
def inRange (low high : Nat) : List Char → Bool
  | [a, b] => isDigit a && isDigit b && low ≤ number 10 [a, b] && number 10 [a, b] ≤ high
  | _ => false

/-- How many days a month has. -/
def monthLength (year month : Nat) : Nat :=
  if month == 2 then if year % 4 == 0 && (year % 100 != 0 || year % 400 == 0) then 29 else 28
  else if [4, 6, 9, 11].contains month then 30
  else 31

/-- Whether a text is a date. -/
def isDate : List Char → Bool
  | [a, b, c, d, '-', e, f, '-', g, h] =>
    [a, b, c, d].all isDigit && inRange 1 12 [e, f] &&
    inRange 1 (monthLength (number 10 [a, b, c, d]) (number 10 [e, f])) [g, h]
  | _ => false

/-- Whether a text is a time of day. -/
def isTime : List Char → Bool
  | a :: b :: ':' :: c :: d :: ':' :: e :: f :: rest =>
    inRange 0 23 [a, b] && inRange 0 59 [c, d] && inRange 0 60 [e, f] && match rest with
      | [] => true
      | '.' :: fraction => !fraction.isEmpty && fraction.all isDigit
      | _ => false
  | _ => false

/-- Whether a text is a time of day, perhaps with its distance from Greenwich. -/
def isZonedTime (cs : List Char) : Bool :=
  isTime cs || match cs.reverse with
    | 'Z' :: time | 'z' :: time => isTime time.reverse
    | d :: c :: ':' :: b :: a :: sign :: time =>
      (sign == '+' || sign == '-') && inRange 0 23 [a, b] && inRange 0 59 [c, d] &&
      isTime time.reverse
    | _ => false

/-- Whether a text is a date, a time, or both. -/
def isMoment (cs : List Char) : Bool :=
  isDate cs || isTime cs ||
  (isDate (cs.take 10) && (cs[10]?.any fun c => c == 'T' || c == 't' || c == ' ') &&
    isZonedTime (cs.drop 11))

/-- A character of a value without quotes. -/
def isBareChar (c : Char) : Bool :=
  ('a' ≤ c && c ≤ 'z') || ('A' ≤ c && c ≤ 'Z') || isDigit c || "+-_.:".toList.contains c

/-- The characters of a value without quotes. A space may stand between a date and a time. -/
def bareWord (cs : List Char) : List Char × List Char :=
  let word := cs.takeWhile isBareChar
  match cs.drop word.length with
  | ' ' :: d :: rest =>
    if isDate word && isDigit d then
      let more := (d :: rest).takeWhile isBareChar
      (word ++ ' ' :: more, (d :: rest).drop more.length)
    else (word, ' ' :: d :: rest)
  | rest => (word, rest)

/-- The value that a word stands for. -/
def bare? (word : List Char) : Option Value :=
  if word == "true".toList then some (.bool true)
  else if word == "false".toList then some (.bool false)
  else match integer? word with
    | some n => some (.integer n)
    | none => if isFraction word || isMoment word then some .null else none

/-! ## Keys -/

/-- A character of a key without quotes. -/
def isKeyChar (c : Char) : Bool :=
  ('a' ≤ c && c ≤ 'z') || ('A' ≤ c && c ≤ 'Z') || isDigit c || c == '_' || c == '-'

/-- One name of a key. -/
def name? (cs : List Char) : Option (String × List Char) :=
  match cs with
  | '"' :: rest =>
    (basicText (rest.length + 1) rest).map fun (text, rest) => (String.ofList text, rest)
  | '\'' :: rest => (literalText rest).map fun (text, rest) => (String.ofList text, rest)
  | cs =>
    let name := cs.takeWhile isKeyChar
    if name.isEmpty then none else some (String.ofList name, cs.drop name.length)

/-- A key: names between points. -/
def key? : Nat → List Char → Option (List String × List Char)
  | 0, _ => none
  | fuel + 1, cs => do
    let (name, rest) ← name? (skipSpace cs)
    match skipSpace rest with
    | '.' :: rest => do
      let (names, rest) ← key? fuel rest
      return (name :: names, rest)
    | rest => return ([name], rest)

/-! ## Tables -/

/-- How a table came to be. -/
inductive Making where
  /-- On the way to another table. -/
  | passed
  /-- By the path of a key. -/
  | dotted
  /-- By its own heading. -/
  | headed
  deriving DecidableEq

/-- A part of a document. -/
inductive Node where
  | leaf (value : Value)
  | table (making : Making) (members : List (String × Node))
  /-- Tables of one heading, last one first; each is a list of members. -/
  | row (tables : List (List (String × Node)))

/-- The members of a table. -/
abbrev Members := List (String × Node)

namespace Node

mutual

/-- The value of a part. -/
def value : Node → Value
  | .leaf v => v
  | .table _ members => .object (valueMembers members)
  | .row tables => .list (valueTables tables).reverse

/-- The values of members. -/
def valueMembers : List (String × Node) → List (String × Value)
  | [] => []
  | (name, node) :: rest => (name, node.value) :: valueMembers rest

/-- The values of tables. -/
def valueTables : List (List (String × Node)) → List Value
  | [] => []
  | members :: rest => .object (valueMembers members) :: valueTables rest

end

end Node

namespace Members

/-- The members with another node under a name; a new name comes last. -/
def put (members : Members) (name : String) (node : Node) : Members :=
  if members.any (·.1 == name) then
    members.map fun member => if member.1 == name then (name, node) else member
  else members ++ [(name, node)]

/-- Gives a value to a key. -/
def define : List String → Value → Members → Option Members
  | [], _, _ => none
  | [name], value, members => match members.lookup name with
    | some _ => none
    | none => some (members.put name (.leaf value))
  | name :: path, value, members => match members.lookup name with
    | none => (define path value []).map fun inner => members.put name (.table .dotted inner)
    | some (.table .headed _) => none
    | some (.table making inner) =>
      (define path value inner).map fun inner => members.put name (.table making inner)
    | some _ => none

/-- Changes the table at the end of a path; tables on the way are made where they are missing. -/
def change (f : Option Node → Option Node) : List String → Members → Option Members
  | [], _ => none
  | [name], members => (f (members.lookup name)).map (members.put name)
  | name :: path, members => match members.lookup name with
    | none => (change f path []).map fun inner => members.put name (.table .passed inner)
    | some (.table making inner) =>
      (change f path inner).map fun inner => members.put name (.table making inner)
    | some (.row (last :: before)) =>
      (change f path last).map fun last => members.put name (.row (last :: before))
    | some _ => none

/-- Opens a table by its heading. -/
def openTable : Option Node → Option Node
  | none => some (.table .headed [])
  | some (.table .passed members) => some (.table .headed members)
  | some _ => none

/-- Opens one more table of a row. -/
def openRow : Option Node → Option Node
  | none => some (.row [[]])
  | some (.row tables) => some (.row ([] :: tables))
  | some _ => none

/-- Gives a value to a key of an open table. -/
def defineIn (path : List String) (value : Value) : Option Node → Option Node
  | some (.table making members) => (define path value members).map (.table making)
  | some (.row (last :: before)) => (define path value last).map fun last => .row (last :: before)
  | _ => none

end Members

/-! ## Values -/

mutual

/-- Reads a value. -/
def readValue : Nat → List Char → Option (Value × List Char)
  | 0, _ => none
  | fuel + 1, cs =>
    match cs with
    | '[' :: rest => (readItems fuel rest).map fun (items, rest) => (.list items, rest)
    | '\x7b' :: rest => match skipSpace rest with
      | '\x7d' :: rest => some (.object [], rest)
      | rest => (readMembers fuel [] rest).map fun (members, rest) =>
        (.object (Node.valueMembers members), rest)
    | '"' :: _ | '\'' :: _ => (text? cs).map fun (text, rest) => (.text text, rest)
    | cs =>
      let (word, rest) := bareWord cs
      (bare? word).map (·, rest)

/-- Reads the rest of an array. -/
def readItems : Nat → List Char → Option (List Value × List Char)
  | 0, _ => none
  | fuel + 1, cs =>
    match skipLines cs.length cs with
    | ']' :: rest => some ([], rest)
    | cs => do
      let (item, rest) ← readValue fuel cs
      match skipLines rest.length rest with
      | ',' :: rest => do
        let (items, rest) ← readItems fuel rest
        return (item :: items, rest)
      | ']' :: rest => return ([item], rest)
      | _ => none

/-- Reads the rest of a table on one line. -/
def readMembers : Nat → Members → List Char → Option (Members × List Char)
  | 0, _, _ => none
  | fuel + 1, members, cs => do
    let (path, rest) ← key? (cs.length + 1) cs
    match rest with
    | '=' :: rest => do
      let (value, rest) ← readValue fuel (skipSpace rest)
      let members ← members.define path value
      match skipSpace rest with
      | ',' :: rest => readMembers fuel members rest
      | '\x7d' :: rest => return (members, rest)
      | _ => none
    | _ => none

end

/-! ## Documents -/

/-- A document that is being read: its tables, and the path of the open one. -/
structure Reading where
  root : Members := []
  path : List String := []

namespace Reading

/-- Gives a value to a key. -/
def define (r : Reading) (key : List String) (value : Value) : Option Reading :=
  match r.path with
  | [] => (r.root.define key value).map fun root => { r with root }
  | path => (r.root.change (Members.defineIn key value) path).map fun root => { r with root }

/-- Opens a table. -/
def openAt (r : Reading) (f : Option Node → Option Node) (path : List String) : Option Reading :=
  (r.root.change f path).map fun root => ⟨root, path⟩

/-- Reads a line that is not empty, and gives what follows it. -/
def line? (r : Reading) (cs : List Char) : Option (Reading × List Char) :=
  let fuel := 2 * cs.length + 2
  match cs with
  | '[' :: '[' :: rest => do
    let (path, rest) ← key? fuel rest
    match rest with
    | ']' :: ']' :: rest => return (← r.openAt Members.openRow path, ← endOfLine? rest)
    | _ => none
  | '[' :: rest => do
    let (path, rest) ← key? fuel rest
    match rest with
    | ']' :: rest => return (← r.openAt Members.openTable path, ← endOfLine? rest)
    | _ => none
  | cs => do
    let (key, rest) ← key? fuel cs
    match rest with
    | '=' :: rest => do
      let (value, rest) ← readValue fuel (skipSpace rest)
      return (← r.define key value, ← endOfLine? rest)
    | _ => none

/-- Reads lines to the end. -/
def lines? : Nat → Reading → List Char → Option Reading
  | 0, _, _ => none
  | fuel + 1, r, cs =>
    match skipLines cs.length cs with
    | [] => some r
    | cs => match r.line? cs with
      | some (r, rest) => lines? fuel r rest
      | none => none

end Reading

/-- The members of a document. -/
def parse? (text : String) : Option (List (String × Value)) :=
  let cs := match text.toList with
    | '\uFEFF' :: cs => cs
    | cs => cs
  (Reading.lines? (cs.length + 1) {} cs).map fun r => Node.valueMembers r.root

end SignOn.Toml
