import SignOn.Mail.Address
import SignOn.Text.Utf8
/-!
Mailboxes: where a letter comes from or goes to. A mailbox is an address, or a name and an address
in angle brackets. Each grammar rule is a function that takes what it can from the front of a text
and gives back the rest; a rule that has taken something does not try to take less.
-/

namespace SignOn.Mail

open SignOn.Text SignOn.Net.Idna

/-- A mailbox. -/
structure Mailbox where
  name : Option String
  user : String
  domain : String
  deriving DecidableEq, Repr

namespace Mailbox

/-- Why a text is no mailbox. -/
inductive Fault where
  | badForm
  | badUser
  | badDomain
  deriving DecidableEq, Repr

/-- What operators are told. -/
def Fault.message : Fault → String
  | .badForm => "Invalid input"
  | .badUser => "Invalid email user"
  | .badDomain => "Invalid email domain"

/-! ## Words -/

/-- A part that a rule has taken, and the rest. -/
abbrev Taken := Option (List Char × List Char)

/-- A character of an atom. All characters outside ASCII are. -/
def isAtomSign (c : Char) : Bool :=
  isAlphanumeric c || (localSigns.contains c && c != '.') || 0x80 ≤ c.toNat

/-- A space or a tab. -/
def isGap (c : Char) : Bool := c == ' ' || c == '\t'

/-- Characters of an atom, at least one. -/
def run? (cs : List Char) : Taken :=
  match cs.takeWhile isAtomSign with
  | [] => none
  | taken => some (taken, cs.dropWhile isAtomSign)

/-- A gap in front, of which one character is kept. -/
def behindGap (cs : List Char) (rule : List Char → Taken) : Taken :=
  (rule (cs.dropWhile isGap)).map fun (taken, rest) => ((cs.take 1).filter isGap ++ taken, rest)

/-- An atom. -/
def atom? (cs : List Char) : Taken := behindGap cs run?

/-- A character that stands for itself between quotes. -/
def isQuotable (c : Char) : Bool :=
  ('!' ≤ c && c ≤ '\x7f' && c != '"' && c != '\\') ||
  ('\x01' ≤ c && c ≤ '\x1f' && c != '\t' && c != '\n' && c != '\r')

/-- A character that may follow a backslash. -/
def isEscapable (c : Char) : Bool := '\x01' ≤ c && c ≤ '\x7f' && c != '\n' && c != '\r'

/-- What stands between quotes, up to the closing one. `gap` is the last gap that was met. -/
def quoted? (gap : List Char) : List Char → Taken
  | [] => none
  | '"' :: rest => if gap.isEmpty then some ([], rest) else none
  | '\\' :: c :: rest =>
    if isEscapable c then (quoted? [] rest).map fun (taken, rest) => (gap ++ c :: taken, rest)
    else none
  | c :: rest =>
    if isGap c then quoted? (if gap.isEmpty then [c] else gap) rest
    else if isQuotable c then (quoted? [] rest).map fun (taken, rest) => (gap ++ c :: taken, rest)
    else none

/-- A text in quotes, without them. -/
def quotedText? : List Char → Taken
  | '"' :: rest => quoted? [] rest
  | _ => none

/-- A text in quotes or an atom. -/
def word? (cs : List Char) : Taken := quotedText? cs <|> atom? cs

/-- What follows a dot, as often as it comes; the fuel bounds the number of dots. -/
def afterDots (rule : List Char → Taken) : Nat → List Char → List Char × List Char
  | fuel + 1, '.' :: cs => match rule cs with
    | some (taken, rest) =>
      let (more, rest) := afterDots rule fuel rest
      ('.' :: taken ++ more, rest)
    | none => ([], '.' :: cs)
  | _, cs => ([], cs)

/-- Parts between dots. -/
def dotted? (first next : List Char → Taken) (cs : List Char) : Taken := do
  let (taken, rest) ← first cs
  let (more, rest) := afterDots next rest.length rest
  return (taken ++ more, rest)

/-- At least two runs between dots. -/
def dottedRuns? (cs : List Char) : Taken :=
  match dotted? atom? run? cs with
  | some (taken, rest) => if taken.contains '.' then some (taken, rest) else none
  | none => none

/-! ## Addresses -/

/-- The part in front of the at sign. -/
def user? (cs : List Char) : Taken := dottedRuns? cs <|> quotedText? cs <|> dotted? word? word? cs

/-- The part behind the at sign. -/
def domain? (cs : List Char) : Taken := dottedRuns? cs <|> dotted? atom? atom? cs

/-- An address. -/
def address? (cs : List Char) : Option ((List Char × List Char) × List Char) := do
  let (user, rest) ← user? cs
  match rest with
  | '@' :: rest =>
    let (domain, rest) ← domain? rest
    return ((user, domain), rest)
  | _ => none

/-- More words and dots of a name; the fuel bounds their number. -/
def moreWords : Nat → List Char → List Char × List Char
  | fuel + 1, cs => match word? cs, cs with
    | some (taken, rest), _ =>
      let (more, rest) := moreWords fuel rest
      (taken ++ more, rest)
    | none, '.' :: rest =>
      let (more, rest) := moreWords fuel rest
      ('.' :: more, rest)
    | none, cs => ([], cs)
  | 0, cs => ([], cs)

/-- A name. -/
def name? (cs : List Char) : Taken := do
  let (taken, rest) ← word? cs
  let (more, rest) := moreWords rest.length rest
  return (taken ++ more, rest)

/-- An address in angle brackets, with blanks around. -/
def bracketed? (cs : List Char) : Option ((List Char × List Char) × List Char) := do
  match trimStart cs with
  | '<' :: rest =>
    let (address, rest) ← address? rest
    match rest with
    | '>' :: rest => return (address, trimStart rest)
    | _ => none
  | _ => none

/-- A mailbox in two parts, name and address, or an address alone. -/
def parts? (cs : List Char) :
    Option ((Option (List Char) × List Char × List Char) × List Char) :=
  let (name, rest) := match name? cs with
    | some (name, rest) => (some name, rest)
    | none => (none, cs)
  match bracketed? rest with
  | some (address, rest) => some ((name, address), rest)
  | none => (address? cs).map fun (address, rest) => ((none, address), rest)

/-! ## What can be delivered -/

/-- A user: up to 64 bytes of atoms between dots. -/
def isUser (cs : List Char) : Bool :=
  byteLength cs ≤ 64 && (pieces (· == '.') cs).all fun part => !part.isEmpty && part.all isAtomSign

/-- A character that may begin or end a label. -/
def isEdge (c : Char) : Bool := isAlphanumeric c || 0x80 ≤ c.toNat

/-- A label of a domain. -/
def isLabel (label : List Char) : Bool :=
  byteLength label ≤ 63 && label.all isAtomSign && label.head?.any isEdge &&
  label.getLast?.any isEdge

/-- A domain of up to 254 bytes. -/
def isShortDomain (cs : List Char) : Bool :=
  byteLength cs ≤ 254 && (pieces (· == '.') cs).all isLabel

/-- A domain, as it is or in ASCII form. -/
def isReachable (cs : List Char) : Bool :=
  isShortDomain cs || (toAscii? (fun _ => false) cs).any isShortDomain

/-- The mailbox that a text spells. -/
def parse? (text : String) : Except Fault Mailbox :=
  match parts? (trimStart text.toList) with
  | some ((name, user, domain), rest) =>
    if !(trimStart rest).isEmpty then .error .badForm
    else if !isUser user then .error .badUser
    else if !isReachable domain then .error .badDomain
    else .ok ⟨name.map String.ofList, String.ofList user, String.ofList domain⟩
  | none => .error .badForm

end Mailbox
end SignOn.Mail
