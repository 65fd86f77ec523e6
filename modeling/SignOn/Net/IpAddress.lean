import SignOn.Text.Blank
import SignOn.Text.Utf8
/-!
IP addresses and their text: dotted decimal for the short ones; groups of hexadecimal digits for the
long ones, where `::` stands for a run of zero groups and the last two groups may be dotted decimal.
-/

namespace SignOn

open SignOn.Text

/-- An address of the Internet protocol. -/
inductive IpAddress where
  /-- Four bytes. -/
  | v4 (a b c d : Nat)
  /-- Eight groups of 16 bits. -/
  | v6 (groups : List Nat)
  deriving DecidableEq, Repr

namespace IpAddress

/-! ## Reading -/

/-- A decimal byte without leading zeros. -/
def readByte (cs : List Char) : Option (Nat × List Char) :=
  let ds := cs.takeWhile Char.isDigit
  let rest := cs.dropWhile Char.isDigit
  let n := ds.foldl (fun n c => 10 * n + (c.toNat - 48)) 0
  if ds.isEmpty || 3 < ds.length || (1 < ds.length && ds.head? == some '0') || 255 < n then none
  else some (n, rest)

/-- A character that must come next. -/
def expect (c : Char) : List Char → Option (List Char)
  | d :: rest => if c == d then some rest else none
  | [] => none

/-- Four bytes between dots. -/
def readV4 (cs : List Char) : Option ((Nat × Nat × Nat × Nat) × List Char) := do
  let (a, cs) ← readByte cs
  let (b, cs) ← readByte (← expect '.' cs)
  let (c, cs) ← readByte (← expect '.' cs)
  let (d, cs) ← readByte (← expect '.' cs)
  return ((a, b, c, d), cs)

/-- Up to four hexadecimal digits. -/
def readGroup (cs : List Char) : Option (Nat × List Char) :=
  let ds := cs.takeWhile isHexDigit
  if ds.isEmpty || 4 < ds.length then none
  else some (ds.foldl (fun n c => 16 * n + (hexValue? c).getD 0) 0, cs.drop ds.length)

/-- The colon in front of every group but the first. -/
def separator (first : Bool) (cs : List Char) : Option (List Char) :=
  if first then some cs else expect ':' cs

/-- Up to `room` groups, the last two of which may be dotted; whether they were comes with them. -/
def readGroups : Nat → Bool → List Char → List Nat × Bool × List Char
  | 0, _, cs => ([], false, cs)
  | room + 1, first, cs =>
    let dotted : Option ((Nat × Nat × Nat × Nat) × List Char) :=
      if room = 0 then none else (separator first cs).bind readV4
    match dotted with
    | some ((a, b, c, d), rest) => ([256 * a + b, 256 * c + d], true, rest)
    | none => match (separator first cs).bind readGroup with
      | some (g, rest) =>
        let (gs, isDotted, rest) := readGroups room false rest
        (g :: gs, isDotted, rest)
      | none => ([], false, cs)

/-- Eight groups, some of which `::` may stand for. -/
def readV6 (cs : List Char) : Option (List Nat × List Char) :=
  let (head, isDotted, rest) := readGroups 8 true cs
  if head.length = 8 then some (head, rest)
  else if isDotted then none
  else do
    let rest ← expect ':' (← expect ':' rest)
    let (tail, _, rest) := readGroups (7 - head.length) true rest
    return (head ++ List.replicate (8 - head.length - tail.length) 0 ++ tail, rest)

/-- The dotted address that a text spells. -/
def parseV4? (cs : List Char) : Option IpAddress :=
  match readV4 cs with
  | some ((a, b, c, d), []) => some (.v4 a b c d)
  | _ => none

/-- The long address that a text spells. -/
def parseV6? (cs : List Char) : Option IpAddress :=
  match readV6 cs with
  | some (groups, []) => some (.v6 groups)
  | _ => none

/-- The address that a text spells. -/
def parse? (cs : List Char) : Option IpAddress := parseV4? cs <|> parseV6? cs

/-! ## Writing -/

/-- Four bytes between dots. -/
def printV4 (a b c d : Nat) : List Char :=
  Nat.toDigits 10 a ++ '.' :: Nat.toDigits 10 b ++ '.' :: Nat.toDigits 10 c ++ '.' ::
    Nat.toDigits 10 d

/-- Groups between colons. -/
def printGroups : List Nat → List Char
  | [] => []
  | [g] => Nat.toDigits 16 g
  | g :: gs => Nat.toDigits 16 g ++ ':' :: printGroups gs

/-- The start and length of the first longest run of zeros, counted from `at`. -/
def longestZeros (start : Nat) : List Nat → Nat × Nat
  | [] => (start, 0)
  | g :: gs =>
    let here := ((g :: gs).takeWhile (· == 0)).length
    let (later, length) := longestZeros (start + 1) gs
    if length ≤ here then (start, here) else (later, length)

/-- Groups between colons, where a run of at least two zero groups is left out. -/
def printShort (groups : List Nat) : List Char :=
  let (start, length) := longestZeros 0 groups
  if 1 < length then
    printGroups (groups.take start) ++ ':' :: ':' :: printGroups (groups.drop (start + length))
  else printGroups groups

/-- The shortest usual spelling: a dotted address inside a long one stays dotted. -/
def printV6 (groups : List Nat) : List Char :=
  match groups with
  | [0, 0, 0, 0, 0, 0xFFFF, g, h] =>
    "::ffff:".toList ++ printV4 (g / 256) (g % 256) (h / 256) (h % 256)
  | _ => printShort groups

/-- The text of an address. -/
def text : IpAddress → String
  | .v4 a b c d => String.ofList (printV4 a b c d)
  | .v6 groups => String.ofList (printV6 groups)

end IpAddress

/-- The address of `address:port`, where a long address stands in brackets. -/
def IpAddress.ofSocket? (cs : List Char) : Option IpAddress := do
  let (host, port) ← splitAtLast? (· == ':') cs
  let n := port.foldl (fun n c => 10 * n + (c.toNat - 48)) 0
  if port.isEmpty || !port.all Char.isDigit || 65535 < n then none
  else match host with
    | '[' :: inner => match inner.reverse with
      | ']' :: inner => IpAddress.parseV6? inner.reverse
      | _ => none
    | host => IpAddress.parseV4? host

end SignOn
