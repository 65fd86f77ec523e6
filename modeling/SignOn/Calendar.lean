import SignOn.Text.Blank
/-!
Instants and their text. An instant is a second of the epoch with a fraction; it is written in the
Internet profile of ISO 8601, in UTC, with as many groups of three decimals as it needs, and read
from a more tolerant form (a blank for the `T`, blanks around the parts, any offset).
-/

namespace SignOn

open SignOn.Text

/-- A point in time: seconds since the epoch, and nanoseconds, of which a leap second has more than
a thousand million. -/
structure Instant where
  seconds : Int
  nanos : Nat := 0
  deriving DecidableEq, Repr

namespace Calendar

/-- Days from the epoch to the first of March of a year that begins in March. -/
def daysBeforeMarchYear (y : Int) : Int := 365 * y + y / 4 - y / 100 + y / 400 - 719468

/-- Days from the epoch to a date of the Gregorian calendar. -/
def daysOfDate (year month day : Int) : Int :=
  let y := if month ≤ 2 then year - 1 else year
  let m := if month ≤ 2 then month + 9 else month - 3
  daysBeforeMarchYear y + (153 * m + 2) / 5 + day - 1

/-- The date that lies so many days after the epoch. -/
def dateOfDays (days : Int) : Int × Int × Int :=
  let z := days + 719468
  let era := z / 146097
  let doe := z % 146097
  let yoe := (doe - doe / 1460 + doe / 36524 - doe / 146096) / 365
  let doy := doe - (365 * yoe + yoe / 4 - yoe / 100)
  let mp := (5 * doy + 2) / 153
  let day := doy - (153 * mp + 2) / 5 + 1
  let month := if mp < 10 then mp + 3 else mp - 9
  let year := yoe + era * 400 + (if month ≤ 2 then 1 else 0)
  (year, month, day)

/-- A leap year of the Gregorian calendar. -/
def isLeapYear (y : Int) : Bool := y % 4 == 0 && (y % 100 != 0 || y % 400 == 0)

/-- The length of a month. -/
def daysInMonth (y m : Int) : Int :=
  if m == 2 then (if isLeapYear y then 29 else 28)
  else if m == 4 || m == 6 || m == 9 || m == 11 then 30 else 31

/-- The first second that has a date. -/
def firstSecond : Int := -8334601228800
/-- The last second that has a date. -/
def lastSecond : Int := 8210266876799

/-- Decimal digits, padded with zeros to a width. -/
def padded (width : Nat) (n : Nat) : List Char :=
  let ds := Nat.toDigits 10 n
  List.replicate (width - ds.length) '0' ++ ds

/-- The decimals of a second, in groups of three. -/
def printNanos (nanos : Nat) : List Char :=
  if nanos = 0 then []
  else if nanos % 1000000 = 0 then '.' :: padded 3 (nanos / 1000000)
  else if nanos % 1000 = 0 then '.' :: padded 6 (nanos / 1000)
  else '.' :: padded 9 nanos

/-- A year: four digits, with a sign when it is outside of 0 to 9999. -/
def printYear (y : Int) : List Char :=
  if 0 ≤ y && y ≤ 9999 then padded 4 y.toNat
  else (if y < 0 then '-' else '+') :: padded 4 y.natAbs

end Calendar

open Calendar

/-- The written form of an instant. -/
def Instant.print (t : Instant) : List Char :=
  let days := t.seconds / 86400
  let ofDay := (t.seconds % 86400).toNat
  let (y, m, d) := dateOfDays days
  let leap := 1000000000 ≤ t.nanos
  let second := ofDay % 60 + (if leap then 1 else 0)
  let nanos := if leap then t.nanos - 1000000000 else t.nanos
  printYear y ++ '-' :: padded 2 m.toNat ++ '-' :: padded 2 d.toNat ++ 'T' ::
    padded 2 (ofDay / 3600) ++ ':' :: padded 2 (ofDay / 60 % 60) ++ ':' :: padded 2 second ++
    printNanos nanos ++ ['Z']

/-- The text of an instant. -/
def Instant.text (t : Instant) : String := String.ofList t.print

namespace Calendar

/-- One to `most` decimal digits. -/
def takeNumber (most : Nat) (cs : List Char) : Option (Nat × List Char) :=
  let ds := (cs.take most).takeWhile Char.isDigit
  if ds.isEmpty then none
  else some (ds.foldl (fun n c => 10 * n + (c.toNat - 48)) 0, cs.drop ds.length)

/-- A number of at most `most` digits that lies between two bounds, after blanks. -/
def takeBounded (most low high : Nat) (cs : List Char) : Option (Nat × List Char) := do
  let (n, rest) ← takeNumber most (trimStart cs)
  if low ≤ n && n ≤ high then some (n, rest) else none

/-- One given character after blanks. -/
def takeChar (c : Char) (cs : List Char) : Option (List Char) :=
  match trimStart cs with
  | d :: rest => if c == d then some rest else none
  | [] => none

/-- A year after blanks: up to four digits, or any number of them after a sign. -/
def takeYear (cs : List Char) : Option (Int × List Char) :=
  match trimStart cs with
  | '-' :: rest => (takeNumber rest.length rest).map fun (n, r) => (-(n : Int), r)
  | '+' :: rest => (takeNumber rest.length rest).map fun (n, r) => ((n : Int), r)
  | cs => (takeNumber 4 cs).map fun (n, r) => ((n : Int), r)

/-- The decimals of a second: nine of them count, further ones are dropped. -/
def takeNanos : List Char → Option (Nat × List Char)
  | '.' :: rest => do
    let ds := (rest.take 9).takeWhile Char.isDigit
    let (n, rest) ← takeNumber 9 rest
    some (n * Nat.pow 10 (9 - ds.length), rest.dropWhile Char.isDigit)
  | cs => some (0, cs)

/-- Exactly two digits. -/
def takeTwo : List Char → Option (Nat × List Char)
  | a :: b :: rest =>
    if a.isDigit && b.isDigit then some (10 * (a.toNat - 48) + (b.toNat - 48), rest) else none
  | _ => none

/-- The offset from UTC in seconds: `Z`, `UTC`, or a sign with hours and minutes. -/
def takeOffset (cs : List Char) : Option (Int × List Char) :=
  if sameAscii (cs.take 3) "UTC".toList then some (0, cs.drop 3)
  else match cs with
    | 'Z' :: rest | 'z' :: rest => some (0, rest)
    | sign :: rest => do
      let factor : Int ←
        if sign == '+' then some 1
        else if sign == '-' || sign == '\u2212' then some (-1) else none
      let (hours, rest) ← takeTwo rest
      let (minutes, rest) ← takeTwo (rest.dropWhile fun c => c == ':' || isBlank c)
      if minutes ≤ 59 then some (factor * (3600 * hours + 60 * minutes), rest) else none
    | [] => none

end Calendar

/-- Reads the tolerant form of an instant. -/
def Instant.parse? (s : String) : Option Instant := do
  let (year, r) ← takeYear s.toList
  let r ← takeChar '-' r
  let (month, r) ← takeBounded 2 1 12 r
  let r ← takeChar '-' r
  let (day, r) ← takeBounded 2 1 31 r
  let r ← match r with
    | 'T' :: r | 't' :: r | ' ' :: r => some r
    | _ => none
  let (hour, r) ← takeBounded 2 0 23 r
  let r ← takeChar ':' r
  let (minute, r) ← takeBounded 2 0 59 r
  let r ← takeChar ':' r
  let (second, r) ← takeBounded 2 0 60 r
  let (nanos, r) ← takeNanos r
  let (offset, r) ← takeOffset (trimStart r)
  if !(trimStart r).isEmpty || 86400 ≤ offset.natAbs || daysInMonth year month < day then none
  else
    let leap := second == 60
    let whole : Int := 3600 * hour + 60 * minute + (if leap then 59 else second)
    let seconds := daysOfDate year month day * 86400 + whole - offset
    if firstSecond ≤ seconds && seconds ≤ lastSecond then
      some ⟨seconds, if leap then nanos + 1000000000 else nanos⟩
    else none

end SignOn
