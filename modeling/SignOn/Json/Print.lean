import SignOn.Json.Shape
import SignOn.Text.Number
/-!
Writing values as JSON, without blanks: quotes, backslashes and control characters of a string are
escaped, everything else stands for itself; records become objects in declared order.
-/

namespace SignOn.Json

/-- The text between the items, separated by commas. -/
def commaSeparated : List (List Char) → List Char
  | [] => []
  | [item] => item
  | item :: rest => item ++ ',' :: commaSeparated rest

/-- One character inside a string. -/
def escapeChar (c : Char) : List Char :=
  if c = '"' then ['\\', '"']
  else if c = '\\' then ['\\', '\\']
  else if c.toNat = 0x08 then ['\\', 'b']
  else if c.toNat = 0x0C then ['\\', 'f']
  else if c.toNat = 0x0A then ['\\', 'n']
  else if c.toNat = 0x0D then ['\\', 'r']
  else if c.toNat = 0x09 then ['\\', 't']
  else if c.toNat < 0x20 then
    ['\\', 'u', '0', '0', Text.hexDigit (c.toNat / 16), Text.hexDigit (c.toNat % 16)]
  else [c]

/-- A string in quotes. -/
def printText (s : String) : List Char := '"' :: s.toList.flatMap escapeChar ++ ['"']

/-- An integer in decimal. -/
def printWhole (n : Int) : List Char := Text.decimal n

/-- `true` or `false`. -/
def printFlag (b : Bool) : List Char := if b then "true".toList else "false".toList

/-- The word `null`. -/
def printNull : List Char := "null".toList

mutual

/-- A JSON tree. Numbers that are not integers do not keep their digits, so they become zero. -/
def Value.print : Value → List Char
  | .null => printNull
  | .bool b => printFlag b
  | .integer n => printWhole n
  | .real => ['0']
  | .text s => printText s
  | .list items => '[' :: commaSeparated (printAll items) ++ [']']
  | .object members => '{' :: commaSeparated (printMembers members) ++ ['}']

/-- The items of an array. -/
def printAll : List Value → List (List Char)
  | [] => []
  | v :: vs => v.print :: printAll vs

/-- The members of an object. -/
def printMembers : List (String × Value) → List (List Char)
  | [] => []
  | (name, v) :: ms => (printText name ++ ':' :: v.print) :: printMembers ms

end

/-- Whether a value of the shape is nothing. -/
def Shape.isNothing : (s : Shape) → s.Carrier → Bool
  | .optional _, none => true
  | _, _ => false

mutual

/-- Writes a value of the shape. -/
def Shape.print : (s : Shape) → s.Carrier → List Char
  | .text, s => printText s
  | .checked _, s => printText s.1
  | .flag, b => printFlag b
  | .whole _ _, n => printWhole n
  | .list item, vs => '[' :: commaSeparated (vs.map item.print) ++ [']']
  | .optional _, none => printNull
  | .optional inner, some v => inner.print v
  | .choice names, i => printText (names.get i)
  | .any _, v => v.print
  | .record fields, v => '{' :: commaSeparated (fields.printMembers v) ++ ['}']

/-- Writes the members of a record. -/
def Fields.printMembers : (fields : Fields) → fields.Carrier → List (List Char)
  | .nil, () => []
  | .cons name shape _ quiet rest, (v, vs) =>
    if quiet && shape.isNothing v then rest.printMembers vs
    else (printText name ++ ':' :: shape.print v) :: rest.printMembers vs

end

/-- The written form of a value. -/
def Shape.encodeText (s : Shape) (v : s.Carrier) : String := String.ofList (s.print v)

/-- The written form of a value, as bytes. -/
def Shape.encode (s : Shape) (v : s.Carrier) : Bytes := Text.utf8 (s.encodeText v)

end SignOn.Json
