import SignOn.Text.Percent
/-!
Queries: the part of a URL after the question mark. A query is a list of fields between ampersands,
each a name and a value around the first equals sign. Reading undoes the escapes and lets a plus
stand for a space; writing escapes every value, so that no value can add or change another field.
-/

namespace SignOn.Http

open SignOn.Text

/-- A field of a query. -/
abbrev Field := String × String

namespace Query

/-- A name or a value as it was meant. -/
def decodePart (cs : List Char) : String :=
  Percent.decodeText (cs.map fun c => if c == '+' then ' ' else c)

/-- The field that a piece spells. Without an equals sign the value is empty. -/
def fieldOf (piece : List Char) : Field :=
  match splitAtFirst? (· == '=') piece with
  | some (name, value) => (decodePart name, decodePart value)
  | none => (decodePart piece, "")

/-- The fields of a query. -/
def parse (query : List Char) : List Field :=
  ((pieces (· == '&') query).filter (!·.isEmpty)).map fieldOf

/-- A field as a piece. -/
def pieceOf (field : Field) : List Char :=
  field.1.toList ++ '=' :: Percent.encodeValue field.2

/-- Pieces between ampersands. -/
def join : List (List Char) → List Char
  | [] => []
  | [piece] => piece
  | piece :: rest => piece ++ '&' :: join rest

/-- The query with some fields. -/
def write (fields : List Field) : List Char := join (fields.map pieceOf)

/-- The name up to the first point or bracket, behind which it names a part of a value. -/
def outerName (name : String) : String :=
  String.ofList (name.toList.takeWhile fun c => c != '.' && c != '[')

/-- A character that stands for itself in a form. -/
def isPlain (c : Char) : Bool :=
  Percent.isAlphanumeric c || c == '*' || c == '-' || c == '.' || c == '_'

/-- A name or a value inside a form. -/
def encodePart (s : String) : List Char :=
  (Percent.encode (fun c => isPlain c || c == ' ') s).map fun c => if c == ' ' then '+' else c

/-- Fields as the body of a form, in which names are escaped as well. -/
def writeForm (fields : List Field) : List Char :=
  join (fields.map fun field => encodePart field.1 ++ '=' :: encodePart field.2)

/-- The value of the first field with a name. -/
def first? (fields : List Field) (name : String) : Option String :=
  (fields.find? fun field => outerName field.1 == name).map (·.2)

end Query

/-- A URL with more fields in its query. -/
def withFields (url : String) (fields : List Field) : String :=
  let joint := if url.toList.contains '?' then '&' else '?'
  String.ofList (url.toList ++ joint :: Query.write fields)

end SignOn.Http
