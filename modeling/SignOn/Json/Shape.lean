import SignOn.Json.Value
/-!
Shapes of JSON values. A `Shape` says what a reader expects and a writer produces; `Shape.Carrier`
is the type of the values of that shape, so that reading and writing are total functions between
bytes and typed values.

A record may be written as an object, with its members in any order and unknown members ignored, or
as an array of its fields in declared order.
-/

namespace SignOn.Json

/-- What a record field is when its member is missing. -/
inductive Absence where
  /-- The member must be there, unless its shape is optional and the record is an object. -/
  | required
  /-- The field takes the shape's empty value. -/
  | empty
  deriving DecidableEq

mutual

/-- A shape of JSON values. -/
inductive Shape where
  /-- A string. -/
  | text
  /-- A string that passes a check. -/
  | checked (ok : String → Bool)
  /-- `true` or `false`. -/
  | flag
  /-- An integer between two bounds, bounds included. -/
  | whole (low high : Int)
  /-- An array of values of one shape. -/
  | list (item : Shape)
  /-- A value or `null`. -/
  | optional (inner : Shape)
  /-- One of some names, written as a string or as an object with that name and `null`. -/
  | choice (names : List String)
  /-- A record. -/
  | record (fields : Fields)
  /-- Any value, at most so many levels deep. -/
  | any (depth : Nat)

/-- The fields of a record, in declared order. -/
inductive Fields where
  | nil
  /-- A field; `quiet` leaves it out of the written object when it holds the empty value. -/
  | cons (name : String) (shape : Shape) (absence : Absence) (quiet : Bool) (rest : Fields)

end

/-- The integers of 64 bits with a sign. -/
def Shape.int64 : Shape := .whole (-9223372036854775808) 9223372036854775807

mutual

/-- The values of a shape. -/
def Shape.Carrier : Shape → Type
  | .text => String
  | .checked ok => { s : String // ok s = true }
  | .flag => Bool
  | .whole _ _ => Int
  | .list item => List item.Carrier
  | .optional inner => Option inner.Carrier
  | .choice names => Fin names.length
  | .record fields => fields.Carrier
  | .any _ => Value

/-- The values of a record: one for each field. -/
def Fields.Carrier : Fields → Type
  | .nil => Unit
  | .cons _ shape _ _ rest => shape.Carrier × rest.Carrier

end

/-- A record that is being read: the fields met so far. -/
def Fields.Slots : Fields → Type
  | .nil => Unit
  | .cons _ shape _ _ rest => Option shape.Carrier × rest.Slots

/-- A record of which nothing has been read. -/
def Fields.noSlots : (fields : Fields) → fields.Slots
  | .nil => ()
  | .cons _ _ _ _ rest => (none, rest.noSlots)

/-- The empty value of a shape, where there is one: the empty text, `false`, zero, the empty list,
nothing. -/
def Shape.empty? : (s : Shape) → Option s.Carrier
  | .text => some ""
  | .flag => some false
  | .whole _ _ => some (0 : Int)
  | .list _ => some []
  | .optional _ => some none
  | .checked _ => none
  | .choice _ => none
  | .record _ => none
  | .any _ => some .null

/-- The value of an optional shape that a missing member stands for. -/
def Shape.missing? : (s : Shape) → Option s.Carrier
  | .optional _ => some none
  | _ => none

end SignOn.Json
