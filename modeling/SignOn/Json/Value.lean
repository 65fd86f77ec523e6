import SignOn.Json.Scan
/-!
JSON trees, for the few places where a value of any shape is kept. Reading one is strict, and limits
how deep arrays and objects may be nested.
-/

namespace SignOn.Json

/-- A JSON value. Numbers keep only what a later check can ask for. -/
inductive Value where
  | null
  | bool (b : Bool)
  | integer (n : Int)
  | real
  | text (s : String)
  | list (items : List Value)
  | object (members : List (String × Value))

namespace Value

/-- The text of a string value. -/
def text? : Value → Option String
  | .text s => some s
  | _ => none

/-- The items of an array. -/
def items? : Value → Option (List Value)
  | .list vs => some vs
  | _ => none

/-- The members of an object. -/
def members? : Value → Option (List (String × Value))
  | .object ms => some ms
  | _ => none

/-- The value of the first member with this name. -/
def get? (v : Value) (name : String) : Option Value :=
  v.members?.bind fun ms => (ms.find? (·.1 == name)).map (·.2)

end Value

mutual

/-- Reads one value; at most `depth` arrays and objects may enclose one another. -/
def readValueIn : Nat → Nat → Reader Value
  | 0, _, _ => .error .early
  | fuel + 1, depth, bs =>
    match skipSpace bs with
    | [] => .error .early
    | b :: rest =>
      if b == letterN then (restOfWord nullTail rest).map fun r => (.null, r)
      else if b == letterT then (restOfWord trueTail rest).map fun r => (.bool true, r)
      else if b == letterF then (restOfWord falseTail rest).map fun r => (.bool false, r)
      else if b == minus || isDigit b then do
        let (n, r) ← numeral .early (b :: rest)
        if n.overflows then .error .malformed
        else match n.integer? with
          | some i => return (.integer i, r)
          | none => return (.real, r)
      else if b == quote then (stringText rest).map fun (s, r) => (.text s, r)
      else if b == openBracket then
        if depth = 0 then .error .malformed
        else (readItemsIn fuel (depth - 1) true rest).map fun (vs, r) => (.list vs, r)
      else if b == openBrace then
        if depth = 0 then .error .malformed
        else (readMembersIn fuel (depth - 1) true rest).map fun (ms, r) => (.object ms, r)
      else .error .malformed

/-- Reads the rest of an array. -/
def readItemsIn : Nat → Nat → Bool → Reader (List Value)
  | 0, _, _, _ => .error .early
  | fuel + 1, depth, first, bs =>
    match skipSpace bs with
    | [] => .error .early
    | b :: rest =>
      if b == closeBracket then .ok ([], rest)
      else if !first && b != comma then .error .malformed
      else do
        let (v, r) ← readValueIn fuel depth (if first then b :: rest else rest)
        let (vs, r) ← readItemsIn fuel depth false r
        return (v :: vs, r)

/-- Reads the rest of an object. -/
def readMembersIn : Nat → Nat → Bool → Reader (List (String × Value))
  | 0, _, _, _ => .error .early
  | fuel + 1, depth, first, bs =>
    match skipSpace bs with
    | [] => .error .early
    | b :: rest =>
      if b == closeBrace then .ok ([], rest)
      else if !first && b != comma then .error .malformed
      else match skipSpace (if first then b :: rest else rest) with
        | [] => .error .early
        | q :: rest =>
          if q != quote then .error .malformed
          else do
            let (name, r) ← stringText rest
            let r ← afterColon r
            let (v, r) ← readValueIn fuel depth r
            let (ms, r) ← readMembersIn fuel depth false r
            return ((name, v) :: ms, r)

end

/-- Reads one value of any shape, at most `depth` levels deep. -/
def readValue (depth : Nat) : Reader Value := fun bs => readValueIn (2 * bs.length + 2) depth bs

end SignOn.Json
