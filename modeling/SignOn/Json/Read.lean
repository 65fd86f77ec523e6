import SignOn.Json.Shape
/-!
Reading a JSON text into a shape. The first fault from the left decides: a member with a wrong
value is a `mismatch` even if the text breaks off later, and a broken text is `malformed` even if a
required member would have been missing.
-/

namespace SignOn.Json

/-! ## Scalars -/

/-- Reads a string. -/
def readText : Reader String := fun bs =>
  match skipSpace bs with
  | [] => .error .early
  | b :: rest => if b == quote then stringText rest else .error (refusal (b :: rest))

/-- Reads a string that passes a check. -/
def readChecked (ok : String → Bool) : Reader { s : String // ok s = true } := fun bs =>
  match readText bs with
  | .error f => .error f
  | .ok (s, rest) => if h : ok s = true then .ok (⟨s, h⟩, rest) else .error .mismatch

/-- Reads `true` or `false`. -/
def readFlag : Reader Bool := fun bs =>
  match skipSpace bs with
  | [] => .error .early
  | b :: rest =>
    if b == letterT then (restOfWord trueTail rest).map fun r => (true, r)
    else if b == letterF then (restOfWord falseTail rest).map fun r => (false, r)
    else .error (refusal (b :: rest))

/-- Reads an integer between two bounds. -/
def readWhole (low high : Int) : Reader Int := fun bs =>
  match skipSpace bs with
  | [] => .error .early
  | b :: rest =>
    if b == minus || isDigit b then
      match numeral .early (b :: rest) with
      | .error f => .error f
      | .ok (n, r) =>
        if n.overflows then .error .malformed
        else match n.integer? with
          | some i => if low ≤ i && i ≤ high then .ok (i, r) else .error .mismatch
          | none => .error .mismatch
    else .error (refusal (b :: rest))

/-- Reads `null`. -/
def readNull : Reader Unit := fun bs =>
  match skipSpace bs with
  | [] => .error .early
  | b :: rest =>
    if b == letterN then (restOfWord nullTail rest).map fun r => ((), r)
    else .error (refusal (b :: rest))

/-- Reads `null` as nothing and any other value through `item`. -/
def readOptional {α : Type} (item : Reader α) : Reader (Option α) := fun bs =>
  match skipSpace bs with
  | [] => .error .early
  | b :: rest =>
    if b == letterN then (restOfWord nullTail rest).map fun r => (none, r)
    else (item (b :: rest)).map fun (a, r) => (some a, r)

/-- The place of a name among the names. -/
def choiceOf? (names : List String) (name : String) : Option (Fin names.length) :=
  names.findFinIdx? (· == name)

/-- Reads one of some names. -/
def readChoice (names : List String) : Reader (Fin names.length) := fun bs =>
  match skipSpace bs with
  | [] => .error .early
  | b :: rest =>
    if b == quote then
      match stringText rest with
      | .error f => .error f
      | .ok (name, r) => match choiceOf? names name with
        | some i => .ok (i, r)
        | none => .error .mismatch
    else if b == openBrace then do
      let (name, r) ← readText rest
      match choiceOf? names name with
      | none => .error .mismatch
      | some i =>
        let r ← afterColon r
        let ((), r) ← readNull r
        match skipSpace r with
        | [] => .error .early
        | c :: r => if c == closeBrace then .ok (i, r) else .error .malformed
    else .error .malformed

/-! ## Arrays and objects -/

/-- Moves to the next item of an array: nothing at its end, else the bytes where the item begins. -/
def nextItem (first : Bool) (bs : Bytes) : Except Fault (Option Bytes) :=
  match skipSpace bs with
  | [] => .error .early
  | b :: rest =>
    if b == closeBracket then .ok none
    else if first then .ok (some (b :: rest))
    else if b == comma then
      match skipSpace rest with
      | [] => .error .early
      | c :: rest => if c == closeBracket then .error .malformed else .ok (some (c :: rest))
    else .error .malformed

/-- The end of an array. -/
def endOfArray (bs : Bytes) : Except Fault Bytes :=
  match skipSpace bs with
  | [] => .error .early
  | b :: rest => if b == closeBracket then .ok rest else .error .malformed

/-- Reads the items of an array; `fuel` bounds their number. -/
def readItems {α : Type} (item : Reader α) : Nat → Bool → Reader (List α)
  | 0, _, _ => .error .early
  | fuel + 1, first, bs =>
    match nextItem first bs with
    | .error f => .error f
    | .ok none => (endOfArray bs).map fun r => ([], r)
    | .ok (some bs) =>
      match item bs with
      | .error f => .error f
      | .ok (a, r) => (readItems item fuel false r).map fun (as, r) => (a :: as, r)

/-- Reads an array of items of one kind. -/
def readList {α : Type} (item : Reader α) : Reader (List α) := fun bs =>
  match skipSpace bs with
  | [] => .error .early
  | b :: rest =>
    if b == openBracket then readItems item (rest.length + 1) true rest
    else .error (refusal (b :: rest))

/-- Moves to the next member of an object: nothing at its end, else the bytes behind the opening
quote of the name. -/
def nextMember (first : Bool) (bs : Bytes) : Except Fault (Option Bytes) :=
  match skipSpace bs with
  | [] => .error .early
  | b :: rest =>
    if b == closeBrace then .ok none
    else if first then (if b == quote then .ok (some rest) else .error .malformed)
    else if b == comma then
      match skipSpace rest with
      | [] => .error .early
      | c :: rest => if c == quote then .ok (some rest) else .error .malformed
    else .error .malformed

/-- The end of an object. -/
def endOfObject (bs : Bytes) : Except Fault Bytes :=
  match skipSpace bs with
  | [] => .error .early
  | b :: rest => if b == closeBrace then .ok rest else .error .malformed

/-- Reads the members of an object into a state; `member` gets the name, the state and the bytes
from the colon on. It ends before the closing brace. -/
def readMembers {σ : Type} (member : String → σ → Reader σ) : Nat → Bool → σ → Reader σ
  | 0, _, _, _ => .error .early
  | fuel + 1, first, state, bs =>
    match nextMember first bs with
    | .error f => .error f
    | .ok none => .ok (state, bs)
    | .ok (some bs) =>
      match stringText bs with
      | .error f => .error f
      | .ok (name, r) => match member name state r with
        | .error f => .error f
        | .ok (state, r) => readMembers member fuel false state r

/-- Passes over the value of a member that nobody asked for. -/
def skipMemberValue (bs : Bytes) : Except Fault Bytes :=
  (afterColon bs).bind skipValue

/-! ## Shapes -/

/-- The record that the met fields make up, once the object has ended. -/
def Fields.complete : (fields : Fields) → fields.Slots → Except Fault fields.Carrier
  | .nil, () => .ok ()
  | .cons _ shape absence _ rest, (slot, slots) =>
    let given : Option shape.Carrier := match slot with
      | some v => some v
      | none => match absence with
        | .empty => shape.empty?
        | .required => shape.missing?
    match given with
    | none => .error .mismatch
    | some v => (rest.complete slots).map fun vs => (v, vs)

mutual

/-- Reads a value of the shape. -/
def Shape.read : (s : Shape) → Reader s.Carrier
  | .text => readText
  | .checked ok => readChecked ok
  | .flag => readFlag
  | .whole low high => readWhole low high
  | .list item => readList item.read
  | .optional inner => readOptional inner.read
  | .choice names => readChoice names
  | .any depth => readValue depth
  | .record fields => fun bs =>
    match skipSpace bs with
    | [] => .error .early
    | b :: rest =>
      if b == openBracket then
        match fields.readInOrder true rest with
        | .error f => .error f
        | .ok (v, r) => (endOfArray r).map fun r => (v, r)
      else if b == openBrace then
        match readMembers fields.readMember (rest.length + 1) true fields.noSlots rest with
        | .error f => .error f
        | .ok (slots, r) => match fields.complete slots with
          | .error f => .error f
          | .ok v => (endOfObject r).map fun r => (v, r)
      else .error (refusal (b :: rest))

/-- Reads the fields of a record from the items of an array. -/
def Fields.readInOrder : (fields : Fields) → Bool → Reader fields.Carrier
  | .nil, _, bs => .ok ((), bs)
  | .cons _ shape absence _ rest, first, bs =>
    match nextItem first bs with
    | .error f => .error f
    | .ok (some bs) => match shape.read bs with
      | .error f => .error f
      | .ok (v, r) => (rest.readInOrder false r).map fun (vs, r) => ((v, vs), r)
    | .ok none => match absence, shape.empty? with
      | .empty, some v => (rest.readInOrder first bs).map fun (vs, r) => ((v, vs), r)
      | _, _ => .error .mismatch

/-- Reads one member of a record into its slot. A field that is met twice is a mismatch; a member
that names no field is passed over. -/
def Fields.readMember : (fields : Fields) → String → fields.Slots → Reader fields.Slots
  | .nil, _, (), bs => (skipMemberValue bs).map fun r => ((), r)
  | .cons field shape _ _ rest, name, (slot, slots), bs =>
    if name == field then
      if slot.isSome then .error .mismatch
      else match afterColon bs with
        | .error f => .error f
        | .ok bs => (shape.read bs).map fun (v, r) => ((some v, slots), r)
    else (rest.readMember name slots bs).map fun (slots, r) => ((slot, slots), r)

end

/-- Nothing but space may follow the value. -/
def atEnd (bs : Bytes) : Except Fault Unit :=
  match skipSpace bs with
  | [] => .ok ()
  | _ :: _ => .error .malformed

/-- Reads bytes that hold exactly one value. -/
def wholly {α : Type} (reader : Reader α) (bs : Bytes) : Except Fault α :=
  match reader bs with
  | .error f => .error f
  | .ok (v, rest) => (atEnd rest).map fun () => v

/-- Decodes bytes that hold exactly one value of the shape. -/
def Shape.decode (s : Shape) (bs : Bytes) : Except Fault s.Carrier := wholly s.read bs

/-- Decodes a text that holds exactly one value of the shape. -/
def Shape.decodeText (s : Shape) (text : String) : Except Fault s.Carrier :=
  s.decode (Text.utf8 text)

end SignOn.Json
