import SignOn.Text.Utf8
/-!
The lexical layer of JSON, on bytes: blanks, words, numerals, strings, and passing over a value that
nobody asked for.

Reading goes from left to right and stops at the first fault. `early` says that the text ended too
soon, `malformed` that it is not JSON, `mismatch` that it is JSON of another shape than expected. A
value that is only passed over is checked less strictly than one that is read: its strings may hold
any code units and bytes, its numerals may be of any size.
-/

namespace SignOn.Json

/-- Why reading stopped. -/
inductive Fault where
  /-- The text ended inside a value. -/
  | early
  /-- The text is not JSON. -/
  | malformed
  /-- The text is JSON, but not of the expected shape. -/
  | mismatch
  deriving DecidableEq, Repr

/-- Takes a value from the front of the bytes and returns it with what follows. -/
abbrev Reader (α : Type) := Bytes → Except Fault (α × Bytes)

/-! ## Single bytes -/

/-- The byte `"`. -/
def quote : UInt8 := 0x22
/-- The byte `\`. -/
def backslash : UInt8 := 0x5C
/-- The byte `[`. -/
def openBracket : UInt8 := 0x5B
/-- The byte `]`. -/
def closeBracket : UInt8 := 0x5D
/-- The byte `{`. -/
def openBrace : UInt8 := 0x7B
/-- The byte `}`. -/
def closeBrace : UInt8 := 0x7D
/-- The byte `,`. -/
def comma : UInt8 := 0x2C
/-- The byte `:`. -/
def colon : UInt8 := 0x3A
/-- The byte `-`. -/
def minus : UInt8 := 0x2D
/-- The byte `n`, with which `null` begins. -/
def letterN : UInt8 := 0x6E
/-- The byte `t`, with which `true` begins. -/
def letterT : UInt8 := 0x74
/-- The byte `f`, with which `false` begins. -/
def letterF : UInt8 := 0x66
/-- The byte `u`, which introduces a code unit in an escape. -/
def letterU : UInt8 := 0x75

/-- Blank, tab, line feed and carriage return may stand between tokens. -/
def isSpace (b : UInt8) : Bool := b == 0x20 || b == 0x0A || b == 0x0D || b == 0x09

/-- Drops what may stand between tokens. -/
def skipSpace (bs : Bytes) : Bytes := bs.dropWhile isSpace

/-- A decimal digit. -/
def isDigit (b : UInt8) : Bool := 0x30 ≤ b && b ≤ 0x39

/-! ## Words -/

/-- The rest of a word whose first byte is already taken. -/
def restOfWord : Bytes → Bytes → Except Fault Bytes
  | [], bs => .ok bs
  | _ :: _, [] => .error .early
  | w :: ws, b :: bs => if w == b then restOfWord ws bs else .error .malformed

/-- What follows the `n` of `null`. -/
def nullTail : Bytes := [0x75, 0x6C, 0x6C]
/-- What follows the `t` of `true`. -/
def trueTail : Bytes := [0x72, 0x75, 0x65]
/-- What follows the `f` of `false`. -/
def falseTail : Bytes := [0x61, 0x6C, 0x73, 0x65]

/-! ## Numerals -/

/-- A numeral as it is written. -/
structure Numeral where
  /-- Whether a minus stands in front. -/
  negative : Bool
  /-- The digits before the point, as a number. -/
  whole : Nat
  /-- The digits after the point. -/
  fraction : Bytes
  /-- Whether there is a point or an exponent. -/
  isReal : Bool
  /-- The power of ten by which the numeral is multiplied. -/
  exponent : Int

/-- The number that decimal digits spell, continuing from `n`. -/
def digitsValue (n : Nat) (digits : Bytes) : Nat :=
  digits.foldl (fun n b => 10 * n + (b.toNat - 0x30)) n

/-- At least one digit; `atEnd` is the fault of a text that ends here. -/
def someDigits (atEnd : Fault) (bs : Bytes) : Except Fault (Bytes × Bytes) :=
  match bs.takeWhile isDigit, bs.dropWhile isDigit with
  | [], [] => .error atEnd
  | [], _ :: _ => .error .malformed
  | digits, rest => .ok (digits, rest)

/-- The digits before the point: a zero stands alone. -/
def wholeDigits (atEnd : Fault) (bs : Bytes) : Except Fault (Nat × Bytes) :=
  match someDigits atEnd bs with
  | .error f => .error f
  | .ok (0x30 :: _ :: _, _) => .error .malformed
  | .ok (digits, rest) => .ok (digitsValue 0 digits, rest)

/-- An optional exponent. -/
def exponentPart (atEnd : Fault) : Bytes → Except Fault (Option Int × Bytes)
  | [] => .ok (none, [])
  | b :: rest =>
    if b == 0x65 || b == 0x45 then
      match rest with
      | 0x2B :: rest => (someDigits atEnd rest).map fun (ds, r) => (some (digitsValue 0 ds), r)
      | 0x2D :: rest => (someDigits atEnd rest).map fun (ds, r) => (some (-digitsValue 0 ds), r)
      | rest => (someDigits atEnd rest).map fun (ds, r) => (some (digitsValue 0 ds), r)
    else .ok (none, b :: rest)

/-- A numeral after its sign. -/
def numeralBody (atEnd : Fault) (negative : Bool) (bs : Bytes) :
    Except Fault (Numeral × Bytes) := do
  let (whole, rest) ← wholeDigits atEnd bs
  match rest with
  | 0x2E :: rest =>
    let (fraction, rest) ← someDigits atEnd rest
    let (exponent, rest) ← exponentPart atEnd rest
    return (⟨negative, whole, fraction, true, exponent.getD 0⟩, rest)
  | rest =>
    let (exponent, rest) ← exponentPart atEnd rest
    return (⟨negative, whole, [], exponent.isSome, exponent.getD 0⟩, rest)

/-- A numeral, sign included. -/
def numeral (atEnd : Fault) : Bytes → Except Fault (Numeral × Bytes)
  | 0x2D :: bs => numeralBody atEnd true bs
  | bs => numeralBody atEnd false bs

/-- The bound from which a number no longer rounds to a double: `2^1024 - 2^970`. -/
def doubleBound : Nat := Nat.pow 2 1024 - Nat.pow 2 970

/-- Whether the number is too large for a double. -/
def Numeral.overflows (n : Numeral) : Bool :=
  let digits := digitsValue n.whole n.fraction
  let power := n.exponent - n.fraction.length
  if digits = 0 then false
  else if power ≤ 0 then
    if digits.log2 < (-power).toNat then false else doubleBound ≤ digits / Nat.pow 10 (-power).toNat
  else if power > 400 then true
  else doubleBound ≤ digits * Nat.pow 10 power.toNat

/-- The integer that a numeral without point and exponent denotes; a negative zero is none. -/
def Numeral.integer? (n : Numeral) : Option Int :=
  if n.isReal then none
  else if n.negative then (if n.whole = 0 then none else some (-n.whole))
  else some n.whole

/-! ## Strings -/

/-- The value of a hexadecimal digit. -/
def hexByte? (b : UInt8) : Option Nat :=
  if 0x30 ≤ b && b ≤ 0x39 then some (b.toNat - 0x30)
  else if 0x61 ≤ b && b ≤ 0x66 then some (b.toNat - 0x57)
  else if 0x41 ≤ b && b ≤ 0x46 then some (b.toNat - 0x37)
  else none

/-- The code unit that four hexadecimal digits spell. -/
def codeUnit? (a b c d : UInt8) : Option Nat := do
  let a ← hexByte? a
  let b ← hexByte? b
  let c ← hexByte? c
  let d ← hexByte? d
  return 4096 * a + 256 * b + 16 * c + d

/-- The byte that a one-letter escape stands for. -/
def escaped? (b : UInt8) : Option UInt8 :=
  match b with
  | 0x22 => some 0x22
  | 0x5C => some 0x5C
  | 0x2F => some 0x2F
  | 0x62 => some 0x08
  | 0x66 => some 0x0C
  | 0x6E => some 0x0A
  | 0x72 => some 0x0D
  | 0x74 => some 0x09
  | _ => none

/-- The first half of a surrogate pair. -/
def isHighHalf (n : Nat) : Bool := 0xD800 ≤ n && n ≤ 0xDBFF

/-- The second half of a surrogate pair. -/
def isLowHalf (n : Nat) : Bool := 0xDC00 ≤ n && n ≤ 0xDFFF

/-- The UTF-8 form of a code point. -/
def codePointBytes (n : Nat) : Bytes := Text.utf8 (String.singleton (Char.ofNat n))

/-- Puts bytes in front of the value that was read. -/
def withFront (front : Bytes) : Except Fault (Bytes × Bytes) → Except Fault (Bytes × Bytes)
  | .ok (s, rest) => .ok (front ++ s, rest)
  | .error f => .error f

/-- The bytes of a string, from behind its opening quote. Code units of a surrogate pair must come
together. -/
def stringBody : Reader Bytes
  | [] => .error .early
  | b :: rest =>
    if b == quote then .ok ([], rest)
    else if b < 0x20 then .error .malformed
    else if b != backslash then withFront [b] (stringBody rest)
    else match rest with
      | [] => .error .early
      | e :: rest =>
        if e != letterU then
          match escaped? e with
          | none => .error .malformed
          | some d => withFront [d] (stringBody rest)
        else match rest with
          | h1 :: h2 :: h3 :: h4 :: rest =>
            match codeUnit? h1 h2 h3 h4 with
            | none => .error .malformed
            | some n =>
              if isLowHalf n then .error .malformed
              else if !isHighHalf n then withFront (codePointBytes n) (stringBody rest)
              else match rest with
                | [] => .error .early
                | x :: rest =>
                  if x != backslash then .error .malformed
                  else match rest with
                    | [] => .error .early
                    | y :: rest =>
                      if y != letterU then .error .malformed
                      else match rest with
                        | l1 :: l2 :: l3 :: l4 :: rest =>
                          match codeUnit? l1 l2 l3 l4 with
                          | none => .error .malformed
                          | some m =>
                            if isLowHalf m then
                              withFront
                                (codePointBytes (0x10000 + 1024 * (n - 0xD800) + (m - 0xDC00)))
                                (stringBody rest)
                            else .error .malformed
                        | _ => .error .early
          | _ => .error .early

/-- A string after its opening quote, as text. -/
def stringText : Reader String := fun bs =>
  match stringBody bs with
  | .error f => .error f
  | .ok (s, rest) => match Text.ofUtf8? s with
    | some s => .ok (s, rest)
    | none => .error .malformed

/-- Passes over a string after its opening quote. -/
def skipString : Bytes → Except Fault Bytes
  | [] => .error .early
  | b :: rest =>
    if b == quote then .ok rest
    else if b < 0x20 then .error .malformed
    else if b != backslash then skipString rest
    else match rest with
      | [] => .error .early
      | e :: rest =>
        if e != letterU then (if (escaped? e).isSome then skipString rest else .error .malformed)
        else match rest with
          | h1 :: h2 :: h3 :: h4 :: rest =>
            if (codeUnit? h1 h2 h3 h4).isSome then skipString rest else .error .malformed
          | _ => .error .early

/-! ## Passing over a value -/

/-- The colon between a name and its value. -/
def afterColon (bs : Bytes) : Except Fault Bytes :=
  match skipSpace bs with
  | [] => .error .early
  | b :: rest => if b == colon then .ok rest else .error .malformed

mutual

/-- Passes over one value; `fuel` bounds the number of values and members in it. -/
def skipValueIn : Nat → Bytes → Except Fault Bytes
  | 0, _ => .error .early
  | fuel + 1, bs =>
    match skipSpace bs with
    | [] => .error .early
    | b :: rest =>
      if b == letterN then restOfWord nullTail rest
      else if b == letterT then restOfWord trueTail rest
      else if b == letterF then restOfWord falseTail rest
      else if b == minus || isDigit b then (numeral .malformed (b :: rest)).map (·.2)
      else if b == quote then skipString rest
      else if b == openBracket then skipItems fuel true rest
      else if b == openBrace then skipMembers fuel true rest
      else .error .malformed

/-- Passes over the rest of an array. -/
def skipItems : Nat → Bool → Bytes → Except Fault Bytes
  | 0, _, _ => .error .early
  | fuel + 1, first, bs =>
    match skipSpace bs with
    | [] => .error .early
    | b :: rest =>
      if b == closeBracket then .ok rest
      else if first then (skipValueIn fuel (b :: rest)).bind (skipItems fuel false)
      else if b == comma then (skipValueIn fuel rest).bind (skipItems fuel false)
      else .error .malformed

/-- Passes over the rest of an object. -/
def skipMembers : Nat → Bool → Bytes → Except Fault Bytes
  | 0, _, _ => .error .early
  | fuel + 1, first, bs =>
    match skipSpace bs with
    | [] => .error .early
    | b :: rest =>
      if b == closeBrace then .ok rest
      else if first then skipMember fuel (b :: rest)
      else if b == comma then skipMember fuel rest
      else .error .malformed

/-- Passes over one member and what follows it in the object. -/
def skipMember : Nat → Bytes → Except Fault Bytes
  | 0, _ => .error .early
  | fuel + 1, bs =>
    match skipSpace bs with
    | [] => .error .early
    | b :: rest =>
      if b == quote then do
        let rest ← skipString rest
        let rest ← afterColon rest
        let rest ← skipValueIn fuel rest
        skipMembers fuel false rest
      else .error .malformed

end

/-- Passes over one value. Every recursive call is preceded by a byte, or by two calls that stay
behind the same byte, so three units of fuel for each byte suffice. -/
def skipValue (bs : Bytes) : Except Fault Bytes := skipValueIn (3 * bs.length + 3) bs

/-- The fault of a value whose kind is not the expected one: what can be told from its first token.
-/
def refusal : Bytes → Fault
  | [] => .early
  | b :: rest =>
    let told : Except Fault Unit :=
      if b == letterN then (restOfWord nullTail rest).map fun _ => ()
      else if b == letterT then (restOfWord trueTail rest).map fun _ => ()
      else if b == letterF then (restOfWord falseTail rest).map fun _ => ()
      else if b == minus || isDigit b then
        match numeral .early (b :: rest) with
        | .error f => .error f
        | .ok (n, _) => if n.overflows then .error .malformed else .ok ()
      else if b == quote then (stringText rest).map fun _ => ()
      else if b == openBracket || b == openBrace then .ok ()
      else .error .malformed
    match told with
    | .ok () => .mismatch
    | .error f => f

end SignOn.Json
