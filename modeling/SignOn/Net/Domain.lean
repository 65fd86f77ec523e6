import SignOn.Net.IdnaTable
import SignOn.Text.Blank
/-!
Internationalized domain names. `toAscii?` maps a domain, checks its labels, and writes every label
that is not ASCII in its encoded form behind `xn--`. Lengths are not limited here, and hyphens may
stand anywhere.

The mapping and the encoding are those of the standard; which characters may stand together is
decided more coarsely. Names are taken to be composed as they come, a joiner stands only behind a
sign that suppresses a vowel, and whatever is neither a mark, a digit, a hyphen nor written from
right to left counts as written from left to right. So some rare names of such scripts fare
otherwise than there. Nothing that is proved of the service rests on this: to it, the check of an
email is a parameter (`Mail.AddressRule`).
-/

namespace SignOn.Net.Idna

open SignOn.Text

/-! ## The mapping -/

/-- What becomes of a run of characters. -/
inductive Fate where
  | refused
  | dropped
  /-- Mapped one by one to the characters from `target` on, every `stride`-th of them. -/
  | shifted (stride target : Nat)
  /-- All mapped to one character. -/
  | merged (target : Nat)
  /-- Mapped to several characters. -/
  | spelled (targets : List Nat)

/-- An entry of the mapping table. -/
structure Entry where
  first : Nat
  count : Nat
  fate : Fate

/-- The number that hexadecimal digits spell. -/
def hexNumber (cs : List Char) : Nat := cs.foldl (fun n c => 16 * n + (hexValue? c).getD 0) 0

/-- Reads one entry. -/
def Entry.read? (cs : List Char) : Option Entry :=
  let first := hexNumber (cs.takeWhile isHexDigit)
  match cs.dropWhile isHexDigit with
  | sign :: rest =>
    match sign, (pieces (· == ',') rest).map hexNumber with
    | '!', [n] => some ⟨first, n, .refused⟩
    | '~', [n] => some ⟨first, n, .dropped⟩
    | '+', [n, t] => some ⟨first, n, .shifted 1 t⟩
    | '*', [n, t] => some ⟨first, n, .shifted 2 t⟩
    | '=', [n, t] => some ⟨first, n, .merged t⟩
    | '>', ts => some ⟨first, 1, .spelled ts⟩
    | _, _ => none
  | [] => none

/-- The mapping table. -/
def entries : Array Entry :=
  ((pieces isBlank mappingText.toList).filterMap fun piece => Entry.read? piece).toArray

/-- What one entry does to a character, if it covers it. -/
def Entry.outcome? (e : Entry) (n : Nat) : Option (Option (List Nat)) :=
  if n < e.first then none
  else
    let i := n - e.first
    match e.fate with
    | .refused => if i < e.count then some none else none
    | .dropped => if i < e.count then some (some []) else none
    | .shifted stride t =>
      if i % stride = 0 && i / stride < e.count then some (some [t + i]) else none
    | .merged t => if i < e.count then some (some [t]) else none
    | .spelled ts => if i = 0 then some (some ts) else none

/-- What a character is mapped to; nothing if it may not occur. -/
def mapChar? (c : Char) : Option (List Char) :=
  if c.toNat < 0x80 then some [lowerAscii c]
  else match entries.findSome? (·.outcome? c.toNat) with
    | some (some ts) => some (ts.map Char.ofNat)
    | some none => none
    | none => some [c]

/-! ## The encoded form -/

/-- The adaptation of the bias after a character has been encoded. -/
def adapt (delta points : Nat) (first : Bool) : Nat :=
  let delta := if first then delta / 700 else delta / 2
  let delta := delta + delta / points
  let rec shrink : Nat → Nat → Nat → Nat
    | 0, k, delta => k + 36 * delta / (delta + 38)
    | fuel + 1, k, delta =>
      if 455 < delta then shrink fuel (k + 36) (delta / 35) else k + 36 * delta / (delta + 38)
  shrink delta 0 delta

/-- The threshold of the digit at position `k`. -/
def threshold (k bias : Nat) : Nat :=
  if k ≤ bias + 1 then 1 else if bias + 26 ≤ k then 26 else k - bias

/-- The digit of a value below 36. -/
def codeDigit (n : Nat) : Char := if n < 26 then Char.ofNat (97 + n) else Char.ofNat (22 + n)

/-- A number in digits of varying base. -/
def encodeDelta (bias : Nat) : Nat → Nat → Nat → List Char
  | 0, _, _ => []
  | fuel + 1, k, q =>
    let t := threshold k bias
    if q < t then [codeDigit q]
    else codeDigit (t + (q - t) % (36 - t)) :: encodeDelta bias fuel (k + 36) ((q - t) / (36 - t))

/-- The state of encoding. -/
structure Encoding where
  delta : Nat
  bias : Nat
  handled : Nat
  output : List Char

/-- Encodes the places of one code point in a label. -/
def encodePoint (basic point : Nat) (label : List Nat) (s : Encoding) : Encoding :=
  label.foldl (fun s c =>
    if c < point then { s with delta := s.delta + 1 }
    else if c = point then
      { delta := 0, bias := adapt s.delta (s.handled + 1) (s.handled == basic),
        handled := s.handled + 1
        output := s.output ++ encodeDelta s.bias (s.delta + 1) 36 s.delta }
    else s) s

/-- Encodes the remaining code points in ascending order. -/
def encodeFrom (basic : Nat) (label : List Nat) : Nat → Nat → Encoding → Encoding
  | 0, _, s => s
  | fuel + 1, n, s =>
    match (label.filter (n ≤ ·)).min? with
    | none => s
    | some m =>
      let s := { s with delta := s.delta + (m - n) * (s.handled + 1) }
      let s := encodePoint basic m label s
      encodeFrom basic label fuel (m + 1) { s with delta := s.delta + 1 }

/-- The encoded form of a label, without `xn--`. -/
def punycode (label : List Char) : List Char :=
  let basic := label.filter (·.toNat < 0x80)
  let points := label.map Char.toNat
  let start := if basic.isEmpty then [] else basic ++ ['-']
  (encodeFrom basic.length points label.length 0x80 ⟨0, 72, basic.length, start⟩).output

/-- The value of a digit. -/
def digitValue? (c : Char) : Option Nat :=
  if 'a' ≤ c && c ≤ 'z' then some (c.toNat - 97)
  else if 'A' ≤ c && c ≤ 'Z' then some (c.toNat - 65)
  else if '0' ≤ c && c ≤ '9' then some (c.toNat - 22)
  else none

/-- Reads a number in digits of varying base. -/
def decodeDelta (bias : Nat) : List Char → Nat → Nat → Nat → Option (Nat × List Char)
  | [], _, _, _ => none
  | c :: cs, k, i, w => do
    let d ← digitValue? c
    let i := i + d * w
    if 0xFFFFFFFF < i then none
    else
      let t := threshold k bias
      if d < t then some (i, cs) else decodeDelta bias cs (k + 36) i (w * (36 - t))

/-- Reads the encoded characters into the label. -/
def decodeFrom : Nat → List Char → Nat → Nat → Nat → List Char → Option (List Char)
  | 0, _, _, _, _, _ => none
  | _ + 1, [], _, _, _, label => some label
  | fuel + 1, cs, n, i, bias, label => do
    let (next, rest) ← decodeDelta bias cs 36 i 1
    let size := label.length + 1
    let n := n + next / size
    let place := next % size
    if 0x10FFFF < n || (0xD800 ≤ n && n ≤ 0xDFFF) then none
    else
      decodeFrom fuel rest n (place + 1) (adapt (next - i) size (i == 0))
        (label.take place ++ Char.ofNat n :: label.drop place)

/-- The label with this encoded form. -/
def ofPunycode? (cs : List Char) : Option (List Char) :=
  let (basic, rest) := (splitAtLast? (· == '-') cs).getD ([], cs)
  if basic.all (·.toNat < 0x80) then decodeFrom (cs.length + 1) rest 0x80 0 72 basic else none

/-! ## Labels -/

/-- A combining mark. -/
def isMark (c : Char) : Bool := markRuns.any fun (a, b) => a ≤ c.toNat && c.toNat ≤ b

/-- The zero-width joiner and non-joiner. -/
def isJoiner (c : Char) : Bool := c.toNat == 0x200C || c.toNat == 0x200D

/-- Every joiner follows a sign that suppresses the vowel of a letter. -/
def joinersFit : List Char → Bool
  | [] => true
  | [c] => !isJoiner c
  | c :: d :: cs =>
    (!isJoiner d || viramas.contains c.toNat) && joinersFit (d :: cs)

/-- A character of a script that is written from right to left. -/
def isRightToLeft (c : Char) : Bool :=
  let n := c.toNat
  !isMark c &&
  ((0x590 ≤ n && n ≤ 0x8FF && !(0x660 ≤ n && n ≤ 0x669) && !(0x6F0 ≤ n && n ≤ 0x6F9)) ||
    (0xFB1D ≤ n && n ≤ 0xFDFF) || (0xFE70 ≤ n && n ≤ 0xFEFF) || (0x10800 ≤ n && n ≤ 0x10FFF) ||
    (0x1E800 ≤ n && n ≤ 0x1EFFF))

/-- An Arabic-Indic digit. -/
def isArabicDigit (c : Char) : Bool := 0x660 ≤ c.toNat && c.toNat ≤ 0x669

/-- A European digit. -/
def isPlainDigit (c : Char) : Bool :=
  ('0' ≤ c && c ≤ '9') || (0x6F0 ≤ c.toNat && c.toNat ≤ 0x6F9)

/-- A letter of a script that is written from left to right. -/
def isLeftToRight (c : Char) : Bool :=
  !isRightToLeft c && !isArabicDigit c && !isPlainDigit c && !isMark c && c != '-'

/-- A label in a domain with right-to-left characters keeps one direction. -/
def keepsDirection (label : List Char) : Bool :=
  let lastLetter := (label.reverse.dropWhile isMark).head?
  match label with
  | [] => true
  | c :: _ =>
    if isRightToLeft c then
      !label.any isLeftToRight &&
      (lastLetter.any fun d => isRightToLeft d || isPlainDigit d || isArabicDigit d) &&
      !(label.any isPlainDigit && label.any isArabicDigit)
    else
      isLeftToRight c && !label.any (fun d => isRightToLeft d || isArabicDigit d) &&
      (lastLetter.any fun d => isLeftToRight d || isPlainDigit d)

/-- A decoded label that may stand in a domain. -/
def isSound (label : List Char) : Bool :=
  !(label.head?.any isMark) && !(label.head?.any isJoiner) && joinersFit label &&
  label.all fun c => mapChar? c == some [c]

/-- The label that a mapped label stands for: an encoded one is decoded. -/
def decodeLabel? (label : List Char) : Option (List Char) :=
  if "xn--".toList.isPrefixOf label then
    match ofPunycode? (label.drop 4) with
    | some decoded =>
      if decoded.all (·.toNat < 0x80) || !isSound decoded then none else some decoded
    | none => none
  else if isSound label then some label else none

/-- The ASCII form of a decoded label. -/
def encodeLabel (label : List Char) : List Char :=
  if label.all (·.toNat < 0x80) then label else "xn--".toList ++ punycode label

/-- Labels between dots. -/
def joinLabels : List (List Char) → List Char
  | [] => []
  | [label] => label
  | label :: rest => label ++ '.' :: joinLabels rest

/-- The ASCII form of a domain, in which no character may be one that `deny` refuses. -/
def toAscii? (deny : Char → Bool) (domain : List Char) : Option (List Char) := do
  let mapped ← domain.mapM mapChar?
  let labels ← (pieces (· == '.') mapped.flatten).mapM decodeLabel?
  let bidirectional := labels.any fun label => label.any fun c => isRightToLeft c || isArabicDigit c
  if bidirectional && !labels.all keepsDirection then none
  else
    let ascii := joinLabels (labels.map encodeLabel)
    if ascii.any deny then none else some ascii

end SignOn.Net.Idna
