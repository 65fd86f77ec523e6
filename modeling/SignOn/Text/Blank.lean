/-!
Blank characters: those with the Unicode property `White_Space`. `trim` drops them from both ends
of a text, `trimEnd` and `trimStart` from one.
-/

namespace SignOn.Text

/-- The Unicode property `White_Space`. -/
def isBlank (c : Char) : Bool :=
  let n := c.toNat
  (0x9 ≤ n && n ≤ 0xD) || n == 0x20 || n == 0x85 || n == 0xA0 || n == 0x1680 ||
  (0x2000 ≤ n && n ≤ 0x200A) || n == 0x2028 || n == 0x2029 || n == 0x202F || n == 0x205F ||
  n == 0x3000

/-- Drops blanks from the front. -/
def trimStart (cs : List Char) : List Char := cs.dropWhile isBlank

/-- Drops blanks from the back. -/
def trimEnd (cs : List Char) : List Char := (cs.reverse.dropWhile isBlank).reverse

/-- Drops blanks from both ends. -/
def trim (cs : List Char) : List Char := trimEnd (trimStart cs)

/-- `trim` on a string. -/
def trimmed (s : String) : String := String.ofList (trim s.toList)

/-- ASCII lower case of one character; other characters stay as they are. -/
def lowerAscii (c : Char) : Char := if 'A' ≤ c && c ≤ 'Z' then Char.ofNat (c.toNat + 32) else c

/-- Equality up to the case of ASCII letters. -/
def sameAscii (a b : List Char) : Bool := a.map lowerAscii == b.map lowerAscii

/-- An ASCII hexadecimal digit, of either case. -/
def isHexDigit (c : Char) : Bool :=
  ('0' ≤ c && c ≤ '9') || ('a' ≤ c && c ≤ 'f') || ('A' ≤ c && c ≤ 'F')

/-- The value of a hexadecimal digit. -/
def hexValue? (c : Char) : Option Nat :=
  if '0' ≤ c && c ≤ '9' then some (c.toNat - 48)
  else if 'a' ≤ c && c ≤ 'f' then some (c.toNat - 87)
  else if 'A' ≤ c && c ≤ 'F' then some (c.toNat - 55)
  else none

/-- Whether `part` occurs in `cs` as a run of neighbouring characters. -/
def occursIn (part : List Char) : List Char → Bool
  | [] => part.isEmpty
  | c :: cs => part.isPrefixOf (c :: cs) || occursIn part cs

/-- Splits at the first character that satisfies `p`, which belongs to neither part. -/
def splitAtFirst? (p : Char → Bool) : List Char → Option (List Char × List Char)
  | [] => none
  | c :: cs => if p c then some ([], cs) else (splitAtFirst? p cs).map fun (a, b) => (c :: a, b)

/-- Splits at the last character that satisfies `p`, which belongs to neither part. -/
def splitAtLast? (p : Char → Bool) (cs : List Char) : Option (List Char × List Char) :=
  (splitAtFirst? p cs.reverse).map fun (a, b) => (b.reverse, a.reverse)

theorem splitAtFirst?_eq_none_iff {p : Char → Bool} {cs : List Char} :
    splitAtFirst? p cs = none ↔ ∀ c ∈ cs, p c = false := by
  induction cs with
  | nil => simp [splitAtFirst?]
  | cons c cs ih => cases hc : p c <;> simp [splitAtFirst?, hc, ih]

/-- Where a text is split, there is a character to split it at. -/
theorem any_of_splitAtLast? {p : Char → Bool} {cs : List Char} {parts : List Char × List Char}
    (h : splitAtLast? p cs = some parts) : ∃ c ∈ cs, p c = true := by
  refine Classical.byContradiction fun hnone => ?_
  have hreverse : splitAtFirst? p cs.reverse = none :=
    splitAtFirst?_eq_none_iff.2 fun c hc =>
      Bool.eq_false_iff.2 fun hp => hnone ⟨c, List.mem_reverse.1 hc, hp⟩
  rw [splitAtLast?, hreverse] at h
  cases h

/-- The pieces between the characters that satisfy `p`; one more than there are such characters. -/
def pieces (p : Char → Bool) : List Char → List (List Char)
  | [] => [[]]
  | c :: cs =>
    if p c then [] :: pieces p cs
    else match pieces p cs with
      | [] => [[c]]
      | first :: rest => (c :: first) :: rest

end SignOn.Text
