/-!
Integers of 64 bits as text: an optional sign and ASCII digits. They are written without a plus and
without zeros in front, and read with both.
-/

namespace SignOn.Text

/-- The number that digits spell. -/
def natural? (cs : List Char) : Option Nat :=
  if cs.isEmpty || !cs.all (fun c => '0' ≤ c && c ≤ '9') then none
  else some (cs.foldl (fun n c => 10 * n + (c.toNat - 48)) 0)

/-- A number, if 64 bits with a sign hold it. -/
def inInt64? (n : Int) : Option Int :=
  if -9223372036854775808 ≤ n && n ≤ 9223372036854775807 then some n else none

/-- The integer that a text spells. -/
def int64? : List Char → Option Int
  | '-' :: cs => (natural? cs).bind fun n => inInt64? (-(n : Int))
  | '+' :: cs => (natural? cs).bind fun n => inInt64? n
  | cs => (natural? cs).bind fun n => inInt64? n

/-- An integer in decimal. -/
def decimal (n : Int) : List Char :=
  if n < 0 then '-' :: Nat.toDigits 10 n.natAbs else Nat.toDigits 10 n.natAbs

end SignOn.Text
