import SignOn.Json.Read
import SignOn.Json.Print
/-!
One-time codes. A subject, an email or a phone, has at most one bundle: the codes that were issued
to it within the bundle's lifetime, oldest first, and when the last one was sent.
-/

namespace SignOn

open SignOn.Json

namespace Verification

/-- Who a one-time code is sent to. -/
inductive Subject where
  | email (address : String)
  | phone (number : String)
  deriving DecidableEq, Repr

/-- The text under which the bundle of a subject is kept. -/
def Subject.key : Subject → String
  | .email address => address
  | .phone number => number

/-- The subject as operators see it. -/
def Subject.display : Subject → String
  | .email address => "email:" ++ address
  | .phone number => "phone:" ++ number

/-- The codes issued to one subject. -/
structure Bundle where
  codes : List String := []
  /-- Seconds of the epoch of the last send; zero when nothing was sent. -/
  lastSentAt : Int := 0
  deriving DecidableEq, Repr

namespace Bundle

/-- No further code may be issued. -/
def isFull (b : Bundle) (maxCodes : Nat) : Bool := maxCodes ≤ b.codes.length

/-- The last code was sent less than the interval ago. -/
def isFrequent (b : Bundle) (now interval : Int) : Bool :=
  b.lastSentAt != 0 && now - b.lastSentAt < interval

/-- Adds a code that is sent now. -/
def insert (b : Bundle) (code : String) (now : Int) : Bundle := ⟨b.codes ++ [code], now⟩

/-- Whether the code was issued. -/
def contains (b : Bundle) (code : String) : Bool := b.codes.contains code

/-- The written form. -/
def shape : Shape := .record
  (.cons "codes" (.list .text) .empty false (.cons "last_sent_at" .int64 .empty false .nil))

/-- The bundle that a read value describes. -/
def ofCarrier : shape.Carrier → Bundle
  | (codes, lastSentAt, ()) => ⟨codes, lastSentAt⟩

/-- The value to be written for a bundle. -/
def toCarrier (b : Bundle) : shape.Carrier := (b.codes, b.lastSentAt, ())

/-- The bytes of a bundle. -/
def encode (b : Bundle) : Bytes := shape.encode b.toCarrier

/-- The bundle that bytes describe. -/
def decode (bs : Bytes) : Except Fault Bundle := (shape.decode bs).map ofCarrier

theorem ofCarrier_toCarrier (b : Bundle) : ofCarrier b.toCarrier = b := rfl

end Bundle
end Verification
end SignOn
