import SignOn.Flow.Basic
import SignOn.Verification.Bundle
/-!
The bundles of one-time codes. A bundle is read together with its bytes, and written only where
those bytes still stand.
-/

namespace SignOn.Keyspace.Bundles

open SignOn.Verification

/-- Where the bundle of a subject is kept. -/
def key (subject : Subject) : String := "verify." ++ subject.key

/-- A bundle as it was read. -/
structure Loaded where
  /-- The bytes, if there were any. -/
  raw : Option Bytes := none
  bundle : Bundle := {}
  deriving DecidableEq, Repr

/-- The bundle that a value describes; no value stands for the empty bundle. -/
def ofValue (value : Option Bytes) : Except Failure Loaded :=
  match value with
  | none => .ok {}
  | some bytes => match Bundle.decode bytes with
    | .ok bundle => .ok ⟨some bytes, bundle⟩
    | .error _ => .error (.serialization "Failed to decode verification bundle")

/-- Reads the bundle of a subject. -/
def load (subject : Subject) : Flow Loaded := do
  Flow.ofExcept (ofValue (← Flow.cache (.get (key subject))))

/-- Writes a bundle where the loaded one still stands. -/
def replace (lifetime : Cache.Lifetime) (subject : Subject) (loaded : Loaded) (bundle : Bundle) :
    Flow Bool :=
  Flow.cache (.swap (key subject) loaded.raw bundle.encode lifetime)

/-- Drops the bundle of a subject. -/
def remove (subject : Subject) : Flow Unit := Flow.cache (.delete (key subject))

end SignOn.Keyspace.Bundles
