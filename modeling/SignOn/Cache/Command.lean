import SignOn.Text.Utf8
/-!
What the service asks of its cache: bytes under text keys, each value with an optional lifetime. The
commands are data, so that one service runs over any cache that answers them.
-/

namespace SignOn.Cache

/-- A span of time, in nanoseconds. -/
structure Lifetime where
  nanos : Nat
  deriving DecidableEq, Repr

namespace Lifetime

/-- A lifetime of whole seconds. -/
def ofSeconds (n : Nat) : Lifetime := ⟨n * 1000000000⟩

/-- A lifetime of whole milliseconds. -/
def ofMillis (n : Nat) : Lifetime := ⟨n * 1000000⟩

/-- The whole seconds of a lifetime. -/
def seconds (t : Lifetime) : Nat := t.nanos / 1000000000

/-- The whole milliseconds of a lifetime. -/
def millis (t : Lifetime) : Nat := t.nanos / 1000000

theorem millis_ofSeconds (n : Nat) : (ofSeconds n).millis = n * 1000 := by
  simp only [ofSeconds, millis]; omega

end Lifetime

/-- A command. -/
inductive Command where
  /-- The value under a key. -/
  | get (key : String)
  /-- Writes a value; without a lifetime it stays until it is deleted. -/
  | set (key : String) (value : Bytes) (lifetime : Option Lifetime)
  | delete (key : String)
  /-- Writes a value where there is none. -/
  | setIfAbsent (key : String) (value : Bytes) (lifetime : Lifetime)
  /-- Writes a value where the given one stands, or where there is none. -/
  | swap (key : String) (expected : Option Bytes) (value : Bytes) (lifetime : Lifetime)
  /-- Asks for a sign of life. -/
  | ping
  deriving DecidableEq, Repr

/-- What a command is answered. Conditional writes tell whether they were done. -/
@[reducible] def Command.Answer : Command → Type
  | .get _ => Option Bytes
  | .set .. | .delete _ | .ping => Unit
  | .setIfAbsent .. | .swap .. => Bool

end SignOn.Cache
