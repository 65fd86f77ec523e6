import SignOn.Cache.Command
/-!
The cache inside the process. An entry lives while the clock stands before its end. A read drops the
entry that it finds dead, and every write sweeps all dead entries out.
-/

namespace SignOn.Cache

/-- A stored value. -/
structure Entry where
  value : Bytes
  /-- Milliseconds of the epoch from which on the entry is dead. -/
  expires : Option Int
  deriving DecidableEq, Repr

/-- Whether an entry lives at a time, in milliseconds of the epoch. -/
def Entry.isLive (e : Entry) (now : Int) : Bool :=
  match e.expires with
  | some t => now < t
  | none => true

/-- Entries under their keys; no key occurs twice. -/
structure Memory where
  entries : List (String × Entry) := []
  deriving DecidableEq, Repr

namespace Memory

/-- The last millisecond that an expiry can name. -/
def lastMilli : Int := 9223372036854775807

/-- When an entry dies that is written now. -/
def expiry (now : Int) (lifetime : Lifetime) : Int :=
  min (now + min (lifetime.millis : Int) lastMilli) lastMilli

/-- The entry under a key, dead or alive. -/
def find? (c : Memory) (key : String) : Option Entry := c.entries.lookup key

/-- Without the entry under a key. -/
def erase (c : Memory) (key : String) : Memory := ⟨c.entries.filter fun e => e.1 != key⟩

/-- Without dead entries. -/
def sweep (c : Memory) (now : Int) : Memory := ⟨c.entries.filter fun e => e.2.isLive now⟩

/-- With an entry under a key, in place of any other. -/
def put (c : Memory) (key : String) (entry : Entry) : Memory :=
  ⟨(key, entry) :: (c.erase key).entries⟩

/-- Drops the entry under a key if it is dead. -/
def settle (c : Memory) (now : Int) (key : String) : Memory :=
  match c.find? key with
  | some e => if e.isLive now then c else c.erase key
  | none => c

/-- The value that can be read under a key. -/
def read? (c : Memory) (now : Int) (key : String) : Option Bytes :=
  match c.find? key with
  | some e => if e.isLive now then some e.value else none
  | none => none

/-- Writes a value. -/
def write (c : Memory) (now : Int) (key : String) (value : Bytes) (lifetime : Option Lifetime) :
    Memory :=
  (c.sweep now).put key ⟨value, lifetime.map (expiry now)⟩

/-- Answers a command at a time, in milliseconds of the epoch. -/
def perform (now : Int) (c : Memory) : (cmd : Command) → cmd.Answer × Memory
  | .get key => (c.read? now key, c.settle now key)
  | .set key value lifetime => ((), c.write now key value lifetime)
  | .delete key => ((), c.erase key)
  | .setIfAbsent key value lifetime =>
    match c.read? now key with
    | some _ => (false, c)
    | none => (true, c.write now key value (some lifetime))
  | .swap key expected value lifetime =>
    if c.read? now key = expected then (true, c.write now key value (some lifetime))
    else (false, c.settle now key)
  | .ping => ((), c)

end Memory
end SignOn.Cache
