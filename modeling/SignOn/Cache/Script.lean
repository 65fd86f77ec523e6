import SignOn.Cache.Redis
/-!
The script that swaps a value, as the server runs it. It calls commands of the server itself, and
the server does nothing else until it has ended.
-/

namespace SignOn.Cache.Redis.Script

open SignOn.Text

/-- What a script makes of a reply. -/
inductive Value where
  /-- There is no value. Nothing else counts as false. -/
  | absent
  | text (bytes : Bytes)
  /-- Numbers and tables, which the script never gets. -/
  | other
  deriving DecidableEq, Repr

namespace Value

/-- The value for a reply that is no error. -/
def ofReply : Reply → Value
  | .nothing => .absent
  | .bulk value => .text value
  | _ => .other

/-- Whether a condition holds that is a value. An empty text is no exception. -/
def isTrue : Value → Bool
  | .absent => false
  | _ => true

end Value

/-- Goes on with the reply to a command. An error ends the script. -/
def call {σ : Type} (serve : σ → List Bytes → Reply × σ) (server : σ) (words : List Bytes)
    (next : Reply → σ → Reply × σ) : Reply × σ :=
  match serve server words with
  | (.error text, server) => (.error text, server)
  | (reply, server) => next reply server

/-- Whether the current value is not the one that was expected. The flag tells whether one is. -/
def isRefused (flag expected : Bytes) (current : Value) : Bool :=
  if flag = utf8 "1" then current != .text expected else current.isTrue

/-- Swaps a value: the reply is one if it was done, and zero if not. -/
def swap {σ : Type} (serve : σ → List Bytes → Reply × σ) (server : σ)
    (key flag expected value seconds : Bytes) : Reply × σ :=
  call serve server [utf8 "GET", key] fun current server =>
    if isRefused flag expected (.ofReply current) then (.integer 0, server)
    else call serve server [utf8 "SET", key, value, utf8 "EX", seconds] fun _ server =>
      (.integer 1, server)

end SignOn.Cache.Redis.Script
