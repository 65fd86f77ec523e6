import SignOn.Cache.Command
import SignOn.Failure
import SignOn.Text.Number
/-!
The cache behind a Redis server. A cache command becomes one server command; a conditional write
against a given value is a script, which is sent by name, and loaded first if the server does not
know it. The server's replies are judged as loosely as its protocol allows.
-/

namespace SignOn.Cache.Redis

open SignOn.Text

/-- A command of the server. -/
inductive Request where
  | get (key : String)
  | set (key : String) (value : Bytes)
  | setFor (key : String) (seconds : Nat) (value : Bytes)
  | delete (key : String)
  | setNewFor (key : String) (value : Bytes) (seconds : Nat)
  /-- Runs the script that swaps a value. -/
  | swapFor (key : String) (expected : Option Bytes) (value : Bytes) (seconds : Nat)
  /-- Makes the script known. -/
  | load
  | ping
  deriving DecidableEq, Repr

/-- The words of a command; `script` names the swapping script. -/
def Request.words (script : String) : Request → List Bytes
  | .get key => [utf8 "GET", utf8 key]
  | .set key value => [utf8 "SET", utf8 key, value]
  | .setFor key seconds value => [utf8 "SETEX", utf8 key, utf8 (toString seconds), value]
  | .delete key => [utf8 "DEL", utf8 key]
  | .setNewFor key value seconds =>
    [utf8 "SET", utf8 key, value, utf8 "NX", utf8 "EX", utf8 (toString seconds)]
  | .swapFor key expected value seconds =>
    [utf8 "EVALSHA", utf8 script, utf8 "1", utf8 key, utf8 (if expected.isSome then "1" else "0"),
      expected.getD [], value, utf8 (toString seconds)]
  | .load => [utf8 "SCRIPT", utf8 "LOAD", utf8 script]
  | .ping => [utf8 "PING"]

/-- A reply of the server. -/
inductive Reply where
  | nothing
  | bulk (value : Bytes)
  | integer (n : Int)
  | status (text : String)
  | error (text : String)
  deriving DecidableEq, Repr

/-- Lifetimes count in seconds, and none is shorter than one. -/
def wholeSeconds (t : Lifetime) : Nat := max t.seconds 1

/-- The server command for a cache command. -/
def request : Command → Request
  | .get key => .get key
  | .set key value (some t) => .setFor key (wholeSeconds t) value
  | .set key value none => .set key value
  | .delete key => .delete key
  | .setIfAbsent key value t => .setNewFor key value (wholeSeconds t)
  | .swap key expected value t => .swapFor key expected value (wholeSeconds t)
  | .ping => .ping

/-! ## Judging replies -/

/-- Bytes, or nothing. -/
def Reply.bytes? : Reply → Option (Option Bytes)
  | .nothing => some none
  | .bulk value => some (some value)
  | _ => none

/-- Any reply that can be read as a text. -/
def Reply.isText : Reply → Bool
  | .bulk value => (ofUtf8? value).isSome
  | .integer _ | .status _ => true
  | .nothing | .error _ => false

/-- A reply read as an integer. -/
def Reply.number? : Reply → Option Int
  | .integer n => some n
  | .status text => int64? text.toList
  | .bulk value => (ofUtf8? value).bind fun text => int64? text.toList
  | .nothing | .error _ => none

/-- Whether the server does not know the script. -/
def Reply.isUnknownScript : Reply → Bool
  | .error text => (text.toList.takeWhile (· != ' ')) == "NOSCRIPT".toList
  | _ => false

/-- The name of a cache command in failures. -/
def label : Command → String
  | .get _ => "cache.get"
  | .set _ _ (some _) => "cache.set_ex"
  | .set _ _ none => "cache.set"
  | .delete _ => "cache.delete"
  | .setIfAbsent .. => "cache.set_if_absent"
  | .swap .. => "cache.compare_and_swap"
  | .ping => "cache.ping"

/-- What a reply means for a cache command. -/
def judge (reply : Reply) : (cmd : Command) → Option cmd.Answer
  | .get _ => reply.bytes?
  | .set .. | .delete _ => match reply with
    | .error _ => none
    | _ => some ()
  | .setIfAbsent .. => match reply with
    | .nothing => some false
    | r => if r.isText then some true else none
  | .swap .. => reply.number?.map (· == 1)
  | .ping => if reply.isText then some () else none

/-- Runs a cache command on a server, which answers its commands one by one. -/
def perform {σ : Type} (answer : σ → Request → Reply × σ) (server : σ) (cmd : Command) :
    Except Failure cmd.Answer × σ :=
  let (reply, server) := answer server (request cmd)
  let (reply, server) :=
    match cmd with
    | .swap .. =>
      if reply.isUnknownScript then
        match answer server .load with
        | (.error text, server) => (.error text, server)
        | (_, server) => answer server (request cmd)
      else (reply, server)
    | _ => (reply, server)
  match judge reply cmd with
  | some a => (.ok a, server)
  | none => (.error (.cache (label cmd)), server)

end SignOn.Cache.Redis
