import SignOn.Crypto.Argon2
import SignOn.Crypto.Base64
import SignOn.Failure
import SignOn.Text.Blank
/-!
The stored form of a password: fields between dollar signs, which name the hash function, its
version, its costs, the salt and the hash. `Stored.parse?` reads such a text, `Stored.verify`
compares a password with it, and `Password.hash` makes one.

A text that cannot be read is a fault of the store. Everything else that keeps a password from
being accepted, an unknown function or a missing hash too, counts as a wrong password.
-/

namespace SignOn.Password

open SignOn.Text SignOn.Crypto

/-- The parts of a stored password, before anything is known about the hash function. -/
structure Stored where
  algorithm : String
  version : Option Nat
  params : List (String × String)
  salt : Option String
  hash : Option Bytes

namespace Stored

/-! ## Fields -/

/-- A character of a name. -/
def isNameChar (c : Char) : Bool := ('a' ≤ c && c ≤ 'z') || ('0' ≤ c && c ≤ '9') || c == '-'

/-- A name: one to 32 lower-case letters, digits and hyphens. -/
def isName (cs : List Char) : Bool := 1 ≤ cs.length && cs.length ≤ 32 && cs.all isNameChar

/-- A character of a value. -/
def isValueChar (c : Char) : Bool :=
  ('a' ≤ c && c ≤ 'z') || ('A' ≤ c && c ≤ 'Z') || ('0' ≤ c && c ≤ '9') ||
    c == '/' || c == '+' || c == '.' || c == '-'

/-- A value: at most 64 letters, digits and signs. -/
def isValue (cs : List Char) : Bool := cs.length ≤ 64 && cs.all isValueChar

/-- A number of 32 bits, without zeros in front. -/
def number? (cs : List Char) : Option Nat :=
  if cs.isEmpty || !cs.all (fun c => '0' ≤ c && c ≤ '9') || (cs.head? == some '0' && 1 < cs.length)
  then none
  else
    let n := cs.foldl (fun n c => 10 * n + (c.toNat - 48)) 0
    if n < 0x100000000 then some n else none

/-- One `name=value`. -/
def readParam (cs : List Char) : Option (String × String) :=
  match pieces (· == '=') cs with
  | [name, value] =>
    if isName name && isValue value then some (String.ofList name, String.ofList value) else none
  | _ => none

/-- The parameters, separated by commas. -/
def readParams (cs : List Char) : Option (List (String × String)) :=
  if byteLength cs ≤ 127 then (pieces (· == ',') cs).mapM readParam else none

/-- A salt, still encoded. -/
def readSalt (cs : List Char) : Option String :=
  if 4 ≤ cs.length && isValue cs then some (String.ofList cs) else none

/-- A hash of ten to 64 bytes. -/
def readHash (cs : List Char) : Option Bytes :=
  match Base64.decode Base64.standard cs with
  | some bs => if 10 ≤ bs.length && bs.length ≤ 64 then some bs else none
  | none => none

/-! ## The whole text -/

/-- What follows the parameters: at most a salt and a hash. -/
def readEnd (algorithm : String) (version : Option Nat) (params : List (String × String)) :
    List (List Char) → Option Stored
  | [] => some ⟨algorithm, version, params, none, none⟩
  | [salt] => (readSalt salt).map fun s => ⟨algorithm, version, params, some s, none⟩
  | [salt, hash] => do
    return ⟨algorithm, version, params, some (← readSalt salt), some (← readHash hash)⟩
  | _ => none

/-- What follows the version. A field with an equals sign holds the parameters. -/
def readRest (algorithm : String) (version : Option Nat) : List (List Char) → Option Stored
  | [] => readEnd algorithm version [] []
  | field :: rest =>
    if field.contains '=' then
      (readParams field).bind fun params => readEnd algorithm version params rest
    else readEnd algorithm version [] (field :: rest)

/-- The parts of a text. -/
def parse? (text : String) : Option Stored :=
  match pieces (· == '$') text.toList with
  | [] :: name :: rest =>
    if !isName name then none
    else
      let algorithm := String.ofList name
      match rest with
      | ('v' :: '=' :: version) :: rest =>
        if version.contains ',' then readRest algorithm none (('v' :: '=' :: version) :: rest)
        else if isValue version then
          (number? version).bind fun v => readRest algorithm (some v) rest
        else none
      | rest => readRest algorithm none rest
  | _ => none

/-! ## Comparing -/

/-- The variant with a written name. -/
def variant? : String → Option Argon2.Variant
  | "argon2d" => some .dependent
  | "argon2i" => some .independent
  | "argon2id" => some .hybrid
  | _ => none

/-- The costs and the associated data that parameters set. -/
structure Setting where
  costs : Argon2.Costs
  data : Bytes

/-- The costs where a stored text names none. -/
def defaultCosts : Argon2.Costs := ⟨19456, 2, 1⟩

/-- The bytes of a value, at most so many. -/
def bytes? (most : Nat) (value : String) : Option Bytes :=
  match Base64.decode Base64.standard value.toList with
  | some bs => if bs.length ≤ most then some bs else none
  | none => none

/-- Takes one parameter into the setting. -/
def setParam (s : Setting) (param : String × String) : Option Setting :=
  let number := number? param.2.toList
  match param.1 with
  | "m" => number.map fun n => { s with costs := { s.costs with memory := n } }
  | "t" => number.map fun n => { s with costs := { s.costs with time := n } }
  | "p" => number.map fun n => { s with costs := { s.costs with lanes := n } }
  | "keyid" => (bytes? 8 param.2).map fun _ => s
  | "data" => (bytes? 32 param.2).map fun bs => { s with data := bs }
  | _ => none

/-- What has to be hashed to compare a password. -/
def input? (s : Stored) (password : String) (hash : Bytes) : Option Argon2.Input := do
  let variant ← variant? s.algorithm
  let version := s.version.getD 19
  if version == 16 || version == 19 then
    let setting ← s.params.foldlM setParam ⟨defaultCosts, []⟩
    let salt ← Base64.decode Base64.standard (← s.salt).toList
    return ⟨variant, version, setting.costs, Text.utf8 password, salt, setting.data, hash.length⟩
  else none

/-- Whether the password is the one that was hashed. -/
def accepts (s : Stored) (password : String) : Bool :=
  match s.hash with
  | some hash => match s.input? password hash with
    | some input => Argon2.hash input == some hash
    | none => false
  | none => false

/-- The text of a hash. -/
def print (input : Argon2.Input) (hash : Bytes) : List Char :=
  "$argon2id$v=".toList ++ Nat.toDigits 10 input.version ++ "$m=".toList ++
    Nat.toDigits 10 input.costs.memory ++ ",t=".toList ++ Nat.toDigits 10 input.costs.time ++
    ",p=".toList ++ Nat.toDigits 10 input.costs.lanes ++ '$' ::
    Base64.encode Base64.standard input.salt ++ '$' :: Base64.encode Base64.standard hash

end Stored

/-- Compares a password with a stored text. -/
def verify (stored password : String) : Except Failure Unit :=
  match Stored.parse? stored with
  | none => .error (.passwordHash "Failed to parse stored password hash")
  | some s => if s.accepts password then .ok () else .error .incorrectPassword

/-- The text to be stored for a password. -/
def hash (salt : Bytes) (password : String) : Except Failure String :=
  let input : Argon2.Input :=
    ⟨.hybrid, 19, Stored.defaultCosts, Text.utf8 password, salt, [], 32⟩
  match Argon2.hash input with
  | some h => .ok (String.ofList (Stored.print input h))
  | none => .error (.passwordHash "Failed to hash password")

end SignOn.Password
