import SignOn.Failure
import SignOn.Http.Query
import SignOn.Net.Url
import SignOn.Settings
import SignOn.Text.Number
/-!
Where a cache server is found. A URL names a host and a port, or a socket in the file system, with
the login, the number of the database and the version of the protocol; one that names less or
something else is refused before anything is connected.
-/

namespace SignOn.Cache

open SignOn.Text SignOn.Net

/-- How a server is reached. -/
inductive Access where
  | port (host : Host) (port : Nat)
  | socket (path : List Char)
  deriving DecidableEq, Repr

/-- Where a server is found, and what for. -/
structure Location where
  access : Access
  database : Int := 0
  user : Option String := none
  password : Option String := none
  deriving DecidableEq, Repr

namespace Location

/-- The port of a server that names none. -/
def usualPort : Nat := 6379

/-- The schemes for servers behind a port. -/
def portSchemes : List String := ["redis", "valkey"]

/-- The schemes for servers behind a socket. -/
def socketSchemes : List String := ["unix", "redis+unix", "valkey+unix"]

/-- The number of a database; nothing stands for the first. -/
def database? : List Char → Option Int
  | [] => some 0
  | cs => int64? cs

/-- A part of a login, which may be left out. -/
def loginPart? (cs : List Char) : Option (Option String) :=
  if cs.isEmpty then some none else (ofUtf8? (Percent.decode cs)).map some

/-- The last value of a field of the query. -/
def field? (fields : List Http.Field) (name : String) : Option String := fields.reverse.lookup name

/-- Whether the version of the protocol is one that is spoken. -/
def speaks (fields : List Http.Field) : Bool :=
  (field? fields "protocol").all ["2", "3", "resp2", "resp3"].contains

/-- A path without slashes at its ends. -/
def inner (path : List Char) : List Char :=
  ((path.dropWhile (· == '/')).reverse.dropWhile (· == '/')).reverse

/-- The server behind a port that a URL names. -/
def ofPort? (url : Url) : Option Location := do
  let host ← url.host
  if host == .domain [] then none
  let port := url.port.getD usualPort
  return ⟨.port host port, ← database? (inner url.path), ← loginPart? url.user,
    ← loginPart? url.password⟩

/-- The server behind a socket that a URL names. -/
def ofSocket? (url : Url) (fields : List Http.Field) : Option Location := do
  if url.host.any fun host => host != .domain [] && host != .domain "localhost".toList then none
  if url.path.head? != some '/' then none
  return ⟨.socket url.path, ← database? ((field? fields "db").getD "").toList, field? fields "user",
    field? fields "pass"⟩

/-- The location that a URL names. -/
def ofUrl? (text : String) : Option Location := do
  let url ← (Url.parse? text).toOption
  let fields := Http.Query.parse (url.query.getD [])
  if !speaks fields then none
  let scheme := String.ofList url.scheme
  if portSchemes.contains scheme then ofPort? url
  else if socketSchemes.contains scheme then ofSocket? url fields
  else none

end Location

/-- The server behind a URL, if it can be reached. -/
def connect (isUp : Location → Bool) (url : String) : Except Failure Location :=
  match Location.ofUrl? url with
  | none => .error (.cache "Invalid redis url")
  | some location =>
    if isUp location then .ok location else .error (.cache "Failed to connect to redis")

/-- The server that the settings ask for, if they ask for one. -/
def connectFor (isUp : Location → Bool) (s : CacheSettings) : Except Failure (Option Location) :=
  match s.backend with
  | .memory => .ok none
  | .redis => (connect isUp s.url).map some

end SignOn.Cache
