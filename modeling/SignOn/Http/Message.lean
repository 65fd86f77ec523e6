import SignOn.Http.Target
import SignOn.Net.IpAddress
import SignOn.Text.Blank
/-!
Requests and responses.
-/

namespace SignOn.Http

open SignOn.Text

/-- A request method. -/
inductive Method where
  | get
  | head
  | post
  | put
  | delete
  | options
  | patch
  | connect
  | trace
  deriving DecidableEq, Repr

namespace Method

/-- All methods. -/
def all : List Method := [.get, .head, .post, .put, .delete, .options, .patch, .connect, .trace]

/-- The written name. -/
def name : Method → String
  | .get => "GET"
  | .head => "HEAD"
  | .post => "POST"
  | .put => "PUT"
  | .delete => "DELETE"
  | .options => "OPTIONS"
  | .patch => "PATCH"
  | .connect => "CONNECT"
  | .trace => "TRACE"

/-- The method with a written name, in any case. -/
def ofName? (name : String) : Option Method :=
  all.find? fun m => sameAscii m.name.toList name.toList

end Method

/-- A header. -/
structure Header where
  name : String
  value : String
  deriving DecidableEq, Repr

/-- A request. -/
structure Request where
  method : Method
  /-- The path and query as they were sent. -/
  target : String
  headers : List Header := []
  /-- Cookies under their names. -/
  cookies : List (String × String) := []
  /-- The address of the peer. -/
  peer : Option IpAddress := none
  body : String := ""
  deriving DecidableEq, Repr

namespace Request

/-- The first value of a header. -/
def header? (r : Request) (name : String) : Option String :=
  (r.headers.find? fun h => sameAscii h.name.toList name.toList).map (·.value)

/-- What a form names the method that it stands for. -/
def methodField : String := "_method"

/-- How many bytes of a form are looked at. -/
def formGlance : Nat := 14

/-- The shortest form that can name a method. -/
def leastForm : Nat := 10

/-- The media type of the body, without its parameters. -/
def mediaType? (r : Request) : Option String :=
  (r.header? "Content-Type").map fun value =>
    trimmed (String.ofList (value.toList.takeWhile (· != ';')))

/-- The method that a posted form names in its first field. -/
def namedMethod? (r : Request) : Option Method := do
  let type ← r.mediaType?
  let start := (utf8 r.body).take formGlance
  if r.method != .post || start.length < leastForm ||
      !sameAscii type.toList "application/x-www-form-urlencoded".toList then none
  else
    let field ← (Query.parse (← ofUtf8? start).toList).head?
    if field.1 == methodField then Method.ofName? field.2 else none

/-- The request with the method that is meant. -/
def withNamedMethod (r : Request) : Request := { r with method := r.namedMethod?.getD r.method }

/-- The address of the client: what a proxy in front says, or else the peer. Empty if unknown. -/
def clientAddress (r : Request) : String :=
  let told := (r.header? "X-Real-IP").bind fun value => IpAddress.parse? value.toList
  match told <|> r.peer with
  | some ip => ip.text
  | none => ""

end Request

/-- A change of a cookie, which holds for all paths and is sent along from this site and when
another one links here. -/
inductive CookieChange where
  /-- Sets a cookie that scripts cannot read, for some seconds. -/
  | set (name value : String) (seconds : Int)
  | remove (name : String)
  deriving DecidableEq, Repr

/-- The content of a response. -/
inductive Body where
  | none
  | json (text : List Char)
  /-- A text of some media type. -/
  | text (type : String) (content : String)
  deriving DecidableEq, Repr

namespace Body

/-- The type of JSON texts. -/
def jsonType : String := "application/json"

/-- The type of texts without markup. -/
def plainType : String := "text/plain; charset=utf-8"

/-- The type of pages. -/
def pageType : String := "text/html; charset=utf-8"

/-- What is said of the type of a body. -/
def contentType? : Body → Option String
  | .none => Option.none
  | .json _ => some jsonType
  | .text type _ => some type

end Body

/-- A response. -/
structure Response where
  status : Nat
  body : Body := .none
  /-- Headers, with names in lower case. -/
  headers : List Header := []
  cookies : List CookieChange := []
  deriving DecidableEq, Repr

namespace Response

/-- A response with a body. -/
def ofBody (status : Nat) (body : Body) : Response where
  status
  body
  headers := body.contentType?.toList.map fun type => ⟨"content-type", type⟩

/-- With one more header, in place of any other of its name. -/
def withHeader (r : Response) (name value : String) : Response :=
  { r with headers := r.headers.filter (·.name != name) ++ [⟨name, value⟩] }

/-- A response that tells of an error. -/
def isError (r : Response) : Bool := 400 ≤ r.status && r.status < 600

end Response
end SignOn.Http
