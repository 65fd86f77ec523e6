import SignOn.Http.Message
import SignOn.Http.Status
import SignOn.Json.Read
import SignOn.Net.Url
/-!
Asking other servers. A request is first put together: its URL must be one that can be asked over
HTTP, and its headers must be printable. Then it is sent, and a reply comes back or none. What a
server does is a function from requests to replies, so that nothing here depends on a network.
-/

namespace SignOn.Http

open SignOn.Text SignOn.Net

/-- A request to another server. -/
structure Outgoing where
  method : Method
  url : String
  /-- The token that is presented. -/
  bearer : Option String := none
  /-- The fields of the form that is sent along. -/
  form : Option (List Field) := none
  deriving DecidableEq, Repr

/-- A reply. -/
structure Reply where
  status : Nat
  body : Bytes
  deriving DecidableEq, Repr

/-- Why a request got no usable reply. -/
inductive Silence where
  /-- The request could not be put together. -/
  | unwritten
  /-- A request cannot be sent to such a URL. -/
  | unsendable (url : Url)
  /-- Nobody replied. -/
  | unreachable (url : Url)
  /-- The content of the reply was not the expected one. -/
  | unreadable
  deriving DecidableEq, Repr

/-- What operators are told. -/
def Silence.message : Silence → String
  | .unwritten => "builder error"
  | .unsendable url => "builder error for url (" ++ url.text ++ ")"
  | .unreachable url => "error sending request for url (" ++ url.text ++ ")"
  | .unreadable => "error decoding response body"

namespace Outgoing

/-- A character that may stand in a header. -/
def isPrintable (c : Char) : Bool := c == '\t' || (' ' ≤ c && c != '\x7f')

/-- A header as it arrives, without spaces and tabs at its end. -/
def arriving (header : String) : String :=
  String.ofList ((header.toList.reverse.dropWhile fun c => c == ' ' || c == '\t').reverse)

/-- What is said of the sender. -/
def authorization? (r : Outgoing) : Option String :=
  r.bearer.map fun token => arriving ("Bearer " ++ token)

/-- What is said of the type of the body. -/
def contentType? (r : Outgoing) : Option String :=
  r.form.map fun _ => "application/x-www-form-urlencoded"

/-- The body. -/
def body (r : Outgoing) : String := String.ofList ((r.form.map Query.writeForm).getD [])

/-- A login part that can be told as text. -/
def isReadable (part : List Char) : Bool := (ofUtf8? (Percent.decode part)).isSome

/-- The URL without the login that it carries, which is told in a header instead. -/
def withoutLogin (url : Url) : Url :=
  if isReadable url.user && (!url.user.isEmpty || isReadable url.password) then
    { url with user := [], password := [] }
  else url

/-- A URL on some host. -/
def isPlaced (url : Url) : Bool := url.host.isSome && url.host != some (.domain [])

/-- A sign that a URL may hold in the name of its host, but a request may not. -/
def isOddSign (c : Char) : Bool := "\"\x60\x7b\x7d".toList.contains c

/-- A URL that can be asked over HTTP. -/
def isSendable (url : Url) : Bool :=
  ["http", "https"].contains (String.ofList url.scheme) && url.text.length < 65535 &&
  match url.host with
  | some host => !host.text.any isOddSign
  | none => false

/-- Where a request goes once it is put together. -/
def destination (r : Outgoing) : Except Silence Url :=
  match Url.parse? r.url with
  | .error _ => .error .unwritten
  | .ok url =>
    let bare := withoutLogin url
    if !isPlaced url then .error (.unsendable url)
    else if r.bearer.any fun token => !token.toList.all isPrintable then .error .unwritten
    else if !isSendable bare then .error (.unsendable bare)
    else .ok bare

end Outgoing

/-- What other servers do with requests that reach them. -/
abbrev Servers := Outgoing → Option Reply

/-- Where no request reaches a server. -/
def Servers.none : Servers := fun _ => .none

/-- Sends a request. -/
def Servers.ask (servers : Servers) (r : Outgoing) : Except Silence Reply := do
  let url ← r.destination
  match servers r with
  | some reply => return reply
  | .none => throw (.unreachable url)

/-- The value that the content of a reply describes. -/
def Reply.read (reply : Reply) (shape : Json.Shape) : Except Silence shape.Carrier :=
  match shape.decode (if Status.isBare reply.status then [] else reply.body) with
  | .ok value => .ok value
  | .error _ => .error .unreadable

end SignOn.Http
