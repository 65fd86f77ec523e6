import SignOn.Net.Domain
import SignOn.Net.IpAddress
import SignOn.Text.Percent
import SignOn.Text.Number
/-!
Absolute URLs. Reading is forgiving, as browsers are: blanks around a URL are dropped, the scheme
and the host become lower case, domains are brought into ASCII form, a port that the scheme implies
is left out, and characters that may not stand in a URL are escaped. `Url.text` is the usual
spelling.

Two URLs belong together if they have the same `Url.origin`: scheme, host and port. Only some
schemes have origins that can be compared; all others are opaque.
-/

namespace SignOn

open SignOn.Text

namespace Net

/-- Why a text is no URL. -/
inductive UrlFault where
  | noScheme
  | emptyHost
  | badPort
  | badDomain
  | badHostSign
  | badV4
  | badV6
  deriving DecidableEq, Repr

/-- The name of a fault. -/
def UrlFault.name : UrlFault → String
  | .noScheme => "RelativeUrlWithoutBase"
  | .emptyHost => "EmptyHost"
  | .badPort => "InvalidPort"
  | .badDomain => "IdnaError"
  | .badHostSign => "InvalidDomainCharacter"
  | .badV4 => "InvalidIpv4Address"
  | .badV6 => "InvalidIpv6Address"

/-- Where a URL leads. -/
inductive Host where
  | domain (name : List Char)
  | address (ip : IpAddress)
  deriving DecidableEq, Repr

/-- The text of a host. Long addresses stand in brackets. -/
def Host.text : Host → List Char
  | .domain name => name
  | .address (.v4 a b c d) => IpAddress.printV4 a b c d
  | .address (.v6 groups) => '[' :: IpAddress.printShort groups ++ [']']

/-- A URL. -/
structure Url where
  scheme : List Char
  user : List Char := []
  password : List Char := []
  host : Option Host := none
  port : Option Nat := none
  path : List Char := []
  query : Option (List Char) := none
  fragment : Option (List Char) := none
  deriving DecidableEq, Repr

namespace Url

/-! ## Schemes -/

/-- The port that a scheme implies. -/
def impliedPort? (scheme : List Char) : Option Nat :=
  match String.ofList scheme with
  | "http" | "ws" => some 80
  | "https" | "wss" => some 443
  | "ftp" => some 21
  | _ => none

/-- A scheme whose URLs name a host and a path. -/
def isHostScheme (scheme : List Char) : Bool := (impliedPort? scheme).isSome

/-- The scheme of files, which lie on a host that need not be named. -/
def isFileScheme (scheme : List Char) : Bool := String.ofList scheme == "file"

/-- A scheme in which a backslash counts as a slash. -/
def isSpecial (scheme : List Char) : Bool := isHostScheme scheme || isFileScheme scheme

/-- A character of a scheme after the first. -/
def isSchemeChar (c : Char) : Bool := Percent.isAlphanumeric c || c == '+' || c == '-' || c == '.'

/-- Splits off the scheme. -/
def splitScheme? (cs : List Char) : Option (List Char × List Char) :=
  match splitAtFirst? (· == ':') cs with
  | some (scheme, rest) =>
    if scheme.all isSchemeChar && scheme.head?.any Char.isAlpha then
      some (scheme.map lowerAscii, rest)
    else none
  | none => none

/-! ## Escaping -/

/-- A character that is never escaped for itself: it can be seen, and it is ASCII. -/
def isVisible (c : Char) : Bool := ' ' < c && c ≤ '~'

/-- All visible characters but some. -/
def allBut (signs : String) (c : Char) : Bool := isVisible c && !signs.toList.contains c

/-- Escapes characters that may not stand in a part. -/
def escape (keep : Char → Bool) (cs : List Char) : List Char :=
  Percent.encode keep (String.ofList cs)

/-- What may stand in a path. -/
def inPath : Char → Bool := allBut "\"#<>?\x60\x7b\x7d^"
/-- What may stand in a user or password. -/
def inUser : Char → Bool := allBut "\"#<>?\x60\x7b\x7d/:;=@[\\]^|"
/-- What may stand in a query. -/
def inQuery (special : Bool) : Char → Bool := allBut (if special then "\"#<>'" else "\"#<>")
/-- What may stand in a fragment. -/
def inFragment : Char → Bool := allBut "\"<>\x60"
/-- What may stand in a path that is no list of segments. -/
def inPlain (c : Char) : Bool := c == ' ' || isVisible c

/-! ## Hosts -/

/-- A sign that no host holds. -/
def isForbiddenHostSign (c : Char) : Bool :=
  c.toNat ≤ 0x20 || "#/:<>?@[\\]^|".toList.contains c

/-- A sign that no domain holds. -/
def isForbiddenDomainSign (c : Char) : Bool :=
  isForbiddenHostSign c || c == '%' || c.toNat == 0x7F

/-- A number inside a dotted address: decimal, or octal or hexadecimal after a zero. -/
def addressPart? (cs : List Char) : Option Nat :=
  let digits (base : Nat) (ds : List Char) : Option Nat :=
    ds.foldl (fun n d => n.bind fun n => (hexValue? d).bind fun v =>
      if v < base then some (base * n + v) else none) (some 0)
  match cs with
  | [] => none
  | '0' :: 'x' :: ds | '0' :: 'X' :: ds => digits 16 ds
  | '0' :: d :: ds => digits 8 (d :: ds)
  | ds => digits 10 ds

/-- The last label of a domain that may end in a dot. -/
def lastLabel (domain : List Char) : List Char :=
  let labels := (pieces (· == '.') domain).reverse
  match labels with
  | [] => []
  | [label] => label
  | [] :: label :: _ => label
  | label :: _ => label

/-- Whether a domain has to be a dotted address. -/
def endsInNumber (domain : List Char) : Bool :=
  let label := lastLabel domain
  !label.isEmpty && (label.all Char.isDigit || match label with
    | '0' :: 'x' :: ds | '0' :: 'X' :: ds => ds.all isHexDigit
    | _ => false)

/-- The dotted address that a domain is. Its last number may fill several bytes. -/
def dottedAddress? (domain : List Char) : Option IpAddress := do
  let parts := match (pieces (· == '.') domain).reverse with
    | [] :: p :: parts => (p :: parts).reverse
    | parts => parts.reverse
  let numbers ← parts.mapM addressPart?
  let last ← numbers.getLast?
  let front := numbers.dropLast
  if 4 < parts.length || front.any (255 < ·) || Nat.pow 256 (4 - front.length) ≤ last then none
  else
    let padded := front ++ List.replicate (3 - front.length) 0
    let n := 256 * padded.foldl (fun n part => 256 * n + part) 0 + last
    return .v4 (n / 0x1000000) (n / 0x10000 % 256) (n / 0x100 % 256) (n % 256)

/-- The long address in brackets. -/
def bracketed? (cs : List Char) : Except UrlFault Host :=
  match cs.reverse with
  | ']' :: inner => match IpAddress.parseV6? inner.reverse with
    | some ip => .ok (.address ip)
    | none => .error .badV6
  | _ => .error .badV6

/-- The host of a URL whose scheme needs one. -/
def namedHost? (cs : List Char) : Except UrlFault Host :=
  match cs with
  | [] => .error .emptyHost
  | '[' :: inner => bracketed? inner
  | _ => match Idna.toAscii? isForbiddenDomainSign (Percent.decodeText cs).toList with
    | none => .error .badDomain
    | some [] => .error .emptyHost
    | some domain =>
      if endsInNumber domain then match dottedAddress? domain with
        | some ip => .ok (.address ip)
        | none => .error .badV4
      else .ok (.domain domain)

/-- The host of any other URL. -/
def plainHost? (cs : List Char) : Except UrlFault Host :=
  match cs with
  | '[' :: inner => bracketed? inner
  | _ => if cs.any isForbiddenHostSign then .error .badHostSign
    else .ok (.domain (escape inPlain cs))

/-- Splits a host from the port behind it; colons inside brackets belong to the host. -/
def splitPort : Bool → List Char → List Char × Option (List Char)
  | _, [] => ([], none)
  | inside, c :: cs =>
    if c == ':' && !inside then ([], some cs)
    else
      let (host, port) := splitPort ((inside || c == '[') && c != ']') cs
      (c :: host, port)

/-- The port, unless it is the implied one. -/
def port? (scheme : List Char) : Option (List Char) → Except UrlFault (Option Nat)
  | none | some [] => .ok none
  | some digits => match natural? digits with
    | some n =>
      if 65535 < n then .error .badPort
      else .ok (if impliedPort? scheme == some n then none else some n)
    | none => .error .badPort

/-! ## Paths -/

/-- The directory itself, also when its dot is escaped. -/
def isHere (segment : List Char) : Bool :=
  [".", "%2e"].contains (String.ofList (segment.map lowerAscii))

/-- The directory above. -/
def isAbove (segment : List Char) : Bool :=
  ["..", ".%2e", "%2e.", "%2e%2e"].contains (String.ofList (segment.map lowerAscii))

/-- Walks the segments of a path, and gives the ones that are left, last one first. -/
def walk : List (List Char) → List (List Char) → List (List Char)
  | [], walked => walked
  | [segment], walked =>
    if isAbove segment then [] :: walked.drop 1
    else if isHere segment then [] :: walked
    else escape inPath segment :: walked
  | segment :: rest, walked =>
    if isAbove segment then walk rest (walked.drop 1)
    else if isHere segment then walk rest walked
    else walk rest (escape inPath segment :: walked)

/-- A path that begins with a slash, as a list of segments behind slashes. -/
def absolutePath (special : Bool) (path : List Char) : List Char :=
  let isSlash (c : Char) := c == '/' || (special && c == '\\')
  let segments := pieces isSlash (match path with
    | c :: cs => if isSlash c then cs else c :: cs
    | [] => [])
  (walk segments []).reverse.flatMap fun segment => '/' :: segment

/-! ## Reading -/

/-- Control characters and spaces. -/
def isControl (c : Char) : Bool := c.toNat ≤ 0x20

/-- Splits a text at the first character that satisfies `p`, which begins the second part. -/
def splitBefore (p : Char → Bool) (cs : List Char) : List Char × List Char :=
  (cs.takeWhile (!p ·), cs.dropWhile (!p ·))

/-- A URL with host: `authority` is what stands between the slashes and the path. -/
def ofAuthority? (url : Url) (special : Bool) (authority path : List Char) :
    Except UrlFault Url := do
  let (login, hostPort) := match splitAtLast? (· == '@') authority with
    | some (login, rest) => (some login, rest)
    | none => (none, authority)
  let (user, password) := match login.bind (splitAtFirst? (· == ':')) with
    | some (user, password) => (user, password)
    | none => (login.getD [], [])
  if login.isSome && hostPort.isEmpty then throw .emptyHost
  let (host, port) := splitPort false hostPort
  let parsed ← if special then namedHost? host else plainHost? host
  if host.isEmpty && port.isSome then throw .emptyHost
  let path := if special || !path.isEmpty then absolutePath special path else []
  return { url with
    user := escape inUser user, password := escape inUser password, host := some parsed
    port := ← port? url.scheme port, path }

/-- A URL of a file. -/
def ofFile? (url : Url) (rest : List Char) : Except UrlFault Url := do
  let isSlash (c : Char) := c == '/' || c == '\\'
  match rest with
  | a :: b :: more =>
    if isSlash a && isSlash b then
      let (host, path) := splitBefore isSlash more
      let parsed ← if host.isEmpty then pure (Host.domain []) else namedHost? host
      let parsed := if parsed == .domain "localhost".toList then .domain [] else parsed
      return { url with host := some parsed, path := absolutePath true path }
    else return { url with host := some (.domain []), path := absolutePath true rest }
  | _ => return { url with host := some (.domain []), path := absolutePath true rest }

/-- The URL that a text spells. -/
def parse? (text : String) : Except UrlFault Url := do
  let cs := ((text.toList.dropWhile isControl).reverse.dropWhile isControl).reverse
  let cs := cs.filter fun c => c != '\t' && c != '\n' && c != '\r'
  let some (scheme, rest) := splitScheme? cs | throw .noScheme
  let special := isSpecial scheme
  let (rest, fragment) := splitBefore (· == '#') rest
  let (rest, query) := splitBefore (· == '?') rest
  let url : Url := {
    scheme
    query := if query.isEmpty then none else some (escape (inQuery special) (query.drop 1))
    fragment := if fragment.isEmpty then none else some (escape inFragment (fragment.drop 1)) }
  let isSlash (c : Char) := c == '/' || (special && c == '\\')
  if isFileScheme scheme then ofFile? url rest
  else if isHostScheme scheme then
    let (authority, path) := splitBefore isSlash (rest.dropWhile isSlash)
    ofAuthority? url true authority path
  else match rest with
    | '/' :: '/' :: more =>
      let (authority, path) := splitBefore isSlash more
      ofAuthority? url false authority path
    | '/' :: _ => return { url with path := absolutePath false rest }
    | _ => return { url with path := escape inPlain rest }

/-! ## Writing -/

/-- The usual spelling of a URL. -/
def text (u : Url) : String :=
  let login := if u.user.isEmpty && u.password.isEmpty then []
    else u.user ++ (if u.password.isEmpty then [] else ':' :: u.password) ++ ['@']
  let port := match u.port with
    | some n => ':' :: Nat.toDigits 10 n
    | none => []
  let place := match u.host with
    | some host => '/' :: '/' :: login ++ host.text ++ port
    | none => []
  let query := match u.query with
    | some q => '?' :: q
    | none => []
  let fragment := match u.fragment with
    | some f => '#' :: f
    | none => []
  String.ofList (u.scheme ++ ':' :: place ++ u.path ++ query ++ fragment)

end Url

/-! ## Origins -/

/-- Where a page comes from. -/
structure Origin where
  scheme : List Char
  host : Host
  port : Option Nat
  deriving DecidableEq, Repr

/-- The origin of a URL, unless it is opaque. -/
def Url.origin? (u : Url) : Option Origin :=
  match u.host with
  | some host => if Url.isHostScheme u.scheme then some ⟨u.scheme, host, u.port⟩ else none
  | none => none

/-- The text of an origin. -/
def Origin.text (o : Origin) : String :=
  String.ofList (o.scheme ++ "://".toList ++ o.host.text ++ match o.port with
    | some n => ':' :: Nat.toDigits 10 n
    | none => [])

end Net
end SignOn
