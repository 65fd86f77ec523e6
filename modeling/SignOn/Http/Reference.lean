import SignOn.Http.Target
/-!
References to other places: a URI, or a part of one that is to be read where it stands.
-/

namespace SignOn.Http.Reference

open SignOn.Text

/-- A character of a host name. -/
def isNameChar (c : Char) : Bool :=
  Percent.isUnreserved c || Target.subDelimiters.contains c || c == '%'

/-- A scheme: a letter, then letters, digits and three signs. -/
def isScheme : List Char → Bool
  | c :: cs => c.isAlpha &&
    cs.all fun c => Percent.isAlphanumeric c || c == '+' || c == '-' || c == '.'
  | [] => false

/-- A port may be left out behind its colon. -/
def isPort (cs : List Char) : Bool :=
  cs.all Char.isDigit && cs.foldl (fun n c => 10 * n + (c.toNat - 48)) 0 ≤ 65535

/-- A host, perhaps with a port. Addresses may stand in brackets. -/
def isHostPort (cs : List Char) : Bool :=
  match cs with
  | '[' :: inner => match splitAtFirst? (· == ']') inner with
    | some (address, rest) =>
      !address.isEmpty && address.all (fun c => isNameChar c || c == ':') && match rest with
        | [] => true
        | ':' :: port => isPort port
        | _ => false
    | none => false
  | _ => match splitAtFirst? (· == ':') cs with
    | some (host, port) => host.all isNameChar && isPort port
    | none => cs.all isNameChar

/-- A host and port, perhaps behind a user. -/
def isAuthority (cs : List Char) : Bool :=
  match splitAtFirst? (· == '@') cs with
  | some (user, rest) => user.all (fun c => isNameChar c || c == ':') && isHostPort rest
  | none => isHostPort cs

/-- What stands between a scheme and a query. -/
def isPlace : List Char → Bool
  | '/' :: '/' :: rest =>
    isAuthority (rest.takeWhile (· != '/')) && (rest.dropWhile (· != '/')).all Target.isPathChar
  | path => path.all Target.isPathChar

/-- Whether a text is a reference. -/
def isValid (text : String) : Bool :=
  let (front, fragment) := (splitAtFirst? (· == '#') text.toList).getD (text.toList, [])
  let (front, query) := (splitAtFirst? (· == '?') front).getD (front, [])
  let beforeColon := front.takeWhile fun c => c != ':' && c != '/' && c != '@' && c != '['
  let place := match front.drop beforeColon.length with
    | ':' :: rest => isScheme beforeColon && isPlace rest
    | _ => isPlace front
  place && query.all Target.isQueryChar && fragment.all Target.isQueryChar

end SignOn.Http.Reference
