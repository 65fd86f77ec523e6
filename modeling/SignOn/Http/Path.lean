import SignOn.Text.Blank
/-!
The path under which the service is mounted: it begins with a slash and, unless it is the root, does
not end with one.
-/

namespace SignOn.Http

open SignOn.Text

/-- The base path that is used when none is configured. -/
def defaultBasePath : String := "/api"

/-- Drops slashes from the back, but keeps the first character. -/
def dropLastSlashes (cs : List Char) : List Char :=
  match (cs.reverse.dropWhile (· == '/')).reverse with
  | [] => cs.take 1
  | kept => kept

/-- The usual form of a configured base path. -/
def normalizeBasePath (raw : String) : String :=
  match trim raw.toList with
  | [] => defaultBasePath
  | cs =>
    let rooted := if cs.head? == some '/' then cs else '/' :: cs
    String.ofList (dropLastSlashes rooted)

/-- A path below a base path, with one slash in between. -/
def joinBasePath (base path : String) : String :=
  let front := (base.toList.reverse.dropWhile (· == '/')).reverse
  let back := path.toList.dropWhile (· == '/')
  String.ofList (front ++ '/' :: back)

end SignOn.Http
