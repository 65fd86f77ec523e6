import SignOn.Http.Query
/-!
What a request asks for: a path, and a query behind it. Only characters that a URI may hold are
taken. A path counts by its segments; empty ones do not matter.
-/

namespace SignOn.Http

open SignOn.Text

/-- A target, taken apart. -/
structure Target where
  path : List Char
  query : List Char := []
  deriving DecidableEq, Repr

namespace Target

/-- The signs that separate parts of a URI. -/
def subDelimiters : List Char := ['!', '$', '&', '\'', '(', ')', '*', '+', ',', ';', '=']

/-- A character of a path. -/
def isPathChar (c : Char) : Bool :=
  Percent.isUnreserved c || subDelimiters.contains c || c == '%' || c == ':' || c == '@' || c == '/'

/-- A character of a query; some that need not be escaped are strictly not allowed there. -/
def isQueryChar (c : Char) : Bool :=
  isPathChar c || ['?', '\x7b', '\x7d', '[', ']', '\\', '^', '\x60', '|'].contains c

/-- The target that a text spells. -/
def ofText? (text : String) : Option Target :=
  let (path, query) := (splitAtFirst? (· == '?') text.toList).getD (text.toList, [])
  if path.head? == some '/' && path.all isPathChar && query.all isQueryChar then
    some ⟨path, query⟩
  else none

/-- The segments of a path, with escapes undone. -/
def segmentsOf (path : List Char) : List String :=
  ((pieces (· == '/') path).filter (!·.isEmpty)).map Percent.decodeText

/-- The segments of the path. -/
def segments (t : Target) : List String := segmentsOf t.path

/-- The fields of the query. -/
def fields (t : Target) : List Field := Query.parse t.query

end Target
end SignOn.Http
