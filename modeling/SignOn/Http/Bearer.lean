import SignOn.Text.Blank
/-!
The bearer scheme of the `Authorization` header: the word `bearer` in any case, a blank, a token.
-/

namespace SignOn.Http

open SignOn.Text

/-- The token of a bearer header. -/
def bearerToken? (header : String) : Option String := do
  let (scheme, rest) ← splitAtFirst? (· == ' ') (trim header.toList)
  let token := trim rest
  if sameAscii scheme "bearer".toList && !token.isEmpty then some (String.ofList token) else none

end SignOn.Http
