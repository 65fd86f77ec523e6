/-!
The one rule for new passwords: more than eight and fewer than forty-eight characters.
-/

namespace SignOn.Password

/-- Whether the password has an acceptable number of characters. -/
def isAcceptable (s : String) : Bool := 8 < s.length && s.length < 48

end SignOn.Password
