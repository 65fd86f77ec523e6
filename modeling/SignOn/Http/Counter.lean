/-!
What the service counts, and the text in which the counts are read.
-/

namespace SignOn.Http

/-- What is counted. -/
inductive Counter where
  | successes
  | errors
  | acceptedBearers
  | rejectedBearers
  | sendCode
  | signIn
  | signUp
  | refresh
  | logout
  | verify
  | googleRedirect
  | googleCallback
  | gmail
  deriving DecidableEq, Repr

namespace Counter

/-- All counters. -/
def all : List Counter :=
  [.successes, .errors, .acceptedBearers, .rejectedBearers, .sendCode, .signIn, .signUp, .refresh,
    .logout, .verify, .googleRedirect, .googleCallback, .gmail]

/-- The name of a counter without what all names begin with. -/
def shortName : Counter → String
  | .successes => "success_http"
  | .errors => "error_http"
  | .acceptedBearers => "success_session_verification"
  | .rejectedBearers => "error_session_verification"
  | .sendCode => "verification_code"
  | .signIn => "sign_in"
  | .signUp => "sign_up"
  | .refresh => "refresh"
  | .logout => "logout"
  | .verify => "verify_session"
  | .googleRedirect => "google_redirect"
  | .googleCallback => "google_callback"
  | .gmail => "gmail_auth"

/-- The name of a counter. -/
def name (c : Counter) : String := "auth_api_" ++ c.shortName ++ "_requests"

/-- What a counter counts. -/
def subject : Counter → String
  | .successes => "successful http requests"
  | .errors => "unsuccessful http requests"
  | .acceptedBearers => "accepted bearer tokens"
  | .rejectedBearers => "rejected bearer tokens"
  | .sendCode => "verification code requests"
  | .signIn => "sign in requests"
  | .signUp => "sign up requests"
  | .refresh => "refresh requests"
  | .logout => "logout requests"
  | .verify => "verify session requests"
  | .googleRedirect => "Google redirect requests"
  | .googleCallback => "Google callback requests"
  | .gmail => "Gmail auth requests"

/-- The sentence that explains a counter. -/
def help (c : Counter) : String := "The total number of " ++ c.subject

end Counter

/-- Everything that was counted, one entry for each time. -/
structure Tally where
  events : List Counter := []
  deriving DecidableEq, Repr

namespace Tally

/-- How often something was counted. -/
def value (t : Tally) (c : Counter) : Nat := t.events.count c

/-- Counts once more. -/
def add (t : Tally) (c : Counter) : Tally := ⟨c :: t.events⟩

theorem value_add (t : Tally) (c d : Counter) :
    (t.add c).value d = t.value d + if c = d then 1 else 0 := by
  simp only [value, add, List.count_cons, beq_iff_eq]

/-- The lines for one counter. -/
def lines (t : Tally) (c : Counter) : String :=
  "# HELP " ++ c.name ++ " " ++ c.help ++ "\n# TYPE " ++ c.name ++ " counter\n" ++
    c.name ++ " " ++ toString (t.value c) ++ "\n\n"

/-- All counters as text. -/
def text (t : Tally) : String := String.join (Counter.all.map t.lines)

end Tally
end SignOn.Http
