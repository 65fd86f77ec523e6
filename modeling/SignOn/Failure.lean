/-!
What can go wrong. A `Failure` is a cause; the text shown to a client, the coarse kind and the HTTP
status are functions of it. Causes inside the service carry a detail for its operators, which no
client ever sees.
-/

namespace SignOn

/-- A rule that a request field breaks. -/
inductive Rule where
  | email
  | password
  | phone
  | lengthIs (n : Nat)
  | lengthAtLeast (n : Nat)
  deriving DecidableEq, Repr

/-- The short name of the rule. -/
def Rule.code : Rule → String
  | .email => "email"
  | .password => "password_length"
  | .phone => "phone_number"
  | .lengthIs _ | .lengthAtLeast _ => "length"

/-- The explanation given to the client, for the rules that have one. -/
def Rule.message? : Rule → Option String
  | .password => some "Password must be between 9 and 47 characters"
  | .phone => some "Invalid phone number"
  | .email | .lengthIs _ | .lengthAtLeast _ => none

/-- The bound of the rule and its name. -/
def Rule.bound? : Rule → Option (String × Nat)
  | .lengthIs n => some ("equal", n)
  | .lengthAtLeast n => some ("min", n)
  | .email | .password | .phone => none

/-- A field of a request whose value breaks a rule. -/
structure Violation where
  field : String
  rule : Rule
  value : String
  deriving DecidableEq, Repr

namespace Violation

/-- A text in quotes, as developers read it. -/
def quoted (text : String) : String :=
  let spell : Char → List Char
    | '"' => ['\\', '"']
    | '\\' => ['\\', '\\']
    | '\n' => ['\\', 'n']
    | '\r' => ['\\', 'r']
    | '\t' => ['\\', 't']
    | '\x00' => ['\\', '0']
    | c =>
      if c.toNat < 0x20 || c.toNat = 0x7F then
        ['\\', 'u', '\x7b'] ++ Nat.toDigits 16 c.toNat ++ ['\x7d']
      else [c]
  String.ofList ('"' :: text.toList.flatMap spell ++ ['"'])

/-- What a rule was held against: its bound, if it has one, and the value. -/
def parameters (v : Violation) : List String :=
  (v.rule.bound?.toList.map fun (name, n) => quoted name ++ ": Number(" ++ toString n ++ ")") ++
    ["\"value\": String(" ++ quoted v.value ++ ")"]

/-- What is said of a violation: the explanation of its rule, or else its name and parameters. -/
def text (v : Violation) : String :=
  v.field ++ ": " ++ v.rule.message?.getD
    ("Validation error: " ++ v.rule.code ++ " [\x7b" ++ ", ".intercalate v.parameters ++ "\x7d]")

/-- A line for each violation. -/
def report (violations : List Violation) : String := "\n".intercalate (violations.map text)

end Violation

/-- Why a call failed. -/
inductive Failure where
  /-- A statement on the account store did not go through. -/
  | database (detail : String)
  /-- A cache command did not go through. -/
  | cache (detail : String)
  /-- A token could not be signed. -/
  | signing (detail : String)
  /-- A token is not one of ours. -/
  | malformedToken (detail : String)
  /-- Stored data could not be decoded. -/
  | serialization (detail : String)
  /-- The identity provider did not do its part. -/
  | provider (detail : String)
  /-- A message could not be delivered. -/
  | notification (detail : String)
  /-- A stored password hash is unusable. -/
  | passwordHash (detail : String)
  /-- The configuration could not be read. -/
  | configuration (detail : String)
  | invalidToken
  | sessionExpired
  | incorrectPassword
  | unauthorized
  | userNotFound
  | stateNotFound
  | invalidState
  | invalidProvider
  /-- The request cannot be answered, for the stated reason. -/
  | badRequest (reason : String)
  /-- Fields of the request break their rules. -/
  | invalidFields (violations : List Violation)
  | stateAlreadyClaimed
  | codesLimit
  | incorrectCode
  | userAlreadyExists
  | mustUseGoogle
  | invalidRequestSession
  | inactiveUser
  deriving DecidableEq, Repr

namespace Failure

/-- The coarse class of a failure, on which clients branch. -/
inductive Kind where
  | badRequest
  | unauthorized
  | conflict
  | notFound
  | internal
  deriving DecidableEq, Repr

/-- The written name of a kind. -/
def Kind.name : Kind → String
  | .badRequest => "bad_request"
  | .unauthorized => "unauthorized"
  | .conflict => "conflict"
  | .notFound => "not_found"
  | .internal => "internal"

/-- The kind of a failure. -/
def kind : Failure → Kind
  | .database _ | .cache _ | .signing _ | .serialization _ | .provider _ | .notification _
  | .passwordHash _ | .configuration _ => .internal
  | .malformedToken _ | .invalidToken | .sessionExpired | .incorrectPassword | .unauthorized =>
    .unauthorized
  | .userNotFound | .stateNotFound => .notFound
  | .invalidState | .invalidProvider | .badRequest _ | .invalidFields _ => .badRequest
  | .stateAlreadyClaimed | .codesLimit | .incorrectCode | .userAlreadyExists | .mustUseGoogle
  | .invalidRequestSession | .inactiveUser => .conflict

/-- The HTTP status that belongs to a kind. -/
def Kind.status : Kind → Nat
  | .badRequest => 400
  | .unauthorized => 401
  | .conflict => 409
  | .notFound => 404
  | .internal => 500

/-- The HTTP status of a failure. Inactive accounts are reported apart from other conflicts. -/
def status (e : Failure) : Nat := if e = .inactiveUser then 422 else e.kind.status

/-- What the client is told, where violations are reported in a given way. Details of internal
failures never show. -/
def message (report : List Violation → String) : Failure → String
  | .database _ | .cache _ | .signing _ | .serialization _ | .provider _ | .notification _
  | .passwordHash _ | .configuration _ => "Internal server error"
  | .malformedToken _ | .invalidToken => "invalid token"
  | .sessionExpired => "session is expired"
  | .incorrectPassword => "incorrect password"
  | .unauthorized => "Unauthorized"
  | .userNotFound => "user not found"
  | .stateNotFound => "state not found"
  | .invalidState => "invalid auth state"
  | .invalidProvider => "invalid auth provider"
  | .badRequest reason => s!"Bad request: {reason}"
  | .invalidFields violations => "Validation error: " ++ report violations
  | .stateAlreadyClaimed => "conflict"
  | .codesLimit => "verification codes limit reached"
  | .incorrectCode => "incorrect verification code"
  | .userAlreadyExists => "user already exist"
  | .mustUseGoogle => "user must proceed with google"
  | .invalidRequestSession => "invalid request session"
  | .inactiveUser => "user is inactive"

/-- What operators are told besides. -/
def detail? : Failure → Option String
  | .database d | .cache d | .signing d | .malformedToken d | .serialization d | .provider d
  | .notification d | .passwordHash d | .configuration d => some d
  | _ => none

/-- A database error outside any named statement. -/
def unnamedDatabase : Failure := .database "Database error"
/-- A cache error outside any named command. -/
def unnamedCache : Failure := .cache "Cache error"
/-- A password that could not be hashed. -/
def unnamedHashing : Failure := .passwordHash "Password hashing failed"
/-- A configuration that could not be read. -/
def unreadableConfiguration : Failure := .configuration "Failed to read configuration"

end Failure
end SignOn
