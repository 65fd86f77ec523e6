import SignOn.Account.AuthProvider
import SignOn.Failure
import SignOn.Json.Read
import SignOn.Json.Print
import SignOn.Mail.Address
import SignOn.Password.Length
import SignOn.Phone
/-!
The requests of the account service: their JSON shapes, and the rules that their fields must keep. A
field that is absent breaks no rule. All violations of a request are reported together.
-/

namespace SignOn

open SignOn.Json

/-- The violation of a rule by a field, unless its value keeps the rule. -/
def Rule.check (rule : Rule) (field : String) (ok : String → Bool) (value : String) :
    List Violation :=
  if ok value then [] else [⟨field, rule, value⟩]

/-- The rule that a field is an email address. -/
def checkEmail (emails : Mail.AddressRule) (field value : String) : List Violation :=
  Rule.email.check field emails.accepts value

/-- The rule that a field is a phone number. -/
def checkPhone (field value : String) : List Violation := Rule.phone.check field Phone.isValid value

/-- The rule that a field has a given number of characters. -/
def checkLength (n : Nat) (field value : String) : List Violation :=
  (Rule.lengthIs n).check field (·.length == n) value

/-- A rule for a field that may be absent. -/
def checkPresent (rule : String → List Violation) : Option String → List Violation
  | some value => rule value
  | none => []

/-- Refuses a request with violations. -/
def Violation.refuse (violations : List Violation) : Except Failure Unit :=
  if violations.isEmpty then .ok () else .error (.invalidFields violations)

/-- Opening an account with an email, a password and a phone. -/
structure SignUpRequest where
  email : String
  password : String
  phone : String
  deriving DecidableEq, Repr

namespace SignUpRequest

/-- The written form. -/
def shape : Shape := .record
  (.cons "email" .text .required false
  (.cons "password" .text .required false
  (.cons "phone_number" .text .required false .nil)))

/-- The request that a read value describes. -/
def ofCarrier : shape.Carrier → SignUpRequest
  | (email, password, phone, ()) => ⟨email, password, phone⟩

/-- The rules that the request breaks. -/
def violations (r : SignUpRequest) (emails : Mail.AddressRule) : List Violation :=
  checkEmail emails "email" r.email ++
  Rule.password.check "password" Password.isAcceptable r.password ++
  checkPhone "phone_number" r.phone

end SignUpRequest

/-- Signing in. The provider decides which of the other fields are needed. -/
structure SignInRequest where
  provider : AuthProvider
  email : Option String
  password : Option String
  phone : Option String
  code : Option String
  deriving DecidableEq, Repr

namespace SignInRequest

/-- The written form. -/
def shape : Shape := .record
  (.cons "auth_provider" AuthProvider.shape .required false
  (.cons "email" (.optional .text) .required false
  (.cons "password" (.optional .text) .required false
  (.cons "phone_number" (.optional .text) .required false
  (.cons "code" (.optional .text) .required false .nil)))))

/-- The request that a read value describes. -/
def ofCarrier : shape.Carrier → SignInRequest
  | (provider, email, password, phone, code, ()) =>
    ⟨AuthProvider.ofChoice provider, email, password, phone, code⟩

/-- The rules that the request breaks. -/
def violations (r : SignInRequest) (emails : Mail.AddressRule) : List Violation :=
  checkPresent (checkEmail emails "email") r.email ++
  checkPresent (checkPhone "phone_number") r.phone ++
  checkPresent (checkLength 6 "code") r.code

end SignInRequest

/-- Asking for a one-time code. With a request id, the phone belongs to a pending Google sign-up. -/
structure SendCodeRequest where
  provider : AuthProvider
  email : Option String
  phone : Option String
  requestId : Option String
  deriving DecidableEq, Repr

namespace SendCodeRequest

/-- The written form. -/
def shape : Shape := .record
  (.cons "auth_provider" AuthProvider.shape .required false
  (.cons "email" (.optional .text) .required false
  (.cons "phone_number" (.optional .text) .required false
  (.cons "request_id" (.optional .text) .required false .nil))))

/-- The request that a read value describes. -/
def ofCarrier : shape.Carrier → SendCodeRequest
  | (provider, email, phone, requestId, ()) =>
    ⟨AuthProvider.ofChoice provider, email, phone, requestId⟩

/-- The rules that the request breaks. -/
def violations (r : SendCodeRequest) (emails : Mail.AddressRule) : List Violation :=
  checkPresent (checkEmail emails "email") r.email ++
  checkPresent (checkPhone "phone_number") r.phone ++
  checkPresent (checkLength 36 "request_id") r.requestId

end SendCodeRequest

/-- Signing in from a device with a Google access token. -/
structure GmailRequest where
  googleToken : String
  deriving DecidableEq, Repr

namespace GmailRequest

/-- The written form. -/
def shape : Shape := .record (.cons "google_token" .text .required false .nil)

/-- The request that a read value describes. -/
def ofCarrier : shape.Carrier → GmailRequest
  | (googleToken, ()) => ⟨googleToken⟩

/-- The rules that the request breaks. -/
def violations (r : GmailRequest) : List Violation :=
  (Rule.lengthAtLeast 1).check "google_token" (fun s => 1 ≤ s.length) r.googleToken

end GmailRequest

/-- Finishing a Google sign-up: the request id proves the email, the code proves the phone. -/
structure CompleteRequest where
  requestId : String
  phone : String
  code : String
  deriving DecidableEq, Repr

namespace CompleteRequest

/-- The written form. -/
def shape : Shape := .record
  (.cons "request_id" .text .required false
  (.cons "phone_number" .text .required false
  (.cons "code" .text .required false .nil)))

/-- The request that a read value describes. -/
def ofCarrier : shape.Carrier → CompleteRequest
  | (requestId, phone, code, ()) => ⟨requestId, phone, code⟩

/-- The rules that the request breaks. -/
def violations (r : CompleteRequest) : List Violation :=
  checkLength 36 "request_id" r.requestId ++ checkPhone "phone_number" r.phone ++
  checkLength 6 "code" r.code

end CompleteRequest
end SignOn
