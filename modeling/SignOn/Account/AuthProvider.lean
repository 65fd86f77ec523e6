import SignOn.Json.Shape
/-!
How a user proves who they are: with an email and a password, with a phone and a one-time code, or
through Google.
-/

namespace SignOn

/-- The ways to prove an identity. -/
inductive AuthProvider where
  | email
  | phone
  | google
  deriving DecidableEq, Repr

namespace AuthProvider

/-- The written name. -/
def name : AuthProvider → String
  | .email => "email"
  | .phone => "phone"
  | .google => "google"

/-- The provider with a written name. -/
def ofName? : String → Option AuthProvider
  | "email" => some .email
  | "phone" => some .phone
  | "google" => some .google
  | _ => none

/-- What is said of a name that belongs to no provider. -/
def unknownMessage (name : String) : String := "unknown auth provider: " ++ name

/-- The names as a JSON choice. -/
def shape : Json.Shape := .choice ["email", "phone", "google"]

/-- The provider that a choice stands for. -/
def ofChoice : shape.Carrier → AuthProvider
  | (0 : Fin 3) => .email
  | (1 : Fin 3) => .phone
  | (2 : Fin 3) => .google

/-- The choice that stands for a provider. -/
def toChoice : AuthProvider → shape.Carrier
  | .email => (0 : Fin 3)
  | .phone => (1 : Fin 3)
  | .google => (2 : Fin 3)

theorem ofName?_name (p : AuthProvider) : ofName? p.name = some p := by cases p <;> rfl

theorem ofChoice_toChoice (p : AuthProvider) : ofChoice p.toChoice = p := by cases p <;> rfl

end AuthProvider
end SignOn
