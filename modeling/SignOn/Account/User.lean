import SignOn.Account.AuthProvider
import SignOn.Calendar
import SignOn.Json.Read
import SignOn.Json.Print
/-!
Accounts, and the view of an account that its owner is shown.
-/

namespace SignOn

open SignOn.Json

/-- A stored account. -/
structure User where
  /-- The store's own number of the account. -/
  id : Int
  /-- The public name of the account, by which tokens refer to it. -/
  idCode : String
  email : Option String
  phone : Option String
  /-- Empty for accounts that came through Google. -/
  passwordHash : String
  activated : Bool
  provider : AuthProvider
  createdAt : Instant
  updatedAt : Option Instant
  deletedAt : Option Instant
  deriving DecidableEq, Repr

namespace User

/-- Whether there is a password to compare against. -/
def hasPassword (u : User) : Bool := u.passwordHash != ""

/-- Whether the account has been taken out of service; its record stays. -/
def isDeleted (u : User) : Bool := u.deletedAt.isSome

end User

/-- An account to be stored. -/
structure NewUser where
  idCode : String
  email : Option String
  phone : Option String
  passwordHash : String
  activated : Bool
  provider : AuthProvider
  deriving DecidableEq, Repr

/-- What the owner of an account is shown. -/
structure PublicUser where
  idCode : String
  email : Option String
  phone : Option String
  activated : Bool
  provider : AuthProvider
  createdAt : Instant
  deriving DecidableEq, Repr

namespace PublicUser

/-- The public view of an account. -/
def ofUser (u : User) : PublicUser :=
  ⟨u.idCode, u.email, u.phone, u.activated, u.provider, u.createdAt⟩

/-- A text that names an instant. -/
def isInstant (s : String) : Bool := (Instant.parse? s).isSome

/-- The written form. -/
def shape : Shape := .record
  (.cons "id" .text .required false
  (.cons "email" (.optional .text) .required false
  (.cons "phone_number" (.optional .text) .required false
  (.cons "activated" .flag .required false
  (.cons "auth_provider" AuthProvider.shape .required false
  (.cons "created_at" (.checked isInstant) .required false .nil))))))

/-- The view that a read value describes. -/
def ofCarrier : shape.Carrier → PublicUser
  | (idCode, email, phone, activated, provider, ⟨createdAt, known⟩, ()) =>
    ⟨idCode, email, phone, activated, AuthProvider.ofChoice provider,
      (Instant.parse? createdAt).get known⟩

/-- The JSON object of a view. -/
def print (u : PublicUser) : List Char :=
  '{' :: commaSeparated
    [printText "id" ++ ':' :: printText u.idCode,
      printText "email" ++ ':' :: (Shape.optional .text).print u.email,
      printText "phone_number" ++ ':' :: (Shape.optional .text).print u.phone,
      printText "activated" ++ ':' :: printFlag u.activated,
      printText "auth_provider" ++ ':' :: printText u.provider.name,
      printText "created_at" ++ ':' :: printText u.createdAt.text] ++ ['}']

end PublicUser
end SignOn
