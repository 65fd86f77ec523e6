import SignOn.Crypto.Sha256
import SignOn.Password.Stored
/-!
The cryptographic functions on which the service rests, as one record: what is proved about the
service holds for every choice of them that has the properties named there.
-/

namespace SignOn.Crypto

/-- The functions behind tokens and stored passwords. -/
structure Suite where
  /-- The signature of a message under a key. -/
  sign : Bytes → Bytes → Bytes
  /-- The text that is stored for a password, made with a salt. -/
  hashPassword : Bytes → String → Except Failure String
  /-- Compares a password with a stored text: the text comes first. -/
  verifyPassword : String → String → Except Failure Unit

/-- The functions in use: keyed SHA-256 for tokens and Argon2 for passwords. -/
def Suite.standard : Suite := ⟨Sha256.keyed, Password.hash, Password.verify⟩

end SignOn.Crypto
