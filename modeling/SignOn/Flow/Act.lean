import SignOn.Cache.Command
import SignOn.Google.Profile
import SignOn.Store.Statement
import SignOn.Uuid
/-!
The steps that a service call takes outside itself. Each act is atomic: between two acts of one
call, acts of other calls may happen.
-/

namespace SignOn

/-- One step. -/
inductive Act where
  /-- Reads the clock, in seconds of the epoch. -/
  | clock
  /-- Draws a UUID. -/
  | uuid
  /-- Draws a one-time code. -/
  | code
  /-- Draws the salt of a password. -/
  | salt
  | cache (command : Cache.Command)
  | store (statement : Store.Statement)
  /-- Exchanges a code at the identity provider. -/
  | exchange (code : String)
  /-- Fetches a profile from the identity provider. -/
  | profile (accessToken : String)
  /-- Mails a one-time code. -/
  | mail (address code : String)
  /-- Sends a text message. -/
  | text (phone message : String)

/-- What an act is answered. -/
@[reducible] def Act.Answer : Act → Type
  | .clock => Int
  | .uuid => Uuid
  | .code => Nat
  | .salt => Bytes
  | .cache command => Except Failure command.Answer
  | .store statement => Except Failure statement.Answer
  | .exchange _ => Except Failure ProviderToken
  | .profile _ => Except Failure UserProfile
  | .mail .. | .text .. => Except Failure Unit

end SignOn
