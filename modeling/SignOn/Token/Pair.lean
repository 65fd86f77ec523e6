import SignOn.Account.Session
import SignOn.Failure
import SignOn.Settings
import SignOn.Token.Compact
import SignOn.Uuid
/-!
The tokens of a session. Both carry the same snapshot, but they are signed with different secrets
and live for different times, so neither passes for the other.
-/

namespace SignOn.Token

/-- What a token is for. -/
inductive Kind where
  /-- Presented with every request. -/
  | access
  /-- Exchanged for the next pair. -/
  | refresh
  deriving DecidableEq, Repr

/-- The secret that signs tokens of a kind. -/
def secret (s : TokenSettings) : Kind → Bytes
  | .access => Text.utf8 s.accessSecret
  | .refresh => Text.utf8 s.refreshSecret

/-- How long tokens of a kind live, in seconds. -/
def lifetime (s : TokenSettings) : Kind → Int
  | .access => s.accessTtl
  | .refresh => s.refreshTtl

/-- The token of a kind that is issued now under a name. -/
def issue (sign : Bytes → Bytes → Bytes) (s : TokenSettings) (kind : Kind) (snapshot : Snapshot)
    (now : Int) (id : Uuid) : String :=
  write sign (secret s kind) ⟨snapshot.encode, now + lifetime s kind, id.text⟩

/-- The pair that is issued now. -/
def issuePair (sign : Bytes → Bytes → Bytes) (s : TokenSettings) (snapshot : Snapshot) (now : Int)
    (accessId refreshId : Uuid) : TokenPair where
  access := issue sign s .access snapshot now accessId
  refresh := issue sign s .refresh snapshot now refreshId
  issuedAt := some now

/-- The snapshot in a token of a kind. A token that is not ours is malformed; one of ours that has
expired, or that carries no snapshot, is invalid. -/
def validate (sign : Bytes → Bytes → Bytes) (s : TokenSettings) (kind : Kind) (now : Int)
    (token : String) : Except Failure Snapshot :=
  match read? sign (secret s kind) token with
  | none => .error (.malformedToken "Failed to parse token")
  | some claims =>
    if claims.expires ≤ now then .error .invalidToken
    else match Snapshot.decode claims.payload with
      | .ok snapshot => .ok snapshot
      | .error _ => .error .invalidToken

end SignOn.Token
