import SignOn.Account.Session
import SignOn.Failure
/-!
What the service asks of its account store. Each statement is one atomic step on the accounts and
the session rows.
-/

namespace SignOn.Store

/-- A statement. -/
inductive Statement where
  /-- Stores an account, unless its code, email or phone is taken. -/
  | createUser (user : NewUser)
  | userById (id : Int)
  | userByIdCode (idCode : String)
  /-- Accounts out of service are found too. -/
  | userByEmail (email : String)
  /-- Accounts out of service are found too. -/
  | userByPhone (phone : String)
  /-- Writes the session row of a user, which then is not ended. -/
  | createSession (session : NewSession)
  /-- No row is found by an empty token. -/
  | sessionByToken (token : String)
  /-- Writes a rotation into the row of a user, and tells whether there is one. -/
  | updateSession (update : SessionUpdate)
  /-- Ends a session: clears its address and its token. -/
  | endSession (id endedAt : Int)
  deriving DecidableEq, Repr

/-- What a statement is answered. -/
@[reducible] def Statement.Answer : Statement → Type
  | .createUser _ => User
  | .userById _ | .userByIdCode _ | .userByEmail _ | .userByPhone _ => Option User
  | .createSession _ => SessionRow
  | .sessionByToken _ => Option SessionRow
  | .updateSession _ => Bool
  | .endSession .. => Unit

/-- The name of a statement in failures. -/
def Statement.label : Statement → String
  | .createUser _ => "repository.user.create"
  | .userById _ => "repository.user.find_by_id"
  | .userByIdCode _ => "repository.user.find_by_id_code"
  | .userByEmail _ => "repository.user.find_by_email"
  | .userByPhone _ => "repository.user.find_by_phone"
  | .createSession _ => "repository.session.create"
  | .sessionByToken _ => "repository.session.find_by_token"
  | .updateSession _ => "repository.session.update_by_user_id"
  | .endSession .. => "repository.session.end"

/-- What a statement is answered when the database cannot be reached. A question that needs no
database is answered all the same. -/
def Statement.unreachable : (s : Statement) → Except Failure s.Answer
  | .sessionByToken "" => .ok none
  | s => .error (.database s.label)

end SignOn.Store
