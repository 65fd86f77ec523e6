import SignOn.Flow.Act
/-!
Service calls as data: a `Flow` is a tree of acts, each followed by what the call does with its
answer, until the call succeeds or fails. The same flow can be run alone against a world, or act by
act between the acts of other flows.
-/

namespace SignOn

/-- A service call. -/
inductive Flow (α : Type) where
  | done (value : α)
  | fail (failure : Failure)
  | step (act : Act) (next : act.Answer → Flow α)

namespace Flow

variable {α β : Type}

/-- Goes on with the value of a call that succeeds. -/
def bind : Flow α → (α → Flow β) → Flow β
  | .done value, f => f value
  | .fail failure, _ => .fail failure
  | .step act next, f => .step act fun answer => (next answer).bind f

instance : Monad Flow where
  pure := .done
  bind := bind

/-- A call that ends as given. -/
def ofExcept : Except Failure α → Flow α
  | .ok value => .done value
  | .error failure => .fail failure

/-- Goes on with the outcome of a call, whether it succeeds or fails. -/
def attempt : Flow α → Flow (Except Failure α)
  | .done value => .done (.ok value)
  | .fail failure => .done (.error failure)
  | .step act next => .step act fun answer => (next answer).attempt

/-- The value, or the failure if there is none. -/
def require (value : Option α) (failure : Failure) : Flow α :=
  match value with
  | some a => .done a
  | none => .fail failure

/-- Goes on only where a condition holds. -/
def ensure (condition : Bool) (failure : Failure) : Flow Unit :=
  if condition then .done () else .fail failure

/-! ## Single acts -/

/-- The second of the epoch. -/
def now : Flow Int := .step .clock .done

/-- A new UUID. -/
def newUuid : Flow Uuid := .step .uuid .done

/-- A new one-time code. -/
def newCode : Flow String := .step .code fun n => .done (toString n)

/-- A new salt. -/
def newSalt : Flow Bytes := .step .salt .done

/-- A cache command. -/
def cache (command : Cache.Command) : Flow command.Answer := .step (.cache command) ofExcept

/-- A statement on the account store. -/
def store (statement : Store.Statement) : Flow statement.Answer := .step (.store statement) ofExcept

/-- A code exchange. -/
def exchange (code : String) : Flow ProviderToken := .step (.exchange code) ofExcept

/-- A profile. -/
def profile (accessToken : String) : Flow UserProfile := .step (.profile accessToken) ofExcept

/-- A mail with a one-time code. -/
def mail (address code : String) : Flow Unit := .step (.mail address code) ofExcept

/-- A text message. -/
def text (phone message : String) : Flow Unit := .step (.text phone message) ofExcept

end Flow
end SignOn
