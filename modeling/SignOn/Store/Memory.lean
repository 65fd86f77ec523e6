import SignOn.Store.Statement
/-!
The account store inside the process. Numbers of accounts and rows are the highest present one plus
one; the code, the email and the phone of an account are each held by no other account, whether or
not it is still in service.
-/

namespace SignOn.Store

/-- Accounts and session rows, in the order in which they were stored. -/
structure Memory where
  users : List User := []
  sessions : List SessionRow := []
  deriving DecidableEq, Repr

/-- The highest of some numbers, or zero. -/
def highest (ns : List Int) : Int :=
  match ns with
  | [] => 0
  | n :: rest => rest.foldl max n

/-- Changes the first item that satisfies `p`. -/
def changeFirst {α : Type} (p : α → Bool) (f : α → α) : List α → List α
  | [] => []
  | a :: rest => if p a then f a :: rest else a :: changeFirst p f rest

/-- Whether a stored account stands in the way of a new one. -/
def conflicts (new : NewUser) (old : User) : Bool :=
  old.idCode == new.idCode || (new.email.isSome && old.email == new.email) ||
    (new.phone.isSome && old.phone == new.phone)

namespace Memory

/-- The account that a new one becomes. -/
def accountFor (s : Memory) (new : NewUser) (now : Instant) : User where
  id := highest (s.users.map (·.id)) + 1
  idCode := new.idCode
  email := new.email
  phone := new.phone
  passwordHash := new.passwordHash
  activated := new.activated
  provider := new.provider
  createdAt := now
  updatedAt := none
  deletedAt := none

/-- Stores an account. -/
def createUser (s : Memory) (new : NewUser) (now : Instant) : Except Failure User × Memory :=
  if s.users.any (conflicts new) then (.error .userAlreadyExists, s)
  else
    let user := s.accountFor new now
    (.ok user, { s with users := s.users ++ [user] })

/-- The row of a session that begins. -/
def rowOf (n : NewSession) (id : Int) : SessionRow where
  id := id
  userId := n.userId
  ip := n.ip
  refreshToken := n.refreshToken
  provider := n.provider
  startedAt := some n.startedAt
  endedAt := none

/-- Writes the row of a user: the one that is there, or a new one. -/
def createSession (s : Memory) (new : NewSession) : SessionRow × Memory :=
  match s.sessions.find? (·.userId == new.userId) with
  | some old =>
    let row := rowOf new old.id
    (row, { s with
      sessions := changeFirst (·.userId == new.userId) (fun _ => row) s.sessions })
  | none =>
    let row := rowOf new (highest (s.sessions.map (·.id)) + 1)
    (row, { s with sessions := s.sessions ++ [row] })

/-- The row that holds a refresh token. -/
def sessionByToken (s : Memory) (token : String) : Option SessionRow :=
  if token = "" then none else s.sessions.find? (·.refreshToken == token)

/-- A row after a rotation. -/
def rotate (update : SessionUpdate) (row : SessionRow) : SessionRow :=
  { row with
    ip := update.ip
    refreshToken := update.refreshToken
    startedAt := some update.startedAt
    endedAt := none }

/-- Writes a rotation into the rows of its user. -/
def updateSession (s : Memory) (update : SessionUpdate) : Bool × Memory :=
  (s.sessions.any (·.userId == update.userId),
    { s with sessions := s.sessions.map fun row =>
        if row.userId == update.userId then rotate update row else row })

/-- A row after its end. -/
def close (endedAt : Int) (row : SessionRow) : SessionRow :=
  { row with ip := "", refreshToken := "", endedAt := some endedAt }

/-- Ends a session. -/
def endSession (s : Memory) (id endedAt : Int) : Memory :=
  { s with sessions := changeFirst (·.id == id) (close endedAt) s.sessions }

/-- Answers a statement at an instant. -/
def perform (now : Instant) (s : Memory) : (st : Statement) → Except Failure st.Answer × Memory
  | .createUser new => s.createUser new now
  | .userById id => (.ok (s.users.find? (·.id == id)), s)
  | .userByIdCode idCode => (.ok (s.users.find? (·.idCode == idCode)), s)
  | .userByEmail email => (.ok (s.users.find? (·.email == some email)), s)
  | .userByPhone phone => (.ok (s.users.find? (·.phone == some phone)), s)
  | .createSession new => let (row, s) := s.createSession new; (.ok row, s)
  | .sessionByToken token => (.ok (s.sessionByToken token), s)
  | .updateSession update => let (found, s) := s.updateSession update; (.ok found, s)
  | .endSession id endedAt => (.ok (), s.endSession id endedAt)

/-! ## Administration -/

/-- Without an account. -/
def removeUser (s : Memory) (id : Int) : Memory :=
  { s with users := s.users.filter (·.id != id) }

/-- Takes an account out of service; its record stays. -/
def retireUser (s : Memory) (id : Int) (now : Instant) : Memory :=
  { s with users := changeFirst (·.id == id) (fun u => { u with deletedAt := some now }) s.users }

/-- Sets when the sessions of a user began. -/
def setStartedAt (s : Memory) (userId moment : Int) : Memory :=
  { s with sessions := s.sessions.map fun row =>
      if row.userId == userId then { row with startedAt := some moment } else row }

end Memory
end SignOn.Store
