import SignOn.Failure
import SignOn.Mail.Letter
import SignOn.Mail.Mailbox
/-!
Mailing one-time codes. A letter goes from the configured sender to the address of the account; both
have to be mailboxes. What the mail server does is a function of the letter.
-/

namespace SignOn.Mail

/-- Why a letter was not delivered. -/
inductive Obstacle where
  | badSender (fault : Mailbox.Fault)
  | badReceiver (fault : Mailbox.Fault)
  /-- The mail server cannot be reached. -/
  | noConnection (reason : String)
  deriving DecidableEq, Repr

/-- What operators are told. -/
def Obstacle.message : Obstacle → String
  | .badSender fault => "Invalid from address: " ++ fault.message
  | .badReceiver fault => "Invalid to address: " ++ fault.message
  | .noConnection reason => "Failed to send email: Connection error: " ++ reason

/-- A letter with its addresses. -/
structure Parcel where
  sender : Mailbox
  receiver : Mailbox
  letter : Letter
  deriving DecidableEq, Repr

/-- The sender that is named in letters. -/
def senderText (s : EmailSettings) : String := s.fromName ++ " <" ++ s.fromAddress ++ ">"

/-- The parcel that brings a code to a receiver. -/
def parcel (s : EmailSettings) (receiver code : String) : Except Obstacle Parcel :=
  match Mailbox.parse? (senderText s), Mailbox.parse? receiver with
  | .error fault, _ => .error (.badSender fault)
  | .ok _, .error fault => .error (.badReceiver fault)
  | .ok sender, .ok receiver => .ok ⟨sender, receiver, Letter.ofCode s.fromName code⟩

/-- Mails a code, unless mail is turned off. -/
def send (server : Parcel → Except Obstacle Unit) (s : EmailSettings) (receiver code : String) :
    Except Failure Unit :=
  if s.enabled then
    match parcel s receiver code >>= server with
    | .ok () => .ok ()
    | .error obstacle => .error (.notification obstacle.message)
  else .ok ()

end SignOn.Mail
