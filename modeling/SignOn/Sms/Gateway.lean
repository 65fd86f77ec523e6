import SignOn.Failure
import SignOn.Http.Outgoing
import SignOn.Settings
/-!
Text messages through a gateway with two hosts. If the first one cannot do it, the reserve is asked
once, unless the first has judged the message itself: then the reserve would say the same.
-/

namespace SignOn.Sms

open SignOn.Http SignOn.Json

/-- What the gateway says of a message. -/
structure Verdict where
  error : String
  errorCode : Int
  deriving DecidableEq, Repr

namespace Verdict

/-- The written form. -/
def shape : Shape := .record
  (.cons "error" .text .empty false
  (.cons "error_code" .int64 .empty false .nil))

/-- The verdict that a read value describes. -/
def ofCarrier : shape.Carrier → Verdict
  | (error, errorCode, ()) => ⟨error, errorCode⟩

end Verdict

/-- Why a message was not taken. -/
inductive Refusal where
  /-- The host could not be asked. -/
  | transport (host reason : String)
  /-- The gateway has judged the message. -/
  | judged (code : Int) (reason : String)
  deriving DecidableEq, Repr

namespace Refusal

/-- What operators are told. -/
def message : Refusal → String
  | .transport host reason => "request to " ++ host ++ " failed: " ++ reason
  | .judged code reason => "error_code(" ++ toString code ++ "), error(" ++ reason ++ ")"

/-- Whether every host would say the same. The codes from 1 to 9 speak of the message or its
sender. -/
def isFinal : Refusal → Bool
  | .transport .. => false
  | .judged code _ => 1 ≤ code && code ≤ 9

end Refusal

/-- Code zero says that the message was taken. -/
def Verdict.accept (v : Verdict) : Except Refusal Unit :=
  if v.errorCode = 0 then .ok () else .error (.judged v.errorCode v.error)

/-- Where a host takes messages. -/
def endpoint (host : String) : String := "https://" ++ host ++ "/sys/send.php"

/-- The request that hands over a message. -/
def request (s : SmsSettings) (host phone message : String) : Outgoing where
  method := .post
  url := endpoint host
  form := some [("login", s.login), ("psw", s.password), ("phones", phone), ("mes", message),
    ("fmt", "3")]

/-- Hands a message to one host. -/
def sendVia (servers : Servers) (s : SmsSettings) (host phone message : String) :
    Except Refusal Unit :=
  match servers.ask (request s host phone message) with
  | .error silence => .error (.transport host silence.message)
  | .ok reply =>
    if Status.isSuccess reply.status then
      match reply.read Verdict.shape with
      | .ok value => (Verdict.ofCarrier value).accept
      | .error silence =>
        .error (.transport host ("failed to decode response: " ++ silence.message))
    else .error (.transport host ("invalid status: " ++ Status.text reply.status))

/-- Sends a message, unless messages are turned off. -/
def send (servers : Servers) (s : SmsSettings) (phone message : String) : Except Failure Unit :=
  if s.enabled then
    match sendVia servers s s.host phone message with
    | .ok () => .ok ()
    | .error refusal =>
      if refusal.isFinal then .error (.notification ("sms rejected: " ++ refusal.message))
      else match sendVia servers s s.reserveHost phone message with
        | .ok () => .ok ()
        | .error refusal =>
          .error (.notification ("failed to send with reserve host: " ++ refusal.message))
  else .ok ()

end SignOn.Sms
