import SignOn.Crypto.Suite
import SignOn.Flow.World
import SignOn.Google.Exchange
import SignOn.Mail.Delivery
import SignOn.Setup
import SignOn.Sms.Gateway
/-!
The servers with which the service works: Google and the text-message gateway are asked over HTTP,
and one server takes mail. With them, what lies outside of the service is no longer arbitrary.
-/

namespace SignOn

/-- The servers that can be reached. -/
structure Network where
  web : Http.Servers
  mail : Mail.Parcel → Except Mail.Obstacle Unit

/-- What a service with some settings meets outside, if its messages go through a network. -/
def Outside.through (o : Outside) (n : Network) (s : Settings) : Outside :=
  { o with
    exchange := Google.exchange n.web s.oauth.google
    profile := Google.profile n.web s.oauth.google
    deliverMail := Mail.send n.mail s.email
    deliverText := Sms.send n.web s.sms }

/-- What is fixed for a service with some settings that works with Google itself. -/
def Setup.ofSettings (s : Settings) : Setup where
  settings := s
  suite := Crypto.Suite.standard
  authorizationUrl := Google.authorizationUrl s.oauth.google

end SignOn
