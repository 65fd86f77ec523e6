import SignOn.Flow.World
import SignOn.Http.Cors
import SignOn.Http.ErrorPage
/-!
The service as clients see it: requests come in, responses go out, and the world changes as the
service calls say. Every response is counted and stamped with a number of its own; only a request
whose target is no URI at all is turned away before that.
-/

namespace SignOn.Http

open SignOn.Text

/-- The service, and the world it runs in. -/
structure Service where
  setup : Setup
  policy : Cors.Policy
  world : World
  tally : Tally := {}

namespace Service

/-- The service in a world, if its settings make a policy for other origins. -/
def start? (setup : Setup) (world : World) : Except Cors.Unusable Service := do
  return { setup, policy := ← Cors.Policy.ofSettings setup.settings.cors, world }

/-- Files are not directories: a slash behind the name of a file leads nowhere. -/
def isLost (e : Endpoint) (t : Target) : Bool :=
  match e with
  | .guide file => file != "" && t.path.getLast? == some '/'
  | _ => false

/-- The call that a request makes, or the status of the error page that it gets. Asking for the head
of a response is asking for the response. -/
def understand (s : Service) (r : Request) (t : Target) : Except Nat Call :=
  let method := if r.method = .head then .get else r.method
  match Endpoint.find? s.setup.settings.api method t.segments with
  | some (e, values) => if isLost e t then .error 404 else Call.ofRequest e values r t
  | none =>
    if method = .get then .error ((ErrorPage.statusAt? t.segments).getD 404) else .error 404

/-- Runs what a request asks for. -/
def perform (s : Service) (r : Request) (t : Target) : Result × Service :=
  match s.understand r t with
  | .error status => (.failed status none, s)
  | .ok call => match (call.run s.setup s.tally).run s.world with
    | (.ok (result, counted), world) =>
      (result, { s with world, tally := counted.foldl Tally.add s.tally })
    | (.error e, world) => (.answered (.ofFailure s.setup e), { s with world })

/-- The response to a request for some target, before it is stamped. -/
def answer (s : Service) (r : Request) (t : Target) : Response × Service :=
  match s.perform r t with
  | (.answered response, s) => (response, s)
  | (.failed status reason, s) =>
    (ErrorPage.respond s.setup status reason t.segments r.prefersJson, s)

/-- Counts a response, and stamps it with a number of its own. -/
def stamp (s : Service) (response : Response) : Response × Service :=
  let (id, world) := s.world.perform .uuid
  let response := ((response.withHeader "x-request-id" id.text).withHeader
    "x-content-type-options" "nosniff").withHeader "cache-control" "no-store"
  let outcome := if response.isError then Counter.errors else .successes
  (response, { s with world, tally := s.tally.add outcome })

/-- Where a request is led after the verdict on its origin. -/
def lead (verdict : Cors.Verdict) (r : Request) (t : Target) : Request × Target :=
  match verdict with
  | .refused status => ({ r with method := .get }, ErrorPage.pathOf status)
  | .unreadable => ({ r with method := .get }, ErrorPage.pathOf 400)
  | .unconcerned | .passed _ | .answered .. => (r, t)

/-- Answers a request. -/
def handle (s : Service) (r : Request) : Response × Service :=
  match Target.ofText? r.target with
  | none =>
    let segments := Target.segmentsOf r.target.toList
    (ErrorPage.respond s.setup 400 none segments r.prefersJson, s)
  | some t =>
    let r := r.withNamedMethod
    let verdict := Cors.judge s.policy r
    let (r, t) := lead verdict r t
    let (response, s) := s.answer r t
    let (response, s) := s.stamp (Cors.finish s.policy verdict response)
    (if r.method = .head then { response with body := .none } else response, s)

end Service
end SignOn.Http
