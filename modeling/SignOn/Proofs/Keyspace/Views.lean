import SignOn.Proofs.Cache.Ledger
import SignOn.Proofs.Keyspace
import SignOn.Proofs.Verification.Limits
/-!
The views over the cache, and all that can be done through them. Each operation is one command on
the key of its place, and what it makes of the answer. So operations at different places do not
meet (`run_apart`), and what is left at the place of an operation that was done is known
(`read?_done`).
-/

namespace SignOn.Keyspace

open SignOn.Text SignOn.Verification

/-- A place in the cache: a view, and the text that it is asked for. -/
inductive Place where
  | session (idCode : String)
  | state (text : String)
  | request (requestId : String)
  | bundle (text : String)
  deriving DecidableEq, Repr

/-- The key of a place. -/
def Place.key : Place → String
  | .session idCode => Sessions.key idCode
  | .state text => States.key text
  | .request requestId => Requests.key requestId
  | .bundle text => Bundles.key (.email text)

/-- No two places share a key. -/
theorem Place.key_injective {p q : Place} (h : p.key = q.key) : p = q := by
  cases p with
  | session a =>
    cases q with
    | session b => exact congrArg _ (sessions_key_injective h)
    | state b => exact absurd h (sessions_ne_states a b)
    | request b => exact absurd h (sessions_ne_requests a b)
    | bundle b => exact absurd h (sessions_ne_bundles a _)
  | state a =>
    cases q with
    | session b => exact absurd h.symm (sessions_ne_states b a)
    | state b => exact congrArg _ (states_key_injective h)
    | request b => exact absurd h.symm (requests_ne_states b a)
    | bundle b => exact absurd h (states_ne_bundles a _)
  | request a =>
    cases q with
    | session b => exact absurd h.symm (sessions_ne_requests b a)
    | state b => exact absurd h (requests_ne_states a b)
    | request b => exact congrArg _ (requests_key_injective h)
    | bundle b => exact absurd h (requests_ne_bundles a _)
  | bundle a =>
    cases q with
    | session b => exact absurd h.symm (sessions_ne_bundles b _)
    | state b => exact absurd h.symm (states_ne_bundles b _)
    | request b => exact absurd h.symm (requests_ne_bundles b _)
    | bundle b => exact congrArg _ (bundles_key_injective h)

/-- The place of the bundle of a subject. An email and a phone with the same text would share it. -/
def bundleOf (subject : Subject) : Place := .bundle subject.key

/-- What can be done through the views. -/
inductive Operation where
  | currentSession (idCode : String)
  | putSession (lifetime : Cache.Lifetime) (idCode sessionKey : String)
  | removeSession (idCode : String)
  | claimState (lifetime : Cache.Lifetime) (state : String) (claimedAt : Int)
  | claimTime (state : String)
  | takeState (lifetime : Cache.Lifetime) (state : String) (claimedAt : Int)
  | restoreState (lifetime : Cache.Lifetime) (state : String) (claimedAt : Int)
  | releaseState (state : String)
  | putRequest (lifetime : Cache.Lifetime) (requestId email : String)
  | requestEmail (requestId : String)
  | removeRequest (requestId : String)
  | loadBundle (subject : Subject)
  | replaceBundle (lifetime : Cache.Lifetime) (subject : Subject) (loaded : Bundles.Loaded)
      (bundle : Bundle)
  | removeBundle (subject : Subject)
  deriving DecidableEq, Repr

namespace Operation

/-- Where an operation takes place. -/
def place : Operation → Place
  | currentSession idCode | putSession _ idCode _ | removeSession idCode => .session idCode
  | claimState _ state _ | claimTime state | takeState _ state _ | restoreState _ state _
  | releaseState state => .state state
  | putRequest _ requestId _ | requestEmail requestId | removeRequest requestId =>
    .request requestId
  | loadBundle subject | replaceBundle _ subject _ _ | removeBundle subject => bundleOf subject

/-- What an operation gives. -/
@[reducible] def Value : Operation → Type
  | currentSession _ | requestEmail _ => Option String
  | claimTime _ => Option Int
  | loadBundle _ => Bundles.Loaded
  | claimState .. | takeState .. | restoreState .. | putRequest .. | replaceBundle .. => Bool
  | putSession .. | removeSession _ | releaseState _ | removeRequest _ | removeBundle _ => Unit

/-- The call of the view. -/
def flow : (o : Operation) → Flow o.Value
  | currentSession idCode => Sessions.current idCode
  | putSession lifetime idCode sessionKey => Sessions.put lifetime idCode sessionKey
  | removeSession idCode => Sessions.remove idCode
  | claimState lifetime state claimedAt => States.claim lifetime state claimedAt
  | claimTime state => States.claimedAt state
  | takeState lifetime state claimedAt => States.take lifetime state claimedAt
  | restoreState lifetime state claimedAt => States.restore lifetime state claimedAt
  | releaseState state => States.release state
  | putRequest lifetime requestId email => Requests.put lifetime requestId email
  | requestEmail requestId => Requests.email requestId
  | removeRequest requestId => Requests.remove requestId
  | loadBundle subject => Bundles.load subject
  | replaceBundle lifetime subject loaded bundle => Bundles.replace lifetime subject loaded bundle
  | removeBundle subject => Bundles.remove subject

/-- The one command that an operation gives. -/
@[reducible] def command : Operation → Cache.Command
  | currentSession idCode => .get (Sessions.key idCode)
  | putSession lifetime idCode sessionKey =>
    .set (Sessions.key idCode) (utf8 sessionKey) (some lifetime)
  | removeSession idCode => .delete (Sessions.key idCode)
  | claimState lifetime state claimedAt =>
    .setIfAbsent (States.key state) (States.claimValue claimedAt) lifetime
  | claimTime state => .get (States.key state)
  | takeState lifetime state claimedAt =>
    .swap (States.key state) (some (States.claimValue claimedAt)) States.consumed lifetime
  | restoreState lifetime state claimedAt =>
    .swap (States.key state) (some States.consumed) (States.claimValue claimedAt) lifetime
  | releaseState state => .delete (States.key state)
  | putRequest lifetime requestId email =>
    .setIfAbsent (Requests.key requestId) (utf8 email) lifetime
  | requestEmail requestId => .get (Requests.key requestId)
  | removeRequest requestId => .delete (Requests.key requestId)
  | loadBundle subject => .get (Bundles.key subject)
  | replaceBundle lifetime subject loaded bundle =>
    .swap (Bundles.key subject) loaded.raw bundle.encode lifetime
  | removeBundle subject => .delete (Bundles.key subject)

/-- What an operation makes of the answer. -/
def outcome : (o : Operation) → o.command.Answer → Except Failure o.Value
  | currentSession _, value => .ok (Sessions.ofValue value)
  | claimTime _, value => .ok (States.ofValue value)
  | requestEmail _, value => .ok (Requests.ofValue value)
  | loadBundle _, value => Bundles.ofValue value
  | claimState .., answer | takeState .., answer | restoreState .., answer | putRequest .., answer
  | replaceBundle .., answer => .ok answer
  | putSession .., answer | removeSession _, answer | releaseState _, answer
  | removeRequest _, answer | removeBundle _, answer => .ok answer

/-- The value that an operation writes if it is done, and for how long. -/
def writes? : Operation → Option (Bytes × Cache.Lifetime)
  | putSession lifetime _ sessionKey => some (utf8 sessionKey, lifetime)
  | claimState lifetime _ claimedAt | restoreState lifetime _ claimedAt =>
    some (States.claimValue claimedAt, lifetime)
  | takeState lifetime _ _ => some (States.consumed, lifetime)
  | putRequest lifetime _ email => some (utf8 email, lifetime)
  | replaceBundle lifetime _ _ bundle => some (bundle.encode, lifetime)
  | _ => none

/-- Whether an operation was done. Conditional writes tell. -/
def IsDone : (o : Operation) → o.Value → Prop
  | claimState .., done | takeState .., done | restoreState .., done | putRequest .., done
  | replaceBundle .., done => done = true
  | _, _ => True

variable {w : World} {o r : Operation}

theorem key?_command (o : Operation) : o.command.key? = some o.place.key := by
  cases o <;> rfl

/-- An operation is its command, and what it makes of the answer. -/
theorem run_flow (hw : Steady w) (o : Operation) : o.flow.run w
    = (o.outcome (w.cache.perform w.millis o.command).1,
      { w with
        cache := (w.cache.perform w.millis o.command).2
        cacheCalls := w.cacheCalls + 1 }) := by
  cases o with
  | currentSession idCode =>
    exact Flow.run_bind_of_ok ((Flow.run_cache _ _).trans (hw.perform _))
  | claimTime state => exact Flow.run_bind_of_ok ((Flow.run_cache _ _).trans (hw.perform _))
  | requestEmail requestId =>
    exact Flow.run_bind_of_ok ((Flow.run_cache _ _).trans (hw.perform _))
  | loadBundle subject => exact run_load hw
  | _ => exact (Flow.run_cache _ _).trans (hw.perform _)

/-- What an operation gives is not changed by one at another place. -/
theorem run_apart (hw : Steady w) (hk : w.cache.Keyed) (h : o.place ≠ r.place) :
    (r.flow.run (o.flow.run w).2).1 = (r.flow.run w).1 := by
  have hkey : o.command.key? ≠ some r.place.key := by
    rw [key?_command]
    exact fun he => h (Place.key_injective (Option.some.inj he))
  have hread : (w.cache.perform w.millis o.command).2.read? w.millis r.place.key
      = w.cache.read? w.millis r.place.key :=
    Cache.Memory.read?_perform_of_key_ne hk hkey (Int.le_refl _)
  rw [run_flow (hw.run o.flow), run_flow hw, run_flow hw]
  exact congrArg r.outcome (Cache.Memory.perform_congr (key?_command r) hread)

/-- An operation that was done has written what it writes. -/
theorem deed?_of_done (hw : Steady w) {value : Bytes} {lifetime : Cache.Lifetime}
    (hwrites : o.writes? = some (value, lifetime)) {answer : o.Value}
    (hanswer : (o.flow.run w).1 = .ok answer) (hdone : o.IsDone answer) :
    o.command.deed? w.millis (w.cache.perform w.millis o.command).1
      = some (o.place.key, .written value (some lifetime) w.millis) := by
  rw [run_flow hw] at hanswer
  generalize (w.cache.perform w.millis o.command).1 = given at hanswer
  cases o with
  | putSession | claimState | takeState | restoreState | putRequest | replaceBundle =>
    cases hwrites
    cases hanswer
    first
    | rfl
    | cases hdone
      rfl
  | _ => cases hwrites

/-- Right after an operation was done, its value is read at its place, unless it is to last for less
than a millisecond. -/
theorem read?_done (hw : Steady w) {value : Bytes} {lifetime : Cache.Lifetime}
    (hwrites : o.writes? = some (value, lifetime)) {answer : o.Value}
    (hanswer : (o.flow.run w).1 = .ok answer) (hdone : o.IsDone answer) :
    (o.flow.run w).2.cache.read? (o.flow.run w).2.millis o.place.key
      = if 1 ≤ lifetime.millis then some value else none := by
  have hdeed := deed?_of_done hw hwrites hanswer hdone
  rw [run_flow hw]
  exact Cache.Memory.read?_of_written (w.millis_lt_lastMilli) hdeed

end Operation
end SignOn.Keyspace
