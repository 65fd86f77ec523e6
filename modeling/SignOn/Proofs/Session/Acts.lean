import SignOn.Google.SignIn
import SignOn.Proofs.Flow.Along
/-!
Which acts a call may do that begins or rotates a session: it looks at the clock, draws UUIDs, asks
the account store, and writes session keys into the cache.
-/

namespace SignOn.Session

open SignOn.Keyspace

/-- An act of a call that begins or rotates a session. -/
def IsOpening : Act → Prop
  | .clock => True
  | .uuid => True
  | .store _ => True
  | .cache (.set key _ _) => ∃ idCode, key = Sessions.key idCode
  | _ => False

variable (s : Setup)

theorem newSnapshot_acts (user : User) : (newSnapshot user).Acts IsOpening :=
  ⟨trivial, fun _ => ⟨trivial, fun _ => trivial⟩⟩

theorem issuePair_acts (snapshot : Snapshot) : (issuePair s snapshot).Acts IsOpening :=
  ⟨trivial, fun _ => ⟨trivial, fun _ => ⟨trivial, fun _ => trivial⟩⟩⟩

theorem put_acts (lifetime : Cache.Lifetime) (idCode key : String) :
    (Sessions.put lifetime idCode key).Acts IsOpening :=
  ⟨⟨idCode, rfl⟩, fun _ => Flow.acts_ofExcept _ _⟩

theorem store_acts (statement : Store.Statement) : (Flow.store statement).Acts IsOpening :=
  ⟨trivial, fun _ => Flow.acts_ofExcept _ _⟩

theorem create_acts (user : User) (provider : AuthProvider) (ip : String) :
    (create s user provider ip).Acts IsOpening := by
  refine (newSnapshot_acts user).bind fun snapshot => ?_
  refine (issuePair_acts s snapshot).bind fun pair => ?_
  refine (store_acts _).bind fun row => ?_
  exact (put_acts _ _ _).bind fun _ => trivial

theorem update_acts (user : User) (provider : AuthProvider) (ip : String) :
    (update s user provider ip).Acts IsOpening := by
  refine (newSnapshot_acts user).bind fun snapshot => ?_
  refine (issuePair_acts s snapshot).bind fun pair => ?_
  refine (store_acts _).bind fun updated => ?_
  have hput : (do Sessions.put s.sessionLifetime snapshot.idCode snapshot.sessionKey
                  return pair : Flow TokenPair).Acts IsOpening :=
    (put_acts _ _ _).bind fun _ => trivial
  cases updated
  · exact (store_acts _).bind fun _ => hput
  · exact hput

theorem signInWith_acts (email ip : String) :
    (Google.signInWith s email ip).Acts IsOpening := by
  refine (store_acts _).bind fun found => ?_
  cases found with
  | none =>
    refine Flow.Acts.bind ?_ fun user => create_acts s user .google ip
    exact ⟨trivial, fun _ => store_acts _⟩
  | some user => exact (Flow.acts_ensure _ _ _).bind fun _ => update_acts s user .google ip

end SignOn.Session
