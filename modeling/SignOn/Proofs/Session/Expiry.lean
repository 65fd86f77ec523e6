import SignOn.Proofs.Sample
import SignOn.Proofs.Session.Validity
import SignOn.Proofs.Token.RoundTrip
/-!
How long a pair lives. Whatever snapshot a pair is issued for, each of its tokens gives the snapshot
back until the second in which the lifetime of its kind is over, and is invalid from then on:
`validate_issuePair`.
-/

namespace SignOn

/-- The token of a kind. -/
def TokenPair.ofKind (pair : TokenPair) : Token.Kind → String
  | .access => pair.access
  | .refresh => pair.refresh

namespace Session

open SignOn.Token

/-- A pair is issued at the second that the clock shows. -/
theorem issuePair_run (s : Setup) (snapshot : Snapshot) (w : World) : ∃ accessId refreshId,
    ((issuePair s snapshot).run w).1 = .ok (Token.issuePair s.suite.sign s.settings.token snapshot
      w.now accessId refreshId) := ⟨_, _, rfl⟩

/-- Each token of a pair is one that was issued by itself. -/
theorem ofKind_issuePair (sign : Bytes → Bytes → Bytes) (t : TokenSettings) (snapshot : Snapshot)
    (now : Int) (accessId refreshId : Uuid) (kind : Kind) :
    ∃ id, (Token.issuePair sign t snapshot now accessId refreshId).ofKind kind
      = issue sign t kind snapshot now id := by
  cases kind with
  | access => exact ⟨accessId, rfl⟩
  | refresh => exact ⟨refreshId, rfl⟩

/-- A pair can be issued for every snapshot. At whatever second either token is validated as one of
its kind, it gives back the snapshot, but for the number of the user, if its lifetime is not yet
over, and is refused as invalid otherwise. -/
theorem validate_issuePair (s : Setup) (snapshot : Snapshot) (w : World)
    (hs : IsInt64 snapshot.startedAt)
    (he : ∀ kind, IsExpiry (w.now + lifetime s.settings.token kind)) :
    ∃ pair, ((issuePair s snapshot).run w).1 = .ok pair ∧ ∀ (kind : Kind) (w' : World),
      ((validate s kind (pair.ofKind kind)).run w').1
        = if w'.now < w.now + lifetime s.settings.token kind then .ok { snapshot with userId := 0 }
          else .error .invalidToken := by
  obtain ⟨accessId, refreshId, hrun⟩ := issuePair_run s snapshot w
  refine ⟨_, hrun, fun kind w' => ?_⟩
  obtain ⟨id, hid⟩ := ofKind_issuePair s.suite.sign s.settings.token snapshot w.now accessId
    refreshId kind
  calc ((validate s kind _).run w').1
    _ = Token.validate s.suite.sign s.settings.token kind w'.now _ :=
      congrArg Prod.fst (validate_run s kind _ w')
    _ = _ := by rw [hid]; exact validate_issue _ _ kind id (he kind) hs w'.now

/-- A session without an email that began before all time. -/
def ancient : Snapshot where
  userId := 7
  idCode := "\"ada\\\n\u0000 \u2028é"
  email := none
  activated := false
  startedAt := -9223372036854775808
  sessionKey := ""

/-- With default settings, the access token of a pair that was issued in second 1000 lives for
thirty minutes. -/
theorem validate_issuePair_ancient : ∃ pair,
    ((issuePair Sample.setup ancient).run Sample.world).1 = .ok pair ∧
    ((validate Sample.setup .access (pair.ofKind .access)).run
        { Sample.world with clock := 2799999 }).1 = .ok { ancient with userId := 0 } ∧
    ((validate Sample.setup .access (pair.ofKind .access)).run
        { Sample.world with clock := 2800000 }).1 = .error .invalidToken := by
  have hs : IsInt64 ancient.startedAt := ⟨by decide, by decide⟩
  have he (kind : Kind) :
      IsExpiry (Sample.world.now + lifetime Sample.setup.settings.token kind) := by
    cases kind <;> exact ⟨by decide, by decide⟩
  obtain ⟨pair, hpair, hvalid⟩ := validate_issuePair Sample.setup ancient Sample.world hs he
  have hlast := hvalid .access { Sample.world with clock := 2799999 }
  have hover := hvalid .access { Sample.world with clock := 2800000 }
  rw [if_pos (by decide)] at hlast
  rw [if_neg (by decide)] at hover
  exact ⟨pair, hpair, hlast, hover⟩

end Session
end SignOn
