import SignOn.Proofs.Session.Expiry
import SignOn.Proofs.Session.Mint
import SignOn.Startup
/-!
What keeps the two kinds of token apart. A pair carries one snapshot in both tokens, so only the
secrets tell them apart: where these differ, either token is malformed when it is taken for the
other kind, whenever it is shown; where they are equal, each token is as good for the other kind as
for its own. `other_kind_exact` says so of every pair. Starting up asks of the secrets only that
they are there, so a service may run with equal ones (`interchangeable_shared`).
-/

namespace SignOn.Token

open SignOn.Crypto

/-- The kind that a token is not of. -/
def Kind.other : Kind → Kind
  | .access => .refresh
  | .refresh => .access

/-- The claims of the token of a kind that is issued in a second under a name. -/
def issuedClaims (s : TokenSettings) (kind : Kind) (snapshot : Snapshot) (issuedAt : Int)
    (id : Uuid) : Claims :=
  ⟨snapshot.encode, issuedAt + lifetime s kind, id.text⟩

/-- Two different keys do not sign these claims alike. -/
def SignedApart (sign : Bytes → Bytes → Bytes) (key key' : Bytes) (claims : Claims) : Prop :=
  key ≠ key' → signature sign key (message claims) ≠ signature sign key' (message claims)

section
variable (sign : Bytes → Bytes → Bytes) (s : TokenSettings)

theorem secret_ne_other (kind : Kind) (h : s.accessSecret ≠ s.refreshSecret) :
    secret s kind ≠ secret s kind.other := by
  have hbytes : Text.utf8 s.accessSecret ≠ Text.utf8 s.refreshSecret :=
    fun he => h (Text.utf8_injective he)
  cases kind with
  | access => exact hbytes
  | refresh => exact hbytes.symm

theorem secret_other (kind : Kind) (h : s.accessSecret = s.refreshSecret) :
    secret s kind.other = secret s kind := by
  cases kind with
  | access => exact congrArg Text.utf8 h.symm
  | refresh => exact congrArg Text.utf8 h

/-- A written token cannot be read under a key whose signature is another one. -/
theorem read?_write_of_signature_ne {key key' : Bytes} {c : Claims}
    (h : signature sign key (message c) ≠ signature sign key' (message c)) :
    read? sign key' (write sign key c) = none := by
  have hbad : (signature sign key (message c) == signature sign key' (message c)) = false :=
    beq_eq_false_iff_ne.2 h
  rw [message] at hbad
  rw [read?, write, message, signature, ofText?_parts]
  rw [signature] at hbad
  simp only [bind, Option.bind, ofPart?_part, Parts.message, hbad, Bool.and_false,
    Bool.false_eq_true, if_false]

/-- Where the secrets differ, a token is malformed for the other kind at every time. -/
theorem validate_other_of_ne (kind : Kind) {snapshot : Snapshot} {issuedAt : Int} {id : Uuid}
    (hne : s.accessSecret ≠ s.refreshSecret)
    (hapart : SignedApart sign (secret s kind) (secret s kind.other)
      (issuedClaims s kind snapshot issuedAt id)) (now : Int) :
    validate sign s kind.other now (issue sign s kind snapshot issuedAt id)
      = .error (.malformedToken "Failed to parse token") := by
  have hread : read? sign (secret s kind.other) (issue sign s kind snapshot issuedAt id) = none :=
    read?_write_of_signature_ne sign (hapart (secret_ne_other s kind hne))
  rw [validate, hread]

/-- Where the secrets are equal, the other kind makes no difference but for how long tokens live. -/
theorem validate_other_of_eq (kind : Kind) (heq : s.accessSecret = s.refreshSecret) (now : Int)
    (token : String) :
    validate sign s kind.other now token = validate sign s kind now token := by
  rw [validate, validate, secret_other s kind heq]

end

theorem ofKind_pair (sign : Bytes → Bytes → Bytes) (t : TokenSettings) (snapshot : Snapshot)
    (issuedAt : Int) (ids : Kind → Uuid) (kind : Kind) :
    (issuePair sign t snapshot issuedAt (ids .access) (ids .refresh)).ofKind kind
      = issue sign t kind snapshot issuedAt (ids kind) := by
  cases kind <;> rfl

theorem run_bind_refused {α β : Type} {f : Flow α} {g : α → Flow β} {e : Failure} {w : World}
    (h : (f.run w).1 = .error e) : ((f >>= g).run w).1 = .error e := by
  rw [Flow.run_bind_of_error (Prod.ext h rfl)]

/-- The answer to a token comes of the clock alone. -/
theorem validate_answer (s : Setup) (kind : Kind) (token : String) (w : World) :
    ((Session.validate s kind token).run w).1
      = validate s.suite.sign s.settings.token kind w.now token := by
  simp only [Session.validate_run]

/-- How a token of a pair fares when it is taken for the other kind. -/
structure Parted (s : Setup) (kind : Kind) (snapshot : Snapshot) (issuedAt : Int) (token : String) :
    Prop where
  /-- Different secrets part the kinds at every time. -/
  refused : s.settings.token.accessSecret ≠ s.settings.token.refreshSecret → ∀ w,
    ((Session.validate s kind.other token).run w).1
      = .error (.malformedToken "Failed to parse token")
  /-- With equal secrets the token passes until the lifetime of its own kind is over. -/
  passes : s.settings.token.accessSecret = s.settings.token.refreshSecret →
    IsExpiry (issuedAt + lifetime s.settings.token kind) → ∀ w,
    ((Session.validate s kind.other token).run w).1
      = if w.now < issuedAt + lifetime s.settings.token kind then .ok { snapshot with userId := 0 }
        else .error .invalidToken

theorem parted_issue (s : Setup) (kind : Kind) {snapshot : Snapshot} {issuedAt : Int} {id : Uuid}
    (hs : IsInt64 snapshot.startedAt)
    (hapart : SignedApart s.suite.sign (secret s.settings.token kind)
      (secret s.settings.token kind.other)
      (issuedClaims s.settings.token kind snapshot issuedAt id)) :
    Parted s kind snapshot issuedAt
      (issue s.suite.sign s.settings.token kind snapshot issuedAt id) where
  refused hne w := by
    rw [validate_answer]
    exact validate_other_of_ne s.suite.sign s.settings.token kind hne hapart w.now
  passes heq he w := by
    rw [validate_answer, validate_other_of_eq s.suite.sign s.settings.token kind heq]
    exact validate_issue s.suite.sign s.settings.token kind id he hs w.now

/-- Whatever snapshot a pair is issued for, and whenever, different secrets keep its tokens apart
for good: neither is ever valid as one of the other kind, and the refresh token gives no access.
Equal secrets keep nothing apart until the tokens expire. -/
theorem other_kind_exact (s : Setup) (snapshot : Snapshot) (issuedAt : Int) (ids : Kind → Uuid)
    (hs : IsInt64 snapshot.startedAt)
    (hapart : ∀ kind, SignedApart s.suite.sign (secret s.settings.token kind)
      (secret s.settings.token kind.other)
      (issuedClaims s.settings.token kind snapshot issuedAt (ids kind))) :
    let pair := issuePair s.suite.sign s.settings.token snapshot issuedAt (ids .access)
      (ids .refresh)
    (∀ kind, Parted s kind snapshot issuedAt (pair.ofKind kind)) ∧
    (s.settings.token.accessSecret ≠ s.settings.token.refreshSecret → ∀ w,
      ((Session.validateAccess s pair.refresh).run w).1
        = .error (.malformedToken "Failed to parse token")) := by
  intro pair
  have hparted (kind : Kind) : Parted s kind snapshot issuedAt (pair.ofKind kind) := by
    rw [ofKind_pair]
    exact parted_issue s kind hs (hapart kind)
  refine ⟨hparted, fun hne w => ?_⟩
  have hrefused : ((Session.validate s .access pair.refresh).run w).1
      = .error (.malformedToken "Failed to parse token") := (hparted .refresh).refused hne w
  exact run_bind_refused hrefused

/-! ## Two services -/

/-- A service with these secrets. -/
def secured (accessSecret refreshSecret : String) : Setup where
  settings := { token := { accessSecret := accessSecret, refreshSecret := refreshSecret } }
  suite := Suite.standard
  authorizationUrl := id

/-- A service with two secrets. -/
def twoSecrets : Setup := secured "access-secret" "refresh-secret"

/-- The names of the tokens of a pair. -/
def pairIds : Kind → Uuid
  | .access => Sample.uuid 0
  | .refresh => Sample.uuid 1

/-- Keyed SHA-256 signs the tokens of a pair differently under the two secrets. -/
theorem signedApart_twoSecrets (kind : Kind) :
    SignedApart Suite.standard.sign (secret twoSecrets.settings.token kind)
      (secret twoSecrets.settings.token kind.other)
      (issuedClaims twoSecrets.settings.token kind Session.ancient 1000 (pairIds kind)) := by
  intro _
  cases kind with
  | access => decide +kernel
  | refresh => decide +kernel

/-- A service with two secrets, and a pair that it issues in second 1000. -/
theorem other_kind_exact_twoSecrets :
    let s := twoSecrets
    let pair := issuePair s.suite.sign s.settings.token Session.ancient 1000 (Sample.uuid 0)
      (Sample.uuid 1)
    s.settings.missingSecrets = [] ∧
    (∀ w, ((Session.validate s .access pair.refresh).run w).1
      = .error (.malformedToken "Failed to parse token")) ∧
    (∀ w, ((Session.validate s .refresh pair.access).run w).1
      = .error (.malformedToken "Failed to parse token")) ∧
    ∀ w, ((Session.validateAccess s pair.refresh).run w).1
      = .error (.malformedToken "Failed to parse token") := by
  intro s pair
  have hne : s.settings.token.accessSecret ≠ s.settings.token.refreshSecret := by decide
  obtain ⟨hparted, haccess⟩ := other_kind_exact s Session.ancient 1000 pairIds
    ⟨by decide, by decide⟩ signedApart_twoSecrets
  exact ⟨by decide +kernel, (hparted .refresh).refused hne, (hparted .access).refused hne,
    haccess hne⟩

/-- A service that runs for users, with a store and a cache server. -/
def released : Startup.Surroundings := ⟨"release", true, fun _ => true⟩

/-- A service with one secret for both kinds. -/
def shared : Setup := secured "secret" "secret"

/-- A first login. -/
def login (s : Setup) : Except Failure TokenPair × World :=
  (Session.create s Sample.ada .google "").run Sample.home

/-- Of what that login makes its pair. -/
def loginMint : Session.Mint := ⟨1000, Sample.uuid 0, 1000, Sample.uuid 1, Sample.uuid 2⟩

/-- The signatures do not matter to which tokens are issued. -/
theorem login_pair (s : Setup) : (login s).1 = .ok (loginMint.pair s Sample.ada) := rfl

theorem shared_passes (kind : Kind) (id : Uuid) {now : Int}
    (hnow : now < 1000 + lifetime shared.settings.token kind) :
    validate shared.suite.sign shared.settings.token kind.other now
      (issue shared.suite.sign shared.settings.token kind (loginMint.snapshot Sample.ada) 1000 id)
      = .ok { loginMint.snapshot Sample.ada with userId := 0 } := by
  have hs : IsInt64 (loginMint.snapshot Sample.ada).startedAt := ⟨by decide, by decide⟩
  have he : IsExpiry (1000 + lifetime shared.settings.token kind) := by
    cases kind <;> exact ⟨by decide, by decide⟩
  rw [validate_other_of_eq _ _ kind rfl, validate_issue _ _ kind id he hs, if_pos hnow]

/-- With one secret for both kinds the service starts, and at a first login the refresh token gives
access while the access token passes for a refresh token. -/
theorem interchangeable_shared :
    Startup.failed released shared.settings = [] ∧
    ∃ pair, (login shared).1 = .ok pair ∧
      Session.AcceptsAccess shared (login shared).2 pair.refresh ∧
      ∃ snapshot, ((Session.validate shared .refresh pair.access).run (login shared).2).1
        = .ok snapshot := by
  refine ⟨by decide +kernel, loginMint.pair shared Sample.ada, login_pair shared, ?_,
    { loginMint.snapshot Sample.ada with userId := 0 }, ?_⟩
  · rw [Session.acceptsAccess_iff fun _ => rfl]
    exact ⟨{ loginMint.snapshot Sample.ada with userId := 0 },
      shared_passes .refresh (Sample.uuid 2) (by decide +kernel), by decide +kernel,
      by decide +kernel, by decide +kernel⟩
  · rw [validate_answer]
    exact shared_passes .access (Sample.uuid 1) (by decide +kernel)

end SignOn.Token
