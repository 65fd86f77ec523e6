import SignOn.Proofs.Flow.Readable
import SignOn.Session.Lifecycle
/-!
When tokens are accepted. A refresh token is accepted if a row holds it, it can be read and has not
expired, and the session began when it says. An access token is accepted if it can be read and has
not expired, and its session key is the one that is cached for its user. Showing a token changes
neither what is stored nor what can be read (`run_of_looks`).
-/

namespace SignOn.Session

open SignOn.Keyspace SignOn.Text

variable {s : Setup} {w : World} {token : String}

/-- A refresh token is accepted. -/
def AcceptsRefresh (s : Setup) (w : World) (token : String) : Prop :=
  ∃ snapshot, ((validateRefresh s token).run w).1 = .ok snapshot

/-- An access token is accepted. -/
def AcceptsAccess (s : Setup) (w : World) (token : String) : Prop :=
  ∃ snapshot, ((validateAccess s token).run w).1 = .ok snapshot

theorem validate_run (s : Setup) (kind : Token.Kind) (token : String) (w : World) :
    (validate s kind token).run w
      = (Token.validate s.suite.sign s.settings.token kind w.now token, w) :=
  Flow.run_ofExcept _

theorem current_run (hup : ∀ n, w.outside.cacheFails n = false) (idCode : String) :
    ((Sessions.current idCode).run w).1
      = .ok (Sessions.ofValue (w.cache.read? w.millis (Sessions.key idCode))) := by
  have hrun : (Sessions.current idCode).run w
      = (Flow.ofExcept (w.perform (.cache (.get (Sessions.key idCode)))).1 >>= fun value =>
          pure (Sessions.ofValue value)).run
        (w.perform (.cache (.get (Sessions.key idCode)))).2 := rfl
  rw [hrun, (w.perform_cache_up hup (by intro _ _ _ _ h; cases h)).1]
  rfl

theorem acceptsRefresh_iff : AcceptsRefresh s w token ↔
    ∃ row snapshot, w.store.sessionByToken token = some row ∧
      Token.validate s.suite.sign s.settings.token .refresh w.now token = .ok snapshot ∧
      row.startedAt = some snapshot.startedAt := by
  simp only [AcceptsRefresh, validateRefresh, Flow.run_bind_ok, Flow.run_require_ok,
    Flow.run_require_world, validate_run, Flow.run_ensure_ok, Flow.run_ensure_world, Flow.run_pure]
  constructor
  · rintro ⟨-, found, hfound, row, hrow, snapshot, hvalid, -, hstart, -⟩
    cases hfound
    exact ⟨row, snapshot, hrow, hvalid, by simpa using hstart⟩
  · rintro ⟨row, snapshot, hrow, hvalid, hstart⟩
    exact ⟨_, _, rfl, row, hrow, snapshot, hvalid, (), by simp [hstart], rfl⟩

theorem acceptsAccess_iff (hup : ∀ n, w.outside.cacheFails n = false) :
    AcceptsAccess s w token ↔
      ∃ snapshot, Token.validate s.suite.sign s.settings.token .access w.now token = .ok snapshot ∧
        snapshot.idCode ≠ "" ∧ snapshot.sessionKey ≠ "" ∧
        Sessions.ofValue (w.cache.read? w.millis (Sessions.key snapshot.idCode))
          = some snapshot.sessionKey := by
  simp only [AcceptsAccess, validateAccess, Flow.run_bind_ok, validate_run, Flow.run_ensure_ok,
    Flow.run_ensure_world, Flow.run_pure, current_run hup, Bool.and_eq_true, bne_iff_ne,
    beq_iff_eq]
  constructor
  · rintro ⟨-, snapshot, hvalid, -, hcode, found, hfound, -, ⟨hkey, hcurrent⟩, -⟩
    cases hfound
    exact ⟨snapshot, hvalid, hcode, hkey, hcurrent⟩
  · rintro ⟨snapshot, hvalid, hcode, hkey, hcurrent⟩
    exact ⟨_, snapshot, hvalid, (), hcode, _, rfl, (), ⟨hkey, hcurrent⟩, rfl⟩

/-! ## What decides -/

/-- The answer to a refresh token comes of the row that is found by it, and of the clock. -/
theorem validateRefresh_answer (s : Setup) (w : World) (token : String) :
    ((validateRefresh s token).run w).1
      = (w.store.sessionByToken token).elim (.error .invalidToken) fun row =>
          (Token.validate s.suite.sign s.settings.token .refresh w.now token).bind fun snapshot =>
            if row.startedAt == some snapshot.startedAt
            then .ok { snapshot with userId := row.userId } else .error .invalidToken := by
  have hlookup : (Flow.store (.sessionByToken token)).run w
      = (.ok (w.store.sessionByToken token), w) := Flow.run_store _ w
  rw [validateRefresh, Flow.run_bind_of_ok hlookup]
  cases w.store.sessionByToken token with
  | none => rfl
  | some row =>
    have hvalid := validate_run s .refresh token w
    rw [Flow.require_some, Flow.done_bind]
    cases hv : Token.validate s.suite.sign s.settings.token .refresh w.now token with
    | error e => rw [hv] at hvalid; rw [Flow.run_bind_of_error hvalid]; rfl
    | ok snapshot =>
      rw [hv] at hvalid
      rw [Flow.run_bind_of_ok hvalid, Option.elim_some, Except.bind]
      cases row.startedAt == some snapshot.startedAt <;> rfl

/-- The answer to an access token comes of the session key of the user whom it names, and of the
clock. -/
theorem validateAccess_answer (hup : ∀ n, w.outside.cacheFails n = false) :
    ((validateAccess s token).run w).1
      = (Token.validate s.suite.sign s.settings.token .access w.now token).bind fun snapshot =>
          if snapshot.idCode == "" then .error .invalidToken
          else if snapshot.sessionKey != "" &&
            Sessions.ofValue (w.cache.read? w.millis (Sessions.key snapshot.idCode))
              == some snapshot.sessionKey then .ok snapshot else .error .sessionExpired := by
  have hvalid := validate_run s .access token w
  rw [validateAccess]
  cases hv : Token.validate s.suite.sign s.settings.token .access w.now token with
  | error e => rw [hv] at hvalid; rw [Flow.run_bind_of_error hvalid]; rfl
  | ok snapshot =>
    rw [hv] at hvalid
    rw [Flow.run_bind_of_ok hvalid, Except.bind]
    have hcurrent : (Sessions.current snapshot.idCode).run w
        = (.ok (Sessions.ofValue (w.cache.read? w.millis (Sessions.key snapshot.idCode))),
            ((Sessions.current snapshot.idCode).run w).2) :=
      Prod.ext (current_run hup snapshot.idCode) rfl
    rw [bne]
    cases snapshot.idCode == "" with
    | true => rfl
    | false =>
      rw [Bool.not_false, Flow.ensure_true, Flow.done_bind, Flow.run_bind_of_ok hcurrent]
      rw [if_neg Bool.false_ne_true]
      split
      · next h => rw [h]; rfl
      · next h => rw [Bool.eq_false_iff.2 h]; rfl

/-! ## Tokens that are shown -/

/-- An act that only looks. -/
def IsLook : Act → Prop
  | .clock => True
  | .store (.sessionByToken _) => True
  | .cache (.get _) => True
  | _ => False

theorem validate_looks (s : Setup) (kind : Token.Kind) (token : String) :
    (validate s kind token).Acts IsLook := ⟨trivial, fun _ => Flow.acts_ofExcept _ _⟩

theorem validateRefresh_looks (s : Setup) (token : String) :
    (validateRefresh s token).Acts IsLook := by
  refine Flow.Acts.bind ⟨trivial, fun _ => Flow.acts_ofExcept _ _⟩ fun found => ?_
  refine (Flow.acts_require _ _ _).bind fun row => (validate_looks s .refresh token).bind
    fun snapshot => ?_
  exact (Flow.acts_ensure _ _ _).bind fun _ => trivial

theorem validateAccess_looks (s : Setup) (token : String) :
    (validateAccess s token).Acts IsLook := by
  refine (validate_looks s .access token).bind fun snapshot => ?_
  refine (Flow.acts_ensure _ _ _).bind fun _ => Flow.Acts.bind ?_ fun current => ?_
  · exact ⟨trivial, fun _ => Flow.Acts.bind (Flow.acts_ofExcept _ _) fun _ => trivial⟩
  · exact (Flow.acts_ensure _ _ _).bind fun _ => trivial

theorem IsLook.perform {act : Act} (h : IsLook act) (hk : w.cache.Keyed) :
    (w.perform act).2.store = w.store ∧ ∀ key later, w.millis ≤ later →
      (w.perform act).2.cache.read? later key = w.cache.read? later key := by
  cases act with
  | clock => exact ⟨rfl, fun _ _ _ => rfl⟩
  | store st =>
    cases st with
    | sessionByToken token => exact ⟨rfl, fun _ _ _ => rfl⟩
    | _ => exact h.elim
  | cache cmd =>
    cases cmd with
    | get key =>
      obtain ⟨lost, calls, answer, cache, he, hcases⟩ := w.performCache_cases (.get key)
      rw [he]
      rcases hcases with ⟨e, -, rfl⟩ | ⟨-, -, rfl⟩ | ⟨-, rfl⟩
      · exact ⟨rfl, fun _ _ _ => rfl⟩
      · exact ⟨rfl, fun _ _ _ => rfl⟩
      · exact ⟨rfl, ((Cache.Memory.Alike.refl hk).settle key).read⟩
    | _ => exact h.elim
  | _ => exact h.elim

/-- Looking leaves what is stored, and what can be read. -/
theorem run_of_looks {α : Type} {f : Flow α} (hf : f.Acts IsLook) (hk : w.cache.Keyed) :
    (f.run w).2.store = w.store ∧ ∀ key later, w.millis ≤ later →
      (f.run w).2.cache.read? later key = w.cache.read? later key := by
  induction f generalizing w with
  | done value => exact ⟨rfl, fun _ _ _ => rfl⟩
  | fail failure => exact ⟨rfl, fun _ _ _ => rfl⟩
  | step act next ih =>
    obtain ⟨hstore, hread⟩ := hf.1.perform hk
    obtain ⟨hstore', hread'⟩ := ih (w.perform act).1 (hf.2 _) (w.perform_keyed hk act)
    refine ⟨hstore'.trans hstore, fun key later hle => ?_⟩
    exact (hread' key later (by rw [w.perform_millis]; exact hle)).trans (hread key later hle)

/-- A token that is shown: what lies outside, what the clock shows, and for a token of which kind it
is taken. -/
structure Showing where
  outside : Outside
  clock : Int
  kind : Token.Kind
  token : String

namespace Showing

/-- The second that the clock shows then. -/
def now (l : Showing) : Int := World.now { outside := l.outside, clock := l.clock }

/-- The millisecond that the clock shows then. -/
def millis (l : Showing) : Int := World.millis { outside := l.outside, clock := l.clock }

/-- The world in which the token is shown. -/
def world (l : Showing) (w : World) : World := { w with outside := l.outside, clock := l.clock }

/-- The token is validated. -/
def flow (s : Setup) (l : Showing) : Flow Snapshot :=
  match l.kind with
  | .access => validateAccess s l.token
  | .refresh => validateRefresh s l.token

/-- What is answered. -/
def answer (s : Setup) (l : Showing) (w : World) : Except Failure Snapshot :=
  ((l.flow s).run (l.world w)).1

theorem flow_looks (s : Setup) (l : Showing) : (l.flow s).Acts IsLook := by
  unfold flow
  split
  · exact validateAccess_looks s l.token
  · exact validateRefresh_looks s l.token

/-- The answer comes of the row that is found by the token, and of the session key of the user whom
the token names. -/
theorem answer_congr {l : Showing} {w w' : World} (hup : ∀ n, l.outside.cacheFails n = false)
    (hfound : w'.store.sessionByToken l.token = w.store.sessionByToken l.token)
    (hread : ∀ snapshot, Token.validate s.suite.sign s.settings.token .access l.now l.token
        = .ok snapshot →
      w'.cache.read? (l.world w').millis (Sessions.key snapshot.idCode)
        = w.cache.read? (l.world w').millis (Sessions.key snapshot.idCode)) :
    l.answer s w' = l.answer s w := by
  unfold answer flow
  cases l.kind with
  | refresh =>
    have hsame : (l.world w').store.sessionByToken l.token
        = (l.world w).store.sessionByToken l.token := hfound
    simp only [validateRefresh_answer, hsame]
    rfl
  | access =>
    have hup' (v : World) : ∀ n, (l.world v).outside.cacheFails n = false := hup
    simp only [validateAccess_answer (hup' _)]
    change Except.bind (Token.validate _ _ .access l.now l.token) _
      = Except.bind (Token.validate _ _ .access l.now l.token) _
    cases hv : Token.validate s.suite.sign s.settings.token .access l.now l.token with
    | error e => rfl
    | ok snapshot =>
      have hsame : (l.world w').cache.read? (l.world w').millis (Sessions.key snapshot.idCode)
          = (l.world w).cache.read? (l.world w).millis (Sessions.key snapshot.idCode) :=
        hread snapshot hv
      rw [Except.bind, Except.bind, hsame]

end Showing

/-- Tokens are shown one after another. -/
def shown (s : Setup) (ls : List Showing) (w : World) : World :=
  ls.foldl (fun w l => ((l.flow s).run (l.world w)).2) w

/-- The clock does not go back, and the cache is up. -/
def Continues (millis : Int) : List Showing → Prop
  | [] => True
  | l :: ls => millis ≤ l.millis ∧ (∀ n, l.outside.cacheFails n = false) ∧ Continues l.millis ls

end SignOn.Session
