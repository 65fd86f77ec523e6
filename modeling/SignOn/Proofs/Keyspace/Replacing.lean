import SignOn.Proofs.Keyspace.Alone
import SignOn.Proofs.Token.RoundTrip
/-!
Bundles of one-time codes, read and written over a cache. Callers decide on what a bundle says, and
the cache on its bytes. The two agree: a look shows what another one has shown exactly where the
same bytes are stored (`ofValue_eq_iff`). So a bundle takes the place of a loaded one exactly where
that one still stands, and from then on it is the one that is loaded and can be replaced
(`replacement_exact`).
-/

namespace SignOn.Keyspace.Bundles

open SignOn.Cache SignOn.Verification

variable {time later : Int} {c c' : Memory} {subject : Subject} {lifetime : Lifetime}
  {loaded : Loaded} {bundle : Bundle}

/-! ## Bytes and bundles -/

/-- A loaded bundle tells the bytes that were there, or that there were none. -/
theorem raw_of_ofValue {value : Option Bytes} (h : ofValue value = .ok loaded) :
    loaded.raw = value := by
  unfold ofValue at h
  split at h
  · cases h
    rfl
  · split at h
    · cases h
      rfl
    · cases h

/-- Two looks show the same exactly where they find the same bytes. -/
theorem ofValue_eq_iff {value other : Option Bytes} (h : ofValue value = .ok loaded) :
    ofValue other = .ok loaded ↔ other = loaded.raw := by
  constructor
  · exact fun ho => (raw_of_ofValue ho).symm
  · rintro rfl
    rw [raw_of_ofValue h]
    exact h

/-- What was written for a bundle is read as that bundle. -/
theorem ofValue_encode (hsent : Token.IsInt64 bundle.lastSentAt) :
    ofValue (some bundle.encode) = .ok ⟨some bundle.encode, bundle⟩ := by
  rw [ofValue, decode_encode hsent.1 hsent.2]

/-! ## Over a cache -/

theorem onCache?_load : (load subject).onCache? time c
    = some (ofValue (c.read? time (key subject)), c.settle time (key subject)) :=
  Operation.onCache?_flow (.loadBundle subject)

theorem onCache?_replace : (replace lifetime subject loaded bundle).onCache? time c
    = some (.ok (decide (c.read? time (key subject) = loaded.raw)),
      (c.perform time (.swap (key subject) loaded.raw bundle.encode lifetime)).2) := by
  have hanswer : (c.perform time (.swap (key subject) loaded.raw bundle.encode lifetime)).1
      = decide (c.read? time (key subject) = loaded.raw) := Memory.perform_answer ..
  rw [← hanswer]
  exact Operation.onCache?_flow (.replaceBundle lifetime subject loaded bundle)

/-- A bundle that has replaced another one was written. -/
theorem write_of_replace
    (h : (replace lifetime subject loaded bundle).onCache? time c = some (.ok true, c')) :
    c' = c.write time (key subject) bundle.encode (some lifetime) := by
  rw [onCache?_replace, Option.some.injEq, Prod.mk.injEq, Except.ok.injEq, decide_eq_true_eq] at h
  rw [← h.2, Memory.perform, if_pos h.1]

/-- What a caller finds who looks at a subject whose bundle has replaced a loaded one. -/
structure Stands (later : Int) (c : Memory) (subject : Subject) (loaded : Loaded)
    (bundle : Bundle) : Prop where
  /-- The bundle is loaded, as it was given, -/
  shown : ∃ c', (load subject).onCache? later c = some (.ok ⟨some bundle.encode, bundle⟩, c')
  /-- and can then be replaced, -/
  fresh : ∀ result c', (load subject).onCache? later c = some (result, c') →
    ∀ lifetime next, ∃ c'', (replace lifetime subject ⟨some bundle.encode, bundle⟩ next).onCache?
      later c' = some (.ok true, c'')
  /-- while the one that was loaded before cannot, unless its bytes are the same. -/
  stale : ∀ result c', (load subject).onCache? later c = some (result, c') →
    ∀ lifetime next, ∃ c'', (replace lifetime subject loaded next).onCache? later c'
      = some (.ok (decide (loaded.raw = some bundle.encode)), c'')

/-- A bundle stands where its bytes are read. -/
theorem stands_of_read (hsent : Token.IsInt64 bundle.lastSentAt)
    (hread : c.read? later (key subject) = some bundle.encode) :
    Stands later c subject loaded bundle := by
  have hload : (load subject).onCache? later c
      = some (.ok ⟨some bundle.encode, bundle⟩, c.settle later (key subject)) := by
    rw [onCache?_load, hread, ofValue_encode hsent]
  -- the look leaves the bytes where they are
  have hbehind {result : Except Failure Loaded} {c' : Memory}
      (h : (load subject).onCache? later c = some (result, c')) :
      c'.read? later (key subject) = some bundle.encode := by
    rw [hload, Option.some.injEq, Prod.mk.injEq] at h
    rw [← h.2, Memory.read?_settle, hread]
  refine ⟨⟨_, hload⟩, fun result c' h lifetime next => ?_, fun result c' h lifetime next => ?_⟩
  · rw [onCache?_replace, hbehind h, decide_eq_true rfl]
    exact ⟨_, rfl⟩
  · rw [onCache?_replace, hbehind h, decide_eq_decide.2 eq_comm]
    exact ⟨_, rfl⟩

/-- What comes of giving a bundle in place of a loaded one. -/
structure Replacement (time : Int) (c : Memory) (lifetime : Lifetime) (subject : Subject)
    (loaded : Loaded) (bundle : Bundle) : Prop where
  /-- It is done exactly where the stored bytes, or that there are none, are what was loaded. -/
  answered : ∃ c', (replace lifetime subject loaded bundle).onCache? time c
    = some (.ok (decide (c.read? time (key subject) = loaded.raw)), c')
  /-- Those are the bytes that the look has seen, and a look would now show the same again. -/
  unchanged : ∀ before c₀ c₁, (load subject).onCache? before c₀ = some (.ok loaded, c₁) →
    c₀.read? before (key subject) = loaded.raw ∧
      (c.read? time (key subject) = loaded.raw ↔
        ∃ c', (load subject).onCache? time c = some (.ok loaded, c'))
  /-- If it is done, the bundle stands until its lifetime is over. -/
  stands : ∀ c', (replace lifetime subject loaded bundle).onCache? time c = some (.ok true, c') →
    ∀ later, Dated later → later < time + lifetime.millis → Stands later c' subject loaded bundle

/-- Bundles survive the cache, and the bytes that it compares tell what callers have seen. -/
theorem replacement_exact (htime : Dated time) (c : Memory) (lifetime : Lifetime)
    (subject : Subject) (loaded : Loaded) (hsent : Token.IsInt64 bundle.lastSentAt) :
    Replacement time c lifetime subject loaded bundle where
  answered := ⟨_, onCache?_replace⟩
  unchanged before c₀ c₁ h := by
    rw [onCache?_load, Option.some.injEq, Prod.mk.injEq] at h
    refine ⟨(raw_of_ofValue h.1).symm, ?_⟩
    simp only [onCache?_load, Option.some.injEq, Prod.mk.injEq, exists_and_left, exists_eq',
      and_true, ofValue_eq_iff h.1]
  stands c' h later hlater hlt := by
    refine stands_of_read hsent ?_
    rw [write_of_replace h, Memory.read?_write_lifetime htime hlater, if_pos hlt]

/-- Codes that have to be escaped, sent at the first second there is. -/
def awkward : Bundle := ⟨["\"\\\n", "", "\u00e9\u2028"], -9223372036854775808⟩

/-- The cache after they were written where there was nothing. -/
def holding : Memory := (Memory.perform 999 {} (.swap "verify.ada" none awkward.encode
  (.ofSeconds 1))).2

/-- They are read up to the last millisecond. Who has seen nothing before cannot replace them, but
who has seen them can. -/
theorem replacement_exact_awkward : Dated 999 ∧ Token.IsInt64 awkward.lastSentAt ∧
    (replace (.ofSeconds 1) (.email "ada") {} awkward).onCache? 999 {} = some (.ok true, holding) ∧
    ((load (.email "ada")).onCache? 1998 holding).map (·.1)
      = some (.ok ⟨some awkward.encode, awkward⟩) ∧
    ((load (.email "ada")).onCache? 1999 holding).map (·.1) = some (.ok {}) ∧
    ((replace (.ofSeconds 1) (.email "ada") {} {}).onCache? 1998 holding).map (·.1)
      = some (.ok false) ∧
    ((replace (.ofSeconds 1) (.email "ada") ⟨some awkward.encode, awkward⟩ {}).onCache? 1998
      holding).map (·.1) = some (.ok true) ∧
    Replacement 999 {} (.ofSeconds 1) (.email "ada") {} awkward := by
  have htime : Dated 999 := by decide
  have hsent : Token.IsInt64 awkward.lastSentAt := ⟨by decide, by decide⟩
  exact ⟨htime, hsent, by decide +kernel, by decide +kernel, by decide +kernel, by decide +kernel,
    by decide +kernel, replacement_exact htime {} (.ofSeconds 1) (.email "ada") {} hsent⟩

end SignOn.Keyspace.Bundles
