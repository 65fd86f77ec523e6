import SignOn.Proofs.Keyspace.Views
/-!
Views over nothing but a cache inside the process. The clock of a world shows only the years that
have dates; here it shows any millisecond. An operation of a view is its command, and what it makes
of the answer (`Operation.onCache?_flow`), and in a world whose cache is up it does the same
(`run_of_onCache?`).
-/

namespace SignOn.Flow

variable {α : Type} {time : Int} {c c' : Cache.Memory}

/-- Runs a call over a cache, at a millisecond of the epoch. A call that asks for anything else has
no outcome. -/
def onCache? (time : Int) : Flow α → Cache.Memory → Option (Except Failure α × Cache.Memory)
  | .done value, c => some (.ok value, c)
  | .fail failure, c => some (.error failure, c)
  | .step (.cache cmd) next, c =>
    (next (.ok (c.perform time cmd).1)).onCache? time (c.perform time cmd).2
  | .step _ _, _ => none

theorem onCache?_ofExcept (result : Except Failure α) :
    (ofExcept result).onCache? time c = some (result, c) := by
  cases result <;> rfl

/-- A call that asks for the cache only ends in a world as it ends over the cache of the world. -/
theorem run_of_onCache? {f : Flow α} {w : World} {result : Except Failure α}
    (hw : Verification.Steady w) (h : f.onCache? w.millis w.cache = some (result, c')) :
    ∃ calls, f.run w = (result, { w with cache := c', cacheCalls := calls }) := by
  induction f generalizing w with
  | done value =>
    cases h
    exact ⟨w.cacheCalls, rfl⟩
  | fail failure =>
    cases h
    exact ⟨w.cacheCalls, rfl⟩
  | step act next ih =>
    cases act with
    | cache cmd =>
      obtain ⟨calls, hrun⟩ := ih _ (hw.act (.cache cmd)) (by rw [hw.perform]; exact h)
      rw [hw.perform] at hrun
      refine ⟨calls, ?_⟩
      rw [run, hw.perform]
      exact hrun
    | _ => cases h

end SignOn.Flow

namespace SignOn.Keyspace

variable {time : Int} {c : Cache.Memory}

/-- An operation is its command, and what it makes of the answer. -/
theorem Operation.onCache?_flow (o : Operation) : o.flow.onCache? time c
    = some (o.outcome (c.perform time o.command).1, (c.perform time o.command).2) := by
  cases o with
  | loadBundle subject => exact Flow.onCache?_ofExcept _
  | _ => rfl

end SignOn.Keyspace
