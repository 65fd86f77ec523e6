import Mathlib.Logic.Function.Basic
import SignOn.Proofs.Keyspace.Alone
import SignOn.Proofs.Token.RoundTrip
/-!
The states of sign-ins as a machine. Each state is free, claimed since a second, or consumed, and
what is not free becomes free again one lifetime after it was written. The cache holds bytes under
keys; the calls on it are answered by the machine nevertheless, whatever seconds they name, as long
as the clock does not go back. One step keeps cache and machine together (`Shows.step`), so whole
runs do (`machine_exact`). There the states cannot meet, since none is stored with another one.
-/

namespace SignOn.Keyspace.States

open SignOn.Cache

/-! ## The machine -/

/-- What is done to a state. -/
inductive Move where
  | claim (second : Int)
  | claimedAt
  | take (second : Int)
  | restore (second : Int)
  | release
  deriving DecidableEq, Repr

namespace Move

/-- What a move gives. -/
@[reducible] def Answer : Move → Type
  | claim _ | take _ | restore _ => Bool
  | claimedAt => Option Int
  | release => Unit

/-- The second that a move names has 64 bits. -/
def IsCounted : Move → Prop
  | claim second | take second | restore second => Token.IsInt64 second
  | claimedAt | release => True

/-- The call of the view. -/
def flow (lifetime : Lifetime) (state : String) : (m : Move) → Flow m.Answer
  | claim second => States.claim lifetime state second
  | claimedAt => States.claimedAt state
  | take second => States.take lifetime state second
  | restore second => States.restore lifetime state second
  | release => States.release state

end Move

/-- What a state is. -/
inductive Phase where
  | free
  | claimed (since : Int)
  | consumed
  deriving DecidableEq, Repr

namespace Phase

/-- The answer to a move. -/
def answer (p : Phase) : (m : Move) → m.Answer
  | .claim _ => decide (p = free)
  | .claimedAt => match p with
    | claimed since => some since
    | free | consumed => none
  | .take second => decide (p = claimed second)
  | .restore _ => decide (p = consumed)
  | .release => ()

/-- What a move makes of a state, if it does anything to it. -/
def next? (p : Phase) : Move → Option Phase
  | .claim second => if p = free then some (claimed second) else none
  | .claimedAt => none
  | .take second => if p = claimed second then some consumed else none
  | .restore second => if p = consumed then some (claimed second) else none
  | .release => some free

end Phase

/-- A phase, and the millisecond of the epoch at which the state came to it. -/
structure Mark where
  phase : Phase := .free
  written : Int := 0
  deriving DecidableEq, Repr

/-- What a state is at a time. Every phase lapses one lifetime after it was written. -/
def Mark.phaseAt (lifetime : Lifetime) (now : Int) (m : Mark) : Phase :=
  if now < m.written + lifetime.millis then m.phase else .free

/-- A call on a state, and the millisecond of the epoch at which it is made. -/
structure Call where
  time : Int
  state : String
  move : Move
  deriving DecidableEq, Repr

/-- The machine: a mark for each state. -/
abbrev Machine := String → Mark

namespace Machine

/-- Answers a call. Nothing is done to other states. -/
def serve (lifetime : Lifetime) (m : Machine) (call : Call) : call.move.Answer × Machine :=
  let phase := (m call.state).phaseAt lifetime call.time
  (phase.answer call.move, match phase.next? call.move with
    | some next => Function.update m call.state ⟨next, call.time⟩
    | none => m)

/-- The answers to calls that are made one after another. -/
def answers (lifetime : Lifetime) : List Call → Machine → List ((call : Call) × call.move.Answer)
  | [], _ => []
  | call :: rest, m =>
    ⟨call, (m.serve lifetime call).1⟩ :: answers lifetime rest (m.serve lifetime call).2

end Machine

/-- The outcomes of calls that are made one after another, over a cache. -/
def outcomes? (lifetime : Lifetime) :
    List Call → Memory → Option (List ((call : Call) × Except Failure call.move.Answer))
  | [], _ => some []
  | call :: rest, c => do
    let (outcome, c) ← (call.move.flow lifetime call.state).onCache? call.time c
    return ⟨call, outcome⟩ :: (← outcomes? lifetime rest c)

/-- The clock does not go back from call to call, whatever it shows has a date, and the seconds that
the calls name have 64 bits. -/
structure InOrder (calls : List Call) : Prop where
  forward : (calls.map (·.time)).Pairwise (· ≤ ·)
  dated : ∀ call ∈ calls, Dated call.time
  counted : ∀ call ∈ calls, call.move.IsCounted

/-! ## Phases as bytes -/

namespace Phase

/-- What is stored for a state. -/
def value? : Phase → Option Bytes
  | free => none
  | claimed since => some (claimValue since)
  | consumed => some States.consumed

/-- The second of a claim has 64 bits. -/
def IsCounted : Phase → Prop
  | claimed since => Token.IsInt64 since
  | free | consumed => True

/-- What brings a state to a phase. -/
def deed (lifetime : Lifetime) (time : Int) : Phase → Deed
  | free => .deleted
  | claimed since => .written (claimValue since) (some lifetime) time
  | consumed => .written States.consumed (some lifetime) time

variable {p q : Phase} {lifetime : Lifetime} {time later : Int}

/-- The phase is told by the bytes. -/
theorem value?_eq_iff (hp : p.IsCounted) (hq : q.IsCounted) : p.value? = q.value? ↔ p = q := by
  refine ⟨fun h => ?_, congrArg value?⟩
  cases p with
  | free => cases q <;> first | rfl | cases h
  | claimed since =>
    cases q with
    | free => cases h
    | claimed other =>
      -- both seconds are read back from the same bytes
      have hread := congrArg ofValue h
      rw [value?, value?, ofValue_claimValue hp.1 hp.2, ofValue_claimValue hq.1 hq.2] at hread
      rw [Option.some.inj hread]
    | consumed => exact absurd (Option.some.inj h) (claimValue_ne_consumed since)
  | consumed =>
    cases q with
    | free => cases h
    | claimed other => exact absurd (Option.some.inj h).symm (claimValue_ne_consumed other)
    | consumed => rfl

/-- What is left of a deed is the phase, until that lapses. -/
theorem visible?_deed (hlater : Dated later) : (p.deed lifetime time).visible? later
    = (Mark.phaseAt lifetime later ⟨p, time⟩).value? := by
  have hcut : later < deadline time lifetime ↔ later < time + lifetime.millis :=
    Memory.lt_deadline_iff hlater
  unfold Mark.phaseAt
  cases p with
  | free => split <;> rfl
  | _ =>
    simp only [deed, Deed.visible?, hcut]
    split <;> rfl

end Phase

/-! ## One call -/

variable {lifetime : Lifetime} {time now : Int} {c : Memory} {p : Phase} {state : String}
  {move : Move} {m : Machine} {call : Call} {calls : List Call}

/-- Where the bytes of a phase are read, a call is answered by the phase, and its command does to
the state what the machine does. -/
theorem onCache?_flow (lifetime : Lifetime) (hp : p.IsCounted) (hmove : move.IsCounted)
    (hread : c.read? time (key state) = p.value?) : ∃ cmd : Command,
      (move.flow lifetime state).onCache? time c
        = some (.ok (p.answer move), (c.perform time cmd).2) ∧
      cmd.deed? time (cmd.answerBy (c.read? time))
        = (p.next? move).map fun next => (key state, next.deed lifetime time) := by
  have hanswer (cmd : Command) := Memory.perform_answer c time cmd
  cases move with
  | claim second =>
    refine ⟨.setIfAbsent (key state) (claimValue second) lifetime, ?_, ?_⟩
    · refine (Operation.onCache?_flow (.claimState lifetime state second)).trans ?_
      rw [Operation.outcome, hanswer, Command.answerBy, hread]
      cases p <;> rfl
    · rw [Command.answerBy, hread]
      cases p <;> rfl
  | claimedAt =>
    refine ⟨.get (key state), ?_, rfl⟩
    refine (Operation.onCache?_flow (.claimTime state)).trans ?_
    rw [Operation.outcome, hanswer, Command.answerBy, hread]
    cases p with
    | claimed since => rw [Phase.value?, ofValue_claimValue hp.1 hp.2]; rfl
    | _ => rfl
  | take second =>
    have hsame : decide (p.value? = some (claimValue second)) = decide (p = .claimed second) :=
      decide_eq_decide.2 (Phase.value?_eq_iff (q := .claimed second) hp hmove)
    refine ⟨.swap (key state) (some (claimValue second)) consumed lifetime, ?_, ?_⟩
    · refine (Operation.onCache?_flow (.takeState lifetime state second)).trans ?_
      rw [Operation.outcome, hanswer, Command.answerBy, hread, hsame]
      rfl
    · rw [Command.answerBy, hread, hsame, Phase.next?]
      by_cases h : p = .claimed second <;> simp [h, Command.deed?, Phase.deed]
  | restore second =>
    have hsame : decide (p.value? = some consumed) = decide (p = .consumed) :=
      decide_eq_decide.2 (Phase.value?_eq_iff (q := .consumed) hp trivial)
    refine ⟨.swap (key state) (some consumed) (claimValue second) lifetime, ?_, ?_⟩
    · refine (Operation.onCache?_flow (.restoreState lifetime state second)).trans ?_
      rw [Operation.outcome, hanswer, Command.answerBy, hread, hsame]
      rfl
    · rw [Command.answerBy, hread, hsame, Phase.next?]
      by_cases h : p = .consumed <;> simp [h, Command.deed?, Phase.deed]
  | release => exact ⟨.delete (key state), Operation.onCache?_flow (.releaseState state), rfl⟩

/-- From now on, the bytes of each state are those of its phase. -/
structure Shows (lifetime : Lifetime) (now : Int) (m : Machine) (c : Memory) : Prop where
  keyed : c.Keyed
  counted : ∀ state, (m state).phase.IsCounted
  read : ∀ state later, now ≤ later → Dated later →
    c.read? later (key state) = ((m state).phaseAt lifetime later).value?

theorem Mark.isCounted_phaseAt {mark : Mark} (h : mark.phase.IsCounted) :
    (mark.phaseAt lifetime now).IsCounted := by
  unfold phaseAt
  split
  · exact h
  · trivial

theorem Phase.isCounted_next? {next : Phase} (hmove : move.IsCounted)
    (h : p.next? move = some next) : next.IsCounted := by
  cases move with
  | claim second | restore second =>
    obtain ⟨-, hnext⟩ := Option.ite_none_right_eq_some.1 h
    cases hnext
    exact hmove
  | claimedAt => cases h
  | take second =>
    obtain ⟨-, hnext⟩ := Option.ite_none_right_eq_some.1 h
    cases hnext
    trivial
  | release =>
    cases h
    trivial

/-- A call is answered by the machine, and keeps the cache with it. -/
theorem Shows.step (h : Shows lifetime now m c) (hle : now ≤ call.time) (htime : Dated call.time)
    (hmove : call.move.IsCounted) : ∃ c',
      (call.move.flow lifetime call.state).onCache? call.time c
        = some (.ok (m.serve lifetime call).1, c') ∧
      Shows lifetime call.time (m.serve lifetime call).2 c' := by
  have hread := h.read call.state call.time hle htime
  have hphase : ((m call.state).phaseAt lifetime call.time).IsCounted :=
    Mark.isCounted_phaseAt (h.counted call.state)
  obtain ⟨cmd, hflow, hdeed⟩ := onCache?_flow lifetime hphase hmove hread
  refine ⟨_, hflow, h.keyed.perform call.time cmd, fun state => ?_, fun state later hlater hd => ?_⟩
  · rw [Machine.serve]
    cases hnext : ((m call.state).phaseAt lifetime call.time).next? call.move with
    | none => exact h.counted state
    | some next =>
      by_cases hs : state = call.state
      · subst hs
        simpa only [Function.update_self] using Phase.isCounted_next? hmove hnext
      · simpa only [Function.update_of_ne hs] using h.counted state
  · rw [Memory.read?_perform h.keyed htime hd hlater, hdeed, Machine.serve,
      h.read state later (Int.le_trans hle hlater) hd]
    cases hnext : ((m call.state).phaseAt lifetime call.time).next? call.move with
    | none => rfl
    | some next =>
      by_cases hs : state = call.state
      · subst hs
        simp only [Option.map_some, visibleBehind, if_true, Function.update_self,
          Phase.visible?_deed hd]
      · have hk : key state ≠ key call.state := fun hk => hs (states_key_injective hk)
        simp only [Option.map_some, visibleBehind, if_neg hk, Function.update_of_ne hs]

namespace Machine

variable {m' : Machine}

/-- How a call is answered, and what comes of its state, depends on the mark of that state only. -/
theorem serve_congr (lifetime : Lifetime) (h : m call.state = m' call.state) :
    (m.serve lifetime call).1 = (m'.serve lifetime call).1 ∧
      (m.serve lifetime call).2 call.state = (m'.serve lifetime call).2 call.state := by
  simp only [serve, h, true_and]
  cases ((m' call.state).phaseAt lifetime call.time).next? call.move with
  | none => exact h
  | some next => simp only [Function.update_self]

theorem serve_apart (h : state ≠ call.state) : (m.serve lifetime call).2 state = m state := by
  rw [serve]
  split
  · exact Function.update_of_ne h ..
  · rfl

/-- The calls on one state are answered as if there were no others. -/
theorem filter_answers (h : m state = m' state) :
    (answers lifetime calls m).filter (·.1.state = state)
      = answers lifetime (calls.filter (·.state = state)) m' := by
  induction calls generalizing m m' with
  | nil => rfl
  | cons call rest ih =>
    rw [answers, List.filter_cons, List.filter_cons]
    by_cases hs : call.state = state
    · subst hs
      obtain ⟨hanswer, hnext⟩ := serve_congr lifetime h
      simp only [decide_true, if_true, answers, hanswer, ih hnext]
    · have hnext : (m.serve lifetime call).2 state = m' state :=
        (serve_apart fun he => hs he.symm).trans h
      simp only [hs, decide_false, Bool.false_eq_true, if_false, ih hnext]

end Machine

/-! ## Runs -/

theorem InOrder.tail {calls : List Call} (h : InOrder (call :: calls)) :
    InOrder calls ∧ ∀ later ∈ calls, call.time ≤ later.time := by
  obtain ⟨hlater, hforward⟩ := List.pairwise_cons.1 h.forward
  exact ⟨⟨hforward, fun d hd => h.dated d (List.mem_cons_of_mem _ hd),
    fun d hd => h.counted d (List.mem_cons_of_mem _ hd)⟩,
    fun d hd => hlater d.time (List.mem_map_of_mem hd)⟩

/-- Calls on some of the states are in order if all are. -/
theorem InOrder.filter (h : InOrder calls) (keep : Call → Bool) : InOrder (calls.filter keep) where
  forward := h.forward.sublist (List.filter_sublist.map _)
  dated d hd := h.dated d (List.mem_filter.1 hd).1
  counted d hd := h.counted d (List.mem_filter.1 hd).1

/-- Whole runs are answered by the machine. -/
theorem Shows.run (h : Shows lifetime now m c) (hnow : ∀ call ∈ calls, now ≤ call.time)
    (hcalls : InOrder calls) : outcomes? lifetime calls c
      = some ((Machine.answers lifetime calls m).map fun a => ⟨a.1, .ok a.2⟩) := by
  induction calls generalizing now m c with
  | nil => rfl
  | cons call rest ih =>
    obtain ⟨hrest, hlater⟩ := hcalls.tail
    obtain ⟨c', hflow, hnext⟩ := h.step (hnow call List.mem_cons_self)
      (hcalls.dated call List.mem_cons_self) (hcalls.counted call List.mem_cons_self)
    simp only [outcomes?, hflow, Option.bind_eq_bind, Option.bind_some, ih hnext hlater hrest]
    rfl

/-- Where nothing is stored for any state, all states are free. -/
theorem shows_free (hc : c.Keyed) (hfree : ∀ state, c.find? (key state) = none) :
    Shows lifetime now (fun _ => {}) c where
  keyed := hc
  counted _ := trivial
  read state later _ _ := by
    rw [Memory.read?_eq, hfree, Mark.phaseAt, ite_self]
    rfl

/-- What is to be told of calls on states, over a cache. -/
structure Mechanical (lifetime : Lifetime) (calls : List Call) (c : Memory) : Prop where
  /-- Every call succeeds, and is answered by the machine in which all states are free at first. -/
  answers : outcomes? lifetime calls c
    = some ((Machine.answers lifetime calls fun _ => {}).map fun a => ⟨a.1, .ok a.2⟩)
  /-- The calls on one state have the outcomes that they have without the calls on others. -/
  apart : ∀ state, (outcomes? lifetime calls c).map (·.filter (·.1.state = state))
    = outcomes? lifetime (calls.filter (·.state = state)) c

/-- Over a cache in which no state is stored, whatever else is there, states are a machine. -/
theorem machine_exact (lifetime : Lifetime) (hcalls : InOrder calls) (hc : c.Keyed)
    (hfree : ∀ state, c.find? (key state) = none) : Mechanical lifetime calls c := by
  have hstart : Shows lifetime (Calendar.firstSecond * 1000) (fun _ => {}) c := shows_free hc hfree
  have hrun {calls : List Call} (h : InOrder calls) :=
    hstart.run (fun call hd => (h.dated call hd).1) h
  refine ⟨hrun hcalls, fun state => ?_⟩
  rw [hrun hcalls, hrun (hcalls.filter _), Option.map_some, List.filter_map,
    ← Machine.filter_answers rfl]
  rfl

/-- A state is claimed at the first second there is, taken, and put back with the last one; another
one is claimed, and taken too late. -/
def errands : List Call := [
  ⟨0, "a", .claim (-9223372036854775808)⟩,
  ⟨500, "b", .claim 7⟩,
  ⟨999, "a", .claimedAt⟩,
  ⟨999, "a", .take (-9223372036854775808)⟩,
  ⟨1500, "b", .take 7⟩,
  ⟨1998, "a", .restore 9223372036854775807⟩,
  ⟨2997, "a", .claimedAt⟩,
  ⟨2998, "a", .claimedAt⟩,
  ⟨2998, "a", .release⟩]

/-- A cache that holds a session key. -/
def signedIn : Memory := ⟨[("ses.ada", ⟨[0x6b], none⟩)]⟩

/-- A phase lasts for a second, and no longer. -/
theorem machine_exact_errands : InOrder errands ∧ signedIn.Keyed ∧
    (∀ state, signedIn.find? (key state) = none) ∧
    outcomes? (.ofSeconds 1) errands signedIn = some [
      ⟨⟨0, "a", .claim (-9223372036854775808)⟩, .ok true⟩,
      ⟨⟨500, "b", .claim 7⟩, .ok true⟩,
      ⟨⟨999, "a", .claimedAt⟩, .ok (some (-9223372036854775808))⟩,
      ⟨⟨999, "a", .take (-9223372036854775808)⟩, .ok true⟩,
      ⟨⟨1500, "b", .take 7⟩, .ok false⟩,
      ⟨⟨1998, "a", .restore 9223372036854775807⟩, .ok true⟩,
      ⟨⟨2997, "a", .claimedAt⟩, .ok (some 9223372036854775807)⟩,
      ⟨⟨2998, "a", .claimedAt⟩, .ok none⟩,
      ⟨⟨2998, "a", .release⟩, .ok ()⟩] ∧
    Mechanical (.ofSeconds 1) errands signedIn := by
  have hcalls : InOrder errands :=
    ⟨by decide, by decide, by simp [errands, Move.IsCounted, Token.IsInt64]⟩
  have hkeyed : signedIn.Keyed := List.nodup_singleton _
  have hfree (state : String) : signedIn.find? (key state) = none :=
    Memory.lookup_eq_none fun h => (sessions_ne_states "ada" state) (List.mem_singleton.1 h).symm
  exact ⟨hcalls, hkeyed, hfree, rfl, machine_exact (.ofSeconds 1) hcalls hkeyed hfree⟩

end SignOn.Keyspace.States
