import SignOn.Calendar
import SignOn.Proofs.Cache.Memory
/-!
The cache inside the process, as its callers see it. It drops entries when a read finds them dead,
when a write sweeps, and when they are deleted. A ledger keeps everything that was ever done to any
key, and strikes nothing out. As long as the clock does not go back, both answer any commands alike,
and right behind a write the cache holds nothing dead other than, perhaps, what was just written
(`memory_faithful`).
-/

namespace SignOn.Cache

/-! ## Commands one after another -/

/-- A command, and the millisecond of the epoch at which it is given. -/
structure Call where
  time : Int
  command : Command
  deriving DecidableEq, Repr

/-- A millisecond that a clock can show: its second has a date, and may be a leap second. -/
def Dated (time : Int) : Prop :=
  Calendar.firstSecond * 1000 ≤ time ∧ time < (Calendar.lastSecond + 2) * 1000

instance (time : Int) : Decidable (Dated time) := inferInstanceAs (Decidable (_ ∧ _))

/-- The clock does not go back from call to call, and whatever it shows has a date. -/
structure InOrder (calls : List Call) : Prop where
  forward : (calls.map (·.time)).Pairwise (· ≤ ·)
  dated : ∀ call ∈ calls, Dated call.time

section Runs

variable {σ τ : Type} {A B : Command → Type}

/-- What commands are answered by a cache that serves one at a time. -/
def answers (serve : Int → σ → (cmd : Command) → A cmd × σ) :
    List Call → σ → List ((cmd : Command) × A cmd)
  | [], _ => []
  | ⟨time, cmd⟩ :: rest, state =>
    ⟨cmd, (serve time state cmd).1⟩ :: answers serve rest (serve time state cmd).2

/-- What commands leave of a cache. -/
def behind (serve : Int → σ → (cmd : Command) → A cmd × σ) (calls : List Call) (state : σ) : σ :=
  calls.foldl (fun state call => (serve call.time state call.command).2) state

/-- Two caches that answer each command alike, as long as they are alike, answer whole runs alike.
The answers of the one may be wrapped up by the other. -/
theorem answers_of_steps (serve : Int → σ → (cmd : Command) → A cmd × σ)
    (serve' : Int → τ → (cmd : Command) → B cmd × τ) (wrap : (cmd : Command) → A cmd → B cmd)
    {R : Int → σ → τ → Prop} {P : Command → Prop}
    (hstep : ∀ {now time state state'} cmd, R now state state' → now ≤ time → Dated time → P cmd →
      (serve' time state' cmd).1 = wrap cmd (serve time state cmd).1 ∧
        R time (serve time state cmd).2 (serve' time state' cmd).2)
    {now : Int} {state : σ} {state' : τ} {calls : List Call} (h : R now state state')
    (hnow : ∀ call ∈ calls, now ≤ call.time) (hcalls : InOrder calls)
    (hp : ∀ call ∈ calls, P call.command) :
    answers serve' calls state' = (answers serve calls state).map fun a => ⟨a.1, wrap a.1 a.2⟩ := by
  induction calls generalizing now state state' with
  | nil => rfl
  | cons call rest ih =>
    obtain ⟨time, cmd⟩ := call
    obtain ⟨hlater, hforward⟩ := List.pairwise_cons.1 hcalls.forward
    obtain ⟨hanswer, hnext⟩ := hstep cmd h (hnow _ List.mem_cons_self)
      (hcalls.dated _ List.mem_cons_self) (hp _ List.mem_cons_self)
    have hrest := ih hnext (fun c hc => hlater c.time (List.mem_map_of_mem hc))
      ⟨hforward, fun c hc => hcalls.dated c (List.mem_cons_of_mem _ hc)⟩
      (fun c hc => hp c (List.mem_cons_of_mem _ hc))
    rw [answers, answers, List.map_cons, hanswer, hrest]

end Runs

/-! ## The ledger -/

/-- What was done to a key. -/
inductive Deed where
  | written (value : Bytes) (lifetime : Option Lifetime) (time : Int)
  | deleted
  deriving DecidableEq, Repr

/-- The millisecond from which on a value is gone that was written at a time. The sum stays within
64 bits. -/
def deadline (time : Int) (lifetime : Lifetime) : Int :=
  min (time + lifetime.millis) Memory.lastMilli

/-- What is left of a deed at a time. -/
def Deed.visible? (now : Int) : Deed → Option Bytes
  | .written value none _ => some value
  | .written value (some lifetime) time => if now < deadline time lifetime then some value else none
  | .deleted => none

/-- What a command has done, and to which key, by its answer. -/
def Command.deed? (time : Int) : (cmd : Command) → cmd.Answer → Option (String × Deed)
  | .set key value lifetime, _ => some (key, .written value lifetime time)
  | .delete key, _ => some (key, .deleted)
  | .setIfAbsent key value lifetime, true => some (key, .written value (some lifetime) time)
  | .swap key _ value lifetime, true => some (key, .written value (some lifetime) time)
  | _, _ => none

/-- The answer to a command, by the values that can be read. -/
def Command.answerBy (read : String → Option Bytes) : (cmd : Command) → cmd.Answer
  | .get key => read key
  | .set .. | .delete _ | .ping => ()
  | .setIfAbsent key _ _ => (read key).isNone
  | .swap key expected _ _ => decide (read key = expected)

/-- All that was done to any key, the latest first. -/
structure Ledger where
  deeds : List (String × Deed) := []
  deriving DecidableEq, Repr

namespace Ledger

/-- The value that is visible under a key: what is left of the last deed. -/
def visible? (l : Ledger) (now : Int) (key : String) : Option Bytes :=
  (l.deeds.lookup key).bind (·.visible? now)

/-- Answers a command by what is visible, and writes down what it has done. -/
def perform (now : Int) (l : Ledger) (cmd : Command) : cmd.Answer × Ledger :=
  let answer := cmd.answerBy (l.visible? now)
  (answer, ⟨(cmd.deed? now answer).toList ++ l.deeds⟩)

end Ledger

/-- What is visible behind a deed. -/
def visibleBehind (now : Int) (key : String) (before : Option Bytes) :
    Option (String × Deed) → Option Bytes
  | some (other, deed) => if key = other then deed.visible? now else before
  | none => before

theorem Ledger.visible?_perform (l : Ledger) (now later : Int) (key : String) (cmd : Command) :
    (l.perform now cmd).2.visible? later key = visibleBehind later key (l.visible? later key)
      (cmd.deed? now (cmd.answerBy (l.visible? now))) := by
  simp only [perform, visible?]
  cases cmd.deed? now (cmd.answerBy (l.visible? now)) with
  | none => rfl
  | some written =>
    obtain ⟨other, deed⟩ := written
    rw [Option.toList_some, List.singleton_append, List.lookup_cons, visibleBehind]
    by_cases hk : key = other
    · rw [hk, beq_self_eq_true, if_pos rfl]
      rfl
    · rw [beq_eq_false_iff_ne.2 hk, if_neg hk]

/-! ## The cache inside the process -/

namespace Memory

variable {c : Memory} {now later : Int} {key other : String}

theorem lt_lastMilli (h : Dated now) : now < lastMilli := by
  have hlast : Calendar.lastSecond = 8210266876799 := rfl
  have hmax : lastMilli = 9223372036854775807 := rfl
  have hdate := h.2
  omega

/-- Entries die at their deadline. A clock cannot show the moments for which the cut of long
lifetimes would make a difference. -/
theorem lt_expiry_iff (hnow : Dated now) (hlater : Dated later) (lifetime : Lifetime) :
    later < expiry now lifetime ↔ later < deadline now lifetime := by
  have hfirst : Calendar.firstSecond = -8334601228800 := rfl
  have hlast : Calendar.lastSecond = 8210266876799 := rfl
  have hmax : lastMilli = 9223372036854775807 := rfl
  obtain ⟨hnow, -⟩ := hnow
  obtain ⟨-, hlater⟩ := hlater
  unfold expiry deadline
  omega

/-- No clock shows a moment for which it would matter that the sum stays within 64 bits. -/
theorem lt_deadline_iff (hlater : Dated later) {lifetime : Lifetime} :
    later < deadline now lifetime ↔ later < now + lifetime.millis := by
  have hlast := lt_lastMilli hlater
  unfold deadline
  omega

/-- A value with a lifetime is read until it is over. -/
theorem read?_write_lifetime (hnow : Dated now) (hlater : Dated later) (value : Bytes)
    (lifetime : Lifetime) : (c.write now key value (some lifetime)).read? later key
      = if later < now + lifetime.millis then some value else none := by
  simp only [read?_write_self, lt_expiry_iff hnow hlater, lt_deadline_iff hlater]

theorem read?_write (hc : c.Keyed) (hnow : Dated now) (hlater : Dated later) (hle : now ≤ later)
    (value : Bytes) (lifetime : Option Lifetime) :
    (c.write now other value lifetime).read? later key = visibleBehind later key
      (c.read? later key) (some (other, .written value lifetime now)) := by
  rw [visibleBehind]
  by_cases hk : key = other
  · subst hk
    rw [if_pos rfl]
    cases lifetime with
    | none => simp only [read?, find?_write_self, Option.map_none, Entry.isLive, if_true,
        Deed.visible?]
    | some lifetime =>
      simp only [read?_write_self, Deed.visible?, lt_expiry_iff hnow hlater]
  · rw [if_neg hk, read?_eq, find?_write_ne hc hk, alive_alive hle, read?_eq]

theorem read?_settle_any (hle : now ≤ later) :
    (c.settle now other).read? later key = c.read? later key := by
  by_cases hk : key = other
  · rw [hk]
    exact read?_settle_of_le hle
  · rw [read?_eq, find?_settle_ne hk, read?_eq]

/-- Commands are answered by what can be read. -/
theorem perform_answer (c : Memory) (now : Int) (cmd : Command) :
    (c.perform now cmd).1 = cmd.answerBy (c.read? now) := by
  cases cmd with
  | setIfAbsent key value lifetime =>
    rw [perform, Command.answerBy]
    cases c.read? now key <;> rfl
  | swap key expected value lifetime =>
    rw [perform, Command.answerBy]
    by_cases h : c.read? now key = expected <;> simp [h]
  | _ => rfl

/-- What a command is answered follows from what can be read under its key. -/
theorem perform_congr {c' : Memory} {cmd : Command} (hkey : cmd.key? = some key)
    (h : c'.read? now key = c.read? now key) : (c'.perform now cmd).1 = (c.perform now cmd).1 := by
  rw [perform_answer, perform_answer]
  cases cmd with
  | get other =>
    cases hkey
    exact h
  | setIfAbsent other value lifetime =>
    cases hkey
    exact congrArg Option.isNone h
  | swap other expected value lifetime =>
    cases hkey
    simp only [Command.answerBy, h]
  | _ => rfl

/-- Later, under every key, the same is read as before the command, unless it has done something to
the key. -/
theorem read?_perform (hc : c.Keyed) (hnow : Dated now) (hlater : Dated later) (hle : now ≤ later)
    (cmd : Command) : (c.perform now cmd).2.read? later key = visibleBehind later key
      (c.read? later key) (cmd.deed? now (cmd.answerBy (c.read? now))) := by
  cases cmd with
  | get other => exact read?_settle_any hle
  | set other value lifetime => exact read?_write hc hnow hlater hle value lifetime
  | delete other =>
    rw [perform, Command.deed?, visibleBehind]
    by_cases hk : key = other
    · rw [hk, if_pos rfl, read?_eq, find?_erase_self]
      rfl
    · rw [if_neg hk, read?_eq, find?_erase_ne hk, read?_eq]
  | setIfAbsent other value lifetime =>
    rw [perform, Command.answerBy]
    cases c.read? now other with
    | some _ => rfl
    | none => exact read?_write hc hnow hlater hle value (some lifetime)
  | swap other expected value lifetime =>
    rw [perform, Command.answerBy]
    by_cases h : c.read? now other = expected
    · rw [if_pos h, decide_eq_true h]
      exact read?_write hc hnow hlater hle value (some lifetime)
    · rw [if_neg h, decide_eq_false h]
      exact read?_settle_any hle
  | ping => rfl

/-- From now on, what can be read is what the ledger shows. -/
structure Tallies (now : Int) (l : Ledger) (c : Memory) : Prop where
  keyed : c.Keyed
  read : ∀ key later, now ≤ later → Dated later → c.read? later key = l.visible? later key

/-- A command finds the same in the cache and in the ledger, and leaves the same there. -/
theorem Tallies.perform {l : Ledger} {time : Int} (h : Tallies now l c) (hle : now ≤ time)
    (htime : Dated time) (cmd : Command) :
    (c.perform time cmd).1 = (l.perform time cmd).1 ∧
      Tallies time (l.perform time cmd).2 (c.perform time cmd).2 := by
  have hread : c.read? time = l.visible? time := funext fun key => h.read key time hle htime
  refine ⟨by rw [perform_answer, hread]; rfl, h.keyed.perform time cmd,
    fun key later hlater hd => ?_⟩
  rw [read?_perform h.keyed htime hd hlater, Ledger.visible?_perform, hread,
    h.read key later (Int.le_trans hle hlater) hd]

/-- Behind a write there is the new entry, and all others are alive. -/
theorem mem_write {e : String × Entry} {value : Bytes} {lifetime : Option Lifetime}
    (h : e ∈ (c.write now key value lifetime).entries) :
    e = (key, ⟨value, lifetime.map (expiry now)⟩) ∨ e.2.isLive now = true := by
  rcases List.mem_cons.1 h with rfl | h
  · exact .inl rfl
  · exact .inr (List.mem_filter.1 (List.mem_filter.1 h).1).2

/-- Nothing dead is held, other than one value that was to last for less than a millisecond. -/
def Swept (now : Int) (key : String) (value : Bytes) (lifetime : Option Lifetime) (c : Memory) :
    Prop :=
  ∀ e ∈ c.entries, e.2.isLive now = false →
    e.1 = key ∧ e.2.value = value ∧ ∃ t, lifetime = some t ∧ t.millis = 0

theorem swept_write (hnow : Dated now) (value : Bytes) (lifetime : Option Lifetime) :
    Swept now key value lifetime (c.write now key value lifetime) := by
  intro e he hdead
  rcases mem_write he with rfl | hlive
  · refine ⟨rfl, rfl, ?_⟩
    cases lifetime with
    | none => cases hdead
    | some t =>
      have hlt := lt_lastMilli hnow
      have hmax : lastMilli = 9223372036854775807 := rfl
      simp only [Entry.isLive, Option.map_some, expiry, decide_eq_false_iff_not] at hdead
      exact ⟨t, rfl, by omega⟩
  · rw [hlive] at hdead
    cases hdead

/-- A command that has written something has done so now. -/
theorem perform_written {cmd : Command} {time : Int} {value : Bytes} {lifetime : Option Lifetime}
    (h : cmd.deed? now (c.perform now cmd).1 = some (key, .written value lifetime time)) :
    time = now ∧ (c.perform now cmd).2 = c.write now key value lifetime := by
  cases cmd with
  | get other => cases h
  | set other value' lifetime' =>
    cases h
    exact ⟨rfl, rfl⟩
  | delete other => cases h
  | setIfAbsent other value' lifetime' =>
    rw [perform] at h ⊢
    split at h
    · cases h
    · next hread =>
      cases h
      exact ⟨rfl, rfl⟩
  | swap other expected value' lifetime' =>
    rw [perform] at h ⊢
    split at h
    · next hread =>
      cases h
      rw [if_pos hread]
      exact ⟨rfl, rfl⟩
    · cases h
  | ping => cases h

/-- At the moment of a write, its value is there, unless it is to last for less than a millisecond.
-/
theorem read?_of_written {cmd : Command} {time : Int} {value : Bytes} {lifetime : Lifetime}
    (hnow : now < lastMilli)
    (h : cmd.deed? now (c.perform now cmd).1 = some (key, .written value (some lifetime) time)) :
    (c.perform now cmd).2.read? now key = if 1 ≤ lifetime.millis then some value else none := by
  have hmax : lastMilli = 9223372036854775807 := rfl
  have hiff : now < expiry now lifetime ↔ 1 ≤ lifetime.millis := by
    unfold expiry
    omega
  simp only [(perform_written h).2, read?_write_self, hiff]

/-- What callers can tell of a cache that starts empty. -/
structure Faithful (calls : List Call) : Prop where
  /-- Every answer is that of the ledger. -/
  answers : Cache.answers Memory.perform calls {} = Cache.answers Ledger.perform calls {}
  /-- Right behind a command that has written something, nothing dead is held, other than perhaps
  what was written. -/
  swept : ∀ before call after, calls = before ++ call :: after → ∀ key value lifetime time,
    call.command.deed? call.time
        ((behind Memory.perform before {}).perform call.time call.command).1
      = some (key, .written value lifetime time) →
    Swept call.time key value lifetime (behind Memory.perform (before ++ [call]) {})

/-- However commands follow one another, the cache answers like a ledger that strikes nothing
out. -/
theorem memory_faithful {calls : List Call} (h : InOrder calls) : Faithful calls := by
  constructor
  · have hstart : Tallies (Calendar.firstSecond * 1000) {} {} :=
      ⟨List.nodup_nil, fun _ _ _ _ => rfl⟩
    have hsame := answers_of_steps Ledger.perform Memory.perform (fun _ a => a)
      (P := fun _ => True) (fun cmd hr hle htime _ => hr.perform hle htime cmd) hstart
      (fun call hc => (h.dated call hc).1) h (fun _ _ => trivial)
    rw [hsame]
    exact List.map_id _
  · rintro before call after rfl key value lifetime time hdeed
    have hbehind : behind Memory.perform (before ++ [call]) {}
        = ((behind Memory.perform before {}).perform call.time call.command).2 := List.foldl_append
    rw [hbehind, (perform_written hdeed).2]
    exact swept_write (h.dated call (by simp)) value lifetime

/-- A value lasts for five seconds, one for less than a millisecond, and one for longer than a
clock can count. -/
def errands : List Call := [
  ⟨0, .set "a" [1] (some (.ofSeconds 5))⟩,
  ⟨0, .set "b" [2] none⟩,
  ⟨4999, .get "a"⟩,
  ⟨5000, .setIfAbsent "a" [3] ⟨999999⟩⟩,
  ⟨5000, .get "a"⟩,
  ⟨5000, .swap "a" none [4] (.ofSeconds 9223372036854775808)⟩,
  ⟨Calendar.lastSecond * 1000, .get "a"⟩,
  ⟨Calendar.lastSecond * 1000, .swap "b" (some []) [5] (.ofSeconds 1)⟩]

/-- The first value is read up to its last millisecond, the second one never, the third one to the
end of the calendar. -/
theorem memory_faithful_errands : InOrder errands ∧
    Cache.answers Memory.perform errands {} = [⟨.set "a" [1] (some (.ofSeconds 5)), ()⟩,
      ⟨.set "b" [2] none, ()⟩, ⟨.get "a", some [1]⟩,
      ⟨.setIfAbsent "a" [3] ⟨999999⟩, true⟩, ⟨.get "a", none⟩,
      ⟨.swap "a" none [4] (.ofSeconds 9223372036854775808), true⟩, ⟨.get "a", some [4]⟩,
      ⟨.swap "b" (some []) [5] (.ofSeconds 1), false⟩] ∧
    Faithful errands := by
  have hcalls : InOrder errands := ⟨by decide, by decide⟩
  exact ⟨hcalls, rfl, memory_faithful hcalls⟩

end Memory
end SignOn.Cache
