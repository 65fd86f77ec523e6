import SignOn.Proofs.Account.Founding
import SignOn.Proofs.Account.Uniqueness
import SignOn.Proofs.Google.Window
/-!
Calls one after another, with all that happened during them. What is read in the cache was written
by some event of some call, and nothing has changed it since (`Chronicle.source`). An account was
stored by an event of some call (`Chronicle.registered`). And each event rests on what its call had
found before it (`Chronicle.founded`).
-/

namespace SignOn.Account

open SignOn.Keyspace SignOn.Verification
open SignOn.Google (Ready)

/-! ## What events do to one key -/

/-- What an event does to a key of the cache: it leaves it (`none`), clears it (`some none`), or
writes a value there. -/
def effect? (key : String) : Event → Option (Option (Bytes × Option Cache.Lifetime))
  | ⟨.cache (.set other value lifetime), .ok ()⟩ =>
    if other = key then some (some (value, lifetime)) else none
  | ⟨.cache (.delete other), .ok ()⟩ => if other = key then some none else none
  | ⟨.cache (.setIfAbsent other value lifetime), .ok true⟩ =>
    if other = key then some (some (value, some lifetime)) else none
  | ⟨.cache (.swap other _ value lifetime), .ok true⟩ =>
    if other = key then some (some (value, some lifetime)) else none
  | _ => none

/-- Events that leave a key alone. -/
def LeavesKey (key : String) (events : List Event) : Prop := ∀ e ∈ events, effect? key e = none

/-- What is read later of a value that was written at some time. -/
def readLater (now later : Int) : Bytes × Option Cache.Lifetime → Option Bytes
  | (value, none) => some value
  | (value, some lifetime) =>
    if later < Cache.Memory.expiry now lifetime then some value else none

variable {key : String} {w w' w₁ w₂ : World} {events pre post : List Event} {later : Int}
  {value : Bytes}

theorem readLater_eq_some {now : Int} {written : Bytes × Option Cache.Lifetime}
    (h : readLater now later written = some value) : written.1 = value := by
  obtain ⟨v, lifetime⟩ := written
  cases lifetime with
  | none => exact Option.some.inj h
  | some lifetime =>
    simp only [readLater] at h
    split at h
    · exact Option.some.inj h
    · cases h

/-- Only a command on a key does anything to it, and a look does not. -/
theorem exists_of_effect? {e : Event} (h : effect? key e ≠ none) :
    ∃ cmd, e.act = .cache cmd ∧ cmd.key? = some key ∧ ∀ other, cmd ≠ .get other := by
  have hkey {other : String} {effect : Option (Bytes × Option Cache.Lifetime)}
      (h : (if other = key then some effect else none) ≠ none) : some other = some key := by
    by_contra hne
    exact h (if_neg fun he => hne (congrArg some he))
  unfold effect? at h
  split at h
  · exact ⟨_, rfl, hkey h, fun _ he => by cases he⟩
  · exact ⟨_, rfl, hkey h, fun _ he => by cases he⟩
  · exact ⟨_, rfl, hkey h, fun _ he => by cases he⟩
  · exact ⟨_, rfl, hkey h, fun _ he => by cases he⟩
  · exact absurd rfl h

/-- What is read later under a key, by what an event has done to it. -/
theorem read?_perform (hw : Ready w) (act : Act) (hle : w.millis ≤ later) :
    (w.perform act).2.cache.read? later key = match effect? key (w.event act) with
      | none => w.cache.read? later key
      | some none => none
      | some (some written) => readLater w.millis later written := by
  cases act with
  | cache cmd =>
    have hperform := hw.steady.perform cmd
    simp only [World.event, hperform]
    by_cases hkey : cmd.key? = some key
    · cases cmd with
      | get other =>
        cases hkey
        exact Cache.Memory.read?_settle_of_le hle
      | set other value lifetime =>
        cases hkey
        simp only [effect?, if_true, Cache.Memory.perform]
        cases lifetime with
        | none => simp [Cache.Memory.read?, Cache.Memory.find?_write_self, Cache.Entry.isLive,
            readLater]
        | some lifetime => exact Cache.Memory.read?_write_self _ _ _
      | delete other =>
        cases hkey
        simp only [effect?, if_true, Cache.Memory.perform]
        rw [Cache.Memory.read?_eq, Cache.Memory.find?_erase_self]
        rfl
      | setIfAbsent other value lifetime =>
        cases hkey
        simp only [Cache.Memory.perform]
        cases w.cache.read? w.millis key with
        | some _ => rfl
        | none =>
          simp only [effect?, if_true]
          exact Cache.Memory.read?_write_self _ _ _
      | swap other expected value lifetime =>
        cases hkey
        simp only [Cache.Memory.perform]
        split
        · simp only [effect?, if_true]
          exact Cache.Memory.read?_write_self _ _ _
        · exact Cache.Memory.read?_settle_of_le hle
      | ping => cases hkey
    · have hnone : effect? key ⟨.cache cmd, .ok (w.cache.perform w.millis cmd).1⟩ = none := by
        by_contra heffect
        obtain ⟨cmd', hcmd, hkey', -⟩ := exists_of_effect? heffect
        cases hcmd
        exact hkey hkey'
      rw [hnone]
      exact Cache.Memory.read?_perform_of_key_ne hw.keyed hkey hle
  | _ => rw [World.perform_cache_eq _ (by intro cmd hc; cases hc)]; rfl

/-! ## Events one after another -/

/-- Events that happen one after another, with time between them. -/
inductive Steps : World → List Event → World → Prop where
  | nil (w : World) : Steps w [] w
  | cons {w w₁ w' : World} {act : Act} {events : List Event} (hd : Google.Ticks w w₁)
      (h : Steps (w₁.perform act).2 events w') : Steps w (w₁.event act :: events) w'

theorem Steps.of_traces {α : Type} {f : Flow α} {result : Except Failure α}
    (h : f.Traces Google.Ticks w events result w') : Steps w events w' := by
  induction h with
  | done value w => exact .nil w
  | fail failure w => exact .nil w
  | step hd _ ih => exact .cons hd ih

theorem Steps.forward (h : Steps w events w') : w.millis ≤ w'.millis := by
  induction h with
  | nil w => exact Int.le_refl _
  | @cons w w₁ w' act events hd _ ih =>
    rw [World.perform_millis] at ih
    exact Int.le_trans hd.forward ih

theorem Steps.ready (h : Steps w events w') (hw : Ready w) : Ready w' := by
  induction h with
  | nil w => exact hw
  | cons hd _ ih => exact ih (hd.ready.act _)

/-- An event in its world, among the events before and after it. -/
structure EventAt (w : World) (pre : List Event) (e : Event) (post : List Event)
    (w' w₁ w₂ : World) : Prop where
  before : Steps w pre w₁
  drift : Google.Ticks w₁ w₂
  event : e = w₂.event e.act
  after : Steps (w₂.perform e.act).2 post w'

theorem EventAt.since {e : Event} (h : EventAt w pre e post w' w₁ w₂) : w.millis ≤ w₂.millis :=
  Int.le_trans h.before.forward h.drift.forward

theorem EventAt.until {e : Event} (h : EventAt w pre e post w' w₁ w₂) : w₂.millis ≤ w'.millis := by
  rw [← w₂.perform_millis e.act]
  exact h.after.forward

/-- Each event happened in some world. -/
theorem Steps.split {e : Event} (h : Steps w (pre ++ e :: post) w') :
    ∃ w₁ w₂, EventAt w pre e post w' w₁ w₂ := by
  induction pre generalizing w with
  | nil =>
    cases h with
    | cons hd h => exact ⟨w, _, .nil w, hd, rfl, h⟩
  | cons x pre ih =>
    cases h with
    | cons hd h =>
      obtain ⟨w₁, w₂, hamid⟩ := ih h
      exact ⟨w₁, w₂, .cons hd hamid.before, hamid.drift, hamid.event, hamid.after⟩

/-- What is read under a key that events leave alone. -/
theorem Steps.read (h : Steps w events w') (hs : LeavesKey key events) (hle : w'.millis ≤ later) :
    w'.cache.read? later key = w.cache.read? later key := by
  induction h with
  | nil w => rfl
  | @cons w w₁ w' act events hd h ih =>
    have hforward : w₁.millis ≤ w'.millis := by
      rw [← w₁.perform_millis act]
      exact h.forward
    rw [ih (fun e he => hs e (List.mem_cons_of_mem _ he)) hle,
      read?_perform hd.ready act (Int.le_trans hforward hle), hs _ List.mem_cons_self, hd.cache]

/-- A look shows what is read then, if the events before it have left the key alone. -/
theorem Steps.looked {found : Option Bytes}
    (h : Steps w (pre ++ ⟨.cache (.get key), .ok found⟩ :: post) w') (hs : LeavesKey key pre) :
    ∃ later : World, w.millis ≤ later.millis ∧ w.cache.read? later.millis key = found := by
  obtain ⟨w₁, w₂, hamid⟩ := h.split
  obtain ⟨hfound, -⟩ := World.perform_of_event hamid.event.symm
    (by intro key expected value lifetime hc; cases hc)
  refine ⟨w₂, hamid.since, ?_⟩
  rw [hfound, Cache.Memory.perform, hamid.drift.cache,
    hamid.before.read hs hamid.drift.forward]

/-- What is read under a key was there before, or one of the events has written it. -/
theorem Steps.source (h : Steps w events w') (hle : w'.millis ≤ later)
    (hread : w'.cache.read? later key = some value) :
    (LeavesKey key events ∧ w.cache.read? later key = some value) ∨
      ∃ pre e post w₁ w₂ written, events = pre ++ e :: post ∧ EventAt w pre e post w' w₁ w₂ ∧
        effect? key e = some (some written) ∧ readLater w₂.millis later written = some value := by
  induction h with
  | nil w => exact .inl ⟨fun e he => absurd he List.not_mem_nil, hread⟩
  | @cons w w₁ w' act events hd h ih =>
    rcases ih hle hread with ⟨hspare, hbefore⟩ |
      ⟨pre, e, post, w₂, w₃, written, rfl, hamid, hwritten⟩
    · have hlater : w₁.millis ≤ later := by
        refine Int.le_trans ?_ hle
        rw [← w₁.perform_millis act]
        exact h.forward
      rw [read?_perform hd.ready act hlater] at hbefore
      split at hbefore
      · next hnone =>
        refine .inl ⟨fun e he => ?_, hd.cache ▸ hbefore⟩
        rcases List.mem_cons.1 he with rfl | he
        · exact hnone
        · exact hspare e he
      · cases hbefore
      · next written hwritten =>
        exact .inr ⟨[], _, events, w, w₁, written, rfl, ⟨.nil w, hd, rfl, h⟩, hwritten, hbefore⟩
    · exact .inr ⟨_, e, post, w₂, w₃, written, rfl,
        ⟨.cons hd hamid.before, hamid.drift, hamid.event, hamid.after⟩, hwritten⟩

/-- Every account was there before, or one of the events has stored it as it is. -/
theorem Steps.registered {user : User} (h : Steps w events w') (hu : user ∈ w'.store.users) :
    user ∈ w.store.users ∨ Registers events (asNew user) user := by
  induction h with
  | nil w => exact .inl hu
  | @cons w w₁ w' act events hd _ ih =>
    rcases ih hu with hbefore | hreg
    · rcases registered_perform hbefore with hbefore | hevent
      · exact .inl (hd.store ▸ hbefore)
      · exact .inr (hevent ▸ List.mem_cons_self)
    · exact .inr (List.mem_cons_of_mem _ hreg)

/-! ## Chronicles -/

/-- A call that is over: all that happened during it, and the milliseconds that the clock showed
before and after it. -/
structure Record where
  call : Call
  events : List Event
  result : Except Failure call.Value
  began : Int
  ended : Int

/-- Calls one after another, the latest first, with time between and within them. Whatever lies
outside answers as it likes, except that the cache works. -/
inductive Chronicle (s : Setup) (start : World) : List Record → World → Prop where
  | start : Chronicle s start [] start
  | wait {records : List Record} {w w' : World} (h : Chronicle s start records w)
      (hd : Google.Ticks w w') : Chronicle s start records w'
  | call {records : List Record} {w w' : World} {events : List Event} (k : Call)
      {result : Except Failure k.Value} (h : Chronicle s start records w)
      (ht : (k.flow s).Traces Google.Ticks w events result w') :
      Chronicle s start (⟨k, events, result, w.millis, w'.millis⟩ :: records) w'

variable {s : Setup} {start : World} {records after before : List Record} {r : Record}

/-- A record, between the worlds in which its call began and ended: each of its events rests on what
the call had found before, and it has ended as it says. -/
structure RecordAt (s : Setup) (start : World) (before : List Record) (r : Record) (w w' : World) :
    Prop where
  earlier : Chronicle s start before w
  traces : (r.call.flow s).Traces Google.Ticks w r.events r.result w'
  began : r.began = w.millis
  ended : r.ended = w'.millis
  acts : ∀ pre e post, r.events = pre ++ e :: post → MayDo s r.call pre e.act
  ending : Concludes r.call r.events r.result

theorem Chronicle.ready (hr : Ready start) (h : Chronicle s start records w) : Ready w := by
  induction h with
  | start => exact hr
  | wait _ hd _ => exact hd.ready
  | call k _ ht ih => exact (Steps.of_traces ht).ready ih

/-- The latest record, as it was added. -/
theorem RecordAt.of_call {k : Call} {result : Except Failure k.Value}
    (h : Chronicle s start before w) (ht : (k.flow s).Traces Google.Ticks w events result w') :
    RecordAt s start before ⟨k, events, result, w.millis, w'.millis⟩ w w' := by
  obtain ⟨hacts, hend⟩ := Flow.Along.of_traces (flow_founds s k) timely_event ht
  exact ⟨h, ht, rfl, rfl, hacts, hend⟩

theorem RecordAt.steps (h : RecordAt s start before r w w') :
    Steps w r.events w' := .of_traces h.traces

theorem Chronicle.recordAt (h : Chronicle s start (after ++ r :: before) w) :
    ∃ w₁ w₂, RecordAt s start before r w₁ w₂ := by
  generalize hrecords : after ++ r :: before = records at h
  induction h generalizing after with
  | start => exact absurd hrecords (List.append_ne_nil_of_right_ne_nil _ (List.cons_ne_nil _ _))
  | wait _ _ ih => exact ih hrecords
  | @call records w w' events k result h ht ih =>
    cases after with
    | nil =>
      obtain ⟨rfl, rfl⟩ := List.cons.inj hrecords
      exact ⟨w, w', .of_call h ht⟩
    | cons x after => exact ih (List.cons.inj hrecords).2

/-- How a value came to be under a key: an event of a call has written it. -/
structure Wrote (key : String) (later : Int) (value : Bytes) (r : Record) (pre : List Event)
    (e : Event) : Prop where
  event : ∃ post, r.events = pre ++ e :: post
  written : ∃ (w : World) (written : Bytes × Option Cache.Lifetime), w.millis ≤ r.ended ∧
    effect? key e = some (some written) ∧ readLater w.millis later written = some value

/-- What is read was written by a call, and the calls after it have left it alone. -/
theorem Chronicle.source (hc : start.cache = {}) (h : Chronicle s start records w)
    (hle : w.millis ≤ later) (hread : w.cache.read? later key = some value) :
    ∃ after r before pre e, records = after ++ r :: before ∧
      (∀ x ∈ after, LeavesKey key x.events) ∧ Wrote key later value r pre e := by
  induction h with
  | start =>
    rw [hc] at hread
    cases hread
  | wait _ hd ih =>
    exact ih (Int.le_trans hd.forward hle) (hd.cache ▸ hread)
  | @call records w w' events k result _ ht ih =>
    have hsteps := Steps.of_traces ht
    rcases hsteps.source hle hread with ⟨hspare, hbefore⟩ |
      ⟨pre, e, post, w₁, w₂, written, hevents, hamid, heffect, hlater⟩
    · obtain ⟨after, r, before, pre, e, rfl, hafter, hwrote⟩ :=
        ih (Int.le_trans hsteps.forward hle) hbefore
      refine ⟨_ :: after, r, before, pre, e, rfl, fun x hx => ?_, hwrote⟩
      rcases List.mem_cons.1 hx with rfl | hx
      · exact hspare
      · exact hafter x hx
    · exact ⟨[], _, records, pre, e, rfl, fun x hx => absurd hx List.not_mem_nil, ⟨post, hevents⟩,
        w₂, written, hamid.until, heffect, hlater⟩

/-- Every account was stored by a call. -/
theorem Chronicle.registered {user : User} (hs : start.store = {}) (h : Chronicle s start records w)
    (hu : user ∈ w.store.users) : ∃ r ∈ records, Registers r.events (asNew user) user := by
  induction h with
  | start =>
    rw [hs] at hu
    cases hu
  | wait _ hd ih => exact ih (hd.store ▸ hu)
  | call k _ ht ih =>
    rcases (Steps.of_traces ht).registered hu with hu | hreg
    · obtain ⟨r, hr, hreg⟩ := ih hu
      exact ⟨r, List.mem_cons_of_mem _ hr, hreg⟩
    · exact ⟨_, List.mem_cons_self, hreg⟩

end SignOn.Account
