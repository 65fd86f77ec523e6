import SignOn.Cache.Memory
import SignOn.Calendar
import SignOn.Flow.Basic
import SignOn.Store.Memory
/-!
A world in which flows run: a clock, an account store and a cache inside the process, and whatever
lies outside, given as functions: the identity provider, the delivery of messages, chance, and the
failures of the cache. `Flow.run` runs a call alone.
-/

namespace SignOn

/-- What the service cannot decide. -/
structure Outside where
  exchange : String → Except Failure ProviderToken
  profile : String → Except Failure UserProfile
  deliverMail : String → String → Except Failure Unit
  deliverText : String → String → Except Failure Unit
  /-- Whether the cache command of this number fails. -/
  cacheFails : Nat → Bool
  /-- The UUIDs, in the order in which they are drawn. -/
  uuids : Nat → Uuid
  /-- The one-time codes, in the order in which they are drawn. -/
  codes : Nat → Nat
  /-- The salts, in the order in which they are drawn. -/
  salts : Nat → Bytes

/-- Everything that a call can see and change. -/
structure World where
  outside : Outside
  /-- What the clock counts: milliseconds of the epoch. -/
  clock : Int
  store : Store.Memory := {}
  cache : Cache.Memory := {}
  /-- How many swaps from now on are lost to others. -/
  lostSwaps : Nat := 0
  /-- How many cache commands were given. -/
  cacheCalls : Nat := 0
  /-- How many random values were drawn. -/
  drawn : Nat := 0
  /-- Mailed codes with their addresses, oldest first. -/
  mails : List (String × String) := []
  /-- Text messages with their phones, oldest first. -/
  texts : List (String × String) := []
  /-- Exchanged codes, oldest first. -/
  exchanged : List String := []

namespace World

/-- The millisecond of the epoch that the clock shows: outside the years that have dates, it shows
the epoch itself. -/
def millis (w : World) : Int :=
  if Calendar.firstSecond * 1000 ≤ w.clock && w.clock < (Calendar.lastSecond + 1) * 1000 then
    w.clock
  else 0

/-- The second of the epoch that the clock shows, cut to whole ones. -/
def now (w : World) : Int := w.millis / 1000

/-- The instant that the clock shows. -/
def instant (w : World) : Instant := ⟨w.now, (w.millis % 1000).toNat * 1000000⟩

/-- Moves the clock by whole seconds, which are counted in 64 bits. -/
def advance (w : World) (seconds : Int) : World :=
  { w with
    clock := Int.bmod (w.clock / 1000 + seconds) 0x10000000000000000 * 1000 + w.clock % 1000 }

/-- The least one-time code. -/
def leastCode : Nat := 100000

/-- How many one-time codes there are. -/
def codeCount : Nat := 900000

/-- A one-time code has six digits. -/
def nextCode (w : World) : Nat := leastCode + w.outside.codes w.drawn % codeCount

/-- Answers a cache command, if the cache is up and the swap is not lost. -/
def performCache (w : World) (cmd : Cache.Command) : Except Failure cmd.Answer × World :=
  let fails := w.outside.cacheFails w.cacheCalls
  let w := { w with cacheCalls := w.cacheCalls + 1 }
  if fails then (.error (.cache "cache.down"), w)
  else match w.lostSwaps, cmd with
    | lost + 1, .swap .. => (.ok false, { w with lostSwaps := lost })
    | _, cmd =>
      let (answer, cache) := w.cache.perform w.millis cmd
      (.ok answer, { w with cache := cache })

/-- Answers a statement. -/
def performStore (w : World) (st : Store.Statement) : Except Failure st.Answer × World :=
  let (answer, store) := w.store.perform w.instant st
  (answer, { w with store := store })

/-- Answers an act. -/
def perform (w : World) : (act : Act) → act.Answer × World
  | .clock => (w.now, w)
  | .uuid => (w.outside.uuids w.drawn, { w with drawn := w.drawn + 1 })
  | .code => (w.nextCode, { w with drawn := w.drawn + 1 })
  | .salt => (w.outside.salts w.drawn, { w with drawn := w.drawn + 1 })
  | .cache cmd => w.performCache cmd
  | .store st => w.performStore st
  | .exchange code =>
    match w.outside.exchange code with
    | .ok token => (.ok token, { w with exchanged := w.exchanged ++ [code] })
    | .error e => (.error e, w)
  | .profile accessToken => (w.outside.profile accessToken, w)
  | .mail address code =>
    match w.outside.deliverMail address code with
    | .ok () => (.ok (), { w with mails := w.mails ++ [(address, code)] })
    | .error e => (.error e, w)
  | .text phone message =>
    match w.outside.deliverText phone message with
    | .ok () => (.ok (), { w with texts := w.texts ++ [(phone, message)] })
    | .error e => (.error e, w)

end World

/-- Runs a call alone: its outcome, and the world after it. -/
def Flow.run {α : Type} : Flow α → World → Except Failure α × World
  | .done value, w => (.ok value, w)
  | .fail failure, w => (.error failure, w)
  | .step act next, w => (next (w.perform act).1).run (w.perform act).2

end SignOn
