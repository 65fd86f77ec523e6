import SignOn.Keyspace.Bundles
import SignOn.Setup
/-!
Issuing and checking one-time codes. A bundle holds only so many codes, and some time must pass
between two of them. A bundle that changes while a code is being added is read again, a few times
at most.
-/

namespace SignOn.Verification

open SignOn.Keyspace

/-- How often a bundle is read again. -/
def swapAttempts : Nat := 3

/-- The fixed code of a subject, if it has one. -/
def fixedCode? (s : Setup) : Subject → Option String
  | .phone number => s.settings.verification.fixedCode? number
  | .email _ => none

/-- Writes what `next` makes of the bundle of a subject, in `attempts` attempts. -/
def store (s : Setup) (subject : Subject) (next : Bundle → Flow Bundle) :
    (attempts : Nat) → Flow Unit
  | 0 => .fail .codesLimit
  | attempts + 1 => do
    let loaded ← Bundles.load subject
    let updated ← next loaded.bundle
    if ← Bundles.replace s.bundleLifetime subject loaded updated then return ()
    else store s subject next attempts

/-- Adds a code to a bundle, unless there are too many or the last one is too recent. -/
def addCode (s : Setup) (code : String) (bundle : Bundle) : Flow Bundle := do
  let now ← Flow.now
  Flow.ensure (!(bundle.isFull s.settings.verification.maxCodes ||
    bundle.isFrequent now s.settings.verification.minInterval)) .codesLimit
  return bundle.insert code now

/-- The text message with a code. -/
def textOf (s : Setup) (code : String) : String :=
  "Your verification code for " ++ s.settings.verification.appName ++ " - " ++ code

/-- Sends a code to its subject. -/
def deliver (s : Setup) (subject : Subject) (code : String) : Flow Unit :=
  match subject with
  | .email address => Flow.mail address code
  | .phone number => Flow.text number (textOf s code)

/-- Issues a code to a subject, and sends it. A code that could not be delivered counts all the
same. A phone with a fixed code gets that one, and no message. -/
def issue (s : Setup) (subject : Subject) : Flow Unit :=
  match fixedCode? s subject with
  | some code => do
    let now ← Flow.now
    store s subject (fun _ => return ⟨[code], now⟩) swapAttempts
  | none => do
    let code ← Flow.newCode
    store s subject (addCode s code) swapAttempts
    deliver s subject code

/-- Succeeds iff the candidate was issued to the subject. The bundle stays. -/
def check (subject : Subject) (candidate : String) : Flow Unit := do
  let loaded ← Bundles.load subject
  Flow.ensure (loaded.bundle.contains candidate) .incorrectCode

/-- Voids all codes of a subject. -/
def clear (subject : Subject) : Flow Unit := Bundles.remove subject

end SignOn.Verification
