import SignOn.Failure
import SignOn.Settings.Toml
import SignOn.Settings.Variable
/-!
Where settings come from: lowest the values that hold by themselves, then the settings file, then
the environment. The file is divided by profiles; `default` holds always, and what stands under
`global` cannot be changed by the environment.
-/

namespace SignOn.Settings

open SignOn.Json SignOn.Text

/-- Whether each part of a settings file is a profile, which is a table. -/
def hasProfiles (members : List (String × Value)) : Bool :=
  members.all fun member => member.2.members?.isSome

/-- The layer of a profile. Names of profiles are told apart without regard to case. -/
def profile (members : List (String × Value)) (name : String) : Value :=
  ((members.reverse.find? fun member => sameAscii member.1.toList name.toList).map (·.2)).getD
    Layer.empty

/-- The settings that a file and an environment describe together. -/
def load? (file : Option String) (environment : List Variable.Binding) : Option Settings := do
  let members ← match file with
    | some text => Toml.parse? text
    | none => some []
  if hasProfiles members then
    let layers :=
      profile members "default" :: Variable.layers environment ++ [profile members "global"]
    Settings.with? {} (Layer.pile layers)
  else none

/-- `load?`, with the failure that is reported where the settings cannot be read. -/
def load (file : Option String) (environment : List Variable.Binding) : Except Failure Settings :=
  match load? file environment with
  | some settings => .ok settings
  | none => .error Failure.unreadableConfiguration

end SignOn.Settings
