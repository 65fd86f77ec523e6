import SignOn.Settings.Written
/-!
Layers of settings. An upper layer says only what it wants changed: where both layers have a table,
the tables are laid over one another, and everywhere else the upper value stands.
-/

namespace SignOn

open SignOn.Json

namespace Layer

mutual

/-- A lower value covered by an upper one. -/
def cover (lower upper : Value) : Value :=
  match lower, upper with
  | .object below, .object above => .object (coverMembers below above)
  | _, upper => upper

/-- Members covered by others. Members that are only above come last. -/
def coverMembers : List (String × Value) → List (String × Value) → List (String × Value)
  | [], above => above
  | (name, value) :: below, above =>
    match above.lookup name with
    | some new => (name, cover value new) ::
        coverMembers below (above.filter fun member => member.1 != name)
    | none => (name, value) :: coverMembers below above

end

/-- A value at the end of a path of names. -/
def nest : List String → Value → Value
  | [], value => value
  | name :: path, value => .object [(name, nest path value)]

/-- The layer with nothing in it. -/
def empty : Value := .object []

/-- Layers laid over one another, lowest first. -/
def pile (layers : List Value) : Value := layers.foldl cover empty

end Layer

/-- Settings with a layer over them, if it leaves every setting of its type. -/
def Settings.with? (s : Settings) (layer : Value) : Option Settings :=
  Settings.ofValue? (Layer.cover s.toValue layer)

end SignOn
