import SignOn.Settings.Variable
/-!
Files with environment variables, one on a line: a name, an equals sign, a text. Texts may be
quoted, and then go over several lines; outside single quotes a dollar sign stands before the name
of a variable whose text is put in. The first line that is none of this ends the file, but what
stands before it counts. A variable that is set already keeps its text.
-/

namespace SignOn.DotEnv

open SignOn.Text SignOn.Variable

/-! ## Lines -/

/-- Where a reader stands between two characters. -/
inductive Place where
  | plain
  /-- After a blank, where a comment may begin. -/
  | blank
  | single
  | double
  deriving DecidableEq

/-- A line, and whether it is finished. -/
inductive Cut where
  | whole
  /-- A comment cuts the line off here. -/
  | comment
  /-- The next line belongs to it. -/
  | unfinished (place : Place) (escaped : Bool)

/-- Reads on to the end of a line, and gives what of it counts. -/
def scan : Place → Bool → List Char → List Char × Cut
  | .plain, false, [] => ([], .whole)
  | place, escaped, [] => ([], .unfinished place escaped)
  | place, true, c :: cs =>
    let (line, cut) := scan place false cs
    (c :: line, cut)
  | place, false, c :: cs =>
    if place = .blank && c == '#' then ([], .comment)
    else
      let next := match place with
        | .single => if c == '\'' then .plain else .single
        | .double => if c == '"' then .plain else .double
        | place =>
          if c == '"' then .double
          else if c == '\'' then .single
          else if place = .plain && isBlank c && c != '\n' && c != '\r' then .blank
          else .plain
      let (line, cut) := scan next (c == '\\') cs
      (c :: line, cut)

/-- Splits off a line with its end. -/
def cutLine (cs : List Char) : List Char × List Char :=
  let line := cs.takeWhile (· != '\n')
  match cs.drop line.length with
  | [] => (line, [])
  | c :: rest => (line ++ [c], rest)

/-- Drops the end of a line. -/
def chomp (line : List Char) : List Char :=
  match line.reverse with
  | '\n' :: '\r' :: rest | '\n' :: rest => rest.reverse
  | _ => line

/-- The next line with all that belongs to it; nothing if the file ends inside of it. -/
def nextLine? : Nat → List Char → Place → Bool → List Char → Option (List Char × List Char)
  | 0, _, _, _, _ => none
  | fuel + 1, before, place, escaped, cs =>
    match cs with
    | [] => none
    | cs =>
      let (line, rest) := cutLine cs
      if (trimStart (before ++ line)).head? == some '#' then some ([], rest)
      else match scan place escaped line with
        | (line, .whole) => some (chomp (before ++ line), rest)
        | (line, .comment) => some (before ++ line, rest)
        | (line, .unfinished place escaped) =>
          nextLine? fuel (before ++ line) place escaped rest

/-! ## Texts -/

/-- The text of a variable: the environment goes before the file, and what is unknown is empty. -/
def lookUp (environment file : List Binding) (name : List Char) : List Char :=
  let name := String.ofList name
  (((environment.lookup name).or (file.lookup name)).getD "").toList

/-- A letter or digit, of which names after a dollar sign are made. -/
def isNamePart (c : Char) : Bool := c.isAlphanum || (0x80 ≤ c.toNat && !isBlank c)

/-- What of a text has been read. -/
structure Reading where
  output : List Char := []
  quote : Option Char := none
  escaped : Bool := false
  /-- The name after a dollar sign, and whether it stands in braces. -/
  name : Option (List Char × Bool) := none
  ended : Bool := false

/-- Reads a character; nothing if it cannot stand here. The flag tells whether to stop. -/
def step (find : List Char → List Char) (r : Reading) (c : Char) : Option (Reading × Bool) :=
  let out (r : Reading) (cs : List Char) : Reading := { r with output := r.output ++ cs }
  if r.ended then
    if c == ' ' || c == '\t' then some (r, false)
    else if c == '#' then some (r, true)
    else none
  else if r.escaped then
    let r := { r with escaped := false }
    if "\\'\"$ ".toList.contains c then some (out r [c], false)
    else if c == 'n' then some (out r ['\n'], false)
    else none
  else if r.quote == some '\'' then
    some (if c == '\'' then { r with quote := none } else out r [c], false)
  else match r.name with
    | some (name, braced) =>
      if isNamePart c then some ({ r with name := some (name ++ [c], braced) }, false)
      else if braced then
        if c == '\x7d' then some (out { r with name := none } (find name), false)
        else some ({ r with name := some (name ++ [c], true) }, false)
      else if c == '\x7b' && name.isEmpty then some ({ r with name := some ([], true) }, false)
      else
        let r := out { r with name := none } (find name)
        some (if c == '$' then { r with name := some ([], false) } else out r [c], false)
    | none =>
      if c == '$' then some ({ r with name := some ([], false) }, false)
      else if r.quote == some '"' then
        if c == '"' then some ({ r with quote := none }, false)
        else if c == '\\' then some ({ r with escaped := true }, false)
        else some (out r [c], false)
      else if c == '\'' || c == '"' then some ({ r with quote := some c }, false)
      else if c == '\\' then some ({ r with escaped := true }, false)
      else if c == ' ' || c == '\t' then some ({ r with ended := true }, false)
      else some (out r [c], false)

/-- Reads a text to its end. -/
def textOf? (find : List Char → List Char) : Reading → List Char → Option String
  | r, [] =>
    let inBraces := r.name.any (·.2)
    if inBraces || r.quote.isSome then none
    else some (String.ofList (r.output ++ find ((r.name.map (·.1)).getD [])))
  | r, c :: cs => match step find r c with
    | some (r, false) => textOf? find r cs
    | some (r, true) => textOf? find r []
    | none => none

/-! ## Bindings -/

/-- A name, and what follows it. -/
def name? (cs : List Char) : Option (String × List Char) :=
  let isLetter (c : Char) := ('a' ≤ c && c ≤ 'z') || ('A' ≤ c && c ≤ 'Z') || c == '_'
  if cs.head?.any isLetter then
    let name := cs.takeWhile fun c => isLetter c || ('0' ≤ c && c ≤ '9') || c == '.'
    some (String.ofList name, trimStart (cs.drop name.length))
  else none

/-- The name in front of an equals sign; the word `export` may stand before it. -/
def binder? (cs : List Char) : Option (String × List Char) := do
  match ← name? cs with
  | (name, '=' :: rest) => some (name, trimStart rest)
  | ("export", rest) => match ← name? rest with
    | (name, '=' :: rest) => some (name, trimStart rest)
    | _ => none
  | _ => none

/-- What a line holds. -/
inductive Line where
  | nothing
  | binding (name text : String)
  | bad

/-- Reads a line. -/
def lineOf (environment file : List Binding) (cs : List Char) : Line :=
  match trimStart cs with
  | [] | '#' :: _ => .nothing
  | cs => match binder? cs with
    | none => .bad
    | some (name, []) | some (name, '#' :: _) => .binding name ""
    | some (name, rest) => match textOf? (lookUp environment file) {} rest with
      | some text => .binding name text
      | none => .bad

/-- Adds the variables of the lines to an environment; `file` holds those met so far, last one
first. -/
def addLines : Nat → List Binding → List Binding → List Char → List Binding
  | 0, environment, _, _ => environment
  | fuel + 1, environment, file, cs =>
    match nextLine? (cs.length + 1) [] .plain false cs with
    | none => environment
    | some (line, rest) => match lineOf environment file line with
      | .bad => environment
      | .nothing => addLines fuel environment file rest
      | .binding name text =>
        let environment := if environment.any (·.1 == name) then environment
          else environment ++ [(name, text)]
        addLines fuel environment ((name, text) :: file) rest

/-- An environment with the variables of a file. -/
def load (environment : List Binding) (text : String) : List Binding :=
  let cs := match text.toList with
    | '\uFEFF' :: cs => cs
    | cs => cs
  addLines (cs.length + 1) environment [] cs

end SignOn.DotEnv
