import SignOn.Launch
/-!
The command line: reads an environment file from the standard input, and prints the routes of the
service that it describes, or what keeps that service from being launched.
-/

namespace SignOn.Main

/-- All lines of a stream. -/
partial def readAll (input : IO.FS.Stream) (text : String) : IO String := do
  let line ← input.getLine
  if line.isEmpty then return text else readAll input (text ++ line)

end SignOn.Main

/-- Prints the routes, and tells by its exit code whether there are any. -/
def main : IO UInt32 := do
  match SignOn.Launch.routesOf (← SignOn.Main.readAll (← IO.getStdin) "") with
  | .ok routes =>
    for route in routes do
      IO.println route
    return 0
  | .error obstacle =>
    IO.eprintln obstacle.message
    return 1
