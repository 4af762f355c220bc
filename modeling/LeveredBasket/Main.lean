/-
The command line: walks through the life of a levered basket.

Settings are taken from `leverage.toml` in the current directory, if there is
such a file, and from the variables of the process. The exit code tells whether
the walk came to its end.
-/
import LeveredBasket.Walkthrough

set_option autoImplicit false

namespace LeveredBasket

/-- The file of that name in the current directory, if it is there. -/
def readIfThere (name : String) : IO (Option String) := do
  try
    let text ← IO.FS.readFile name
    pure (some text)
  catch _ => pure none

/-- Names and values as a process lists them. -/
def variablesOf (listing : String) : List (String × String) :=
  (listing.splitOn "\x00").filterMap fun entry =>
    match entry.splitOn "=" with
    | name :: value => if value = [] then none else some (name, "=".intercalate value)
    | [] => none

end LeveredBasket

open LeveredBasket in
def main : IO UInt32 := do
  let file ← readIfThere "leverage.toml"
  let listing ← readIfThere "/proc/self/environ"
  let (lines, complete) := Walkthrough.run file (variablesOf (listing.getD ""))
  for line in lines do
    IO.println line
  pure (if complete then 0 else 1)
