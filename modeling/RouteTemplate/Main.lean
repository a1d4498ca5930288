/-
The program: it reads the settings file, runs the command line and ends with its
exit code.
-/
import RouteTemplate.CommandLine.Program

namespace RouteTemplate
namespace CommandLine

/-- The settings file of an invocation, if it can be read. -/
def settingsFile (i : Invocation) : IO (List (String × String)) := do
  let path := i.settingsPath.getD Settings.defaultFile
  try
    return [(path, ← IO.FS.readFile path)]
  catch _ => return []

def files (words : List String) : IO (List (String × String)) :=
  match Invocation.ofWords words with
  | .ok i => settingsFile i
  | .error _ => return []

end CommandLine
end RouteTemplate

def main (words : List String) : IO UInt32 := do
  let outcome := RouteTemplate.CommandLine.run (← RouteTemplate.CommandLine.files words) words
  for line in outcome.errors do
    IO.eprintln (String.ofList line)
  IO.print outcome.output
  return UInt32.ofNat outcome.exitCode
