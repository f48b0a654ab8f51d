import RequestScribe.CommandLine.Session

/-!
# The program

Reads what a command line asks for, and prints the answer.
-/

namespace RequestScribe

namespace CommandLine

def readFile (path : String) : IO Contents := do
  match ← (IO.FS.readFile path).toBaseIO with
  | .ok text => return .text text
  | .error (.noFileOrDirectory ..) => return .absent
  | .error _ => return .unreadable

def configurationDirectory : IO String := do
  let named := fun (value : Option String) => value.filter fun s => !s.isEmpty
  if let some directory := named (← IO.getEnv "CURL2CODE_CONFIG_DIR") then
    return directory
  if let some directory := named (← IO.getEnv "XDG_CONFIG_HOME") then
    return directory ++ "/" ++ programName
  if let some directory := named (← IO.getEnv "HOME") then
    return directory ++ "/.config/" ++ programName
  return "." ++ programName

def surroundings (a : Arguments) : IO Surroundings := do
  let configuration ← readFile ((← configurationDirectory) ++ "/config.toml")
  let files ← a.files.mapM fun path => do
    return (path, ← readFile path)
  let input ← if a.readsInput then (← IO.getStdin).readToEnd else pure ""
  return {
    input
    configuration
    file := fun path => (files.lookup path).getD .absent }

def Answer.print (a : Answer) : IO UInt32 := do
  IO.print a.output
  IO.eprint a.errors
  return UInt32.ofNat a.status

end CommandLine

end RequestScribe

open RequestScribe.CommandLine in
def main (words : List String) : IO UInt32 := do
  match Arguments.read words with
  | .ok a => (a.answer (← surroundings a)).print
  | .error refusal => refusal.answer.print
