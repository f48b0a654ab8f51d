import RequestScribe.Command.Draft
import RequestScribe.Shell.Words

/-!
# Reading a command
-/

namespace RequestScribe

namespace Command

def ofWords (words : List String) : Except Failure Outcome :=
  (Draft.ofItems (Item.ofWords words)).finish

def parse (command : String) : Except Failure Outcome :=
  match Shell.arguments command with
  | .ok words => ofWords words
  | .error failure => .error failure

end Command

end RequestScribe
