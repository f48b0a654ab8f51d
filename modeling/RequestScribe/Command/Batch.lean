import RequestScribe.Shell.Words

/-!
# Batches of commands

Blank lines separate the commands of a batch, and lines that begin with `#` are
comments.  Lines that each begin with the program's name are one command each
even without blank lines between them, unless one of them is continued.
-/

namespace RequestScribe

namespace Batch

def isComment (line : String) : Bool :=
  Text.startsWith "#" (Text.trimStart line)

/-- The maximal runs of lines that are neither blank nor comments. -/
def blocks (text : String) : List (List String) :=
  (((Text.lines text).filter fun line => !isComment line).splitOnP Text.isBlank).filter
    fun block => !block.isEmpty

/-- Whether a line begins with the program's name and is not continued. -/
def isWhole (line : String) : Bool :=
  (((Text.words line).head?.map Shell.isProgramName).getD false) &&
    !Text.endsWith "\\" (Text.trimEnd line)

/-- The commands of a run of lines. -/
def ofBlock (block : List String) : List String :=
  if block.all isWhole then block.map Text.trim else ["\n".intercalate block]

def commands (text : String) : List String :=
  (blocks text).flatMap ofBlock

end Batch

end RequestScribe
