import RequestScribe.Failure
import RequestScribe.Shell.Quoting
import RequestScribe.Text.Basic

/-!
# The words of a command

A command is cut into words by running the quoting automaton over it.  Line
continuations are removed first, so that a command over several lines reads as
one line.  The first word has to name the program.
-/

namespace RequestScribe

namespace Shell

/--
Put one character in front of a text: a backslash before a line break becomes,
together with the line break, a space.
-/
def joinContinuation (c : Char) (rest : List Char) : List Char :=
  match c, rest with
  | '\\', '\n' :: tail => ' ' :: tail
  | '\\', '\r' :: '\n' :: tail => ' ' :: tail
  | c, rest => c :: rest

/-- Replace every line continuation by a space. -/
def joinContinuations (command : List Char) : List Char :=
  command.foldr joinContinuation []

/-- A scan under way; `done` and `word` are kept latest first. -/
structure Scan where
  state : State := .unquoted
  done : List (List Char) := []
  word : List Char := []
  /-- Whether the word under construction exists, be it empty. -/
  started : Bool := false
  deriving DecidableEq, Repr

namespace Scan

def push (scan : Scan) (c : Char) : Scan :=
  { scan with word := c :: scan.word, started := true }

/-- Finish the word under construction, if there is one. -/
def split (scan : Scan) : Scan :=
  if scan.started then
    { scan with done := scan.word.reverse :: scan.done, word := [], started := false }
  else scan

def record (scan : Scan) (state : State) (action : Action) : Scan :=
  let moved := { scan with state := state }
  match action with
  | .skip => moved
  | .push c => moved.push c
  | .pushPair a b => (moved.push a).push b
  | .openQuote => { moved with started := true }
  | .split => moved.split
  | .replay c => moved.push c

def feed (scan : Scan) (c : Char) (next : Option Char) : Scan :=
  (steps scan.state c next).foldl (fun s taken => s.record taken.1 taken.2) scan

def run (scan : Scan) : List Char → Scan
  | [] => scan
  | c :: rest => run (scan.feed c rest.head?) rest

/-- The words in order, or the quote that is still open. -/
def finish (scan : Scan) : Except OpenQuote (List (List Char)) :=
  match scan.state with
  | .single | .ansiOpening | .ansi | .ansiEscaped | .ansiHex .. => .error .single
  | .double | .doubleEscaped => .error .double
  | .escaped => .ok (scan.push '\\').split.done.reverse
  | .unquoted => .ok scan.split.done.reverse

end Scan

/-- The words of a text without line continuations. -/
def scanWords (text : List Char) : Except OpenQuote (List (List Char)) :=
  (Scan.run {} text).finish

def tokenize (text : String) : Except Failure (List String) :=
  match scanWords (joinContinuations text.toList) with
  | .ok words => .ok (words.map String.ofList)
  | .error quote => .error (.unterminatedQuote quote)

/-- Whether a word names the program, with or without a directory and `.exe`. -/
def isProgramName (word : String) : Bool :=
  let pieces := (Chars.lower word.toList).splitOnP (fun c => c == '/' || c == '\\')
  let base := pieces.getLastD []
  base == "curl".toList || base == "curl.exe".toList

def arguments (command : String) : Except Failure (List String) :=
  if Text.isBlank command then .error .emptyCommand
  else
    match tokenize command with
    | .error failure => .error failure
    | .ok (first :: rest) => if isProgramName first then .ok rest else .error .notCurl
    | .ok [] => .error .notCurl

/--
Write a text as one word: between single quotes, each single quote inside
written as `'\''`.
-/
def quote (text : String) : String :=
  "'" ++ Text.replaceChar '\'' "'\\''" text ++ "'"

end Shell

end RequestScribe
