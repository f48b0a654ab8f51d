import RequestScribe.Code.Basic
import RequestScribe.Text.Basic

/-!
# Layout

A program is laid out by steps: lines, blocks and blank lines.  A writer runs
them, keeping the level of indentation; the steps themselves are data, so that
one can say what a program consists of without laying it out.
-/

namespace RequestScribe

inductive Step where
  /-- One line at the current level. -/
  | line (text : Code)
  /-- The lines of a text, each at the current level. -/
  | lines (text : Code)
  /-- Append to the last line. -/
  | terminate (ending : Code)
  /-- A blank line, unless there is one or nothing has been written. -/
  | blank
  | indent
  | dedent
  /-- A line, steps one level deeper, and a line. -/
  | block (opening closing : Code) (body : List Step)
  /-- A line and steps one level deeper. -/
  | scope (opening : Code) (body : List Step)
  deriving Repr

/-- Text under construction, kept latest character first. -/
structure Writer where
  unit : String
  level : Nat := 0
  written : List Char := []
  deriving DecidableEq, Repr

namespace Writer

def push (w : Writer) (text : String) : Writer :=
  { w with written := text.toList.reverse ++ w.written }

/-- Write a line; an empty one is not indented. -/
def line (w : Writer) (text : String) : Writer :=
  let indented := if text.isEmpty then w else (w.push (Text.times w.level w.unit)).push text
  indented.push "\n"

def lines (w : Writer) (text : String) : Writer :=
  (Text.lines text).foldl line w

/-- Append to the last line; its line feed goes to the end again. -/
def terminate (w : Writer) (ending : String) : Writer :=
  let opened := match w.written with
    | '\n' :: rest => { w with written := rest }
    | _ => w
  (opened.push ending).push "\n"

def blank (w : Writer) : Writer :=
  match w.written with
  | [] => w
  | '\n' :: '\n' :: _ => w
  | _ => w.push "\n"

def indent (w : Writer) : Writer :=
  { w with level := w.level + 1 }

def dedent (w : Writer) : Writer :=
  { w with level := w.level - 1 }

mutual

def run (w : Writer) : Step → Writer
  | .line text => w.line text.text
  | .lines text => w.lines text.text
  | .terminate ending => w.terminate ending.text
  | .blank => w.blank
  | .indent => w.indent
  | .dedent => w.dedent
  | .block opening closing body =>
      (runAll (w.line opening.text).indent body).dedent.line closing.text
  | .scope opening body => (runAll (w.line opening.text).indent body).dedent

def runAll (w : Writer) : List Step → Writer
  | [] => w
  | step :: rest => runAll (run w step) rest

end

/-- The text without blanks at its end, and one line feed. -/
def finish (w : Writer) : String :=
  String.ofList (w.written.dropWhile Chars.isBlank).reverse ++ "\n"

end Writer

/-- The text that steps lay out with a given unit of indentation. -/
def Step.layOut (unit : String) (steps : List Step) : String :=
  (Writer.runAll { unit } steps).finish

end RequestScribe
