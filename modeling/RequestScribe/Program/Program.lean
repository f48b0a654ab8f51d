import RequestScribe.Code.Writer
import RequestScribe.Program.Brief
import RequestScribe.Program.Target

/-!
# Programs

What a generator makes of a brief, and the steps that the generators share.
-/

namespace RequestScribe

open Step

structure Program where
  /-- Everything that the program's file holds, in order. -/
  steps : List Step
  imports : List String := []
  dependencies : List String := []
  types? : Option Code := none
  /-- A test of the program. -/
  testSteps? : Option (List Step) := none

namespace Step

def plainLines (texts : List String) : List Step :=
  texts.map fun text => line (Code.plain text)

def remark (marker text : String) : Step :=
  line (Code.remark (marker ++ text))

def when (condition : Bool) (steps : List Step) : List Step :=
  if condition then steps else []

end Step

namespace Brief

/-- The head of a program as line comments: what it does, what it leaves out, how to retry. -/
def headComments (b : Brief) (marker : String) (notes : List String) : List Step :=
  Step.when b.comments
      (Step.remark marker b.summary ::
        notes.map fun note => Step.remark marker ("Note: " ++ note)) ++
    b.retryLines.map (Step.remark marker)

/-- The type declarations of a program and a blank line after them. -/
def typeSteps (b : Brief) (dialect : Dialect) : List Step :=
  match b.types? dialect with
  | some types => [lines types, blank]
  | none => []

def upload? (b : Brief) (index : Nat) : Option FileUpload :=
  b.files[index]?

end Brief

end RequestScribe
