import RequestScribe.Failure
import RequestScribe.Program.Go
import RequestScribe.Program.Php
import RequestScribe.Program.Python
import RequestScribe.Program.Ruby
import RequestScribe.Program.Rust
import RequestScribe.Program.Script

/-!
# Generated code

The program for a request in a target, with everything that comes along with
it: file name, types, a test, imports, dependencies and documentation.
-/

namespace RequestScribe

structure Generated where
  code : String
  fileName : String
  extension : String
  types? : Option String
  testScaffold? : Option String
  /-- The environment variables and the secrets they stand for. -/
  envVars : EnvVars
  imports : List String
  dependencies : List String
  documentation : String
  deriving DecidableEq, Repr

namespace Target

def program (t : Target) (b : Brief) : Except Failure Program :=
  match t with
  | .javaScript client => .ok (Script.program ⟨false, client⟩ b)
  | .typeScript client => .ok (Script.program ⟨true, client⟩ b)
  | .python client => Python.program client b
  | .go => .ok (Go.program b)
  | .rust => .ok (Rust.program b)
  | .php => .ok (Php.program b)
  | .ruby => .ok (Ruby.program b)

/-- What the program cannot express. -/
def notes (t : Target) (b : Brief) : List String :=
  match t with
  | .javaScript client => Script.notes ⟨false, client⟩ b
  | .typeScript client => Script.notes ⟨true, client⟩ b
  | .python client => Python.notes client b
  | .go => Go.notes b
  | .rust => Rust.notes b
  | .php => Php.notes b
  | .ruby => Ruby.notes b

end Target

namespace Documentation

def envSection (names : List String) : String :=
  if names.isEmpty then ""
  else
    "\n## Environment variables\n\n" ++
      String.join (names.map fun name => "- `" ++ name ++ "`\n")

def dependencySection (install? : Option String) (dependencies : List String) : String :=
  if dependencies.isEmpty then ""
  else
    "\n## Dependencies\n\n" ++
      match install? with
      | some install => "```sh\n" ++ install ++ " " ++ " ".intercalate dependencies ++ "\n```\n"
      | none => String.join (dependencies.map fun name => "- " ++ name ++ "\n")

def text (t : Target) (b : Brief) (dependencies : List String) : String :=
  let l := t.language
  "# " ++ b.summary ++ "\n\n" ++ l.displayName ++ " client using " ++ t.framework ++ ".\n" ++
    envSection b.envNames ++ dependencySection l.install? dependencies ++
    "\n## Usage\n\nSave as `" ++ l.fileName ++ "` and run it.\n"

end Documentation

namespace Generated

/-- Lay out a program; `envVars` are the secrets that were taken out of the request. -/
def ofProgram (t : Target) (b : Brief) (envVars : EnvVars) (p : Program) : Generated :=
  { code := Step.layOut b.unit p.steps
    fileName := t.language.fileName
    extension := t.language.extension
    types? := p.types?.map Code.text
    testScaffold? := p.testSteps?.map (Step.layOut b.unit)
    envVars
    imports := p.imports
    dependencies := p.dependencies
    documentation := Documentation.text t b p.dependencies }

def ofRequest (t : Target) (settings : Settings) (r : Request) : Except Failure Generated :=
  let e := Brief.extraction settings r
  let b := Brief.ofExtraction settings r e
  match t.program b with
  | .ok p => .ok (ofProgram t b e.envVars p)
  | .error failure => .error failure

end Generated

end RequestScribe
