import RequestScribe.Capture.Command
import RequestScribe.Command.Batch
import RequestScribe.CommandLine.Arguments
import RequestScribe.Conversion.Report
import RequestScribe.Settings.Configuration

/-!
# Sessions

What the program answers to a command line, given what it can read: the
standard input, a configuration and files.
-/

namespace RequestScribe

namespace CommandLine

/-- What reading a file comes to. -/
inductive Contents where
  | absent
  | unreadable
  | text (s : String)
  deriving DecidableEq, Repr

def Contents.text? : Contents → Option String
  | .text s => some s
  | _ => none

structure Surroundings where
  input : String := ""
  configuration : Contents := .absent
  file : String → Contents := fun _ => .absent

structure Answer where
  status : Nat := 0
  output : String := ""
  errors : String := ""
  deriving DecidableEq, Repr

inductive Obstacle where
  | configuration (failure : Failure)
  | unreadableSample (path : String)
  | invalidSample (path : String)
  | unreadableBatch (path : String)
  deriving DecidableEq, Repr

def programName : String := "curl2code"

def programVersion : String := "0.1.0"

def Obstacle.message : Obstacle → String
  | .configuration failure => failure.message
  | .unreadableSample path => "Failed to read sample response " ++ path ++ ": not readable"
  | .invalidSample path => "Sample response " ++ path ++ " is not valid JSON: it does not parse"
  | .unreadableBatch path => "Failed to read batch file " ++ path ++ ": not readable"

def Obstacle.answer (o : Obstacle) : Answer :=
  { status := 1, errors := programName ++ ": " ++ o.message ++ "\n" }

def padded (width : Nat) (s : String) : String :=
  s ++ Text.times (width - s.length) " "

/-! ## Help -/

def commandUsage : String := "[COMMAND]"

def commandPurpose : String :=
  "The curl command, or a HAR capture; read from stdin when absent or \"-\""

def usageWidth : Nat := 31

def helpText : String :=
  "Convert curl commands into code\n\nUsage: " ++ programName ++ " [OPTIONS] " ++ commandUsage ++
    "\n\nArguments:\n  " ++ commandUsage ++ "  " ++ commandPurpose ++ "\n\nOptions:\n" ++
    String.join (Parameter.all.map fun p =>
      "  " ++ padded usageWidth p.usage ++ p.purpose ++ "\n")

def Refusal.message : Refusal → String
  | .unknownArgument => "unexpected argument found"
  | .missingValue => "a value is required for an argument but none was supplied"
  | .unreadableValue => "invalid value for an argument"
  | .conflict => "an argument cannot be used multiple times or with another one"
  | .surplusValue => "unexpected value for an argument found; no more were expected"
  | .helpAsked => helpText
  | .versionAsked => programName ++ " " ++ programVersion ++ "\n"

def Refusal.answer (r : Refusal) : Answer :=
  match r with
  | .helpAsked => { output := r.message }
  | .versionAsked => { output := r.message }
  | _ => { status := 2, errors := "error: " ++ r.message ++ "\n" }

/-! ## Languages -/

def languageLine (l : Language) : String :=
  padded 12 l.id ++ " " ++ padded 12 l.displayName ++ " " ++ ", ".intercalate l.frameworks ++ "\n"

def languageReport (l : Language) : Json.Value :=
  .object
    [ ("id", .string l.id),
      ("displayName", .string l.displayName),
      ("frameworks", .ofTexts l.frameworks),
      ("extension", .string l.extension) ]

def jsonIndent : String := "  "

def jsonText (v : Json.Value) : String :=
  v.pretty jsonIndent ++ "\n"

def languagesAnswer (asJson : Bool) : Answer :=
  { output :=
      if asJson then jsonText (.array (Language.all.map languageReport))
      else String.join (Language.all.map languageLine) }

/-! ## Results -/

def resultHeader (index : Nat) (c : Conversion) : String :=
  let name := (c.code?.map Generated.fileName).getD "-"
  (if index = 0 then "" else "\n") ++ "==> " ++ toString (index + 1) ++ ": " ++ name ++ " <==\n"

def resultOutput (many : Bool) (c : Conversion) (index : Nat) : String :=
  (if many then resultHeader index c else "") ++ (c.code?.map Generated.code).getD ""

def resultErrors (c : Conversion) : String :=
  String.join (c.warnings.map fun warning => "warning: " ++ warning ++ "\n") ++
    (c.failure?.map fun failure => "error: " ++ failure.message ++ "\n").getD ""

/-- The results as JSON: a lone result that is not of a batch stands by itself. -/
def resultsReport (isBatch : Bool) (results : List Conversion) : Json.Value :=
  match isBatch, results with
  | false, [result] => result.report
  | _, _ => .array (results.map Conversion.report)

def resultsAnswer (asJson isBatch : Bool) (results : List Conversion) : Answer :=
  let status := if results.all Conversion.succeeded then 0 else 1
  if asJson then { status, output := jsonText (resultsReport isBatch results) }
  else
    { status
      output :=
        String.join (results.mapIdx fun index c => resultOutput (results.length > 1) c index)
      errors := String.join (results.map resultErrors) }

/-! ## Runs -/

namespace Arguments

def configured : Contents → Except Obstacle Settings
  | .absent => .ok {}
  | .unreadable => .error (.configuration (.config "Failed to read config"))
  | .text s => (Configuration.load (some s)).mapError .configuration

def sample (a : Arguments) (s : Surroundings) : Except Obstacle (List Setting) :=
  match a.sampleResponse? with
  | none => .ok []
  | some path =>
      match (s.file path).text? with
      | none => .error (.unreadableSample path)
      | some text =>
          match Json.Value.read? text with
          | some v => .ok [.sampleResponse (some v)]
          | none => .error (.invalidSample path)

def inputs (a : Arguments) (s : Surroundings) : Except Obstacle (List String) :=
  match a.batch? with
  | some path =>
      match (s.file path).text? with
      | some text => .ok (Batch.commands text)
      | none => .error (.unreadableBatch path)
  | none =>
      match a.command? with
      | none => .ok [s.input]
      | some command => .ok [if command = "-" then s.input else command]

def results (a : Arguments) (s : Surroundings) : Except Obstacle (List Conversion) := do
  let base ← configured s.configuration
  let sample ← a.sample s
  let inputs ← a.inputs s
  return convertAll (inputs.map Capture.normalizeOrKeep) ((a.settings base).assignAll sample)

def answer (a : Arguments) (s : Surroundings) : Answer :=
  if a.has .listLanguages then languagesAnswer (a.has .json)
  else
    match a.results s with
    | .ok results => resultsAnswer (a.has .json) a.batch?.isSome results
    | .error obstacle => obstacle.answer

def files (a : Arguments) : List String :=
  a.sampleResponse?.toList ++ a.batch?.toList

def readsInput (a : Arguments) : Bool :=
  a.batch?.isNone && !a.has .listLanguages &&
    (a.command?.isNone || a.command? == some "-")

end Arguments

def answer (words : List String) (s : Surroundings) : Answer :=
  match Arguments.read words with
  | .ok a => a.answer s
  | .error refusal => refusal.answer

end CommandLine

end RequestScribe
