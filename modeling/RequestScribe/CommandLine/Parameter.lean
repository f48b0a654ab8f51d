/-!
# Parameters of the command line

The options that may be given, how they are spelled and what they are for.
-/

namespace RequestScribe

namespace CommandLine

/-- Options that take a value. -/
inductive Valued where
  | batch
  | language
  | framework
  | errorHandling
  | retry
  | indent
  | timeout
  | sampleResponse
  deriving DecidableEq, Repr

/-- Options without a value that are given once or not at all. -/
inductive Switch where
  | listLanguages
  | blocking
  | noEnv
  | noTypes
  | noComments
  | tabs
  | tests
  | json
  deriving DecidableEq, Repr

inductive Parameter where
  | valued (parameter : Valued)
  | switch (parameter : Switch)
  /-- Counts how often it is given. -/
  | verbose
  | help
  | version
  deriving DecidableEq, Repr

/-- What stands for the value of an option in a help text. -/
def Valued.placeholder : Valued → String
  | .batch => "FILE"
  | .language => "LANGUAGE"
  | .framework => "FRAMEWORK"
  | .errorHandling => "LEVEL"
  | .retry => "N"
  | .indent => "N"
  | .timeout => "MS"
  | .sampleResponse => "FILE"

namespace Parameter

def all : List Parameter :=
  [ .valued .batch, .valued .language, .valued .framework, .switch .listLanguages,
    .valued .errorHandling, .switch .blocking, .switch .noEnv, .switch .noTypes,
    .switch .noComments, .valued .retry, .valued .indent, .switch .tabs, .valued .timeout,
    .valued .sampleResponse, .switch .tests, .switch .json, .verbose, .help, .version ]

def name : Parameter → String
  | .valued .batch => "batch"
  | .valued .language => "language"
  | .valued .framework => "framework"
  | .valued .errorHandling => "error-handling"
  | .valued .retry => "retry"
  | .valued .indent => "indent"
  | .valued .timeout => "timeout"
  | .valued .sampleResponse => "sample-response"
  | .switch .listLanguages => "list-languages"
  | .switch .blocking => "sync"
  | .switch .noEnv => "no-env"
  | .switch .noTypes => "no-types"
  | .switch .noComments => "no-comments"
  | .switch .tabs => "tabs"
  | .switch .tests => "tests"
  | .switch .json => "json"
  | .verbose => "verbose"
  | .help => "help"
  | .version => "version"

def letter? : Parameter → Option Char
  | .valued .language => some 'l'
  | .valued .framework => some 'f'
  | .verbose => some 'v'
  | .help => some 'h'
  | .version => some 'V'
  | _ => none

def ofName? (s : String) : Option Parameter :=
  all.find? fun p => p.name == s

def ofLetter? (c : Char) : Option Parameter :=
  all.find? fun p => p.letter? == some c

def purpose : Parameter → String
  | .valued .batch =>
      "Convert every command in FILE (one per line, or blank-line separated)"
  | .valued .language =>
      "Target language (javascript, typescript, python, go, rust, php, ruby)"
  | .valued .framework =>
      "Client library for the target language; defaults to its first framework"
  | .switch .listLanguages => "List supported languages and frameworks, then exit"
  | .valued .errorHandling => "Error handling: none, basic, comprehensive"
  | .switch .blocking => "Emit callback/promise style instead of awaiting calls"
  | .switch .noEnv => "Keep secrets inline instead of reading them from environment variables"
  | .switch .noTypes => "Skip type declarations"
  | .switch .noComments => "Skip explanatory comments and example usage"
  | .valued .retry => "Scaffold retry logic with N attempts"
  | .valued .indent => "Indentation width in spaces"
  | .switch .tabs => "Indent with tabs"
  | .valued .timeout => "Request timeout in milliseconds"
  | .valued .sampleResponse =>
      "JSON file describing a sample response, used to declare ResponseData"
  | .switch .tests => "Emit a test scaffold"
  | .switch .json => "Print conversion results as JSON"
  | .verbose => "Verbose logging to stderr"
  | .help => "Print help"
  | .version => "Print version"

/-- How a parameter is given, in a help text. -/
def usage (p : Parameter) : String :=
  let letter := match p.letter? with
    | some c => "-" ++ String.singleton c ++ ", "
    | none => "    "
  let value := match p with
    | .valued v => " <" ++ v.placeholder ++ ">"
    | .verbose => "..."
    | _ => ""
  letter ++ "--" ++ p.name ++ value

end Parameter

end CommandLine

end RequestScribe
