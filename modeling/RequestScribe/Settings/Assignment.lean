import RequestScribe.Settings.Basic

/-!
# Assignments of settings

Every source of settings — a document, a configuration file, a command line —
says the same kind of thing: that one setting has a certain value.  Later
assignments take precedence over earlier ones.
-/

namespace RequestScribe

inductive SettingName where
  | language
  | framework
  | errorHandling
  | awaiting
  | extractEnvVars
  | includeTypes
  | retryLogic
  | retryAttempts
  | includeComments
  | indentSize
  | indentType
  | timeout
  | sampleResponse
  | includeTests
  deriving DecidableEq, Repr

namespace SettingName

/-- All names, in the order in which a list gives the settings. -/
def all : List SettingName :=
  [ .language, .framework, .errorHandling, .awaiting, .extractEnvVars, .includeTypes,
    .retryLogic, .retryAttempts, .includeComments, .indentSize, .indentType, .timeout,
    .sampleResponse, .includeTests ]

def word : SettingName → String
  | .language => "language"
  | .framework => "framework"
  | .errorHandling => "errorHandling"
  | .awaiting => "async"
  | .extractEnvVars => "extractEnvVars"
  | .includeTypes => "includeTypes"
  | .retryLogic => "retryLogic"
  | .retryAttempts => "retryAttempts"
  | .includeComments => "includeComments"
  | .indentSize => "indentSize"
  | .indentType => "indentType"
  | .timeout => "timeout"
  | .sampleResponse => "sampleResponse"
  | .includeTests => "includeTests"

def ofWord? (s : String) : Option SettingName :=
  all.find? fun name => name.word == s

end SettingName

inductive Setting where
  | language (id : String)
  | framework (name : String)
  | errorHandling (level : ErrorHandling)
  | awaiting (on : Bool)
  | extractEnvVars (on : Bool)
  | includeTypes (on : Bool)
  | retryLogic (on : Bool)
  | retryAttempts (n : Nat)
  | includeComments (on : Bool)
  | indentSize (n : Nat)
  | indentType (type : IndentType)
  | timeout (ms? : Option Nat)
  | sampleResponse (sample? : Option Json.Value)
  | includeTests (on : Bool)
  deriving DecidableEq, Repr

namespace Setting

def name : Setting → SettingName
  | .language _ => .language
  | .framework _ => .framework
  | .errorHandling _ => .errorHandling
  | .awaiting _ => .awaiting
  | .extractEnvVars _ => .extractEnvVars
  | .includeTypes _ => .includeTypes
  | .retryLogic _ => .retryLogic
  | .retryAttempts _ => .retryAttempts
  | .includeComments _ => .includeComments
  | .indentSize _ => .indentSize
  | .indentType _ => .indentType
  | .timeout _ => .timeout
  | .sampleResponse _ => .sampleResponse
  | .includeTests _ => .includeTests

end Setting

namespace Settings

def assign (s : Settings) : Setting → Settings
  | .language id => { s with language := id }
  | .framework name => { s with framework := name }
  | .errorHandling level => { s with errorHandling := level }
  | .awaiting on => { s with awaiting := on }
  | .extractEnvVars on => { s with extractEnvVars := on }
  | .includeTypes on => { s with includeTypes := on }
  | .retryLogic on => { s with retryLogic := on }
  | .retryAttempts n => { s with retryAttempts := n }
  | .includeComments on => { s with includeComments := on }
  | .indentSize n => { s with indentSize := n }
  | .indentType type => { s with indentType := type }
  | .timeout ms? => { s with timeout? := ms? }
  | .sampleResponse sample? => { s with sampleResponse? := sample? }
  | .includeTests on => { s with includeTests := on }

def assignAll (s : Settings) (settings : List Setting) : Settings :=
  settings.foldl assign s

end Settings

end RequestScribe
