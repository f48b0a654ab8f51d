import RequestScribe.Failure
import RequestScribe.Settings.Decode
import RequestScribe.Toml.Document

/-!
# Configuration files

The table `defaults` of a TOML document gives settings.  Their names may also
be written in snake case, but no setting may be given twice.
-/

namespace RequestScribe

namespace Toml

def Value.datum : Value → Datum
  | .text s => .text s
  | .bool b => .flag b
  | .integer n => .whole n
  | .table _ [(word, .table _ [])] => .variant word
  | .table _ [(word, .array [])] => .variant word
  | _ => .other

end Toml

namespace Configuration

/-- The settings that a configuration may give, in the order in which a list gives them. -/
def names : List SettingName :=
  [ .language, .framework, .errorHandling, .awaiting, .extractEnvVars, .includeTypes,
    .includeComments, .retryLogic, .retryAttempts, .indentSize, .indentType, .timeout,
    .includeTests ]

/-- The other spelling of a name. -/
def alias? : SettingName → Option String
  | .errorHandling => some "error_handling"
  | .extractEnvVars => some "extract_env_vars"
  | .includeTypes => some "include_types"
  | .includeComments => some "include_comments"
  | .retryLogic => some "retry_logic"
  | .retryAttempts => some "retry_attempts"
  | .indentSize => some "indent_size"
  | .indentType => some "indent_type"
  | .includeTests => some "include_tests"
  | _ => none

def nameOf? (key : String) : Option SettingName :=
  names.find? fun name => name.word == key || alias? name == some key

def setting? (field : String × Toml.Value) : Option Setting :=
  (nameOf? field.1).bind (Setting.ofDatum? field.2.datum)

/-- Whether no setting is given twice. -/
def isUnambiguous (settings : List Setting) : Bool :=
  decide (settings.map Setting.name).Nodup

/-- The settings that a table gives, or a list that gives all of them in order. -/
def settings? : Toml.Value → Option (List Setting)
  | .table _ entries =>
      (entries.mapM setting?).bind fun settings =>
        if isUnambiguous settings then some settings else none
  | .array items =>
      if names.length ≤ items.length then
        (items.zip names).mapM fun (item, name) => Setting.ofDatum? item.datum name
      else none
  | _ => none

def read? (text : String) : Option (List Setting) :=
  (Toml.read? text).bind fun root =>
    match root.find? "defaults" with
    | some defaults => settings? defaults
    | none => some []

def reason : String := "Invalid config TOML"

/-- The usual settings, overlaid with those of a configuration file. -/
def load (text? : Option String) : Except Failure Settings :=
  match text? with
  | none => .ok {}
  | some text =>
      match read? text with
      | some settings => .ok (Settings.assignAll {} settings)
      | none => .error (.config reason)

end Configuration

end RequestScribe
