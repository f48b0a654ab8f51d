import RequestScribe.Settings.Assignment

/-!
# Settings from documents

A setting is read from a datum, which is what the formats of documents have in
common as far as settings are concerned.  Settings in JSON are an object of any
of them, or a list of the first few.
-/

namespace RequestScribe

/-- A value in a document. -/
inductive Datum where
  | nothing
  | text (s : String)
  | flag (b : Bool)
  | whole (n : Int)
  /-- A word that stands as the only key of an otherwise empty map. -/
  | variant (word : String)
  | other
  deriving DecidableEq, Repr

namespace Datum

/-- The word of an enumerated value. -/
def word? : Datum → Option String
  | .text s => some s
  | .variant word => some word
  | _ => none

def text? : Datum → Option String
  | .text s => some s
  | _ => none

def flag? : Datum → Option Bool
  | .flag b => some b
  | _ => none

/-- A natural number up to a bound. -/
def natural? (most : Nat) : Datum → Option Nat
  | .whole n => if 0 ≤ n ∧ n ≤ most then some n.toNat else none
  | _ => none

end Datum

namespace Setting

def maxAttempts : Nat := Nat.pow 2 32 - 1

/-- The greatest indent, and the greatest time limit. -/
def maxSize : Nat := Nat.pow 2 64 - 1

/-- Read the value of a setting; a sample is not read from a datum. -/
def ofDatum? (d : Datum) : SettingName → Option Setting
  | .language => d.text?.map .language
  | .framework => d.text?.map .framework
  | .errorHandling => (d.word?.bind ErrorHandling.ofWord?).map .errorHandling
  | .awaiting => d.flag?.map .awaiting
  | .extractEnvVars => d.flag?.map .extractEnvVars
  | .includeTypes => d.flag?.map .includeTypes
  | .retryLogic => d.flag?.map .retryLogic
  | .retryAttempts => (d.natural? maxAttempts).map .retryAttempts
  | .includeComments => d.flag?.map .includeComments
  | .indentSize => (d.natural? maxSize).map .indentSize
  | .indentType => (d.word?.bind IndentType.ofWord?).map .indentType
  | .timeout => if d = .nothing then some (.timeout none)
      else (d.natural? maxSize).map fun ms => .timeout (some ms)
  | .sampleResponse => none
  | .includeTests => d.flag?.map .includeTests

end Setting

namespace Json.Value

def datum : Json.Value → Datum
  | .null => .nothing
  | .bool b => .flag b
  | .number (.integer n) => .whole n
  | .string s => .text s
  | .object [(word, .null)] => .variant word
  | _ => .other

end Json.Value

namespace Setting

/-- Read the value of a setting from JSON; a sample may be any value. -/
def ofJson? (v : Json.Value) : SettingName → Option Setting
  | .sampleResponse => some (.sampleResponse (if v = .null then none else some v))
  | name => ofDatum? v.datum name

end Setting

namespace Settings

/-- The assignment that a field makes: none where its key is no setting's. -/
def assignment? (field : String × Json.Value) : Option (Option Setting) :=
  match SettingName.ofWord? field.1 with
  | some name => (Setting.ofJson? field.2 name).map some
  | none => some none

/-- Settings from JSON; what is not given keeps its usual value. -/
def ofJson? (v : Json.Value) : Option Settings :=
  match v with
  | .object fields =>
      (fields.mapM assignment?).map fun settings => assignAll {} (settings.filterMap id)
  | .array items =>
      if items.length ≤ SettingName.all.length then
        ((items.zip SettingName.all).mapM fun (item, name) => Setting.ofJson? item name).map
          (assignAll {})
      else none
  | _ => none

end Settings

end RequestScribe
