import RequestScribe.CommandLine.Parameter
import RequestScribe.Decimal.Numeral
import RequestScribe.Program.Target
import RequestScribe.Settings.Decode

/-!
# Arguments

What the words of a command line say.  The one positional argument is a command
to convert, and commands hold hyphens: while it has not been given, a word that
looks like an unknown option is taken for it, or for the value of an option that
waits for one.
-/

namespace RequestScribe

namespace CommandLine

structure Arguments where
  /-- The command to convert; a hyphen stands for the standard input. -/
  command? : Option String := none
  /-- The file of a batch. -/
  batch? : Option String := none
  language? : Option String := none
  framework? : Option String := none
  errorHandling? : Option ErrorHandling := none
  retry? : Option Nat := none
  indent? : Option Nat := none
  /-- Milliseconds. -/
  timeout? : Option Nat := none
  /-- The file of a sample response. -/
  sampleResponse? : Option String := none
  switches : List Switch := []
  verbosity : Nat := 0
  deriving DecidableEq, Repr

inductive Refusal where
  /-- There is no such option, or one positional argument too many. -/
  | unknownArgument
  | missingValue
  | unreadableValue
  /-- An option is repeated, or excludes another argument. -/
  | conflict
  /-- An option that takes no value has one. -/
  | surplusValue
  | helpAsked
  | versionAsked
  deriving DecidableEq, Repr

namespace Arguments

def has (a : Arguments) (s : Switch) : Bool :=
  a.switches.contains s

def isGiven (a : Arguments) : Valued → Bool
  | .batch => a.batch?.isSome
  | .language => a.language?.isSome
  | .framework => a.framework?.isSome
  | .errorHandling => a.errorHandling?.isSome
  | .retry => a.retry?.isSome
  | .indent => a.indent?.isSome
  | .timeout => a.timeout?.isSome
  | .sampleResponse => a.sampleResponse?.isSome

/-- A natural number up to a bound; a minus sign is allowed in front of zero if `signed`. -/
def natural? (signed : Bool) (most : Nat) (s : String) : Option Nat :=
  let n? := if signed then Chars.readInt? s.toList
    else (Chars.readNat? s.toList).map Int.ofNat
  n?.bind fun n => if 0 ≤ n ∧ n ≤ most then some n.toNat else none

def orUnreadable {α : Type} : Option α → Except Refusal α
  | some x => .ok x
  | none => .error .unreadableValue

def assign (a : Arguments) (p : Valued) (s : String) : Except Refusal Arguments :=
  if a.isGiven p then .error .conflict
  else
    match p with
    | .batch => if s.isEmpty then .error .missingValue else .ok { a with batch? := some s }
    | .language => .ok { a with language? := some s }
    | .framework => .ok { a with framework? := some s }
    | .errorHandling =>
        (orUnreadable (ErrorHandling.read s).toOption).map fun level =>
          { a with errorHandling? := some level }
    | .retry =>
        (orUnreadable (natural? true Setting.maxAttempts s)).map fun n =>
          { a with retry? := some n }
    | .indent =>
        (orUnreadable (natural? false Setting.maxSize s)).map fun n =>
          { a with indent? := some n }
    | .timeout =>
        (orUnreadable (natural? false Setting.maxSize s)).map fun n =>
          { a with timeout? := some n }
    | .sampleResponse =>
        if s.isEmpty then .error .missingValue else .ok { a with sampleResponse? := some s }

/-- Being more verbose than this makes no difference. -/
def maxVerbosity : Nat := 255

def act (a : Arguments) : Parameter → Except Refusal Arguments
  | .valued _ => .ok a
  | .switch s =>
      if a.has s then .error .conflict else .ok { a with switches := a.switches ++ [s] }
  | .verbose => .ok { a with verbosity := min (a.verbosity + 1) maxVerbosity }
  | .help => .error .helpAsked
  | .version => .error .versionAsked

end Arguments

/-- Words under way; the option that came last gets its value with the next word that settles it. -/
structure Scan where
  arguments : Arguments := {}
  pending? : Option (Valued × Option String) := none
  /-- Whether a double hyphen has ended the options. -/
  ended : Bool := false
  deriving DecidableEq, Repr

namespace Scan

def settle (s : Scan) : Except Refusal Scan :=
  match s.pending? with
  | none => .ok s
  | some (_, none) => .error .missingValue
  | some (p, some v) =>
      (s.arguments.assign p v).map fun arguments => { s with arguments, pending? := none }

def attach (s : Scan) (p : Valued) (v : String) : Except Refusal Scan :=
  match s.settle with
  | .ok s => (s.arguments.assign p v).map fun arguments => { s with arguments }
  | .error refusal => .error refusal

def await (s : Scan) (p : Valued) : Except Refusal Scan :=
  s.settle.map fun s => { s with pending? := some (p, none) }

def act (s : Scan) (p : Parameter) : Except Refusal Scan :=
  match s.settle with
  | .ok s => (s.arguments.act p).map fun arguments => { s with arguments }
  | .error refusal => .error refusal

def isOpen (s : Scan) : Bool :=
  s.arguments.command?.isNone

def positional (s : Scan) (word : String) : Except Refusal Scan :=
  if s.isOpen then
    s.settle.map fun s => { s with arguments := { s.arguments with command? := some word } }
  else .error .unknownArgument

/-- A word that is no option: the value that is waited for, or else the positional argument. -/
def value (s : Scan) (word : String) : Except Refusal Scan :=
  match s.pending? with
  | some (p, none) => .ok { s with pending? := some (p, some word) }
  | _ => s.positional word

/-- A word after two hyphens, `name` or `name=value`. -/
def long (s : Scan) (word : String) (body : List Char) : Except Refusal Scan :=
  let (name, attached?) := match Chars.cut? '=' body with
    | some (name, v) => (name, some (String.ofList v))
    | none => (body, none)
  match Parameter.ofName? (String.ofList name), attached? with
  | some (.valued p), some v => s.attach p v
  | some (.valued p), none => s.await p
  | some _, some _ => .error .surplusValue
  | some p, none => s.act p
  | none, _ => if s.isOpen then s.value word else .error .unknownArgument

/-- The value that follows a letter in the same word, perhaps after an equals sign. -/
def afterEquals : List Char → List Char
  | '=' :: rest => rest
  | cs => cs

/-- The letters after one hyphen. -/
def cluster (s : Scan) : List Char → Except Refusal Scan
  | [] => .ok s
  | c :: rest =>
      match Parameter.ofLetter? c with
      | none => .error .unknownArgument
      | some (.valued p) =>
          if rest.isEmpty then s.await p else s.attach p (String.ofList (afterEquals rest))
      | some p =>
          match s.act p with
          | .ok s => s.cluster rest
          | .error refusal => .error refusal

def feed (s : Scan) (word : String) : Except Refusal Scan :=
  if s.ended then s.positional word
  else
    match word.toList with
    | ['-', '-'] => .ok { s with ended := true }
    | '-' :: '-' :: body => s.long word body
    | ['-'] => s.value word
    | '-' :: letters =>
        if s.isOpen && letters.any fun c => (Parameter.ofLetter? c).isNone then s.value word
        else s.cluster letters
    | _ => s.value word

def finish (s : Scan) : Except Refusal Arguments :=
  match s.settle with
  | .error refusal => .error refusal
  | .ok s =>
      if s.arguments.batch?.isSome && s.arguments.command?.isSome then .error .conflict
      else .ok s.arguments

def run (s : Scan) : List String → Except Refusal Arguments
  | [] => s.finish
  | word :: rest =>
      match s.feed word with
      | .ok s => s.run rest
      | .error refusal => .error refusal

end Scan

namespace Arguments

def read (words : List String) : Except Refusal Arguments :=
  Scan.run {} words

/-- The framework that goes with a language by itself. -/
def usualFramework (language : String) : String :=
  ((Language.ofId? language).bind fun l => l.frameworks.head?).getD ""

/--
The target that is chosen.  A framework chosen elsewhere belongs to another
language, so a change of language alone brings the usual framework along.
-/
def targetSettings (a : Arguments) (base : Settings) : List Setting :=
  let framework? := match a.framework?, a.language? with
    | some name, _ => some name
    | none, some id => if id = base.language then none else some (usualFramework id)
    | none, none => none
  (a.language?.map Setting.language).toList ++ (framework?.map Setting.framework).toList

def switchSetting (a : Arguments) (s : Switch) (setting : Setting) : List Setting :=
  if a.has s then [setting] else []

def otherSettings (a : Arguments) : List Setting :=
  (a.errorHandling?.map Setting.errorHandling).toList ++
    a.switchSetting .blocking (.awaiting false) ++
    a.switchSetting .noEnv (.extractEnvVars false) ++
    a.switchSetting .noTypes (.includeTypes false) ++
    a.switchSetting .noComments (.includeComments false) ++
    (a.retry?.map fun n => [Setting.retryLogic true, .retryAttempts n]).getD [] ++
    (a.indent?.map fun n => [Setting.indentSize n, .indentType .spaces]).getD [] ++
    a.switchSetting .tabs (.indentType .tabs) ++
    (a.timeout?.map fun ms => Setting.timeout (some ms)).toList ++
    a.switchSetting .tests (.includeTests true)

def settings (a : Arguments) (base : Settings) : Settings :=
  base.assignAll (a.targetSettings base ++ a.otherSettings)

end Arguments

end CommandLine

end RequestScribe
