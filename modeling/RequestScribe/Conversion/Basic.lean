import RequestScribe.Command.Parse
import RequestScribe.Program.Generated

/-!
# Conversions

From a command to a program.  A conversion never fails outright: what went
wrong is part of its result.
-/

namespace RequestScribe

inductive Notice where
  /-- About the command. -/
  | command (warning : Command.Warning)
  /-- About what the program leaves out. -/
  | omission (note : String)
  | largeBody (bytes : Nat)
  | mismatchedBody (contentType : String) (actual : DataType)
  deriving DecidableEq, Repr

def Notice.message : Notice → String
  | .command warning => warning.message
  | .omission note => note
  | .largeBody bytes =>
      "request body is " ++ toString bytes ++ " bytes; consider streaming it from a file"
  | .mismatchedBody contentType actual =>
      "Content-Type '" ++ contentType ++ "' does not match the " ++ actual.word ++
        " body that was supplied"

inductive Outcome where
  | success (request : Request) (code : Generated)
  /-- The request was read, but no program could be written. -/
  | notGenerated (request : Request) (failure : Failure)
  | notRead (failure : Failure)
  deriving DecidableEq, Repr

structure Conversion where
  outcome : Outcome
  notices : List Notice
  deriving DecidableEq, Repr

namespace Conversion

def succeeded (c : Conversion) : Bool :=
  match c.outcome with
  | .success .. => true
  | _ => false

def request? (c : Conversion) : Option Request :=
  match c.outcome with
  | .success request _ => some request
  | .notGenerated request _ => some request
  | .notRead _ => none

def code? (c : Conversion) : Option Generated :=
  match c.outcome with
  | .success _ code => some code
  | _ => none

def failure? (c : Conversion) : Option Failure :=
  match c.outcome with
  | .success .. => none
  | .notGenerated _ failure => some failure
  | .notRead failure => some failure

def warnings (c : Conversion) : List String :=
  c.notices.map Notice.message

/-- Bodies of more bytes than this are remarked on. -/
def largeBody : Nat := 1024 * 1024

/-- The kind of body that a content type announces. -/
def announced? (contentType : String) : Option DataType :=
  let type := Text.lower contentType
  if Text.contains "json" type then some .json
  else if Text.contains "x-www-form-urlencoded" type then some .form
  else if Text.startsWith "multipart/" type then some .multipart
  else none

def sizeNotices (r : Request) : List Notice :=
  match r.rawBody? with
  | some raw => if largeBody < raw.utf8ByteSize then [.largeBody raw.utf8ByteSize] else []
  | none => []

def typeNotices (r : Request) : List Notice :=
  match r.header? "Content-Type", r.dataType? with
  | some contentType, some actual =>
      match announced? contentType with
      | some expected => if expected = actual then [] else [.mismatchedBody contentType actual]
      | none => []
  | _, _ => []

/-- Whether command and settings can be worked on at all. -/
def validate (command : String) (settings : Settings) : Except Failure Unit :=
  if Text.isBlank command then .error .emptyCommand
  else if !Text.contains "curl" (Text.lower command) then .error .notCurl
  else if (Language.ofId? settings.language).isNone then
    .error (.unsupportedLanguage settings.language)
  else if Text.isBlank settings.framework then .error (.missingFramework settings.language)
  else .ok ()

def target (settings : Settings) : Except Failure Target :=
  match Target.find? settings.language settings.framework with
  | some t => .ok t
  | none =>
      .error
        (.unsupportedTarget settings.language settings.framework
          (((Language.ofId? settings.language).map Language.frameworks).getD []))

/-- Read the command once it and the settings have been checked. -/
def read (command : String) (settings : Settings) : Except Failure Command.Outcome :=
  match validate command settings with
  | .ok () => Command.parse command
  | .error failure => .error failure

def generate (settings : Settings) (o : Command.Outcome) : Conversion :=
  let r := o.request
  let noticed := o.warnings.map Notice.command
  match target settings with
  | .error failure => ⟨.notGenerated r failure, noticed⟩
  | .ok t =>
      let notes := (t.notes (Brief.ofRequest settings r)).map Notice.omission
      let notices := noticed ++ notes ++ sizeNotices r ++ typeNotices r
      match Generated.ofRequest t settings r with
      | .ok code => ⟨.success r code, notices⟩
      | .error failure => ⟨.notGenerated r failure, notices⟩

end Conversion

def convert (command : String) (settings : Settings) : Conversion :=
  match Conversion.read command settings with
  | .ok o => Conversion.generate settings o
  | .error failure => ⟨.notRead failure, []⟩

def convertAll (commands : List String) (settings : Settings) : List Conversion :=
  commands.map fun command => convert command settings

end RequestScribe
