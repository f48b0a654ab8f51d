import RequestScribe.Json.Value
import RequestScribe.Text.Basic

/-!
# Settings of a conversion
-/

namespace RequestScribe

inductive ErrorHandling where
  /-- A direct call. -/
  | off
  /-- Failures are reported. -/
  | basic
  /-- In addition the status of the response is checked. -/
  | comprehensive
  deriving DecidableEq, Repr

namespace ErrorHandling

def all : List ErrorHandling :=
  [.off, .basic, .comprehensive]

def word : ErrorHandling → String
  | .off => "none"
  | .basic => "basic"
  | .comprehensive => "comprehensive"

def ofWord? (s : String) : Option ErrorHandling :=
  all.find? fun level => level.word == s

/-- Read a level in any case, or say why it is none. -/
def read (s : String) : Except String ErrorHandling :=
  let s := Text.lower s
  match ofWord? s with
  | some level => .ok level
  | none =>
      .error ("invalid error handling '" ++ s ++ "', expected none, basic or comprehensive")

end ErrorHandling

inductive IndentType where
  | spaces
  | tabs
  deriving DecidableEq, Repr

namespace IndentType

def all : List IndentType :=
  [.spaces, .tabs]

def word : IndentType → String
  | .spaces => "spaces"
  | .tabs => "tabs"

def ofWord? (s : String) : Option IndentType :=
  all.find? fun type => type.word == s

end IndentType

structure Settings where
  language : String := "javascript"
  framework : String := "fetch"
  errorHandling : ErrorHandling := .basic
  /-- Whether calls are awaited rather than chained or blocking. -/
  awaiting : Bool := true
  /-- Whether secrets are read from environment variables. -/
  extractEnvVars : Bool := true
  includeTypes : Bool := true
  retryLogic : Bool := false
  retryAttempts : Nat := 3
  includeComments : Bool := true
  indentSize : Nat := 2
  indentType : IndentType := .spaces
  /-- Milliseconds for the whole request. -/
  timeout? : Option Nat := none
  /-- A response body from which its type is inferred. -/
  sampleResponse? : Option Json.Value := none
  includeTests : Bool := false
  deriving DecidableEq, Repr

def Settings.indentUnit (s : Settings) : String :=
  match s.indentType with
  | .tabs => "\t"
  | .spaces => Text.times s.indentSize " "

end RequestScribe
