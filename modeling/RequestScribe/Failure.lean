/-!
# Failures

Every reason for which reading a command, choosing a target or writing a
program can fail, and the one wording of each.
-/

namespace RequestScribe

/-- The quote character that was left open at the end of a command. -/
inductive OpenQuote where
  | single
  | double
  deriving DecidableEq, Repr

def OpenQuote.word : OpenQuote → String
  | .single => "single"
  | .double => "double"

inductive Failure where
  | emptyCommand
  /-- The first word is not the program's name. -/
  | notCurl
  | unterminatedQuote (quote : OpenQuote)
  | missingUrl
  | unsupportedLanguage (language : String)
  | missingFramework (language : String)
  | unsupportedTarget (language framework : String) (supported : List String)
  /-- A generator refused its settings. -/
  | generation (reason : String)
  /-- A text holds no command and no captured request. -/
  | notNormalizable
  | config (reason : String)
  deriving DecidableEq, Repr

def Failure.message : Failure → String
  | .emptyCommand => "Command is empty"
  | .notCurl => "Not a curl command: expected the command to start with 'curl'"
  | .unterminatedQuote quote => "Unterminated " ++ quote.word ++ " quote in curl command"
  | .missingUrl => "no URL found"
  | .unsupportedLanguage language => "Unsupported language: " ++ language
  | .missingFramework language => "Framework is required for language '" ++ language ++ "'"
  | .unsupportedTarget language framework supported =>
      "Unsupported combination: " ++ language ++ "/" ++ framework ++
        " (supported frameworks for " ++ language ++ ": " ++ ", ".intercalate supported ++ ")"
  | .generation reason => "Code generation failed: " ++ reason
  | .notNormalizable => "no normalized command available"
  | .config reason => "Config error: " ++ reason

end RequestScribe
