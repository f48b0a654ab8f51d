/-!
# Warnings about a command

What was noticed while reading a command without making it unreadable.
-/

namespace RequestScribe

namespace Command

inductive Warning where
  | unknownLong (name : String)
  | unknownLetter (letter : Char)
  | unknownMethod (value : String)
  | invalidMaxRedirs (value : String)
  | invalidMaxTime (value : String)
  | invalidConnectTimeout (value : String)
  | extraArgument (word : String)
  | malformedHeader (raw : String)
  /-- A cookie option that names a file. -/
  | cookieJar (raw : String)
  | malformedFormField (raw : String)
  /-- A form field whose value is in a file. -/
  | fieldFromFile (name path : String)
  | dataAndForm
  | bodyFromFile (path : String)
  | invalidJson
  /-- A challenge scheme was asked for by name. -/
  | renderedAsBasic (scheme : String)
  | userAndHeader
  deriving DecidableEq, Repr

def Warning.message : Warning → String
  | .unknownLong name => "Ignored unsupported option --" ++ name
  | .unknownLetter letter => "Ignored unsupported option -" ++ String.singleton letter
  | .unknownMethod value => "Ignored unknown request method '" ++ value ++ "'"
  | .invalidMaxRedirs value => "Ignored invalid --max-redirs value '" ++ value ++ "'"
  | .invalidMaxTime value => "Ignored invalid --max-time value '" ++ value ++ "'"
  | .invalidConnectTimeout value => "Ignored invalid --connect-timeout value '" ++ value ++ "'"
  | .extraArgument word => "Ignored extra argument '" ++ word ++ "'"
  | .malformedHeader raw => "Ignored malformed header '" ++ raw ++ "'"
  | .cookieJar raw => "Ignored cookie jar file '" ++ raw ++ "'"
  | .malformedFormField raw => "Ignored malformed form field '" ++ raw ++ "'"
  | .fieldFromFile name path =>
      "Form field '" ++ name ++ "' reads its value from '" ++ path ++
        "'; the file name is used as the value"
  | .dataAndForm => "Both -d and -F were given; the multipart form is used"
  | .bodyFromFile path =>
      "Body is read from file '" ++ path ++ "'; its contents are not inlined"
  | .invalidJson => "--json payload is not valid JSON; sending it as-is"
  | .renderedAsBasic scheme =>
      scheme ++ " authentication is rendered as basic authentication"
  | .userAndHeader => "Both -u and an Authorization header were given; -u is used"

end Command

end RequestScribe
