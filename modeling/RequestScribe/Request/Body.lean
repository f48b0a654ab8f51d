import RequestScribe.Encoding.Form
import RequestScribe.Json.Reader
import RequestScribe.Text.Basic

/-!
# Request bodies

A body is classified by its text: JSON if it reads as an object or an array,
else form pairs if every segment has a plain key, else bytes or plain text.
-/

namespace RequestScribe

inductive DataType where
  | json
  | form
  | multipart
  | raw
  | binary
  deriving DecidableEq, Repr

namespace DataType

def word : DataType → String
  | .json => "json"
  | .form => "form"
  | .multipart => "multipart"
  | .raw => "raw"
  | .binary => "binary"

/--
The content type that goes without saying.  A multipart body has none, because
whoever sends it chooses the boundary.
-/
def impliedContentType? : DataType → Option String
  | .json => some "application/json"
  | .form => some "application/x-www-form-urlencoded"
  | .multipart => none
  | .raw => some "text/plain"
  | .binary => some "application/octet-stream"

end DataType

/-- One field of a multipart body. -/
inductive MultipartField where
  | text (name value : String)
  /-- A file, by its place in the request's list of uploads. -/
  | file (index : Nat)
  deriving DecidableEq, Repr

structure FileUpload where
  fieldName : String
  fileName : String
  contentType? : Option String
  deriving DecidableEq, Repr

inductive Body where
  | json (value : Json.Value)
  /-- Ordered pairs; a key may occur more than once. -/
  | form (pairs : List (String × String))
  | multipart (fields : List MultipartField)
  | raw (text : String)
  | binary (text : String)
  /-- The contents of a file, by its path. -/
  | file (path : String)
  deriving DecidableEq, Repr

namespace Body

def dataType : Body → DataType
  | .json _ => .json
  | .form _ => .form
  | .multipart _ => .multipart
  | .raw _ => .raw
  | .binary _ => .binary
  | .file _ => .binary

def filePath? : Body → Option String
  | .file path => some path
  | _ => none

/-- The JSON object or array that a text writes. -/
def sniffJson? (text : String) : Option Json.Value :=
  match Chars.trimStart text.toList with
  | '\x7b' :: _ => Json.Value.read? text
  | '[' :: _ => Json.Value.read? text
  | _ => none

/-- A character that a plain form key may contain. -/
def isPlainKeyCharacter (c : Char) : Bool :=
  !Chars.isBlank c && !("\x7b\x7d\"<>[]".toList.contains c)

/-- A key that is not empty and consists of plain characters, and an equals sign after it. -/
def isFormSegment (segment : List Char) : Bool :=
  match Chars.cut? '=' segment with
  | some (key, _) => !key.isEmpty && key.all isPlainKeyCharacter
  | none => false

/-- The form pairs that a text writes. -/
def sniffForm? (text : String) : Option (List (String × String)) :=
  if (text.toList.splitOn '&').all isFormSegment then some (Form.decode text) else none

/-- The body with a given text; `binary` if the text was given as bytes. -/
def classify (text : String) (binary : Bool) : Body :=
  match sniffJson? text with
  | some value => .json value
  | none =>
      match sniffForm? text with
      | some pairs => .form pairs
      | none => if binary then .binary text else .raw text

end Body

end RequestScribe
