import RequestScribe.Request.Authorization
import RequestScribe.Request.Body
import RequestScribe.Request.Method
import RequestScribe.Request.Url

/-!
# Requests

A request as a command describes it: everything that a program which sends it
has to know.
-/

namespace RequestScribe

inductive HttpVersion where
  | v1_0
  | v1_1
  | v2
  | v3
  deriving DecidableEq, Repr

def HttpVersion.number : HttpVersion → String
  | .v1_0 => "1.0"
  | .v1_1 => "1.1"
  | .v2 => "2"
  | .v3 => "3"

/-- A challenge scheme that was asked for by name. -/
inductive AuthScheme where
  | digest
  | ntlm
  deriving DecidableEq, Repr

def AuthScheme.word : AuthScheme → String
  | .digest => "digest"
  | .ntlm => "ntlm"

/-- How the connection is to be made. -/
structure Transport where
  followRedirects : Bool := false
  maxRedirects? : Option Nat := none
  /-- Seconds for the whole request. -/
  timeout? : Option Binary64 := none
  connectTimeout? : Option Binary64 := none
  proxy? : Option String := none
  insecure : Bool := false
  compressed : Bool := false
  userAgent? : Option String := none
  cert? : Option String := none
  key? : Option String := none
  cacert? : Option String := none
  httpVersion? : Option HttpVersion := none
  authScheme? : Option AuthScheme := none
  deriving DecidableEq, Repr

/-- Header names and values; names differ by more than case. -/
abbrev Headers := List (String × String)

namespace Headers

def find? (headers : Headers) (name : String) : Option String :=
  Ordered.find? Text.sameIgnoringCase name headers

def set (headers : Headers) (name value : String) : Headers :=
  Ordered.set Text.sameIgnoringCase name value headers

def setDefault (headers : Headers) (name value : String) : Headers :=
  Ordered.setDefault Text.sameIgnoringCase name value headers

def erase (headers : Headers) (name : String) : Headers :=
  Ordered.erase Text.sameIgnoringCase name headers

end Headers

structure Request where
  method : Method
  /-- The address without its query. -/
  url : String
  headers : Headers
  body? : Option Body
  /-- The text of the body exactly as given. -/
  rawBody? : Option String
  authorization? : Option Authorization
  cookies : List (String × String)
  files : List FileUpload
  query : List (String × String)
  transport : Transport
  deriving DecidableEq, Repr

namespace Request

def dataType? (r : Request) : Option DataType :=
  r.body?.map Body.dataType

def isMultipart (r : Request) : Bool :=
  match r.body? with
  | some (.multipart _) => true
  | _ => false

def header? (r : Request) (name : String) : Option String :=
  r.headers.find? name

def hasHeader (r : Request) (name : String) : Bool :=
  (r.header? name).isSome

def fullUrl (r : Request) : String :=
  Url.join r.url r.query

def jsonBody? (r : Request) : Option Json.Value :=
  match r.body? with
  | some (.json value) => some value
  | _ => none

end Request

end RequestScribe
