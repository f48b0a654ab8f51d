import RequestScribe.Decimal.Shortest
import RequestScribe.Program.Extraction
import RequestScribe.Settings.Basic
import RequestScribe.Shape.Dialect

/-!
# What a generator is told

A brief holds all that a generator may know of a request.  Of the secrets that
are read from environment variables it holds the names only.
-/

namespace RequestScribe

structure Brief where
  settings : Settings
  method : Method
  url : String
  query : List (String × String)
  body? : Option Body
  files : List FileUpload
  transport : Transport
  /-- Whether the request asks for JSON. -/
  acceptsJson : Bool
  headers : List (String × Fragment)
  basicAuth? : Option (Fragment × Fragment)
  /-- The environment variables that the program reads. -/
  envNames : List String
  deriving DecidableEq, Repr

def maxMillis : Nat := Nat.pow 2 64 - 1

/-- Seconds as whole milliseconds, a half going up. -/
def millis (seconds : Binary64) : Nat :=
  match seconds.scaleBy? 1000 with
  | some x => min x.rounded maxMillis
  | none => maxMillis

/-- A number as its shortest digits with a point among them. -/
def pointedText (x : Binary64) : String :=
  if x.isWhole then toString x.truncated ++ ".0"
  else
    let (whole, fraction) := (Decimal.shortest .up x).positional
    String.ofList (whole ++ '.' :: fraction)

/-- Milliseconds as a number of seconds that has a point. -/
def secondsLiteral (ms : Nat) : String :=
  let seconds := (Binary64.ofRatio? false ms 1).bind fun x =>
    Binary64.ofRatio? false x.scaled (1000 * Binary64.one)
  (seconds.map pointedText).getD "0.0"

namespace Brief

/-- The brief for a request whose secrets have been taken out. -/
def ofExtraction (settings : Settings) (r : Request) (e : Extraction) : Brief :=
  { settings
    method := r.method
    url := r.url
    query := r.query
    body? := r.body?
    files := r.files
    transport := r.transport
    acceptsJson := ((r.header? "Accept").map (Text.contains "json")).getD false
    headers := e.headers
    basicAuth? := e.basicAuth?
    envNames := e.envVars.map Prod.fst }

def extraction (settings : Settings) (r : Request) : Extraction :=
  Extraction.ofRequest settings.extractEnvVars r

def ofRequest (settings : Settings) (r : Request) : Brief :=
  ofExtraction settings r (extraction settings r)

variable (b : Brief)

def unit : String := b.settings.indentUnit

def comments : Bool := b.settings.includeComments

def guarded : Bool := b.settings.errorHandling != .off

def checksStatus : Bool := b.settings.errorHandling == .comprehensive

/-- The time limit in milliseconds; the setting takes precedence over the command's option. -/
def timeout? : Option Nat :=
  match b.settings.timeout? with
  | some ms => some ms
  | none => b.transport.timeout?.map millis

def connectTimeout? : Option Nat :=
  b.transport.connectTimeout?.map millis

def hasQuery : Bool := !b.query.isEmpty

def fullUrl : String := Url.join b.url b.query

def summary : String := b.method.verb ++ " " ++ b.fullUrl

def jsonBody? : Option Json.Value :=
  match b.body? with
  | some (.json value) => some value
  | _ => none

def isMultipart : Bool :=
  match b.body? with
  | some (.multipart _) => true
  | _ => false

def bodyFile? : Option String := b.body?.bind Body.filePath?

/-- Whether the response is to be decoded as JSON. -/
def expectsJson : Bool :=
  b.settings.sampleResponse?.isSome || b.acceptsJson || b.jsonBody?.isSome

/-- How to retry, said in comments. -/
def retryLines : List String :=
  if b.settings.retryLogic then
    [ "Retry policy: up to " ++ toString (max b.settings.retryAttempts 1) ++
        " attempts with exponential backoff.",
      "Wrap the request below in a loop and wait 2^attempt * 100 ms between failed attempts." ]
  else []

def typedBody : Bool := b.settings.includeTypes && b.jsonBody?.isSome

def typedResponse : Bool := b.settings.includeTypes && b.settings.sampleResponse?.isSome

def typeSets : List TypeSet :=
  if b.settings.includeTypes then
    (b.jsonBody?.map (TypeSet.ofSample "RequestBody")).toList ++
      (b.settings.sampleResponse?.map (TypeSet.ofSample "ResponseData")).toList
  else []

def typeBlocks : List TypeBlock := b.typeSets.flatMap TypeSet.blocks

def types? (dialect : Dialect) : Option Code :=
  if b.typeSets.isEmpty then none
  else some (TypeSet.writeBlocks dialect b.unit b.typeBlocks)

end Brief

end RequestScribe
