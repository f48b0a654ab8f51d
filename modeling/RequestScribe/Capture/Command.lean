import RequestScribe.Capture.Basic
import RequestScribe.Shell.Words

/-!
# Commands for captured requests

A captured request is written as a command of one line.  The command is kept as
a list of words, each with what it stands for and whether it is quoted.
-/

namespace RequestScribe

structure CommandWord where
  value : String
  quoted : Bool
  deriving DecidableEq, Repr

namespace CommandWord

def bare (value : String) : CommandWord :=
  ⟨value, false⟩

def text (w : CommandWord) : String :=
  if w.quoted then Shell.quote w.value else w.value

def option (flag argument : String) : List CommandWord :=
  [bare flag, ⟨argument, true⟩]

end CommandWord

namespace PostedData

/-- Whether the parameters count: the data is multipart, or has no text. -/
def usesParams (d : PostedData) : Bool :=
  Text.startsWith "multipart/" (Text.lower d.mimeType) || (d.text?.getD "").isEmpty

def formParams (d : PostedData) : List PostedParam :=
  if d.usesParams then d.params?.getD [] else []

def bodyText? (d : PostedData) : Option String :=
  match d.text? with
  | some text => if text.isEmpty then none else some text
  | none => none

end PostedData

/-- A parameter as the argument of a form option. -/
def PostedParam.spec (p : PostedParam) : String :=
  let value := match p.fileName? with
    | some file =>
        match p.contentType? with
        | some type => "@" ++ file ++ ";type=" ++ type
        | none => "@" ++ file
    | none => p.value?.getD ""
  p.name ++ "=" ++ value

namespace CapturedRequest

def formParams (r : CapturedRequest) : List PostedParam :=
  (r.posted?.map PostedData.formParams).getD []

def bodyText? (r : CapturedRequest) : Option String :=
  r.posted?.bind PostedData.bodyText?

/-- Whether the method has to be named: GET goes without saying if there is no body. -/
def namesMethod (r : CapturedRequest) : Bool :=
  Text.upper r.method != "GET" || !r.formParams.isEmpty || r.bodyText?.isSome

def methodWords (r : CapturedRequest) : List CommandWord :=
  if r.namesMethod then [.bare "-X", .bare (Text.upper r.method)] else []

/--
Whether a header goes into the command.  Pseudo-headers, the length and the host
do not, nor does the content type of a form, whose boundary belongs to the
recorded body.
-/
def keepsHeader (r : CapturedRequest) (name : String) : Bool :=
  !(Text.startsWith ":" name ||
    Text.sameIgnoringCase name "content-length" || Text.sameIgnoringCase name "host" ||
    (!r.formParams.isEmpty && Text.sameIgnoringCase name "content-type"))

def keptHeaders (r : CapturedRequest) : List (String × String) :=
  r.headers.filter fun header => r.keepsHeader header.1

def headerWords (headers : List (String × String)) : List CommandWord :=
  headers.flatMap fun (name, value) => CommandWord.option "-H" (name ++ ": " ++ value)

/-- The content type of the posted data, where no header gives one. -/
def impliedHeader (r : CapturedRequest) (d : PostedData) : List (String × String) :=
  if (r.header? "content-type").isNone && !d.mimeType.isEmpty then
    [("Content-Type", d.mimeType)]
  else []

def bodyWords (r : CapturedRequest) : List CommandWord :=
  match r.posted? with
  | none => []
  | some d =>
      match d.formParams, d.bodyText? with
      | [], some text =>
          headerWords (r.impliedHeader d) ++ CommandWord.option "--data-raw" text
      | params, _ => params.flatMap fun p => CommandWord.option "-F" p.spec

def words (r : CapturedRequest) : List CommandWord :=
  .bare "curl" :: r.methodWords ++ headerWords r.keptHeaders ++ r.bodyWords ++ [⟨r.url, true⟩]

def command (r : CapturedRequest) : String :=
  " ".intercalate (r.words.map CommandWord.text)

end CapturedRequest

namespace Capture

/-- Whether a text has the marks of a capture. -/
def isSuspected (text : String) : Bool :=
  Text.contains "\"method\"" text && Text.contains "\"url\"" text &&
    (Text.contains "\"log\"" text || Text.contains "\"entries\"" text)

def command? (text : String) : Option String :=
  match (read? (Text.trim text)).map requests with
  | some (first :: _) => some first.command
  | _ => none

/--
The command that a text gives: the text itself if one of its words names the
program, or else the first request of a capture.
-/
def normalize (text : String) : Except Failure String :=
  if (Text.words text).any Shell.isProgramName then .ok text
  else if isSuspected text then
    match command? text with
    | some command => .ok command
    | none => .error .notNormalizable
  else .error .notNormalizable

/-- A text as far as it can be normalized, and unchanged otherwise. -/
def normalizeOrKeep (text : String) : String :=
  match normalize text with
  | .ok command => command
  | .error _ => text

end Capture

end RequestScribe
