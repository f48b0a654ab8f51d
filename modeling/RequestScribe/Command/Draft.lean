import RequestScribe.Command.Item
import RequestScribe.Command.Warning
import RequestScribe.Decimal.Numeral
import RequestScribe.Encoding.Percent
import RequestScribe.Failure
import RequestScribe.Request.Basic

/-!
# From items to a request

A draft collects what the items of a command say, one after the other.  When
all are in, the draft is completed: the query leaves the address, the body is
classified, and method, headers and authorization are settled.
-/

namespace RequestScribe

namespace Command

/-- How the text of a data option becomes part of the body. -/
inductive DataKind where
  | plain
  | raw
  | binary
  | urlEncode
  deriving DecidableEq, Repr

structure DataPart where
  kind : DataKind
  value : String
  deriving DecidableEq, Repr

namespace DataPart

/-- The path, if the part is read from a file: `@` and something after it. -/
def filePath? (part : DataPart) : Option String :=
  match part.kind, part.value.toList with
  | .plain, '@' :: c :: path => some (String.ofList (c :: path))
  | .binary, '@' :: c :: path => some (String.ofList (c :: path))
  | _, _ => none

def percentEncoded (s : String) : String :=
  String.ofList (Percent.encode s.toList)

/--
The text that is sent.  Of `name=content` only the content is encoded; without
a name the equals sign is dropped as well.
-/
def encoded (part : DataPart) : String :=
  match part.kind with
  | .urlEncode =>
      match Text.cut? '=' part.value with
      | some (name, content) =>
          if name.isEmpty then percentEncoded content
          else name ++ "=" ++ percentEncoded content
      | none => percentEncoded part.value
  | _ => part.value

end DataPart

/-- One form option. -/
inductive FormPart where
  | text (name value : String)
  | file (upload : FileUpload)
  deriving DecidableEq, Repr

/-- The form so far: its fields, and the files that they refer to by place. -/
structure Multipart where
  fields : List MultipartField := []
  files : List FileUpload := []
  deriving DecidableEq, Repr

/-- Take one form option.  The field of a file refers to the place that the file is given. -/
def Multipart.add (m : Multipart) : FormPart → Multipart
  | .text name value => { m with fields := .text name value :: m.fields }
  | .file upload =>
      { fields := .file m.files.length :: m.fields, files := upload :: m.files }

/-- What the items so far say; whatever may occur repeatedly is kept latest first. -/
structure Draft where
  method? : Option Method := none
  url? : Option String := none
  headers : Headers := []
  data : List DataPart := []
  /-- Whether a JSON option was given. -/
  json : Bool := false
  form : Multipart := {}
  user? : Option String := none
  bearer? : Option String := none
  /-- What the Authorization header said when it was last set, unless it was removed since. -/
  headerAuthorization? : Option Authorization := none
  cookies : List (String × String) := []
  transport : Transport := {}
  /-- Whether the data go into the query. -/
  get : Bool := false
  head : Bool := false
  warnings : List Warning := []
  deriving DecidableEq, Repr

structure Outcome where
  request : Request
  warnings : List Warning
  deriving DecidableEq, Repr

namespace Draft

def warn (d : Draft) (w : Warning) : Draft :=
  { d with warnings := w :: d.warnings }

/-- The first address counts; blanks around it do not. -/
def setUrl (d : Draft) (value : String) : Draft :=
  let value := Text.trim value
  if d.url?.isSome || value.isEmpty then d else { d with url? := some (Url.withScheme value) }

/-- The cookies of one `name=value` list, entered one after the other. -/
def cookiePairs (raw : String) : List (String × String) :=
  (Text.splitOn ';' raw).filterMap fun pair =>
    match Text.cut? '=' (Text.trim pair) with
    | some (name, value) => if name.isEmpty then none else some (Text.trim name, Text.trim value)
    | none => none

def addCookies (d : Draft) (raw : String) : Draft :=
  if Text.hasChar '=' raw then
    { d with cookies := Ordered.enter (· == ·) d.cookies (cookiePairs raw) }
  else d.warn (.cookieJar raw)

/-- An Authorization header is read when it is set, and so is a Cookie header. -/
def setHeader (d : Draft) (name value : String) : Draft :=
  let d :=
    if Text.sameIgnoringCase name "Authorization" then
      { d with headerAuthorization? := Authorization.ofHeader? value }
    else if Text.sameIgnoringCase name "Cookie" then d.addCookies value
    else d
  { d with headers := d.headers.set name value }

/-- With an Authorization header goes what was read in it. -/
def removeHeader (d : Draft) (name : String) : Draft :=
  let d :=
    if Text.sameIgnoringCase name "Authorization" then { d with headerAuthorization? := none }
    else d
  { d with headers := d.headers.erase name }

/--
`Name: value` sets a header, `Name:` removes it, and `Name;` sets it to the
empty value.
-/
def addHeader (d : Draft) (raw : String) : Draft :=
  match Text.cut? ':' raw with
  | some (name, value) =>
      let name := Text.trim name
      let value := Text.trim value
      if name.isEmpty then d.warn (.malformedHeader raw)
      else if value.isEmpty then d.removeHeader name
      else d.setHeader name value
  | none =>
      match Text.before? ";" raw with
      | some name => d.setHeader (Text.trim name) ""
      | none => d.warn (.malformedHeader raw)

def addData (d : Draft) (kind : DataKind) (value : String) : Draft :=
  { d with data := ⟨kind, value⟩ :: d.data }

/-- A file and its content type: `path;type=mime`. -/
def uploadOf (name spec : String) : FileUpload :=
  let pieces := Text.splitOn ';' spec
  let types := pieces.tail.filterMap fun piece => Text.after? "type=" (Text.trim piece)
  ⟨name, pieces.headD "", types.getLast?⟩

def addPart (d : Draft) (part : FormPart) : Draft :=
  { d with form := d.form.add part }

/-- A form field; where files are allowed, `@` in front of the value names one. -/
def addField (d : Draft) (raw : String) (allowFiles : Bool) : Draft :=
  match Text.cut? '=' raw with
  | none => d.warn (.malformedFormField raw)
  | some (name, value) =>
      match allowFiles, value.toList with
      | true, '@' :: spec => d.addPart (.file (uploadOf name (String.ofList spec)))
      | true, '<' :: path =>
          (d.warn (.fieldFromFile name (String.ofList path))).addPart (.text name value)
      | _, _ => d.addPart (.text name value)

/-- Finite seconds that are not below zero. -/
def seconds? (value : String) : Option Binary64 :=
  match Numeral.read? value.toList with
  | some (.finite x) => if x.negative && x.mantissa != 0 then none else some x
  | _ => none

/-- Whether a text is an integer of 64 bits, and its value. -/
def int64? (value : String) : Option Int :=
  (Chars.readInt? value.toList).filter fun n => -(Nat.pow 2 63 : Int) ≤ n ∧ n < (Nat.pow 2 63 : Int)

/-- A limit on redirects: negative ones and those beyond 32 bits mean no limit. -/
def redirectLimit (n : Int) : Option Nat :=
  if 0 ≤ n ∧ n < (Nat.pow 2 32 : Int) then some n.toNat else none

def mapTransport (d : Draft) (f : Transport → Transport) : Draft :=
  { d with transport := f d.transport }

def applyOption (d : Draft) (flag : Flag) (value : String) : Draft :=
  match flag with
  | .url => d.setUrl value
  | .method =>
      match Method.ofVerb? value with
      | some method => { d with method? := some method }
      | none => d.warn (.unknownMethod value)
  | .header => d.addHeader value
  | .data => d.addData .plain value
  | .dataRaw => d.addData .raw value
  | .dataBinary => d.addData .binary value
  | .dataUrlencode => d.addData .urlEncode value
  | .json => { d with json := true }.addData .plain value
  | .form => d.addField value true
  | .formString => d.addField value false
  | .user => { d with user? := some value }
  | .bearer => { d with bearer? := some value }
  | .basic => d
  | .digest => d.mapTransport fun t => { t with authScheme? := some .digest }
  | .ntlm => d.mapTransport fun t => { t with authScheme? := some .ntlm }
  | .cookie => d.addCookies value
  | .userAgent => d.setHeader "User-Agent" value
  | .referer => d.setHeader "Referer" value
  | .get => { d with get := true }
  | .head => { d with head := true }
  | .location | .locationTrusted => d.mapTransport fun t => { t with followRedirects := true }
  | .maxRedirs =>
      match int64? value with
      | some n => d.mapTransport fun t => { t with maxRedirects? := redirectLimit n }
      | none => d.warn (.invalidMaxRedirs value)
  | .maxTime =>
      match seconds? value with
      | some x => d.mapTransport fun t => { t with timeout? := some x }
      | none => d.warn (.invalidMaxTime value)
  | .connectTimeout =>
      match seconds? value with
      | some x => d.mapTransport fun t => { t with connectTimeout? := some x }
      | none => d.warn (.invalidConnectTimeout value)
  | .insecure => d.mapTransport fun t => { t with insecure := true }
  | .compressed => d.mapTransport fun t => { t with compressed := true }
  | .proxy => d.mapTransport fun t => { t with proxy? := some value }
  | .cert => d.mapTransport fun t => { t with cert? := some value }
  | .key => d.mapTransport fun t => { t with key? := some value }
  | .cacert => d.mapTransport fun t => { t with cacert? := some value }
  | .http10 => d.mapTransport fun t => { t with httpVersion? := some .v1_0 }
  | .http11 => d.mapTransport fun t => { t with httpVersion? := some .v1_1 }
  | .http2 => d.mapTransport fun t => { t with httpVersion? := some .v2 }
  | .http3 => d.mapTransport fun t => { t with httpVersion? := some .v3 }
  | .ignored | .ignoredWithArgument => d

def apply (d : Draft) : Item → Draft
  | .option flag value => d.applyOption flag value
  | .unknownLong name => d.warn (.unknownLong name)
  | .unknownLetter letter => d.warn (.unknownLetter letter)
  | .operand word =>
      if d.url?.isNone && Url.isRecognized word then d.setUrl word
      else d.warn (.extraArgument word)

def ofItems (items : List Item) : Draft :=
  items.foldl apply {}

/-- What is sent with the request, and what was noticed about it. -/
structure Payload where
  body? : Option Body := none
  rawBody? : Option String := none
  /-- Pairs that the data add to the query. -/
  queryPairs : List (String × String) := []
  warnings : List Warning := []
  deriving DecidableEq, Repr

def joinedData (d : Draft) : String :=
  "&".intercalate (d.data.reverse.map DataPart.encoded)

def dataFile? (d : Draft) : Option String :=
  match d.data with
  | [part] => part.filePath?
  | _ => none

def isJson : Body → Bool
  | .json _ => true
  | _ => false

/-- The body that the form and data options make; a form takes precedence. -/
def payload (d : Draft) : Payload :=
  if !d.form.fields.isEmpty then
    { body? := some (.multipart d.form.fields.reverse)
      warnings := if d.data.isEmpty then [] else [.dataAndForm] }
  else if d.data.isEmpty then {}
  else if d.get then { queryPairs := Form.decode d.joinedData }
  else
    match d.dataFile? with
    | some path =>
        { body? := some (.file path)
          rawBody? := some d.joinedData
          warnings := [.bodyFromFile path] }
    | none =>
        let body := Body.classify d.joinedData (d.data.any fun part => part.kind == .binary)
        { body? := some body
          rawBody? := some d.joinedData
          warnings := if d.json && !isJson body then [.invalidJson] else [] }

/-- The method asked for, else HEAD if that was, else POST with a body and GET without. -/
def method (d : Draft) (body? : Option Body) : Method :=
  match d.method? with
  | some method => method
  | none => if d.head then .head else if body?.isSome then .post else .get

/-- The headers with the defaults that JSON and the body ask for. -/
def finalHeaders (d : Draft) (body? : Option Body) : Headers :=
  let headers := if d.json then d.headers.setDefault "Accept" "application/json" else d.headers
  match body?.bind (fun body => body.dataType.impliedContentType?) with
  | some contentType => headers.setDefault "Content-Type" contentType
  | none => headers

/-- A user takes precedence over a bearer token, and that over the header. -/
def authorization? (d : Draft) : Option Authorization :=
  match d.user?, d.bearer? with
  | some user, _ => some (Authorization.ofUser user)
  | none, some token => some (.bearer token)
  | none, none => d.headerAuthorization?

def authorizationWarnings (d : Draft) : List Warning :=
  if d.user?.isSome then
    (d.transport.authScheme?.map fun scheme => Warning.renderedAsBasic scheme.word).toList ++
      if d.headerAuthorization?.isSome then [Warning.userAndHeader] else []
  else []

/-- The user agent of a command that names none. -/
def defaultUserAgent : String := "curl/8.5.0"

/-- Complete the draft; without an address there is no request. -/
def finish (d : Draft) : Except Failure Outcome :=
  match d.url? with
  | none => .error .missingUrl
  | some raw =>
      let (url, query) := Url.splitQuery raw
      if url.isEmpty then .error .missingUrl
      else
        let payload := d.payload
        let headers := d.finalHeaders payload.body?
        .ok
          { request :=
              { method := d.method payload.body?
                url
                headers
                body? := payload.body?
                rawBody? := payload.rawBody?
                authorization? := d.authorization?
                cookies := d.cookies
                files := d.form.files.reverse
                query := Ordered.enter (· == ·) query payload.queryPairs
                transport :=
                  { d.transport with
                    userAgent? :=
                      some ((headers.find? "User-Agent").getD defaultUserAgent) } }
            warnings := d.warnings.reverse ++ payload.warnings ++ d.authorizationWarnings }

end Draft

end Command

end RequestScribe
