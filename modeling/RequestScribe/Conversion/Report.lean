import RequestScribe.Conversion.Basic
import RequestScribe.Code.Literal

/-!
# Conversions as JSON

The report of a conversion that other programs read.
-/

namespace RequestScribe

namespace Json.Value

def ofOption {α : Type} (f : α → Json.Value) : Option α → Json.Value
  | some x => f x
  | none => .null

def ofTexts (texts : List String) : Json.Value :=
  .array (texts.map .string)

def ofTextMap (entries : List (String × String)) : Json.Value :=
  .object (entries.map fun (key, text) => (key, .string text))

end Json.Value

open Json (Value)

/-- A value marked with the name of its kind. -/
def Body.tagged (type : String) (content : Value) : Value :=
  .object [("type", .string type), ("content", content)]

def MultipartField.report : MultipartField → Value
  | .text name content =>
      .object [("kind", .string "text"), ("name", .string name), ("value", .string content)]
  | .file index => .object [("kind", .string "file"), ("index", .ofNat index)]

def Body.report : Body → Value
  | .json v => tagged "json" v
  | .form pairs =>
      tagged "form" (.array (pairs.map fun (key, text) => Value.ofTexts [key, text]))
  | .multipart fields => tagged "multipart" (.array (fields.map MultipartField.report))
  | .raw text => tagged "raw" (.string text)
  | .binary text => tagged "binary" (.string text)
  | .file path => tagged "file" (.string path)

def Authorization.report : Authorization → Value
  | .basic user password =>
      Value.ofTextMap [("type", "basic"), ("username", user), ("password", password)]
  | .bearer token => Value.ofTextMap [("type", "bearer"), ("token", token)]
  | .apiKey scheme key => Value.ofTextMap [("type", "apikey"), ("scheme", scheme), ("key", key)]
  | .custom scheme credentials =>
      Value.ofTextMap [("type", "custom"), ("scheme", scheme), ("credentials", credentials)]

def FileUpload.report (f : FileUpload) : Value :=
  .object
    [ ("fieldName", .string f.fieldName), ("fileName", .string f.fileName),
      ("contentType", .ofOption .string f.contentType?) ]

def Transport.report (t : Transport) : Value :=
  let seconds := Value.ofOption fun x => .number (.float x)
  let text := Value.ofOption .string
  .object
    [ ("followRedirects", .bool t.followRedirects),
      ("maxRedirects", .ofOption .ofNat t.maxRedirects?),
      ("timeout", seconds t.timeout?),
      ("connectTimeout", seconds t.connectTimeout?),
      ("proxy", text t.proxy?),
      ("insecure", .bool t.insecure),
      ("compressed", .bool t.compressed),
      ("userAgent", text t.userAgent?),
      ("cert", text t.cert?),
      ("key", text t.key?),
      ("cacert", text t.cacert?),
      ("httpVersion", text (t.httpVersion?.map HttpVersion.number)),
      ("authSchemeHint", text (t.authScheme?.map AuthScheme.word)) ]

def Request.report (r : Request) : Value :=
  .object
    [ ("method", .string r.method.verb),
      ("url", .string r.url),
      ("headers", .ofTextMap r.headers),
      ("body", .ofOption Body.report r.body?),
      ("rawBody", .ofOption .string r.rawBody?),
      ("auth", .ofOption Authorization.report r.authorization?),
      ("cookies", .ofTextMap r.cookies),
      ("files", .array (r.files.map FileUpload.report)),
      ("queryParams", .ofTextMap r.query),
      ("options", r.transport.report) ]

def Generated.report (g : Generated) : Value :=
  .object
    [ ("code", .string g.code),
      ("fileName", .string g.fileName),
      ("extension", .string g.extension),
      ("types", .ofOption .string g.types?),
      ("testScaffold", .ofOption .string g.testScaffold?),
      ("envVars", .ofTextMap g.envVars),
      ("imports", .ofTexts g.imports),
      ("dependencies", .ofTexts g.dependencies),
      ("documentation", .string g.documentation) ]

def Conversion.optionalField {α : Type} (key : String) (f : α → Value) (x? : Option α) :
    List (String × Value) :=
  (x?.map fun x => (key, f x)).toList

def Conversion.report (c : Conversion) : Value :=
  .object
    ([("success", Value.bool c.succeeded)] ++
      optionalField "request" Request.report c.request? ++
      optionalField "code" Generated.report c.code? ++
      optionalField "error" (fun f => .string f.message) c.failure? ++
      [("warnings", Value.ofTexts c.warnings)])

end RequestScribe
