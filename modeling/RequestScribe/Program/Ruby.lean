import RequestScribe.Code.Literal
import RequestScribe.Program.Program
import RequestScribe.Request.Proxy

/-!
# Ruby programs

Programs that send their request with the standard library.
-/

namespace RequestScribe

namespace Ruby

open Step

variable (b : Brief)

def string (s : String) : Code :=
  Code.quoted (StringLiteral.singlePlain s)

def envLookup (var : String) : Code :=
  "ENV.fetch(" ++ Code.quoted ("'" ++ var ++ "'") ++ ")"

def fragments : FragmentSyntax where
  string := string
  env := envLookup
  joined lead var := string lead ++ " + " ++ envLookup var

def value (f : Fragment) : Code := fragments.code f

def imports : List String :=
  ["require 'net/http'", "require 'uri'"] ++
    (if b.jsonBody?.isSome || b.expectsJson then ["require 'json'"] else []) ++
    if b.transport.insecure then ["require 'openssl'"] else []

def requestClass : Method → String
  | .get => "Net::HTTP::Get"
  | .post => "Net::HTTP::Post"
  | .put => "Net::HTTP::Put"
  | .patch => "Net::HTTP::Patch"
  | .delete => "Net::HTTP::Delete"
  | .head => "Net::HTTP::Head"
  | .options => "Net::HTTP::Options"
  | .trace => "Net::HTTP::Trace"
  | .connect => "Net::HTTPGenericRequest"

def newRequest : Code :=
  match b.method with
  | .connect =>
      "request = Net::HTTPGenericRequest.new(" ++ string "CONNECT" ++ ", false, true, uri)"
  | method => "request = " ++ requestClass method ++ ".new(uri)"

def address : List Step :=
  let pair (entry : String × String) : Code := string entry.1 ++ " => " ++ string entry.2
  line ("uri = URI(" ++ string b.url ++ ")") ::
    Step.when b.hasQuery
      [line ("uri.query = URI.encode_www_form(" ++
        Code.intercalate ", " (b.query.map pair) ++ ")")]

def headers : List Step :=
  (b.headers.map fun (name, f) =>
    line ("request[" ++ string name ++ "] = " ++ value f)) ++
    match b.basicAuth? with
    | some (user, password) =>
        [line ("request.basic_auth(" ++ value user ++ ", " ++ value password ++ ")")]
    | none => []

/-- `['name', 'value']` -/
def pair (entry : String × String) : Code :=
  "[" ++ string entry.1 ++ ", " ++ string entry.2 ++ "]"

def uploadStep (f : FileUpload) : Step :=
  let type : Code := match f.contentType? with
    | some contentType => ", content_type: " ++ string contentType
    | none => Code.empty
  line
    ("[" ++ string f.fieldName ++ ", File.open(" ++ string f.fileName ++ "), \x7b filename: " ++
      string f.fileName ++ type ++ " \x7d],")

def fieldStep : MultipartField → Option Step
  | .text name value => some (line (pair (name, value) ++ ","))
  | .file index => (b.upload? index).map uploadStep

def body : List Step :=
  match b.body? with
  | some (.json v) =>
      [lines ("request.body = JSON.generate(" ++ Literal.code .ruby b.unit 0 v ++ ")")]
  | some (.form pairs) =>
      [line ("request.body = URI.encode_www_form([" ++
        Code.intercalate ", " (pairs.map pair) ++ "])")]
  | some (.multipart fields) =>
      [ block "form = [" "]" (fields.filterMap (fieldStep b)),
        line ("request.set_form(form, " ++ string "multipart/form-data" ++ ")") ]
  | some (.raw text) => [line ("request.body = " ++ string text)]
  | some (.binary text) => [line ("request.body = " ++ string text)]
  | some (.file path) => [line ("request.body = File.binread(" ++ string path ++ ")")]
  | none => []

def connection : List Step :=
  let t := b.transport
  let proxy : Code := match t.proxy?.bind Proxy.read? with
    | some proxy => ", " ++ string proxy.host ++ (", " ++ toString proxy.port)
    | none => Code.empty
  let seconds (name : String) (ms? : Option Nat) : List Step :=
    match ms? with
    | some ms => [line (Code.plain ("http." ++ name ++ " = " ++ secondsLiteral ms))]
    | none => []
  [ line ("http = Net::HTTP.new(uri.hostname, uri.port" ++ proxy ++ ")"),
    line ("http.use_ssl = uri.scheme == " ++ string "https") ] ++
    Step.when t.insecure [line "http.verify_mode = OpenSSL::SSL::VERIFY_NONE"] ++
    (match t.cacert? with
      | some path => [line ("http.ca_file = " ++ string path)]
      | none => []) ++
    seconds "read_timeout" b.timeout? ++ seconds "open_timeout" b.connectTimeout?

def send : List Step :=
  [line "response = http.request(request)"] ++
    Step.when b.checksStatus
      [line ("raise " ++ Code.quoted "\"Request failed with status #\x7bresponse.code\x7d\"" ++
        " unless response.is_a?(Net::HTTPSuccess)")] ++
    [line (Code.plain (if b.expectsJson then "JSON.parse(response.body)" else "response.body"))]

def guardedSend : List Step :=
  if b.guarded then
    [ scope "begin" (send b),
      scope "rescue StandardError => e"
        [ line ("warn " ++ Code.quoted "\"Request failed: #\x7be.message\x7d\""),
          line "raise" ],
      line "end" ]
  else send b

def makeRequest : Step :=
  block "def make_request" "end"
    (address b ++ [blank, line (newRequest b)] ++ headers b ++ body b ++ [blank] ++
      connection b ++ [blank] ++ guardedSend b)

def notes : List String :=
  let t := b.transport
  (if t.followRedirects then
      ["Net::HTTP does not follow redirects; handle Net::HTTPRedirection to honour -L"]
    else []) ++
    (if b.settings.awaiting then []
      else ["Net::HTTP calls are blocking; the non-blocking style is not available"]) ++
    (if t.cert?.isSome || t.key?.isSome then
      ["client certificates need OpenSSL objects; --cert/--key were dropped"]
    else []) ++
    match t.proxy? with
    | some proxy =>
        if (Proxy.read? proxy).isNone then
          ["could not parse proxy '" ++ proxy ++ "'; it was dropped"]
        else []
    | none => []

def program : Program :=
  { steps :=
      Step.plainLines (imports b) ++ [blank] ++ b.headComments "# " (notes b) ++ [blank] ++
        [makeRequest b] ++
        Step.when b.comments
          [blank, line (Code.remark "# Example usage"), line "puts make_request"]
    imports := imports b }

end Ruby

end RequestScribe
