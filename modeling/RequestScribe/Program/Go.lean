import RequestScribe.Code.Literal
import RequestScribe.Program.Program

/-!
# Go programs

Programs that send their request with the standard library.
-/

namespace RequestScribe

namespace Go

open Step

variable (b : Brief)

def string (s : String) : Code :=
  Code.quoted (StringLiteral.doubleEscaped s)

def envLookup (var : String) : Code :=
  "os.Getenv(" ++ Code.quoted ("\"" ++ var ++ "\"") ++ ")"

def fragments : FragmentSyntax where
  string := string
  env := envLookup
  joined lead var := string lead ++ " + " ++ envLookup var

def value (f : Fragment) : Code := fragments.code f

/-- Certificate and key, if both are given. -/
def clientCertificate? (t : Transport) : Option (String × String) :=
  match t.cert?, t.key? with
  | some cert, some key => some (cert, key)
  | _, _ => none

/-- The packages of the standard library that a program may import, in order. -/
inductive Package where
  | bytes
  | cryptoTls
  | encodingJson
  | fmt
  | io
  | mimeMultipart
  | netHttp
  | netUrl
  | os
  | strings
  | time
  deriving DecidableEq, Repr

def Package.all : List Package :=
  [ .bytes, .cryptoTls, .encodingJson, .fmt, .io, .mimeMultipart, .netHttp, .netUrl, .os,
    .strings, .time ]

def Package.path : Package → String
  | .bytes => "bytes"
  | .cryptoTls => "crypto/tls"
  | .encodingJson => "encoding/json"
  | .fmt => "fmt"
  | .io => "io"
  | .mimeMultipart => "mime/multipart"
  | .netHttp => "net/http"
  | .netUrl => "net/url"
  | .os => "os"
  | .strings => "strings"
  | .time => "time"

def uses : Package → Bool
  | .fmt | .io | .netHttp => true
  | .os => b.guarded || !b.envNames.isEmpty || !b.files.isEmpty || b.bodyFile?.isSome
  | .netUrl => b.hasQuery || b.transport.proxy?.isSome || b.body?.any (·.dataType == .form)
  | .bytes => b.body?.any fun body =>
      body.dataType == .json || body.dataType == .multipart || body.filePath?.isSome
  | .strings => b.body?.any fun body =>
      body.dataType == .form || body.dataType == .raw ||
        (body.dataType == .binary && body.filePath?.isNone)
  | .mimeMultipart => b.isMultipart
  | .time => b.timeout?.isSome
  | .cryptoTls => b.transport.insecure || (clientCertificate? b.transport).isSome
  | .encodingJson => b.typedResponse

def imports : List String :=
  (Package.all.filter (uses b)).map fun package => "\"" ++ package.path ++ "\""

/-- Leave with an error if there is one; `what?` says what failed. -/
def checkError (what? : Option String) : Step :=
  block "if err != nil \x7b" "\x7d"
    [ match what? with
      | some what =>
          line ("return nil, fmt.Errorf(" ++ string (what ++ ": %w") ++ ", err)")
      | none => line "return nil, err" ]

/-- Call a function that returns a value and an error. -/
def assign (target : String) (call : Code) (what? : Option String) : List Step :=
  if b.guarded then [line (target ++ ", err := " ++ call), checkError what?]
  else [line (target ++ ", _ := " ++ call)]

/-- Call a function that only returns an error. -/
def check (call : Code) : Step :=
  if b.guarded then
    block ("if err := " ++ call ++ "; err != nil \x7b") "\x7d" [line "return nil, err"]
  else line call

/-- A JSON text as bytes: in a raw string unless it contains a backtick. -/
def jsonPayload (v : Json.Value) : Code :=
  let json := v.pretty b.unit
  let literal := if Text.hasChar '\x60' json then string json else Code.quoted ("`" ++ json ++ "`")
  "payload := []byte(" ++ literal ++ ")"

/-- Variables that belong to one upload have numbers if there are several uploads. -/
def uploadSteps (index : Nat) (f : FileUpload) : List Step :=
  let number := if b.files.length > 1 then toString (index + 1) else ""
  let data := "file" ++ number
  let part := "part" ++ number
  assign b data ("os.ReadFile(" ++ string f.fileName ++ ")") none ++
    assign b part
      ("writer.CreateFormFile(" ++ string f.fieldName ++ ", " ++ string f.fileName ++ ")") none ++
    [ if b.guarded then check b (Code.plain ("writeAll(" ++ part ++ ", " ++ data ++ ")"))
      else line (Code.plain (part ++ ".Write(" ++ data ++ ")")) ]

def fieldSteps : MultipartField → List Step
  | .text name value =>
      [check b ("writer.WriteField(" ++ string name ++ ", " ++ string value ++ ")")]
  | .file index =>
      match b.upload? index with
      | some f => uploadSteps b index f
      | none => []

def body : List Step :=
  match b.body? with
  | some (.json v) => [lines (jsonPayload b v)]
  | some (.form pairs) =>
      line "form := url.Values\x7b\x7d" ::
        pairs.map fun (name, value) =>
          line ("form.Add(" ++ string name ++ ", " ++ string value ++ ")")
  | some (.multipart fields) =>
      [line "var buf bytes.Buffer", line "writer := multipart.NewWriter(&buf)"] ++
        fields.flatMap (fieldSteps b) ++ [check b "writer.Close()"]
  | some (.raw text) => [line ("payload := " ++ string text)]
  | some (.binary text) => [line ("payload := " ++ string text)]
  | some (.file path) => assign b "payload" ("os.ReadFile(" ++ string path ++ ")") none
  | none => []

def reader : String :=
  match b.body? with
  | some (.json _) => "bytes.NewReader(payload)"
  | some (.form _) => "strings.NewReader(form.Encode())"
  | some (.multipart _) => "&buf"
  | some (.raw _) => "strings.NewReader(payload)"
  | some (.binary _) => "strings.NewReader(payload)"
  | some (.file _) => "bytes.NewReader(payload)"
  | none => "nil"

def tlsEntries (t : Transport) : List String :=
  (if t.insecure then ["InsecureSkipVerify: true"] else []) ++
    if (clientCertificate? t).isSome then ["Certificates: []tls.Certificate\x7bclientCert\x7d"]
    else []

def transportEntries (t : Transport) : List String :=
  let tls := tlsEntries t
  (if t.proxy?.isSome then ["Proxy: http.ProxyURL(proxyURL),"] else []) ++
    if tls.isEmpty then []
    else ["TLSClientConfig: &tls.Config\x7b" ++ ", ".intercalate tls ++ "\x7d,"]

/-- The number of redirects that are followed, if it is limited. -/
def redirectLimit? (t : Transport) : Option Nat :=
  if t.followRedirects then t.maxRedirects? else some 0

def redirectSteps (t : Transport) : List Step :=
  let opening := "CheckRedirect: func(req *http.Request, via []*http.Request) error \x7b"
  let stop : Step := line "return http.ErrUseLastResponse"
  match redirectLimit? t with
  | none => []
  | some 0 => [block (Code.plain opening) "\x7d," [stop]]
  | some limit =>
      [ block (Code.plain opening) "\x7d,"
          [ block (Code.plain ("if len(via) >= " ++ toString limit ++ " \x7b")) "\x7d" [stop],
            line "return nil" ] ]

def client : List Step :=
  let t := b.transport
  let proxy := match t.proxy? with
    | some proxy => assign b "proxyURL" ("url.Parse(" ++ string proxy ++ ")") none
    | none => []
  let certificate := match clientCertificate? t with
    | some (cert, key) =>
        assign b "clientCert"
          ("tls.LoadX509KeyPair(" ++ string cert ++ ", " ++ string key ++ ")") none
    | none => []
  let timeout : List Step := match b.timeout? with
    | some ms => [line (Code.plain ("Timeout: " ++ toString ms ++ " * time.Millisecond,"))]
    | none => []
  let entries := transportEntries t
  let transport := Step.when (!entries.isEmpty)
    [block "Transport: &http.Transport\x7b" "\x7d," (Step.plainLines entries)]
  let settings := timeout ++ transport ++ redirectSteps t
  proxy ++ certificate ++
    if settings.isEmpty then [line "client := &http.Client\x7b\x7d"]
    else [block "client := &http.Client\x7b" "\x7d" settings]

/-- The address, with the query's parameters where there are any. -/
def address : List Step :=
  if b.hasQuery then
    line "params := url.Values\x7b\x7d" ::
      (b.query.map fun (name, value) =>
        line ("params.Add(" ++ string name ++ ", " ++ string value ++ ")")) ++
      [line ("reqURL := " ++ string (b.url ++ "?") ++ " + params.Encode()")]
  else [line ("reqURL := " ++ string b.url)]

def headers : List Step :=
  (b.headers.map fun (name, f) =>
    line ("req.Header.Set(" ++ string name ++ ", " ++ value f ++ ")")) ++
    Step.when b.isMultipart
      [line ("req.Header.Set(" ++ string "Content-Type" ++ ", writer.FormDataContentType())")] ++
    match b.basicAuth? with
    | some (user, password) =>
        [line ("req.SetBasicAuth(" ++ value user ++ ", " ++ value password ++ ")")]
    | none => []

def statusCheck : List Step :=
  Step.when b.checksStatus
    [block "if resp.StatusCode < 200 || resp.StatusCode >= 300 \x7b" "\x7d"
      [line ("return nil, fmt.Errorf(" ++ string "unexpected status: %s" ++ ", resp.Status)")]]

def makeRequest : Step :=
  block "func makeRequest() ([]byte, error) \x7b" "\x7d"
    (address b ++ [blank] ++ body b ++
      assign b "req"
        ("http.NewRequest(" ++ string b.method.verb ++ (", reqURL, " ++ reader b ++ ")")) none ++
      headers b ++ [blank] ++ client b ++
      assign b "resp" "client.Do(req)" (some "request failed") ++
      [line "defer resp.Body.Close()", blank] ++ statusCheck b ++
      [line "return io.ReadAll(resp.Body)"])

def report (what : String) : List Step :=
  [line ("fmt.Fprintln(os.Stderr, " ++ string what ++ ", err)"), line "os.Exit(1)"]

def decode : List Step :=
  line "var data ResponseData" ::
    (if b.guarded then
      [block "if err := json.Unmarshal(body, &data); err != nil \x7b" "\x7d"
        (report "Invalid response:")]
    else [line "json.Unmarshal(body, &data)"]) ++
    [line ("fmt.Printf(" ++ string "%+v\n" ++ ", data)")]

def mainFunction : Step :=
  block "func main() \x7b" "\x7d"
    ((if b.guarded then
        [ line "body, err := makeRequest()",
          block "if err != nil \x7b" "\x7d" (report "Request failed:") ]
      else [line "body, _ := makeRequest()"]) ++
      if b.typedResponse then decode b else [line "fmt.Println(string(body))"])

/-- A function that writes all of some data and returns the error alone. -/
def writeAll : List Step :=
  Step.when (b.isMultipart && b.guarded)
    [ block "func writeAll(w io.Writer, data []byte) error \x7b" "\x7d"
        [line "_, err := w.Write(data)", line "return err"],
      blank ]

def notes : List String :=
  let t := b.transport
  (if b.settings.awaiting then []
    else ["net/http calls are blocking; run makeRequest in a goroutine for concurrency"]) ++
    (if t.cacert?.isSome then ["custom CA bundles are not wired up; --cacert was dropped"]
      else []) ++
    (if t.cert?.isSome != t.key?.isSome then
      ["client certificates need both --cert and --key; the flag was dropped"]
    else [])

def testSteps : List Step :=
  [ line "package main",
    blank,
    line ("import " ++ string "testing"),
    blank,
    block "func TestMakeRequest(t *testing.T) \x7b" "\x7d"
      [ line "body, err := makeRequest()",
        block "if err != nil \x7b" "\x7d"
          [line ("t.Fatalf(" ++ string "makeRequest failed: %v" ++ ", err)")],
        block "if len(body) == 0 \x7b" "\x7d"
          [line ("t.Log(" ++ string "empty response body" ++ ")")] ] ]

def program : Program :=
  { steps :=
      [ line "package main",
        blank,
        block "import (" ")" ((imports b).map fun path => line (Code.quoted path)),
        blank ] ++
        b.headComments "// " (notes b) ++ [blank] ++ b.typeSteps .go ++ writeAll b ++
        [makeRequest b, blank] ++
        Step.when b.comments [line (Code.remark "// Example usage")] ++ [mainFunction b]
    imports := imports b
    types? := b.types? .go
    testSteps? := if b.settings.includeTests then some testSteps else none }

end Go

end RequestScribe
