import RequestScribe.Code.Literal
import RequestScribe.Program.Program
import RequestScribe.Request.Proxy

/-!
# JavaScript and TypeScript programs

Programs that send their request with `fetch` or with axios.
-/

namespace RequestScribe

/-- The kind of script: with or without types, and the library it uses. -/
structure Script where
  typed : Bool
  client : ScriptClient
  deriving DecidableEq, Repr

namespace Script

open Step

def string (s : String) : Code :=
  Code.quoted (StringLiteral.singleEscaped s)

def envLookup (typed : Bool) (var : String) : Code :=
  if typed then "(process.env." ++ var ++ " ?? " ++ string "" ++ ")" else "process.env." ++ var

def fragments (typed : Bool) : FragmentSyntax where
  string := string
  env := envLookup typed
  joined lead var := string lead ++ " + " ++ envLookup typed var

variable (s : Script)

def value (f : Fragment) : Code :=
  (fragments s.typed).code f

def isAxios : Bool := s.client == .axios

/-- Whether certificates or certificate checks are to be set. -/
def hasCertificates (t : Transport) : Bool :=
  t.cert?.isSome || t.key?.isSome || t.cacert?.isSome

def needsAgent (b : Brief) : Bool :=
  s.isAxios && (b.transport.insecure || hasCertificates b.transport)

def readsFiles (b : Brief) : Bool :=
  !b.files.isEmpty || b.bodyFile?.isSome || (s.needsAgent b && hasCertificates b.transport)

def imports (b : Brief) : List String :=
  (if s.isAxios then ["import axios from 'axios';"] else []) ++
    (if s.readsFiles b then ["import fs from 'node:fs';"] else []) ++
    (if s.needsAgent b then ["import https from 'node:https';"] else [])

def dependencies : List String :=
  (if s.isAxios then ["axios"] else []) ++ if s.typed then ["typescript", "@types/node"] else []

def returnType (b : Brief) : String :=
  if !s.typed then ""
  else if b.typedResponse then ": Promise<ResponseData>"
  else ": Promise<unknown>"

/-- `'name': value,` -/
def property (name : String) (value : Code) : Step :=
  line (string name ++ ": " ++ value ++ ",")

/-- The address, with the query's parameters where there are any. -/
def address (b : Brief) : List Step :=
  let parameters := b.query.map fun (name, value) => property name (string value)
  if b.hasQuery then
    match s.client with
    | .fetch =>
        [ block "const params = new URLSearchParams(\x7b" "\x7d);" parameters,
          line ("const url = " ++ string (b.url ++ "?") ++ " + params.toString();") ]
    | .axios =>
        [ line ("const url = " ++ string b.url ++ ";"),
          block "const params = \x7b" "\x7d;" parameters ]
  else [line ("const url = " ++ string b.url ++ ";")]

/-- Whether credentials have to be put into a header by the program itself. -/
def encodesCredentials (b : Brief) : Bool :=
  s.client == .fetch && b.basicAuth?.isSome

def credentialsHeader (user password : Fragment) : Step :=
  line
    ("headers[" ++ string "Authorization" ++ "] = " ++ string "Basic " ++ " + btoa(" ++
      s.value user ++ " + " ++ string ":" ++ " + " ++ s.value password ++ ");")

def headers (b : Brief) : List Step :=
  let annotation := if s.typed then ": Record<string, string>" else ""
  let table :=
    if b.headers.isEmpty then
      Step.when (s.encodesCredentials b)
        [line (Code.plain ("const headers" ++ annotation ++ " = \x7b\x7d;"))]
    else
      [block (Code.plain ("const headers" ++ annotation ++ " = \x7b")) "\x7d;"
        (b.headers.map fun (name, value) => property name (s.value value))]
  let credentials := match s.client, b.basicAuth? with
    | .fetch, some (user, password) => [s.credentialsHeader user password]
    | _, _ => []
  table ++ credentials

def appended (name : String) (value : Code) : Step :=
  line ("body.append(" ++ string name ++ ", " ++ value ++ ");")

def fileContents (path : String) : Code :=
  "fs.readFileSync(" ++ string path ++ ")"

def uploadStep (f : FileUpload) : Step :=
  let type : Code := match f.contentType? with
    | some contentType => ", \x7b type: " ++ string contentType ++ " \x7d"
    | none => Code.empty
  appended f.fieldName
    ("new Blob([" ++ fileContents f.fileName ++ "]" ++ type ++ "), " ++ string f.fileName)

def multipartStep (b : Brief) : MultipartField → Option Step
  | .text name value => some (appended name (string value))
  | .file index => (b.upload? index).map uploadStep

def body (b : Brief) : List Step :=
  match b.body? with
  | some (.json value) =>
      let annotation := if s.typed && b.typedBody then ": RequestBody" else ""
      [lines ("const body" ++ annotation ++ " = " ++ Literal.code .javaScript b.unit 0 value ++
        ";")]
  | some (.form pairs) =>
      line "const body = new URLSearchParams();" ::
        pairs.map fun (name, value) => appended name (string value)
  | some (.multipart fields) =>
      line "const body = new FormData();" :: fields.filterMap (multipartStep b)
  | some (.raw text) => [line ("const body = " ++ string text ++ ";")]
  | some (.binary text) => [line ("const body = " ++ string text ++ ";")]
  | some (.file path) => [line ("const body = " ++ fileContents path ++ ";")]
  | none => []

def preamble (b : Brief) : List Step :=
  s.address b ++ s.headers b ++ s.body b

def fetchOptions (b : Brief) : List Code :=
  let headers : List Code :=
    if b.headers.isEmpty && b.basicAuth?.isNone then [] else ["headers,"]
  let body : List Code := match b.body? with
    | some (.json _) => ["body: JSON.stringify(body),"]
    | some _ => ["body,"]
    | none => []
  let redirect := if b.transport.followRedirects then "follow" else "manual"
  let timeout : List Code := match b.timeout? with
    | some ms => [Code.plain ("signal: AbortSignal.timeout(" ++ toString ms ++ "),")]
    | none => []
  ["method: " ++ string b.method.verb ++ ","] ++ headers ++ body ++
    ["redirect: " ++ string redirect ++ ","] ++ timeout

/-- `name: fs.readFileSync('path')` -/
def fileEntry (name : String) (path? : Option String) : List Code :=
  match path? with
  | some path => [name ++ ": " ++ fileContents path]
  | none => []

def agentEntries (t : Transport) : List Code :=
  (if t.insecure then [Code.plain "rejectUnauthorized: false"] else []) ++
    fileEntry "cert" t.cert? ++ fileEntry "key" t.key? ++ fileEntry "ca" t.cacert?

def redirectEntry (t : Transport) : List Code :=
  if !t.followRedirects then ["maxRedirects: 0,"]
  else
    match t.maxRedirects? with
    | some limit => [Code.plain ("maxRedirects: " ++ toString limit ++ ",")]
    | none => []

def proxyEntry (t : Transport) : List Code :=
  match t.proxy?.bind Proxy.read? with
  | some proxy =>
      [ "proxy: \x7b protocol: " ++ string proxy.scheme ++ ", host: " ++ string proxy.host ++
          (", port: " ++ toString proxy.port ++ " \x7d,") ]
  | none => []

def axiosOptions (b : Brief) : List Code :=
  let credentials : List Code := match b.basicAuth? with
    | some (user, password) =>
        [ "auth: \x7b username: " ++ s.value user ++ ", password: " ++ s.value password ++
            " \x7d," ]
    | none => []
  let timeout : List Code := match b.timeout? with
    | some ms => [Code.plain ("timeout: " ++ toString ms ++ ",")]
    | none => []
  let agent : List Code :=
    if s.needsAgent b then
      ["httpsAgent: new https.Agent(\x7b " ++ Code.intercalate ", " (agentEntries b.transport) ++
        " \x7d),"]
    else []
  let given (condition : Bool) (entry : String) : List Code :=
    if condition then [Code.plain entry] else []
  ["method: " ++ string b.method.lowerVerb ++ ",", "url,"] ++
    given b.hasQuery "params," ++
    given (!b.headers.isEmpty) "headers," ++
    given b.body?.isSome "data: body," ++
    credentials ++ timeout ++ redirectEntry b.transport ++ proxyEntry b.transport ++ agent ++
    given b.checksStatus "validateStatus: () => true,"

def options (b : Brief) : List Code :=
  match s.client with
  | .fetch => fetchOptions b
  | .axios => s.axiosOptions b

def call (b : Brief) : String :=
  match s.client with
  | .fetch => "fetch(url, \x7b"
  | .axios =>
      "axios.request" ++ (if s.typed && b.typedResponse then "<ResponseData>" else "") ++ "(\x7b"

/-- An error for a response that does not tell of success. -/
def statusCheck (b : Brief) : List Step :=
  let failed : Code := match s.client with
    | .fetch => "!response.ok"
    | .axios => "response.status < 200 || response.status >= 300"
  Step.when b.checksStatus
    [block ("if (" ++ failed ++ ") \x7b") "\x7d"
      [line ("throw new Error(" ++ Code.quoted "`Request failed with status $\x7b" ++
        "response.status" ++ Code.quoted "\x7d`" ++ ");")]]

/-- The decoded response; `awaited` where its decoding is awaited. -/
def decoded (b : Brief) (awaited : Bool) : String :=
  let call := if b.expectsJson then "response.json()" else "response.text()"
  match awaited, s.typed && b.typedResponse && b.expectsJson with
  | true, true => "(await " ++ call ++ ") as ResponseData"
  | true, false => "await " ++ call
  | false, true => call ++ " as Promise<ResponseData>"
  | false, false => call

def awaitingCall (b : Brief) : List Step :=
  let result : List Step := match s.client with
    | .fetch =>
        [line (Code.plain ("const data = " ++ s.decoded b true ++ ";")), line "return data;"]
    | .axios => [line "return response.data;"]
  block (Code.plain ("const response = await " ++ s.call b)) "\x7d);"
      ((s.options b).map Step.line) ::
    s.statusCheck b ++ result

/-- The call as a chain of promises. -/
def chainedCall (b : Brief) : List Step :=
  let result : Step := match s.client with
    | .fetch => line (Code.plain ("return " ++ s.decoded b false ++ ";"))
    | .axios => line "return response.data;"
  [ block (Code.plain ("return " ++ s.call b)) "\x7d)" ((s.options b).map Step.line),
    indent,
    block ".then((response) => \x7b" "\x7d)" (s.statusCheck b ++ [result]) ] ++
    Step.when b.guarded
      [ block ".catch((error) => \x7b" "\x7d)"
          [ line ("console.error(" ++ string "Request failed:" ++ ", error);"),
            line "throw error;" ] ] ++
    [dedent, terminate ";"]

/-- The awaiting call, with failures reported where that is asked for. -/
def guardedCall (b : Brief) : List Step :=
  if b.guarded then
    [ block "try \x7b" "\x7d catch (error) \x7b" (s.awaitingCall b),
      indent,
      line ("console.error(" ++ string "Request failed:" ++ ", error);"),
      line "throw error;",
      dedent,
      line "\x7d" ]
  else s.awaitingCall b

def makeRequest (b : Brief) : Step :=
  let start := if b.settings.awaiting then "export async function" else "export function"
  block (Code.plain (start ++ " makeRequest()" ++ s.returnType b ++ " \x7b")) "\x7d"
    (s.preamble b ++ [blank] ++
      if b.settings.awaiting then s.guardedCall b else s.chainedCall b)

def usage (b : Brief) : List Step :=
  Step.when b.comments
    ([blank, line (Code.remark "// Example usage")] ++
      if b.settings.awaiting then
        [line "const data = await makeRequest();", line "console.log(data);"]
      else [line "makeRequest().then((data) => console.log(data));"])

def notes (b : Brief) : List String :=
  let t := b.transport
  match s.client with
  | .fetch =>
      (if t.insecure then
        ["fetch cannot disable TLS verification per request; --insecure was dropped"]
      else []) ++
      (if t.proxy?.isSome then
        ["fetch has no proxy option; configure a proxy agent to honour --proxy"]
      else []) ++
      (if hasCertificates t then
        ["fetch does not support client certificates; certificate flags were dropped"]
      else []) ++
      (if t.maxRedirects?.isSome then
        ["fetch cannot limit the number of redirects; --max-redirs was dropped"]
      else [])
  | .axios =>
      match t.proxy? with
      | some proxy =>
          if (Proxy.read? proxy).isNone then
            ["could not parse proxy '" ++ proxy ++ "'; it was dropped"]
          else []
      | none => []

def testSteps : List Step :=
  [ line ("import \x7b test \x7d from " ++ string "node:test" ++ ";"),
    line ("import assert from " ++ string "node:assert/strict" ++ ";"),
    line ("import \x7b makeRequest \x7d from " ++ string "./request.js" ++ ";"),
    blank,
    block ("test(" ++ string "makeRequest returns a response body" ++ ", async () => \x7b")
      "\x7d);"
      [ line "const data = await makeRequest();",
        line "assert.notEqual(data, undefined);" ] ]

def program (b : Brief) : Program :=
  { steps :=
      Step.plainLines (s.imports b) ++ [blank] ++ b.headComments "// " (s.notes b) ++ [blank] ++
        (if s.typed then b.typeSteps .typeScript else []) ++ [s.makeRequest b] ++ usage b
    imports := s.imports b
    dependencies := s.dependencies
    types? := if s.typed then b.types? .typeScript else none
    testSteps? := if b.settings.includeTests then some testSteps else none }

end Script

end RequestScribe
