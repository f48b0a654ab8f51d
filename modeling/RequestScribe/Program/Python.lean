import RequestScribe.Code.Literal
import RequestScribe.Failure
import RequestScribe.Program.Program

/-!
# Python programs

Programs that send their request with requests or with httpx.
-/

namespace RequestScribe

namespace Python

open Step

variable (client : PythonClient) (b : Brief)

def string (s : String) : Code :=
  Code.quoted (StringLiteral.doubleEscaped s)

def envLookup (var : String) : Code :=
  "os.environ[" ++ Code.quoted ("\"" ++ var ++ "\"") ++ "]"

def fragments : FragmentSyntax where
  string := string
  env := envLookup
  joined lead var := string lead ++ " + " ++ envLookup var

def value (f : Fragment) : Code := fragments.code f

def moduleName : String :=
  match client with
  | .requests => "requests"
  | .httpx => "httpx"

def isAsync : Bool := client == .httpx && b.settings.awaiting

def imports : List String :=
  (if isAsync client b then ["import asyncio"] else []) ++
    (if b.envNames.isEmpty then [] else ["import os"]) ++
    (if !b.files.isEmpty || b.bodyFile?.isSome then ["from pathlib import Path"] else []) ++
    ["import " ++ moduleName client]

def bodyKeyword (body : Body) : String :=
  match body, client with
  | .json _, _ => "json"
  | .form _, _ => "data"
  | .multipart _, _ => "data"
  | _, .requests => "data"
  | _, .httpx => "content"

/-- `"name": value,` -/
def entry (name : String) (value : Code) : Step :=
  line (string name ++ ": " ++ value ++ ",")

/-- The values of one form key: a list unless there is only one. -/
def formValue (values : List String) : Code :=
  match values with
  | [only] => string only
  | _ => "[" ++ Code.intercalate ", " (values.map string) ++ "]"

def uploadEntry (f : FileUpload) : Step :=
  let type : Code := match f.contentType? with
    | some contentType => ", " ++ string contentType
    | none => Code.empty
  entry f.fieldName
    ("(" ++ string f.fileName ++ ", Path(" ++ string f.fileName ++ ").read_bytes()" ++ type ++ ")")

def textEntry : MultipartField → Option Step
  | .text name value => some (entry name (string value))
  | .file _ => none

def body : List Step :=
  match b.body? with
  | some (.json value) => [lines ("payload = " ++ Literal.code .python b.unit 0 value)]
  | some (.form pairs) =>
      [block "payload = \x7b" "\x7d"
        ((Ordered.group (· == ·) pairs).map fun (name, values) => entry name (formValue values))]
  | some (.multipart fields) =>
      [ block "payload = \x7b" "\x7d" (fields.filterMap textEntry),
        block "files = \x7b" "\x7d" (b.files.map uploadEntry) ]
  | some (.raw text) => [line ("payload = " ++ string text)]
  | some (.binary text) => [line ("payload = " ++ string text)]
  | some (.file path) => [line ("payload = Path(" ++ string path ++ ").read_bytes()")]
  | none => []

/-- Declarations of everything that the call refers to. -/
def preamble : List Step :=
  let credentials : List Step := match b.basicAuth? with
    | some (user, password) =>
        [line ("auth = (" ++ value user ++ ", " ++ value password ++ ")")]
    | none => []
  [line ("url = " ++ string b.url)] ++
    Step.when b.hasQuery
      [block "params = \x7b" "\x7d"
        (b.query.map fun (name, value) => entry name (string value))] ++
    Step.when (!b.headers.isEmpty)
      [block "headers = \x7b" "\x7d" (b.headers.map fun (name, f) => entry name (value f))] ++
    credentials ++ body b

def redirectArguments (t : Transport) : List Code :=
  match client with
  | .requests =>
      [Code.plain (if t.followRedirects then "allow_redirects=True" else "allow_redirects=False")]
  | .httpx =>
      (if t.followRedirects then [Code.plain "follow_redirects=True"] else []) ++
        match t.maxRedirects? with
        | some limit => [Code.plain ("max_redirects=" ++ toString limit)]
        | none => []

def verifyArgument (t : Transport) : List Code :=
  if t.insecure then ["verify=False"]
  else
    match t.cacert? with
    | some path => ["verify=" ++ string path]
    | none => []

def proxyArgument (t : Transport) : List Code :=
  match t.proxy?, client with
  | none, _ => []
  | some proxy, .requests =>
      [ "proxies=\x7b" ++ string "http" ++ ": " ++ string proxy ++ ", " ++ string "https" ++ ": " ++
          string proxy ++ "\x7d" ]
  | some proxy, .httpx => ["proxy=" ++ string proxy]

def certificateArgument (t : Transport) : List Code :=
  match t.cert?, t.key? with
  | some cert, some key => ["cert=(" ++ string cert ++ ", " ++ string key ++ ")"]
  | some cert, none => ["cert=" ++ string cert]
  | none, _ => []

def transportArguments : List Code :=
  let timeout : List Code := match b.timeout? with
    | some ms => [Code.plain ("timeout=" ++ secondsLiteral ms)]
    | none => []
  timeout ++ redirectArguments client b.transport ++ verifyArgument b.transport ++
    proxyArgument client b.transport ++ certificateArgument b.transport

def callArguments : List Code :=
  let body : List Code := match b.body? with
    | some body => [Code.plain (bodyKeyword client body ++ "=payload")]
    | none => []
  let given (condition : Bool) (argument : String) : List Code :=
    if condition then [Code.plain argument] else []
  [Code.plain "url"] ++ given b.hasQuery "params=params" ++
    given (!b.headers.isEmpty) "headers=headers" ++ body ++
    given b.isMultipart "files=files" ++ given b.basicAuth?.isSome "auth=auth" ++
    match client with
    | .requests => transportArguments client b
    | .httpx => []

/-- Whether the library has a function for the method that can take the body. -/
def hasOwnFunction : Bool :=
  match b.method with
  | .post | .put | .patch => true
  | .get | .delete | .head | .options => client == .requests || b.body?.isNone
  | .trace | .connect => false

/-- The call's opening up to its arguments. -/
def callHead (receiver : String) : Code :=
  if hasOwnFunction client b then Code.plain (receiver ++ "." ++ b.method.lowerVerb ++ "(")
  else receiver ++ ".request(" ++ string b.method.verb ++ ","

def statusCheck : List Step :=
  let failed : Code := match client with
    | .requests => "if not response.ok:"
    | .httpx => "if response.is_error:"
  Step.when b.checksStatus
    [scope failed
      [line ("raise RuntimeError(f" ++
        Code.quoted "\"Request failed with status \x7bresponse.status_code\x7d\"" ++ ")")]]

def send (receiver : String) : List Step :=
  let awaited := if isAsync client b then "response = await " else "response = "
  block (awaited ++ callHead client b receiver) ")"
      ((callArguments client b).map fun argument => line (argument ++ ",")) ::
    statusCheck client b ++
    [line (Code.plain (if b.expectsJson then "return response.json()" else "return response.text"))]

def exception : String :=
  match client with
  | .requests => "requests.RequestException"
  | .httpx => "httpx.HTTPError"

def guardedSend (receiver : String) : List Step :=
  if b.guarded then
    [ scope "try:" (send client b receiver),
      scope (Code.plain ("except " ++ exception client ++ " as exc:"))
        [ line ("print(f" ++ Code.quoted "\"Request failed: \x7bexc\x7d\"" ++ ")"),
          line "raise" ] ]
  else send client b receiver

def call : List Step :=
  match client with
  | .requests => guardedSend client b "requests"
  | .httpx =>
      let opening := if isAsync client b then "async with httpx.AsyncClient(" else
        "with httpx.Client("
      [scope (opening ++ Code.intercalate ", " (transportArguments client b) ++ ") as client:")
        (guardedSend client b "client")]

/-- The summary between triple quotes. -/
def docstring : Code :=
  Code.quoted
    ("\"\"\"" ++ Text.replaceChar '"' "\\\"" (Text.replaceChar '\\' "\\\\" b.summary) ++ "\"\"\"")

def makeRequest : Step :=
  scope (Code.plain (if isAsync client b then "async def make_request():" else
      "def make_request():"))
    (Step.when b.comments [line (docstring b)] ++ preamble b ++ [blank] ++ call client b)

def usage : List Step :=
  Step.when b.comments
    [ blank,
      line (Code.remark "# Example usage"),
      scope ("if __name__ == " ++ string "__main__" ++ ":")
        [line (Code.plain (if isAsync client b then "print(asyncio.run(make_request()))" else
          "print(make_request())"))] ]

def notes : List String :=
  let t := b.transport
  (match client with
    | .requests =>
        (if b.settings.awaiting then []
        else ["requests is blocking only; the non-blocking style is not available"]) ++
        (if t.maxRedirects?.isSome then
          ["requests limits redirects per session; --max-redirs was dropped"]
        else [])
    | .httpx => []) ++
    (if t.key?.isSome && t.cert?.isNone then
      ["--key without --cert cannot be expressed; it was dropped"]
    else [])

def headComments : List Step :=
  Step.when b.comments
      ((notes client b).map fun note => Step.remark "# " ("Note: " ++ note)) ++
    b.retryLines.map (Step.remark "# ")

def testSteps : List Step :=
  let asynchronous := isAsync client b
  Step.when asynchronous [line "import asyncio", blank] ++
    [ line "from request import make_request",
      blank,
      blank,
      scope "def test_make_request_returns_body():"
        [ line (Code.plain (if asynchronous then "data = asyncio.run(make_request())" else
            "data = make_request()")),
          line "assert data is not None" ] ]

/-- The program; blocks cannot be written without indentation. -/
def program : Except Failure Program :=
  if b.unit.isEmpty then
    .error (.generation "Python blocks need indentation; indent size must be at least 1")
  else
    .ok
      { steps :=
          Step.plainLines (imports client b) ++ [blank] ++ headComments client b ++ [blank] ++
            [makeRequest client b] ++ usage client b
        imports := imports client b
        dependencies := [moduleName client]
        testSteps? := if b.settings.includeTests then some (testSteps client b) else none }

end Python

end RequestScribe
