import RequestScribe.Code.Literal
import RequestScribe.Program.Program

/-!
# Rust programs

Programs that send their request with reqwest, awaiting or blocking.
-/

namespace RequestScribe

namespace Rust

open Step

variable (b : Brief)

def string (s : String) : Code :=
  Code.quoted (StringLiteral.doubleBraced s)

def envLookup (var : String) : Code :=
  "std::env::var(" ++ Code.quoted ("\"" ++ var ++ "\"") ++ ")?"

/-- A text in which braces stand for themselves, followed by a place for a value. -/
def template (lead : String) : String :=
  Text.replaceChar '\x7d' "\x7d\x7d" (Text.replaceChar '\x7b' "\x7b\x7b" lead) ++ "\x7b\x7d"

def fragments : FragmentSyntax where
  string := string
  env := envLookup
  joined lead var := "format!(" ++ string (template lead) ++ ", " ++ envLookup var ++ ")"

def value (f : Fragment) : Code := fragments.code f

def isAsync : Bool := b.settings.awaiting

/-- The path of the client's module. -/
def clientPath : String := if isAsync b then "reqwest::" else "reqwest::blocking::"

def awaited : String := if isAsync b then ".await" else ""

/-- The features of reqwest that the program needs. -/
def features : List String :=
  (if b.jsonBody?.isSome || b.typedResponse then ["json"] else []) ++
    (if b.isMultipart then ["multipart"] else []) ++
    (if isAsync b then [] else ["blocking"]) ++
    if b.transport.compressed then ["gzip"] else []

def declaresTypes : Bool := b.typedBody || b.typedResponse

def dependencies : List String :=
  ["reqwest"] ++ (if isAsync b then ["tokio"] else []) ++
    (if b.jsonBody?.isSome then ["serde_json"] else []) ++
    if declaresTypes b then ["serde"] else []

def imports : List String :=
  (if declaresTypes b then ["use serde::\x7bDeserialize, Serialize\x7d;"] else []) ++
    if b.timeout?.isSome || b.connectTimeout?.isSome then ["use std::time::Duration;"] else []

def responseType : String := if b.typedResponse then "ResponseData" else "String"

/-- `.name(Duration::from_millis(ms))` -/
def durationCall (name : String) (ms? : Option Nat) : List Code :=
  match ms? with
  | some ms => [Code.plain ("." ++ name ++ "(Duration::from_millis(" ++ toString ms ++ "))")]
  | none => []

def redirectCall (t : Transport) : List Code :=
  if t.followRedirects then
    match t.maxRedirects? with
    | some limit =>
        [Code.plain (".redirect(reqwest::redirect::Policy::limited(" ++ toString limit ++ "))")]
    | none => []
  else [".redirect(reqwest::redirect::Policy::none())"]

def builderCalls : List Code :=
  let t := b.transport
  let authority : List Code := match t.cacert? with
    | some path =>
        [ ".add_root_certificate(reqwest::Certificate::from_pem(&std::fs::read(" ++ string path ++
            ")?)?)" ]
    | none => []
  let proxy : List Code := match t.proxy? with
    | some proxy => [".proxy(reqwest::Proxy::all(" ++ string proxy ++ ")?)"]
    | none => []
  let given (condition : Bool) (call : String) : List Code :=
    if condition then [Code.plain call] else []
  durationCall "timeout" b.timeout? ++ durationCall "connect_timeout" b.connectTimeout? ++
    given t.insecure ".danger_accept_invalid_certs(true)" ++ authority ++ proxy ++
    redirectCall t ++ given t.compressed ".gzip(true)"

def client : List Step :=
  let calls := builderCalls b
  if calls.isEmpty then [line (Code.plain ("let client = " ++ clientPath b ++ "Client::new();"))]
  else
    [scope (Code.plain ("let client = " ++ clientPath b ++ "Client::builder()"))
      (calls.map Step.line ++ [line ".build()?;"])]

/-- `("name", "value")` -/
def pair (entry : String × String) : Code :=
  "(" ++ string entry.1 ++ ", " ++ string entry.2 ++ ")"

def pairs (entries : List (String × String)) : Code :=
  "&[" ++ Code.intercalate ", " (entries.map pair) ++ "]"

def fileContents (path : String) : Code :=
  "std::fs::read(" ++ string path ++ ")?"

def uploadStep (multipart : String) (f : FileUpload) : Step :=
  let type : Code := match f.contentType? with
    | some contentType => ".mime_str(" ++ string contentType ++ ")?"
    | none => Code.empty
  line
    (".part(" ++ string f.fieldName ++ (", " ++ multipart ++ "::Part::bytes(") ++
      fileContents f.fileName ++ ").file_name(" ++ string f.fileName ++ ")" ++ type ++ ")")

def fieldStep (multipart : String) : MultipartField → Option Step
  | .text name value => some (line (".text(" ++ string name ++ ", " ++ string value ++ ")"))
  | .file index => (b.upload? index).map (uploadStep multipart)

def jsonStep (v : Json.Value) : Step :=
  let json := Literal.code .json b.unit 0 v
  if b.typedBody then
    lines ("let body: RequestBody = serde_json::from_value(serde_json::json!(" ++ json ++ "))?;")
  else lines ("let body = serde_json::json!(" ++ json ++ ");")

def body : List Step :=
  match b.body? with
  | some (.json v) => [jsonStep b v]
  | some (.multipart fields) =>
      let multipart := clientPath b ++ "multipart"
      [ line (Code.plain ("let form = " ++ multipart ++ "::Form::new()")), indent ] ++
        fields.filterMap (fieldStep b multipart) ++ [terminate ";", dedent]
  | _ => []

def attachment : List Code :=
  match b.body? with
  | some (.json _) => [".json(&body)"]
  | some (.form entries) => [".form(" ++ pairs entries ++ ")"]
  | some (.multipart _) => [".multipart(form)"]
  | some (.raw text) => [".body(" ++ string text ++ ")"]
  | some (.binary text) => [".body(" ++ string text ++ ")"]
  | some (.file path) => [".body(" ++ fileContents path ++ ")"]
  | none => []

/-- Whether the client has a function for the method. -/
def hasOwnFunction : Method → Bool
  | .get | .post | .put | .patch | .delete | .head => true
  | .options | .trace | .connect => false

def methodCall : Code :=
  if hasOwnFunction b.method then "." ++ b.method.lowerVerb ++ "(" ++ string b.url ++ ")"
  else ".request(reqwest::Method::" ++ b.method.verb ++ ", " ++ string b.url ++ ")"

def requestCalls : List Code :=
  let credentials : List Code := match b.basicAuth? with
    | some (user, password) =>
        [".basic_auth(" ++ value user ++ ", Some(" ++ value password ++ "))"]
    | none => []
  [methodCall b] ++ (if b.hasQuery then [".query(" ++ pairs b.query ++ ")"] else []) ++
    (b.headers.map fun (name, f) => ".header(" ++ string name ++ ", " ++ value f ++ ")") ++
    credentials ++ attachment b

def send : List Step :=
  [line "let response = client", indent] ++ (requestCalls b).map Step.line ++
    [ line ".send()",
      if isAsync b then line ".await?;" else terminate "?;",
      dedent,
      blank ]

def statusCheck : List Step :=
  Step.when b.checksStatus
    [ block "if !response.status().is_success() \x7b" "\x7d"
        [line ("return Err(format!(" ++ string "Request failed with status \x7b\x7d" ++
          ", response.status()).into());")],
      blank ]

def decode : Step :=
  let call := if b.typedResponse then "response.json::<ResponseData>()" else "response.text()"
  line (Code.plain ("let data = " ++ call ++ awaited b ++ "?;"))

/-- The keyword in front of functions that await. -/
def asyncKeyword : String := if isAsync b then "async " else ""

def makeRequest : Step :=
  block
    (Code.plain (asyncKeyword b ++ "fn make_request() -> Result<" ++ responseType b ++
      ", Box<dyn std::error::Error>> \x7b"))
    "\x7d"
    (client b ++ body b ++ [blank] ++ send b ++ statusCheck b ++ [decode b, line "Ok(data)"])

def printed : Code :=
  "println!(" ++ string (if b.typedResponse then "\x7b:#?\x7d" else "\x7b\x7d") ++ ", data)"

def mainFunction : List Step :=
  let opening := asyncKeyword b ++ "fn main()"
  let call := "make_request()" ++ awaited b
  Step.when (isAsync b) [line "#[tokio::main]"] ++
    [ if b.guarded then
        block (Code.plain (opening ++ " \x7b")) "\x7d"
          [ block (Code.plain ("match " ++ call ++ " \x7b")) "\x7d"
              [ line ("Ok(data) => " ++ printed b ++ ","),
                block "Err(err) => \x7b" "\x7d"
                  [ line ("eprintln!(" ++ string "Request failed: \x7b\x7d" ++ ", err);"),
                    line "std::process::exit(1);" ] ] ]
      else
        block (Code.plain (opening ++ " -> Result<(), Box<dyn std::error::Error>> \x7b")) "\x7d"
          [ line (Code.plain ("let data = " ++ call ++ "?;")),
            line (printed b ++ ";"),
            line "Ok(())" ] ]

def notes : List String :=
  if b.transport.cert?.isSome || b.transport.key?.isSome then
    ["client certificates need a TLS identity; --cert/--key were dropped"]
  else []

/-- The entry for reqwest in the list of dependencies. -/
def reqwestEntry : String :=
  let features := features b
  if features.isEmpty then "reqwest = \"0.12\""
  else
    "reqwest = \x7b version = \"0.12\", features = [" ++
      ", ".intercalate (features.map fun f => "\"" ++ f ++ "\"") ++ "] \x7d"

def manifestLines : List String :=
  ["Cargo.toml:", reqwestEntry b] ++
    (if isAsync b then ["tokio = \x7b version = \"1\", features = [\"full\"] \x7d"] else []) ++
    (if b.jsonBody?.isSome then ["serde_json = \"1\""] else []) ++
    if declaresTypes b then ["serde = \x7b version = \"1\", features = [\"derive\"] \x7d"] else []

def headComments : List Step :=
  Step.when b.comments
      ([Step.remark "// " b.summary, line (Code.remark "//")] ++
        (manifestLines b).map (Step.remark "// ") ++
        (notes b).map fun note => Step.remark "// " ("Note: " ++ note)) ++
    b.retryLines.map (Step.remark "// ")

def testSteps : List Step :=
  let test (marker opening call : String) : List Step :=
    [ line (Code.plain marker),
      block (Code.plain opening) "\x7d"
        [ line (Code.plain call),
          line ("assert!(result.is_ok(), " ++ string "request failed: \x7b:?\x7d" ++
            ", result.err());") ] ]
  [ line "#[cfg(test)]",
    block "mod tests \x7b" "\x7d"
      ([line "use super::*;", blank] ++
        if isAsync b then
          test "#[tokio::test]" "async fn make_request_returns_body() \x7b"
            "let result = make_request().await;"
        else
          test "#[test]" "fn make_request_returns_body() \x7b" "let result = make_request();") ]

def program : Program :=
  { steps :=
      headComments b ++ [blank] ++ Step.plainLines (imports b) ++ [blank] ++
        b.typeSteps .rust ++ [makeRequest b, blank] ++
        Step.when b.comments [line (Code.remark "// Example usage")] ++ mainFunction b
    imports := imports b
    dependencies := dependencies b
    types? := b.types? .rust
    testSteps? := if b.settings.includeTests then some (testSteps b) else none }

end Rust

end RequestScribe
