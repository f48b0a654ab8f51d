import RequestScribe.Code.Literal
import RequestScribe.Program.Program

/-!
# PHP programs

Programs that send their request with the curl extension.
-/

namespace RequestScribe

namespace Php

open Step

variable (b : Brief)

def string (s : String) : Code :=
  Code.quoted (StringLiteral.singlePlain s)

def envLookup (var : String) : Code :=
  "getenv(" ++ Code.quoted ("'" ++ var ++ "'") ++ ")"

def fragments : FragmentSyntax where
  string := string
  env := envLookup
  joined lead var := string lead ++ " . " ++ envLookup var

def value (f : Fragment) : Code := fragments.code f

/-- `'name' => 'value',` -/
def entry (pair : String × String) : Step :=
  line (string pair.1 ++ " => " ++ string pair.2 ++ ",")

def address : List Step :=
  if b.hasQuery then
    [block ("$url = " ++ string (b.url ++ "?") ++ " . http_build_query([") "]);"
      (b.query.map entry)]
  else [line ("$url = " ++ string b.url ++ ";")]

def headers : List Step :=
  Step.when (!b.headers.isEmpty)
    [block "$headers = [" "];"
      (b.headers.map fun (name, f) => line (value (f.after (name ++ ": ")) ++ ","))]

/-- An array cannot hold two values under one key, so repeated keys are encoded at once. -/
def form (pairs : List (String × String)) : Step :=
  let keys := pairs.map Prod.fst
  if keys.eraseDups.length = keys.length then
    block "$payload = http_build_query([" "]);" (pairs.map entry)
  else line ("$payload = " ++ string (Form.encode pairs) ++ ";")

def uploadStep (f : FileUpload) : Step :=
  line
    (string f.fieldName ++ " => new CURLFile(" ++ string f.fileName ++ ", " ++
      string (f.contentType?.getD "") ++ ", " ++ string f.fileName ++ "),")

def fieldStep : MultipartField → Option Step
  | .text name value => some (entry (name, value))
  | .file index => (b.upload? index).map uploadStep

def body : List Step :=
  match b.body? with
  | some (.json v) =>
      [lines ("$payload = json_encode(" ++ Literal.code .php b.unit 0 v ++ ");")]
  | some (.form pairs) => [form pairs]
  | some (.multipart fields) => [block "$payload = [" "];" (fields.filterMap (fieldStep b))]
  | some (.raw text) => [line ("$payload = " ++ string text ++ ";")]
  | some (.binary text) => [line ("$payload = " ++ string text ++ ";")]
  | some (.file path) => [line ("$payload = file_get_contents(" ++ string path ++ ");")]
  | none => []

/-- A body turns the request into a POST, so GET is said where there is one. -/
def methodOption : List Code :=
  match b.method with
  | .get => if b.body?.isSome then ["CURLOPT_CUSTOMREQUEST => " ++ string "GET"] else []
  | .head => ["CURLOPT_NOBODY => true"]
  | method => ["CURLOPT_CUSTOMREQUEST => " ++ string method.verb]

def httpVersion : HttpVersion → String
  | .v1_0 => "CURL_HTTP_VERSION_1_0"
  | .v1_1 => "CURL_HTTP_VERSION_1_1"
  | .v2 => "CURL_HTTP_VERSION_2_0"
  | .v3 => "CURL_HTTP_VERSION_3"

def option (name : String) (value? : Option Code) : List Code :=
  match value? with
  | some value => [name ++ " => " ++ value]
  | none => []

def number (n : Nat) : Code := Code.plain (toString n)

/-- The options of the transfer. -/
def transferOptions : List Code :=
  let t := b.transport
  let given (condition : Bool) (settings : List String) : List Code :=
    if condition then settings.map Code.plain else []
  let credentials := b.basicAuth?.map fun (user, password) =>
    value user ++ " . " ++ string ":" ++ " . " ++ value password
  [Code.plain "CURLOPT_RETURNTRANSFER => true"] ++ methodOption b ++
    given (!b.headers.isEmpty) ["CURLOPT_HTTPHEADER => $headers"] ++
    given b.body?.isSome ["CURLOPT_POSTFIELDS => $payload"] ++
    option "CURLOPT_USERPWD" credentials ++
    given t.followRedirects ["CURLOPT_FOLLOWLOCATION => true"] ++
    option "CURLOPT_MAXREDIRS" (t.maxRedirects?.map number) ++
    option "CURLOPT_TIMEOUT_MS" (b.timeout?.map number) ++
    option "CURLOPT_CONNECTTIMEOUT_MS" (b.connectTimeout?.map number) ++
    given t.insecure ["CURLOPT_SSL_VERIFYPEER => false", "CURLOPT_SSL_VERIFYHOST => 0"] ++
    option "CURLOPT_PROXY" (t.proxy?.map string) ++
    option "CURLOPT_ENCODING" (if t.compressed then some (string "") else none) ++
    option "CURLOPT_SSLCERT" (t.cert?.map string) ++
    option "CURLOPT_SSLKEY" (t.key?.map string) ++
    option "CURLOPT_CAINFO" (t.cacert?.map string) ++
    option "CURLOPT_HTTP_VERSION" (t.httpVersion?.map fun v => Code.plain (httpVersion v))

def guard : List Step :=
  Step.when b.guarded
    [block "if ($response === false) \x7b" "\x7d"
      [ line "$error = curl_error($ch);",
        line "curl_close($ch);",
        line ("error_log(" ++ string "Request failed: " ++ " . $error);"),
        line ("throw new RuntimeException(" ++ string "Request failed: " ++ " . $error);") ]]

def statusCheck : List Step :=
  Step.when b.checksStatus
    [block "if ($status < 200 || $status >= 300) \x7b" "\x7d"
      [line ("throw new RuntimeException(" ++ string "Request failed with status " ++
        " . $status);")]]

def makeRequest : List Step :=
  [ line "function makeRequest()",
    block "\x7b" "\x7d"
      (address b ++ headers b ++ body b ++
        [ blank,
          line "$ch = curl_init($url);",
          block "curl_setopt_array($ch, [" "]);"
            ((transferOptions b).map fun option => line (option ++ ",")),
          blank,
          line "$response = curl_exec($ch);" ] ++
        guard b ++
        Step.when b.checksStatus [line "$status = curl_getinfo($ch, CURLINFO_HTTP_CODE);"] ++
        [line "curl_close($ch);"] ++ statusCheck b ++
        [ blank,
          line (Code.plain (if b.expectsJson then "return json_decode($response, true);" else
            "return $response;")) ]) ]

def usage : List Step :=
  Step.when b.comments
    ([blank, line (Code.remark "// Example usage")] ++
      if b.guarded then
        [ block "try \x7b" "\x7d" [line "var_dump(makeRequest());"],
          block "catch (RuntimeException $e) \x7b" "\x7d"
            [ line "fwrite(STDERR, $e->getMessage() . PHP_EOL);",
              line "exit(1);" ] ]
      else [line "var_dump(makeRequest());"])

def notes : List String :=
  if b.settings.awaiting then []
  else ["ext-curl calls are blocking; the non-blocking style is not available"]

def program : Program :=
  { steps :=
      [line "<?php", blank] ++ b.headComments "// " (notes b) ++ [blank] ++ makeRequest b ++
        usage b
    dependencies := ["ext-curl"] }

end Php

end RequestScribe
