import RequestScribe.Program.Fragment
import RequestScribe.Request.Basic

/-!
# Headers and secrets

Which headers a program sends, and which values it reads from environment
variables: credentials and every header whose name speaks of a key or a token.
-/

namespace RequestScribe

/-- What a program sends besides address and body, and the secrets taken out of it. -/
structure Extraction where
  headers : List (String × Fragment) := []
  /-- User and password, where the library has a way of its own for them. -/
  basicAuth? : Option (Fragment × Fragment) := none
  envVars : EnvVars := []
  deriving DecidableEq, Repr

namespace Extraction

def bearerVariable : String := "BEARER_TOKEN"

def apiKeyVariable : String := "API_KEY"

def usernameVariable : String := "BASIC_AUTH_USERNAME"

def passwordVariable : String := "BASIC_AUTH_PASSWORD"

/-- Headers other than Authorization whose name speaks of a key or a token. -/
def isSecretHeader (name : String) : Bool :=
  let name := Text.lower name
  name != "authorization" && (Text.contains "key" name || Text.contains "token" name)

/-- The value of an Authorization header whose scheme is not known. -/
def customHeader (r : Request) (scheme credentials : String) : String :=
  (r.header? "Authorization").getD (Text.trim (scheme ++ " " ++ credentials))

/-- Credentials: a pair for basic authentication, or the value of a header. -/
structure Credentials where
  basicAuth? : Option (Fragment × Fragment) := none
  header? : Option Fragment := none
  envVars : EnvVars := []
  deriving DecidableEq, Repr

def credentials (extract : Bool) (r : Request) : Credentials :=
  match r.authorization? with
  | some (.basic username password) =>
      let (user, vars) := EnvVars.secret extract [] usernameVariable username ""
      let (pass, vars) := EnvVars.secret extract vars passwordVariable password ""
      { basicAuth? := some (user, pass), envVars := vars }
  | some (.bearer token) =>
      let (value, vars) := EnvVars.secret extract [] bearerVariable token "Bearer "
      { header? := some value, envVars := vars }
  | some (.apiKey scheme key) =>
      let (value, vars) := EnvVars.secret extract [] apiKeyVariable key (scheme ++ " ")
      { header? := some value, envVars := vars }
  | some (.custom scheme credentials) =>
      { header? := some (.literal (customHeader r scheme credentials)) }
  | none => {}

/-- Headers taken over so far; `pending?` is an Authorization value that waits for its place. -/
structure Pass where
  headers : List (String × Fragment) := []
  pending? : Option Fragment := none
  envVars : EnvVars := []
  deriving DecidableEq, Repr

def Pass.add (p : Pass) (name : String) (value : Fragment) : Pass :=
  { p with headers := p.headers ++ [(name, value)] }

/-- Whether a header is left to whoever sends the request. -/
def isLeftOut (r : Request) (lowerName : String) : Bool :=
  lowerName == "content-length" || (lowerName == "content-type" && r.isMultipart)

/-- Take over one header. -/
def Pass.step (extract : Bool) (r : Request) (p : Pass) (header : String × String) : Pass :=
  let (name, value) := header
  let lowerName := Text.lower name
  if isLeftOut r lowerName then p
  else if lowerName = "authorization" then
    if r.authorization?.isNone then p.add name (.literal value)
    else
      match p.pending? with
      | some fragment => { p.add name fragment with pending? := none }
      | none => p
  else if isSecretHeader name then
    let (fragment, vars) := EnvVars.secret extract p.envVars (envName name) value ""
    { p.add name fragment with envVars := vars }
  else p.add name (.literal value)

def cookieValue (cookies : List (String × String)) : String :=
  "; ".intercalate (cookies.map fun (name, value) => name ++ "=" ++ value)

/-- An Authorization value that found no place, and the cookies if no header gives them. -/
def closing (r : Request) (p : Pass) : List (String × Fragment) :=
  (p.pending?.map fun fragment => ("Authorization", fragment)).toList ++
    if r.cookies.isEmpty || r.hasHeader "Cookie" then []
    else [("Cookie", Fragment.literal (cookieValue r.cookies))]

def ofRequest (extract : Bool) (r : Request) : Extraction :=
  let c := credentials extract r
  let p := r.headers.foldl (Pass.step extract r) { pending? := c.header?, envVars := c.envVars }
  { headers := p.headers ++ closing r p, basicAuth? := c.basicAuth?, envVars := p.envVars }

end Extraction

end RequestScribe
