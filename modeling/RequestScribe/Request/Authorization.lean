import RequestScribe.Encoding.Base64
import RequestScribe.Text.Basic
import RequestScribe.Text.Utf8

/-!
# Authorization

What a request shows to be let in, and how an Authorization header is read.
-/

namespace RequestScribe

inductive Authorization where
  | basic (username password : String)
  | bearer (token : String)
  | apiKey (scheme key : String)
  | custom (scheme credentials : String)
  deriving DecidableEq, Repr

namespace Authorization

def kind : Authorization → String
  | .basic .. => "basic"
  | .bearer .. => "bearer"
  | .apiKey .. => "apikey"
  | .custom .. => "custom"

/-- User and password from the Base64 form of `user:password`. -/
def decodeBasic? (encoded : String) : Option (String × String) :=
  (Base64.decode? encoded).bind fun bytes =>
    (Utf8.decode? bytes).bind fun text =>
      (Chars.cut? ':' text).map fun (user, password) =>
        (String.ofList user, String.ofList password)

/-- The credentials that follow a scheme. -/
def ofScheme (scheme rest : String) : Authorization :=
  let word := Text.lower scheme
  if word = "bearer" then .bearer rest
  else if word = "basic" then
    match decodeBasic? rest with
    | some (username, password) => .basic username password
    | none => .custom scheme rest
  else if word = "apikey" ∨ word = "api-key" ∨ word = "token" then .apiKey scheme rest
  else .custom scheme rest

/-- Read the value of an Authorization header; a blank one says nothing. -/
def ofHeader? (value : String) : Option Authorization :=
  let value := Text.trim value
  if value.isEmpty then none
  else
    match Text.cutWhere? Chars.isBlank value with
    | none => some (.custom "" value)
    | some (scheme, rest) => some (ofScheme scheme (Text.trim rest))

/-- User and password separated by the first colon; without one the password is empty. -/
def ofUser (user : String) : Authorization :=
  match Text.cut? ':' user with
  | some (name, password) => .basic name password
  | none => .basic user ""

end Authorization

end RequestScribe
