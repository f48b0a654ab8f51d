import RequestScribe.Text.Basic

/-!
# Request methods
-/

namespace RequestScribe

inductive Method where
  | get
  | post
  | put
  | patch
  | delete
  | head
  | options
  | trace
  | connect
  deriving DecidableEq, Repr

namespace Method

def all : List Method :=
  [.get, .post, .put, .patch, .delete, .head, .options, .trace, .connect]

def verb : Method → String
  | .get => "GET"
  | .post => "POST"
  | .put => "PUT"
  | .patch => "PATCH"
  | .delete => "DELETE"
  | .head => "HEAD"
  | .options => "OPTIONS"
  | .trace => "TRACE"
  | .connect => "CONNECT"

/-- The verb in lower case, as libraries with one function per verb name it. -/
def lowerVerb (m : Method) : String :=
  Text.lower m.verb

/-- The method with a given verb, in any case. -/
def ofVerb? (s : String) : Option Method :=
  all.find? fun m => m.verb == Text.upper s

end Method

end RequestScribe
