/-!
# Targets

The languages in which programs are written, and the library that each program
uses to send its request.
-/

namespace RequestScribe

inductive Language where
  | javaScript
  | typeScript
  | python
  | go
  | rust
  | php
  | ruby
  deriving DecidableEq, Repr

namespace Language

def all : List Language :=
  [.javaScript, .typeScript, .python, .go, .rust, .php, .ruby]

def id : Language → String
  | .javaScript => "javascript"
  | .typeScript => "typescript"
  | .python => "python"
  | .go => "go"
  | .rust => "rust"
  | .php => "php"
  | .ruby => "ruby"

def displayName : Language → String
  | .javaScript => "JavaScript"
  | .typeScript => "TypeScript"
  | .python => "Python"
  | .go => "Go"
  | .rust => "Rust"
  | .php => "PHP"
  | .ruby => "Ruby"

def extension : Language → String
  | .javaScript => "js"
  | .typeScript => "ts"
  | .python => "py"
  | .go => "go"
  | .rust => "rs"
  | .php => "php"
  | .ruby => "rb"

/-- The name of the program's file without its extension. -/
def fileStem : Language → String
  | .go => "main"
  | .rust => "main"
  | _ => "request"

def fileName (l : Language) : String :=
  l.fileStem ++ "." ++ l.extension

def frameworks : Language → List String
  | .javaScript => ["fetch", "axios"]
  | .typeScript => ["fetch", "axios"]
  | .python => ["requests", "httpx"]
  | .go => ["net/http"]
  | .rust => ["reqwest"]
  | .php => ["curl"]
  | .ruby => ["net/http"]

/-- The command that installs dependencies, where there is one. -/
def install? : Language → Option String
  | .javaScript => some "npm install"
  | .typeScript => some "npm install"
  | .python => some "pip install"
  | .rust => some "cargo add"
  | _ => none

def ofId? (s : String) : Option Language :=
  all.find? fun l => l.id == s

end Language

inductive ScriptClient where
  | fetch
  | axios
  deriving DecidableEq, Repr

inductive PythonClient where
  | requests
  | httpx
  deriving DecidableEq, Repr

/-- A language together with the library that sends the request. -/
inductive Target where
  | javaScript (client : ScriptClient)
  | typeScript (client : ScriptClient)
  | python (client : PythonClient)
  | go
  | rust
  | php
  | ruby
  deriving DecidableEq, Repr

namespace Target

def all : List Target :=
  [ .javaScript .fetch, .javaScript .axios, .typeScript .fetch, .typeScript .axios,
    .python .requests, .python .httpx, .go, .rust, .php, .ruby ]

def language : Target → Language
  | .javaScript _ => .javaScript
  | .typeScript _ => .typeScript
  | .python _ => .python
  | .go => .go
  | .rust => .rust
  | .php => .php
  | .ruby => .ruby

def framework : Target → String
  | .javaScript .fetch => "fetch"
  | .javaScript .axios => "axios"
  | .typeScript .fetch => "fetch"
  | .typeScript .axios => "axios"
  | .python .requests => "requests"
  | .python .httpx => "httpx"
  | .go => "net/http"
  | .rust => "reqwest"
  | .php => "curl"
  | .ruby => "net/http"

def find? (language framework : String) : Option Target :=
  all.find? fun t => t.language.id == language && t.framework == framework

end Target

end RequestScribe
