import RequestScribe.Json.Lexeme
import RequestScribe.Ordered

/-!
# Reading JSON

A machine that takes one character at a time and keeps the open containers on a
stack, so that nesting costs no recursion.  What is built from the pieces is a
parameter: a `Builder` says what a number, a string or a container becomes, and
may refuse it.
-/

namespace RequestScribe

namespace Json

/-- How the parts of a document become values of `α`. -/
structure Builder (α : Type) where
  null : α
  bool : Bool → α
  number : NumberText → Option α
  /-- A string, by its code units. -/
  string : List Nat → Option α
  array : List α → α
  /-- An object, by its keys' code units and its values in order. -/
  object : List (List Nat × α) → Option α

/-- An open container, with what it holds so far, latest first. -/
inductive Frame (α : Type) where
  | array (done : List α)
  /-- `key` belongs to the value that comes next. -/
  | object (done : List (List Nat × α)) (key : List Nat)

/-- What the next character may be. -/
inductive Mode (α : Type) where
  | value
  /-- After `[`: a value or the end of the array. -/
  | arrayStart
  /-- After `{`: a key or the end of the object. -/
  | objectStart
  /-- After a comma in an object. -/
  | key
  | colon
  /-- After a value inside a container. -/
  | after
  /-- Inside a word, with the letters to come. -/
  | word (rest : List Char) (value : α)
  /-- Inside a string, with the characters so far, latest first. -/
  | string (isKey escaped : Bool) (written : List Char)
  /-- Inside a number, with the characters so far, latest first. -/
  | number (written : List Char)
  /-- After the outermost value. -/
  | finished (value : α)

structure Reader (α : Type) where
  stack : List (Frame α) := []
  mode : Mode α := .value

namespace Reader

variable {α : Type}

def isSpace (c : Char) : Bool :=
  c == ' ' || c == '\t' || c == '\n' || c == '\r'

def isNumberCharacter (c : Char) : Bool :=
  Chars.isDigit c || c == '-' || c == '+' || c == '.' || c == 'e' || c == 'E'

/-- Hand a complete value to the innermost open container. -/
def complete (stack : List (Frame α)) (v : α) : Reader α :=
  match stack with
  | [] => ⟨[], .finished v⟩
  | .array done :: outer => ⟨.array (v :: done) :: outer, .after⟩
  | .object done key :: outer => ⟨.object ((key, v) :: done) [] :: outer, .after⟩

/-- Open a container, unless that nests too deeply. -/
def openFrame (limit : Option Nat) (stack : List (Frame α)) (frame : Frame α) (mode : Mode α) :
    Option (Reader α) :=
  match limit with
  | some most => if stack.length < most then some ⟨frame :: stack, mode⟩ else none
  | none => some ⟨frame :: stack, mode⟩

/-- The first character of a value. -/
def start (b : Builder α) (limit : Option Nat) (stack : List (Frame α)) (c : Char) :
    Option (Reader α) :=
  match c with
  | '[' => openFrame limit stack (.array []) .arrayStart
  | '\x7b' => openFrame limit stack (.object [] []) .objectStart
  | '"' => some ⟨stack, .string false false []⟩
  | 'n' => some ⟨stack, .word ['u', 'l', 'l'] b.null⟩
  | 't' => some ⟨stack, .word ['r', 'u', 'e'] (b.bool true)⟩
  | 'f' => some ⟨stack, .word ['a', 'l', 's', 'e'] (b.bool false)⟩
  | _ => if c = '-' ∨ Chars.isDigit c then some ⟨stack, .number [c]⟩ else none

def closeArray (b : Builder α) (stack : List (Frame α)) : Option (Reader α) :=
  match stack with
  | .array done :: outer => some (complete outer (b.array done.reverse))
  | _ => none

def closeObject (b : Builder α) (stack : List (Frame α)) : Option (Reader α) :=
  match stack with
  | .object done _ :: outer => (b.object done.reverse).map (complete outer)
  | _ => none

def follow (b : Builder α) (reader : Reader α) (c : Char) : Option (Reader α) :=
  if isSpace c then some reader
  else
    match reader.stack, c with
    | .array _ :: _, ',' => some ⟨reader.stack, .value⟩
    | .object _ _ :: _, ',' => some ⟨reader.stack, .key⟩
    | _, ']' => closeArray b reader.stack
    | _, '\x7d' => closeObject b reader.stack
    | _, _ => none

def closeString (b : Builder α) (stack : List (Frame α)) (isKey : Bool) (written : List Char) :
    Option (Reader α) :=
  match units? written.reverse with
  | none => none
  | some units =>
      if isKey then
        match stack with
        | .object done _ :: outer => some ⟨.object done units :: outer, .colon⟩
        | _ => none
      else (b.string units).map (complete stack)

def number? (b : Builder α) (written : List Char) : Option α :=
  (numberText? written.reverse).bind b.number

def step (b : Builder α) (limit : Option Nat) (reader : Reader α) (c : Char) :
    Option (Reader α) :=
  let stack := reader.stack
  match reader.mode with
  | .value => if isSpace c then some reader else start b limit stack c
  | .arrayStart =>
      if isSpace c then some reader
      else if c = ']' then closeArray b stack
      else start b limit stack c
  | .objectStart =>
      if isSpace c then some reader
      else if c = '\x7d' then closeObject b stack
      else if c = '"' then some ⟨stack, .string true false []⟩
      else none
  | .key =>
      if isSpace c then some reader
      else if c = '"' then some ⟨stack, .string true false []⟩
      else none
  | .colon =>
      if isSpace c then some reader
      else if c = ':' then some ⟨stack, .value⟩
      else none
  | .after => follow b reader c
  | .word rest v =>
      match rest with
      | [] => none
      | d :: rest =>
          if c = d then
            some (if rest.isEmpty then complete stack v else ⟨stack, .word rest v⟩)
          else none
  | .string isKey escaped written =>
      if c.toNat < 0x20 then none
      else if escaped then some ⟨stack, .string isKey false (c :: written)⟩
      else if c = '"' then closeString b stack isKey written
      else some ⟨stack, .string isKey (c == '\\') (c :: written)⟩
  | .number written =>
      if isNumberCharacter c then some ⟨stack, .number (c :: written)⟩
      else
        match number? b written with
        | some v => follow b (complete stack v) c
        | none => none
  | .finished _ => if isSpace c then some reader else none

def finish (b : Builder α) (reader : Reader α) : Option α :=
  match reader.mode, reader.stack with
  | .finished v, _ => some v
  | .number written, [] => number? b written
  | _, _ => none

/-- Take characters until one is refused. -/
def run (b : Builder α) (limit : Option Nat) (reader : Reader α) : List Char → Option (Reader α)
  | [] => some reader
  | c :: rest =>
      match step b limit reader c with
      | some next => run b limit next rest
      | none => none

end Reader

/-- Read a whole document, with at most `limit` containers inside each other. -/
def read? {α : Type} (b : Builder α) (limit : Option Nat) (text : String) : Option α :=
  (Reader.run b limit {} text.toList).bind (Reader.finish b)

namespace Value

/-- How a document becomes a value: of equal keys, the first place and the last value count. -/
def builder : Builder Value where
  null := .null
  bool := .bool
  number t := t.value?.map .number
  string units := (text? units).map .string
  array := .array
  object fields :=
    (fields.mapM fun field => (text? field.1).map fun key => (key, field.2)).map fun fields =>
      .object (Ordered.ofPairs (· == ·) fields)

/-- Values are nested at most this deeply. -/
def depthLimit : Nat := 127

def read? (text : String) : Option Value :=
  Json.read? builder (some depthLimit) text

end Value

end Json

end RequestScribe
