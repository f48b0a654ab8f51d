import RequestScribe.Toml.Quoted
import RequestScribe.Toml.Scalar

/-!
# Reading TOML documents

A document is read statement by statement: headers choose a table, and all
other statements give keys of that table a value.
-/

namespace RequestScribe

namespace Toml

def isSpace (c : Char) : Bool :=
  c == ' ' || c == '\t'

def skipSpace (cs : List Char) : List Char :=
  cs.dropWhile isSpace

/-- What follows a line break. -/
def lineBreak? : List Char → Option (List Char)
  | '\n' :: rest => some rest
  | '\r' :: '\n' :: rest => some rest
  | _ => none

/-- Skip a comment, if there is one. -/
def skipComment : List Char → List Char
  | '#' :: rest => rest.dropWhile Quoted.isAllowed
  | cs => cs

/-- The end of a line or of the document, after space and a comment. -/
def lineEnd? (cs : List Char) : Option (List Char) :=
  match skipComment (skipSpace cs) with
  | [] => some []
  | cs => lineBreak? cs

/-- Skip space, line breaks and comments. -/
def skipLines? (comment : Bool) : List Char → Option (List Char)
  | [] => some []
  | c :: rest =>
      if c = '\n' then skipLines? false rest
      else if Quoted.isReturn c rest.head? then skipLines? comment rest
      else if comment then if Quoted.isAllowed c then skipLines? true rest else none
      else if isSpace c then skipLines? false rest
      else if c = '#' then skipLines? true rest
      else some (c :: rest)

def isKeyCharacter (c : Char) : Bool :=
  Chars.isAlphanumeric c || c == '_' || c == '-'

def simpleKey? (cs : List Char) : Option (String × List Char) :=
  match line? cs with
  | some read => some read
  | none =>
      let (word, rest) := cs.span isKeyCharacter
      if word.isEmpty then none else some (String.ofList word, rest)

/-- Arrays and inline tables nest no deeper than this, and a key has no more parts. -/
def nestingLimit : Nat := 80

/--
A key of at most `parts` parts with dots between them: the path to it and its
last part.
-/
def key? : Nat → List Char → Option ((List String × String) × List Char)
  | 0, _ => none
  | parts + 1, cs =>
      match simpleKey? cs with
      | none => none
      | some (first, rest) =>
          match skipSpace rest with
          | '.' :: more =>
              (key? parts (skipSpace more)).map fun ((path, last), rest) =>
                ((first :: path, last), rest)
          | rest => some (([], first), rest)

/-- Skip what may stand around an equals sign: line breaks only inside an inline table. -/
def skipGap? (inTable : Bool) (cs : List Char) : Option (List Char) :=
  if inTable then skipLines? false cs else some (skipSpace cs)

/-- A key and the equals sign after it. -/
def keyOfBinding? (inTable : Bool) (cs : List Char) :
    Option ((List String × String) × List Char) :=
  match key? nestingLimit cs with
  | none => none
  | some (key, rest) =>
      match skipGap? inTable rest with
      | some ('=' :: rest) => (skipGap? inTable rest).map fun rest => (key, rest)
      | _ => none

mutual

/-- A value in which at most `levels` containers stand inside of one another. -/
def value? : Nat → Nat → List Char → Option (Value × List Char)
  | 0, _, _ => none
  | fuel + 1, levels, cs =>
      match cs, levels with
      | '[' :: _, 0 | '\x7b' :: _, 0 => none
      | '[' :: rest, levels + 1 => items? fuel levels [] rest
      | '\x7b' :: rest, levels + 1 => fields? fuel levels ⟨.inline, []⟩ rest
      | '"' :: _, _ | '\'' :: _, _ => (quoted? cs).map fun (text, rest) => (.text text, rest)
      | _, _ =>
          let (word, rest) := Scalar.word cs
          (Scalar.ofWord? word).map fun v => (v, rest)

/-- The items of an array up to its end; `done` is kept latest first. -/
def items? : Nat → Nat → List Value → List Char → Option (Value × List Char)
  | 0, _, _, _ => none
  | fuel + 1, levels, done, cs =>
      match skipLines? false cs with
      | some (']' :: rest) => some (.array done.reverse, rest)
      | some cs =>
          match value? fuel levels cs with
          | none => none
          | some (v, rest) =>
              match skipLines? false rest with
              | some (',' :: rest) => items? fuel levels (v :: done) rest
              | some (']' :: rest) => some (.array (v :: done).reverse, rest)
              | _ => none
      | none => none

/-- The fields of an inline table up to its end. -/
def fields? : Nat → Nat → Table → List Char → Option (Value × List Char)
  | 0, _, _, _ => none
  | fuel + 1, levels, table, cs =>
      match skipLines? false cs with
      | some ('\x7d' :: rest) => some (table.toValue, rest)
      | some cs =>
          match binding? fuel levels true cs with
          | none => none
          | some (b, rest) =>
              match table.bind? b, skipLines? false rest with
              | some table, some (',' :: rest) => fields? fuel levels table rest
              | some table, some ('\x7d' :: rest) => some (table.toValue, rest)
              | _, _ => none
      | none => none

def binding? : Nat → Nat → Bool → List Char → Option (Binding × List Char)
  | 0, _, _, _ => none
  | fuel + 1, levels, inTable, cs =>
      match keyOfBinding? inTable cs with
      | some ((path, key), rest) =>
          (value? fuel levels rest).map fun (value, rest) => (⟨path, key, value⟩, rest)
      | none => none

end

/-- A value is read in at most this many steps. -/
def steps (cs : List Char) : Nat :=
  3 * cs.length + 3

/-- A document under construction, and the path of the table that statements go to. -/
structure Document where
  root : Table := {}
  path : List String := []
  deriving Repr

namespace Document

def enter? (d : Document) (isItem : Bool) (path : List String) (key : String) :
    Option Document :=
  let opened := Table.change? false (if isItem then Table.openItem? key else Table.openTable? key)
    path d.root
  opened.map fun root => ⟨root, path ++ [key]⟩

def header? (d : Document) (isItem : Bool) (cs : List Char) : Option (Document × List Char) :=
  match key? nestingLimit (skipSpace cs) with
  | some ((path, key), ']' :: rest) =>
      let rest? := if isItem then
          match rest with
          | ']' :: rest => some rest
          | _ => none
        else some rest
      match rest?.bind lineEnd?, d.enter? isItem path key with
      | some rest, some d => some (d, rest)
      | _, _ => none
  | _ => none

def bind? (d : Document) (b : Binding) : Option Document :=
  (Table.change? false (Table.bind? b) d.path d.root).map fun root => { d with root }

def bindingLine? (d : Document) (cs : List Char) : Option (Document × List Char) :=
  match binding? (steps cs) nestingLimit false cs with
  | none => none
  | some (b, rest) =>
      match d.bind? b, lineEnd? rest with
      | some d, some rest => some (d, rest)
      | _, _ => none

/-- One line, or several lines where a value runs over them. -/
def statement? (d : Document) (cs : List Char) : Option (Document × List Char) :=
  match skipSpace cs with
  | '[' :: '[' :: rest => d.header? true rest
  | '[' :: rest => d.header? false rest
  | cs =>
      match lineEnd? cs with
      | some rest => some (d, rest)
      | none => d.bindingLine? cs

/-- Read statements to the end. -/
def run? : Nat → Document → List Char → Option Document
  | _, d, [] => some d
  | 0, _, _ :: _ => none
  | fuel + 1, d, cs =>
      match d.statement? cs with
      | some (d, rest) => run? fuel d rest
      | none => none

end Document

/-- A mark at the beginning that says nothing but how the document is encoded. -/
def dropMark : List Char → List Char
  | '\ufeff' :: rest => rest
  | cs => cs

def read? (text : String) : Option Table :=
  let cs := dropMark text.toList
  (Document.run? cs.length {} cs).map Document.root

end Toml

end RequestScribe
