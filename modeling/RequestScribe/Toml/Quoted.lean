import RequestScribe.Text.Chars

/-!
# TOML strings

Basic strings have escapes and literal strings have none; either kind may run
over several lines.  One automaton reads all four.
-/

namespace RequestScribe

namespace Toml

/-- What encloses a string: one quote, or three if it may run over several lines. -/
structure Delimiter where
  quote : Char
  multiline : Bool
  deriving DecidableEq, Repr

/-- Whether the backslash is special. -/
def Delimiter.escapes (d : Delimiter) : Bool :=
  d.quote == '"'

namespace Quoted

inductive State where
  | plain
  | escaped
  /-- Inside a numeric escape: the digits to come and the value so far. -/
  | numeric (left value : Nat)
  /-- After a backslash at the end of a line, before the next visible character. -/
  | folded (broken : Bool)
  /-- After some quotes inside a string over several lines. -/
  | quotes (n : Nat)
  deriving DecidableEq, Repr

/-- Characters that stand for themselves in any string. -/
def isAllowed (c : Char) : Bool :=
  c == '\t' || (0x20 ≤ c.toNat && c.toNat != 0x7F)

def shortEscape? : Char → Option Char
  | 'b' => some '\x08'
  | 't' => some '\t'
  | 'n' => some '\n'
  | 'f' => some '\x0c'
  | 'r' => some '\r'
  | 'e' => some '\x1b'
  | '"' => some '"'
  | '\\' => some '\\'
  | _ => none

/-- The number of digits of a numeric escape. -/
def escapeDigits? : Char → Option Nat
  | 'x' => some 2
  | 'u' => some 4
  | 'U' => some 8
  | _ => none

/-- A carriage return directly before a line feed. -/
def isReturn (c : Char) (next : Option Char) : Bool :=
  c == '\r' && next == some '\n'

/-- An ordinary character; line breaks stay as they are written.  `done` is kept latest first. -/
def plain? (d : Delimiter) (done : List Char) (c : Char) (next : Option Char) :
    Option (State × List Char) :=
  if d.escapes && c == '\\' then some (.escaped, done)
  else if isAllowed c || (d.multiline && (c == '\n' || isReturn c next)) then
    some (.plain, c :: done)
  else none

/-- The character after a backslash. -/
def escape? (d : Delimiter) (done : List Char) (c : Char) (next : Option Char) :
    Option (State × List Char) :=
  match shortEscape? c, escapeDigits? c with
  | some x, _ => some (.plain, x :: done)
  | none, some digits => some (.numeric digits 0, done)
  | none, none =>
      if !d.multiline then none
      else if c == ' ' || c == '\t' || isReturn c next then some (.folded false, done)
      else if c == '\n' then some (.folded true, done)
      else none

/-- A digit of a numeric escape. -/
def digit? (done : List Char) (left value : Nat) (c : Char) : Option (State × List Char) :=
  match Chars.hexValue? c with
  | none => none
  | some digit =>
      let value := value * 16 + digit
      if left ≤ 1 then
        if h : value.isValidChar then some (.plain, Char.ofNatAux value h :: done) else none
      else some (.numeric (left - 1) value, done)

/-- A character between a line's final backslash and the text that goes on. -/
def fold? (d : Delimiter) (done : List Char) (broken : Bool) (c : Char) (next : Option Char) :
    Option (State × List Char) :=
  if c == ' ' || c == '\t' || isReturn c next then some (.folded broken, done)
  else if c == '\n' then some (.folded true, done)
  else if broken then plain? d done c next
  else none

/-- Any character that is not a quote at the surface. -/
def step? (d : Delimiter) (state : State) (done : List Char) (c : Char) (next : Option Char) :
    Option (State × List Char) :=
  match state with
  | .plain => plain? d done c next
  | .escaped => escape? d done c next
  | .numeric left value => digit? done left value c
  | .folded broken => fold? d done broken c next
  | .quotes n => plain? d (List.replicate n d.quote ++ done) c next

def isSurface : State → Bool
  | .plain => true
  | .folded broken => broken
  | .quotes _ => true
  | _ => false

/-- The quotes that have just been read. -/
def State.pending : State → Nat
  | .quotes n => n
  | _ => 0

/-- A string over several lines ends with three quotes; up to two before them belong to it. -/
def closed (d : Delimiter) (done : List Char) (quotes : Nat) : String :=
  String.ofList (List.replicate (quotes - 3) d.quote ++ done).reverse

/-- Read a string after its opening quotes, and what follows it. -/
def run? (d : Delimiter) (state : State) (done : List Char) :
    List Char → Option (String × List Char)
  | [] => if 3 ≤ state.pending then some (closed d done state.pending, []) else none
  | c :: rest =>
      if isSurface state && c == d.quote then
        if !d.multiline then some (String.ofList done.reverse, rest)
        else if state.pending = 4 then some (closed d done 5, rest)
        else run? d (.quotes (state.pending + 1)) done rest
      else if 3 ≤ state.pending then some (closed d done state.pending, c :: rest)
      else
        match step? d state done c rest.head? with
        | some (state, done) => run? d state done rest
        | none => none

/-- A line break directly after three opening quotes does not count. -/
def dropLineBreak : List Char → List Char
  | '\n' :: rest => rest
  | '\r' :: '\n' :: rest => rest
  | cs => cs

end Quoted

/-- Read a string on one line, if there is one. -/
def line? : List Char → Option (String × List Char)
  | '"' :: rest => Quoted.run? ⟨'"', false⟩ .plain [] rest
  | '\'' :: rest => Quoted.run? ⟨'\'', false⟩ .plain [] rest
  | _ => none

def quoted? : List Char → Option (String × List Char)
  | '"' :: '"' :: '"' :: rest => Quoted.run? ⟨'"', true⟩ .plain [] (Quoted.dropLineBreak rest)
  | '\'' :: '\'' :: '\'' :: rest =>
      Quoted.run? ⟨'\'', true⟩ .plain [] (Quoted.dropLineBreak rest)
  | cs => line? cs

end Toml

end RequestScribe
