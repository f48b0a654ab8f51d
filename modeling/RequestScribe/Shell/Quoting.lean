import RequestScribe.Text.Chars

/-!
# The quoting automaton

Shell quoting as a pure transition function: from the state, the current
character and the one after it to the next state and to what the character
contributes to the word under construction.

* `'single'` keeps everything literally;
* `"double"` lets a backslash escape only the double quote, the backslash, the
  dollar sign and the backtick;
* `$'ansi'` decodes `\n`, `\t`, `\r`, `\0`, `\e`, `\xHH` and `\uHHHH`;
* outside quotes a backslash escapes the next character, and blanks separate.
-/

namespace RequestScribe

namespace Shell

inductive State where
  | unquoted
  /-- After a backslash outside quotes. -/
  | escaped
  | single
  | double
  /-- After a backslash inside double quotes. -/
  | doubleEscaped
  /-- After a dollar sign whose single quote comes next. -/
  | ansiOpening
  | ansi
  /-- After a backslash inside an ANSI-C string. -/
  | ansiEscaped
  /-- Inside `\x` or `\u`, with `left` digits to go, `read` of them read, worth `value`. -/
  | ansiHex (marker : Char) (left read value : Nat)
  deriving DecidableEq, Repr

inductive Action where
  | skip
  | push (c : Char)
  /-- Append a backslash that escaped nothing, and the character after it. -/
  | pushPair (a b : Char)
  /-- A quote opened: the word exists even if it stays empty. -/
  | openQuote
  /-- A blank outside quotes: the word ends. -/
  | split
  /-- Append a character, then look at the same input character again. -/
  | replay (c : Char)
  deriving DecidableEq, Repr

/-- One transition; `next` is the character after `c`. -/
def step (state : State) (c : Char) (next : Option Char) : State × Action :=
  match state with
  | .unquoted =>
      if c = '\\' then (.escaped, .skip)
      else if c = '\'' then (.single, .openQuote)
      else if c = '"' then (.double, .openQuote)
      else if c = '$' ∧ next = some '\'' then (.ansiOpening, .openQuote)
      else if Chars.isBlank c then (.unquoted, .split)
      else (.unquoted, .push c)
  | .escaped => (.unquoted, .push c)
  | .single => if c = '\'' then (.unquoted, .skip) else (.single, .push c)
  | .double =>
      if c = '"' then (.unquoted, .skip)
      else if c = '\\' then (.doubleEscaped, .skip)
      else (.double, .push c)
  | .doubleEscaped =>
      if c = '"' ∨ c = '\\' ∨ c = '$' ∨ c = '\x60' then (.double, .push c)
      else (.double, .pushPair '\\' c)
  | .ansiOpening => (.ansi, .skip)
  | .ansi =>
      if c = '\'' then (.unquoted, .skip)
      else if c = '\\' then (.ansiEscaped, .skip)
      else (.ansi, .push c)
  | .ansiEscaped =>
      match c with
      | 'n' => (.ansi, .push '\n')
      | 't' => (.ansi, .push '\t')
      | 'r' => (.ansi, .push '\r')
      | '0' => (.ansi, .push '\x00')
      | 'e' | 'E' => (.ansi, .push '\x1b')
      | 'x' => (.ansiHex 'x' 2 0 0, .skip)
      | 'u' => (.ansiHex 'u' 4 0 0, .skip)
      | '\\' | '\'' | '"' | '?' => (.ansi, .push c)
      | _ => (.ansi, .pushPair '\\' c)
  | .ansiHex marker left read value =>
      match Chars.hexValue? c with
      | some digit =>
          let total := value * 16 + digit
          if left = 1 then (.ansi, .push (Chars.ofCodePoint total))
          else (.ansiHex marker (left - 1) (read + 1) total, .skip)
      | none =>
          if read = 0 then (.ansi, .pushPair '\\' marker)
          else (.ansi, .replay (Chars.ofCodePoint value))

/--
The transitions that one character takes: a single one, or two when the first
asks to look at the character again.
-/
def steps (state : State) (c : Char) (next : Option Char) : List (State × Action) :=
  match step state c next with
  | (after, .replay d) => [(after, .replay d), step after c next]
  | taken => [taken]

def trace (state : State) : List Char → List (State × Action)
  | [] => []
  | c :: rest =>
      let taken := steps state c rest.head?
      taken ++ trace ((taken.getLast?.map Prod.fst).getD state) rest

end Shell

end RequestScribe
