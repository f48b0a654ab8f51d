import RequestScribe.Command.Flag
import RequestScribe.Text.Basic

/-!
# The items of a command line

The words after the program's name are read as items: complete options,
unknown options and other words.  An option that takes an argument and stands
last without one is no item.
-/

namespace RequestScribe

namespace Command

structure Cursor where
  rest : List String
  position : Nat := 0
  deriving DecidableEq, Repr

def Cursor.next (cursor : Cursor) : Option String × Cursor :=
  match cursor.rest with
  | [] => (none, cursor)
  | word :: rest => (some word, ⟨rest, cursor.position + 1⟩)

inductive Item where
  /-- An option with its argument, which is empty where none is taken. -/
  | option (flag : Flag) (value : String)
  | unknownLong (name : String)
  | unknownLetter (letter : Char)
  /-- A word that is no option. -/
  | operand (word : String)
  deriving DecidableEq, Repr

/-- Items that one word makes, and an option of it that still waits for its argument. -/
structure Reading where
  items : List Item
  waiting? : Option Flag := none
  deriving DecidableEq, Repr

namespace Reading

/-- A long option, given without its dashes, perhaps with `=` and an argument. -/
def ofLong (spec : String) : Reading :=
  let (name, inline?) := match Text.cut? '=' spec with
    | some (name, value) => (name, some value)
    | none => (spec, none)
  match Flag.ofLongName? name with
  | none => ⟨[.unknownLong name], none⟩
  | some flag =>
      if flag.takesArgument then
        match inline? with
        | some value => ⟨[.option flag value], none⟩
        | none => ⟨[], some flag⟩
      else ⟨[.option flag ""], none⟩

/--
A cluster of letters.  The first one that takes an argument takes the rest of
the cluster; the first unknown one ends it.
-/
def ofLetters : List Char → Reading
  | [] => ⟨[], none⟩
  | c :: rest =>
      match Flag.ofLetter? c with
      | none => ⟨[.unknownLetter c], none⟩
      | some flag =>
          if flag.takesArgument then
            if rest.isEmpty then ⟨[], some flag⟩
            else ⟨[.option flag (String.ofList rest)], none⟩
          else
            let more := ofLetters rest
            ⟨.option flag "" :: more.items, more.waiting?⟩

/-- One word where options are still recognized. -/
def ofWord (word : String) : Reading :=
  match word.toList with
  | '-' :: '-' :: name => ofLong (String.ofList name)
  | '-' :: c :: letters => ofLetters (c :: letters)
  | _ => ⟨[.operand word], none⟩

end Reading

namespace Item

/-- The items of a list of words, appended to `done`, which is kept latest first. -/
def readOnto (done : List Item) : List String → List Item
  | [] => done.reverse
  | word :: rest =>
      if word = "--" then done.reverse ++ rest.map .operand
      else
        let reading := Reading.ofWord word
        let done := reading.items.reverse ++ done
        match reading.waiting?, rest with
        | some flag, value :: rest => readOnto (.option flag value :: done) rest
        | _, rest => readOnto done rest

/-- The items of a list of words; after `--` every word is an operand. -/
def ofWords (words : List String) : List Item :=
  readOnto [] words

end Item

end Command

end RequestScribe
