/-!
# Program text in pieces

Program text is kept as a list of pieces, each of which says whether it stands
outside or inside of a string literal or in a comment.  The text itself is the
pieces one after the other.
-/

namespace RequestScribe

inductive Piece where
  /-- Outside of literals and comments. -/
  | plain (text : String)
  /-- A string literal as it is written, with its quotes. -/
  | quoted (written : String)
  /-- A comment as it is written, with its marker. -/
  | remark (written : String)
  deriving DecidableEq, Repr

def Piece.text : Piece → String
  | .plain text => text
  | .quoted written => written
  | .remark written => written

structure Code where
  pieces : List Piece
  deriving DecidableEq, Repr

namespace Code

def empty : Code := ⟨[]⟩

def plain (text : String) : Code := ⟨[.plain text]⟩

def quoted (written : String) : Code := ⟨[.quoted written]⟩

def remark (written : String) : Code := ⟨[.remark written]⟩

instance : Coe String Code := ⟨plain⟩

instance : Append Code := ⟨fun a b => ⟨a.pieces ++ b.pieces⟩⟩

def text (c : Code) : String :=
  String.join (c.pieces.map Piece.text)

def join (parts : List Code) : Code :=
  ⟨parts.flatMap pieces⟩

def intercalate (separator : Code) (parts : List Code) : Code :=
  join (parts.intersperse separator)

end Code

end RequestScribe
