import RequestScribe.Encoding.Punycode
import RequestScribe.Request.DomainName.Composition
import RequestScribe.Request.DomainName.Form
import RequestScribe.Text.Direction
import RequestScribe.Text.Joining

/-!
# Domain names

Names are compared without regard to case, width and other differences of form,
and their labels are sent in ASCII: as they are, or in Punycode after `xn--`.  A
label with characters beyond ASCII, in whichever way it is given, must be one
that can be told from others by its looks.  In a name with characters written
from right to left, every label keeps to one direction.
-/

namespace RequestScribe

namespace DomainName

/-- A text in the form that names are compared in, if all of it may stand in a name. -/
def fold? (cs : List Char) : Option (List Char) :=
  (cs.mapM form?).map fun forms => Composition.composed forms.flatten

/-- Whether the nearest letter joins as `reaches` asks, marks apart. -/
def nearestJoins (reaches : Joining → Bool) (cs : List Char) : Bool :=
  ((cs.map Joining.of).dropWhile (· == .transparent)).head?.any reaches

/--
Whether a character is no joiner, or one that makes a difference where it
stands: after a virama, or the non-joiner between letters that would join.
The characters before it are given latest first.
-/
def mayStand (before : List Char) (c : Char) (after : List Char) : Bool :=
  let followsVirama := before.head?.any Mark.isVirama
  if c = '\u200d' then followsVirama
  else if c = '\u200c' then
    followsVirama ||
      (nearestJoins Joining.reachesForward before && nearestJoins Joining.reachesBack after)
  else true

/-- Whether all joiners of a label make a difference. -/
def joinersStand (before : List Char) : List Char → Bool
  | [] => true
  | c :: after => mayStand before c after && joinersStand (c :: before) after

/-- Whether a label beyond ASCII begins with no mark and has its joiners in place. -/
def isWellFormed (label : List Char) : Bool :=
  !label.head?.any Mark.isMark && joinersStand [] label

/-- Classes that may stand in labels of both directions. -/
def isDirectionFree : Direction → Bool
  | .europeanNumber | .europeanSeparator | .europeanTerminator | .commonSeparator
  | .nonspacingMark | .boundaryNeutral | .otherNeutral => true
  | _ => false

/-- Classes that a label written from left to right may end in. -/
def endsFromLeft : Direction → Bool
  | .leftToRight | .europeanNumber => true
  | _ => false

/-- Classes that a label written from right to left may end in. -/
def endsFromRight : Direction → Bool
  | .rightToLeft | .arabicLetter | .arabicNumber | .europeanNumber => true
  | _ => false

/-- Whether the characters of a label keep to one direction. -/
def keepsDirection (label : List Char) : Bool :=
  let classes := label.map Direction.of
  let ending? := (classes.reverse.dropWhile (· == .nonspacingMark)).head?
  match classes with
  | [] => true
  | .leftToRight :: _ =>
      classes.all (fun d => d == .leftToRight || isDirectionFree d) && ending?.any endsFromLeft
  | .rightToLeft :: _ | .arabicLetter :: _ =>
      classes.all (fun d => d.isFromRight || isDirectionFree d) && ending?.any endsFromRight &&
        !(classes.contains .europeanNumber && classes.contains .arabicNumber)
  | _ => false

/-- Whether a label has characters that are written from right to left. -/
def hasFromRight (label : List Char) : Bool :=
  label.any fun c => (Direction.of c).isFromRight

structure Label where
  /-- The label as it is sent. -/
  sent : List Char
  /-- The characters that it stands for. -/
  shown : List Char
  deriving DecidableEq, Repr

namespace Label

def punycodeMark : List Char := ['x', 'n', '-', '-']

/-- The length up to which labels beyond ASCII are taken. -/
def lengthLimit : Nat := 1000

/-- The length up to which labels in Punycode are taken, their beginning apart. -/
def writtenLengthLimit : Nat := 2000

/-- A label in Punycode; what it stands for is already as names are compared, and beyond ASCII. -/
def ofPunycode? (written : List Char) : Option Label :=
  if writtenLengthLimit < written.length then none
  else
    match Punycode.decode? written with
    | none => none
    | some shown =>
        if !shown.all Punycode.isAscii && fold? shown == some shown && isWellFormed shown then
          some ⟨punycodeMark ++ written, shown⟩
        else none

/-- A label from its text, which is as names are compared. -/
def ofText? (text : List Char) : Option Label :=
  if punycodeMark.isPrefixOf text then ofPunycode? (text.drop punycodeMark.length)
  else if text.all Punycode.isAscii then some ⟨text, text⟩
  else if text.length ≤ lengthLimit && isWellFormed text then
    some ⟨punycodeMark ++ Punycode.encode text, text⟩
  else none

end Label

def labels? (cs : List Char) : Option (List Label) :=
  (fold? cs).bind fun folded => (folded.splitOn '.').mapM Label.ofText?

/-- Whether labels can stand in one name: they keep to their directions if any is from the right. -/
def areCompatible (labels : List Label) : Bool :=
  !(labels.any fun label => hasFromRight label.shown) ||
    labels.all fun label => keepsDirection label.shown

/-- A name as it is sent, if it is one. -/
def ascii? (cs : List Char) : Option (List Char) :=
  match labels? cs with
  | none => none
  | some labels =>
      if areCompatible labels then some (['.'].intercalate (labels.map (·.sent))) else none

end DomainName

end RequestScribe
