import RequestScribe.Text.Chars

/-!
# Text

The operations of `RequestScribe.Chars` on strings.
-/

namespace RequestScribe

namespace Text

def trimStart (s : String) : String :=
  String.ofList (Chars.trimStart s.toList)

def trimEnd (s : String) : String :=
  String.ofList (Chars.trimEnd s.toList)

def trim (s : String) : String :=
  String.ofList (Chars.trim s.toList)

def isBlank (s : String) : Bool :=
  s.toList.all Chars.isBlank

def cut? (sep : Char) (s : String) : Option (String × String) :=
  (Chars.cut? sep s.toList).map fun (before, after) => (String.ofList before, String.ofList after)

def cutWhere? (p : Char → Bool) (s : String) : Option (String × String) :=
  (Chars.cutWhere? p s.toList).map fun (before, after) =>
    (String.ofList before, String.ofList after)

/-- The pieces between the occurrences of `sep`. -/
def splitOn (sep : Char) (s : String) : List String :=
  (s.toList.splitOn sep).map String.ofList

def after? (lead s : String) : Option String :=
  (List.isPrefixOf? lead.toList s.toList).map String.ofList

def before? (tail s : String) : Option String :=
  (List.isSuffixOf? tail.toList s.toList).map String.ofList

def startsWith (lead s : String) : Bool :=
  lead.toList.isPrefixOf s.toList

def endsWith (tail s : String) : Bool :=
  tail.toList.isSuffixOf s.toList

def contains (part s : String) : Bool :=
  Chars.hasPart part.toList s.toList

def hasChar (c : Char) (s : String) : Bool :=
  s.toList.contains c

def lines (s : String) : List String :=
  (Chars.lines s.toList).map String.ofList

def words (s : String) : List String :=
  (Chars.words s.toList).map String.ofList

/-- Lower case within ASCII; other characters stay. -/
def lower (s : String) : String :=
  String.ofList (Chars.lower s.toList)

/-- Upper case within ASCII; other characters stay. -/
def upper (s : String) : String :=
  String.ofList (Chars.upper s.toList)

/-- Equality up to the case of ASCII letters. -/
def sameIgnoringCase (a b : String) : Bool :=
  lower a == lower b

def replaceChar (c : Char) (replacement : String) (s : String) : String :=
  String.ofList (s.toList.flatMap fun d => if d = c then replacement.toList else [d])

def times (n : Nat) (s : String) : String :=
  String.join (List.replicate n s)

end Text

end RequestScribe
