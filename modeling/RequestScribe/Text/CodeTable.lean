import RequestScribe.Text.Chars

/-!
# Tables of characters

A table is kept as text, in words parted by blanks: code points in hexadecimal
digits, a hyphen between the first and the last of a span.  What a word says of
its characters follows a colon or a slash.
-/

namespace RequestScribe

namespace CodeTable

/-- The number that hexadecimal digits write. -/
def number (digits : List Char) : Nat :=
  digits.foldl (fun n c => 16 * n + (Chars.hexValue? c).getD 0) 0

/-- A word in two at the first `sep`, if it has one. -/
def halves (sep : Char) (word : List Char) : List Char × List Char :=
  (Chars.cut? sep word).getD (word, [])

/-- The characters from `first` to `last`. -/
structure Span where
  first : Nat
  last : Nat
  deriving DecidableEq, Repr

def Span.contains (s : Span) (c : Char) : Bool :=
  s.first ≤ c.toNat && c.toNat ≤ s.last

/-- A span as `A0-AF`, or a single character as `A0`. -/
def Span.ofWord (word : List Char) : Span :=
  let (first, last) := halves '-' word
  ⟨number first, number (if last.isEmpty then first else last)⟩

def spans (table : String) : List Span :=
  (Chars.words table.toList).map Span.ofWord

/-- Whether a character lies in one of the spans. -/
def contains (table : List Span) (c : Char) : Bool :=
  table.any (·.contains c)

/-- What a table says of a character: the value of the first group of spans that it lies in. -/
def lookup? {α : Type} (groups : List (α × List Span)) (c : Char) : Option α :=
  (groups.find? fun group => contains group.2 c).map (·.1)

/-- Every `step`-th character of a span stands for one at the same distance from `target`. -/
structure Shift where
  span : Span
  step : Nat
  target : Nat
  deriving DecidableEq, Repr

/-- A shift as `C0-D6:E0` when all characters have a form, `100-12E/101` when every second has. -/
def Shift.ofWord (word : List Char) : Shift :=
  let step := if word.contains '/' then 2 else 1
  let (span, target) := halves (if step = 2 then '/' else ':') word
  ⟨Span.ofWord span, step, number target⟩

def Shift.form? (s : Shift) (c : Char) : Option Char :=
  let distance := c.toNat - s.span.first
  if s.span.contains c && distance % s.step == 0 then
    some (Chars.ofCodePoint (s.target + distance))
  else none

def shifts (table : String) : List Shift :=
  (Chars.words table.toList).map Shift.ofWord

/-- Characters from `first` on, one after the other, each with a form of its own. -/
structure Row where
  first : Nat
  forms : List (List Char)
  deriving DecidableEq, Repr

/-- A row as `BC:31.2044.34,31.2044.32`, a comma between two forms. -/
def Row.ofWord (word : List Char) : Row :=
  let (first, forms) := halves ':' word
  { first := number first
    forms := (forms.splitOn ',').map fun form =>
      (form.splitOn '.').map fun digits => Chars.ofCodePoint (number digits) }

def Row.form? (r : Row) (c : Char) : Option (List Char) :=
  if r.first ≤ c.toNat then r.forms[c.toNat - r.first]? else none

/-- The character of a row that has a given form. -/
def Row.character? (r : Row) (form : List Char) : Option Char :=
  (r.forms.findIdx? (· == form)).map fun index => Chars.ofCodePoint (r.first + index)

def rows (table : String) : List Row :=
  (Chars.words table.toList).map Row.ofWord

end CodeTable

end RequestScribe
