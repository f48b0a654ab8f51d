import RequestScribe.Decimal.Shortest
import RequestScribe.Json.Value
import RequestScribe.Text.Basic

/-!
# Writing JSON

Strings, numbers and values as text: compactly on one line, or over several
lines with an indent.
-/

namespace RequestScribe

namespace Json

def escapeCharacter (c : Char) : List Char :=
  if c = '"' then ['\\', '"']
  else if c = '\\' then ['\\', '\\']
  else if c = '\n' then ['\\', 'n']
  else if c = '\r' then ['\\', 'r']
  else if c = '\t' then ['\\', 't']
  else if c = '\x08' then ['\\', 'b']
  else if c = '\x0c' then ['\\', 'f']
  else if c.toNat < 0x20 then '\\' :: 'u' :: Chars.lowerHex 4 c.toNat
  else [c]

def quoted (s : String) : String :=
  String.ofList ('"' :: s.toList.flatMap escapeCharacter ++ ['"'])

/-- Floating-point numbers from `10 ^ -5` on and below `10 ^ 16` are written positionally. -/
def isPositional (exponent : Int) : Bool :=
  -5 ≤ exponent && exponent < 16

/-- The exponent of a number in scientific notation always has a sign. -/
def exponentText (e : Int) : List Char :=
  (if e < 0 then '-' else '+') :: Nat.toDigits 10 e.natAbs

/--
A floating-point number: the fewest digits that read back, always with a point
in positional notation.
-/
def floatText (x : Binary64) : String :=
  let d := Decimal.shortest .toEven x
  let ds := d.digits
  let exponent := d.exponent + ds.length - 1
  let body :=
    if isPositional exponent then
      let (whole, fraction) := d.positional
      whole ++ '.' :: (if fraction.isEmpty then ['0'] else fraction)
    else
      let mantissa := match ds with
        | first :: second :: rest => first :: '.' :: second :: rest
        | _ => ds
      mantissa ++ 'e' :: exponentText exponent
  String.ofList (if x.negative then '-' :: body else body)

def integerText (n : Int) : String :=
  String.ofList (if n < 0 then '-' :: Nat.toDigits 10 n.natAbs else Nat.toDigits 10 n.natAbs)

def Number.text : Number → String
  | .integer n => integerText n
  | .float x => floatText x

namespace Value

mutual

/-- A value on one line, without spaces. -/
def compact : Value → String
  | .null => "null"
  | .bool true => "true"
  | .bool false => "false"
  | .number n => n.text
  | .string s => quoted s
  | .array items => "[" ++ ",".intercalate (compactItems [] items) ++ "]"
  | .object fields => "\x7b" ++ ",".intercalate (compactFields [] fields) ++ "\x7d"

/-- Append the texts of values to `done`, which is kept latest first. -/
def compactItems (done : List String) : List Value → List String
  | [] => done.reverse
  | v :: rest => compactItems (compact v :: done) rest

/-- Append the texts of fields to `done`, which is kept latest first. -/
def compactFields (done : List String) : List (String × Value) → List String
  | [] => done.reverse
  | (key, v) :: rest => compactFields ((quoted key ++ ":" ++ compact v) :: done) rest

end

end Value

end Json

end RequestScribe
