import RequestScribe.Decimal.Numeral
import RequestScribe.Json.Value

/-!
# JSON strings and numbers as they are written

What stands between the quotes of a string is decoded in two steps: escapes
become code units, and surrogate pairs among the code units become characters.
A reader that skips a string needs the first step only.

A number that does not stay an integer is the product of its first digits, as many
as make up a natural number of 64 bits, and a power of ten.  Both factors and the
product are rounded, so this is not always the binary number nearest to what is
written, and the greatest numbers can be found out of range.
-/

namespace RequestScribe

namespace Json

def shortEscape? : Char → Option Char
  | '"' => some '"'
  | '\\' => some '\\'
  | '/' => some '/'
  | 'b' => some '\x08'
  | 'f' => some '\x0c'
  | 'n' => some '\n'
  | 'r' => some '\r'
  | 't' => some '\t'
  | _ => none

def hex4? (a b c d : Char) : Option Nat :=
  match Chars.hexValue? a, Chars.hexValue? b, Chars.hexValue? c, Chars.hexValue? d with
  | some a, some b, some c, some d => some (((a * 16 + b) * 16 + c) * 16 + d)
  | _, _, _, _ => none

/-- Append the code units of a written string to `done`, which is kept latest first. -/
def unitsOnto? (done : List Nat) : List Char → Option (List Nat)
  | [] => some done.reverse
  | c :: rest =>
      if c = '\\' then
        match rest with
        | [] => none
        | 'u' :: a :: b :: c :: d :: tail =>
            match hex4? a b c d with
            | some n => unitsOnto? (n :: done) tail
            | none => none
        | e :: tail =>
            match shortEscape? e with
            | some x => unitsOnto? (x.toNat :: done) tail
            | none => none
      else unitsOnto? (c.toNat :: done) rest

/-- The code units of a written string: one per escape and one per other character. -/
def units? (written : List Char) : Option (List Nat) :=
  unitsOnto? [] written

/-- Append the characters of some code units to `done`, which is kept latest first. -/
def charactersOnto? (done : List Char) : List Nat → Option (List Char)
  | [] => some done.reverse
  | n :: rest =>
      if h : n.isValidChar then charactersOnto? (Char.ofNatAux n h :: done) rest
      else
        match rest with
        | [] => none
        | low :: tail =>
            if 0xD800 ≤ n ∧ n ≤ 0xDBFF ∧ 0xDC00 ≤ low ∧ low ≤ 0xDFFF then
              let point := 0x10000 + (n - 0xD800) * 0x400 + (low - 0xDC00)
              charactersOnto? (Chars.ofCodePoint point :: done) tail
            else none

/-- The text of some code units; a surrogate without its partner has none. -/
def text? (units : List Nat) : Option String :=
  (charactersOnto? [] units).map String.ofList

/-- A number as JSON writes it; `isInteger` if it has neither point nor exponent. -/
structure NumberText where
  numeral : Numeral
  isInteger : Bool
  deriving DecidableEq, Repr

def fraction? (cs : List Char) : Option (Option (List Char) × List Char) :=
  match cs with
  | '.' :: after =>
      let (digits, rest) := after.span Chars.isDigit
      if digits.isEmpty then none else some (some digits, rest)
  | _ => some (none, cs)

/-- Read a number: no superfluous zero in front, and digits on both sides of a point. -/
def numberText? (cs : List Char) : Option NumberText :=
  let (negative, body) := match cs with
    | '-' :: rest => (true, rest)
    | _ => (false, cs)
  let (whole, rest) := body.span Chars.isDigit
  if whole.isEmpty || (whole.length > 1 && whole.head? == some '0') then none
  else
    match fraction? rest with
    | none => none
    | some (fraction, rest) =>
        (Numeral.exponent? rest).map fun exponent =>
          { numeral := { negative, whole, fraction := fraction.getD [], exponent }
            isInteger := fraction.isNone && rest.isEmpty }

/-- The greatest integer below which natural numbers stay integers: `2 ^ 64`. -/
def naturalBound : Nat := Nat.pow 2 64

/-- Negative integers down to `-2 ^ 63` stay integers. -/
def negativeBound : Nat := Nat.pow 2 63

/-- No integer with more digits than this stays an integer. -/
def integerDigits : Nat := 20

/-- The integer that a numeral without point and exponent denotes, if it stays an integer. -/
def integer? (n : Numeral) : Option Int :=
  if integerDigits < n.whole.length then none
  else
    let value := Chars.natValue n.whole
    if n.negative then
      if 0 < value ∧ value ≤ negativeBound then some (-(value : Int)) else none
    else if value < naturalBound then some value
    else none

/-- Continue a significand with the digits that leave it below the bound; the others are left. -/
def significand (n : Nat) : List Char → Nat × List Char
  | [] => (n, [])
  | c :: rest =>
      let next := n * 10 + (c.toNat - '0'.toNat)
      if next < naturalBound then significand next rest else (n, c :: rest)

/-- The greatest power of ten that is a binary number has this exponent. -/
def greatestPower : Nat := 308

def powerOfTen? (e : Nat) : Option Binary64 :=
  Binary64.ofRatio? false (Nat.pow 10 e) 1

/-- Divide by the greatest power of ten so often, or until nothing is left. -/
def lower? (x : Binary64) : Nat → Option Binary64
  | 0 => some x
  | n + 1 =>
      if x.mantissa = 0 then some x
      else do
        let power ← powerOfTen? greatestPower
        let y ← x.over? power
        lower? y n

/-- A number times a power of ten. -/
def scale? (x : Binary64) : Int → Option Binary64
  | .ofNat e =>
      if e ≤ greatestPower then (powerOfTen? e).bind x.times?
      else if x.mantissa = 0 then some x
      else none
  | .negSucc e => do
      let y ← lower? x (e / greatestPower)
      let power ← powerOfTen? (e % greatestPower + 1)
      y.over? power

/--
The number that a numeral is read as.  Digits of the whole part that do not fit into
the significand count for the exponent, and the fraction is tried all the same.
-/
def float? (t : Numeral) : Option Binary64 := do
  let (n, whole) := significand 0 t.whole
  let (n, fraction) := significand n t.fraction
  let x ← Binary64.ofRatio? false n 1
  let y ← scale? x (whole.length + fraction.length - t.fraction.length + t.exponent)
  return { y with negative := t.negative }

/-- The value of a written number; magnitudes beyond the binary numbers have none. -/
def NumberText.value? (t : NumberText) : Option Number :=
  match if t.isInteger then integer? t.numeral else none with
  | some n => some (.integer n)
  | none => (float? t.numeral).map .float

end Json

end RequestScribe
