import RequestScribe.Decimal.Binary64
import RequestScribe.Text.Chars

/-!
# Written numbers

A numeral is a decimal as it is written: a sign, digits before and after the
point, and an exponent.  It denotes the binary number nearest to it.
-/

namespace RequestScribe

/-- The natural number that a list of digits writes. -/
def Chars.natValue (digits : List Char) : Nat :=
  digits.foldl (fun n c => n * 10 + (c.toNat - '0'.toNat)) 0

/-- One or more digits, with at most one plus sign in front. -/
def Chars.readNat? (cs : List Char) : Option Nat :=
  let digits := match cs with
    | '+' :: rest => rest
    | _ => cs
  if !digits.isEmpty && digits.all Chars.isDigit then some (natValue digits) else none

/-- One or more digits, with at most one sign in front. -/
def Chars.readInt? (cs : List Char) : Option Int :=
  match cs with
  | '-' :: rest =>
      if !rest.isEmpty && rest.all Chars.isDigit then some (-(natValue rest : Int)) else none
  | _ => (readNat? cs).map Int.ofNat

structure Numeral where
  negative : Bool := false
  whole : List Char := []
  fraction : List Char := []
  exponent : Int := 0
  deriving DecidableEq, Repr

namespace Numeral

inductive Reading where
  | finite (x : Binary64)
  /-- The magnitude is beyond the greatest binary number. -/
  | tooGreat (negative : Bool)
  | notANumber
  deriving DecidableEq, Repr

/-- Magnitudes of at least `10 ^ 400` are too great, those below `10 ^ -400` round to zero. -/
def decisiveExponent : Int := 400

def toBinary (n : Numeral) : Reading :=
  let digits := (n.whole ++ n.fraction).dropWhile (· == '0')
  let exponent := n.exponent - n.fraction.length
  if digits.isEmpty then .finite ⟨n.negative, 0, 0⟩
  else if decisiveExponent < digits.length + exponent then .tooGreat n.negative
  else if digits.length + exponent < -decisiveExponent then .finite ⟨n.negative, 0, 0⟩
  else
    let value := Chars.natValue digits
    let rounded := match exponent with
      | .ofNat e => Binary64.ofRatio? n.negative (value * Nat.pow 10 e) 1
      | .negSucc e => Binary64.ofRatio? n.negative value (Nat.pow 10 (e + 1))
    match rounded with
    | some x => .finite x
    | none => .tooGreat n.negative

/-- The exponent after the letter `e`: one or more digits, with at most one sign. -/
def exponent? : List Char → Option Int
  | [] => some 0
  | c :: rest => if c = 'e' ∨ c = 'E' then Chars.readInt? rest else none

/-- Digits with at most one point among or around them, and perhaps an exponent. -/
def unsigned? (negative : Bool) (cs : List Char) : Option Numeral :=
  let (whole, rest) := cs.span Chars.isDigit
  let (fraction, rest) := match rest with
    | '.' :: after => after.span Chars.isDigit
    | _ => ([], rest)
  if whole.isEmpty && fraction.isEmpty then none
  else (exponent? rest).map fun exponent => { negative, whole, fraction, exponent }

/--
A number as text: a numeral, or `inf`, `infinity` or `nan` in any case; one sign
may stand in front.
-/
def read? (cs : List Char) : Option Reading :=
  let (negative, body) := match cs with
    | '-' :: rest => (true, rest)
    | '+' :: rest => (false, rest)
    | _ => (false, cs)
  let word := String.ofList (Chars.lower body)
  if word = "inf" ∨ word = "infinity" then some (.tooGreat negative)
  else if word = "nan" then some .notANumber
  else (unsigned? negative body).map toBinary

end Numeral

end RequestScribe
