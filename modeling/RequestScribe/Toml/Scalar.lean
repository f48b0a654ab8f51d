import RequestScribe.Decimal.Numeral
import RequestScribe.Toml.Table

/-!
# TOML numbers, truth values, dates and times
-/

namespace RequestScribe

namespace Toml

namespace Scalar

/-- Digits, with single underscores allowed between them. -/
def grouped? (isDigit : Char → Bool) (cs : List Char) : Option (List Char) :=
  let groups := cs.splitOn '_'
  if groups.all fun group => !group.isEmpty && group.all isDigit then some groups.flatten
  else none

/-- Decimal digits without a superfluous zero in front. -/
def decimal? (cs : List Char) : Option (List Char) :=
  match grouped? Chars.isDigit cs with
  | some ('0' :: _ :: _) => none
  | digits? => digits?

def inBase (base : Nat) (digits : List Char) : Nat :=
  digits.foldl (fun n c => n * base + (Chars.hexValue? c).getD 0) 0

/-- An integer with the mark of its base. -/
def marked? (base : Nat) (cs : List Char) : Option Int :=
  let isDigit := fun c => ((Chars.hexValue? c).map (decide <| · < base)).getD false
  (grouped? isDigit cs).map fun digits => inBase base digits

def sign : List Char → Bool × List Char
  | '-' :: rest => (true, rest)
  | '+' :: rest => (false, rest)
  | cs => (false, cs)

/-- Integers of more than 128 bits are not read. -/
def bounded? (n : Int) : Option Int :=
  if -(Nat.pow 2 127 : Int) ≤ n ∧ n < (Nat.pow 2 128 : Int) then some n else none

def integer? (cs : List Char) : Option Int :=
  (match cs with
  | '0' :: 'x' :: digits => marked? 16 digits
  | '0' :: 'o' :: digits => marked? 8 digits
  | '0' :: 'b' :: digits => marked? 2 digits
  | _ =>
      let (negative, digits) := sign cs
      (decimal? digits).map fun digits =>
        if negative then -(Chars.natValue digits : Int) else Chars.natValue digits).bind
    bounded?

/-- The exponent of a number, with its letter. -/
def exponent? : List Char → Option Int
  | [] => some 0
  | c :: rest =>
      if c = 'e' ∨ c = 'E' then
        let (negative, digits) := sign rest
        (grouped? Chars.isDigit digits).map fun digits =>
          if negative then -(Chars.natValue digits : Int) else Chars.natValue digits
      else none

def fraction? : List Char → Option (List Char)
  | [] => some []
  | '.' :: digits => grouped? Chars.isDigit digits
  | _ => none

/-- A decimal with a point, an exponent or both, within the range of binary numbers. -/
def isDecimalFloat (cs : List Char) : Bool :=
  let (negative, body) := sign cs
  let (mantissa, power) := body.span fun c => !(c == 'e' || c == 'E')
  let (whole, point) := mantissa.span (· != '.')
  if point.isEmpty && power.isEmpty then false
  else
    match decimal? whole, fraction? point, exponent? power with
    | some whole, some fraction, some exponent =>
        match Numeral.toBinary { negative, whole, fraction, exponent } with
        | .finite _ => true
        | _ => false
    | _, _, _ => false

def isFloat (cs : List Char) : Bool :=
  let word := String.ofList (sign cs).2
  word == "inf" || word == "nan" || isDecimalFloat cs

def fixed? (width : Nat) (cs : List Char) : Option Nat :=
  if cs.length = width ∧ cs.all Chars.isDigit then some (Chars.natValue cs) else none

def isLeap (year : Nat) : Bool :=
  year % 4 == 0 && (year % 100 != 0 || year % 400 == 0)

def daysIn (year month : Nat) : Nat :=
  if month = 2 then (if isLeap year then 29 else 28)
  else if month = 4 ∨ month = 6 ∨ month = 9 ∨ month = 11 then 30
  else 31

def isDate (cs : List Char) : Bool :=
  match cs.splitOn '-' with
  | [year, month, day] =>
      match fixed? 4 year, fixed? 2 month, fixed? 2 day with
      | some year, some month, some day =>
          1 ≤ month && month ≤ 12 && 1 ≤ day && day ≤ daysIn year month
      | _, _, _ => false
  | _ => false

/-- Whether two digits are a number up to a bound. -/
def isUpTo (most : Nat) (cs : List Char) : Bool :=
  ((fixed? 2 cs).map (decide <| · ≤ most)).getD false

/-- Seconds and perhaps a fraction of them; a minute may have a leap second. -/
def isSeconds (cs : List Char) : Bool :=
  match cs.splitOn '.' with
  | [whole] => isUpTo 60 whole
  | [whole, fraction] => isUpTo 60 whole && !fraction.isEmpty && fraction.all Chars.isDigit
  | _ => false

def isTime (cs : List Char) : Bool :=
  match cs.splitOn ':' with
  | [hour, minute] => isUpTo 23 hour && isUpTo 59 minute
  | [hour, minute, second] => isUpTo 23 hour && isUpTo 59 minute && isSeconds second
  | _ => false

/-- What follows the time of a date: nothing, a `Z`, or a signed distance from it. -/
def isOffset : List Char → Bool
  | [] => true
  | [c] => c == 'Z' || c == 'z'
  | c :: distance =>
      match distance.splitOn ':' with
      | [hour, minute] => (c == '+' || c == '-') && isUpTo 23 hour && isUpTo 59 minute
      | _ => false

/-- A date, a time, or a date with a time. -/
def isMoment (cs : List Char) : Bool :=
  if isTime cs || isDate cs then true
  else
    let (date, rest) := cs.splitAt 10
    match rest with
    | separator :: time =>
        let (clock, offset) := time.span fun c => Chars.isDigit c || c == ':' || c == '.'
        (separator == 'T' || separator == 't' || separator == ' ') && isDate date &&
          isTime clock && isOffset offset
    | [] => false

/-- The value that a bare word writes. -/
def ofWord? (cs : List Char) : Option Value :=
  let word := String.ofList cs
  if word = "true" then some (.bool true)
  else if word = "false" then some (.bool false)
  else
    match integer? cs with
    | some n => some (.integer n)
    | none =>
        if isFloat cs then some (.float word)
        else if isMoment cs then some (.moment word)
        else none

def isWordCharacter (c : Char) : Bool :=
  Chars.isAlphanumeric c || c == '+' || c == '-' || c == '_' || c == '.' || c == ':'

/-- A bare word; a date and a time may stand apart. -/
def word (cs : List Char) : List Char × List Char :=
  let (first, rest) := cs.span isWordCharacter
  match rest with
  | ' ' :: c :: more =>
      if isDate first && Chars.isDigit c then
        let (second, rest) := (c :: more).span isWordCharacter
        (first ++ ' ' :: second, rest)
      else (first, rest)
  | _ => (first, rest)

end Scalar

end Toml

end RequestScribe
