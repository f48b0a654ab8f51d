import RequestScribe.Decimal.Binary64

/-!
# Shortest decimals

The decimal with the fewest digits that rounds to a given binary number and,
among those, the one nearest to it.  For each number of digits the two
neighbours on that decimal grid are tested against the interval of reals that
round to the number.
-/

namespace RequestScribe

/-- The magnitude `significand * 10 ^ exponent`. -/
structure Decimal where
  significand : Nat
  exponent : Int
  deriving DecidableEq, Repr

/-- Where a number halfway between two decimals goes. -/
inductive Tie where
  | toEven
  | up
  deriving DecidableEq, Repr

namespace Decimal

/-- The number of decimal digits of `n`, at least one. -/
def digitCount (n : Nat) : Nat :=
  (Nat.toDigits 10 n).length

/-- The exponent of the greatest power of ten that is at most `num / den`. -/
def magnitude (num den : Nat) : Int :=
  if den ≤ num then ((digitCount (num / den) : Nat) : Int) - 1
  else
    let length := digitCount (den / num)
    if den ≤ num * Nat.pow 10 (length - 1) then 1 - (length : Int) else -(length : Int)

/-- Drop the zeros at the end of `n`, counting them into the exponent. -/
def stripZeros : Nat → Nat → Int → Decimal
  | 0, n, e => ⟨n, e⟩
  | fuel + 1, n, e => if n ≠ 0 ∧ n % 10 = 0 then stripZeros fuel (n / 10) (e + 1) else ⟨n, e⟩

/-- The magnitude in lowest terms: the significand does not end in a zero. -/
def normalize (d : Decimal) : Decimal :=
  stripZeros (digitCount d.significand) d.significand d.exponent

/--
The interval of magnitudes that round to a number, and the number itself, as
multiples of `2 ^ -1076`.
-/
structure Interval where
  low : Nat
  value : Nat
  high : Nat
  /-- Whether the two ends round to the number as well. -/
  closed : Bool
  deriving DecidableEq, Repr

def Interval.ofBinary (x : Binary64) : Interval :=
  let unit := Nat.pow 2 x.shift
  let below := if x.mantissa = Nat.pow 2 52 ∧ 0 < x.shift then 1 else 2
  ⟨(4 * x.mantissa - below) * unit, 4 * x.mantissa * unit, (4 * x.mantissa + 2) * unit,
    x.mantissa % 2 == 0⟩

def Interval.contains (i : Interval) (x : Nat) : Bool :=
  if i.closed then i.low ≤ x && x ≤ i.high else i.low < x && x < i.high

/-- The interval and its grid of multiples of `10 ^ exponent`, in a common unit. -/
def Interval.onGrid (i : Interval) (exponent : Int) : Interval × Nat :=
  let den := 4 * Binary64.one
  match exponent with
  | .ofNat p => (i, den * Nat.pow 10 p)
  | .negSucc p =>
      let factor := Nat.pow 10 (p + 1)
      (⟨i.low * factor, i.value * factor, i.high * factor, i.closed⟩, den)

/-- The multiple of `10 ^ exponent` nearest to the number, if it rounds to the number. -/
def onGrid? (tie : Tie) (i : Interval) (exponent : Int) : Option Decimal :=
  let (i, step) := i.onGrid exponent
  let below := i.value / step
  let above := below + 1
  let rest := i.value % step
  match i.contains (below * step), i.contains (above * step) with
  | true, false => some ⟨below, exponent⟩
  | false, true => some ⟨above, exponent⟩
  | false, false => none
  | true, true =>
      if 2 * rest < step then some ⟨below, exponent⟩
      else if step < 2 * rest then some ⟨above, exponent⟩
      else
        match tie with
        | .up => some ⟨above, exponent⟩
        | .toEven => some ⟨below + below % 2, exponent⟩

/-- Seventeen digits always suffice. -/
def maxDigits : Nat := 17

/-- The shortest decimal that rounds to the magnitude of `x`. -/
def shortest (tie : Tie) (x : Binary64) : Decimal :=
  if x.mantissa = 0 then ⟨0, 0⟩
  else
    let i := Interval.ofBinary x
    let top := magnitude i.value (4 * Binary64.one)
    match (List.range maxDigits).findSome? fun (k : Nat) => onGrid? tie i (top - k) with
    | some d => d.normalize
    | none => ⟨0, 0⟩

def digits (d : Decimal) : List Char :=
  Nat.toDigits 10 d.significand

/--
Positional notation, without a point for whole magnitudes: the digits, with
zeros between them and the point where needed.
-/
def positional (d : Decimal) : List Char × List Char :=
  let ds := d.digits
  match d.exponent with
  | .ofNat zeros => (ds ++ List.replicate zeros '0', [])
  | .negSucc e =>
      let places := e + 1
      if places < ds.length then (ds.take (ds.length - places), ds.drop (ds.length - places))
      else (['0'], List.replicate (places - ds.length) '0' ++ ds)

end Decimal

end RequestScribe
