/-!
# Binary floating-point numbers

Finite numbers of 53 significant bits, kept as exact integers, and rounding of
a quotient to the nearest of them.  Everything is integer arithmetic, so a
statement about a number is a statement about `mantissa` and `shift`.
-/

namespace RequestScribe

/--
The number `mantissa * 2 ^ shift / 2 ^ 1074`, negated if `negative`.  A mantissa
has at most 53 bits, and exactly 53 unless `shift` is zero; `shift` is at most
2045.
-/
structure Binary64 where
  negative : Bool
  mantissa : Nat
  shift : Nat
  deriving DecidableEq, Repr

namespace Binary64

/-- The exponent of the least positive number: all numbers are multiples of `2 ^ -1074`. -/
def scaleBits : Nat := 1074

/-- One, as a multiple of the least positive number. -/
def one : Nat := Nat.pow 2 scaleBits

def maxShift : Nat := 2045

def zero : Binary64 := ⟨false, 0, 0⟩

/-- The integer nearest to `num / den`; a half goes to the even neighbour. -/
def roundQuotient (num den : Nat) : Nat :=
  let q := num / den
  let r := num % den
  if 2 * r < den then q
  else if den < 2 * r then q + 1
  else q + q % 2

/-- A number, unless it is beyond the greatest one. -/
def inRange? (x : Binary64) : Option Binary64 :=
  if x.shift ≤ maxShift then some x else none

/-- The number nearest to `num / den`, unless that is beyond the greatest one. -/
def ofRatio? (negative : Bool) (num den : Nat) : Option Binary64 :=
  let scaled := num * one
  let shift := (scaled / den).log2 - 52
  let mantissa := roundQuotient scaled (den * Nat.pow 2 shift)
  if mantissa = Nat.pow 2 53 then inRange? ⟨negative, Nat.pow 2 52, shift + 1⟩
  else inRange? ⟨negative, mantissa, shift⟩

/-- The magnitude as a multiple of `2 ^ -1074`. -/
def scaled (x : Binary64) : Nat :=
  x.mantissa * Nat.pow 2 x.shift

def isWhole (x : Binary64) : Bool :=
  x.scaled % one == 0

def truncated (x : Binary64) : Nat :=
  x.scaled / one

/-- The integer nearest to the magnitude; a half goes up. -/
def rounded (x : Binary64) : Nat :=
  (2 * x.scaled + one) / (2 * one)

/-- The product with a natural number, rounded, unless it is too great. -/
def scaleBy? (x : Binary64) (n : Nat) : Option Binary64 :=
  ofRatio? x.negative (x.scaled * n) one

/-- The product of the magnitudes, rounded, unless it is too great. -/
def times? (x y : Binary64) : Option Binary64 :=
  ofRatio? false (x.scaled * y.scaled) (one * one)

/-- The quotient of the magnitudes, rounded, unless it is too great. -/
def over? (x y : Binary64) : Option Binary64 :=
  ofRatio? false x.scaled y.scaled

end Binary64

end RequestScribe
