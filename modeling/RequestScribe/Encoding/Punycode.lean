/-!
# Punycode

Text beyond ASCII written with letters, digits and hyphens: first the ASCII
characters as they are, then, in order of their code points, how far it is from
each of the others to the next.
-/

namespace RequestScribe

namespace Punycode

/-- The digits are the letters and then the digits. -/
def digit (n : Nat) : Char :=
  if n < 26 then Char.ofNat ('a'.toNat + n) else Char.ofNat ('0'.toNat + (n - 26))

/-- The value of a digit; letters count in either case. -/
def digitValue? (c : Char) : Option Nat :=
  if 'a' ≤ c && c ≤ 'z' then some (c.toNat - 'a'.toNat)
  else if 'A' ≤ c && c ≤ 'Z' then some (c.toNat - 'A'.toNat)
  else if '0' ≤ c && c ≤ '9' then some (c.toNat - '0'.toNat + 26)
  else none

/-- The digits below this end a number at position `k`. -/
def threshold (bias k : Nat) : Nat :=
  max 1 (min 26 (k - bias))

/-- A number, least significant digit first, from position `k` on. -/
def number (bias k n : Nat) : List Char :=
  let t := threshold bias k
  if n < t then [digit n]
  else digit (t + (n - t) % (36 - t)) :: number bias (k + 36) ((n - t) / (36 - t))
termination_by n
decreasing_by
  have positive : 1 ≤ threshold bias k := Nat.le_max_left ..
  exact Nat.lt_of_le_of_lt (Nat.div_le_self ..) (by omega)

/-- How many times a distance is divided before it is small, and what is left of it. -/
def shrink (distance : Nat) : Nat × Nat :=
  if 455 < distance then
    let (times, rest) := shrink (distance / 35)
    (times + 1, rest)
  else (0, distance)
termination_by distance
decreasing_by omega

/-- The bias that suits distances like the one just written. -/
def adapt (distance written : Nat) (isFirst : Bool) : Nat :=
  let scaled := distance / if isFirst then 700 else 2
  let (times, rest) := shrink (scaled + scaled / written)
  36 * times + 36 * rest / (rest + 38)

/-- Writing under way; `output` is kept latest first. -/
structure Writing where
  output : List Char := []
  distance : Nat := 0
  bias : Nat := 72
  /-- How many characters have been written. -/
  written : Nat := 0
  isFirst : Bool := true
  deriving DecidableEq, Repr

def Writing.pass (m : Nat) (w : Writing) (c : Char) : Writing :=
  if c.toNat < m then { w with distance := w.distance + 1 }
  else if c.toNat = m then
    { output := (number w.bias 36 w.distance).reverse ++ w.output
      distance := 0
      bias := adapt w.distance (w.written + 1) w.isFirst
      written := w.written + 1
      isFirst := false }
  else w

/-- Write the code points of a list in turn; `least` is the first one not written yet. -/
def Writing.run (cs : List Char) (least : Nat) (w : Writing) : List Nat → Writing
  | [] => w
  | m :: rest =>
      let reached := { w with distance := w.distance + (m - least) * (w.written + 1) }
      let w := cs.foldl (Writing.pass m) reached
      Writing.run cs (m + 1) { w with distance := w.distance + 1 } rest

/-- Put a number into an ascending list, once only. -/
def insertAscending (n : Nat) : List Nat → List Nat
  | [] => [n]
  | m :: rest =>
      if n < m then n :: m :: rest
      else if n = m then m :: rest
      else m :: insertAscending n rest

def isAscii (c : Char) : Bool :=
  c.toNat < 0x80

def codePoints (cs : List Char) : List Nat :=
  (cs.filter fun c => !isAscii c).foldr (fun c ns => insertAscending c.toNat ns) []

def encode (cs : List Char) : List Char :=
  let plain := cs.filter isAscii
  let w := Writing.run cs 0x80 { written := plain.length } (codePoints cs)
  plain ++ (if plain.isEmpty then [] else ['-']) ++ w.output.reverse

/-- Reading under way: the text so far, and the number that is being read. -/
structure Reading where
  text : List Char
  /-- The code point of the latest character put in, and the place after it. -/
  code : Nat := 0x80
  place : Nat := 0
  bias : Nat := 72
  isFirst : Bool := true
  /-- The position of the next digit, what it counts, and the value of those before it. -/
  position : Nat := 36
  weight : Nat := 1
  distance : Nat := 0
  deriving DecidableEq, Repr

/-- Put in the character that a distance leads to. -/
def Reading.insert? (r : Reading) (distance : Nat) : Option Reading :=
  let places := r.text.length + 1
  let code := r.code + (r.place + distance) / places
  let place := (r.place + distance) % places
  if code.isValidChar then
    some
      { text := r.text.take place ++ Char.ofNat code :: r.text.drop place
        code := code
        place := place + 1
        bias := adapt distance places r.isFirst
        isFirst := false }
  else none

def Reading.step? (r : Reading) (c : Char) : Option Reading :=
  match digitValue? c with
  | none => none
  | some value =>
      let distance := r.distance + value * r.weight
      let t := threshold r.bias r.position
      if value < t then r.insert? distance
      else some
        { r with
          position := r.position + 36
          weight := r.weight * (36 - t)
          distance := distance }

def Reading.run? (r : Reading) : List Char → Option (List Char)
  | [] => if r.position = 36 then some r.text else none
  | c :: rest =>
      match r.step? c with
      | some next => next.run? rest
      | none => none

def decode? (cs : List Char) : Option (List Char) :=
  let digits := (cs.reverse.takeWhile (· != '-')).reverse
  let plain := cs.take (cs.length - digits.length - 1)
  if plain.isEmpty then Reading.run? { text := [] } cs
  else if plain.all isAscii then Reading.run? { text := plain } digits
  else none

end Punycode

end RequestScribe
