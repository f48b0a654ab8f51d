import RequestScribe.Text.Chars

/-!
# Base64

The standard alphabet with padding.  A text is read only if it is the canonical
form of some bytes: the padding is there and the bits it leaves over are zero.
-/

namespace RequestScribe

namespace Base64

def value? (c : Char) : Option Nat :=
  if 'A' ≤ c ∧ c ≤ 'Z' then some (c.toNat - 'A'.toNat)
  else if 'a' ≤ c ∧ c ≤ 'z' then some (c.toNat - 'a'.toNat + 26)
  else if '0' ≤ c ∧ c ≤ '9' then some (c.toNat - '0'.toNat + 52)
  else if c = '+' then some 62
  else if c = '/' then some 63
  else none

def oneByte? (a b : Char) : Option (List UInt8) :=
  match value? a, value? b with
  | some a, some b => if b % 16 = 0 then some [UInt8.ofNat (a * 4 + b / 16)] else none
  | _, _ => none

def twoBytes? (a b c : Char) : Option (List UInt8) :=
  match value? a, value? b, value? c with
  | some a, some b, some c =>
      if c % 4 = 0 then
        some [UInt8.ofNat (a * 4 + b / 16), UInt8.ofNat (b % 16 * 16 + c / 4)]
      else none
  | _, _, _ => none

def threeBytes? (a b c d : Char) : Option (List UInt8) :=
  match value? a, value? b, value? c, value? d with
  | some a, some b, some c, some d =>
      some [UInt8.ofNat (a * 4 + b / 16), UInt8.ofNat (b % 16 * 16 + c / 4),
        UInt8.ofNat (c % 4 * 64 + d)]
  | _, _, _, _ => none

/-- Append the bytes of a text to `done`, which is kept latest first. -/
def decodeOnto? (done : List UInt8) : List Char → Option (List UInt8)
  | [] => some done.reverse
  | [a, b, '=', '='] => (oneByte? a b).map (done.reverse ++ ·)
  | [a, b, c, '='] => (twoBytes? a b c).map (done.reverse ++ ·)
  | a :: b :: c :: d :: rest =>
      match threeBytes? a b c d with
      | some bytes => decodeOnto? (bytes.reverse ++ done) rest
      | none => none
  | _ => none

def decode? (text : String) : Option (List UInt8) :=
  decodeOnto? [] text.toList

end Base64

end RequestScribe
