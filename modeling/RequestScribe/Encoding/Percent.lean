import RequestScribe.Text.Chars
import RequestScribe.Text.Utf8

/-!
# Percent-encoding

A byte outside the characters that stand for themselves is written as `%` and
two upper-case hexadecimal digits.
-/

namespace RequestScribe

namespace Percent

def escape (b : UInt8) : List Char :=
  ['%', Chars.upperHexDigit (b.toNat / 16), Chars.upperHexDigit (b.toNat % 16)]

/-- The letters, the digits and `-_.~` stand for themselves. -/
def isUnreserved (b : UInt8) : Bool :=
  let c := Char.ofNat b.toNat
  Chars.isAlphanumeric c || c == '-' || c == '_' || c == '.' || c == '~'

def encodeByte (b : UInt8) : List Char :=
  if isUnreserved b then [Char.ofNat b.toNat] else escape b

def encode (cs : List Char) : List Char :=
  (Utf8.encode cs).flatMap encodeByte

def hexValue? (b : UInt8) : Option Nat :=
  Chars.hexValue? (Char.ofNat b.toNat)

/-- Append the decoded form of some bytes to `done`, which is kept latest first. -/
def decodeOnto (done : List UInt8) : List UInt8 → List UInt8
  | [] => done.reverse
  | b :: rest =>
      match b, rest with
      | 0x25, high :: low :: tail =>
          match hexValue? high, hexValue? low with
          | some h, some l => decodeOnto (UInt8.ofNat (h * 16 + l) :: done) tail
          | _, _ => decodeOnto (0x25 :: done) (high :: low :: tail)
      | b, rest => decodeOnto (b :: done) rest

/-- The bytes that a percent-encoded text stands for; an escape that is not one stays. -/
def decode (bytes : List UInt8) : List UInt8 :=
  decodeOnto [] bytes

end Percent

end RequestScribe
