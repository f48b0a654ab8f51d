/-!
# UTF-8

Text as bytes and back.  Decoding runs a machine that remembers which byte may
come next; a sequence that breaks off, or a byte that starts none, is one
undecodable place.
-/

namespace RequestScribe

namespace Utf8

def encode (cs : List Char) : List UInt8 :=
  cs.flatMap String.utf8EncodeChar

/-- Where the decoder stands between two bytes. -/
inductive State where
  | start
  /-- `missing` bytes are owed, the next of them from `low` to `high`. -/
  | within (missing low high value : Nat)
  deriving DecidableEq, Repr

/-- The state after the first byte of a character, or `none` if none starts with it. -/
def lead? (b : Nat) : Option State :=
  if 0xC2 ≤ b ∧ b ≤ 0xDF then some (.within 1 0x80 0xBF (b - 0xC0))
  else if b = 0xE0 then some (.within 2 0xA0 0xBF 0)
  else if b = 0xED then some (.within 2 0x80 0x9F 0xD)
  else if 0xE1 ≤ b ∧ b ≤ 0xEF then some (.within 2 0x80 0xBF (b - 0xE0))
  else if b = 0xF0 then some (.within 3 0x90 0xBF 0)
  else if 0xF1 ≤ b ∧ b ≤ 0xF3 then some (.within 3 0x80 0xBF (b - 0xF0))
  else if b = 0xF4 then some (.within 3 0x80 0x8F 4)
  else none

/-- The decoded characters so far, latest first; `none` marks an undecodable place. -/
structure Decoder where
  state : State := .start
  done : List (Option Char) := []
  deriving DecidableEq, Repr

def Decoder.begin (done : List (Option Char)) (b : Nat) : Decoder :=
  if h : b < 0x80 then
    { done := some (Char.ofNatAux b (Or.inl (by omega))) :: done }
  else
    match lead? b with
    | some state => { state, done }
    | none => { done := none :: done }

def Decoder.feed (d : Decoder) (byte : UInt8) : Decoder :=
  let b := byte.toNat
  match d.state with
  | .start => Decoder.begin d.done b
  | .within missing low high value =>
      if low ≤ b ∧ b ≤ high then
        let total := value * 64 + (b - 0x80)
        if missing = 1 then { done := some (Char.ofNat total) :: d.done }
        else { d with state := .within (missing - 1) 0x80 0xBF total }
      else Decoder.begin (none :: d.done) b

def Decoder.finish (d : Decoder) : List (Option Char) :=
  match d.state with
  | .start => d.done.reverse
  | .within .. => (none :: d.done).reverse

/-- The characters of a byte sequence, with `none` for each undecodable place. -/
def decode (bytes : List UInt8) : List (Option Char) :=
  (bytes.foldl Decoder.feed {}).finish

/-- Decode, with U+FFFD for each undecodable place. -/
def decodeLossy (bytes : List UInt8) : List Char :=
  (decode bytes).map (·.getD '\ufffd')

/-- Decode a byte sequence that is UTF-8 throughout. -/
def decode? (bytes : List UInt8) : Option (List Char) :=
  let characters := decode bytes
  if characters.all Option.isSome then some (characters.filterMap id) else none

end Utf8

end RequestScribe
