import RequestScribe.Encoding.Percent

/-!
# Form encoding

Ordered name and value pairs as `name=value&name=value`, with `+` for a space
and every other special byte percent-encoded.
-/

namespace RequestScribe

namespace Form

/-- The letters, the digits and `*-._` stand for themselves. -/
def isPlain (b : UInt8) : Bool :=
  let c := Char.ofNat b.toNat
  Chars.isAlphanumeric c || c == '*' || c == '-' || c == '.' || c == '_'

def encodeByte (b : UInt8) : List Char :=
  if isPlain b then [Char.ofNat b.toNat]
  else if b = 0x20 then ['+']
  else Percent.escape b

def encodeText (cs : List Char) : List Char :=
  (Utf8.encode cs).flatMap encodeByte

def encodePair (pair : String × String) : List Char :=
  encodeText pair.1.toList ++ '=' :: encodeText pair.2.toList

def encode (pairs : List (String × String)) : String :=
  String.ofList (['&'].intercalate (pairs.map encodePair))

/-- The bytes that an encoded name or value stands for. -/
def decodeBytes (bytes : List UInt8) : List UInt8 :=
  Percent.decode (bytes.map fun b => if b = 0x2B then 0x20 else b)

def decodeText (bytes : List UInt8) : String :=
  String.ofList (Utf8.decodeLossy (decodeBytes bytes))

/-- One segment, cut at its first `=`. -/
def decodeSegment (segment : List UInt8) : String × String :=
  match segment.span (· != 0x3D) with
  | (name, []) => (decodeText name, "")
  | (name, _ :: value) => (decodeText name, decodeText value)

/-- The pairs of an encoded text, in order; empty segments hold none. -/
def decode (text : String) : List (String × String) :=
  (((Utf8.encode text.toList).splitOn 0x26).filter (fun segment => !segment.isEmpty)).map
    decodeSegment

end Form

end RequestScribe
