import RequestScribe.Decimal.Numeral

/-!
# Numeric host addresses

Reading and writing of the addresses that a host can be given by: four bytes,
with octal and hexadecimal numbers and shortened forms allowed, or eight groups
of sixteen bits.
-/

namespace RequestScribe

namespace Ipv4

/-- A part of an address: decimal, octal after a zero, or hexadecimal after `0x`. -/
def part? (cs : List Char) : Option Nat :=
  let hex (digits : List Char) : Option Nat :=
    digits.foldl (fun n? c => n?.bind fun n => (Chars.hexValue? c).map (n * 16 + ·)) (some 0)
  match cs with
  | [] => none
  | '0' :: 'x' :: digits => hex digits
  | '0' :: 'X' :: digits => hex digits
  | '0' :: c :: digits =>
      if (c :: digits).all (fun d => '0' ≤ d && d ≤ '7') then
        some ((c :: digits).foldl (fun n d => n * 8 + (d.toNat - '0'.toNat)) 0)
      else none
  | _ => if cs.all Chars.isDigit then some (Chars.natValue cs) else none

/-- The parts of a host; a point at the end closes the last part. -/
def parts (host : List Char) : List (List Char) :=
  let pieces := host.splitOn '.'
  if pieces.length > 1 && pieces.getLast? == some [] then pieces.dropLast else pieces

/-- Whether the last part of a host is a number, so that the host has to be an address. -/
def isNumeric (host : List Char) : Bool :=
  match (parts host).getLast? with
  | some last => (!last.isEmpty && last.all Chars.isDigit) || (part? last).isSome
  | none => false

/-- The address: every part but the last is one byte, and the last fills the rest. -/
def read? (host : List Char) : Option Nat :=
  let pieces := parts host
  if pieces.length > 4 then none
  else
    match pieces.mapM part? with
    | none => none
    | some numbers =>
        let leading := numbers.dropLast
        let last := numbers.getLastD 0
        if leading.any (· > 255) || last ≥ Nat.pow 256 (4 - leading.length) then none
        else
          some (leading.zipIdx.foldl (fun sum (n, i) => sum + n * Nat.pow 256 (3 - i)) last)

def text (address : Nat) : String :=
  ".".intercalate ([3, 2, 1, 0].map fun i => toString (address / Nat.pow 256 i % 256))

end Ipv4

namespace Ipv6

def group? (cs : List Char) : Option Nat :=
  if cs.isEmpty || cs.length > 4 then none
  else cs.foldl (fun n? c => n?.bind fun n => (Chars.hexValue? c).map (n * 16 + ·)) (some 0)

/-- A byte in decimal, without a superfluous zero. -/
def byte? (cs : List Char) : Option Nat :=
  if cs.isEmpty || cs.length > 3 || !cs.all Chars.isDigit then none
  else if cs.length > 1 && cs.head? == some '0' then none
  else
    let n := Chars.natValue cs
    if n < 256 then some n else none

/-- The last part of an address: a group, or four bytes that make two groups. -/
def lastGroups? (cs : List Char) : Option (List Nat) :=
  if cs.contains '.' then
    match (cs.splitOn '.').mapM byte? with
    | some [a, b, c, d] => some [a * 256 + b, c * 256 + d]
    | _ => none
  else (group? cs).map fun n => [n]

def groups? (cs : List Char) : Option (List Nat) :=
  let pieces := cs.splitOn ':'
  match pieces.dropLast.mapM group?, lastGroups? (pieces.getLastD []) with
  | some leading, some last => some (leading ++ last)
  | _, _ => none

/-- What stands before and after the first double colon; the first part holds only groups. -/
def cutAtGap : List Char → List Char → Option (List Char × List Char)
  | _, [] => none
  | before, ':' :: ':' :: after => some (before.reverse, after)
  | before, c :: rest => cutAtGap (c :: before) rest

/-- The groups on one side of a double colon; there may be none. -/
def side? (cs : List Char) : Option (List Nat) :=
  if cs.isEmpty then some [] else groups? cs

/-- Eight groups; a double colon stands for one or more groups of zeros. -/
def read? (cs : List Char) : Option (List Nat) :=
  match cutAtGap [] cs with
  | none => (groups? cs).filter fun groups => groups.length == 8
  | some (left, right) =>
      if left.contains '.' then none
      else
        match side? left, side? right with
        | some leading, some trailing =>
            let known := leading.length + trailing.length
            if known ≤ 7 then some (leading ++ List.replicate (8 - known) 0 ++ trailing) else none
        | _, _ => none

/-- The number of zeros at the start of a list. -/
def zerosAt (groups : List Nat) : Nat :=
  (groups.takeWhile (· == 0)).length

/-- Place and length of the first longest run of at least two zeros. -/
def longestZeros (groups : List Nat) : Nat × Nat :=
  (List.range groups.length).foldl
    (fun best i =>
      let length := zerosAt (groups.drop i)
      if best.2 < length && 2 ≤ length then (i, length) else best)
    (0, 0)

def groupTexts (groups : List Nat) : String :=
  ":".intercalate (groups.map fun n => String.ofList (Nat.toDigits 16 n))

/-- Groups in lower-case hexadecimal, the longest run of zeros as a double colon. -/
def text (groups : List Nat) : String :=
  let (start, length) := longestZeros groups
  if length = 0 then groupTexts groups
  else groupTexts (groups.take start) ++ "::" ++ groupTexts (groups.drop (start + length))

end Ipv6

end RequestScribe
