import RequestScribe.Text.Basic

/-!
# String literals

How a text is written between quotes in a program.  Three families of rules
cover all target languages: escapes in the manner of C, escapes with braces
around code points, and single quotes in which almost nothing is special.
-/

namespace RequestScribe

namespace StringLiteral

/-- One character in a literal with C-style escapes and a given quote. -/
def escapeCharacter (quote c : Char) : List Char :=
  if c = '\\' then ['\\', '\\']
  else if c = '\n' then ['\\', 'n']
  else if c = '\r' then ['\\', 'r']
  else if c = '\t' then ['\\', 't']
  else if c = quote then ['\\', c]
  else if Chars.isControl c then '\\' :: 'u' :: Chars.lowerHex 4 c.toNat
  else [c]

/-- The inside of a literal with C-style escapes and a given quote. -/
def escape (quote : Char) (s : String) : String :=
  String.ofList (s.toList.flatMap (escapeCharacter quote))

def enclose (quote : Char) (inside : String) : String :=
  String.singleton quote ++ inside ++ String.singleton quote

def singleEscaped (s : String) : String :=
  enclose '\'' (escape '\'' s)

def doubleEscaped (s : String) : String :=
  enclose '"' (escape '"' s)

/-- One character between double quotes, with control characters as braced code points. -/
def bracedCharacter (c : Char) : List Char :=
  if c = '\\' then ['\\', '\\']
  else if c = '"' then ['\\', '"']
  else if c = '\n' then ['\\', 'n']
  else if c = '\r' then ['\\', 'r']
  else if c = '\t' then ['\\', 't']
  else if Chars.isControl c then
    '\\' :: 'u' :: '\x7b' :: Nat.toDigits 16 c.toNat ++ ['\x7d']
  else [c]

/-- Double quotes and braced code points. -/
def doubleBraced (s : String) : String :=
  enclose '"' (String.ofList (s.toList.flatMap bracedCharacter))

/-- One character between single quotes where only the backslash and the quote are special. -/
def plainCharacter (c : Char) : List Char :=
  if c = '\\' then ['\\', '\\'] else if c = '\'' then ['\\', '\''] else [c]

/-- Single quotes in which only the backslash and the quote are escaped. -/
def singlePlain (s : String) : String :=
  enclose '\'' (String.ofList (s.toList.flatMap plainCharacter))

end StringLiteral

end RequestScribe
