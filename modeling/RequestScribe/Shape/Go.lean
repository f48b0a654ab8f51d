import RequestScribe.Code.Basic
import RequestScribe.Name.Fresh
import RequestScribe.Shape.Basic
import RequestScribe.Text.WordCase

/-!
# Shapes as Go types
-/

namespace RequestScribe

namespace Go

def typeText : Shape → String
  | .any => "any"
  | .bool => "bool"
  | .integer => "int64"
  | .float => "float64"
  | .string => "string"
  | .list s => "[]" ++ typeText s
  | .unionList _ => "[]any"
  | .ref name => name

/-- Letters, digits and underscores of the ASCII range. -/
def isNameCharacter (c : Char) : Bool :=
  Chars.isAlphanumeric c || c == '_'

def startsWithDigit : List Char → Bool
  | [] => false
  | c :: _ => Chars.isDigit c

/-- The field name that a key asks for. -/
def wishedName (key : String) : String :=
  let name := (WordCase.pascal key.toList).filter isNameCharacter
  String.ofList (if name.isEmpty || startsWithDigit name then "Field".toList ++ name else name)

structure StructField where
  name : String
  type : String
  tag : String
  deriving DecidableEq, Repr

/-- A field whose sample was null points to its value. -/
def fieldType (f : Field) : String :=
  let type := typeText f.shape
  if f.optional && type != "any" then "*" ++ type else type

/-- The tag that ties a field to its key. -/
def fieldTag (f : Field) : String :=
  let tag := if f.optional then f.key ++ ",omitempty" else f.key
  "json:\"" ++ Text.replaceChar '"' "\\\"" tag ++ "\""

/-- The fields of a struct, each with a name that is not among `taken`. -/
def structFields (taken : List String) : List Field → List StructField
  | [] => []
  | f :: rest =>
      let wished := wishedName f.key
      let name := Fresh.name taken wished (Fresh.plain wished)
      ⟨name, fieldType f, fieldTag f⟩ :: structFields (name :: taken) rest

/-- The tag stands in a raw string. -/
def fieldLine (indent : String) (f : StructField) : Code :=
  (indent ++ f.name ++ " " ++ f.type ++ " ") ++ Code.quoted ("`" ++ f.tag ++ "`") ++ "\n"

def declaration (indent : String) (d : Declaration) : Code :=
  ("type " ++ d.name ++ " struct \x7b\n") ++
    Code.join ((structFields [] d.fields).map (fieldLine indent)) ++ "\x7d"

def typeAlias (name : String) (s : Shape) : Code :=
  "type " ++ name ++ " " ++ typeText s

end Go

end RequestScribe
