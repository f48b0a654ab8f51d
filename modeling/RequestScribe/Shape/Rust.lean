import RequestScribe.Code.Basic
import RequestScribe.Json.Printer
import RequestScribe.Name.Fresh
import RequestScribe.Shape.Basic
import RequestScribe.Text.WordCase

/-!
# Shapes as Rust types
-/

namespace RequestScribe

namespace Rust

def typeText : Shape → String
  | .any => "serde_json::Value"
  | .bool => "bool"
  | .integer => "i64"
  | .float => "f64"
  | .string => "String"
  | .list s => "Vec<" ++ typeText s ++ ">"
  | .unionList _ => "Vec<serde_json::Value>"
  | .ref name => name

/-- Words that are written as raw identifiers where they name a field. -/
def keywords : List String :=
  [ "as", "async", "await", "break", "const", "continue", "crate", "dyn", "else", "enum",
    "extern", "false", "fn", "for", "if", "impl", "in", "let", "loop", "match", "mod", "move",
    "mut", "pub", "ref", "return", "static", "struct", "trait", "true", "type", "unsafe", "use",
    "where", "while", "abstract", "become", "box", "do", "final", "macro", "override", "priv",
    "typeof", "unsized", "virtual", "yield", "try" ]

def pathKeywords : List String :=
  ["crate", "self", "super", "Self"]

def isNameCharacter (c : Char) : Bool :=
  Chars.isAlphanumeric c || c == '_'

def startsWithDigit (name : String) : Bool :=
  match name.toList with
  | [] => false
  | c :: _ => Chars.isDigit c

/-- The field name that a key asks for. -/
def wishedName (key : String) : String :=
  let name := String.ofList ((WordCase.snake key.toList).filter isNameCharacter)
  if name.isEmpty || startsWithDigit name || pathKeywords.contains name then "field_" ++ name
  else name

structure StructField where
  name : String
  /-- The key, where it differs from the name. -/
  rename? : Option String
  type : String
  deriving DecidableEq, Repr

/-- How a name is written: keywords as raw identifiers. -/
def identifier (name : String) : String :=
  if keywords.contains name then "r#" ++ name else name

def fieldType (f : Field) : String :=
  if f.optional then "Option<" ++ typeText f.shape ++ ">" else typeText f.shape

/-- The fields of a struct, each with a name that is not among `taken`. -/
def structFields (taken : List String) : List Field → List StructField
  | [] => []
  | f :: rest =>
      let wished := wishedName f.key
      let name := Fresh.name taken wished (Fresh.plain wished)
      ⟨identifier name, if name = f.key then none else some f.key, fieldType f⟩ ::
        structFields (name :: taken) rest

def renameLine (indent : String) : Option String → Code
  | some key => (indent ++ "#[serde(rename = ") ++ Code.quoted (Json.quoted key) ++ ")]\n"
  | none => Code.empty

def fieldLines (indent : String) (f : StructField) : Code :=
  renameLine indent f.rename? ++ (indent ++ "pub " ++ f.name ++ ": " ++ f.type ++ ",\n")

def declaration (indent : String) (d : Declaration) : Code :=
  ("#[derive(Debug, Clone, Serialize, Deserialize)]\npub struct " ++ d.name ++ " \x7b\n") ++
    Code.join ((structFields [] d.fields).map (fieldLines indent)) ++ "\x7d"

def typeAlias (name : String) (s : Shape) : Code :=
  "pub type " ++ name ++ " = " ++ typeText s ++ ";"

end Rust

end RequestScribe
