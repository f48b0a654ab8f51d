import RequestScribe.Code.Basic
import RequestScribe.Json.Printer
import RequestScribe.Shape.Basic

/-!
# Shapes as TypeScript types
-/

namespace RequestScribe

namespace TypeScript

/-- Whether a list of such elements is written with a type argument. -/
def isListShape : Shape → Bool
  | .list _ => true
  | .unionList _ => true
  | _ => false

mutual

def typeText : Shape → String
  | .any => "any"
  | .bool => "boolean"
  | .integer => "number"
  | .float => "number"
  | .string => "string"
  | .list s => if isListShape s then "Array<" ++ typeText s ++ ">" else typeText s ++ "[]"
  | .unionList variants =>
      match (typeTexts variants).eraseDups with
      | [only] => only ++ "[]"
      | names => "(" ++ " | ".intercalate names ++ ")[]"
  | .ref name => name

def typeTexts : List Shape → List String
  | [] => []
  | s :: rest => typeText s :: typeTexts rest

end

def isIdentifierStart (c : Char) : Bool :=
  Chars.isLetter c || c == '_' || c == '$'

def isIdentifierCharacter (c : Char) : Bool :=
  isIdentifierStart c || Chars.isDigit c

/-- Keys that can stand without quotes. -/
def isIdentifier (key : String) : Bool :=
  match key.toList with
  | [] => false
  | c :: rest => isIdentifierStart c && rest.all isIdentifierCharacter

def propertyName (key : String) : Code :=
  if isIdentifier key then Code.plain key else Code.quoted (Json.quoted key)

def fieldLine (indent : String) (f : Field) : Code :=
  indent ++ propertyName f.key ++ (if f.optional then "?" else "") ++ ": " ++
    typeText f.shape ++ ";\n"

def declaration (indent : String) (d : Declaration) : Code :=
  ("export interface " ++ d.name ++ " \x7b\n") ++
    Code.join (d.fields.map (fieldLine indent)) ++ "\x7d"

def typeAlias (name : String) (s : Shape) : Code :=
  "export type " ++ name ++ " = " ++ typeText s ++ ";"

end TypeScript

end RequestScribe
