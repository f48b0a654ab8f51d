import RequestScribe.Code.Basic
import RequestScribe.Code.StringLiteral
import RequestScribe.Json.Printer

/-!
# JSON values as literals

A value is written over several lines in the notation of a target language.
What the notations differ in is one record per notation.
-/

namespace RequestScribe

/-- How a notation spells the parts of a JSON value. -/
structure LiteralStyle where
  null : String
  truthy : String
  falsy : String
  objectOpen : String
  objectClose : String
  arrayOpen : String
  arrayClose : String
  /-- What stands between a key and its value. -/
  keySeparator : String
  /-- What follows the last element of a container. -/
  lastElement : String
  string : String → String

namespace LiteralStyle

def javaScript : LiteralStyle :=
  ⟨"null", "true", "false", "\x7b", "\x7d", "[", "]", ": ", ",", StringLiteral.singleEscaped⟩

def python : LiteralStyle :=
  ⟨"None", "True", "False", "\x7b", "\x7d", "[", "]", ": ", ",", StringLiteral.doubleEscaped⟩

def ruby : LiteralStyle :=
  ⟨"nil", "true", "false", "\x7b", "\x7d", "[", "]", " => ", ",", StringLiteral.singlePlain⟩

def php : LiteralStyle :=
  ⟨"null", "true", "false", "[", "]", "[", "]", " => ", ",", StringLiteral.singlePlain⟩

/-- JSON with a comma after the last element, as literals have it. -/
def relaxedJson : LiteralStyle :=
  ⟨"null", "true", "false", "\x7b", "\x7d", "[", "]", ": ", ",", Json.quoted⟩

/-- JSON itself, which has no comma after the last element. -/
def json : LiteralStyle :=
  { relaxedJson with lastElement := "" }

def boolean (style : LiteralStyle) (b : Bool) : String :=
  if b then style.truthy else style.falsy

end LiteralStyle

namespace Literal

/-- The lines of a container between its two brackets. -/
def enclosed (opening closing lastElement unit : String) (level : Nat) (lines : List Code) :
    Code :=
  opening ++ "\n" ++ Code.intercalate ",\n" lines ++ (lastElement ++ "\n") ++
    (Text.times level unit ++ closing)

def entry (style : LiteralStyle) (indent key : String) (value : Code) : Code :=
  indent ++ Code.quoted (style.string key) ++ style.keySeparator ++ value

mutual

/--
A value in a given style.  The first line is not indented; lines inside are
indented by `level + 1` units.
-/
def code (style : LiteralStyle) (unit : String) (level : Nat) : Json.Value → Code
  | .null => style.null
  | .bool b => style.boolean b
  | .number n => n.text
  | .string s => Code.quoted (style.string s)
  | .array [] => style.arrayOpen ++ style.arrayClose
  | .object [] => style.objectOpen ++ style.objectClose
  | .array (item :: items) =>
      enclosed style.arrayOpen style.arrayClose style.lastElement unit level
        (itemLines style unit (level + 1)
          [Text.times (level + 1) unit ++ code style unit (level + 1) item] items)
  | .object ((key, value) :: fields) =>
      enclosed style.objectOpen style.objectClose style.lastElement unit level
        (fieldLines style unit (level + 1)
          [entry style (Text.times (level + 1) unit) key (code style unit (level + 1) value)]
          fields)

/-- Append the lines of list elements to `done`, which is kept latest first. -/
def itemLines (style : LiteralStyle) (unit : String) (level : Nat) (done : List Code) :
    List Json.Value → List Code
  | [] => done.reverse
  | item :: rest =>
      itemLines style unit level
        ((Text.times level unit ++ code style unit level item) :: done) rest

/-- Append the lines of object fields to `done`, which is kept latest first. -/
def fieldLines (style : LiteralStyle) (unit : String) (level : Nat) (done : List Code) :
    List (String × Json.Value) → List Code
  | [] => done.reverse
  | (key, value) :: rest =>
      fieldLines style unit level
        (entry style (Text.times level unit) key (code style unit level value) :: done) rest

end

end Literal

def Json.Value.pretty (unit : String) (v : Json.Value) : String :=
  (Literal.code .json unit 0 v).text

end RequestScribe
