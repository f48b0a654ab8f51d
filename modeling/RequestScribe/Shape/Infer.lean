import RequestScribe.Json.Value
import RequestScribe.Name.Fresh
import RequestScribe.Shape.Basic
import RequestScribe.Text.WordCase

/-!
# Inferring shapes from a sample

Scalars have their own shapes and null says nothing.  A list has the shapes of
its elements, and all objects in a list share the declaration of the first one.
An object is declared under the name of its place; a field is optional only if
its sample is null.
-/

namespace RequestScribe

namespace Shape

/-- The part of a name that a key contributes: its ASCII words in Pascal case. -/
def namePart (key : String) : String :=
  let spaced := key.toList.map fun c => if Chars.isAlphanumeric c then c else ' '
  let part := WordCase.pascal (Chars.trim spaced)
  if part.isEmpty then "Field" else String.ofList part

/-- A list shape with the given element shapes; integers and floats together are floats. -/
def ofVariants : List Shape → Shape
  | [] => .list .any
  | [s] => .list s
  | [.integer, .float] => .list .float
  | [.float, .integer] => .list .float
  | variants => .unionList variants

/-- Add an element shape unless it is there. -/
def addVariant (variants : List Shape) (s : Shape) : List Shape :=
  if variants.contains s then variants else variants ++ [s]

def isObject : Json.Value → Bool
  | .object _ => true
  | _ => false

/-- The names that declarations take, in front of those taken before. -/
def taking (declarations : List Declaration) (taken : List String) : List String :=
  declarations.map Declaration.name ++ taken

mutual

/--
The shape of a value that stands at a place called `name`, and the
declarations it needs, whose names are not among `taken`.
-/
def infer (taken : List String) (name : String) : Json.Value → Shape × List Declaration
  | .null => (.any, [])
  | .bool _ => (.bool, [])
  | .number (.integer _) => (.integer, [])
  | .number (.float _) => (.float, [])
  | .string _ => (.string, [])
  | .array items =>
      let (variants, declarations) := inferItems taken (name ++ "Item") none [] [] items
      (ofVariants variants, declarations)
  | .object fields =>
      let own := Fresh.name taken name (Fresh.plain name)
      let (fields, declarations) := inferFields (own :: taken) own [] [] fields
      (.ref own, ⟨own, fields⟩ :: declarations)

/--
The shapes of list elements, added to `variants`, and their declarations, added
to `declarations`.  `object?` is the shape of the first object.
-/
def inferItems (taken : List String) (name : String) (object? : Option Shape)
    (variants : List Shape) (declarations : List Declaration) :
    List Json.Value → List Shape × List Declaration
  | [] => (variants, declarations)
  | item :: rest =>
      match isObject item, object? with
      | true, some s => inferItems taken name object? (addVariant variants s) declarations rest
      | object, object? =>
          let (s, new) := infer taken name item
          inferItems (taking new taken) name (if object then some s else object?)
            (addVariant variants s) (declarations ++ new) rest

/--
The fields of the object declared as `own`, added to `done`, which is kept
latest first, and their declarations, added to `declarations`.
-/
def inferFields (taken : List String) (own : String) (done : List Field)
    (declarations : List Declaration) :
    List (String × Json.Value) → List Field × List Declaration
  | [] => (done.reverse, declarations)
  | (key, value) :: rest =>
      let (s, new) := infer taken (own ++ namePart key) value
      inferFields (taking new taken) own (⟨key, s, value == .null⟩ :: done)
        (declarations ++ new) rest

end

end Shape

/-- The types of a sample, with the root called `name`. -/
def TypeSet.ofSample (name : String) (value : Json.Value) : TypeSet :=
  let (root, declarations) := Shape.infer [] name value
  ⟨name, root, declarations⟩

end RequestScribe
