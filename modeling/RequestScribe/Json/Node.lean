import RequestScribe.Json.Reader

/-!
# Undecoded documents

A document read only as far as its structure goes.  Texts stay code units and
numbers stay unread until somebody asks for them, so that parts nobody asks for
may hold what has no value: lone surrogates, numbers out of range, nesting of
any depth.
-/

namespace RequestScribe

namespace Json

inductive Node where
  | null
  | bool (b : Bool)
  | number (written : NumberText)
  | string (units : List Nat)
  | array (items : List Node)
  | object (fields : List (List Nat × Node))
  deriving Repr

namespace Node

def builder : Builder Node where
  null := .null
  bool := .bool
  number t := some (.number t)
  string units := some (.string units)
  array := .array
  object fields := some (.object fields)

def read? (text : String) : Option Node :=
  Json.read? builder none text

def text? : Node → Option String
  | .string units => Json.text? units
  | _ => none

def list? {α : Type} (item? : Node → Option α) : Node → Option (List α)
  | .array items => items.mapM item?
  | _ => none

def nullable? {α : Type} (read? : Node → Option α) : Node → Option (Option α)
  | .null => some none
  | node => (read? node).map some

/-- What a record has under one name; a name may occur once only. -/
def field? (fields : List (String × Node)) (name : String) : Option (Option Node) :=
  match fields.filter fun field => field.1 == name with
  | [] => some none
  | [(_, node)] => some (some node)
  | _ => none

/--
The fields of a record by their names: of an object, whose other fields do not
matter, or of a list that gives the first few in order.
-/
def record? (names : List String) : Node → Option (List (Option Node))
  | .object fields =>
      (fields.mapM fun field => (Json.text? field.1).map fun key => (key, field.2)).bind
        fun fields => names.mapM (field? fields)
  | .array items =>
      if items.length ≤ names.length then
        some (items.map some ++ List.replicate (names.length - items.length) none)
      else none
  | _ => none

def required? {α : Type} (read? : Node → Option α) (field : Option Node) : Option α :=
  field.bind read?

/-- A field that has a value of its own where it is missing. -/
def defaulted? {α : Type} (default : α) (read? : Node → Option α) : Option Node → Option α
  | some node => read? node
  | none => some default

/-- A field that may be missing or null. -/
def optional? {α : Type} (read? : Node → Option α) (field : Option Node) : Option (Option α) :=
  defaulted? none (nullable? read?) field

end Node

end Json

end RequestScribe
