import RequestScribe.Ordered

/-!
# Tables of a TOML document

Tables are built up statement by statement.  Every table remembers what made
it, because that decides who may add to it later: a table is complete once its
own header has been left, and an inline table is complete from the start.
-/

namespace RequestScribe

namespace Toml

/-- What made a table. -/
inductive Origin where
  /-- A header of its own, or the beginning of the document. -/
  | header
  /-- A longer header. -/
  | implied
  /-- A dotted key. -/
  | dotted
  | inline
  deriving DecidableEq, Repr

inductive Value where
  | text (s : String)
  | integer (n : Int)
  /-- A floating-point number as it is written. -/
  | float (written : String)
  | bool (b : Bool)
  /-- A date, a time or both, as they are written. -/
  | moment (written : String)
  | array (items : List Value)
  /-- An array of tables, which headers make; latest first. -/
  | tables (items : List Value)
  | table (origin : Origin) (entries : List (String × Value))
  deriving Repr

abbrev Entries := List (String × Value)

/-- A dotted key, as the path to it and its last part, with its value. -/
structure Binding where
  path : List String
  key : String
  value : Value
  deriving Repr

structure Table where
  origin : Origin := .header
  entries : Entries := []
  deriving Repr

namespace Table

def find? (t : Table) (key : String) : Option Value :=
  Ordered.find? (· == ·) key t.entries

def set (t : Table) (key : String) (value : Value) : Table :=
  { t with entries := Ordered.set (· == ·) key value t.entries }

def toValue (t : Table) : Value :=
  .table t.origin t.entries

/-- Whether a dotted key may go through a table, or else a header. -/
def isOpen (t : Table) (dotted : Bool) : Bool :=
  t.origin != .inline && !(dotted && t.origin == .header)

/--
Change the table at the end of a path.  Missing tables on the way are made; of
an array of tables, the latest is meant.
-/
def change? (dotted : Bool) (f : Table → Option Table) : List String → Table → Option Table
  | [], t => f t
  | key :: rest, t =>
      match t.find? key with
      | none =>
          (change? dotted f rest ⟨if dotted then .dotted else .implied, []⟩).map fun inner =>
            t.set key inner.toValue
      | some (.table origin entries) =>
          if isOpen ⟨origin, entries⟩ dotted then
            (change? dotted f rest ⟨origin, entries⟩).map fun inner => t.set key inner.toValue
          else none
      | some (.tables (.table origin entries :: earlier)) =>
          (change? dotted f rest ⟨origin, entries⟩).map fun inner =>
            t.set key (.tables (inner.toValue :: earlier))
      | some _ => none

/-- Give a key of the table a value, once only. -/
def assign? (key : String) (value : Value) (t : Table) : Option Table :=
  if (t.find? key).isSome then none else some (t.set key value)

/-- Enter a binding: only a table that dotted keys made takes values through its path. -/
def bind? (b : Binding) (t : Table) : Option Table :=
  change? true
    (fun inner =>
      if (inner.origin == .dotted) == b.path.isEmpty then none else inner.assign? b.key b.value)
    b.path t

/-- The header of a table, which must not have been there yet. -/
def openTable? (key : String) (t : Table) : Option Table :=
  match t.find? key with
  | none => some (t.set key (.table .header []))
  | some (.table .implied entries) => some (t.set key (.table .header entries))
  | some _ => none

/-- The header of one more table in an array. -/
def openItem? (key : String) (t : Table) : Option Table :=
  match t.find? key with
  | none => some (t.set key (.tables [.table .header []]))
  | some (.tables items) => some (t.set key (.tables (.table .header [] :: items)))
  | some _ => none

end Table

end Toml

end RequestScribe
